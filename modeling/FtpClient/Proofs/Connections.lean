import FtpClient.Proofs.Lines
import FtpClient.Proofs.Turns

/-
What is written on each control connection.

A line that is cut short is the last of its connection, as the client then gives the connection
up.  So nothing that is written later stands behind the beginning of a line: on each connection
the lines are those that were written whole, and what is behind the last of them is at most the
beginning of one more.
-/

namespace FtpClient

/-- What is put on the control connection that is held at first, and on each one that is
established later. -/
def dealt : List WireEvent → List UInt8 × List (List UInt8)
  | [] => ([], [])
  | .connected _ :: events => ([], (dealt events).1 :: (dealt events).2)
  | e :: events => (e.sentBytes ++ (dealt events).1, (dealt events).2)

/-- What is put on one control connection after the other. -/
def connections (events : List WireEvent) : List (List UInt8) :=
  (dealt events).1 :: (dealt events).2

theorem connections_connected (target : Endpoint) (events : List WireEvent) :
    connections (.connected target :: events) = [] :: connections events := rfl

/-- All that is put on connections is put on one of them. -/
theorem connections_flatten (events : List WireEvent) :
    (connections events).flatten = events.flatMap WireEvent.sentBytes := by
  induction events with
  | nil => rfl
  | cons e events ih =>
      cases e with
      | connected target => exact ih
      | _ => exact (List.append_assoc _ _ _).trans (congrArg (_ ++ ·) ih)

namespace Turn

/-- Nothing can be written until a connection is established. -/
def IsBarred (turn : Turn) : Prop :=
  turn = apart ∨ turn = severed

theorem IsBarred.step {turn next : Turn} (hturn : turn.IsBarred) {e : WireEvent}
    (he : ∀ target, e ≠ .connected target) (h : turn.step e = some next) :
    e.sentBytes = [] ∧ next.IsBarred := by
  rcases hturn with rfl | rfl
  · cases e with
    | connected target => exact absurd rfl (he target)
    | dataConnected | dataSent | dataClosed => exact ⟨rfl, Or.inl (Option.some.inj h).symm⟩
    | disconnected | sent | sentPart | received => cases h
  · cases e with
    | connected target => exact absurd rfl (he target)
    | dataConnected | dataSent | dataClosed => exact ⟨rfl, Or.inr (Option.some.inj h).symm⟩
    | disconnected => exact ⟨rfl, Or.inl (Option.some.inj h).symm⟩
    | sent | sentPart | received => cases h

theorem IsBarred.dealt {turn next : Turn} (hturn : turn.IsBarred) {events : List WireEvent}
    (h : turn.follow events = some next) : (dealt events).1 = [] := by
  induction events generalizing turn with
  | nil => rfl
  | cons e events ih =>
      rw [follow_cons, Option.bind_eq_some_iff] at h
      obtain ⟨mid, hstep, hfollow⟩ := h
      cases e with
      | connected target => rfl
      | _ =>
          obtain ⟨hnothing, hmid⟩ := hturn.step (by simp) hstep
          exact congrArg₂ (· ++ ·) hnothing (ih hmid hfollow)

end Turn

/-! ## The lines of a connection -/

/-- Events during which all that is written is commands without line feeds in their
arguments. -/
def Commanding (events : List WireEvent) : Prop :=
  ∀ e ∈ events, ∀ line, e.line? = some line → ∃ c : Command, c.IsLine ∧ line = c.octets

theorem Commanding.append {front back : List WireEvent} (h : Commanding front)
    (h' : Commanding back) : Commanding (front ++ back) :=
  List.forall_mem_append.2 ⟨h, h'⟩

theorem commanding_of_writes {events : List WireEvent} (h : writes events = []) :
    Commanding events := by
  intro e he line hline
  have hmem : e ∈ writes events := List.mem_filter.2 ⟨he, by rw [hline]; rfl⟩
  rw [h] at hmem
  cases hmem

theorem Session.Issues.commanding {commands : List Command} {events : List WireEvent}
    (h : Issues commands events) (hcommands : ∀ c ∈ commands, c.IsLine) : Commanding events := by
  intro e he line hline
  obtain ⟨c, hc, rfl⟩ := h.lines e he line hline
  exact ⟨c, hcommands c hc, rfl⟩

/-- What may stand behind the last line feed: nothing, or the beginning of a line that was cut
short. -/
def IsBegun (events : List WireEvent) (tail : List UInt8) : Prop :=
  tail = [] ∨ ∃ line count, .sentPart line count ∈ events ∧ tail = line.dropLast.take count

theorem IsBegun.cons {events : List WireEvent} {tail : List UInt8} (h : IsBegun events tail)
    (e : WireEvent) : IsBegun (e :: events) tail := by
  rcases h with rfl | ⟨line, count, hmem, rfl⟩
  · exact Or.inl rfl
  · exact Or.inr ⟨line, count, List.mem_cons_of_mem _ hmem, rfl⟩

theorem splitLines_cons {line : List UInt8} (hline : lineFeed ∉ line) (rest : List UInt8) :
    splitLines (line ++ lineFeed :: rest) =
      (line :: (splitLines rest).1, (splitLines rest).2) := by
  have hcut := cut_splitLines rest
  refine Cut.eq_splitLines ⟨?_, List.forall_mem_cons.2 ⟨hline, hcut.lineFeed_lines⟩,
    hcut.lineFeed_tail⟩
  rw [joinLines_cons, List.append_assoc, List.cons_append, ← hcut.eq]

theorem splitLines_tail {tail : List UInt8} (htail : lineFeed ∉ tail) :
    splitLines tail = ([], tail) :=
  Cut.eq_splitLines ⟨rfl, List.forall_mem_nil _, htail⟩

theorem Command.octets_eq_ended (c : Command) : c.octets = c.ended ++ [lineFeed] := by
  rw [octets_eq]
  rfl

theorem Command.dropLast_octets (c : Command) : c.octets.dropLast = c.ended := by
  rw [octets_eq_ended, List.dropLast_concat]

/-- On each connection the lines are those that were written whole, and what is behind the last
of them is the beginning of one that was cut short. -/
theorem lines_of_follow {turn next : Turn} {events : List WireEvent}
    (h : turn.follow events = some next) (hcommands : Commanding events) :
    (connections events).flatMap (fun bytes => (splitLines bytes).1) =
        (sends events).map List.dropLast ∧
      ∀ bytes ∈ connections events, IsBegun events (splitLines bytes).2 := by
  induction events generalizing turn with
  | nil => exact ⟨rfl, fun bytes hmem => Or.inl (by rw [List.mem_singleton.1 hmem]; rfl)⟩
  | cons e events ih =>
      rw [Turn.follow_cons, Option.bind_eq_some_iff] at h
      obtain ⟨mid, hstep, hfollow⟩ := h
      obtain ⟨hfirst, hrest⟩ := List.forall_mem_cons.1 hcommands
      obtain ⟨hlines, htails⟩ := ih hfollow hrest
      have hlater (bytes : List UInt8) (hmem : bytes ∈ (dealt events).2) :
          IsBegun (e :: events) (splitLines bytes).2 :=
        (htails bytes (List.mem_cons_of_mem _ hmem)).cons e
      have hheld : IsBegun (e :: events) (splitLines (dealt events).1).2 :=
        (htails _ List.mem_cons_self).cons e
      cases e with
      | connected target =>
          rw [connections_connected]
          refine ⟨hlines, List.forall_mem_cons.2 ⟨Or.inl rfl, ?_⟩⟩
          exact List.forall_mem_cons.2 ⟨hheld, hlater⟩
      | sent bytes =>
          obtain ⟨c, hc, rfl⟩ := hfirst bytes rfl
          have hsplit : splitLines (c.octets ++ (dealt events).1) =
              (c.ended :: (splitLines (dealt events).1).1, (splitLines (dealt events).1).2) := by
            rw [c.octets_eq_ended, List.append_assoc]
            exact splitLines_cons (c.lineFeed_notMem_octets hc) _
          refine ⟨?_, List.forall_mem_cons.2 ⟨?_, hlater⟩⟩
          · show (splitLines (c.octets ++ (dealt events).1)).1 ++ _ =
              c.octets.dropLast :: (sends events).map List.dropLast
            rw [hsplit, c.dropLast_octets, ← hlines]
            rfl
          · show IsBegun _ (splitLines (c.octets ++ (dealt events).1)).2
            rw [hsplit]
            exact hheld
      | sentPart bytes count =>
          obtain ⟨c, hc, rfl⟩ := hfirst bytes rfl
          obtain ⟨rfl, -⟩ := Turn.step_line (e := .sentPart c.octets count) rfl hstep
          -- Nothing comes behind the part of a line.
          have hnothing : (dealt events).1 = [] := by
            have hsevered : mid = .severed := (Option.some.inj hstep).symm
            exact Turn.IsBarred.dealt (Or.inr hsevered) hfollow
          have htail : lineFeed ∉ c.octets.dropLast.take count := by
            rw [c.dropLast_octets]
            exact fun hmem => c.lineFeed_notMem_octets hc (List.mem_of_mem_take hmem)
          have hsplit : splitLines (c.octets.dropLast.take count ++ (dealt events).1) =
              ([], c.octets.dropLast.take count) := by
            rw [hnothing, List.append_nil]
            exact splitLines_tail htail
          refine ⟨?_, List.forall_mem_cons.2 ⟨?_, hlater⟩⟩
          · show (splitLines (c.octets.dropLast.take count ++ (dealt events).1)).1 ++ _ = _
            rw [hsplit]
            rw [connections, List.flatMap_cons, hnothing] at hlines
            exact hlines
          · show IsBegun _ (splitLines (c.octets.dropLast.take count ++ (dealt events).1)).2
            rw [hsplit]
            exact Or.inr ⟨c.octets, count, List.mem_cons_self, rfl⟩
      | received | disconnected | dataConnected | dataSent | dataClosed =>
          exact ⟨hlines, List.forall_mem_cons.2 ⟨hheld, hlater⟩⟩

/-- Where no line is cut short, the lines of all connections are the lines of all octets. -/
theorem splitLines_of_whole {events : List WireEvent} (hcommands : Commanding events)
    (hwhole : ∀ line count, .sentPart line count ∉ events) :
    splitLines (events.flatMap WireEvent.sentBytes) = ((sends events).map List.dropLast, []) := by
  induction events with
  | nil => rfl
  | cons e events ih =>
      obtain ⟨hfirst, hrest⟩ := List.forall_mem_cons.1 hcommands
      have hlater := ih hrest fun line count hmem => hwhole line count (List.mem_cons_of_mem _ hmem)
      cases e with
      | sent bytes =>
          obtain ⟨c, hc, rfl⟩ := hfirst bytes rfl
          show splitLines (c.octets ++ events.flatMap WireEvent.sentBytes) =
            (c.octets.dropLast :: (sends events).map List.dropLast, [])
          rw [c.dropLast_octets, c.octets_eq_ended, List.append_assoc]
          have hsplit := splitLines_cons (c.lineFeed_notMem_octets hc)
            (events.flatMap WireEvent.sentBytes)
          rw [hlater] at hsplit
          exact hsplit
      | sentPart line count => exact absurd List.mem_cons_self (hwhole line count)
      | _ => exact hlater

end FtpClient
