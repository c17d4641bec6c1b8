import FtpClient.Proofs.Ways

/-
The grammar of the talk on control connections.

On each connection client and server take turns: the greeting is read, and then each
command is written once nothing is owed and waits for its reply, of which there is one
more if a payload is to be moved.  `Turn.step` is this grammar as an automaton, and
`moves_turns` says that it accepts everything that happens in a run, and where in a call
the commands stand that may not be written at will.
-/

namespace FtpClient

/-! ## The grammar -/

/-- Where the talk on the control connection stands. -/
inductive Turn where
  /-- There is no control connection. -/
  | apart
  /-- The greeting has not been read. -/
  | greeting
  /-- No reply is owed. -/
  | idle
  /-- A line was written, and the reply to it has not been read. -/
  | asked (line : List UInt8)
  /-- A payload is being moved, and the reply that follows it has not been read. -/
  | promised
  /-- The goodbye of the client was answered. -/
  | finished
  /-- The connection failed before all of a line was written. -/
  | severed
deriving DecidableEq

namespace Turn

/-- Whose turn it is after the reply to a line. -/
def after (line : List UInt8) (reply : Reply) : Turn :=
  if Command.transfers line ∧ reply.code < 200 then promised
  else if Command.verbOf line = Utf8.encode Command.quit.verb then finished
  else idle

/-- What may happen next.  Data connections have no part in it. -/
def step : Turn → WireEvent → Option Turn
  | apart, .connected _ => some greeting
  | greeting, .received _ => some idle
  | idle, .sent bytes => some (asked bytes)
  | idle, .sentPart _ _ => some severed
  | asked line, .received reply => some (after line reply)
  | promised, .received _ => some idle
  | turn, .disconnected => if turn = apart then none else some apart
  | turn, .dataConnected _ | turn, .dataSent _ | turn, .dataClosed => some turn
  | _, _ => none

/-- The turn after events that keep to the grammar. -/
def follow (turn : Turn) (events : List WireEvent) : Option Turn :=
  events.foldlM step turn

@[simp] theorem follow_nil (turn : Turn) : turn.follow [] = some turn := rfl

@[simp] theorem follow_cons (turn : Turn) (e : WireEvent) (events : List WireEvent) :
    turn.follow (e :: events) = (turn.step e).bind fun next => next.follow events := rfl

theorem follow_append (turn : Turn) (events events' : List WireEvent) :
    turn.follow (events ++ events') =
      (turn.follow events).bind fun next => next.follow events' :=
  List.foldlM_append

theorem follow_disconnected {turn : Turn} (h : turn ≠ apart) :
    turn.follow [.disconnected] = some apart := by
  cases turn <;> first | rfl | exact absurd rfl h

@[simp] theorem follow_dataSent (turn : Turn) (sent : List (List UInt8)) :
    turn.follow (sent.map .dataSent) = some turn := by
  induction sent with
  | nil => rfl
  | cons bytes sent ih =>
      have hstep : turn.step (.dataSent bytes) = some turn := by cases turn <;> rfl
      rw [List.map_cons, follow_cons, hstep]
      exact ih

theorem follow_dataClosed (turn : Turn) : turn.follow [.dataClosed] = some turn := by
  cases turn <;> rfl

theorem follow_trials (tried : List Endpoint) :
    apart.follow (Session.trials tried) = some apart := by
  induction tried with
  | nil => rfl
  | cons target tried ih => exact ih

theorem after_ne_apart (line : List UInt8) (reply : Reply) : after line reply ≠ apart := by
  unfold after
  split
  · simp
  · split <;> simp

theorem verbOf_ne_quit {c : Command} (h : c ≠ .quit) :
    Command.verbOf c.octets ≠ Utf8.encode Command.quit.verb := by
  rw [Ne, Command.verbOf_eq_encode Command.quit.verb_mem]
  cases c with
  | quit => exact absurd rfl h
  | _ => simp [Command.verb]

theorem after_promised {c : Command} {reply : Reply} (hc : Command.transfers c.octets)
    (hreply : reply.isPreliminary) : after c.octets reply = promised := by
  have hcode : reply.code < 200 := by simpa [Reply.isPreliminary] using hreply
  rw [after, if_pos ⟨hc, hcode⟩]

theorem after_idle {c : Command} {reply : Reply} (hc : c ≠ .quit)
    (hreply : Command.transfers c.octets → reply.isPreliminary = false) :
    after c.octets reply = idle := by
  have hfinal : ¬ (Command.transfers c.octets ∧ reply.code < 200) := by
    intro hboth
    have := hreply hboth.1
    simp [Reply.isPreliminary] at this
    omega
  rw [after, if_neg hfinal, if_neg (verbOf_ne_quit hc)]

theorem after_farewell {line : List UInt8} (hline : Command.verbOf line = Utf8.encode "QUIT")
    (reply : Reply) : after line reply = finished := by
  have hquiet : Command.transfers line = false := by
    rw [Command.transfers, hline]
    decide
  have hfinal : ¬ (Command.transfers line ∧ reply.code < 200) := by simp [hquiet]
  rw [after, if_neg hfinal]
  exact if_pos hline

theorem follow_answered (line : List UInt8) (reply : Reply) (events : List WireEvent) :
    idle.follow ([.sent line, .received reply] ++ events) = (after line reply).follow events :=
  rfl

theorem follow_moved (line : List UInt8) (first : Reply) (sent : List (List UInt8))
    (events : List WireEvent) :
    idle.follow ([.sent line, .received first] ++ sent.map .dataSent ++ events) =
      (after line first).follow events := by
  rw [List.append_assoc, follow_answered, follow_append, follow_dataSent]
  rfl

/-- Where the talk stands once the client has said goodbye in `line`, or could not. -/
def IsParting (line : List UInt8) (turn : Turn) : Prop :=
  turn = asked line ∨ turn = finished ∨ turn = severed

theorem step_farewell {line : List UInt8} (hline : Command.verbOf line = Utf8.encode "QUIT")
    {turn next : Turn} {e : WireEvent} (hturn : IsParting line turn) (he : e ≠ .disconnected)
    (h : turn.step e = some next) : IsParting line next := by
  rcases hturn with rfl | rfl | rfl
  · cases e with
    | received reply =>
        rw [← Option.some.inj h]
        exact Or.inr (Or.inl (after_farewell hline reply))
    | disconnected => exact absurd rfl he
    | dataConnected | dataSent | dataClosed => exact Or.inl (Option.some.inj h).symm
    | connected | sent | sentPart => cases h
  · cases e with
    | disconnected => exact absurd rfl he
    | dataConnected | dataSent | dataClosed => exact Or.inr (Or.inl (Option.some.inj h).symm)
    | connected | sent | sentPart | received => cases h
  · cases e with
    | disconnected => exact absurd rfl he
    | dataConnected | dataSent | dataClosed => exact Or.inr (Or.inr (Option.some.inj h).symm)
    | connected | sent | sentPart | received => cases h

/-- Once the client has said goodbye, only the reply to that can come on the connection. -/
theorem follow_farewell {line : List UInt8} (hline : Command.verbOf line = Utf8.encode "QUIT")
    {turn next : Turn} {events : List WireEvent} (hturn : IsParting line turn)
    (h : turn.follow events = some next) (hheld : .disconnected ∉ events) :
    IsParting line next := by
  induction events generalizing turn with
  | nil =>
      obtain rfl : turn = next := Option.some.inj h
      exact hturn
  | cons e events ih =>
      rw [follow_cons, Option.bind_eq_some_iff] at h
      obtain ⟨mid, hstep, hfollow⟩ := h
      rw [List.mem_cons, not_or] at hheld
      exact ih (step_farewell hline hturn (Ne.symm hheld.1) hstep) hfollow hheld.2

/-- Only where nothing is owed is a line begun. -/
theorem step_line {turn next : Turn} {e : WireEvent} {line : List UInt8}
    (he : e.line? = some line) (h : turn.step e = some next) :
    turn = idle ∧ (next = asked line ∨ next = severed) := by
  cases e with
  | sent bytes =>
      obtain rfl := Option.some.inj he
      cases turn with
      | idle => exact ⟨rfl, Or.inl (Option.some.inj h).symm⟩
      | _ => cases h
  | sentPart bytes count =>
      cases turn with
      | idle => exact ⟨rfl, Or.inr (Option.some.inj h).symm⟩
      | _ => cases h
  | _ => cases he

/-- Between a goodbye and the next line the connection is given up. -/
theorem disconnected_of_farewell {turn next : Turn} {e e' : WireEvent} {line bytes : List UInt8}
    {before between rest : List WireEvent}
    (h : turn.follow (before ++ e :: between ++ e' :: rest) = some next)
    (he : e.line? = some line) (he' : e'.line? = some bytes)
    (hline : Command.verbOf line = Utf8.encode "QUIT") : .disconnected ∈ between := by
  rw [follow_append, follow_append, Option.bind_eq_some_iff] at h
  obtain ⟨last, hfirst, hrest⟩ := h
  obtain ⟨start, -, hfarewell⟩ := Option.bind_eq_some_iff.1 hfirst
  rw [follow_cons, Option.bind_eq_some_iff] at hfarewell hrest
  obtain ⟨said, hsaid, hbetween⟩ := hfarewell
  obtain ⟨again, hagain, -⟩ := hrest
  by_contra hheld
  have hparting : IsParting line said := by
    rcases (step_line he hsaid).2 with hasked | hsevered
    · exact Or.inl hasked
    · exact Or.inr (Or.inr hsevered)
  obtain ⟨rfl, -⟩ := step_line he' hagain
  rcases follow_farewell hline hparting hbetween hheld with hidle | hidle | hidle
  · cases hidle
  · cases hidle
  · cases hidle

theorem step_ne_apart {turn next : Turn} {e : WireEvent} (hturn : turn ≠ apart)
    (he : e ≠ .disconnected) (h : turn.step e = some next) : next ≠ apart := by
  cases e with
  | disconnected => exact absurd rfl he
  | dataConnected | dataSent | dataClosed =>
      rw [← Option.some.inj (show some turn = some next by cases turn <;> exact h)]
      exact hturn
  | received reply =>
      cases turn with
      | asked line =>
          rw [← Option.some.inj h]
          exact after_ne_apart line reply
      | greeting | promised =>
          rw [← Option.some.inj h]
          simp
      | _ => cases h
  | sent | sentPart =>
      cases turn with
      | idle =>
          rw [← Option.some.inj h]
          simp
      | _ => cases h
  | connected target =>
      cases turn with
      | apart => exact absurd rfl hturn
      | _ => cases h

theorem follow_held {turn next : Turn} {events : List WireEvent} (hturn : turn ≠ apart)
    (h : turn.follow events = some next) (hheld : .disconnected ∉ events) : next ≠ apart := by
  induction events generalizing turn with
  | nil =>
      rw [← Option.some.inj h]
      exact hturn
  | cons e events ih =>
      rw [follow_cons, Option.bind_eq_some_iff] at h
      obtain ⟨mid, hstep, hfollow⟩ := h
      rw [List.mem_cons, not_or] at hheld
      exact ih (step_ne_apart hturn (Ne.symm hheld.1) hstep) hfollow hheld.2

/-- A control connection is given up before the next one is established. -/
theorem disconnected_of_connected {turn next : Turn} {target target' : Endpoint}
    {before between rest : List WireEvent}
    (h : turn.follow (before ++ .connected target :: between ++ .connected target' :: rest) =
      some next) : .disconnected ∈ between := by
  rw [follow_append, follow_append, Option.bind_eq_some_iff] at h
  obtain ⟨last, hfirst, hrest⟩ := h
  obtain ⟨start, -, hheld⟩ := Option.bind_eq_some_iff.1 hfirst
  by_contra hnever
  have hlast : last ≠ apart := by
    cases start with
    | apart =>
        have hgreeted : greeting.follow between = some last := hheld
        exact follow_held (by simp) hgreeted hnever
    | _ => cases hheld
  cases last with
  | apart => exact hlast rfl
  | _ => cases hrest

end Turn

/-! ## The courses in the grammar -/

namespace Session

open Turn

/-- Events that keep to the grammar where no reply is owed.  After a last reply none is owed
again. -/
def Keeping (events : List WireEvent) (last? : Option Reply) : Prop :=
  ∃ turn, idle.follow events = some turn ∧ turn ≠ apart ∧ (last?.isSome → turn = idle)

variable {c : Command} {tell : DataLink → List Notice} {d? : Option DataLink}
  {events : List WireEvent} {notices : List Notice} {last? : Option Reply}

theorem Said.keeping (hc : c ≠ .quit) (h : Said c events notices last?)
    (hfinal : ∀ reply, last? = some reply → Command.transfers c.octets →
      reply.isPreliminary = false) : Keeping events last? := by
  cases h with
  | unsent => exact ⟨idle, rfl, by simp, fun _ => rfl⟩
  | cut count => exact ⟨severed, rfl, by simp, fun h => nomatch h⟩
  | unanswered => exact ⟨asked c.octets, rfl, by simp, fun h => nomatch h⟩
  | answered reply =>
      have hidle := after_idle hc (hfinal reply rfl)
      exact ⟨after c.octets reply, rfl, after_ne_apart _ _, fun _ => hidle⟩

theorem not_preliminary_of_negative {reply : Reply} (h : reply.isNegative) :
    reply.isPreliminary = false := by
  simp [Reply.isNegative] at h
  simp [Reply.isPreliminary]
  omega

theorem ne_quit_of_transfers (hc : Command.transfers c.octets) : c ≠ .quit := by
  rintro rfl
  rw [Command.transfers_octets] at hc
  cases hc

theorem Exchanged.keeping (hc : Command.transfers c.octets)
    (h : Exchanged c tell d? events notices last?) : Keeping events last? := by
  have hquit := ne_quit_of_transfers hc
  cases h with
  | declined hsaid hnegative =>
      obtain ⟨turn, hfollow, hturn, hidle⟩ := hsaid.keeping hquit fun reply hreply _ =>
        not_preliminary_of_negative (hnegative reply hreply)
      refine ⟨turn, ?_, hturn, hidle⟩
      rw [follow_append, hfollow]
      exact follow_dataClosed turn
  | @broken first d sent hpositive =>
      refine ⟨after c.octets first, ?_, after_ne_apart _ _, fun h => nomatch h⟩
      rw [follow_moved]
      exact follow_dataClosed _
  | @answered first d sent hpositive hfinal =>
      refine ⟨idle, ?_, by simp, fun _ => rfl⟩
      rw [follow_moved, after_idle hquit fun _ => hfinal]
      exact follow_dataClosed _
  | @finished first d sent last hpositive hpreliminary =>
      refine ⟨idle, ?_, by simp, fun _ => rfl⟩
      rw [follow_moved, after_promised hc hpreliminary]
      rfl

theorem epsv_idle (reply : Reply) : after Command.epsv.octets reply = idle := by
  have hquiet : Command.transfers Command.epsv.octets = false := Command.transfers_octets _
  refine after_idle (by simp) fun h => ?_
  rw [hquiet] at h
  cases h

theorem Course.keeping (hc : Command.transfers c.octets)
    (h : Course c tell d? events notices last?) : Keeping events last? := by
  cases h with
  | unopened hsaid hnegative =>
      exact hsaid.keeping (by simp) fun reply hreply _ =>
        not_preliminary_of_negative (hnegative reply hreply)
  | @unconnected reply tried htried =>
      refine ⟨idle, ?_, by simp, fun h => nomatch h⟩
      rw [follow_answered, epsv_idle]
      rcases htried with rfl | ⟨target, rfl⟩
      · rfl
      · rfl
  | @opened reply target d? events notices last? hannounces hexchanged =>
      obtain ⟨turn, hfollow, hturn, hidle⟩ := hexchanged.keeping hc
      refine ⟨turn, ?_, hturn, hidle⟩
      show idle.follow ([.sent Command.epsv.octets, .received reply] ++
        (.dataConnected target :: events)) = some turn
      rw [follow_answered, epsv_idle]
      exact hfollow

theorem SignsIn.keeping {user password : String}
    (h : SignsIn user password events notices last?) : Keeping events last? := by
  have huser : Command.transfers (Command.user user).octets = false := Command.transfers_octets _
  have hpass : Command.transfers (Command.pass password).octets = false :=
    Command.transfers_octets _
  cases h with
  | once hsaid => exact hsaid.keeping (by simp) fun _ _ h => by simp [huser] at h
  | @asked reply events notices last? hcode hsaid =>
      obtain ⟨turn, hfollow, hturn, hidle⟩ := hsaid.keeping (by simp) fun _ _ h => by
        simp [hpass] at h
      refine ⟨turn, ?_, hturn, hidle⟩
      have huserIdle : after (Command.user user).octets reply = idle :=
        after_idle (by simp) fun h => by simp [huser] at h
      rw [follow_answered, huserIdle]
      exact hfollow

variable {ν : Type} [Network ν] {s t : Session ν}

theorem Ways.keeping {call : Call} (hcall : call.isOrdinary)
    (h : Ways s call events notices last?) : Keeping events last? := by
  cases h with
  | @simple _ command _ _ _ hcommand hsaid =>
      have hquiet := Call.transfers_of_command hcommand
      have hquit : command ≠ .quit := by
        rintro rfl
        cases call <;> cases hcommand
      exact hsaid.keeping hquit fun _ _ h => by simp [hquiet] at h
  | quit => cases hcall
  | login hsigns => exact hsigns.keeping
  | list hcourse => exact hcourse.keeping (Command.transfers_octets _)
  | upload hcourse => exact hcourse.keeping (Command.transfers_octets _)
  | download hcourse => exact hcourse.keeping (Command.transfers_octets _)

/-! ## The grammar of a run -/

/-- Whose turn it is between two calls. -/
def turn (s : Session ν) : Turn :=
  if s.control.isSome then idle else apart

omit [Network ν] in
theorem turn_of_peer (h : t.peer = s.peer) : t.turn = s.turn := by
  have hsome : t.control.isSome = s.control.isSome := by
    simpa [peer] using congrArg Option.isSome h
  rw [turn, turn, hsome]

omit [Network ν] in
theorem turn_of_none (h : s.control = none) : s.turn = apart := by
  rw [turn, h]
  rfl

omit [Network ν] in
/-- Giving the control connection up is always in the grammar. -/
theorem follow_parting : s.turn.follow s.parting = some apart := by
  unfold turn parting
  cases s.control <;> rfl

omit [Network ν] in
theorem Keeping.follow_parting (h : Keeping events last?) (hs : s.control.isSome) :
    s.turn.follow (events ++ s.parting) = some apart := by
  obtain ⟨next, hfollow, hnext, -⟩ := h
  have hparting : s.parting = [.disconnected] := by
    unfold parting
    cases hc : s.control with
    | none => rw [hc] at hs; cases hs
    | some c => rfl
  rw [turn, if_pos hs, follow_append, hfollow, hparting]
  exact follow_disconnected hnext

omit [Network ν] in
/-- A call that writes commands keeps to the grammar if its events do. -/
theorem Stays.follow (hs : s.control.isSome) (hkeeping : Keeping events last?)
    (h : Stays s events last? t) : ∃ es, t.wires = s.wires ++ es ∧
      s.turn.follow es = some t.turn := by
  rcases h with ⟨hpeer, hwires, hbegun⟩ | ⟨hnone, hwires⟩
  · refine ⟨events, hwires, ?_⟩
    obtain ⟨next, hfollow, -, hidle⟩ := hkeeping
    rw [turn_of_peer hpeer, turn, if_pos hs, hfollow]
    rcases hbegun with rfl | hread
    · exact hfollow.symm
    · rw [hidle hread]
  · refine ⟨events ++ s.parting, by rw [hwires, List.append_assoc], ?_⟩
    rw [hkeeping.follow_parting hs, turn_of_none hnone]

theorem connect_follows (host : String) (port : UInt16) (s : Session ν) :
    ∃ es, (s.connect host port).session.wires = s.wires ++ es ∧
      s.turn.follow es = some (s.connect host port).session.turn := by
  have htried (tried : List Endpoint) : s.turn.follow (s.parting ++ trials tried) = some apart := by
    rw [follow_append, follow_parting]
    exact follow_trials tried
  have h := connect_ends host port s
  generalize s.connect host port = o at h ⊢
  obtain ⟨value, t⟩ := o
  cases value with
  | ok answer =>
      obtain ⟨-, tried, target, greeting, -, hpeer, hwires⟩ := h
      refine ⟨s.parting ++ trials tried ++ [.connected target, .received greeting], ?_, ?_⟩
      · simpa using hwires
      · have hheld : t.control.isSome := isSome_of_peer hpeer
        rw [follow_append, htried, turn, if_pos hheld]
        rfl
  | error e =>
      obtain ⟨-, hnone, tried, hwires⟩ := h
      refine ⟨s.parting ++ trials tried, ?_, ?_⟩
      · simpa using hwires
      · rw [htried]
        exact congrArg some (turn_of_none hnone).symm

theorem quit_keeping (h : Said .quit events notices last?) : Keeping events none := by
  cases h with
  | unsent => exact ⟨idle, rfl, by simp, fun h => nomatch h⟩
  | cut count => exact ⟨severed, rfl, by simp, fun h => nomatch h⟩
  | unanswered => exact ⟨asked _, rfl, by simp, fun h => nomatch h⟩
  | answered reply => exact ⟨after _ reply, rfl, after_ne_apart _ _, fun h => nomatch h⟩

theorem run_follows (hs : s.data = none) (c : Call) :
    ∃ es, (s.run c).2.wires = s.wires ++ es ∧ s.turn.follow es = some (s.run c).2.turn := by
  have hnothing (h : (s.run c).2.wires = s.wires) (hpeer : (s.run c).2.control = none)
      (hnone : s.control = none) : ∃ es, (s.run c).2.wires = s.wires ++ es ∧
        s.turn.follow es = some (s.run c).2.turn := by
    refine ⟨[], by rw [h, List.append_nil], ?_⟩
    rw [turn_of_none hnone, turn_of_none hpeer, follow_nil]
  cases hconnect : c.isConnect with
  | true =>
      cases c with
      | connect host port => exact connect_follows host port s
      | _ => cases hconnect
  | false =>
      cases hcontrol : s.control with
      | none =>
          have hidle := (run_unconnected hcontrol hconnect).2
          exact hnothing hidle.wires hidle.control hcontrol
      | some link =>
          have hheld : s.control.isSome := by rw [hcontrol]; rfl
          have hempty : Keeping [] none := ⟨idle, rfl, by simp, fun _ => rfl⟩
          cases hordinary : c.isOrdinary with
          | true =>
              obtain ⟨events, notices, last?, hways, hstays, -⟩ := run_ways hs (Or.inl hordinary)
              exact hstays.follow hheld (hways.keeping hordinary)
          | false =>
              cases c with
              | connect host port => cases hconnect
              | isOpen => exact (isOpen_stays s).follow hheld hempty
              | quit =>
                  obtain ⟨events, notices, last?, hsaid, hstays, -⟩ := s.quit_went
                  have hgone : Stays s events none s.quit.session := by
                    rcases hstays with ⟨hpeer, -⟩ | hgone
                    · have hnone : s.quit.session.control = none := (quit_parts hs).2.2
                      rw [← peer_eq_none, hpeer, peer_eq_none, hcontrol] at hnone
                      cases hnone
                    · exact Or.inr hgone
                  exact hgone.follow hheld (quit_keeping hsaid)
              | reset =>
                  obtain ⟨-, hnone, hwires⟩ := s.resetControl_spec
                  have hgone : Stays s [] none s.reset :=
                    Or.inr ⟨hnone, by rw [List.append_nil]; exact hwires⟩
                  exact hgone.follow hheld hempty
              | _ => cases hordinary

end Session

/-! ## What is written when -/

/-- Events among which at most `line` is written, and that at first. -/
def Once (line : List UInt8) (events : List WireEvent) : Prop :=
  Quiet events ∨ ∃ e rest, events = e :: rest ∧ e.line? = some line ∧ Quiet rest

theorem Once.sent {line : List UInt8} {rest : List WireEvent} (h : Quiet rest) :
    Once line (.sent line :: rest) :=
  Or.inr ⟨_, rest, rfl, rfl, h⟩

section Splits

variable {e e' : WireEvent} {line bytes : List UInt8} {events before rest : List WireEvent}

theorem Quiet.split {front : List WireEvent} (hq : Quiet front) (he : e.line? = some bytes)
    (h : front ++ events = before ++ e :: rest) :
    ∃ before', before = front ++ before' ∧ events = before' ++ e :: rest := by
  rcases List.append_eq_append_iff.1 h with ⟨mid, hbefore, hevents⟩ | ⟨mid, hfront, hrest⟩
  · exact ⟨mid, hbefore, hevents⟩
  · cases mid with
    | nil =>
        rw [List.append_nil] at hfront
        exact ⟨[], by rw [List.append_nil, hfront], hrest.symm⟩
    | cons e' mid =>
        obtain ⟨rfl, -⟩ := List.cons.inj hrest
        exact absurd (by rw [hfront]; simp) (hq.notMem he)

theorem Quiet.split_before {back : List WireEvent} (hq : Quiet back) (he : e.line? = some bytes)
    (h : events ++ back = before ++ e :: rest) : ∃ rest', events = before ++ e :: rest' := by
  rcases List.append_eq_append_iff.1 h with ⟨mid, -, hback⟩ | ⟨mid, hevents, hrest⟩
  · exact absurd (by rw [hback]; simp) (hq.notMem he)
  · cases mid with
    | nil =>
        have hback : back = e :: rest := hrest.symm
        exact absurd (by rw [hback]; simp) (hq.notMem he)
    | cons e' mid =>
        obtain ⟨rfl, -⟩ := List.cons.inj hrest
        exact ⟨mid, hevents⟩

theorem Once.split (h : Once line events) (he : e.line? = some bytes)
    (heq : events = before ++ e :: rest) : before = [] ∧ bytes = line := by
  rcases h with hq | ⟨first, more, rfl, hfirst, hq⟩
  · exact absurd (by rw [heq]; simp) (hq.notMem he)
  · cases before with
    | nil =>
        obtain ⟨rfl, -⟩ := List.cons.inj heq
        exact ⟨rfl, Option.some.inj (he.symm.trans hfirst)⟩
    | cons e' before =>
        obtain ⟨-, hmore⟩ := List.cons.inj heq
        exact absurd (by rw [hmore]; simp) (hq.notMem he)

theorem Quiet.split_after {front : List WireEvent} (hq : Quiet front) (he : e.line? = some bytes)
    (h : .sent line :: front ++ events = before ++ e :: rest) :
    (before = [] ∧ bytes = line) ∨ ∃ before', before = .sent line :: front ++ before' ∧
      events = before' ++ e :: rest := by
  cases before with
  | nil =>
      obtain ⟨rfl, -⟩ := List.cons.inj h
      exact Or.inl ⟨rfl, (Option.some.inj he).symm⟩
  | cons e' before =>
      obtain ⟨rfl, hrest⟩ := List.cons.inj h
      obtain ⟨before', rfl, hevents⟩ := hq.split he hrest
      exact Or.inr ⟨before', rfl, hevents⟩

end Splits

/-- What a call may write once `before` has happened during it: one of its commands, which
is one line if the argument is.  A password goes only after the name of the same login, in
answer to a reply that asks for it; a payload is asked for only once the data connection for
it is there. -/
structure MayWrite (c : Call) (before : List WireEvent) (bytes : List UInt8) : Prop where
  command : ∃ command ∈ c.commands, bytes = command.octets ∧
    (command.IsLine → ∃ line, bytes = line ++ [lineFeed] ∧ lineFeed ∉ line)
  password : Command.verbOf bytes = Utf8.encode "PASS" →
    ∃ user password reply, c = .login user password ∧
      before = [.sent (Command.user user).octets, .received reply] ∧ reply.code = 331
  payload : Command.transfers bytes → ∃ reply target,
    before = [.sent Command.epsv.octets, .received reply, .dataConnected target] ∧
      reply.code < 400 ∧ reply.dataPort = .ok target.port

namespace MayWrite

variable {c : Call} {command : Command} {before : List WireEvent}

theorem line (hc : command ∈ c.commands) : ∃ command' ∈ c.commands,
    command.octets = command'.octets ∧
      (command'.IsLine → ∃ line, command.octets = line ++ [lineFeed] ∧ lineFeed ∉ line) :=
  ⟨command, hc, rfl, fun hline =>
    ⟨_, command.octets_eq, command.lineFeed_notMem_octets hline⟩⟩

theorem verbOf_pass : Command.verbOf command.octets = Utf8.encode "PASS" ↔
    ∃ password, command = .pass password := by
  rw [Command.verbOf_eq_encode (by simp [Command.verbs])]
  cases command <;> simp [Command.verb]

theorem plain (hc : command ∈ c.commands) (hpass : ∀ password, command ≠ .pass password)
    (hquiet : Command.transfers command.octets = false) : MayWrite c before command.octets := by
  refine ⟨line hc, fun hverb => ?_, fun htransfers => ?_⟩
  · obtain ⟨password, hcommand⟩ := verbOf_pass.1 hverb
    exact absurd hcommand (hpass password)
  · rw [hquiet] at htransfers
    cases htransfers

theorem pass {user password : String} {reply : Reply} (hcode : reply.code = 331) :
    MayWrite (.login user password) [.sent (Command.user user).octets, .received reply]
      (Command.pass password).octets := by
  have hquiet : Command.transfers (Command.pass password).octets = false :=
    Command.transfers_octets _
  refine ⟨line (by simp [Call.commands]), fun _ => ⟨user, password, reply, rfl, rfl, hcode⟩, ?_⟩
  intro htransfers
  rw [hquiet] at htransfers
  cases htransfers

theorem transfer {reply : Reply} {target : Endpoint} (hc : command ∈ c.commands)
    (hpass : ∀ password, command ≠ .pass password) (h : Session.Announces reply target) :
    MayWrite c [.sent Command.epsv.octets, .received reply, .dataConnected target]
      command.octets := by
  refine ⟨line hc, fun hverb => ?_, fun _ => ⟨reply, target, rfl, h.positive, h.port⟩⟩
  obtain ⟨password, hcommand⟩ := verbOf_pass.1 hverb
  exact absurd hcommand (hpass password)

end MayWrite

namespace Session

open Turn

variable {c : Command} {tell : DataLink → List Notice} {d? : Option DataLink}
  {e : WireEvent} {events before rest : List WireEvent} {notices : List Notice}
  {last? : Option Reply} {bytes : List UInt8}

theorem Said.once (h : Said c events notices last?) : Once c.octets events := by
  cases h with
  | unsent => exact Or.inl quiet_nil
  | cut count => exact Or.inr ⟨_, [], rfl, rfl, quiet_nil⟩
  | unanswered => exact .sent quiet_nil
  | answered reply => exact .sent (by simp [WireEvent.line?])

theorem Exchanged.once (h : Exchanged c tell d? events notices last?) : Once c.octets events := by
  cases h with
  | declined hsaid _ =>
      rcases hsaid.once with hq | ⟨first, more, rfl, hfirst, hq⟩
      · exact Or.inl (hq.append (by simp [WireEvent.line?]))
      · exact Or.inr ⟨first, _, rfl, hfirst, hq.append (by simp [WireEvent.line?])⟩
  | broken sent _ => exact .sent (by simp [WireEvent.line?])
  | answered sent _ _ => exact .sent (by simp [WireEvent.line?])
  | finished sent last _ _ => exact .sent (by simp [WireEvent.line?])

theorem Course.mayWrite {call : Call} (hcall : call.commands = [.epsv, c])
    (hc : Command.transfers c.octets) (h : Course c tell d? events notices last?)
    (he : e.line? = some bytes)
    (heq : events = before ++ e :: rest) : MayWrite call before bytes := by
  have hepsv : Command.transfers Command.epsv.octets = false := Command.transfers_octets _
  have hpass : ∀ password, c ≠ .pass password := by
    rintro password rfl
    rw [Command.transfers_octets] at hc
    cases hc
  have hfirst (before : List WireEvent) : MayWrite call before Command.epsv.octets :=
    .plain (by simp [hcall]) (by simp) hepsv
  cases h with
  | unopened hsaid _ =>
      obtain ⟨-, rfl⟩ := hsaid.once.split he heq
      exact hfirst before
  | @unconnected reply tried htried =>
      have honce : Once Command.epsv.octets
          ([.sent Command.epsv.octets, .received reply] ++ tried) := by
        refine .sent ?_
        rcases htried with rfl | ⟨target, rfl⟩ <;> simp [WireEvent.line?]
      obtain ⟨-, rfl⟩ := honce.split he heq
      exact hfirst before
  | @opened reply target d? events notices last? hannounces hexchanged =>
      have hq : Quiet [.received reply, .dataConnected target] := by
        simp [WireEvent.line?]
      rcases hq.split_after he heq with ⟨-, rfl⟩ | ⟨before', rfl, hlater⟩
      · exact hfirst before
      · obtain ⟨rfl, rfl⟩ := hexchanged.once.split he hlater
        exact .transfer (by simp [hcall]) hpass hannounces

theorem SignsIn.mayWrite {user password : String}
    (h : SignsIn user password events notices last?)
    (he : e.line? = some bytes)
    (heq : events = before ++ e :: rest) :
    MayWrite (.login user password) before bytes := by
  have hfirst (before : List WireEvent) :
      MayWrite (.login user password) before (Command.user user).octets :=
    .plain (by simp [Call.commands]) (by simp) (Command.transfers_octets _)
  cases h with
  | once hsaid =>
      obtain ⟨-, rfl⟩ := hsaid.once.split he heq
      exact hfirst before
  | @asked reply events notices last? hcode hsaid =>
      have hq : Quiet [.received reply] := by simp [WireEvent.line?]
      rcases hq.split_after he heq with ⟨-, rfl⟩ | ⟨before', rfl, hlater⟩
      · exact hfirst before
      · obtain ⟨rfl, rfl⟩ := hsaid.once.split he hlater
        exact .pass hcode

variable {ν : Type} [Network ν] {s : Session ν}

theorem Ways.mayWrite {call : Call} (h : Ways s call events notices last?)
    (he : e.line? = some bytes)
    (heq : events = before ++ e :: rest) : MayWrite call before bytes := by
  cases h with
  | @simple _ command _ _ _ hcommand hsaid =>
      obtain ⟨-, rfl⟩ := hsaid.once.split he heq
      have hpass : ∀ password, command ≠ .pass password := by
        rintro password rfl
        cases call <;> cases hcommand
      exact .plain (by simp [Call.commands_of_command hcommand]) hpass
        (Call.transfers_of_command hcommand)
  | quit hsaid =>
      obtain ⟨-, rfl⟩ := hsaid.once.split he heq
      exact .plain (by simp [Call.commands]) (by simp) (Command.transfers_octets _)
  | login hsigns => exact hsigns.mayWrite he heq
  | list hcourse => exact hcourse.mayWrite rfl (Command.transfers_octets _) he heq
  | upload hcourse => exact hcourse.mayWrite rfl (Command.transfers_octets _) he heq
  | download hcourse => exact hcourse.mayWrite rfl (Command.transfers_octets _) he heq

theorem events_mayWrite (hs : s.data = none) {call : Call} (he : e.line? = some bytes)
    (heq : s.events call = before ++ e :: rest) : MayWrite call before bytes := by
  rcases events_ways hs call with ⟨es, notices, last?, hways, hstays, -⟩ | hquiet
  · rcases hstays.events hs with hes | hes
    · exact hways.mayWrite he (hes.symm.trans heq)
    · obtain ⟨rest', heq'⟩ := s.quiet_parting.split_before he (hes.symm.trans heq)
      exact hways.mayWrite he heq'
  · exact absurd (by rw [heq]; simp) (hquiet.notMem he)

theorem move_turn {s : Session ν} (m : Move ν) (hs : s.data = none)
    (h : apart.follow s.wires = some s.turn) :
    apart.follow (s.move m).wires = some (s.move m).turn := by
  cases m with
  | call c =>
      obtain ⟨es, hwires, hfollow⟩ := run_follows hs c
      show apart.follow (s.run c).2.wires = some (s.run c).2.turn
      rw [hwires, follow_append, h]
      exact hfollow
  | subscribe id =>
      have hwires : (s.subscribe id).wires = s.wires :=
        (record_wires _ _).trans (List.append_nil _)
      exact (congrArg _ hwires).trans h
  | unsubscribe id =>
      have hwires : (s.unsubscribe id).wires = s.wires :=
        (record_wires _ _).trans (List.append_nil _)
      exact (congrArg _ hwires).trans h
  | elapse around =>
      have hpeer : (s.move (.elapse around)).peer = s.peer :=
        settle_peer ⟨(), around.delivery, around.network⟩ s
      rw [turn_of_peer hpeer]
      exact h

/-- On every control connection of every run client and server take turns, nothing is written
after a goodbye, and no call writes anything, whole or in part, but what it may write where it
stands. -/
theorem moves_turns (options : Options) (observers : Observers) (files : FileTree)
    (network : ν) (ms : List (Move ν)) :
    let s := (start options observers files network).moves ms
    apart.follow s.wires = some s.turn ∧
      (∀ before e line between e' bytes rest,
        s.wires = before ++ e :: between ++ e' :: rest →
        e.line? = some line → e'.line? = some bytes →
        Command.verbOf line = Utf8.encode "QUIT" → .disconnected ∈ between) ∧
      ∀ c before e bytes rest, s.events c = before ++ e :: rest → e.line? = some bytes →
        MayWrite c before bytes := by
  intro s
  -- No call leaves a data connection behind, so that its events are those that it adds.
  have hkept := moves_preserve
    (p := fun t : Session ν => t.data = none ∧ apart.follow t.wires = some t.turn)
    (fun t m ht _ => ⟨move_data ht.1 m, move_turn m ht.1 ht.2⟩)
    (s := start options observers files network) ⟨rfl, rfl⟩
    (along_of_forall (fun _ _ => trivial) _ ms)
  have hfollow : apart.follow s.wires = some s.turn := hkept.2
  refine ⟨hfollow, fun before e line between e' bytes rest heq he he' hline => ?_,
    fun c before e bytes rest heq he => events_mayWrite hkept.1 he heq⟩
  rw [heq] at hfollow
  exact disconnected_of_farewell hfollow he he' hline

end Session
end FtpClient
