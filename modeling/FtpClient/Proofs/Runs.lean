import FtpClient.Proofs.Operations

/-
Runs of a session.  A caller makes one call after another, and between two calls
observers come and go, local files change, and the far side goes on by itself.

First comes what each operation leaves: the connection that it found, or none.  Only the
operations that open, close or probe the connection are looked at one by one.
-/

namespace FtpClient
namespace Session

variable {ν : Type}

/-! ## What an operation leaves -/

/-- A session after an operation within the control connection that it found. -/
def Rests (s t : Session ν) : Prop :=
  Follows WireEvent.IsWithin s t ∧ t.data = none

/-- A session in which the control connection was given up. -/
def Parts (s t : Session ν) : Prop :=
  s.journal <+: t.journal ∧ t.data = none ∧ t.control = none

/-- A session after an operation that failed.  Only the failure of a local file leaves the
control connection. -/
def Lands (s : Session ν) (e : Failure) (t : Session ν) : Prop :=
  match e with
  | .connection _ _ | .protocol _ _ => Parts s t
  | .file _ _ => Rests s t

theorem Rests.refl {s : Session ν} (hs : s.data = none) : Rests s s :=
  ⟨.refl s, hs⟩

theorem Rests.trans {s t u : Session ν} (h : Rests s t) (h' : Rests t u) : Rests s u :=
  ⟨h.1.trans h'.1, h'.2⟩

theorem Rests.log {s t : Session ν} (h : Rests s t) (level : Level) (component : Component)
    (text : String) : Rests s (t.log level component text) :=
  ⟨h.1.trans (.log t _ _ _), h.2⟩

theorem Rests.grows {s t : Session ν} (h : Rests s t) : s.journal <+: t.journal := by
  obtain ⟨entries, hentries, -⟩ := h.1.journal
  exact ⟨entries, hentries.symm⟩

theorem Lands.grows {s t : Session ν} {e : Failure} (h : Lands s e t) :
    s.journal <+: t.journal ∧ t.data = none := by
  cases e with
  | connection => exact ⟨h.1, h.2.1⟩
  | protocol => exact ⟨h.1, h.2.1⟩
  | file => exact ⟨Rests.grows h, h.2⟩

variable [Network ν]

theorem report_lands {s t : Session ν} (h : Rests s t) (e : Failure) :
    Lands s e (t.report e) := by
  cases e with
  | connection activity cause =>
      obtain ⟨hkeeps, hnone, -⟩ := report_breaking (e := .connection activity cause) rfl t
      exact ⟨h.grows.trans hkeeps.journal, hkeeps.data.trans h.2, hnone⟩
  | protocol violation line =>
      obtain ⟨hkeeps, hnone, -⟩ := report_breaking (e := .protocol violation line) rfl t
      exact ⟨h.grows.trans hkeeps.journal, hkeeps.data.trans h.2, hnone⟩
  | file path cause =>
      obtain ⟨ht, -, -⟩ := report_other (e := .file path cause) rfl t
      exact ⟨h.1.trans ht.within, ht.data.trans h.2⟩

def restFrame (s : Session ν) : Frame ν where
  allows _ := True
  after _ t := Rests s t
  final e t := Lands s e t
  log _ _ _ h := h.log _ _ _
  files files h := ⟨h.1.trans (.setFiles _ files), h.2⟩
  blame _ _ h := h
  forget h := h
  command {c t} _ _ h := by
    refine (t.command_ends c).mono ?_ ?_
    · intro reply u hends
      obtain ⟨hu, -⟩ := hends
      exact h.trans ⟨hu.within, hu.data.trans h.2⟩
    · intro e u hends
      obtain ⟨hu, -⟩ := hends
      exact h.trans ⟨hu.within, hu.data.trans h.2⟩
  transfer {α c t payload} _ _ _ hp h := by
    refine (transfer_ends c hp h.2).mono ?_ ?_
    · intro answer u hu
      exact h.trans hu
    · intro e u hends
      obtain ⟨hu, hnone, -⟩ := hends
      exact h.trans ⟨hu, hnone⟩
  report h := report_lands h _

/-- Every operation that means to keep the control connection either rests within it or
fails, and then its failure tells what is left. -/
theorem run_lands {s : Session ν} (hs : s.data = none) {c : Call} (hc : c.isOrdinary) :
    match (s.run c).1.verdict with
    | .ok _ => Rests s (s.run c).2
    | .error e => Lands s e (s.run c).2 :=
  (restFrame s).run hc (fun _ _ => trivial) (Rests.refl hs)

/-! ## Opening, closing and probing -/

/-- Opening gives up what was held, tries endpoints, and holds one exactly after a
success. -/
theorem connect_ends (host : String) (port : UInt16) (s : Session ν) :
    (s.connect host port).Ends
      (fun answer t => Keeps s t ∧ ∃ tried target greeting, answer = Answer.ofReply greeting ∧
        t.peer = some target ∧ t.wires =
          s.wires ++ s.parting ++ trials tried ++ [.connected target, .received greeting])
      (fun _ t => Keeps s t ∧ t.control = none ∧
        ∃ tried, t.wires = s.wires ++ s.parting ++ trials tried) := by
  unfold connect
  dsimp only
  generalize hl : s.log .debug .client
    ("Opening session with " ++ host ++ ":" ++ PortNumber.toString port) = s₁
  have hstart : Keeps s s₁ := hl ▸ Keeps.record s _
  have hwires : s₁.wires = s.wires := by simp [← hl]
  have hparting : s₁.parting = s.parting := by simp [← hl]
  have hopened := openControl_ends host port s₁
  rw [hwires, hparting] at hopened
  have hgreeted : ((s₁.openControl host port).andThen fun _ t =>
      ((t.log .debug .client "Reading server greeting...").receiveReply).map Answer.ofReply).Ends
      (fun answer t => Keeps s t ∧ ∃ tried target greeting, answer = Answer.ofReply greeting ∧
        t.peer = some target ∧ t.wires =
          s.wires ++ s.parting ++ trials tried ++ [.connected target, .received greeting])
      (fun e t => e.breaksSession ∧ Keeps s t ∧ ∃ tried,
        t.wires ++ t.parting = s.wires ++ s.parting ++ trials tried) := by
    refine hopened.andThen ?_ ?_
    · intro _ t hends
      obtain ⟨ht, tried, target, hpeer, htWires⟩ := hends
      have htold := hstart.trans (ht.trans (Keeps.record t
        [.log .debug .client "Reading server greeting..."]))
      have hread := receiveReply_ends (t.log .debug .client "Reading server greeting...")
      refine Outcome.Ends.map (hread.mono ?_ ?_)
      · intro greeting u hends
        obtain ⟨hu, -, huWires⟩ := hends
        refine ⟨htold.trans hu.keeps, tried, target, greeting, rfl, ?_, ?_⟩
        · rw [hu.peer]
          exact hpeer
        · rw [huWires, log_eq_record, record_wires, htWires]
          simp
      · intro e u hends
        obtain ⟨hu, he, huWires⟩ := hends
        have huPeer : u.peer = some target := by
          rw [hu.peer]
          exact hpeer
        refine ⟨he, htold.trans hu.keeps, tried ++ [target], ?_⟩
        rw [huWires, log_eq_record, record_wires, htWires, parting_of_peer huPeer]
        simp [trials]
    · intro e t hends
      obtain ⟨ht, hnone, he, tried, htWires⟩ := hends
      refine ⟨he, hstart.trans ht, tried, ?_⟩
      rw [htWires, parting_of_none hnone, List.append_nil]
  refine guarded_of_ends hgreeted ?_
  intro e t hends
  obtain ⟨he, ht, tried, htWires⟩ := hends
  obtain ⟨hkeeps, hnone, hgiven⟩ := report_breaking he t
  exact ⟨ht.trans hkeeps, hnone, tried, hgiven.trans htWires⟩

theorem connect_keeps (host : String) (port : UInt16) (s : Session ν) :
    Keeps s (s.connect host port).session := by
  have h := connect_ends host port s
  generalize s.connect host port = o at h ⊢
  obtain ⟨value, t⟩ := o
  cases value with
  | ok answer => exact h.1
  | error e => exact h.1

theorem closeControl_parts {s t : Session ν} (hgrows : s.journal <+: t.journal)
    (hdata : t.data = none) : Parts s t.closeControl := by
  obtain ⟨hkeeps, hnone, -⟩ := t.closeControl_spec
  exact ⟨hgrows.trans hkeeps.journal, hkeeps.data.trans hdata, hnone⟩

theorem quit_parts {s : Session ν} (hs : s.data = none) : Parts s s.quit.session := by
  have hquiet : Command.transfers Command.quit.octets = false := Command.transfers_octets _
  have h := (restFrame s).simple (c := .quit) trivial hquiet "Quitting session" (Rests.refl hs)
  unfold quit
  dsimp only
  generalize (s.log .debug .client "Quitting session").simple .quit = o at h ⊢
  obtain ⟨value, t⟩ := o
  cases value with
  | ok answer => exact closeControl_parts (Rests.grows h) h.2
  | error e =>
      obtain ⟨hgrows, hdata⟩ := Lands.grows h
      exact closeControl_parts hgrows hdata

theorem reset_parts {s : Session ν} (hs : s.data = none) : Parts s s.reset := by
  obtain ⟨hkeeps, hnone, -⟩ := s.resetControl_spec
  exact ⟨hkeeps.journal, hkeeps.data.trans hs, hnone⟩

omit [Network ν] in
/-- A probe that finds the far side changes nothing.  Another one writes a log record, or
is told of a failure of the connection. -/
theorem probe_same (s : Session ν) :
    s.probe.Ends
      (fun isThere t => t = s ∨ isThere = false ∧ s.control.isSome ∧
        (t = s.log .debug .control "Server closed the control connection" ∨ t = s.informed))
      (fun e t => t = s.informed ∧ e.breaksSession) := by
  unfold probe
  cases hc : s.control with
  | none => exact Or.inl rfl
  | some c =>
      dsimp only
      by_cases hunread : c.inbound.unread ≠ []
      · rw [if_pos hunread]
        exact Or.inl rfl
      · rw [if_neg hunread]
        cases c.inbound.source.ending.untold? with
        | some cause =>
            dsimp only
            cases cause.isDisconnection with
            | true => exact Or.inr ⟨rfl, rfl, Or.inr rfl⟩
            | false => exact ⟨rfl, rfl⟩
        | none =>
            dsimp only
            by_cases hclosed : c.inbound.source.ending = .closed
            · rw [if_pos hclosed]
              exact Or.inr ⟨rfl, rfl, Or.inl rfl⟩
            · rw [if_neg hclosed]
              exact Or.inl rfl

omit [Network ν] in
theorem probe_ends (s : Session ν) :
    s.probe.Ends (fun isThere t => Talks s t ∧ t.wires = s.wires ∧ (isThere → t = s))
      (fun e t => Talks s t ∧ t.wires = s.wires ∧ e.breaksSession) := by
  refine s.probe_same.mono ?_ ?_
  · intro isThere t hends
    rcases hends with rfl | ⟨rfl, -, rfl | rfl⟩
    · exact ⟨.refl t, rfl, fun _ => rfl⟩
    · exact ⟨.log s _ _ _, by simp, fun h => nomatch h⟩
    · exact ⟨.informed s, rfl, fun h => nomatch h⟩
  · intro e t hends
    obtain ⟨rfl, he⟩ := hends
    exact ⟨.informed s, rfl, he⟩

/-- A probe that does not fail finds out, and leaves all as it is where it finds the far
side.  One that fails gives the control connection up, and `isOpen` says no. -/
theorem isOpen_lands {s : Session ν} (hs : s.data = none) :
    match s.probe.value with
    | .ok isThere => s.isOpen.1 = isThere ∧ Rests s s.isOpen.2 ∧
        s.isOpen.2.wires = s.wires ∧ (isThere → s.isOpen.2 = s)
    | .error _ => s.isOpen.1 = false ∧ Parts s s.isOpen.2 := by
  have h := s.probe_ends
  unfold isOpen
  generalize s.probe = o at h ⊢
  obtain ⟨value, t⟩ := o
  cases value with
  | ok isThere =>
      obtain ⟨ht, hwires, hsame⟩ := h
      exact ⟨rfl, ⟨ht.within, ht.data.trans hs⟩, hwires, hsame⟩
  | error e =>
      obtain ⟨ht, -, he⟩ := h
      obtain ⟨hkeeps, hnone, -⟩ := report_breaking he t
      exact ⟨rfl, (ht.keeps.trans hkeeps).journal, hkeeps.data.trans (ht.data.trans hs), hnone⟩

theorem run_grows {s : Session ν} (hs : s.data = none) (c : Call) :
    s.journal <+: (s.run c).2.journal ∧ (s.run c).2.data = none := by
  cases hc : c.isOrdinary with
  | true =>
      have h := run_lands hs hc
      split at h
      · exact ⟨h.grows, h.2⟩
      · exact h.grows
  | false =>
      cases c with
      | connect host port =>
          have h := connect_keeps host port s
          exact ⟨h.journal, h.data.trans hs⟩
      | isOpen =>
          have h := isOpen_lands hs
          split at h
          · exact ⟨Rests.grows h.2.1, h.2.1.2⟩
          · exact ⟨h.2.1, h.2.2.1⟩
      | quit =>
          obtain ⟨hgrows, hdata, -⟩ := quit_parts hs
          exact ⟨hgrows, hdata⟩
      | reset =>
          obtain ⟨hgrows, hdata, -⟩ := reset_parts hs
          exact ⟨hgrows, hdata⟩
      | _ => cases hc

/-- What an operation adds to the journal. -/
def during (s : Session ν) (c : Call) : List Entry :=
  (s.run c).2.journal.drop s.journal.length

/-- What happens on the connections during an operation. -/
def events (s : Session ν) (c : Call) : List WireEvent :=
  wireEvents (s.during c)

theorem journal_run {s : Session ν} (hs : s.data = none) (c : Call) :
    (s.run c).2.journal = s.journal ++ s.during c := by
  obtain ⟨entries, hentries⟩ := (run_grows hs c).1
  rw [during, ← hentries, List.drop_left]

theorem wires_run {s : Session ν} (hs : s.data = none) (c : Call) :
    (s.run c).2.wires = s.wires ++ s.events c := by
  rw [wires, journal_run hs, wireEvents_append]
  rfl

theorem events_eq {s : Session ν} (hs : s.data = none) {c : Call} {es : List WireEvent}
    (h : (s.run c).2.wires = s.wires ++ es) : s.events c = es :=
  List.append_cancel_left ((wires_run hs c).symm.trans h)

theorem Rests.events {s : Session ν} {c : Call} (h : Rests s (s.run c).2) :
    ∀ e ∈ s.events c, e.IsWithin := by
  obtain ⟨entries, hentries, hwithin⟩ := h.1.journal
  intro e he
  have hduring : s.during c = entries := by rw [during, hentries, List.drop_left]
  rw [Session.events, hduring] at he
  exact hwithin e (mem_wireEvents.1 he)

/-! ## Runs -/

/-- What is around a session and changes without it. -/
structure Surroundings (ν : Type) where
  files : FileTree
  observers : Observers
  network : ν
  /-- What reaches the control connection meanwhile. -/
  delivery : Delivery

end Session

/-- What may happen next in the life of a session. -/
inductive Move (ν : Type) where
  | call (c : Call)
  | subscribe (id : ObserverId)
  | unsubscribe (id : ObserverId)
  /-- Something happens elsewhere. -/
  | elapse (around : Session.Surroundings ν)

namespace Session

variable {ν : Type} [Network ν]

def move (s : Session ν) : Move ν → Session ν
  | .call c => (s.run c).2
  | .subscribe id => s.subscribe id
  | .unsubscribe id => s.unsubscribe id
  | .elapse around =>
      { s.settle ⟨(), around.delivery, around.network⟩ with
        files := around.files
        observers := around.observers }

def moves (s : Session ν) (ms : List (Move ν)) : Session ν :=
  ms.foldl move s

@[simp] theorem moves_nil (s : Session ν) : s.moves [] = s := rfl

@[simp] theorem moves_cons (s : Session ν) (m : Move ν) (ms : List (Move ν)) :
    s.moves (m :: ms) = (s.move m).moves ms := rfl

/-- Each move of a run is allowed where it is made. -/
def Along (allowed : Session ν → Move ν → Prop) : Session ν → List (Move ν) → Prop
  | _, [] => True
  | s, m :: ms => allowed s m ∧ Along allowed (s.move m) ms

/-- What holds at first and is kept by each move that is allowed holds after a run. -/
theorem moves_preserve {allowed : Session ν → Move ν → Prop} {p : Session ν → Prop}
    (hmove : ∀ s m, p s → allowed s m → p (s.move m)) {s : Session ν} {ms : List (Move ν)}
    (hs : p s) (hms : Along allowed s ms) : p (s.moves ms) := by
  induction ms generalizing s with
  | nil => exact hs
  | cons m ms ih => exact ih (hmove s m hs hms.1) hms.2

theorem along_of_forall {allowed : Session ν → Move ν → Prop} (h : ∀ s m, allowed s m)
    (s : Session ν) (ms : List (Move ν)) : Along allowed s ms := by
  induction ms generalizing s with
  | nil => trivial
  | cons m ms ih => exact ⟨h s m, ih _⟩

theorem move_data {s : Session ν} (hs : s.data = none) (m : Move ν) :
    (s.move m).data = none := by
  cases m with
  | call c => exact (run_grows hs c).2
  | subscribe id => exact hs
  | unsubscribe id => exact hs
  | elapse around => exact hs

theorem moves_data {s : Session ν} (hs : s.data = none) (ms : List (Move ν)) :
    (s.moves ms).data = none :=
  moves_preserve (p := fun s => s.data = none) (fun _ m h _ => move_data h m) hs
    (along_of_forall (fun _ _ => trivial) s ms)

end Session
end FtpClient
