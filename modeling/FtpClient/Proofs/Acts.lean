import FtpClient.Proofs.Commands
import FtpClient.Proofs.Framing
import FtpClient.Session.Operations

/-
What the acts of a session do to the session, whatever the network answers.

An operation is a chain of acts, of which each may be the last one, so a statement
about it has two sides: what holds of the value and the session after a success, and
what holds of the failure and the session after it.  `Outcome.Ends` joins the two, and
`andThen`, `map` and `guarded` have one rule each for it.

Three relations say what a chain of acts leaves as it is.  `Follows` is for events of one
kind within the control connection.  `Talks` is for talk on it: a command is written and
replies are read, and nothing else changes.  `Keeps` is for acts that may give it up.
-/

namespace FtpClient

/-! ## Outcomes -/

namespace Outcome

variable {ν α β : Type} {good good' : α → Session ν → Prop} {bad bad' : Failure → Session ν → Prop}

/-- An outcome is a success after which `good` holds, or a failure after which `bad`
holds. -/
def Ends (o : Outcome ν α) (good : α → Session ν → Prop) (bad : Failure → Session ν → Prop) :
    Prop :=
  match o.value with
  | .ok a => good a o.session
  | .error e => bad e o.session

@[simp] theorem ends_ok (a : α) (s : Session ν) :
    (Outcome.mk (.ok a) s).Ends good bad ↔ good a s := Iff.rfl

@[simp] theorem ends_error (e : Failure) (s : Session ν) :
    (Outcome.mk (.error e) s : Outcome ν α).Ends good bad ↔ bad e s := Iff.rfl

theorem Ends.of_ok {o : Outcome ν α} {a : α} (h : o.Ends good bad) (hv : o.value = .ok a) :
    good a o.session := by
  simpa [Ends, hv] using h

theorem Ends.of_error {o : Outcome ν α} {e : Failure} (h : o.Ends good bad)
    (hv : o.value = .error e) : bad e o.session := by
  simpa [Ends, hv] using h

theorem Ends.mono {o : Outcome ν α} (h : o.Ends good bad)
    (hgood : ∀ a s, good a s → good' a s) (hbad : ∀ e s, bad e s → bad' e s) :
    o.Ends good' bad' := by
  obtain ⟨value, s⟩ := o
  cases value with
  | ok a => exact hgood a s h
  | error e => exact hbad e s h

theorem Ends.and {o : Outcome ν α} (h : o.Ends good bad) (h' : o.Ends good' bad') :
    o.Ends (fun a s => good a s ∧ good' a s) (fun e s => bad e s ∧ bad' e s) := by
  obtain ⟨value, s⟩ := o
  cases value with
  | ok a => exact ⟨h, h'⟩
  | error e => exact ⟨h, h'⟩

theorem Ends.session {o : Outcome ν α} {p : Session ν → Prop} (h : o.Ends good bad)
    (hgood : ∀ a t, good a t → p t) (hbad : ∀ e t, bad e t → p t) : p o.session := by
  obtain ⟨value, t⟩ := o
  cases value with
  | ok a => exact hgood a t h
  | error e => exact hbad e t h

theorem Ends.andThen {o : Outcome ν α} {next : α → Session ν → Outcome ν β}
    {good' : β → Session ν → Prop} (h : o.Ends good bad)
    (hnext : ∀ a s, good a s → (next a s).Ends good' bad') (hbad : ∀ e s, bad e s → bad' e s) :
    (o.andThen next).Ends good' bad' := by
  obtain ⟨value, s⟩ := o
  cases value with
  | ok a => exact hnext a s h
  | error e => exact hbad e s h

theorem Ends.map {o : Outcome ν α} {f : α → β} {good' : β → Session ν → Prop}
    (h : o.Ends (fun a => good' (f a)) bad) : (o.map f).Ends good' bad := by
  obtain ⟨value, s⟩ := o
  cases value <;> exact h

end Outcome

theorem Attempt.underLimits_eq_ok {α : Type} {o : Options} {attempt : Attempt α} {a : α}
    (h : attempt.underLimits o = .ok a) : attempt = .established a := by
  cases attempt with
  | unroutable cause => simp [underLimits] at h
  | rejected cause => simp [underLimits] at h
  | established value =>
      simp only [underLimits] at h
      split at h
      · simp at h
      · rw [Except.ok.inj h]

/-! ## Events -/

namespace WireEvent

/-- A line written on the control connection, as a whole or in part, or a reply read from
it. -/
def IsTalk : WireEvent → Prop
  | sent _ | sentPart _ _ | received _ => True
  | _ => False

/-- Anything but the beginning or the end of a control connection. -/
def IsWithin : WireEvent → Prop
  | connected _ | disconnected => False
  | _ => True

/-- What may happen on the connections that there are: no connection begins, and the
control connection does not end. -/
def IsExchange : WireEvent → Prop
  | connected _ | disconnected | dataConnected _ => False
  | _ => True

theorem IsTalk.isExchange {e : WireEvent} (h : e.IsTalk) : e.IsExchange := by
  cases e <;> first | exact h.elim | trivial

theorem IsExchange.isWithin {e : WireEvent} (h : e.IsExchange) : e.IsWithin := by
  cases e <;> first | exact h.elim | trivial

theorem IsTalk.isWithin {e : WireEvent} (h : e.IsTalk) : e.IsWithin :=
  h.isExchange.isWithin

end WireEvent

def AllWire (p : WireEvent → Prop) (entries : List Entry) : Prop :=
  ∀ e, .wire e ∈ entries → p e

namespace Session

variable {ν : Type}

/-- A session with some more entries in its journal, of which the events satisfy a
property, and with the same client and the same control connection, if any. -/
structure Follows (p : WireEvent → Prop) (s t : Session ν) : Prop where
  peer : t.peer = s.peer
  options : t.options = s.options
  observers : t.observers = s.observers
  journal : ∃ entries, t.journal = s.journal ++ entries ∧ AllWire p entries

namespace Follows

variable {p q : WireEvent → Prop} {s t u : Session ν}

theorem refl (s : Session ν) : Follows p s s :=
  ⟨rfl, rfl, rfl, [], by simp, by simp [AllWire]⟩

theorem trans (h : Follows p s t) (h' : Follows p t u) : Follows p s u := by
  obtain ⟨es, hes, hp⟩ := h.journal
  obtain ⟨es', hes', hp'⟩ := h'.journal
  refine ⟨h'.peer.trans h.peer, h'.options.trans h.options, h'.observers.trans h.observers,
    es ++ es', by rw [hes', hes, List.append_assoc], fun e he => ?_⟩
  rcases List.mem_append.1 he with he | he
  · exact hp e he
  · exact hp' e he

theorem mono (h : Follows p s t) (hpq : ∀ e, p e → q e) : Follows q s t := by
  obtain ⟨es, hes, hp⟩ := h.journal
  exact ⟨h.peer, h.options, h.observers, es, hes, fun e he => hpq e (hp e he)⟩

theorem record (s : Session ν) {entries : List Entry} (h : AllWire p entries) :
    Follows p s (s.record entries) :=
  ⟨rfl, rfl, rfl, entries, by simp, h⟩

theorem settle {α : Type} (r : Reaction ν α) (s : Session ν) : Follows p s (s.settle r) :=
  ⟨by simp, rfl, rfl, [], by simp, by simp [AllWire]⟩

theorem informed (s : Session ν) : Follows p s s.informed :=
  ⟨by simp, rfl, rfl, [], by simp, by simp [AllWire]⟩

theorem setData (s : Session ν) (data : Option DataLink) : Follows p s { s with data } :=
  ⟨rfl, rfl, rfl, [], (List.append_nil _).symm, by simp [AllWire]⟩

theorem setFiles (s : Session ν) (files : FileTree) : Follows p s { s with files } :=
  ⟨rfl, rfl, rfl, [], (List.append_nil _).symm, by simp [AllWire]⟩

theorem wire (s : Session ν) {e : WireEvent} (h : p e) : Follows p s (s.wire e) :=
  .record s (by simp [AllWire, h])

theorem log (s : Session ν) (level : Level) (component : Component) (text : String) :
    Follows p s (s.log level component text) :=
  .record s (by simp [AllWire])

end Follows

/-- A session after talk on the control connection. -/
structure Talks (s t : Session ν) : Prop extends Follows WireEvent.IsTalk s t where
  data : t.data = s.data
  files : t.files = s.files

namespace Talks

variable {s t u : Session ν}

theorem refl (s : Session ν) : Talks s s :=
  ⟨.refl s, rfl, rfl⟩

theorem trans (h : Talks s t) (h' : Talks t u) : Talks s u :=
  ⟨h.toFollows.trans h'.toFollows, h'.data.trans h.data, h'.files.trans h.files⟩

theorem record (s : Session ν) {entries : List Entry} (h : AllWire WireEvent.IsTalk entries) :
    Talks s (s.record entries) :=
  ⟨.record s h, rfl, rfl⟩

theorem settle {α : Type} (r : Reaction ν α) (s : Session ν) : Talks s (s.settle r) :=
  ⟨.settle r s, rfl, rfl⟩

theorem informed (s : Session ν) : Talks s s.informed :=
  ⟨.informed s, rfl, rfl⟩

theorem log (s : Session ν) (level : Level) (component : Component) (text : String) :
    Talks s (s.log level component text) :=
  .record s (by simp [AllWire])

theorem notify (s : Session ν) (notice : Notice) : Talks s (s.notify notice) :=
  .record s (by simp [AllWire])

theorem exchanges (h : Talks s t) : Follows WireEvent.IsExchange s t :=
  h.toFollows.mono fun _ => WireEvent.IsTalk.isExchange

theorem within (h : Talks s t) : Follows WireEvent.IsWithin s t :=
  h.toFollows.mono fun _ => WireEvent.IsTalk.isWithin

end Talks

/-! ## All but the control connection -/

/-- A session of which at most the control connection and the network are others. -/
structure Keeps (s t : Session ν) : Prop where
  options : t.options = s.options
  observers : t.observers = s.observers
  data : t.data = s.data
  files : t.files = s.files
  journal : s.journal <+: t.journal

namespace Keeps

variable {s t u : Session ν}

theorem refl (s : Session ν) : Keeps s s :=
  ⟨rfl, rfl, rfl, rfl, List.prefix_rfl⟩

theorem trans (h : Keeps s t) (h' : Keeps t u) : Keeps s u :=
  ⟨h'.options.trans h.options, h'.observers.trans h.observers, h'.data.trans h.data,
    h'.files.trans h.files, h.journal.trans h'.journal⟩

theorem record (s : Session ν) (entries : List Entry) : Keeps s (s.record entries) :=
  ⟨rfl, rfl, rfl, rfl, by rw [journal_record]; exact List.prefix_append _ _⟩

theorem setControl (s : Session ν) (control : Option ControlLink) (network : ν) :
    Keeps s { s with control, network } :=
  ⟨rfl, rfl, rfl, rfl, List.prefix_rfl⟩

end Keeps

theorem Talks.keeps {s t : Session ν} (h : Talks s t) : Keeps s t := by
  obtain ⟨entries, hentries, -⟩ := h.journal
  exact ⟨h.options, h.observers, h.data, h.files, ⟨entries, hentries.symm⟩⟩

/-- What happens when the control connection is given up, if one is held. -/
def parting (s : Session ν) : List WireEvent :=
  match s.control with
  | none => []
  | some _ => [.disconnected]

@[simp] theorem record_parting (entries : List Entry) (s : Session ν) :
    (s.record entries).parting = s.parting := rfl

@[simp] theorem notify_parting (notice : Notice) (s : Session ν) :
    (s.notify notice).parting = s.parting := rfl

theorem parting_of_none {s : Session ν} (h : s.control = none) : s.parting = [] := by
  rw [parting, h]

theorem parting_of_peer {s : Session ν} {target : Endpoint} (h : s.peer = some target) :
    s.parting = [.disconnected] := by
  cases hc : s.control with
  | none => simp [peer, hc] at h
  | some c => simp [parting, hc]

/-! ## The control connection -/

theorem receive_ends (s : Session ν) :
    s.receive.Ends
      (fun r t => Talks s t ∧ s.control.isSome ∧ t.wires = s.wires ++ [.received r])
      (fun e t => Talks s t ∧ e.breaksSession ∧ t.wires = s.wires) := by
  unfold receive
  cases hc : s.control with
  | none => exact ⟨.refl s, rfl, rfl⟩
  | some c =>
      dsimp only
      generalize hr : c.inbound.readReply = r
      have hlog : AllWire WireEvent.IsTalk
          (r.lines.map fun line => .log .trace .reply ("CC IN: " ++ quote line)) := by
        simp [AllWire]
      have hwires : wireEvents
          (r.lines.map fun line => .log .trace .reply ("CC IN: " ++ quote line)) = [] := by
        simp [wireEvents]
      have hread : Talks s { s with control := some { c with inbound := r.left } } :=
        ⟨⟨by simp [peer, hc], rfl, rfl, [], by simp [journal], by simp [AllWire]⟩, rfl, rfl⟩
      cases ho : r.outcome with
      | error e =>
          refine ⟨hread.trans (.record _ hlog), ?_, ?_⟩
          · rw [← hr] at ho
            rcases Inbound.readReply_error ho with ⟨line, rfl⟩ | rfl <;> rfl
          · dsimp only
            rw [record_wires, hwires, List.append_nil]
            rfl
      | ok reply =>
          refine ⟨(hread.trans (.record _ hlog)).trans (.record _ ?_), rfl, ?_⟩
          · simp [AllWire, WireEvent.IsTalk]
          · dsimp only
            rw [wire_eq_record, record_wires, record_wires, hwires, List.append_nil]
            rfl

theorem receiveReply_ends (s : Session ν) :
    s.receiveReply.Ends
      (fun r t => Talks s t ∧ s.control.isSome ∧ t.wires = s.wires ++ [.received r])
      (fun e t => Talks s t ∧ e.breaksSession ∧ t.wires = s.wires) := by
  refine s.receive_ends.andThen ?_ fun _ _ h => h
  intro r t hends
  obtain ⟨ht, hc, hw⟩ := hends
  exact ⟨ht.trans (.notify t _), hc, by rw [notify_wires, hw]⟩

/-- What happens when a line cannot be written: nothing without a connection, and else it
is written in part. -/
inductive Unwritten (s : Session ν) (line : List UInt8) : List WireEvent → Prop where
  | unheld : s.control = none → Unwritten s line []
  | part (count : Nat) : s.control.isSome → Unwritten s line [.sentPart line count]

variable [Network ν]

theorem peerAddress_ok {s : Session ν} {address : String} (h : s.peerAddress = .ok address) :
    s.control.isSome ∧ Network.peerAddress s.network = .ok address := by
  unfold peerAddress at h
  split at h
  · cases h
  · rename_i c hc
    cases hnetwork : Network.peerAddress s.network with
    | error cause => rw [hnetwork] at h; cases h
    | ok found =>
        rw [hnetwork] at h
        exact ⟨by rw [hc]; rfl, congrArg Except.ok (Except.ok.inj h)⟩

theorem peerAddress_error {s : Session ν} {e : Failure} (h : s.peerAddress = .error e) :
    e.breaksSession := by
  unfold peerAddress at h
  split at h
  · obtain rfl := Except.error.inj h
    rfl
  · cases hnetwork : Network.peerAddress s.network with
    | error cause =>
        rw [hnetwork] at h
        obtain rfl := Except.error.inj h
        rfl
    | ok found => rw [hnetwork] at h; cases h

theorem write_talks (bytes : List UInt8) (s : Session ν) :
    Talks s (s.write bytes).2 ∧ (s.write bytes).2.wires = s.wires := by
  unfold write
  cases s.untold? with
  | some cause => exact ⟨.informed s, rfl⟩
  | none => exact ⟨.settle _ s, rfl⟩

theorem send_ends (line : String) (s : Session ν) :
    (s.send line).Ends
      (fun _ t => Talks s t ∧ s.control.isSome ∧
        t.wires = s.wires ++ [.sent (Utf8.encode (line ++ lineEnd))])
      (fun e t => Talks s t ∧ e.breaksSession ∧
        ∃ es, Unwritten s (Utf8.encode (line ++ lineEnd)) es ∧ t.wires = s.wires ++ es) := by
  unfold send
  cases hc : s.control with
  | none => exact ⟨.refl s, rfl, [], .unheld hc, (List.append_nil _).symm⟩
  | some c =>
      dsimp only
      have hheld : s.control.isSome := by rw [hc]; rfl
      obtain ⟨hwrite, hwires⟩ := s.write_talks (Utf8.encode (line ++ lineEnd))
      generalize s.write (Utf8.encode (line ++ lineEnd)) = written at hwrite hwires ⊢
      obtain ⟨result, t⟩ := written
      cases result with
      | whole =>
          refine ⟨hwrite.trans (.record _ ?_), rfl, ?_⟩
          · simp [AllWire, WireEvent.IsTalk]
          · simp [hwires]
      | part count cause =>
          refine ⟨hwrite.trans (.record _ ?_), rfl, _, .part count hheld, ?_⟩
          · simp [AllWire, WireEvent.IsTalk]
          · simp [hwires]

theorem perform_ends (c : Command) (s : Session ν) :
    (s.perform c).Ends
      (fun _ t => Talks s t ∧ s.control.isSome ∧ t.wires = s.wires ++ [.sent c.octets])
      (fun e t => Talks s t ∧ e.breaksSession ∧
        ∃ es, Unwritten s c.octets es ∧ t.wires = s.wires ++ es) := by
  have hlog := Talks.log s .trace .client ("CC OUT: " ++ c.loggedLine)
  refine (send_ends c.line _).mono ?_ ?_
  · intro _ t hends
    obtain ⟨ht, hc, hw⟩ := hends
    exact ⟨hlog.trans ht, hc, by simpa [Command.octets] using hw⟩
  · intro e t hends
    obtain ⟨ht, he, es, hes, hw⟩ := hends
    refine ⟨hlog.trans ht, he, es, ?_, by simpa using hw⟩
    cases hes with
    | unheld hnone => exact .unheld hnone
    | part count hheld => exact .part count hheld

theorem command_ends (c : Command) (s : Session ν) :
    (s.command c).Ends
      (fun r t => Talks s t ∧ s.control.isSome ∧
        t.wires = s.wires ++ [.sent c.octets, .received r])
      (fun e t => Talks s t ∧ e.breaksSession ∧
        ((∃ es, Unwritten s c.octets es ∧ t.wires = s.wires ++ es) ∨
          t.wires = s.wires ++ [.sent c.octets])) := by
  refine (s.perform_ends c).andThen ?_ ?_
  · intro _ t hends
    obtain ⟨ht, hc, hw⟩ := hends
    refine t.receiveReply_ends.mono ?_ ?_
    · intro r u hends
      obtain ⟨hu, -, hw'⟩ := hends
      exact ⟨ht.trans hu, hc, by rw [hw', hw, List.append_assoc]; rfl⟩
    · intro e u hends
      obtain ⟨hu, he, hw'⟩ := hends
      exact ⟨ht.trans hu, he, Or.inr (by rw [hw', hw])⟩
  · intro e t hends
    obtain ⟨ht, he, hw⟩ := hends
    exact ⟨ht, he, Or.inl hw⟩

theorem command_of_none {s : Session ν} (hs : s.control = none) (c : Command) :
    s.command c =
      ⟨.error .notConnected, s.log .trace .client ("CC OUT: " ++ c.loggedLine)⟩ := by
  have hnone : (s.log .trace .client ("CC OUT: " ++ c.loggedLine)).control = none := hs
  unfold command perform send
  rw [hnone]
  rfl

/-! ## Giving the control connection up -/

theorem closeControl_spec (s : Session ν) :
    Keeps s s.closeControl ∧ s.closeControl.control = none ∧
      s.closeControl.wires = s.wires ++ s.parting := by
  unfold closeControl parting
  cases hc : s.control with
  | none => exact ⟨.refl s, hc, (List.append_nil _).symm⟩
  | some c =>
      have hlog := Keeps.record s [.log .trace .control "Closing control connection"]
      refine ⟨(hlog.trans (.setControl _ _ _)).trans (.record _ _), rfl, ?_⟩
      show ((s.log _ _ _).wire .disconnected).wires = _
      simp

theorem resetControl_spec (s : Session ν) :
    Keeps s s.resetControl ∧ s.resetControl.control = none ∧
      s.resetControl.wires = s.wires ++ s.parting := by
  unfold resetControl
  cases hc : s.control with
  | none => exact ⟨.refl s, hc, by simp [parting, hc]⟩
  | some c =>
      obtain ⟨hkeeps, hnone, hwires⟩ :=
        closeControl_spec (s.log .debug .control "Resetting control connection")
      refine ⟨(Keeps.record s _).trans hkeeps, hnone, ?_⟩
      dsimp only
      rw [hwires]
      simp

theorem report_breaking {e : Failure} (he : e.breaksSession) (s : Session ν) :
    Keeps s (s.report e) ∧ (s.report e).control = none ∧
      (s.report e).wires = s.wires ++ s.parting := by
  obtain ⟨hkeeps, hnone, hwires⟩ :=
    resetControl_spec ((s.log .error .client e.message).notify (.failure e.message))
  have hreport : s.report e =
      ((s.log .error .client e.message).notify (.failure e.message)).resetControl := by
    rw [report, if_pos he]
  rw [hreport]
  refine ⟨((Keeps.record s _).trans (.record _ _)).trans hkeeps, hnone, ?_⟩
  rw [hwires]
  simp

theorem report_other {e : Failure} (he : e.breaksSession = false) (s : Session ν) :
    Talks s (s.report e) ∧ (s.report e).control = s.control ∧
      (s.report e).wires = s.wires := by
  have hreport : s.report e =
      (s.log .error .client e.message).notify (.failure e.message) := by
    rw [report, he]
    rfl
  rw [hreport]
  refine ⟨(Talks.log s _ _ _).trans (.notify _ _), rfl, ?_⟩
  simp

theorem guarded_of_ends {α : Type} {o : Outcome ν α} {good : α → Session ν → Prop}
    {bad bad' : Failure → Session ν → Prop} (h : o.Ends good bad)
    (hbad : ∀ e t, bad e t → bad' e (t.report e)) : (guarded o).Ends good bad' := by
  obtain ⟨value, t⟩ := o
  cases value with
  | ok a => exact h
  | error e => exact hbad e t h

/-! ## Opening the control connection -/

/-- What happens when endpoints are tried of which none is kept. -/
def trials (tried : List Endpoint) : List WireEvent :=
  tried.flatMap fun target => [.connected target, .disconnected]

theorem dial_spec (target : Endpoint) {s : Session ν} (hs : s.control = none) :
    match s.dial target with
    | (.ok _, t) => Keeps s t ∧ t.peer = some target ∧ t.wires = s.wires ++ [.connected target]
    | (.error _, t) => Keeps s t ∧ t.control = none ∧
        ∃ tried, t.wires = s.wires ++ trials tried := by
  unfold dial
  generalize Network.connect target s.network = attempted
  obtain ⟨attempt, network⟩ := attempted
  have hset := Keeps.setControl s s.control network
  dsimp only
  cases attempt.underLimits s.options with
  | ok first =>
      refine ⟨(Keeps.setControl s _ network).trans (.record _ _), rfl, ?_⟩
      show (s.wire (.connected target)).wires = _
      simp
  | error cause =>
      dsimp only
      by_cases he : attempt.isEstablished
      · rw [if_pos he]
        have hhung := Keeps.setControl s s.control (Network.hangUp network)
        refine ⟨(hhung.trans (.record _ _)).trans (.record _ _), hs, [target], ?_⟩
        show ((s.wire (.connected target)).wire .disconnected).wires = _
        simp [trials]
      · rw [if_neg he]
        exact ⟨hset, hs, [], (List.append_nil _).symm⟩

theorem dialAny_ends (port : UInt16) (cause : SystemError) (addresses : List String)
    {s : Session ν} (hs : s.control = none) :
    (dialAny port cause addresses s).Ends
      (fun _ t => Keeps s t ∧ ∃ tried target, t.peer = some target ∧
        t.wires = s.wires ++ trials tried ++ [.connected target])
      (fun e t => Keeps s t ∧ t.control = none ∧ e.breaksSession ∧
        ∃ tried, t.wires = s.wires ++ trials tried) := by
  induction addresses generalizing s cause with
  | nil => exact ⟨.refl s, hs, rfl, [], (List.append_nil _).symm⟩
  | cons address rest ih =>
      unfold dialAny
      dsimp only
      generalize hl : s.log .trace .control
        ("Trying " ++ Endpoint.toString ⟨address, port⟩) = s₁
      have hkeeps : Keeps s s₁ := hl ▸ Keeps.record s _
      have hnone : s₁.control = none := by rw [← hl]; exact hs
      have hwires : s₁.wires = s.wires := by simp [← hl]
      have hdial := dial_spec ⟨address, port⟩ hnone
      generalize s₁.dial ⟨address, port⟩ = dialled at hdial ⊢
      obtain ⟨value, t⟩ := dialled
      cases value with
      | ok _ =>
          obtain ⟨ht, hpeer, htWires⟩ := hdial
          refine ⟨hkeeps.trans ht, [], _, hpeer, ?_⟩
          rw [htWires, hwires]
          simp [trials]
      | error cause' =>
          obtain ⟨ht, htNone, tried, htWires⟩ := hdial
          dsimp only
          generalize hl' : t.log .debug .control _ = t₁
          have hlog : Keeps t t₁ := hl' ▸ Keeps.record t _
          have hkeeps' := hkeeps.trans (ht.trans hlog)
          have hwires' : t₁.wires = s.wires ++ trials tried := by
            rw [← hl', log_eq_record, record_wires, htWires, hwires]
            simp
          have hnone' : t₁.control = none := by rw [← hl']; exact htNone
          refine (ih cause' hnone').mono ?_ ?_
          · intro _ u hends
            obtain ⟨hu, tried', target, hpeer, huWires⟩ := hends
            refine ⟨hkeeps'.trans hu, tried ++ tried', target, hpeer, ?_⟩
            rw [huWires, hwires']
            simp [trials]
          · intro e u hends
            obtain ⟨hu, huNone, he, tried', huWires⟩ := hends
            refine ⟨hkeeps'.trans hu, huNone, he, tried ++ tried', ?_⟩
            rw [huWires, hwires']
            simp [trials]

theorem openControl_ends (host : String) (port : UInt16) (s : Session ν) :
    (s.openControl host port).Ends
      (fun _ t => Keeps s t ∧ ∃ tried target, t.peer = some target ∧
        t.wires = s.wires ++ s.parting ++ trials tried ++ [.connected target])
      (fun e t => Keeps s t ∧ t.control = none ∧ e.breaksSession ∧
        ∃ tried, t.wires = s.wires ++ s.parting ++ trials tried) := by
  unfold openControl
  dsimp only
  generalize hl : s.closeControl.log .debug .control
    ("Connecting to " ++ host ++ ":" ++ PortNumber.toString port) = s₁
  obtain ⟨hclosed, hnone, hwires⟩ := s.closeControl_spec
  have hkeeps : Keeps s s₁ := hclosed.trans (hl ▸ Keeps.record _ _)
  have hnone₁ : s₁.control = none := by rw [← hl]; exact hnone
  have hwires₁ : s₁.wires = s.wires ++ s.parting := by
    rw [← hl, log_eq_record, record_wires, hwires]
    simp
  cases Network.resolve s₁.network host with
  | error cause =>
      refine ⟨hkeeps, hnone₁, rfl, [], ?_⟩
      rw [hwires₁]
      simp [trials]
  | ok addresses =>
      refine (dialAny_ends port .noAddress addresses hnone₁).andThen ?_ ?_
      · intro _ t hends
        obtain ⟨ht, tried, target, hpeer, htWires⟩ := hends
        refine ⟨(hkeeps.trans ht).trans (.record _ _), tried, target, hpeer, ?_⟩
        rw [log_eq_record, record_wires, htWires, hwires₁]
        simp
      · intro e t hends
        obtain ⟨ht, htNone, he, tried, htWires⟩ := hends
        refine ⟨hkeeps.trans ht, htNone, he, tried, ?_⟩
        rw [htWires, hwires₁]

end Session
end FtpClient
