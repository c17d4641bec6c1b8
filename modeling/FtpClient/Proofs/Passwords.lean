import FtpClient.Proofs.Runs
import Mathlib.Data.List.Forall2

/-
Sessions that differ in their passwords only.

A password goes into one line on the control connection and nowhere else.  So two sessions
that differ in nothing but what such lines have said go on alike, as long as the far side
reacts to each of these lines in the same way.  `Session.Alike` is the relation between two
such sessions; each act and each operation keeps it and has the same value on both sides,
and so every run keeps it.
-/

namespace FtpClient

/-! ## What may differ -/

/-- The same password twice, or two that each take up one line. -/
inductive Hidden : String → String → Prop where
  | same (p : String) : Hidden p p
  | other {p q : String} : '\n' ∉ p.toList → '\n' ∉ q.toList → Hidden p q

/-- Octets that are the same on both sides, or a line that sends a password on each. -/
inductive Veiled : List UInt8 → List UInt8 → Prop where
  | same (bytes : List UInt8) : Veiled bytes bytes
  | pass {p q : String} : Hidden p q → Veiled (Command.pass p).octets (Command.pass q).octets

/-- Journal entries that differ at most in a password that is sent. -/
inductive Entry.Alike : Entry → Entry → Prop where
  | same (e : Entry) : Alike e e
  | sent {bytes bytes' : List UInt8} : Veiled bytes bytes' →
      Alike (.wire (.sent bytes)) (.wire (.sent bytes'))
  | cut {bytes bytes' : List UInt8} (count : Nat) : Veiled bytes bytes' →
      Alike (.wire (.sentPart bytes count)) (.wire (.sentPart bytes' count))

/-- Commands that differ at most in a password. -/
inductive Command.Alike : Command → Command → Prop where
  | same (c : Command) : Alike c c
  | pass {p q : String} : Hidden p q → Alike (.pass p) (.pass q)

/-- Calls that differ at most in a password. -/
inductive Call.Alike : Call → Call → Prop where
  | same (c : Call) : Alike c c
  | login {user p q : String} : Hidden p q → Alike (.login user p) (.login user q)

namespace Command

theorem Alike.veiled {c c' : Command} (h : Alike c c') : Veiled c.octets c'.octets := by
  cases h with
  | same => exact .same _
  | pass hidden => exact .pass hidden

/-- What is logged of a command does not tell a password. -/
theorem Alike.loggedLine {c c' : Command} (h : Alike c c') : c.loggedLine = c'.loggedLine := by
  cases h <;> rfl

end Command

/-- Reactions with the same result and delivery. -/
structure Reaction.Alike {ν α : Type} (alike : ν → ν → Prop) (r r' : Reaction ν α) : Prop where
  result : r.result = r'.result
  delivery : r.delivery = r'.delivery
  network : alike r.network r'.network

/-- A far side that takes no notice of passwords: states that are alike react alike to what
is the same but for a password. -/
structure Discreet (ν : Type) [Network ν] where
  alike : ν → ν → Prop
  refl : ∀ n, alike n n
  resolve : ∀ {m n} host, alike m n → Network.resolve m host = Network.resolve n host
  connect : ∀ {m n} target, alike m n →
    (Network.connect target m).1 = (Network.connect target n).1 ∧
      alike (Network.connect target m).2 (Network.connect target n).2
  peerAddress : ∀ {m n : ν}, alike m n → Network.peerAddress m = Network.peerAddress n
  send : ∀ {m n bytes bytes'}, Veiled bytes bytes' → alike m n →
    (Network.send bytes m).Alike alike (Network.send bytes' n)
  hangUp : ∀ {m n}, alike m n → alike (Network.hangUp m) (Network.hangUp n)
  connectData : ∀ {m n} target, alike m n →
    (Network.connectData target m).Alike alike (Network.connectData target n)
  sendData : ∀ {m n} bytes, alike m n →
    (Network.sendData bytes m).Alike alike (Network.sendData bytes n)
  hangUpData : ∀ {m n}, alike m n →
    (Network.hangUpData m).Alike alike (Network.hangUpData n)
  pause : ∀ {m n}, alike m n → (Network.pause m).Alike alike (Network.pause n)

variable {ν : Type} [Network ν]

/-- Two sessions that differ at most in the passwords that were sent. -/
structure Session.Alike (D : Discreet ν) (s s' : Session ν) : Prop where
  options : s.options = s'.options
  observers : s.observers = s'.observers
  control : s.control = s'.control
  data : s.data = s'.data
  files : s.files = s'.files
  network : D.alike s.network s'.network
  past : List.Forall₂ Entry.Alike s.past s'.past

/-- Outcomes with the same value. -/
structure Outcome.Alike {α : Type} (D : Discreet ν) (o o' : Outcome ν α) : Prop where
  value : o.value = o'.value
  session : o.session.Alike D o'.session

namespace Outcome.Alike

variable {α β : Type} {D : Discreet ν} {o o' : Outcome ν α}

theorem andThen {next next' : α → Session ν → Outcome ν β} (h : o.Alike D o')
    (hnext : ∀ a s s', Session.Alike D s s' → (next a s).Alike D (next' a s')) :
    (o.andThen next).Alike D (o'.andThen next') := by
  obtain ⟨value, s⟩ := o
  obtain ⟨value', s'⟩ := o'
  obtain ⟨rfl, hs⟩ := h
  cases value with
  | ok a => exact hnext a s s' hs
  | error e => exact ⟨rfl, hs⟩

theorem map (h : o.Alike D o') (f : α → β) : (o.map f).Alike D (o'.map f) :=
  ⟨congrArg (Except.map f) h.value, h.session⟩

theorem mapSession (h : o.Alike D o') {f : Session ν → Session ν}
    (hf : ∀ s s', Session.Alike D s s' → (f s).Alike D (f s')) :
    { o with session := f o.session }.Alike D { o' with session := f o'.session } :=
  ⟨h.value, hf _ _ h.session⟩

end Outcome.Alike

namespace Session

variable {D : Discreet ν} {s s' : Session ν}

/-! ## Acts -/

namespace Alike

theorem record (h : s.Alike D s') (entries : List Entry) :
    (s.record entries).Alike D (s'.record entries) := by
  refine ⟨h.options, h.observers, h.control, h.data, h.files, h.network, ?_⟩
  unfold Session.record
  dsimp only
  induction entries.reverse with
  | nil => exact h.past
  | cons e entries ih => exact .cons (.same e) ih

theorem log (h : s.Alike D s') (level : Level) (component : Component) (text : String) :
    (s.log level component text).Alike D (s'.log level component text) :=
  h.record _

theorem wire (h : s.Alike D s') (e : WireEvent) : (s.wire e).Alike D (s'.wire e) :=
  h.record _

theorem wireSent (h : s.Alike D s') {bytes bytes' : List UInt8} (hbytes : Veiled bytes bytes') :
    (s.wire (.sent bytes)).Alike D (s'.wire (.sent bytes')) :=
  ⟨h.options, h.observers, h.control, h.data, h.files, h.network, .cons (.sent hbytes) h.past⟩

theorem wireCut (h : s.Alike D s') {bytes bytes' : List UInt8} (count : Nat)
    (hbytes : Veiled bytes bytes') :
    (s.wire (.sentPart bytes count)).Alike D (s'.wire (.sentPart bytes' count)) :=
  ⟨h.options, h.observers, h.control, h.data, h.files, h.network,
    .cons (.cut count hbytes) h.past⟩

theorem notify (h : s.Alike D s') (notice : Notice) :
    (s.notify notice).Alike D (s'.notify notice) := by
  unfold Session.notify
  rw [h.observers]
  exact h.record _

theorem settle {α : Type} {r r' : Reaction ν α} (h : s.Alike D s') (hr : r.Alike D.alike r') :
    (s.settle r).Alike D (s'.settle r') := by
  refine ⟨h.options, h.observers, ?_, h.data, h.files, hr.network, h.past⟩
  unfold Session.settle
  rw [h.control, hr.delivery]

theorem informed (h : s.Alike D s') : s.informed.Alike D s'.informed := by
  refine ⟨h.options, h.observers, ?_, h.data, h.files, h.network, h.past⟩
  unfold Session.informed
  rw [h.control]

theorem setData (h : s.Alike D s') (data : Option DataLink) :
    { s with data }.Alike D { s' with data } :=
  ⟨h.options, h.observers, h.control, rfl, h.files, h.network, h.past⟩

theorem setFiles (h : s.Alike D s') (files : FileTree) :
    { s with files }.Alike D { s' with files } :=
  ⟨h.options, h.observers, h.control, h.data, rfl, h.network, h.past⟩

theorem setControl (h : s.Alike D s') (control : Option ControlLink) {n n' : ν}
    (hn : D.alike n n') :
    { s with control, network := n }.Alike D { s' with control, network := n' } :=
  ⟨h.options, h.observers, rfl, h.data, h.files, hn, h.past⟩

theorem setNetwork (h : s.Alike D s') {n n' : ν} (hn : D.alike n n') :
    { s with network := n }.Alike D { s' with network := n' } :=
  ⟨h.options, h.observers, h.control, h.data, h.files, hn, h.past⟩

/-! ## The control connection -/

theorem closeControl (h : s.Alike D s') : s.closeControl.Alike D s'.closeControl := by
  unfold Session.closeControl
  rw [h.control]
  cases s'.control with
  | none => exact h
  | some c =>
      have hlogged := h.log .trace .control "Closing control connection"
      exact (hlogged.setControl none (D.hangUp hlogged.network)).wire _

theorem resetControl (h : s.Alike D s') : s.resetControl.Alike D s'.resetControl := by
  unfold Session.resetControl
  rw [h.control]
  cases s'.control with
  | none => exact h
  | some c => exact (h.log _ _ _).closeControl

theorem dial (h : s.Alike D s') (target : Endpoint) :
    (s.dial target).1 = (s'.dial target).1 ∧ (s.dial target).2.Alike D (s'.dial target).2 := by
  obtain ⟨hattempt, hn⟩ := D.connect target h.network
  unfold Session.dial
  generalize Network.connect target s.network = attempted at hattempt hn ⊢
  generalize Network.connect target s'.network = attempted' at hattempt hn ⊢
  obtain ⟨attempt, n⟩ := attempted
  obtain ⟨attempt', n'⟩ := attempted'
  obtain rfl : attempt = attempt' := hattempt
  have hn : D.alike n n' := hn
  have hlimits : attempt.underLimits s.options = attempt.underLimits s'.options := by
    rw [h.options]
  dsimp only
  rw [hlimits]
  cases attempt.underLimits s'.options with
  | ok first => exact ⟨rfl, (h.setControl _ hn).wire _⟩
  | error cause =>
      refine ⟨rfl, ?_⟩
      dsimp only
      by_cases he : attempt.isEstablished
      · rw [if_pos he, if_pos he]
        exact ((h.setNetwork (D.hangUp hn)).wire _).wire _
      · rw [if_neg he, if_neg he]
        exact h.setNetwork hn

theorem dialAny (h : s.Alike D s') (port : UInt16) (cause : SystemError)
    (addresses : List String) :
    (dialAny port cause addresses s).Alike D (dialAny port cause addresses s') := by
  induction addresses generalizing s s' cause with
  | nil => exact ⟨rfl, h⟩
  | cons address rest ih =>
      obtain ⟨hvalue, hdialled⟩ := (h.log .trace .control
        ("Trying " ++ Endpoint.toString ⟨address, port⟩)).dial ⟨address, port⟩
      unfold Session.dialAny
      dsimp only
      generalize (s.log .trace .control _).dial ⟨address, port⟩ = dialled at hvalue hdialled ⊢
      generalize (s'.log .trace .control _).dial ⟨address, port⟩ = dialled' at hvalue hdialled ⊢
      obtain ⟨value, t⟩ := dialled
      obtain ⟨value', t'⟩ := dialled'
      obtain rfl : value = value' := hvalue
      cases value with
      | ok _ => exact ⟨rfl, hdialled⟩
      | error cause' => exact ih (hdialled.log _ _ _) cause'

theorem openControl (h : s.Alike D s') (host : String) (port : UInt16) :
    (s.openControl host port).Alike D (s'.openControl host port) := by
  have hclosed := h.closeControl.log .debug .control
    ("Connecting to " ++ host ++ ":" ++ PortNumber.toString port)
  unfold Session.openControl
  dsimp only
  rw [D.resolve host hclosed.network]
  cases Network.resolve (s'.closeControl.log .debug .control _).network host with
  | error cause => exact ⟨rfl, hclosed⟩
  | ok addresses =>
      exact (hclosed.dialAny port .noAddress addresses).andThen fun _ _ _ ht =>
        ⟨rfl, ht.log _ _ _⟩

theorem probe (h : s.Alike D s') : s.probe.Alike D s'.probe := by
  unfold Session.probe
  rw [h.control]
  cases s'.control with
  | none => exact ⟨rfl, h⟩
  | some c =>
      dsimp only
      by_cases hunread : c.inbound.unread ≠ []
      · rw [if_pos hunread, if_pos hunread]
        exact ⟨rfl, h⟩
      · rw [if_neg hunread, if_neg hunread]
        cases c.inbound.source.ending.untold? with
        | some cause => exact ⟨rfl, h.informed⟩
        | none =>
            dsimp only
            by_cases hclosed : c.inbound.source.ending = .closed
            · rw [if_pos hclosed, if_pos hclosed]
              exact ⟨rfl, h.log _ _ _⟩
            · rw [if_neg hclosed, if_neg hclosed]
              exact ⟨rfl, h⟩

theorem write (h : s.Alike D s') {bytes bytes' : List UInt8} (hbytes : Veiled bytes bytes') :
    (s.write bytes).1 = (s'.write bytes').1 ∧
      (s.write bytes).2.Alike D (s'.write bytes').2 := by
  have hr := D.send hbytes h.network
  have hcontrol : s.untold? = s'.untold? := by
    unfold untold?
    rw [h.control]
  unfold Session.write
  rw [hcontrol]
  cases s'.untold? with
  | some cause => exact ⟨rfl, h.informed⟩
  | none => exact ⟨hr.result, h.settle hr⟩

theorem send (h : s.Alike D s') {line line' : String}
    (hline : Veiled (Utf8.encode (line ++ lineEnd)) (Utf8.encode (line' ++ lineEnd))) :
    (s.send line).Alike D (s'.send line') := by
  obtain ⟨hresult, hwritten⟩ := h.write hline
  unfold Session.send
  rw [h.control]
  cases s'.control with
  | none => exact ⟨rfl, h⟩
  | some c =>
      dsimp only
      generalize s.write (Utf8.encode (line ++ lineEnd)) = written at hresult hwritten ⊢
      generalize s'.write (Utf8.encode (line' ++ lineEnd)) = written' at hresult hwritten ⊢
      obtain ⟨result, t⟩ := written
      obtain ⟨result', t'⟩ := written'
      obtain rfl : result = result' := hresult
      cases result with
      | whole => exact ⟨rfl, hwritten.wireSent hline⟩
      | part count cause => exact ⟨rfl, hwritten.wireCut count hline⟩

theorem receive (h : s.Alike D s') : s.receive.Alike D s'.receive := by
  unfold Session.receive
  rw [h.control]
  cases s'.control with
  | none => exact ⟨rfl, h⟩
  | some c =>
      dsimp only
      have hread := (h.setControl (some { c with inbound := c.inbound.readReply.left })
        h.network).record (c.inbound.readReply.lines.map fun line =>
          .log .trace .reply ("CC IN: " ++ quote line))
      cases c.inbound.readReply.outcome with
      | error e => exact ⟨rfl, hread⟩
      | ok reply => exact ⟨rfl, hread.wire _⟩

theorem peerAddress (h : s.Alike D s') : s.peerAddress = s'.peerAddress := by
  unfold Session.peerAddress
  rw [h.control, D.peerAddress h.network]

/-! ## The data connection -/

theorem openData (h : s.Alike D s') (target : Endpoint) :
    (s.openData target).Alike D (s'.openData target) := by
  have hlogged := h.log .debug .data ("Opening data connection to " ++ target.toString)
  unfold Session.openData
  dsimp only
  generalize s.log .debug .data _ = t at hlogged ⊢
  generalize s'.log .debug .data _ = t' at hlogged ⊢
  have hr := D.connectData target hlogged.network
  generalize Network.connectData target t.network = r at hr ⊢
  generalize Network.connectData target t'.network = r' at hr ⊢
  have hsettled := hlogged.settle hr
  have hlimits : r.result.underLimits (t.settle r).options =
      r'.result.underLimits (t'.settle r').options := by
    rw [hr.result, hsettled.options]
  rw [hlimits, hr.result, hsettled.data]
  cases r'.result.underLimits (t'.settle r').options with
  | error cause =>
      refine ⟨rfl, ?_⟩
      dsimp only
      by_cases he : r'.result.isEstablished
      · rw [if_pos he, if_pos he]
        exact ((hsettled.wire _).settle (D.hangUpData hsettled.network)).wire _
      · rw [if_neg he, if_neg he]
        exact hsettled
  | ok source =>
      refine ⟨rfl, ?_⟩
      dsimp only
      by_cases hopen : (t'.settle r').data.isSome
      · rw [if_pos hopen, if_pos hopen]
        exact (((hsettled.wire _).setData _).wire _).log _ _ _
      · rw [if_neg hopen, if_neg hopen]
        exact ((hsettled.setData _).wire _).log _ _ _

theorem dropData (h : s.Alike D s') :
    s.dropData.1 = s'.dropData.1 ∧ s.dropData.2.Alike D s'.dropData.2 := by
  have hr := D.hangUpData h.network
  exact ⟨hr.result, ((h.settle hr).setData none).wire _⟩

theorem releaseData (h : s.Alike D s') : s.releaseData.Alike D s'.releaseData := by
  unfold Session.releaseData
  rw [h.data]
  cases s'.data with
  | none => exact h
  | some d => exact h.dropData.2

theorem closeData (h : s.Alike D s') : s.closeData.Alike D s'.closeData := by
  unfold Session.closeData
  rw [h.data]
  cases s'.data with
  | none => exact ⟨rfl, h⟩
  | some d =>
      obtain ⟨hvalue, hdropped⟩ := (h.log .trace .data
        ("Closing data connection to " ++ d.remote.toString)).dropData
      dsimp only
      generalize (s.log .trace .data _).dropData = dropped at hvalue hdropped ⊢
      generalize (s'.log .trace .data _).dropData = dropped' at hvalue hdropped ⊢
      obtain ⟨value, t⟩ := dropped
      obtain ⟨value', t'⟩ := dropped'
      obtain rfl : value = value' := hvalue
      cases value with
      | ok _ => exact ⟨rfl, hdropped⟩
      | error cause =>
          dsimp only
          split
          · exact ⟨rfl, hdropped⟩
          · exact ⟨rfl, hdropped⟩

theorem leaveData (h : s.Alike D s') (arrivals : List Arrival) (d : DataLink) :
    (s.leaveData arrivals d).Alike D (s'.leaveData arrivals d) :=
  h.setData _

theorem receiveText (h : s.Alike D s') : s.receiveText.Alike D s'.receiveText := by
  unfold Session.receiveText
  rw [h.data]
  cases s'.data with
  | none => exact ⟨rfl, h⟩
  | some d =>
      dsimp only
      cases d.source.ending.failure? with
      | some cause => exact ⟨rfl, h.leaveData [] d⟩
      | none => exact ⟨rfl, (h.leaveData [] d).log _ _ _⟩

theorem sendPieces (h : s.Alike D s') (count : Nat) (pieces : List (List UInt8)) :
    (s.sendPieces count pieces).Alike D (s'.sendPieces count pieces) := by
  induction pieces generalizing count s s' with
  | nil => exact ⟨rfl, h⟩
  | cons piece rest ih =>
      have hr := D.sendData piece h.network
      unfold Session.sendPieces
      dsimp only
      generalize Network.sendData piece s.network = r at hr ⊢
      generalize Network.sendData piece s'.network = r' at hr ⊢
      rw [hr.result]
      cases r'.result with
      | error cause => exact ⟨rfl, h.settle hr⟩
      | ok _ => exact ih ((h.settle hr).wire _) _

theorem sendFile (h : s.Alike D s') (source : Source) :
    (s.sendFile source).Alike D (s'.sendFile source) := by
  unfold Session.sendFile
  rw [h.data]
  cases s'.data with
  | none => exact ⟨rfl, h⟩
  | some d =>
      refine (h.sendPieces 0 _).andThen fun count t t' ht => ?_
      cases source.ending.failure? with
      | some cause => exact ⟨rfl, ht⟩
      | none => exact ⟨rfl, ht.log _ _ _⟩

theorem receiveListing (h : s.Alike D s') : s.receiveListing.Alike D s'.receiveListing := by
  refine h.receiveText.andThen fun listing t t' ht => ⟨rfl, ?_⟩
  dsimp only
  by_cases hempty : listing = ""
  · rw [if_pos hempty, if_pos hempty]
    exact ht
  · rw [if_neg hempty, if_neg hempty]
    exact ht.notify _

theorem receiveFile (h : s.Alike D s') (sink : Sink) :
    (s.receiveFile sink).1.Alike D (s'.receiveFile sink).1 ∧
      (s.receiveFile sink).2 = (s'.receiveFile sink).2 := by
  unfold Session.receiveFile
  rw [h.data]
  cases s'.data with
  | none => exact ⟨⟨rfl, h⟩, rfl⟩
  | some d =>
      dsimp only
      generalize sink.drain 0 (d.source.pieces transferBufferSize) = w
      have hread := h.leaveData (w.rest.map .chunk) d
      cases fileReceived w d.source.ending with
      | error e => exact ⟨⟨rfl, hread⟩, rfl⟩
      | ok count => exact ⟨⟨rfl, hread.log _ _ _⟩, rfl⟩

theorem receiveInto (h : s.Alike D s') (place : Place) :
    (s.receiveInto place).Alike D (s'.receiveInto place) := by
  unfold Session.receiveInto
  rw [h.files]
  obtain ⟨houtcome, hsink⟩ := h.receiveFile (s'.files.sinkAt place)
  generalize s.receiveFile (s'.files.sinkAt place) = received at houtcome hsink ⊢
  generalize s'.receiveFile (s'.files.sinkAt place) = received' at houtcome hsink ⊢
  obtain ⟨o, sink⟩ := received
  obtain ⟨o', sink'⟩ := received'
  obtain rfl : sink = sink' := hsink
  refine ⟨houtcome.value, ?_⟩
  dsimp only
  rw [houtcome.session.files]
  exact houtcome.session.setFiles _

/-! ## Operations -/

theorem report (h : s.Alike D s') (e : Failure) : (s.report e).Alike D (s'.report e) := by
  have htold := (h.log .error .client e.message).notify (.failure e.message)
  unfold Session.report
  dsimp only
  by_cases he : e.breaksSession
  · rw [if_pos he, if_pos he]
    exact htold.resetControl
  · rw [if_neg he, if_neg he]
    exact htold

end Alike

theorem guarded_alike {α : Type} {o o' : Outcome ν α} (h : o.Alike D o') :
    (guarded o).Alike D (guarded o') := by
  obtain ⟨value, s⟩ := o
  obtain ⟨value', s'⟩ := o'
  obtain ⟨rfl, hs⟩ := h
  cases value with
  | ok a => exact ⟨rfl, hs⟩
  | error e => exact ⟨rfl, hs.report e⟩

namespace Alike

theorem receiveReply (h : s.Alike D s') : s.receiveReply.Alike D s'.receiveReply :=
  h.receive.andThen fun _ _ _ ht => ⟨rfl, ht.notify _⟩

theorem command (h : s.Alike D s') {c c' : Command} (hc : c.Alike c') :
    (s.command c).Alike D (s'.command c') := by
  have hperformed : (s.perform c).Alike D (s'.perform c') := by
    unfold Session.perform
    rw [hc.loggedLine]
    exact (h.log _ _ _).send hc.veiled
  exact hperformed.andThen fun _ _ _ ht => ht.receiveReply

theorem simple (h : s.Alike D s') (c : Command) : (s.simple c).Alike D (s'.simple c) :=
  guarded_alike ((h.command (.same c)).map _)

theorem enterPassive (h : s.Alike D s') : s.enterPassive.Alike D s'.enterPassive := by
  refine (h.command (.same .epsv)).andThen fun reply t t' ht => ?_
  by_cases hnegative : reply.isNegative
  · rw [if_pos hnegative, if_pos hnegative]
    exact ⟨rfl, ht⟩
  · rw [if_neg hnegative, if_neg hnegative, ht.peerAddress]
    cases reply.dataPort with
    | error e => exact ⟨rfl, ht⟩
    | ok port =>
        cases t'.peerAddress with
        | error e => exact ⟨rfl, ht⟩
        | ok address => exact (ht.openData ⟨address, port⟩).map _

theorem exchange {α : Type} {payload : Session ν → Outcome ν α} (h : s.Alike D s') (c : Command)
    (hp : ∀ t t', Session.Alike D t t' → (payload t).Alike D (payload t')) :
    (s.exchange c payload).Alike D (s'.exchange c payload) := by
  refine (h.command (.same c)).andThen fun first t t' ht => ?_
  by_cases hnegative : first.isNegative
  · rw [if_pos hnegative, if_pos hnegative]
    exact ⟨rfl, ht⟩
  · rw [if_neg hnegative, if_neg hnegative]
    refine (hp t t' ht).andThen fun value u u' hu => ?_
    refine hu.closeData.andThen fun _ v v' hv => ?_
    refine Outcome.Alike.map ?_ _
    by_cases hpreliminary : first.isPreliminary
    · rw [if_pos hpreliminary, if_pos hpreliminary]
      exact hv.receiveReply
    · rw [if_neg hpreliminary, if_neg hpreliminary]
      exact ⟨rfl, hv⟩

theorem transfer {α : Type} {payload : Session ν → Outcome ν α} (h : s.Alike D s') (c : Command)
    (hp : ∀ t t', Session.Alike D t t' → (payload t).Alike D (payload t')) :
    (s.transfer c payload).Alike D (s'.transfer c payload) := by
  refine h.enterPassive.andThen fun entered t t' ht => ?_
  cases entered with
  | refused reply => exact ⟨rfl, ht⟩
  | accepted _ => exact (ht.exchange c hp).mapSession fun _ _ hu => hu.releaseData

theorem connect (h : s.Alike D s') (host : String) (port : UInt16) :
    (s.connect host port).Alike D (s'.connect host port) := by
  refine guarded_alike (((h.log _ _ _).openControl host port).andThen fun _ t t' ht => ?_)
  exact (ht.log _ _ _).receiveReply.map _

theorem isOpen (h : s.Alike D s') :
    s.isOpen.1 = s'.isOpen.1 ∧ s.isOpen.2.Alike D s'.isOpen.2 := by
  have hprobed := guarded_alike h.probe
  unfold Session.isOpen
  generalize guarded s.probe = o at hprobed ⊢
  generalize guarded s'.probe = o' at hprobed ⊢
  obtain ⟨value, t⟩ := o
  obtain ⟨value', t'⟩ := o'
  obtain ⟨rfl, ht⟩ := hprobed
  cases value with
  | ok b => exact ⟨rfl, ht⟩
  | error e => exact ⟨rfl, ht⟩

theorem login (h : s.Alike D s') (user : String) {p q : String}
    (hidden : Hidden p q) : (s.login user p).Alike D (s'.login user q) := by
  refine guarded_alike (((h.log _ _ _).command (.same (.user user))).andThen ?_)
  intro reply t t' ht
  by_cases hcode : reply.code ≠ 331
  · rw [if_pos hcode, if_pos hcode]
    exact ⟨rfl, ht⟩
  · rw [if_neg hcode, if_neg hcode]
    exact ((ht.log _ _ _).command (.pass hidden)).map _

theorem list (h : s.Alike D s') (path : Option String) : (s.list path).Alike D (s'.list path) :=
  guarded_alike ((h.log _ _ _).transfer _ fun _ _ ht => ht.receiveListing)

theorem upload (h : s.Alike D s') (path remote : String) :
    (s.upload path remote).Alike D (s'.upload path remote) := by
  have hlogged := h.log .debug .client ("Uploading " ++ path ++ " to " ++ remote)
  unfold Session.upload
  dsimp only
  rw [hlogged.files]
  refine guarded_alike ?_
  cases (s'.log .debug .client _).files.openForReading path with
  | error cause => exact ⟨rfl, hlogged⟩
  | ok source => exact hlogged.transfer _ fun _ _ ht => ht.sendFile source

end Alike

theorem finishDownload_alike {o o' : Outcome ν (Answer Nat)} (h : o.Alike D o') (path : String)
    (place : Place) (existed : Bool) :
    (finishDownload path place existed o).Alike D (finishDownload path place existed o') := by
  obtain ⟨value, t⟩ := o
  obtain ⟨value', t'⟩ := o'
  obtain ⟨rfl, ht⟩ := h
  have ht : t.Alike D t' := ht
  have herased : { t.log .trace .client ("Removing incomplete file " ++ path) with
      files := t.files.erase place }.Alike D { t'.log .trace .client
        ("Removing incomplete file " ++ path) with files := t'.files.erase place } := by
    rw [ht.files]
    exact (ht.log _ _ _).setFiles _
  unfold finishDownload
  dsimp only
  split
  · rw [ht.files]
    cases t'.files.truncate place _ with
    | error cause => exact ⟨rfl, ht⟩
    | ok files => exact ⟨rfl, ht.setFiles files⟩
  · split
    · exact ⟨rfl, ht⟩
    · exact ⟨rfl, herased⟩

namespace Alike

theorem download (h : s.Alike D s') (remote path : String) :
    (s.download remote path).Alike D (s'.download remote path) := by
  have hlogged := h.log .debug .client ("Downloading " ++ remote ++ " to " ++ path)
  unfold Session.download
  dsimp only
  refine guarded_alike ?_
  generalize s.log .debug .client _ = t at hlogged ⊢
  generalize s'.log .debug .client _ = t' at hlogged ⊢
  have hopened : t.files.openForWriting path t.options.overwrite =
      t'.files.openForWriting path t'.options.overwrite := by
    rw [hlogged.files, hlogged.options]
  have hexisted : (t.options.overwrite && t.files.holds path) =
      (t'.options.overwrite && t'.files.holds path) := by
    rw [hlogged.files, hlogged.options]
  rw [hopened, hexisted]
  cases t'.files.openForWriting path t'.options.overwrite with
  | error cause => exact ⟨rfl, hlogged⟩
  | ok opened =>
      exact finishDownload_alike ((hlogged.setFiles opened.2).transfer _ fun _ _ ht =>
        ht.receiveInto opened.1) _ _ _

theorem quit (h : s.Alike D s') : s.quit.Alike D s'.quit :=
  ((h.log _ _ _).simple .quit).mapSession fun _ _ ht => ht.closeControl

/-! ## Calls and runs -/

theorem run_simple (h : s.Alike D s') {c : Call} {command : Command}
    (hc : c.command? = some command) :
    (s.run c).1 = (s'.run c).1 ∧ (s.run c).2.Alike D (s'.run c).2 := by
  cases c <;> cases hc <;>
    exact ⟨congrArg Call.Result.replied ((h.log _ _ _).simple _).value,
      ((h.log _ _ _).simple _).session⟩

theorem run (h : s.Alike D s') {c c' : Call} (hc : c.Alike c') :
    (s.run c).1 = (s'.run c').1 ∧ (s.run c).2.Alike D (s'.run c').2 := by
  cases hc with
  | @login user p q hidden =>
      have hlogin := h.login user hidden
      exact ⟨congrArg Call.Result.replied hlogin.value, hlogin.session⟩
  | same c =>
      induction c using Call.byForm with
      | connect host port =>
          have hconnect := h.connect host port
          exact ⟨congrArg Call.Result.replied hconnect.value, hconnect.session⟩
      | isOpen => exact ⟨congrArg Call.Result.held h.isOpen.1, h.isOpen.2⟩
      | login user password =>
          have hlogin := h.login user (.same password)
          exact ⟨congrArg Call.Result.replied hlogin.value, hlogin.session⟩
      | list path =>
          have hlist := h.list path
          exact ⟨congrArg Call.Result.listed hlist.value, hlist.session⟩
      | upload path remote =>
          have hupload := h.upload path remote
          exact ⟨congrArg Call.Result.transferred hupload.value, hupload.session⟩
      | download remote path =>
          have hdownload := h.download remote path
          exact ⟨congrArg Call.Result.transferred hdownload.value, hdownload.session⟩
      | quit =>
          have hquit := h.quit
          exact ⟨congrArg Call.Result.replied hquit.value, hquit.session⟩
      | reset => exact ⟨rfl, h.resetControl⟩
      | simple c command hcommand => exact h.run_simple hcommand

end Alike

/-- The same moves on both sides, but for passwords and for what the far side remembers of
them. -/
inductive MoveAlike (D : Discreet ν) : Move ν → Move ν → Prop where
  | call {c c' : Call} : c.Alike c' → MoveAlike D (.call c) (.call c')
  | subscribe (id : ObserverId) : MoveAlike D (.subscribe id) (.subscribe id)
  | unsubscribe (id : ObserverId) : MoveAlike D (.unsubscribe id) (.unsubscribe id)
  | elapse (files : FileTree) (observers : Observers) (delivery : Delivery) {n n' : ν} :
      D.alike n n' →
      MoveAlike D (.elapse ⟨files, observers, n, delivery⟩)
        (.elapse ⟨files, observers, n', delivery⟩)

namespace Alike

theorem setObservers (h : s.Alike D s') (observers : Observers) :
    { s with observers }.Alike D { s' with observers } :=
  ⟨h.options, rfl, h.control, h.data, h.files, h.network, h.past⟩

theorem logObservers (h : s.Alike D s') : s.logObservers.Alike D s'.logObservers := by
  unfold Session.logObservers
  rw [h.observers]
  exact h.log _ _ _

theorem subscribe (h : s.Alike D s') (id : ObserverId) :
    (s.subscribe id).Alike D (s'.subscribe id) := by
  unfold Session.subscribe
  rw [h.observers]
  exact (h.setObservers _).logObservers

theorem unsubscribe (h : s.Alike D s') (id : ObserverId) :
    (s.unsubscribe id).Alike D (s'.unsubscribe id) := by
  unfold Session.unsubscribe
  rw [h.observers]
  exact (h.setObservers _).logObservers

theorem move (h : s.Alike D s') {m m' : Move ν} (hm : MoveAlike D m m') :
    (s.move m).Alike D (s'.move m') := by
  cases hm with
  | call hc => exact (h.run hc).2
  | subscribe id => exact h.subscribe id
  | unsubscribe id => exact h.unsubscribe id
  | @elapse files observers delivery n n' hn =>
      have hr : (Reaction.mk () delivery n).Alike D.alike ⟨(), delivery, n'⟩ := ⟨rfl, rfl, hn⟩
      exact ((h.settle hr).setFiles files).setObservers observers

theorem moves (h : s.Alike D s') {ms ms' : List (Move ν)}
    (hms : List.Forall₂ (MoveAlike D) ms ms') : (s.moves ms).Alike D (s'.moves ms') := by
  induction hms generalizing s s' with
  | nil => exact h
  | cons hm _ ih => exact ih (h.move hm)

theorem start (D : Discreet ν) (options : Options) (observers : Observers) (files : FileTree)
    (network : ν) : (Session.start options observers files network).Alike D
      (Session.start options observers files network) :=
  ⟨rfl, rfl, rfl, rfl, rfl, D.refl network, .nil⟩

theorem journal (h : s.Alike D s') : List.Forall₂ Entry.Alike s.journal s'.journal :=
  List.forall₂_reverse_iff.2 h.past

end Alike
end Session
end FtpClient
