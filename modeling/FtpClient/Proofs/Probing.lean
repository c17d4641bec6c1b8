import FtpClient.Network.Scripted
import FtpClient.Proofs.Framing
import FtpClient.Proofs.Runs

/-
Probing a control connection.

Whoever stands outside a session sees what it asks for, what it is told, and what the far side
delivers.  From these alone an account can be kept of the octets that were sent on the connection
that is held and that no reading took.  A probe tells exactly whether that account is empty and
closed, wherever the octets lie in the meantime, and it leaves no trace in the acts around it:
all it writes is a journal, and no act looks at the journal.

The exception is a probe that looks at a connection which has failed.  The system tells a failure
once, so the act behind such a probe meets no more than the end of the stream.
-/

namespace FtpClient

/-! ## What a reading leaves -/

/-- The octets after the first `k` lines. -/
def afterLines (k : Nat) (bytes : List UInt8) : List UInt8 :=
  joinLines ((splitLines bytes).1.drop k) ++ (splitLines bytes).2

theorem joinLines_take_afterLines (k : Nat) (bytes : List UInt8) :
    joinLines ((splitLines bytes).1.take k) ++ afterLines k bytes = bytes := by
  unfold afterLines
  rw [← List.append_assoc, ← joinLines_append, List.take_append_drop]
  exact (cut_splitLines bytes).eq.symm

/-- The octets that are left by a reading with this outcome: those after the lines of the reply,
or after the line that began none.  Where the connection failed nothing is left. -/
def leftBy : Except Failure Reply → List UInt8 → List UInt8
  | .ok reply, bytes => afterLines reply.lines.length bytes
  | .error (.protocol _ _), bytes => afterLines 1 bytes
  | .error _, _ => []

namespace Inbound

theorem readLineFrom_failed {ending : Ending} {held : List UInt8} {arrivals : List Arrival}
    {cause : SystemError} (h : (readLineFrom ending held arrivals).outcome = .error cause) :
    (readLineFrom ending held arrivals).rest.unread = [] := by
  induction arrivals generalizing held with
  | nil => rfl
  | cons a rest ih =>
      cases a with
      | interrupted => exact ih h
      | chunk bytes =>
          simp only [readLineFrom] at h ⊢
          cases hc : cutLine? bytes with
          | none =>
              rw [hc] at h
              exact ih h
          | some p =>
              rw [hc] at h
              cases h

/-- What is read without a line feed behind it is lost. -/
theorem readLine_failed {s : Inbound} {cause : SystemError}
    (h : s.readLine.outcome = .error cause) : s.readLine.rest.unread = [] := by
  unfold readLine at h ⊢
  cases hc : cutLine? s.buffer with
  | none =>
      rw [hc] at h
      exact readLineFrom_failed h
  | some p =>
      rw [hc] at h
      cases h

theorem readRest_failed {code : Nat} {s : Inbound} {e : Failure}
    (h : (s.readRest code).outcome = .error e) : (s.readRest code).rest.unread = [] := by
  fun_induction readRest code s with
  | case1 s cause hline => exact readLine_failed hline
  | case2 s octets hline line hends => cases h
  | case3 s octets hline line hends rest ih => exact ih h

theorem readReply_failed {s : Inbound} {cause : SystemError}
    (h : s.readReply.outcome = .error (receivingFailed cause)) :
    s.readReply.rest.unread = [] := by
  unfold readReply at h ⊢
  split at h
  · rename_i cause' hline
    exact readLine_failed hline
  · rename_i octets hline
    dsimp only at h ⊢
    split at h
    · cases h
    · cases h
    · rename_i code hhead
      cases hrest : (readRest code s.readLine.rest).outcome with
      | error e => exact readRest_failed hrest
      | ok _ =>
          rw [hrest] at h
          cases h

theorem Consumes.left {s rest : Inbound} {k : Nat} (h : s.Consumes k rest) :
    rest.unread = afterLines k s.unread := by
  have hall := joinLines_take_afterLines k s.unread
  exact List.append_cancel_left (h.2.symm.trans hall.symm)

/-- What is left can be told from the outcome. -/
theorem readReply_left (s : Inbound) :
    s.readReply.rest.unread = leftBy s.readReply.outcome s.unread := by
  cases hout : s.readReply.outcome with
  | ok reply =>
      have hcut := cut_splitLines s.unread
      obtain ⟨taken, left, heq, hreply, hleft⟩ := isReply_of_readReply hcut hout
      rw [heq] at hcut
      have hlength : reply.lines.length = taken.length := by rw [hreply.lines_eq, List.length_map]
      exact ((consumes_iff hcut hleft).2 hlength).left
  | error e =>
      rcases readReply_error hout with ⟨line, rfl⟩ | rfl
      · exact (consumes_of_invalid hout).left
      · exact readReply_failed hout

end Inbound

/-- What is met behind what a reading has left.  A failure that it has told is gone. -/
def endingBy : Except Failure Reply → Ending → Ending
  | .error (.connection _ _), ending => ending.told
  | _, ending => ending

theorem Inbound.readReply_pending (s : Inbound) :
    s.readReply.left.unread = leftBy s.readReply.outcome s.unread ∧
      s.readReply.left.source.ending = endingBy s.readReply.outcome s.source.ending := by
  rw [← s.readReply_left, ← s.readReply_ending]
  refine ⟨s.readReply.left_unread, ?_⟩
  unfold Reading.left
  cases s.readReply.outcome with
  | ok reply => rfl
  | error e => cases e <;> rfl

/-! ## Acts on the control connection -/

/-- What may happen to the control connection. -/
inductive ControlAct (ν : Type) where
  | connect (host : String) (port : UInt16)
  | send (line : String)
  | receive
  | peerAddress
  | close
  | reset
  | probe
  /-- Something happens elsewhere. -/
  | elapse (delivery : Delivery) (network : ν)

namespace ControlAct

/-- What an act gives back. -/
inductive Result where
  | opened (value : Except Failure Unit)
  | sent (value : Except Failure Unit)
  | received (value : Except Failure Reply)
  | address (value : Except Failure String)
  | probed (value : Except Failure Bool)
  | done

def isProbe {ν : Type} : ControlAct ν → Bool
  | probe => true
  | _ => false

end ControlAct

/-- An act as it is seen from outside: the far side that it met, what it gave back, and the octets
that it put on the connection. -/
structure ControlEvent (ν : Type) where
  act : ControlAct ν
  network : ν
  result : ControlAct.Result
  sent : List UInt8

namespace Session

variable {ν : Type} [Network ν]

def yields {α : Type} (result : Except Failure α → ControlAct.Result) (o : Outcome ν α) :
    ControlAct.Result × Session ν :=
  (result o.value, o.session)

def act (s : Session ν) : ControlAct ν → ControlAct.Result × Session ν
  | .connect host port => yields .opened (s.openControl host port)
  | .send line => yields .sent (s.send line)
  | .receive => yields .received s.receive
  | .peerAddress => (.address s.peerAddress, s)
  | .close => (.done, s.closeControl)
  | .reset => (.done, s.resetControl)
  | .probe => yields .probed s.probe
  | .elapse delivery network => (.done, s.settle ⟨(), delivery, network⟩)

/-- The session after acts. -/
def acts (s : Session ν) (as : List (ControlAct ν)) : Session ν :=
  as.foldl (fun t a => (t.act a).2) s

def event (s : Session ν) (a : ControlAct ν) : ControlEvent ν :=
  { act := a
    network := s.network
    result := (s.act a).1
    sent := sentBytes ((s.act a).2.journal.drop s.journal.length) }

/-- What is seen of acts. -/
def trace (s : Session ν) : List (ControlAct ν) → List (ControlEvent ν)
  | [] => []
  | a :: rest => s.event a :: trace (s.act a).2 rest

@[simp] theorem acts_cons (s : Session ν) (a : ControlAct ν) (rest : List (ControlAct ν)) :
    s.acts (a :: rest) = (s.act a).2.acts rest := rfl

/-! ## Journals -/

/-- The session with entries that were written before its own. -/
def behind (earlier : List Entry) (s : Session ν) : Session ν :=
  { s with past := s.past ++ earlier }

end Session

namespace Outcome

variable {ν α : Type}

/-- The outcome in a session with entries that were written before. -/
def behind (earlier : List Entry) (o : Outcome ν α) : Outcome ν α :=
  ⟨o.value, o.session.behind earlier⟩

end Outcome

namespace Session

variable {ν : Type} (earlier : List Entry)

theorem andThen_behind {α β : Type} {next : α → Session ν → Outcome ν β}
    (hnext : ∀ a t, next a (t.behind earlier) = (next a t).behind earlier) (o : Outcome ν α) :
    (o.behind earlier).andThen next = (o.andThen next).behind earlier := by
  obtain ⟨value, t⟩ := o
  cases value with
  | ok a => exact hnext a t
  | error e => rfl

theorem record_behind (entries : List Entry) (s : Session ν) :
    (s.behind earlier).record entries = (s.record entries).behind earlier := by
  unfold record behind
  rw [List.append_assoc]

theorem behind_control (s : Session ν) : (s.behind earlier).control = s.control := rfl

theorem receive_behind (s : Session ν) :
    (s.behind earlier).receive = s.receive.behind earlier := by
  unfold receive
  rw [behind_control]
  cases s.control with
  | none => rfl
  | some c =>
      dsimp only
      have hrecord := record_behind earlier
        (c.inbound.readReply.lines.map fun line => .log .trace .reply ("CC IN: " ++ quote line))
        { s with control := some { c with inbound := c.inbound.readReply.left } }
      cases c.inbound.readReply.outcome with
      | error e => exact congrArg (Outcome.mk _) hrecord
      | ok reply =>
          exact congrArg (fun t => Outcome.mk (.ok reply) (t.wire (.received reply))) hrecord

theorem probe_behind (s : Session ν) : (s.behind earlier).probe = s.probe.behind earlier := by
  unfold probe
  rw [behind_control]
  cases s.control with
  | none => rfl
  | some c =>
      dsimp only
      by_cases hunread : c.inbound.unread ≠ []
      · rw [if_pos hunread, if_pos hunread]
        rfl
      · rw [if_neg hunread, if_neg hunread]
        cases c.inbound.source.ending.untold? with
        | some cause => rfl
        | none =>
            dsimp only
            by_cases hclosed : c.inbound.source.ending = .closed
            · rw [if_pos hclosed, if_pos hclosed]
              rfl
            · rw [if_neg hclosed, if_neg hclosed]
              rfl

variable [Network ν]

theorem closeControl_behind (s : Session ν) :
    (s.behind earlier).closeControl = s.closeControl.behind earlier := by
  unfold closeControl
  rw [behind_control]
  cases s.control <;> rfl

theorem resetControl_behind (s : Session ν) :
    (s.behind earlier).resetControl = s.resetControl.behind earlier := by
  unfold resetControl
  rw [behind_control]
  cases s.control with
  | none => rfl
  | some c =>
      exact closeControl_behind earlier (s.log .debug .control "Resetting control connection")

theorem dial_behind (target : Endpoint) (s : Session ν) :
    (s.behind earlier).dial target = ((s.dial target).1, (s.dial target).2.behind earlier) := by
  unfold dial
  have hnetwork : (s.behind earlier).network = s.network := rfl
  have hoptions : (s.behind earlier).options = s.options := rfl
  rw [hnetwork, hoptions]
  generalize Network.connect target s.network = attempted
  obtain ⟨attempt, network⟩ := attempted
  dsimp only
  cases attempt.underLimits s.options with
  | ok first => rfl
  | error cause => cases attempt.isEstablished <;> rfl

theorem dialAny_behind (port : UInt16) (cause : SystemError) (addresses : List String)
    (s : Session ν) :
    dialAny port cause addresses (s.behind earlier) =
      (dialAny port cause addresses s).behind earlier := by
  induction addresses generalizing s cause with
  | nil => rfl
  | cons address rest ih =>
      unfold dialAny
      dsimp only
      rw [log_eq_record, log_eq_record, record_behind, dial_behind]
      generalize dial ⟨address, port⟩ (s.record _) = dialled
      obtain ⟨value, t⟩ := dialled
      cases value with
      | ok _ => rfl
      | error cause' =>
          dsimp only
          rw [log_eq_record, log_eq_record, record_behind]
          exact ih cause' _

theorem openControl_behind (host : String) (port : UInt16) (s : Session ν) :
    (s.behind earlier).openControl host port = (s.openControl host port).behind earlier := by
  unfold openControl
  dsimp only
  rw [closeControl_behind, log_eq_record, log_eq_record, record_behind]
  generalize s.closeControl.record _ = t
  have hnetwork : (t.behind earlier).network = t.network := rfl
  rw [hnetwork]
  cases Network.resolve t.network host with
  | error cause => rfl
  | ok addresses =>
      dsimp only
      rw [dialAny_behind]
      exact andThen_behind earlier (fun _ _ => rfl) _

theorem write_behind (bytes : List UInt8) (s : Session ν) :
    (s.behind earlier).write bytes = ((s.write bytes).1, (s.write bytes).2.behind earlier) := by
  have huntold : (s.behind earlier).untold? = s.untold? := rfl
  unfold write
  rw [huntold]
  cases s.untold? <;> rfl

theorem send_behind (line : String) (s : Session ν) :
    (s.behind earlier).send line = (s.send line).behind earlier := by
  unfold send
  rw [behind_control]
  cases s.control with
  | none => rfl
  | some c =>
      dsimp only
      rw [write_behind]
      generalize s.write (Utf8.encode (line ++ lineEnd)) = written
      obtain ⟨result, t⟩ := written
      cases result <;> rfl

/-- No act looks at the journal. -/
theorem act_behind (s : Session ν) (a : ControlAct ν) :
    (s.behind earlier).act a = ((s.act a).1, (s.act a).2.behind earlier) := by
  cases a with
  | connect host port => exact congrArg (yields .opened) (openControl_behind earlier host port s)
  | send line => exact congrArg (yields .sent) (send_behind earlier line s)
  | receive => exact congrArg (yields .received) (receive_behind earlier s)
  | peerAddress => rfl
  | close => exact congrArg (Prod.mk _) (closeControl_behind earlier s)
  | reset => exact congrArg (Prod.mk _) (resetControl_behind earlier s)
  | probe => exact congrArg (yields .probed) (probe_behind earlier s)
  | elapse delivery network => rfl

theorem event_behind (s : Session ν) (a : ControlAct ν) :
    (s.behind earlier).event a = s.event a := by
  have hjournal : ∀ t : Session ν, (t.behind earlier).journal = earlier.reverse ++ t.journal :=
    fun t => List.reverse_append
  unfold event
  rw [act_behind, hjournal, hjournal, List.length_append, List.drop_length_add_append]
  rfl

theorem trace_behind (s : Session ν) (as : List (ControlAct ν)) :
    (s.behind earlier).trace as = s.trace as := by
  induction as generalizing s with
  | nil => rfl
  | cons a rest ih =>
      unfold trace
      rw [event_behind, act_behind]
      exact congrArg _ (ih _)

/-- What was written into the journal cannot be seen afterwards. -/
theorem trace_record (entries : List Entry) (s : Session ν) (as : List (ControlAct ν)) :
    (s.record entries).trace as = s.trace as := by
  let fresh : Session ν := { s with past := [] }
  calc (s.record entries).trace as
    _ = (fresh.behind (entries.reverse ++ s.past)).trace as := rfl
    _ = fresh.trace as := trace_behind _ fresh as
    _ = (fresh.behind s.past).trace as := (trace_behind _ fresh as).symm
    _ = s.trace as := rfl

end Session

/-! ## The account of a connection -/

namespace Ending

/-- The far side is gone. -/
def isHangUp : Ending → Bool
  | quiet => false
  | closed => true
  | failed cause => cause.isDisconnection

end Ending

namespace Delivery

/-- What is delivered together with what follows.  Nothing follows an end. -/
def extend (later d : Delivery) : Delivery :=
  match d.ending with
  | .quiet => ⟨d.bytes ++ later.bytes, later.ending⟩
  | _ => d

/-- What is left once a probe has looked.  It is told of a failure only where no octets are
left. -/
def seen (d : Delivery) : Delivery :=
  if d.bytes = [] then ⟨[], d.ending.told⟩ else d

end Delivery

namespace ControlEvent

variable {ν : Type} [Network ν]

/-- What the first endpoint that takes the connection begins with. -/
def firstDelivery (o : Options) (port : UInt16) : List String → ν → Option Delivery
  | [], _ => none
  | address :: rest, n =>
      let (attempt, m) := Network.connect ⟨address, port⟩ n
      match attempt.underLimits o with
      | .ok first => some first
      | .error _ =>
          firstDelivery o port rest (if attempt.isEstablished then Network.hangUp m else m)

/-- What a connection to a host begins with, if one is established. -/
def greeting (o : Options) (host : String) (port : UInt16) (n : ν) : Option Delivery :=
  match Network.resolve n host with
  | .error _ => none
  | .ok addresses => firstDelivery o port addresses n

/-- The account after an event: what was sent on the connection that is held and was not read,
and what is met behind it.  Only what is seen from outside enters, so nothing is said here about
where octets are kept until they are read. -/
def accountAfter (o : Options) (held : Option Delivery) (e : ControlEvent ν) : Option Delivery :=
  match e.act, e.result with
  | .connect host port, _ =>
      greeting o host port (if held.isSome then Network.hangUp e.network else e.network)
  | .send line, _ => held.map fun d =>
      if d.ending.untold?.isSome then ⟨d.bytes, d.ending.told⟩
      else (Network.send (Utf8.encode (line ++ lineEnd)) e.network).delivery.extend d
  | .receive, .received value =>
      held.map fun d => ⟨leftBy value d.bytes, endingBy value d.ending⟩
  | .probe, _ => held.map Delivery.seen
  | .close, _ | .reset, _ => none
  | .elapse delivery _, _ => held.map delivery.extend
  | _, _ => held

def account (o : Options) (events : List (ControlEvent ν)) : Option Delivery :=
  events.foldl (accountAfter o) none

end ControlEvent

/-- What is still to be read, and what is met behind it. -/
def ControlLink.pending (c : ControlLink) : Delivery :=
  ⟨c.inbound.unread, c.inbound.source.ending⟩

namespace Session

variable {ν : Type}

def pending (s : Session ν) : Option Delivery :=
  s.control.map ControlLink.pending

theorem settle_pending {α : Type} (r : Reaction ν α) (s : Session ν) :
    (s.settle r).pending = s.pending.map r.delivery.extend := by
  unfold pending settle
  rw [Option.map_map, Option.map_map]
  congr 1
  funext c
  show Delivery.mk _ _ = Delivery.extend _ ⟨_, _⟩
  unfold Delivery.extend
  cases hending : c.inbound.source.ending with
  | quiet =>
      dsimp only
      rw [Inbound.receive_quiet hending]
      unfold Inbound.receive
      rw [hending]
  | closed | failed =>
      have hended : c.inbound.source.ending ≠ .quiet := by simp [hending]
      dsimp only
      rw [Inbound.receive_ended hended, hending]

theorem pending_of_none {s : Session ν} (h : s.control = none) : s.pending = none := by
  unfold pending
  rw [h]
  rfl

theorem informed_pending (s : Session ν) :
    s.informed.pending = s.pending.map fun d => ⟨d.bytes, d.ending.told⟩ := by
  unfold pending informed
  rw [Option.map_map, Option.map_map]
  rfl

theorem receive_pending (s : Session ν) :
    s.receive.session.pending = s.pending.map fun d =>
      ⟨leftBy s.receive.value d.bytes, endingBy s.receive.value d.ending⟩ := by
  unfold receive pending
  cases hc : s.control with
  | none =>
      dsimp only
      rw [hc]
      rfl
  | some c =>
      obtain ⟨hleft, hending⟩ := c.inbound.readReply_pending
      dsimp only [Option.map_some, ControlLink.pending]
      cases hout : c.inbound.readReply.outcome with
      | error e =>
          rw [hout] at hleft hending
          rw [← hleft, ← hending]
          rfl
      | ok reply =>
          rw [hout] at hleft hending
          rw [← hleft, ← hending]
          rfl

theorem probe_pending (s : Session ν) : s.probe.session.pending = s.pending.map Delivery.seen := by
  unfold probe
  cases hc : s.control with
  | none => rw [pending_of_none hc, Option.map_none]
  | some c =>
      have hpending : s.pending = some c.pending := by rw [pending, hc]; rfl
      dsimp only
      by_cases hunread : c.inbound.unread ≠ []
      · rw [if_pos hunread, hpending]
        exact congrArg some (if_neg hunread).symm
      · rw [if_neg hunread, hpending]
        replace hunread : c.inbound.unread = [] := not_not.1 hunread
        have hseen : c.pending.seen = ⟨[], c.inbound.source.ending.told⟩ := if_pos hunread
        rw [Option.map_some, hseen]
        cases huntold : c.inbound.source.ending.untold? with
        | some cause =>
            dsimp only
            rw [informed_pending, hpending]
            exact congrArg (fun bytes => some (Delivery.mk bytes _)) hunread
        | none =>
            -- Where there is no failure there is nothing to be told of.
            have hsame : s.pending = some ⟨[], c.inbound.source.ending.told⟩ := by
              rw [hpending, ControlLink.pending, hunread, Ending.told, huntold]
              rfl
            dsimp only
            split
            · exact hsame
            · exact hsame

variable [Network ν]

/-- A connection begins with what the first endpoint delivers that takes it. -/
theorem dialAny_pending (port : UInt16) (cause : SystemError) (addresses : List String)
    {s : Session ν} (hs : s.control = none) :
    (dialAny port cause addresses s).session.pending =
      ControlEvent.firstDelivery s.options port addresses s.network := by
  induction addresses generalizing s cause with
  | nil => exact pending_of_none hs
  | cons address rest ih =>
      unfold dialAny ControlEvent.firstDelivery dial
      dsimp only
      rw [log_eq_record, record_network, record_options]
      generalize Network.connect (⟨address, port⟩ : Endpoint) s.network = attempted
      obtain ⟨attempt, m⟩ := attempted
      dsimp only
      cases attempt.underLimits s.options with
      | ok first =>
          have hbytes : (Inbound.ofSource ⟨[.chunk first.bytes], first.ending⟩).unread =
              first.bytes := by
            simp [Inbound.unread, Inbound.ofSource, Source.bytes, Arrival.bytes]
          exact congrArg (fun bytes => some (Delivery.mk bytes first.ending)) hbytes
      | error cause' =>
          dsimp only
          cases attempt.isEstablished with
          | true => exact ih cause' hs
          | false => exact ih cause' hs

theorem closeControl_network (s : Session ν) :
    s.closeControl.network = if s.pending.isSome then Network.hangUp s.network else s.network := by
  unfold closeControl pending
  cases s.control <;> rfl

theorem openControl_pending (host : String) (port : UInt16) (s : Session ν) :
    (s.openControl host port).session.pending = ControlEvent.greeting s.options host port
      (if s.pending.isSome then Network.hangUp s.network else s.network) := by
  obtain ⟨hkeeps, hnone, -⟩ := s.closeControl_spec
  rw [← closeControl_network, ← hkeeps.options]
  unfold openControl ControlEvent.greeting
  dsimp only
  rw [log_eq_record, record_network]
  cases Network.resolve s.closeControl.network host with
  | error cause => exact pending_of_none hnone
  | ok addresses =>
      dsimp only
      have hdialled := dialAny_pending port .noAddress addresses
        (s := s.closeControl.record [.log .debug .control
          ("Connecting to " ++ host ++ ":" ++ PortNumber.toString port)]) hnone
      rw [record_options, record_network] at hdialled
      rw [← hdialled]
      generalize dialAny port .noAddress addresses (s.closeControl.record _) = o
      obtain ⟨value, t⟩ := o
      cases value <;> rfl

theorem write_pending (bytes : List UInt8) (s : Session ν) :
    (s.write bytes).2.pending = s.pending.map fun d =>
      if d.ending.untold?.isSome then ⟨d.bytes, d.ending.told⟩
      else (Network.send bytes s.network).delivery.extend d := by
  unfold write
  cases hc : s.control with
  | none =>
      rw [untold?, hc, pending_of_none hc]
      exact pending_of_none (by simp [settle, hc])
  | some c =>
      have hpending : s.pending = some c.pending := by rw [pending, hc]; rfl
      have huntold : s.untold? = c.pending.ending.untold? := by rw [untold?, hc]; rfl
      rw [huntold, hpending, Option.map_some]
      cases c.pending.ending.untold? with
      | some cause =>
          dsimp only
          rw [informed_pending, hpending]
          rfl
      | none =>
          dsimp only
          rw [settle_pending, hpending]
          rfl

theorem send_pending (line : String) (s : Session ν) :
    (s.send line).session.pending = s.pending.map fun d =>
      if d.ending.untold?.isSome then ⟨d.bytes, d.ending.told⟩
      else (Network.send (Utf8.encode (line ++ lineEnd)) s.network).delivery.extend d := by
  have hwritten := s.write_pending (Utf8.encode (line ++ lineEnd))
  unfold send
  cases hc : s.control with
  | none => rw [pending_of_none hc, Option.map_none]
  | some c =>
      rw [← hwritten]
      dsimp only
      generalize s.write (Utf8.encode (line ++ lineEnd)) = written
      obtain ⟨result, t⟩ := written
      cases result <;> rfl

/-- The account is kept by every act. -/
theorem act_pending (s : Session ν) (a : ControlAct ν) :
    (s.act a).2.pending = ControlEvent.accountAfter s.options s.pending (s.event a) := by
  cases a with
  | connect host port => exact openControl_pending host port s
  | send line => exact send_pending line s
  | receive => exact receive_pending s
  | peerAddress => rfl
  | close => exact pending_of_none s.closeControl_spec.2.1
  | reset => exact pending_of_none s.resetControl_spec.2.1
  | probe => exact s.probe_pending
  | elapse delivery network => exact settle_pending ⟨(), delivery, network⟩ s

theorem act_options (s : Session ν) (a : ControlAct ν) : (s.act a).2.options = s.options := by
  cases a with
  | connect host port =>
      exact (s.openControl_ends host port).session (fun _ _ h => h.1.options)
        fun _ _ h => h.1.options
  | send line =>
      exact (s.send_ends line).session (fun _ _ h => h.1.options) fun _ _ h => h.1.options
  | receive => exact s.receive_ends.session (fun _ _ h => h.1.options) fun _ _ h => h.1.options
  | probe => exact s.probe_ends.session (fun _ _ h => h.1.options) fun _ _ h => h.1.options
  | close => exact s.closeControl_spec.1.options
  | reset => exact s.resetControl_spec.1.options
  | peerAddress | elapse => rfl

/-- What is still to be read is what the account says. -/
theorem acts_pending (s : Session ν) (as : List (ControlAct ν)) :
    (s.acts as).pending = (s.trace as).foldl (ControlEvent.accountAfter s.options) s.pending := by
  induction as generalizing s with
  | nil => rfl
  | cons a rest ih =>
      rw [acts_cons, ih, act_options, act_pending]
      rfl

end Session

/-! ## What a probe tells -/

namespace Delivery

/-- What a probe tells where this is still to be read. -/
def probed : Delivery → Except Failure Bool
  | ⟨_ :: _, _⟩ | ⟨[], .quiet⟩ => .ok true
  | ⟨[], .closed⟩ => .ok false
  | ⟨[], .failed cause⟩ =>
      if cause = .timedOut then .ok true
      else if cause.isDisconnection then .ok false
      else .error (.connection .probing cause)

theorem probed_of_bytes {d : Delivery} (h : d.bytes ≠ []) : d.probed = .ok true := by
  obtain ⟨bytes, ending⟩ := d
  cases bytes with
  | nil => exact absurd rfl h
  | cons b bytes => rfl

/-- The causes of a failure fall under one of three kinds, as no disconnection is a time-out. -/
theorem probed_failed (cause : SystemError) :
    cause = .timedOut ∧ cause.isDisconnection = false ∧ probed ⟨[], .failed cause⟩ = .ok true ∨
    cause ≠ .timedOut ∧ cause.isDisconnection ∧ probed ⟨[], .failed cause⟩ = .ok false ∨
    cause ≠ .timedOut ∧ cause.isDisconnection = false ∧
      probed ⟨[], .failed cause⟩ = .error (.connection .probing cause) := by
  by_cases htimedOut : cause = .timedOut
  · obtain rfl := htimedOut
    exact Or.inl ⟨rfl, rfl, rfl⟩
  · cases hgone : cause.isDisconnection <;> simp [probed, htimedOut, hgone]

theorem probed_eq_false_iff (d : Delivery) :
    d.probed = .ok false ↔ d.bytes = [] ∧ d.ending.isHangUp := by
  obtain ⟨bytes, ending⟩ := d
  cases bytes with
  | cons b bytes => simp [probed]
  | nil =>
      cases ending with
      | quiet | closed => simp [probed, Ending.isHangUp]
      | failed cause =>
          obtain ⟨-, hgone, hprobed⟩ | ⟨-, hgone, hprobed⟩ | ⟨-, hgone, hprobed⟩ :=
            probed_failed cause <;> simp [hprobed, hgone, Ending.isHangUp]

theorem probed_eq_error_iff (d : Delivery) (e : Failure) : d.probed = .error e ↔
    ∃ cause, d = ⟨[], .failed cause⟩ ∧ cause ≠ .timedOut ∧ cause.isDisconnection = false ∧
      e = .connection .probing cause := by
  constructor
  · intro h
    obtain ⟨bytes, ending⟩ := d
    cases bytes with
    | cons b bytes => cases h
    | nil =>
        cases ending with
        | quiet | closed => cases h
        | failed cause =>
            obtain ⟨-, -, hprobed⟩ | ⟨-, -, hprobed⟩ | ⟨htimedOut, hgone, hprobed⟩ :=
              probed_failed cause <;> rw [hprobed] at h
            · cases h
            · cases h
            · exact ⟨cause, rfl, htimedOut, hgone, (Except.error.inj h).symm⟩
  · intro h
    obtain ⟨cause, rfl, htimedOut, hgone, rfl⟩ := h
    simp [probed, htimedOut, hgone]

end Delivery

namespace Session

variable {ν : Type}

theorem probe_value (s : Session ν) :
    s.probe.value = s.pending.elim (.ok false) Delivery.probed := by
  unfold probe pending
  cases s.control with
  | none => rfl
  | some c =>
      dsimp only [Option.map_some, Option.elim_some, ControlLink.pending]
      cases c.inbound.unread with
      | cons b bytes => rfl
      | nil =>
          cases c.inbound.source.ending with
          | quiet | closed => rfl
          | failed cause =>
              dsimp only [Delivery.probed, Ending.untold?]
              rw [if_neg (not_not.2 rfl)]
              by_cases htimedOut : cause = .timedOut
              · rw [if_pos htimedOut, if_pos htimedOut]
                rfl
              · rw [if_neg htimedOut, if_neg htimedOut]

end Session

/-! ## What a probe changes -/

namespace Ending

theorem untold_told (e : Ending) : e.told.untold? = none := by
  unfold told
  split
  · rfl
  · next h => exact Option.not_isSome_iff_eq_none.1 h

theorem eq_failed_of_untold {e : Ending} {cause : SystemError} (h : e.untold? = some cause) :
    e = failed cause := by
  cases e with
  | quiet | closed => cases h
  | failed cause' =>
      dsimp only [untold?] at h
      by_cases htimedOut : cause' = .timedOut
      · rw [if_pos htimedOut] at h
        cases h
      · rw [if_neg htimedOut] at h
        rw [Option.some.inj h]

end Ending

namespace Delivery

/-- Nothing is left but a failure of the connection that no act has been told of. -/
def Fails (d : Delivery) : Prop :=
  d.bytes = [] ∧ d.ending.untold?.isSome

/-- The connection has not failed, or an act has been told that it has. -/
def Holds (d : Delivery) : Prop :=
  d.ending.untold? = Option.none

theorem Holds.not_fails {d : Delivery} (h : d.Holds) : ¬ d.Fails := by
  intro hfails
  rw [Fails, h] at hfails
  cases hfails.2

theorem Holds.extend {later d : Delivery} (hlater : later.Holds) (hd : d.Holds) :
    (later.extend d).Holds := by
  unfold Delivery.extend
  split
  · exact hlater
  · exact hd

end Delivery

/-- A far side that sends and hangs up, and whose connections do not fail otherwise, as a server
that plays a script. -/
structure Steady (ν : Type) [Network ν] : Prop where
  connect : ∀ target (n : ν) first,
    (Network.connect target n).1 = .established first → first.Holds
  send : ∀ bytes (n : ν), (Network.send bytes n).delivery.Holds

/-- What happens elsewhere during the act does not make the connection fail. -/
def ControlAct.IsSteady {ν : Type} : ControlAct ν → Prop
  | .elapse delivery _ => delivery.Holds
  | _ => True

namespace Session

variable {ν : Type} [Network ν] {s : Session ν}

omit [Network ν] in
theorem exists_probe_record (h : ∀ d, s.pending = some d → ¬ d.Fails) :
    ∃ entries, s.probe.session = s.record entries := by
  unfold probe
  cases hc : s.control with
  | none => exact ⟨[], rfl⟩
  | some c =>
      dsimp only
      by_cases hunread : c.inbound.unread ≠ []
      · rw [if_pos hunread]
        exact ⟨[], rfl⟩
      · rw [if_neg hunread]
        cases huntold : c.inbound.source.ending.untold? with
        | some cause =>
            have hpending : s.pending = some c.pending := by rw [pending, hc]; rfl
            have hfails : c.pending.Fails := by
              refine ⟨not_not.1 hunread, ?_⟩
              rw [ControlLink.pending, huntold]
              rfl
            exact absurd hfails (h _ hpending)
        | none =>
            dsimp only
            split
            · exact ⟨_, rfl⟩
            · exact ⟨[], rfl⟩

/-- Runs that differ in probes only are the same to everything but the probes, as long as no
probe looks at a connection that has failed. -/
theorem trace_others (s : Session ν) (as : List (ControlAct ν))
    (h : ∀ before rest, as = before ++ .probe :: rest →
      ∀ d, (s.acts before).pending = some d → ¬ d.Fails) :
    (s.trace as).filter (fun e => !e.act.isProbe) = s.trace (as.filter fun a => !a.isProbe) := by
  induction as generalizing s with
  | nil => rfl
  | cons a rest ih =>
      have hrest : ∀ before more, rest = before ++ .probe :: more →
          ∀ d, ((s.act a).2.acts before).pending = some d → ¬ d.Fails := by
        intro before more heq
        exact h (a :: before) more (by rw [heq]; rfl)
      cases a with
      | probe =>
          obtain ⟨entries, hprobe⟩ : ∃ entries, s.probe.session = s.record entries :=
            exists_probe_record (h [] rest rfl)
          calc (s.trace (.probe :: rest)).filter (fun e => !e.act.isProbe)
            _ = (s.probe.session.trace rest).filter (fun e => !e.act.isProbe) := rfl
            _ = s.probe.session.trace (rest.filter fun a => !a.isProbe) := ih _ hrest
            _ = s.trace (rest.filter fun a => !a.isProbe) := by rw [hprobe, trace_record]
      | _ => exact congrArg (List.cons _) (ih _ hrest)

omit [Network ν] in
/-- A probe that looks at a connection which has failed is told of it in the place of the act
behind it. -/
theorem receive_after_probe {c : ControlLink} {cause : SystemError} (hc : s.control = some c)
    (hunread : c.inbound.unread = []) (hcause : c.inbound.source.ending.untold? = some cause) :
    s.receive.value = .error (Inbound.receivingFailed cause) ∧
      s.probe.session.receive.value = .error (Inbound.receivingFailed .endOfReplies) := by
  have hread (t : Session ν) (link : ControlLink) (ht : t.control = some link)
      (hlink : link.inbound.unread = []) : t.receive.value =
        .error (Inbound.receivingFailed (Inbound.shortage link.inbound.source.ending)) := by
    have hempty : Cut link.inbound.unread [] [] := by
      rw [hlink]
      exact cut_splitLines []
    unfold receive
    rw [ht]
    dsimp only
    rw [Inbound.readReply_empty hempty]
  have hprobed : s.probe.session = s.informed := by
    unfold probe
    rw [hc]
    dsimp only
    rw [if_neg (not_not.2 hunread), hcause]
  have hinformed : s.informed.control = some { c with inbound := c.inbound.told } := by
    rw [informed, hc]
    rfl
  have htold : c.inbound.source.ending.told = .closed := by
    rw [Ending.told, hcause]
    rfl
  rw [hprobed, hread s c hc hunread, hread s.informed _ hinformed hunread]
  rw [Ending.eq_failed_of_untold hcause]
  refine ⟨rfl, ?_⟩
  show Except.error (Inbound.receivingFailed
    (Inbound.shortage c.inbound.source.ending.told)) = _
  rw [htold]
  rfl

theorem firstDelivery_steady (h : Steady ν) (o : Options) (port : UInt16)
    (addresses : List String) (n : ν) {first : Delivery}
    (hfirst : ControlEvent.firstDelivery o port addresses n = some first) : first.Holds := by
  induction addresses generalizing n with
  | nil => cases hfirst
  | cons address rest ih =>
      unfold ControlEvent.firstDelivery at hfirst
      have hconnect := h.connect ⟨address, port⟩ n
      generalize Network.connect (⟨address, port⟩ : Endpoint) n = attempted at hfirst hconnect
      obtain ⟨attempt, m⟩ := attempted
      dsimp only at hfirst hconnect
      cases hlimits : attempt.underLimits o with
      | ok value =>
          rw [hlimits] at hfirst
          obtain rfl := Option.some.inj hfirst
          exact hconnect value (Attempt.underLimits_eq_ok hlimits)
      | error cause =>
          rw [hlimits] at hfirst
          exact ih _ hfirst

theorem act_steady (h : Steady ν) {a : ControlAct ν} (ha : a.IsSteady)
    (hs : ∀ d ∈ s.pending, d.Holds) : ∀ d ∈ (s.act a).2.pending, d.Holds := by
  have hmap (f : Delivery → Delivery) (hf : ∀ d, d.Holds → (f d).Holds) :
      ∀ d ∈ s.pending.map f, d.Holds := by
    intro d hd
    obtain ⟨d', hd', rfl⟩ := Option.mem_map.1 hd
    exact hf d' (hs d' hd')
  have htold (d : Delivery) : Delivery.Holds ⟨d.bytes, d.ending.told⟩ :=
    d.ending.untold_told
  rw [act_pending]
  cases a with
  | connect host port =>
      intro d hd
      unfold ControlEvent.accountAfter ControlEvent.greeting at hd
      dsimp only [event] at hd
      split at hd
      · cases hd
      · exact firstDelivery_steady h _ _ _ _ hd
  | send line =>
      refine hmap _ fun d hd => ?_
      rw [if_neg (by rw [hd]; exact Bool.false_ne_true)]
      exact (h.send _ _).extend hd
  | receive =>
      refine hmap _ fun d hd => ?_
      unfold endingBy
      split
      · exact htold d
      · exact hd
  | probe =>
      refine hmap _ fun d hd => ?_
      unfold Delivery.seen
      split
      · exact htold d
      · exact hd
  | peerAddress => exact hs
  | close | reset => exact fun _ hd => nomatch hd
  | elapse delivery network => exact hmap _ fun d hd => Delivery.Holds.extend ha hd

theorem acts_steady (h : Steady ν) {as : List (ControlAct ν)} (has : ∀ a ∈ as, a.IsSteady)
    (hs : ∀ d ∈ s.pending, d.Holds) : ∀ d ∈ (s.acts as).pending, d.Holds := by
  induction as generalizing s with
  | nil => exact hs
  | cons a rest ih =>
      obtain ⟨ha, hrest⟩ := List.forall_mem_cons.1 has
      exact ih hrest (act_steady h ha hs)

/-- A server that sends one reply and hangs up is there until the reply was read. -/
example :
    let server : Scripted.Server := .start true ⟨"127.0.0.1", 2121⟩
      [[⟨Utf8.encode "421 Closing\r\n", none, true⟩]] []
    let s := start .default .empty ⟨[], []⟩ server
    (s.acts [.connect "127.0.0.1" 2121]).probe.value = .ok true ∧
      (s.acts [.connect "127.0.0.1" 2121, .receive]).probe.value = .ok false := by
  decide +kernel

end Session

namespace Scripted.Server

theorem play_holds (bytes : List UInt8) (p : Play) : Delivery.Holds ⟨bytes, p.ending⟩ := by
  unfold Delivery.Holds Play.ending
  split <;> rfl

/-- A server that plays a script sends and hangs up. -/
theorem steady : Steady Server where
  connect target n first h := by
    replace h : (n.connect target).1 = .established first := h
    unfold connect at h
    split at h
    · cases h
    · split at h
      · cases h
      · split at h
        · cases h
        · obtain rfl := Attempt.established.inj h
          exact play_holds _ _
  send bytes n := by
    show (n.send bytes).delivery.Holds
    unfold send
    split
    · rfl
    · exact play_holds _ _

end Scripted.Server
end FtpClient
