import FtpClient.Failure
import FtpClient.Files.Tree
import FtpClient.Journal

/-
The state of a session and the acts that all its parts share: writing the
journal, telling the observers, and moving the network.
-/

namespace FtpClient

/-- The control connection: what was dialled and what is to be read from it. -/
structure ControlLink where
  peer : Endpoint
  inbound : Inbound
deriving DecidableEq, Repr

/-- A data connection: where it leads and what is to be read from it. -/
structure DataLink where
  remote : Endpoint
  source : Source
deriving DecidableEq, Repr

/-- A client together with all that it works on. -/
structure Session (ν : Type) where
  options : Options
  observers : Observers
  control : Option ControlLink
  data : Option DataLink
  files : FileTree
  network : ν
  /-- The journal, last entry first. -/
  past : List Entry

/-- What an act comes to: its value or its failure, and the session after it.
What an act did before it failed remains. -/
structure Outcome (ν α : Type) where
  value : Except Failure α
  session : Session ν

namespace Outcome

variable {ν α β : Type}

/-- Go on from the value.  A failure is passed on. -/
def andThen (o : Outcome ν α) (next : α → Session ν → Outcome ν β) : Outcome ν β :=
  match o.value with
  | .ok a => next a o.session
  | .error e => ⟨.error e, o.session⟩

def map (f : α → β) (o : Outcome ν α) : Outcome ν β :=
  ⟨o.value.map f, o.session⟩

@[simp] theorem andThen_ok (a : α) (s : Session ν) (next : α → Session ν → Outcome ν β) :
    (Outcome.mk (.ok a) s).andThen next = next a s := rfl

@[simp] theorem andThen_error (e : Failure) (s : Session ν)
    (next : α → Session ν → Outcome ν β) :
    (Outcome.mk (.error e) s).andThen next = ⟨.error e, s⟩ := rfl

end Outcome

namespace Session

variable {ν : Type}

def start (options : Options) (observers : Observers) (files : FileTree) (network : ν) :
    Session ν :=
  { options, observers, files, network, control := none, data := none, past := [] }

def journal (s : Session ν) : List Entry :=
  s.past.reverse

/-- Write entries into the journal. -/
def record (entries : List Entry) (s : Session ν) : Session ν :=
  { s with past := entries.reverse ++ s.past }

@[simp] theorem journal_start (options : Options) (observers : Observers) (files : FileTree)
    (network : ν) : (start options observers files network).journal = [] := rfl

@[simp] theorem journal_record (entries : List Entry) (s : Session ν) :
    (s.record entries).journal = s.journal ++ entries := by
  simp [journal, record]

def log (level : Level) (component : Component) (text : String) (s : Session ν) : Session ν :=
  s.record [.log level component text]

def wire (event : WireEvent) (s : Session ν) : Session ν :=
  s.record [.wire event]

/-- Tell every observer that is subscribed and alive, in order. -/
def notify (notice : Notice) (s : Session ν) : Session ν :=
  s.record ((s.observers.notify notice).map fun h => .heard h.1 h.2)

/-- Take over the network after an act, and what reaches the control connection
because of it. -/
def settle {α : Type} (r : Reaction ν α) (s : Session ν) : Session ν :=
  { s with
    network := r.network
    control := s.control.map fun c =>
      { c with inbound := c.inbound.receive r.delivery.bytes r.delivery.ending } }

/-- The failure of the control connection that no act has been told of. -/
def untold? (s : Session ν) : Option SystemError :=
  s.control.bind fun c => c.inbound.source.ending.untold?

/-- The session once an act has been told of the failure. -/
def informed (s : Session ν) : Session ν :=
  { s with control := s.control.map fun c => { c with inbound := c.inbound.told } }

/-! Writing the journal, taking over the network and being told of a failure leave all
else as it is. -/

/-- What was dialled for the control connection. -/
def peer (s : Session ν) : Option Endpoint :=
  s.control.map (·.peer)

def wires (s : Session ν) : List WireEvent :=
  wireEvents s.journal

@[simp] theorem log_eq_record (level : Level) (component : Component) (text : String)
    (s : Session ν) : s.log level component text = s.record [.log level component text] := rfl

@[simp] theorem wire_eq_record (event : WireEvent) (s : Session ν) :
    s.wire event = s.record [.wire event] := rfl

@[simp] theorem record_control (entries : List Entry) (s : Session ν) :
    (s.record entries).control = s.control := rfl

@[simp] theorem record_data (entries : List Entry) (s : Session ν) :
    (s.record entries).data = s.data := rfl

@[simp] theorem record_files (entries : List Entry) (s : Session ν) :
    (s.record entries).files = s.files := rfl

@[simp] theorem record_options (entries : List Entry) (s : Session ν) :
    (s.record entries).options = s.options := rfl

@[simp] theorem record_observers (entries : List Entry) (s : Session ν) :
    (s.record entries).observers = s.observers := rfl

@[simp] theorem record_network (entries : List Entry) (s : Session ν) :
    (s.record entries).network = s.network := rfl

@[simp] theorem record_peer (entries : List Entry) (s : Session ν) :
    (s.record entries).peer = s.peer := rfl

@[simp] theorem record_wires (entries : List Entry) (s : Session ν) :
    (s.record entries).wires = s.wires ++ wireEvents entries := by
  simp [wires]

@[simp] theorem notify_wires (notice : Notice) (s : Session ν) :
    (s.notify notice).wires = s.wires := by
  rw [notify, record_wires, wireEvents_heard, List.append_nil]

@[simp] theorem settle_data {α : Type} (r : Reaction ν α) (s : Session ν) :
    (s.settle r).data = s.data := rfl

@[simp] theorem settle_files {α : Type} (r : Reaction ν α) (s : Session ν) :
    (s.settle r).files = s.files := rfl

@[simp] theorem settle_options {α : Type} (r : Reaction ν α) (s : Session ν) :
    (s.settle r).options = s.options := rfl

@[simp] theorem settle_observers {α : Type} (r : Reaction ν α) (s : Session ν) :
    (s.settle r).observers = s.observers := rfl

@[simp] theorem settle_network {α : Type} (r : Reaction ν α) (s : Session ν) :
    (s.settle r).network = r.network := rfl

@[simp] theorem settle_peer {α : Type} (r : Reaction ν α) (s : Session ν) :
    (s.settle r).peer = s.peer := by
  simp [peer, settle, Function.comp_def]

@[simp] theorem settle_wires {α : Type} (r : Reaction ν α) (s : Session ν) :
    (s.settle r).wires = s.wires := rfl

@[simp] theorem settle_journal {α : Type} (r : Reaction ν α) (s : Session ν) :
    (s.settle r).journal = s.journal := rfl

@[simp] theorem informed_data (s : Session ν) : s.informed.data = s.data := rfl

@[simp] theorem informed_files (s : Session ν) : s.informed.files = s.files := rfl

@[simp] theorem informed_options (s : Session ν) : s.informed.options = s.options := rfl

@[simp] theorem informed_observers (s : Session ν) : s.informed.observers = s.observers := rfl

@[simp] theorem informed_network (s : Session ν) : s.informed.network = s.network := rfl

@[simp] theorem informed_journal (s : Session ν) : s.informed.journal = s.journal := rfl

@[simp] theorem informed_wires (s : Session ν) : s.informed.wires = s.wires := rfl

@[simp] theorem informed_peer (s : Session ν) : s.informed.peer = s.peer := by
  simp [peer, informed, Function.comp_def]

theorem peer_eq_none {s : Session ν} : s.peer = none ↔ s.control = none := by
  simp [peer]

end Session
end FtpClient
