import FtpClient.Network
import FtpClient.Observers
import FtpClient.Reply

/-
The journal of a session: all that can be seen of it from outside, in the order
in which it happened.
-/

namespace FtpClient

/-- How much a log record matters. -/
inductive Level where
  | error
  | debug
  | trace
deriving DecidableEq, Repr

/-- The part of the client that writes a log record. -/
inductive Component where
  | client
  | control
  | data
  | reply
deriving DecidableEq, Repr

/-- What happens on the connections. -/
inductive WireEvent where
  | connected (target : Endpoint)
  | sent (bytes : List UInt8)
  /-- Writing octets failed after the first `count` of them. -/
  | sentPart (bytes : List UInt8) (count : Nat)
  | received (reply : Reply)
  | disconnected
  | dataConnected (target : Endpoint)
  | dataSent (bytes : List UInt8)
  | dataClosed
deriving DecidableEq, Repr

/-- Where a program shows text. -/
inductive Screen where
  | output
  | diagnostics
deriving DecidableEq, Repr

/-- An entry of the journal. -/
inductive Entry where
  | log (level : Level) (component : Component) (text : String)
  | heard (observer : ObserverId) (notice : Notice)
  | wire (event : WireEvent)
  | shown (screen : Screen) (text : String)
deriving DecidableEq, Repr

/-- The octets that an event puts on the control connection. -/
def WireEvent.sentBytes : WireEvent → List UInt8
  | sent bytes => bytes
  | sentPart bytes count => bytes.dropLast.take count
  | _ => []

/-- The octets that an entry puts on the control connection. -/
def Entry.sentBytes : Entry → List UInt8
  | wire event => event.sentBytes
  | _ => []

/-- The octets that a journal puts on control connections. -/
def sentBytes (journal : List Entry) : List UInt8 :=
  journal.flatMap Entry.sentBytes

/-- What happens on the connections in a journal. -/
def wireEvents (journal : List Entry) : List WireEvent :=
  journal.filterMap fun
    | .wire event => some event
    | _ => none

@[simp] theorem wireEvents_nil : wireEvents [] = [] := rfl

@[simp] theorem wireEvents_append (entries entries' : List Entry) :
    wireEvents (entries ++ entries') = wireEvents entries ++ wireEvents entries' :=
  List.filterMap_append

@[simp] theorem wireEvents_log (level : Level) (component : Component) (text : String)
    (entries : List Entry) :
    wireEvents (.log level component text :: entries) = wireEvents entries := rfl

@[simp] theorem wireEvents_wire (event : WireEvent) (entries : List Entry) :
    wireEvents (.wire event :: entries) = event :: wireEvents entries := rfl

theorem wireEvents_heard (heard : List (ObserverId × Notice)) :
    wireEvents (heard.map fun h => .heard h.1 h.2) = [] := by
  induction heard with
  | nil => rfl
  | cons h heard ih => exact ih

theorem mem_wireEvents {event : WireEvent} {entries : List Entry} :
    event ∈ wireEvents entries ↔ .wire event ∈ entries := by
  unfold wireEvents
  rw [List.mem_filterMap]
  constructor
  · intro h
    obtain ⟨entry, hmem, hentry⟩ := h
    cases entry with
    | wire event' =>
        obtain rfl : event' = event := Option.some.inj hentry
        exact hmem
    | _ => cases hentry
  · intro hmem
    exact ⟨_, hmem, rfl⟩

def heardNotices (journal : List Entry) : List (ObserverId × Notice) :=
  journal.filterMap fun
    | .heard observer notice => some (observer, notice)
    | _ => none

@[simp] theorem heardNotices_append (entries entries' : List Entry) :
    heardNotices (entries ++ entries') = heardNotices entries ++ heardNotices entries' :=
  List.filterMap_append

theorem heardNotices_heard (heard : List (ObserverId × Notice)) :
    heardNotices (heard.map fun h => .heard h.1 h.2) = heard := by
  induction heard with
  | nil => rfl
  | cons h heard ih => exact congrArg (h :: ·) ih

end FtpClient
