import FtpClient.Options
import FtpClient.Stream.Inbound
import FtpClient.Text.PortNumber

/-
The network as a client sees it.  A client acts and waits, so whatever is on the
far side is a state machine that is moved by the acts of the client: it says what
each act comes to, and what reaches the control connection because of it.  At any
moment a client has at most one control connection and one data connection.
-/

namespace FtpClient

/-- A numeric address and a port. -/
structure Endpoint where
  address : String
  port : UInt16
deriving DecidableEq, Repr

namespace Endpoint

/-- The written form.  Brackets keep the colons of an address apart from that
before the port. -/
def toString (e : Endpoint) : String :=
  let address := if e.address.toList.contains ':' then "[" ++ e.address ++ "]" else e.address
  address ++ ":" ++ PortNumber.toString e.port

end Endpoint

/-- What reaches the control connection: octets, and what is met after them. -/
structure Delivery where
  bytes : List UInt8
  ending : Ending
deriving DecidableEq, Repr

namespace Delivery

def none : Delivery :=
  ⟨[], .quiet⟩

end Delivery

/-- What an attempt to connect comes to. -/
inductive Attempt (α : Type) where
  /-- The local system knows no way to the endpoint. -/
  | unroutable (cause : SystemError)
  /-- The far side did not take the connection. -/
  | rejected (cause : SystemError)
  | established (value : α)
deriving DecidableEq, Repr

namespace Attempt

/-- The outcome of an attempt under the time limits of a client.  A limit of zero
is refused, but only once there is a way to the endpoint. -/
def underLimits {α : Type} (o : Options) : Attempt α → Except SystemError α
  | unroutable cause => .error cause
  | rejected cause => .error (if o.connectTimeout = some 0 then .zeroTimeout else cause)
  | established value =>
      if o.connectTimeout = some 0 || o.readTimeout = some 0 || o.writeTimeout = some 0 then
        .error .zeroTimeout
      else .ok value

def isEstablished {α : Type} : Attempt α → Bool
  | established _ => true
  | _ => false

end Attempt

/-- What writing octets comes to. -/
inductive Written where
  | whole
  /-- Writing failed after the first `count` octets.  The last octet is never among
  them, as nothing would be left to fail then. -/
  | part (count : Nat) (cause : SystemError)
deriving DecidableEq, Repr

/-- What an act of the client comes to. -/
structure Reaction (ν α : Type) where
  result : α
  delivery : Delivery
  network : ν

/-- The far side as a state machine. -/
class Network (ν : Type) where
  resolve : ν → String → Except SystemError (List String)
  /-- Ask for the control connection.  The delivery is what it begins with. -/
  connect : Endpoint → ν → Attempt Delivery × ν
  /-- The address at the far end of the control connection, or why it cannot be
  told.  It need not be the one that was asked for. -/
  peerAddress : ν → Except SystemError String
  send : List UInt8 → ν → Reaction ν Written
  hangUp : ν → ν
  /-- Ask for a data connection.  One that was open is given up if a new one is
  established. -/
  connectData : Endpoint → ν → Reaction ν (Attempt Source)
  sendData : List UInt8 → ν → Reaction ν (Except SystemError Unit)
  hangUpData : ν → Reaction ν (Except SystemError Unit)
  /-- What happens while the client waits for its user. -/
  pause : ν → Reaction ν Unit

end FtpClient
