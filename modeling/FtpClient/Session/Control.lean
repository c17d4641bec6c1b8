import FtpClient.Command
import FtpClient.Reply.Reading
import FtpClient.Session.State

/-
The control connection: opening and closing it, writing lines and reading
replies.
-/

namespace FtpClient
namespace Session

variable {ν : Type} [Network ν]

def closeControl (s : Session ν) : Session ν :=
  match s.control with
  | none => s
  | some _ =>
      let s := s.log .trace .control "Closing control connection"
      { s with control := none, network := Network.hangUp s.network }.wire .disconnected

def resetControl (s : Session ν) : Session ν :=
  match s.control with
  | none => s
  | some _ => (s.log .debug .control "Resetting control connection").closeControl

/-- Try one endpoint.  A connection on which a limit of zero is to be set is given
up at once. -/
def dial (target : Endpoint) (s : Session ν) : Except SystemError Unit × Session ν :=
  let (attempt, network) := Network.connect target s.network
  match attempt.underLimits s.options with
  | .error cause =>
      let s := { s with network }
      (.error cause,
        if attempt.isEstablished then
          ({ s with network := Network.hangUp network }.wire (.connected target)).wire .disconnected
        else s)
  | .ok first =>
      let inbound := Inbound.ofSource ⟨[.chunk first.bytes], first.ending⟩
      (.ok (), { s with network, control := some ⟨target, inbound⟩ }.wire (.connected target))

/-- Try addresses in order.  If none takes the connection, the last one tells
why; `cause` is the reason where there is none. -/
def dialAny (port : UInt16) (cause : SystemError) : List String → Session ν → Outcome ν Unit
  | [], s => ⟨.error (.connection .connecting cause), s⟩
  | address :: rest, s =>
      let target : Endpoint := ⟨address, port⟩
      match (s.log .trace .control ("Trying " ++ target.toString)).dial target with
      | (.ok (), s) => ⟨.ok (), s⟩
      | (.error cause, s) =>
          dialAny port cause rest (s.log .debug .control
            ("Cannot connect to " ++ target.toString ++ ": " ++ cause.message))

/-- Connect to a host.  A connection that was held is given up first.  The
greeting is not read. -/
def openControl (host : String) (port : UInt16) (s : Session ν) : Outcome ν Unit :=
  let s := s.closeControl.log .debug .control
    ("Connecting to " ++ host ++ ":" ++ PortNumber.toString port)
  match Network.resolve s.network host with
  | .error cause => ⟨.error (.connection .resolvingHost cause), s⟩
  | .ok addresses =>
      (dialAny port .noAddress addresses s).andThen fun _ s =>
        ⟨.ok (), s.log .debug .control "Established connection with server"⟩

/-- Whether a connection is held and its far side is there.  Unread octets count
as its being there, also after it has hung up.  A probe that meets a failure of the
connection is told of it, so that no later act is. -/
def probe (s : Session ν) : Outcome ν Bool :=
  match s.control with
  | none => ⟨.ok false, s⟩
  | some c =>
      if c.inbound.unread ≠ [] then ⟨.ok true, s⟩
      else
        match c.inbound.source.ending.untold? with
        | some cause =>
            ⟨if cause.isDisconnection then .ok false else .error (.connection .probing cause),
              s.informed⟩
        | none =>
            if c.inbound.source.ending = .closed then
              ⟨.ok false, s.log .debug .control "Server closed the control connection"⟩
            else ⟨.ok true, s⟩

/-- Write octets on the control connection.  One that has failed takes none of them and
tells its failure. -/
def write (bytes : List UInt8) (s : Session ν) : Written × Session ν :=
  match s.untold? with
  | some cause => (.part 0 cause, s.informed)
  | none =>
      let r := Network.send bytes s.network
      (r.result, s.settle r)

def send (line : String) (s : Session ν) : Outcome ν Unit :=
  match s.control with
  | none => ⟨.error .notConnected, s⟩
  | some _ =>
      let bytes := Utf8.encode (line ++ lineEnd)
      match s.write bytes with
      | (.whole, s) => ⟨.ok (), s.wire (.sent bytes)⟩
      | (.part count cause, s) =>
          ⟨.error (.connection .sendingCommand cause), s.wire (.sentPart bytes count)⟩

def receive (s : Session ν) : Outcome ν Reply :=
  match s.control with
  | none => ⟨.error .notConnected, s⟩
  | some c =>
      let r := c.inbound.readReply
      let s := { s with control := some { c with inbound := r.left } }.record
        (r.lines.map fun line => .log .trace .reply ("CC IN: " ++ quote line))
      match r.outcome with
      | .error e => ⟨.error e, s⟩
      | .ok reply => ⟨.ok reply, s.wire (.received reply)⟩

/-- The address at the far end of the control connection. -/
def peerAddress (s : Session ν) : Except Failure String :=
  match s.control with
  | none => .error .notConnected
  | some _ => (Network.peerAddress s.network).mapError (.connection .locatingServer)

end Session
end FtpClient
