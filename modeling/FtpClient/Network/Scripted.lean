import FtpClient.Network
import FtpClient.Network.Host

/-
A server that plays a script.  Each control connection has a script of its own,
of which the first step is played when the connection is accepted and one more
step for every line that is received.  When a step is due and none is left, the
server hangs up: it sends nothing more, but goes on receiving.
-/

namespace FtpClient
namespace Scripted

/-- One step of a script. -/
structure Step where
  reply : List UInt8
  /-- What is sent once no data connection is open. -/
  afterData : Option (List UInt8)
  /-- The server hangs up after this step. -/
  last : Bool
deriving DecidableEq, Repr

/-- What a data connection delivers. -/
structure Payload where
  port : UInt16
  bytes : List UInt8
  /-- The server keeps its side open after the octets. -/
  hang : Bool
deriving DecidableEq, Repr

/-- A control connection that is being played. -/
structure Play where
  steps : List Step
  /-- What is to be sent when the data connection is closed, and whether the
  server hangs up then. -/
  waiting : Option (List UInt8 × Bool)
  queued : Nat
  ended : Bool
deriving DecidableEq, Repr

namespace Play

/-- Play a step whose successors are `rest`. -/
def playStep (dataOpen : Bool) (s : Step) (rest : List Step) (p : Play) :
    List UInt8 × Play :=
  match s.afterData with
  | none => (s.reply, { p with steps := rest, ended := s.last })
  | some after =>
      if dataOpen then (s.reply, { p with steps := rest, waiting := some (after, s.last) })
      else (s.reply ++ after, { p with steps := rest, ended := s.last })

/-- Play one step for each of `n` lines. -/
def playLines (dataOpen : Bool) : Nat → Play → List UInt8 × Play
  | 0, p => ([], p)
  | n + 1, p =>
      if p.ended then ([], p)
      else if p.waiting.isSome then ([], { p with queued := p.queued + n + 1 })
      else
        match p.steps with
        | [] => ([], { p with ended := true })
        | s :: rest =>
            let (out, p) := p.playStep dataOpen s rest
            let (more, p) := playLines dataOpen n p
            (out ++ more, p)

def release (p : Play) : List UInt8 × Play :=
  match p.waiting with
  | none => ([], p)
  | some (after, last) =>
      let (more, p) :=
        { p with waiting := none, queued := 0, ended := last }.playLines false p.queued
      (after ++ more, p)

def ending (p : Play) : Ending :=
  if p.ended then .closed else .quiet

def fresh (steps : List Step) : Play :=
  { steps, waiting := none, queued := 0, ended := false }

end Play

/-- The server and the way to it. -/
structure Server where
  reachable : Bool
  /-- The name and address of the server, and its port for control connections. -/
  endpoint : Endpoint
  scripts : List (List Step)
  dataPorts : List UInt16
  payloads : List Payload
  play : Option Play
  dataOpen : Bool
  received : List (List UInt8)
  /-- What was received on each data connection so far, with its port. -/
  receivedData : List (UInt16 × List UInt8)
deriving DecidableEq, Repr

namespace Server

def start (reachable : Bool) (endpoint : Endpoint) (scripts : List (List Step))
    (payloads : List Payload) : Server :=
  { reachable, endpoint, scripts, payloads
    dataPorts := payloads.map (·.port)
    play := none, dataOpen := false, received := [], receivedData := [] }

/-- The server's own name is known beside the hosts that need no name service. -/
def resolve (s : Server) (host : String) : Except SystemError (List String) :=
  if host = s.endpoint.address then .ok [host] else Host.addresses host

def connect (target : Endpoint) (s : Server) : Attempt Delivery × Server :=
  if !s.reachable then (.unroutable (Host.noRoute target.address), s)
  else if target != s.endpoint then (.rejected .connectionRefused, s)
  else
    match s.scripts with
    | [] => (.rejected .connectionRefused, s)
    | script :: rest =>
        let (bytes, p) := (Play.fresh script).playLines s.dataOpen 1
        (.established ⟨bytes, p.ending⟩,
          { s with scripts := rest, play := some p, received := s.received ++ [[]] })

/-- The last of a list with more octets behind it. -/
def extendLast (bytes : List UInt8) : List (List UInt8) → List (List UInt8)
  | [] => []
  | [last] => [last ++ bytes]
  | x :: rest => x :: extendLast bytes rest

def peerAddress (s : Server) : Except SystemError String :=
  match s.play with
  | none => .error .notConnected
  | some _ => .ok s.endpoint.address

def send (bytes : List UInt8) (s : Server) : Reaction Server Written :=
  match s.play with
  | none => ⟨.part 0 .notConnected, .none, s⟩
  | some p =>
      let (out, p) := p.playLines s.dataOpen (bytes.count lineFeed)
      ⟨.whole, ⟨out, p.ending⟩,
        { s with play := some p, received := extendLast bytes s.received }⟩

def hangUp (s : Server) : Server :=
  { s with play := none }

/-- The data connection is closed, which may be what the control connection waits
for. -/
def releaseData (s : Server) : Delivery × Server :=
  match s.play with
  | none => (.none, { s with dataOpen := false })
  | some p =>
      let (out, p) := p.release
      (⟨out, p.ending⟩, { s with play := some p, dataOpen := false })

def nextPayload (port : UInt16) (s : Server) : Source × List Payload :=
  match s.payloads.find? fun p => p.port == port with
  | some p =>
      (⟨[.chunk p.bytes], if p.hang then .quiet else .closed⟩,
        s.payloads.eraseP fun p => p.port == port)
  | none => (⟨[], .closed⟩, s.payloads)

def connectData (target : Endpoint) (s : Server) : Reaction Server (Attempt Source) :=
  if !s.reachable then ⟨.unroutable (Host.noRoute target.address), .none, s⟩
  else if target.address != s.endpoint.address || !s.dataPorts.contains target.port then
    ⟨.rejected .connectionRefused, .none, s⟩
  else
    let (delivery, s) := s.releaseData
    let (source, payloads) := s.nextPayload target.port
    let receivedData := s.receivedData ++ [(target.port, [])]
    ⟨.established source, delivery, { s with payloads, receivedData, dataOpen := true }⟩

/-- The last connection of a list with more octets behind those received. -/
def extendLastData (bytes : List UInt8) :
    List (UInt16 × List UInt8) → List (UInt16 × List UInt8)
  | [] => []
  | [(port, last)] => [(port, last ++ bytes)]
  | x :: rest => x :: extendLastData bytes rest

def sendData (bytes : List UInt8) (s : Server) : Reaction Server (Except SystemError Unit) :=
  if s.dataOpen then
    ⟨.ok (), .none, { s with receivedData := extendLastData bytes s.receivedData }⟩
  else ⟨.error .notConnected, .none, s⟩

def hangUpData (s : Server) : Reaction Server (Except SystemError Unit) :=
  let (delivery, s) := s.releaseData
  ⟨.ok (), delivery, s⟩

instance : Network Server where
  resolve := resolve
  connect := connect
  peerAddress := peerAddress
  send := send
  hangUp := hangUp
  connectData := connectData
  sendData := sendData
  hangUpData := hangUpData
  pause s := ⟨(), .none, s⟩

end Server
end Scripted
end FtpClient
