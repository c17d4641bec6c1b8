import FtpClient.Session.State
import FtpClient.Stream.Sink

/-
The data connection: it carries one listing or one file, in one direction.
-/

namespace FtpClient

/-- The size of the buffer through which files are passed on. -/
def transferBufferSize : Nat := 8192

namespace Session

variable {ν : Type} [Network ν]

/-- Open a data connection.  It takes the place of one that was open, but one on
which a limit of zero is to be set is given up at once. -/
def openData (target : Endpoint) (s : Session ν) : Outcome ν Unit :=
  let s := s.log .debug .data ("Opening data connection to " ++ target.toString)
  let r := Network.connectData target s.network
  let s := s.settle r
  match r.result.underLimits s.options with
  | .error cause =>
      ⟨.error (.connection .openingData cause),
        if r.result.isEstablished then
          ((s.wire (.dataConnected target)).settle
            (Network.hangUpData s.network)).wire .dataClosed
        else s⟩
  | .ok source =>
      let s := if s.data.isSome then s.wire .dataClosed else s
      let s := { s with data := some ⟨target, source⟩ }.wire (.dataConnected target)
      ⟨.ok (), s.log .trace .data ("Data connection established with " ++ target.toString)⟩

def dropData (s : Session ν) : Except SystemError Unit × Session ν :=
  let r := Network.hangUpData s.network
  (r.result, { s.settle r with data := none }.wire .dataClosed)

/-- Give the data connection up, if one is open.  How that went does not matter. -/
def releaseData (s : Session ν) : Session ν :=
  match s.data with
  | none => s
  | some _ => s.dropData.2

/-- Shut the data connection down, if one is open.  That its far side is gone
already is no failure. -/
def closeData (s : Session ν) : Outcome ν Unit :=
  match s.data with
  | none => ⟨.ok (), s⟩
  | some d =>
      match (s.log .trace .data ("Closing data connection to " ++ d.remote.toString)).dropData with
      | (.ok (), s) => ⟨.ok (), s⟩
      | (.error cause, s) =>
          if cause = .notConnected then ⟨.ok (), s⟩
          else ⟨.error (.connection .closingData cause), s⟩

/-- Leave only `arrivals` to be read from the data connection. -/
def leaveData (arrivals : List Arrival) (d : DataLink) (s : Session ν) : Session ν :=
  { s with data := some { d with source := ⟨arrivals, d.source.ending⟩ } }

/-- Read text until the far side ends the stream. -/
def receiveText (s : Session ν) : Outcome ν String :=
  match s.data with
  | none => ⟨.error .dataClosed, s⟩
  | some d =>
      let s := s.leaveData [] d
      match d.source.ending.failure? with
      | some cause => ⟨.error (.connection .receivingData cause), s⟩
      | none =>
          let bytes := d.source.bytes
          ⟨.ok (Utf8.decode bytes),
            s.log .trace .data ("Received " ++ toString bytes.length ++ " bytes of text")⟩

/-- Write pieces until one cannot be written, where `count` octets have been
written before. -/
def sendPieces (count : Nat) : List (List UInt8) → Session ν → Outcome ν Nat
  | [], s => ⟨.ok count, s⟩
  | piece :: rest, s =>
      let r := Network.sendData piece s.network
      match r.result with
      | .error cause => ⟨.error (.connection .sendingFile cause), s.settle r⟩
      | .ok () => sendPieces (count + piece.length) rest ((s.settle r).wire (.dataSent piece))

/-- Write all of a source, and tell how many octets that were. -/
def sendFile (source : Source) (s : Session ν) : Outcome ν Nat :=
  match s.data with
  | none => ⟨.error .dataClosed, s⟩
  | some _ =>
      (s.sendPieces 0 (source.pieces transferBufferSize)).andThen fun count s =>
        match source.ending.failure? with
        | some cause => ⟨.error (.connection .readingFile cause), s⟩
        | none => ⟨.ok count, s.log .trace .data ("Sent " ++ toString count ++ " bytes")⟩

/-- What reading into a sink comes to: the sink may fail, then the stream, and last
the flush. -/
def fileReceived (w : Sink.Drained) (ending : Ending) : Except Failure Nat :=
  match w.outcome with
  | .error cause => .error (.connection .writingFile cause)
  | .ok count =>
      match ending.failure? with
      | some cause => .error (.connection .receivingFile cause)
      | none =>
          match w.sink.flush with
          | .error cause => .error (.connection .writingFile cause)
          | .ok () => .ok count

/-- Read into a sink until the far side ends the stream, and tell how many octets
were written.  The sink after it is told in any case. -/
def receiveFile (sink : Sink) (s : Session ν) : Outcome ν Nat × Sink :=
  match s.data with
  | none => (⟨.error .dataClosed, s⟩, sink)
  | some d =>
      let w := sink.drain 0 (d.source.pieces transferBufferSize)
      let s := s.leaveData (w.rest.map .chunk) d
      match fileReceived w d.source.ending with
      | .error e => (⟨.error e, s⟩, w.sink)
      | .ok count =>
          (⟨.ok count, s.log .trace .data ("Received " ++ toString count ++ " bytes")⟩, w.sink)

end Session
end FtpClient
