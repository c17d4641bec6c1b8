import FtpClient.SystemError
import FtpClient.Text.Quoted

/-
The ways in which an operation can fail.  A negative reply of the server is an
answer and no failure.
-/

namespace FtpClient

/-- What was being done when a connection failed. -/
inductive Activity where
  | resolvingHost
  | connecting
  | probing
  | sendingCommand
  | receivingReply
  | locatingServer
  | openingData
  | closingData
  | receivingData
  | readingFile
  | sendingFile
  | receivingFile
  | writingFile
  | usingNoConnection
  /-- A transfer was asked of a data connection that is closed. -/
  | usingClosedData
  | other (text : String)
deriving DecidableEq, Repr

namespace Activity

def message : Activity → String
  | resolvingHost => "cannot resolve host"
  | connecting => "cannot open connection"
  | probing => "cannot probe connection"
  | sendingCommand => "cannot send command"
  | receivingReply => "cannot receive reply"
  | locatingServer => "cannot get server address"
  | openingData => "cannot open data connection"
  | closingData => "cannot close data connection"
  | receivingData => "cannot receive data"
  | readingFile => "cannot read file"
  | sendingFile => "cannot send file"
  | receivingFile => "cannot receive file"
  | writingFile => "cannot write file"
  | usingNoConnection => "not connected"
  | usingClosedData => "data connection is closed"
  | other text => text

end Activity

/-- What the server sent against the protocol. -/
inductive Violation where
  | invalidReply
  /-- An answer to `EPSV` without a port. -/
  | invalidDataPort
deriving DecidableEq, Repr

namespace Violation

def message : Violation → String
  | invalidReply => "invalid server reply"
  | invalidDataPort => "cannot parse server port"

end Violation

/-- Why an operation has no answer. -/
inductive Failure where
  | connection (activity : Activity) (cause : SystemError)
  /-- The server broke the protocol with `line`. -/
  | protocol (violation : Violation) (line : String)
  | file (path : String) (cause : SystemError)
deriving DecidableEq, Repr

namespace Failure

/-- The text of a failure.  The line of the server is quoted. -/
def message : Failure → String
  | connection activity cause =>
      "Connection error: " ++ activity.message ++ ": " ++ cause.message
  | protocol violation line =>
      "Protocol error: " ++ violation.message ++ ": " ++ quote line
  | file path cause => "File error: " ++ path ++ ": " ++ cause.message

/-- Whether the control connection can no longer be trusted. -/
def breaksSession : Failure → Bool
  | connection _ _ | protocol _ _ => true
  | file _ _ => false

/-- The failure of a command without a control connection. -/
def notConnected : Failure :=
  .connection .usingNoConnection .notConnected

/-- The failure of a transfer on a data connection that is closed. -/
def dataClosed : Failure :=
  .connection .usingClosedData .notConnected

end Failure
end FtpClient
