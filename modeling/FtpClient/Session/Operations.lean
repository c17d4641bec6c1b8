import FtpClient.Session.Control
import FtpClient.Session.Data

/-
The operations of a client.  Each writes its commands, reads one reply for each,
tells the observers of every reply and of its failure, and gives the control
connection up after a failure that leaves it in doubt.
-/

namespace FtpClient
namespace Session

variable {ν : Type} [Network ν]

/-! ## Parts of operations -/

/-- Report a failure, and give the control connection up if it can no longer be
trusted. -/
def report (e : Failure) (s : Session ν) : Session ν :=
  let s := (s.log .error .client e.message).notify (.failure e.message)
  if e.breaksSession then s.resetControl else s

/-- The end of every operation: a failure is reported once. -/
def guarded {α : Type} (o : Outcome ν α) : Outcome ν α :=
  match o.value with
  | .ok _ => o
  | .error e => ⟨.error e, o.session.report e⟩

def perform (c : Command) (s : Session ν) : Outcome ν Unit :=
  (s.log .trace .client ("CC OUT: " ++ c.loggedLine)).send c.line

def receiveReply (s : Session ν) : Outcome ν Reply :=
  s.receive.andThen fun reply s => ⟨.ok reply, s.notify (.reply reply.text)⟩

def command (c : Command) (s : Session ν) : Outcome ν Reply :=
  (s.perform c).andThen fun _ s => s.receiveReply

def simple (c : Command) (s : Session ν) : Outcome ν (Answer Reply) :=
  guarded ((s.command c).map Answer.ofReply)

/-- Ask for a data port and connect to it, at the far end of the control
connection. -/
def enterPassive (s : Session ν) : Outcome ν (Answer Unit) :=
  (s.command .epsv).andThen fun reply s =>
    if reply.isNegative then ⟨.ok (.refused reply), s⟩
    else
      match reply.dataPort, s.peerAddress with
      | .error e, _ => ⟨.error e, s⟩
      | .ok _, .error e => ⟨.error e, s⟩
      | .ok port, .ok address => (s.openData ⟨address, port⟩).map Answer.accepted

/-- Write a command that carries a payload and move the payload.  The data
connection is closed before the final reply is read, as servers send that only
once they see the end of the data.  A server may skip the preliminary reply and
send the final one at once. -/
def exchange {α : Type} (c : Command) (payload : Session ν → Outcome ν α) (s : Session ν) :
    Outcome ν (Answer α) :=
  (s.command c).andThen fun first s =>
    if first.isNegative then ⟨.ok (.refused first), s⟩
    else
      (payload s).andThen fun value s =>
        s.closeData.andThen fun _ s =>
          (if first.isPreliminary then s.receiveReply else ⟨.ok first, s⟩).map fun last =>
            (Answer.ofReply last).map fun _ => value

/-- An exchange with a data connection of its own, which is given up in any
case. -/
def transfer {α : Type} (c : Command) (payload : Session ν → Outcome ν α) (s : Session ν) :
    Outcome ν (Answer α) :=
  s.enterPassive.andThen fun entered s =>
    match entered with
    | .refused reply => ⟨.ok (.refused reply), s⟩
    | .accepted () =>
        let o := s.exchange c payload
        { o with session := o.session.releaseData }

/-- Read a listing and tell the observers, unless it is empty. -/
def receiveListing (s : Session ν) : Outcome ν String :=
  s.receiveText.andThen fun listing s =>
    ⟨.ok listing, if listing = "" then s else s.notify (.reply listing)⟩

/-- Read a file from the data connection over the beginning of the file at a
place. -/
def receiveInto (place : Place) (s : Session ν) : Outcome ν Nat :=
  let (o, sink) := s.receiveFile (s.files.sinkAt place)
  { o with session := { o.session with files := o.session.files.overwrite place sink.held } }

/-! ## Operations -/

def connect (host : String) (port : UInt16) (s : Session ν) : Outcome ν (Answer Reply) :=
  let s := s.log .debug .client
    ("Opening session with " ++ host ++ ":" ++ PortNumber.toString port)
  guarded <| (s.openControl host port).andThen fun _ s =>
    ((s.log .debug .client "Reading server greeting...").receiveReply).map Answer.ofReply

/-- Whether the control connection is established.  A failure counts as no. -/
def isOpen (s : Session ν) : Bool × Session ν :=
  let o := guarded s.probe
  match o.value with
  | .ok b => (b, o.session)
  | .error _ => (false, o.session)

/-- Log in.  The password is sent only if the server asks for it with code 331. -/
def login (user password : String) (s : Session ν) : Outcome ν (Answer Reply) :=
  let s := s.log .debug .client ("Signing in with user '" ++ user ++ "'")
  guarded <| (s.command (.user user)).andThen fun reply s =>
    if reply.code ≠ 331 then ⟨.ok (Answer.ofReply reply), s⟩
    else
      ((s.log .debug .client "Password is required").command (.pass password)).map Answer.ofReply

def changeDir (path : String) (s : Session ν) : Outcome ν (Answer Reply) :=
  (s.log .debug .client ("Changing working directory to " ++ path)).simple (.cwd path)

def list (path : Option String) (s : Session ν) : Outcome ν (Answer String) :=
  let s := s.log .debug .client ("Listing " ++ path.getD "working directory")
  guarded <| s.transfer (.list path) receiveListing

/-- Send a local file.  It is opened before anything is sent. -/
def upload (path remote : String) (s : Session ν) : Outcome ν (Answer Nat) :=
  let s := s.log .debug .client ("Uploading " ++ path ++ " to " ++ remote)
  guarded <|
    match s.files.openForReading path with
    | .error cause => ⟨.error (.file path cause), s⟩
    | .ok source => s.transfer (.stor remote) fun s => s.sendFile source

/-- The end of a download into the file at a place.  After a success the file is
cut to what was received; otherwise a file that was made for the download is
removed. -/
def finishDownload (path : String) (place : Place) (existed : Bool)
    (o : Outcome ν (Answer Nat)) : Outcome ν (Answer Nat) :=
  let s := o.session
  match o.value with
  | .ok (.accepted count) =>
      match s.files.truncate place count with
      | .error cause => ⟨.error (.file path cause), s⟩
      | .ok files => ⟨.ok (.accepted count), { s with files }⟩
  | value =>
      if existed then ⟨value, s⟩
      else
        let s := s.log .trace .client ("Removing incomplete file " ++ path)
        ⟨value, { s with files := s.files.erase place }⟩

/-- Fetch a file into a local one.  An existing file is replaced only if the
options allow it; it is written over in place. -/
def download (remote path : String) (s : Session ν) : Outcome ν (Answer Nat) :=
  let s := s.log .debug .client ("Downloading " ++ remote ++ " to " ++ path)
  guarded <|
    let existed := s.options.overwrite && s.files.holds path
    match s.files.openForWriting path s.options.overwrite with
    | .error cause => ⟨.error (.file path cause), s⟩
    | .ok (place, files) =>
        finishDownload path place existed
          ({ s with files }.transfer (.retr remote) (receiveInto place))

def workingDir (s : Session ν) : Outcome ν (Answer Reply) :=
  (s.log .debug .client "Getting working directory").simple .pwd

def makeDir (path : String) (s : Session ν) : Outcome ν (Answer Reply) :=
  (s.log .debug .client ("Creating directory at " ++ path)).simple (.mkd path)

def removeDir (path : String) (s : Session ν) : Outcome ν (Answer Reply) :=
  (s.log .debug .client ("Removing directory " ++ path)).simple (.rmd path)

def removeFile (path : String) (s : Session ν) : Outcome ν (Answer Reply) :=
  (s.log .debug .client ("Removing file " ++ path)).simple (.dele path)

/-- Ask for the size of a file, which is in the text of the reply. -/
def size (path : String) (s : Session ν) : Outcome ν (Answer Reply) :=
  (s.log .debug .client ("Getting size of " ++ path)).simple (.size path)

def status (path : Option String) (s : Session ν) : Outcome ν (Answer Reply) :=
  (s.log .debug .client ("Getting status of " ++ path.getD "server")).simple (.stat path)

def systemType (s : Session ν) : Outcome ν (Answer Reply) :=
  (s.log .debug .client "Getting system type").simple .syst

def noop (s : Session ν) : Outcome ν (Answer Reply) :=
  (s.log .debug .client "Pinging server").simple .noop

def setType (r : Representation) (s : Session ν) : Outcome ν (Answer Reply) :=
  (s.log .debug .client ("Setting transfer type " ++ r.letter)).simple (.type r)

/-- Say goodbye.  The control connection is given up whatever the server
answers. -/
def quit (s : Session ν) : Outcome ν (Answer Reply) :=
  let o := (s.log .debug .client "Quitting session").simple .quit
  { o with session := o.session.closeControl }

/-- Give the control connection up without a word to the server. -/
def reset (s : Session ν) : Session ν :=
  s.resetControl

def logObservers (s : Session ν) : Session ν :=
  s.log .trace .client (toString s.observers.size ++ " observer(s) subscribed")

def subscribe (id : ObserverId) (s : Session ν) : Session ν :=
  { s with observers := s.observers.subscribe id }.logObservers

def unsubscribe (id : ObserverId) (s : Session ν) : Session ν :=
  { s with observers := s.observers.unsubscribe id }.logObservers

end Session
end FtpClient
