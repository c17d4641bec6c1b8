import FtpClient.Prompt.Request
import FtpClient.Session.Operations

/-
The interactive program as a state machine that is fed one line of input at a
time.  Replies and failures are shown by its observer, so that a request shows
nothing but what it adds to them.
-/

namespace FtpClient
namespace Prompt

/-- A line of the standard input. -/
inductive InputLine where
  | text (line : String)
  | undecodable
deriving DecidableEq, Repr

namespace InputLine

def ofBytes (bytes : List UInt8) : InputLine :=
  match Utf8.decode? bytes with
  | some line => text line
  | none => undecodable

/-- The lines of an input, where `line` holds the octets of the one being read,
last first.  The last line need not be ended. -/
def splitFrom (line : List UInt8) : List UInt8 → List InputLine
  | [] => if line = [] then [] else [ofBytes line.reverse]
  | b :: rest =>
      if b = lineFeed then ofBytes (b :: line).reverse :: splitFrom [] rest
      else splitFrom (b :: line) rest

def split (input : List UInt8) : List InputLine :=
  splitFrom [] input

end InputLine

/-- What the next line of input is for. -/
inductive Awaiting where
  | request
  /-- The name of a user who asked to log in without giving it. -/
  | name
  | nothing
deriving DecidableEq, Repr

/-- The state of the program. -/
structure Shell (ν : Type) where
  session : Session ν
  awaiting : Awaiting
  /-- What the user will type at the password prompts, or `none` without a
  terminal. -/
  passwords : Option (List String)

def requestHelp : String :=
  "Available commands:\n" ++
  "open <host> [port]          Connect to remote host; port defaults to 21\n" ++
  "user [name]                 Login to remote\n" ++
  "cd <dir>                    Change working directory\n" ++
  "ls [dir]                    List files. If directory is not provided, current directory is used\n" ++
  "get <remote> [local]        Download `remote` to `local`\n" ++
  "put <local> [remote]        Upload local file `local` to `remote`\n" ++
  "pwd                         Print working directory\n" ++
  "mkdir <dir>                 Make directory\n" ++
  "rmdir <dir>                 Remove directory\n" ++
  "rm <file>                   Remove file\n" ++
  "size <file>                 Get `file` size\n" ++
  "stat [path]                 Get server status, or status of `path`\n" ++
  "syst                        Get system type\n" ++
  "binary                      Set transfer type to binary\n" ++
  "noop                        Ping server\n" ++
  "close                       Close connection\n" ++
  "help                        Print this help\n" ++
  "exit                        Quit rftp\n"

namespace Shell

variable {ν : Type}

def print (text : String) (sh : Shell ν) : Shell ν :=
  { sh with session := sh.session.record [.shown .output text] }

def complain (text : String) (sh : Shell ν) : Shell ν :=
  { sh with session := sh.session.record [.shown .diagnostics text] }

def prompt (sh : Shell ν) : Shell ν :=
  { sh.print "rftp> " with awaiting := .request }

variable [Network ν]

/-- Wait for the user.  Meanwhile the far side goes on. -/
def wait (sh : Shell ν) : Shell ν :=
  { sh with session := sh.session.settle (Network.pause sh.session.network) }

/-- Take the session after an operation, whose value the observer has shown. -/
def after {α : Type} (o : Outcome ν α) (sh : Shell ν) : Shell ν :=
  { sh with session := o.session }

/-- Take the session after a transfer, and show its size if it succeeded. -/
def afterTransfer (o : Outcome ν (Answer Nat)) (sh : Shell ν) : Shell ν :=
  let sh := sh.after o
  match o.value with
  | .ok (.accepted count) => sh.print (toString count ++ " bytes transferred\n")
  | _ => sh

def login (name : String) (sh : Shell ν) : Shell ν :=
  match sh.passwords with
  | none => sh.complain ("Could not read password: " ++ SystemError.noSuchDevice.message ++ "\n")
  | some [] => sh.complain "Could not read password: unexpected end of file\n"
  | some (password :: rest) =>
      let sh := { sh with passwords := some rest }.wait
      sh.after (sh.session.login name password)

def connect (host : String) (port : UInt16) (sh : Shell ν) : Shell ν :=
  let (isOpen, session) := sh.session.isOpen
  let sh := { sh with session }
  if isOpen then sh.complain "Already connected, use `close` first.\n"
  else sh.after (sh.session.connect host port)

def carryOut (r : Request) (sh : Shell ν) : Shell ν :=
  let s := sh.session
  match r with
  | .binary => sh.after (s.setType .image)
  | .cd dir => sh.after (s.changeDir dir)
  | .close => sh.after s.quit
  | .exit => sh
  | .get remote file => sh.afterTransfer (s.download remote file)
  | .help => sh.print requestHelp
  | .ls dir => sh.after (s.list dir)
  | .mkdir dir => sh.after (s.makeDir dir)
  | .noop => sh.after s.noop
  | .connect host port => sh.connect host port
  | .put file remote => sh.afterTransfer (s.upload file remote)
  | .pwd => sh.after s.workingDir
  | .rm path => sh.after (s.removeFile path)
  | .rmdir dir => sh.after (s.removeDir dir)
  | .size path => sh.after (s.size path)
  | .stat path => sh.after (s.status path)
  | .syst => sh.after s.systemType
  | .user (some name) => sh.login name
  | .user none => { sh.print "Name: " with awaiting := .name }

/-- Carry out a request, if it needs no session or one is open. -/
def perform (r : Request) (sh : Shell ν) : Shell ν :=
  if r.needsConnection then
    let (isOpen, session) := sh.session.isOpen
    let sh := { sh with session }
    if isOpen then sh.carryOut r else sh.complain "Not connected.\n"
  else sh.carryOut r

/-- Show the prompt, unless the request waits for a name. -/
def next (sh : Shell ν) : Shell ν :=
  match sh.awaiting with
  | .name => sh
  | _ => sh.prompt

def stop (sh : Shell ν) : Shell ν :=
  let (isOpen, session) := sh.session.isOpen
  let sh := { sh with session, awaiting := .nothing }
  if isOpen then sh.after sh.session.quit else sh

def request (line : String) (sh : Shell ν) : Shell ν :=
  if Blank.trim line = "" then sh.prompt
  else
    match Request.parse line with
    | .error e => (sh.print (e.message ++ "\n")).prompt
    | .ok .exit => sh.stop
    | .ok r => (sh.perform r).next

/-- Go on at a line that has been read. -/
def read (sh : Shell ν) (line : InputLine) : Shell ν :=
  match sh.awaiting, line with
  | .request, .text line => sh.request line
  | .request, .undecodable => sh.stop
  | .name, .text line => (sh.login (Blank.trim line)).prompt
  | .name, .undecodable =>
      (sh.complain ("Could not read username: " ++ SystemError.notUtf8.message ++ "\n")).prompt
  | .nothing, _ => sh

/-- Wait for a line and go on at it. -/
def feed (sh : Shell ν) (line : InputLine) : Shell ν :=
  match sh.awaiting with
  | .nothing => sh
  | _ => sh.wait.read line

/-- The input has ended.  A name that is waited for is empty then. -/
def finish (sh : Shell ν) : Shell ν :=
  match sh.awaiting with
  | .request => sh.wait.stop
  | .name => ((sh.wait.login "").prompt).wait.stop
  | .nothing => sh

/-- The program up to its first prompt.  Its observer is the only one. -/
def start (host : Option String) (passwords : Option (List String)) (files : FileTree)
    (network : ν) : Shell ν :=
  let (observer, observers) := Observers.empty.create
  let session := (Session.start Options.default observers files network).subscribe observer
  let sh : Shell ν := ⟨session, .request, passwords⟩
  match host with
  | none => sh.prompt
  | some address =>
      match Request.ofAddress address with
      | .error e => (sh.complain (e.message ++ "\n")).prompt
      | .ok r => (sh.perform r).prompt

def run (sh : Shell ν) (input : List InputLine) : Shell ν :=
  (input.foldl feed sh).finish

end Shell
end Prompt
end FtpClient
