import FtpClient.Session.Operations

/-
The operations of a client as values, so that a use of the client is a list.
-/

namespace FtpClient

/-- An operation with its arguments. -/
inductive Call where
  | connect (host : String) (port : UInt16)
  | isOpen
  | login (user password : String)
  | changeDir (path : String)
  | list (path : Option String)
  | upload (path remote : String)
  | download (remote path : String)
  | workingDir
  | makeDir (path : String)
  | removeDir (path : String)
  | removeFile (path : String)
  | size (path : String)
  | status (path : Option String)
  | systemType
  | noop
  | setType (representation : Representation)
  | quit
  | reset
deriving DecidableEq, Repr

namespace Call

/-- What a call gives back. -/
inductive Result where
  | replied (value : Except Failure (Answer Reply))
  | listed (value : Except Failure (Answer String))
  | transferred (value : Except Failure (Answer Nat))
  | held (isOpen : Bool)
  | done

end Call

namespace Session

variable {ν : Type} [Network ν]

def replied (o : Outcome ν (Answer Reply)) : Call.Result × Session ν :=
  (.replied o.value, o.session)

def listed (o : Outcome ν (Answer String)) : Call.Result × Session ν :=
  (.listed o.value, o.session)

def transferred (o : Outcome ν (Answer Nat)) : Call.Result × Session ν :=
  (.transferred o.value, o.session)

def run (s : Session ν) : Call → Call.Result × Session ν
  | .connect host port => replied (s.connect host port)
  | .isOpen =>
      let (b, s) := s.isOpen
      (.held b, s)
  | .login user password => replied (s.login user password)
  | .changeDir path => replied (s.changeDir path)
  | .list path => listed (s.list path)
  | .upload path remote => transferred (s.upload path remote)
  | .download remote path => transferred (s.download remote path)
  | .workingDir => replied s.workingDir
  | .makeDir path => replied (s.makeDir path)
  | .removeDir path => replied (s.removeDir path)
  | .removeFile path => replied (s.removeFile path)
  | .size path => replied (s.size path)
  | .status path => replied (s.status path)
  | .systemType => replied s.systemType
  | .noop => replied s.noop
  | .setType r => replied (s.setType r)
  | .quit => replied s.quit
  | .reset => (.done, s.reset)

/-- Make calls one after another, and keep the session after each of them. -/
def runAll (s : Session ν) : List Call → List (Call.Result × Session ν)
  | [] => []
  | c :: rest =>
      let r := s.run c
      r :: runAll r.2 rest

end Session
end FtpClient
