/-
The commands of the protocol and their lines on the control connection.
-/

namespace FtpClient

/-- How the octets of a file are represented on a data connection.  Octets are
passed on unchanged in both cases. -/
inductive Representation where
  | ascii
  | image
deriving DecidableEq, Repr

namespace Representation

def letter : Representation → String
  | ascii => "A"
  | image => "I"

end Representation

/-- A command with its argument. -/
inductive Command where
  | cwd (path : String)
  | dele (path : String)
  | epsv
  | list (path : Option String)
  | mkd (path : String)
  | noop
  | pass (password : String)
  | pwd
  | quit
  | retr (path : String)
  | rmd (path : String)
  | size (path : String)
  | stat (path : Option String)
  | stor (path : String)
  | syst
  | type (representation : Representation)
  | user (name : String)
deriving DecidableEq, Repr

namespace Command

def verb : Command → String
  | cwd _ => "CWD"
  | dele _ => "DELE"
  | epsv => "EPSV"
  | list _ => "LIST"
  | mkd _ => "MKD"
  | noop => "NOOP"
  | pass _ => "PASS"
  | pwd => "PWD"
  | quit => "QUIT"
  | retr _ => "RETR"
  | rmd _ => "RMD"
  | size _ => "SIZE"
  | stat _ => "STAT"
  | stor _ => "STOR"
  | syst => "SYST"
  | type _ => "TYPE"
  | user _ => "USER"

/-- The argument.  An empty one differs from none. -/
def argument? : Command → Option String
  | cwd a | dele a | mkd a | pass a | retr a | rmd a | size a | stor a | user a => some a
  | list a | stat a => a
  | type r => some r.letter
  | epsv | noop | pwd | quit | syst => none

def lineOf (verb : String) : Option String → String
  | some a => verb ++ " " ++ a
  | none => verb

def line (c : Command) : String :=
  lineOf c.verb c.argument?

/-- The line that is logged.  It does not depend on a password. -/
def loggedLine : Command → String
  | pass _ => "PASS ********"
  | c => c.line

end Command
end FtpClient
