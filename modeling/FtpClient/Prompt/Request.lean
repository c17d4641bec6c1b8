import FtpClient.Files.Path
import FtpClient.Text.Blank
import FtpClient.Text.PortNumber

/-
What a user asks for at the prompt, and how a typed line is read.  The first
word is a keyword in any mix of upper and lower case; words beyond those a
keyword takes are ignored.
-/

namespace FtpClient
namespace Prompt

def defaultPort : UInt16 := 21

/-- A request at the prompt. -/
inductive Request where
  | binary
  | cd (dir : String)
  | close
  | exit
  | get (remote : String) (file : String)
  | help
  | ls (dir : Option String)
  | mkdir (dir : String)
  | noop
  | connect (host : String) (port : UInt16)
  | put (file : String) (remote : String)
  | pwd
  | rm (path : String)
  | rmdir (dir : String)
  | size (path : String)
  | stat (path : Option String)
  | syst
  | user (name : Option String)
deriving DecidableEq, Repr

/-- A word that a request needs. -/
inductive Field where
  | dir
  | file
  | host
  | localPath
  | remote
deriving DecidableEq, Repr

namespace Field

def name : Field → String
  | dir => "dir"
  | file => "file"
  | host => "host"
  | localPath => "local"
  | remote => "remote"

end Field

/-- Why a line is no request. -/
inductive ParseError where
  | unknownCommand
  | missing (field : Field)
  | invalidPort
deriving DecidableEq, Repr

namespace ParseError

def message : ParseError → String
  | unknownCommand => "Unknown command"
  | missing field => "Missing `" ++ field.name ++ "` field"
  | invalidPort => "Invalid `port` field"

end ParseError

/-- What stands before and after the last colon. -/
def splitLastColon? (cs : List Char) : Option (List Char × List Char) :=
  match cs.reverse.dropWhile (· != ':') with
  | [] => none
  | _ :: before => some (before.reverse, (cs.reverse.takeWhile (· != ':')).reverse)

def stripBrackets (host : List Char) : List Char :=
  Blank.dropEnd (· == ']') (host.dropWhile (· == '['))

namespace Request

/-- Read `host[:port]`.  A host with a colon of its own and no closing bracket is
an address as a whole. -/
def ofAddress (address : String) : Except ParseError Request :=
  match splitLastColon? address.toList with
  | none => .ok (connect address defaultPort)
  | some (host, port) =>
      if host.contains ':' && host.getLast? != some ']' then
        .ok (connect address defaultPort)
      else
        match PortNumber.ofChars? port with
        | some port => .ok (connect (String.ofList (stripBrackets host)) port)
        | none => .error .invalidPort

/-- A request that takes one word. -/
def withWord (field : Field) (request : String → Request) : List String →
    Except ParseError Request
  | word :: _ => .ok (request word)
  | [] => .error (.missing field)

/-- The file is named like the last segment of the remote path where no name is
given. -/
def ofGet : List String → Except ParseError Request
  | remote :: file :: _ => .ok (get remote file)
  | [remote] => .ok (get remote (Path.lastSegment remote))
  | [] => .error (.missing .remote)

/-- The remote file is named like the local one where no name is given. -/
def ofPut : List String → Except ParseError Request
  | file :: remote :: _ => .ok (put file remote)
  | [file] =>
      match Path.fileName? file with
      | some name => .ok (put file name)
      | none => .error (.missing .remote)
  | [] => .error (.missing .localPath)

def ofConnect : List String → Except ParseError Request
  | host :: port :: _ =>
      match PortNumber.ofString? port with
      | some port => .ok (connect host port)
      | none => .error .invalidPort
  | [address] => ofAddress address
  | [] => .error (.missing .host)

def ofWords (keyword : String) (args : List String) : Except ParseError Request :=
  match keyword with
  | "binary" => .ok binary
  | "cd" => withWord .dir cd args
  | "close" => .ok close
  | "exit" | "quit" => .ok exit
  | "get" => ofGet args
  | "help" => .ok help
  | "ls" => .ok (ls args.head?)
  | "mkdir" => withWord .dir mkdir args
  | "noop" => .ok noop
  | "open" => ofConnect args
  | "put" => ofPut args
  | "pwd" => .ok pwd
  | "rm" => withWord .file rm args
  | "rmdir" => withWord .dir rmdir args
  | "size" => withWord .file size args
  | "stat" => .ok (stat args.head?)
  | "syst" => .ok syst
  | "user" => .ok (user args.head?)
  | _ => .error .unknownCommand

/-- Read a typed line.  Only ASCII letters have two cases. -/
def parse (line : String) : Except ParseError Request :=
  match Blank.words line with
  | [] => .error .unknownCommand
  | keyword :: args => ofWords (String.ofList (keyword.toList.map Char.toLower)) args

/-- Whether the request is refused without an open session. -/
def needsConnection : Request → Bool
  | connect _ _ | help | exit => false
  | _ => true

end Request
end Prompt
end FtpClient
