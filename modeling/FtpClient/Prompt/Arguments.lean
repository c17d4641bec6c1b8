/-
The arguments of the program.
-/

namespace FtpClient
namespace Prompt

def programName : String := "rftp"

/-- What the arguments ask for. -/
structure Arguments where
  debug : Bool
  verbose : Bool
  version : Bool
  host : Option String
deriving DecidableEq, Repr

/-- Why arguments are refused. -/
inductive ArgumentError where
  /-- An option that there is not, or a word after the host. -/
  | unrecognized (word : String)
  | afterHelp
deriving DecidableEq, Repr

/-- What the program is to do. -/
inductive Invocation where
  | run (arguments : Arguments)
  | help
  | refused (error : ArgumentError)
deriving DecidableEq, Repr

namespace ArgumentError

def message : ArgumentError → String
  | unrecognized word => "Unrecognized argument: " ++ word ++ "\n"
  | afterHelp => "Trailing arguments are not allowed after `help`."

end ArgumentError

namespace Arguments

def none : Arguments :=
  ⟨false, false, false, .none⟩

/-- The words that ask for help wherever they stand before `--`. -/
def helpWords : List String := ["--help", "help"]

/-- The arguments with an option switched on, if there is such an option. -/
def switch? (a : Arguments) : String → Option Arguments
  | "-D" | "--debug" => some { a with debug := true }
  | "-v" | "--verbose" => some { a with verbose := true }
  | "-V" | "--version" => some { a with version := true }
  | _ => .none

/-- Read the words after those that gave `a`.  `help` tells whether help was asked
for and `plain` whether no more options are read. -/
def parseFrom (a : Arguments) (help plain : Bool) : List String → Invocation
  | [] => if help then .help else .run a
  | word :: rest =>
      if !plain && helpWords.contains word then parseFrom a true plain rest
      else if !plain && word == "--" then parseFrom a help true rest
      else if !plain && word.toList.head? == some '-' then
        if help then .refused .afterHelp
        else
          match a.switch? word with
          | some a => parseFrom a help plain rest
          | .none => .refused (.unrecognized word)
      else
        match a.host with
        | .none => parseFrom { a with host := some word } help plain rest
        | some _ => .refused (.unrecognized word)

def parse (words : List String) : Invocation :=
  parseFrom none false false words

end Arguments

def argumentHelp : String :=
  "Usage: rftp [-D] [-v] [-V] [--] [<host>]\n\n" ++
  "Interactive FTP client. Type `help` at the prompt to list the available commands\n\n" ++
  "Positional Arguments:\n" ++
  "  host              host to connect to, as `host[:port]`\n\n" ++
  "Options:\n" ++
  "  -D, --debug       enable TRACE log level\n" ++
  "  -v, --verbose     verbose mode\n" ++
  "  -V, --version     print version\n" ++
  "  --help, help      display usage information\n"

/-- The line that `--version` shows. -/
def versionLine : String :=
  "rftp 0.1.0 - developed by rftp contributors\n"

end Prompt
end FtpClient
