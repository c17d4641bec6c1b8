import FtpClient.Journal
import FtpClient.Prompt.Shell
import FtpClient.Prompt.Arguments

/-
What a run of the program shows: the replies and its own texts on the standard
output, failures and log records on the standard error output.
-/

namespace FtpClient
namespace Prompt

/-- Which log records are shown. -/
inductive Verbosity where
  | silent
  | errors
  | everything
deriving DecidableEq, Repr

namespace Verbosity

def ofArguments (a : Arguments) : Verbosity :=
  if a.debug then everything else if a.verbose then errors else silent

def shows : Verbosity → Level → Bool
  | silent, _ => false
  | errors, level => level == .error
  | everything, _ => true

end Verbosity

def levelName : Level → String
  | .error => "ERROR"
  | .debug => "DEBUG"
  | .trace => "TRACE"

def componentName : Component → String
  | .client => "rftp::client"
  | .control => "rftp::client::control_channel"
  | .data => "rftp::client::data_channel"
  | .reply => "rftp::reply"

/-- A log text with its further lines indented. -/
def indented (text : String) : String :=
  String.ofList (text.toList.flatMap fun c =>
    if c = '\n' then ['\n', ' ', ' ', ' ', ' '] else [c])

def logLine (time : String) (level : Level) (component : Component) (text : String) : String :=
  "[" ++ time ++ " " ++ levelName level ++ " " ++ componentName component ++ "] " ++
    indented text ++ "\n"

def endingLine (text : String) : String :=
  if text.toList.getLast? = some '\n' then text else text ++ "\n"

/-- What an entry of the journal shows, and where. -/
def shown? (time : String) (v : Verbosity) : Entry → Option (Screen × String)
  | .log level component text =>
      if v.shows level then some (.diagnostics, logLine time level component text) else none
  | .heard _ (.reply text) => some (.output, endingLine text)
  | .heard _ (.failure text) => some (.diagnostics, text ++ "\n")
  | .wire _ => none
  | .shown screen text => some (screen, text)

def shownOn (screen : Screen) (time : String) (v : Verbosity) (journal : List Entry) : String :=
  String.join (journal.filterMap fun e =>
    match shown? time v e with
    | some (place, text) => if place = screen then some text else none
    | none => none)

/-- A run of the program that has ended. -/
structure Finished (ν : Type) where
  status : Nat
  output : String
  diagnostics : String
  files : FileTree
  network : ν

/-- The beginning of a run: it ends at once with what is shown, or it goes on with
a shell. -/
inductive Launch (ν : Type) where
  | ended (status : Nat) (output diagnostics : String)
  | running (verbosity : Verbosity) (shell : Shell ν)

variable {ν : Type} [Network ν]

def launch (arguments : List String) (passwords : Option (List String)) (files : FileTree)
    (network : ν) : Launch ν :=
  match Arguments.parse arguments with
  | .refused e =>
      .ended 1 "" (e.message ++ "\nRun " ++ programName ++ " --help for more information.\n")
  | .help => .ended 0 (argumentHelp ++ "\n") ""
  | .run a =>
      if a.version then .ended 0 versionLine ""
      else .running (Verbosity.ofArguments a) (Shell.start a.host passwords files network)

/-- A whole run of the program.  Every log record bears the same time. -/
def runProgram (time : String) (arguments : List String) (passwords : Option (List String))
    (input : List InputLine) (files : FileTree) (network : ν) : Finished ν :=
  match launch arguments passwords files network with
  | .ended status output diagnostics => ⟨status, output, diagnostics, files, network⟩
  | .running verbosity shell =>
      let sh := shell.run input
      let journal := sh.session.journal
      { status := 0
        output := shownOn .output time verbosity journal
        diagnostics := shownOn .diagnostics time verbosity journal
        files := sh.session.files
        network := sh.session.network }

end Prompt
end FtpClient
