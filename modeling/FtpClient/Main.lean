import FtpClient.Network.Offline
import FtpClient.Prompt.Screens
import Std.Time.DateTime
import Std.Time.Format

/-
The program on a console.  It reads lines, feeds them to the shell and shows what
the shell adds to its journal.
-/

namespace FtpClient
namespace Console

open Prompt

def now : IO String := do
  let instant ← Std.Time.Timestamp.now
  return Std.Time.Formats.iso8601.format (Std.Time.DateTime.ofTimestamp instant .UTC)

def put (screen : Screen) (text : String) : IO Unit := do
  let stream ← match screen with
    | .output => IO.getStdout
    | .diagnostics => IO.getStderr
  stream.putStr text
  stream.flush

def showEntries (v : Verbosity) (entries : List Entry) : IO Unit := do
  let time ← now
  for entry in entries do
    match shown? time v entry with
    | some (screen, text) => put screen text
    | none => pure ()

/-- Read the octets of a line after those in `line`, last first. -/
partial def readLine (input : IO.FS.Stream) (line : List UInt8) : IO (Option InputLine) := do
  match (← input.read 1).toList with
  | [] => return if line = [] then none else some (.ofBytes line.reverse)
  | b :: _ =>
      if b = lineFeed then return some (.ofBytes (b :: line).reverse)
      else readLine input (b :: line)

/-- Feed the shell until it has ended, where the first `shown` entries of its
journal have been shown. -/
partial def interact (input : IO.FS.Stream) (v : Verbosity) (shown : Nat)
    (sh : Shell Offline) : IO Unit := do
  let journal := sh.session.journal
  showEntries v (journal.drop shown)
  if sh.awaiting != .nothing then
    match ← readLine input [] with
    | some line => interact input v journal.length (sh.feed line)
    | none => interact input v journal.length sh.finish

def run (arguments : List String) : IO UInt32 := do
  match launch arguments none ⟨[], []⟩ (⟨⟩ : Offline) with
  | .ended status output diagnostics =>
      put .output output
      put .diagnostics diagnostics
      return UInt32.ofNat status
  | .running v sh =>
      interact (← IO.getStdin) v 0 sh
      return 0

end Console
end FtpClient

def main (arguments : List String) : IO UInt32 :=
  FtpClient.Console.run arguments
