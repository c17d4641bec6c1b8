import FtpClient.Reply.DataPort

/-
Replies of the server: a code and the lines of its text, of which the first and
the last carry the code.
-/

namespace FtpClient

def lineEnd : String := "\r\n"

/-- One answer of the server.  The lines are held without their ends. -/
structure Reply where
  code : Nat
  lines : List String
deriving DecidableEq, Repr

namespace Reply

def text (r : Reply) : String :=
  String.join (r.lines.map (· ++ lineEnd))

/-- The text without the line end at its end. -/
def display (r : Reply) : String :=
  Blank.trimLineEnd r.text

def isNegative (r : Reply) : Bool :=
  400 ≤ r.code

def isPositive (r : Reply) : Bool :=
  !r.isNegative

/-- Another reply to the same command follows. -/
def isPreliminary (r : Reply) : Bool :=
  r.code < 200

/-- The port that an answer to `EPSV` announces. -/
def dataPort (r : Reply) : Except Failure UInt16 :=
  DataPort.parse r.text

end Reply

/-- What a line that begins a reply says: its code, and whether more lines
follow. -/
structure Head where
  code : Nat
  more : Bool
deriving DecidableEq, Repr

namespace Head

/-- The code of three digits between 100 and 599. -/
def code? (a b c : Char) : Option Nat :=
  let code := PortNumber.value [a, b, c]
  if [a, b, c].all PortNumber.isDigit ∧ 100 ≤ code ∧ code ≤ 599 then some code else none

/-- The beginning of a reply: a code, then a space if the line is the last one
of the reply, or a hyphen if more lines follow. -/
def ofChars? : List Char → Option Head
  | a :: b :: c :: mark :: _ =>
      if mark = ' ' then (code? a b c).map (⟨·, false⟩)
      else if mark = '-' then (code? a b c).map (⟨·, true⟩)
      else none
  | _ => none

def ofLine? (line : String) : Option Head :=
  ofChars? line.toList

end Head

/-- Whether a line ends the reply of several lines that was begun with `code`. -/
def endsReply (code : Nat) (line : String) : Bool :=
  Head.ofLine? line == some ⟨code, false⟩

/-- The outcome of a command that reached the server. -/
inductive Answer (α : Type) where
  | accepted (value : α)
  | refused (reply : Reply)
deriving DecidableEq, Repr

namespace Answer

def isAccepted {α : Type} : Answer α → Bool
  | accepted _ => true
  | refused _ => false

def value? {α : Type} : Answer α → Option α
  | accepted a => some a
  | refused _ => none

def map {α β : Type} (f : α → β) : Answer α → Answer β
  | accepted a => accepted (f a)
  | refused r => refused r

/-- A reply is a refusal exactly if it is negative. -/
def ofReply (r : Reply) : Answer Reply :=
  if r.isNegative then refused r else accepted r

end Answer
end FtpClient
