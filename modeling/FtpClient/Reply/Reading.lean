import FtpClient.Reply
import FtpClient.Stream.Inbound

/-
Reading replies.  A reply is one line, or the lines from one whose code is
followed by a hyphen up to the first that has the same code and a space.  Each
reading reports the lines that it consumed, also where it fails.
-/

namespace FtpClient

/-- The text of a line: carriage returns are removed wherever they stand. -/
def lineText (octets : List UInt8) : String :=
  Utf8.decode (octets.filter (· != carriageReturn))

/-- The outcome of reading lines of a reply. -/
structure Reading (α : Type) where
  /-- The lines read, in order. -/
  lines : List String
  outcome : Except Failure α
  rest : Inbound
deriving Repr

/-- The stream after a reading.  A reading that failed with the connection was told of
its failure. -/
def Reading.left {α : Type} (r : Reading α) : Inbound :=
  match r.outcome with
  | .error (.connection _ _) => r.rest.told
  | _ => r.rest

theorem Reading.left_ok {α : Type} {r : Reading α} {a : α} (h : r.outcome = .ok a) :
    r.left = r.rest := by
  rw [left, h]

theorem Reading.left_unread {α : Type} (r : Reading α) : r.left.unread = r.rest.unread := by
  unfold left
  split <;> rfl

namespace Inbound

def receivingFailed (cause : SystemError) : Failure :=
  .connection .receivingReply cause

/-- Read on to the last line of the reply begun with `code`. -/
def readRest (code : Nat) (s : Inbound) : Reading Unit :=
  match _h : s.readLine.outcome with
  | .error cause => ⟨[], .error (receivingFailed cause), s.readLine.rest⟩
  | .ok octets =>
      let line := lineText octets
      if endsReply code line then ⟨[line], .ok (), s.readLine.rest⟩
      else
        let r := readRest code s.readLine.rest
        { r with lines := line :: r.lines }
termination_by s.unread.length
decreasing_by exact readLine_length _h

def readReply (s : Inbound) : Reading Reply :=
  match s.readLine.outcome with
  | .error cause => ⟨[], .error (receivingFailed cause), s.readLine.rest⟩
  | .ok octets =>
      let line := lineText octets
      match Head.ofLine? line with
      | none => ⟨[line], .error (.protocol .invalidReply line), s.readLine.rest⟩
      | some ⟨code, false⟩ => ⟨[line], .ok ⟨code, [line]⟩, s.readLine.rest⟩
      | some ⟨code, true⟩ =>
          let r := readRest code s.readLine.rest
          let lines := line :: r.lines
          ⟨lines, r.outcome.map fun _ => ⟨code, lines⟩, r.rest⟩

/-- Read replies one after another, at most `limit` of them.  A line against the
protocol is passed over; a failure of the connection is the last item. -/
def readReplies : Nat → Inbound → List (Except Failure Reply)
  | 0, _ => []
  | limit + 1, s =>
      let r := s.readReply
      match r.outcome with
      | .error (.connection activity cause) => [.error (.connection activity cause)]
      | item => item :: readReplies limit r.rest

end Inbound

def Reply.parse (text : String) : Except Failure Reply :=
  (Inbound.ofSource (Source.ofBytes (Utf8.encode text))).readReply.outcome

end FtpClient
