import FtpClient.Command
import FtpClient.Proofs.Utf8
import FtpClient.Reply
import FtpClient.Stream.Inbound

/-
The octets of a command.  Its verb can be read off the beginning of them whatever the
argument is, and they are one line if the argument holds no line feed.
-/

namespace FtpClient

/-! ## Encoded text -/

namespace Utf8

theorem lineFeed_mem_encode {s : String} : lineFeed ∈ encode s ↔ '\n' ∈ s.toList :=
  ascii_mem_encode (c := '\n') (by decide) s

theorem carriageReturn_mem_encode {s : String} : carriageReturn ∈ encode s ↔ '\r' ∈ s.toList :=
  ascii_mem_encode (c := '\r') (by decide) s

end Utf8

namespace Command

def octets (c : Command) : List UInt8 :=
  Utf8.encode (c.line ++ lineEnd)

/-! ## One line -/

/-- The argument of a command, if it has one, holds no line feed. -/
def IsLine (c : Command) : Prop :=
  ∀ a, c.argument? = some a → '\n' ∉ a.toList

theorem octets_eq (c : Command) :
    c.octets = (Utf8.encode c.line ++ [carriageReturn]) ++ [lineFeed] := by
  rw [octets, Utf8.encode_append, List.append_assoc]
  rfl

/-! ## The verb -/

def verbs : List String :=
  ["CWD", "DELE", "EPSV", "LIST", "MKD", "NOOP", "PASS", "PWD", "QUIT", "RETR", "RMD", "SIZE",
    "STAT", "STOR", "SYST", "TYPE", "USER"]

def transferVerbs : List String :=
  ["LIST", "RETR", "STOR"]

theorem verb_mem (c : Command) : c.verb ∈ verbs := by
  cases c <;> simp [verb, verbs]

theorem lineFeed_notMem_line {c : Command} (h : c.IsLine) : '\n' ∉ c.line.toList := by
  have hverb : ∀ v ∈ verbs, '\n' ∉ v.toList := by decide
  have hv := hverb _ c.verb_mem
  unfold line lineOf
  split
  · rename_i a ha
    have harg := h a ha
    simpa using ⟨hv, harg⟩
  · exact hv

theorem lineFeed_notMem_octets (c : Command) (h : c.IsLine) :
    lineFeed ∉ Utf8.encode c.line ++ [carriageReturn] := by
  intro hmem
  rcases List.mem_append.1 hmem with hmem | hmem
  · exact lineFeed_notMem_line h (Utf8.lineFeed_mem_encode.1 hmem)
  · exact absurd (List.mem_singleton.1 hmem) (by decide)

/-- The octets of a command up to the first space or line end. -/
def verbOf (bytes : List UInt8) : List UInt8 :=
  bytes.takeWhile fun b => b != 0x20 && b != carriageReturn

theorem verbOf_octets (c : Command) : verbOf c.octets = Utf8.encode c.verb := by
  have hverbs : ∀ v ∈ verbs, ∀ b ∈ Utf8.encode v, (b != 0x20 && b != carriageReturn) := by
    decide +kernel
  have hv := hverbs _ c.verb_mem
  unfold octets line lineOf verbOf
  split
  · rw [Utf8.encode_append, Utf8.encode_append, Utf8.encode_append, List.append_assoc,
      List.append_assoc, List.takeWhile_append_of_pos hv]
    exact List.append_nil _
  · rw [Utf8.encode_append, List.takeWhile_append_of_pos hv]
    exact List.append_nil _

theorem verbOf_eq_encode {c : Command} {v : String} (hv : v ∈ verbs) :
    verbOf c.octets = Utf8.encode v ↔ c.verb = v := by
  have hverbs : ∀ v ∈ verbs, ∀ w ∈ verbs, Utf8.encode v = Utf8.encode w → v = w := by decide
  rw [verbOf_octets]
  exact ⟨hverbs _ c.verb_mem v hv, congrArg Utf8.encode⟩

/-- Whether octets written on the control connection ask for a payload. -/
def transfers (bytes : List UInt8) : Bool :=
  verbOf bytes ∈ transferVerbs.map Utf8.encode

theorem transfers_octets (c : Command) : transfers c.octets = decide (c.verb ∈ transferVerbs) := by
  have hverbs : ∀ v ∈ verbs,
      decide (Utf8.encode v ∈ transferVerbs.map Utf8.encode) = decide (v ∈ transferVerbs) := by
    decide
  rw [transfers, verbOf_octets]
  exact hverbs _ c.verb_mem

end Command
end FtpClient
