/-
UTF-8 octets and text.  Encoding is the library's; decoding never fails.  An
octet that rules UTF-8 out ends the character begun before it, which is read as
one replacement character, and is then looked at afresh.  The decoder is a
machine that takes one octet at a time, so that decoding is a fold over the
octets.
-/

namespace FtpClient
namespace Utf8

def encode (s : String) : List UInt8 :=
  s.toList.flatMap String.utf8EncodeChar

def replacement : Char := '\ufffd'

/-- A character whose first octets have been read: its bits so far, the number
of octets owed after the next one, and the range the next one must lie in. -/
structure Begun where
  bits : Nat
  owed : Nat
  low : UInt8
  high : UInt8
deriving DecidableEq, Repr

/-- The decoder's state between two octets: `none` between characters. -/
abbrev State := Option Begun

/-- An octet read between characters.  The ranges of the octet after `0xE0`,
`0xED`, `0xF0` and `0xF4` exclude overlong forms, surrogates and values that are
too large. -/
def start (b : UInt8) : List Char × State :=
  if b < 0x80 then ([Char.ofNat b.toNat], none)
  else if b < 0xC2 then ([replacement], none)
  else if b < 0xE0 then ([], some ⟨b.toNat - 0xC0, 0, 0x80, 0xBF⟩)
  else if b = 0xE0 then ([], some ⟨0, 1, 0xA0, 0xBF⟩)
  else if b = 0xED then ([], some ⟨0xD, 1, 0x80, 0x9F⟩)
  else if b < 0xF0 then ([], some ⟨b.toNat - 0xE0, 1, 0x80, 0xBF⟩)
  else if b = 0xF0 then ([], some ⟨0, 2, 0x90, 0xBF⟩)
  else if b < 0xF4 then ([], some ⟨b.toNat - 0xF0, 2, 0x80, 0xBF⟩)
  else if b = 0xF4 then ([], some ⟨4, 2, 0x80, 0x8F⟩)
  else ([replacement], none)

/-- One octet: the characters it completes and the state after it. -/
def step : State → UInt8 → List Char × State
  | none, b => start b
  | some c, b =>
      if c.low ≤ b ∧ b ≤ c.high then
        let bits := c.bits * 64 + (b.toNat - 0x80)
        match c.owed with
        | 0 => ([Char.ofNat bits], none)
        | owed + 1 => ([], some ⟨bits, owed, 0x80, 0xBF⟩)
      else
        let (out, next) := start b
        (replacement :: out, next)

/-- The characters of the octets after state `s`.  Octets that end within a
character are one replacement character. -/
def decodeFrom : State → List UInt8 → List Char
  | none, [] => []
  | some _, [] => [replacement]
  | s, b :: rest =>
      let (out, next) := step s b
      out ++ decodeFrom next rest

def decode (bytes : List UInt8) : String :=
  String.ofList (decodeFrom none bytes)

def decode? (bytes : List UInt8) : Option String :=
  let s := decode bytes
  if encode s = bytes then some s else none

theorem encode_append (a b : String) : encode (a ++ b) = encode a ++ encode b := by
  simp [encode]

@[simp] theorem decode_nil : decode [] = "" := rfl

/-! Octets that are decoded leave at least one character. -/

theorem start_ne_nil (b : UInt8) : (start b).1 ≠ [] ∨ (start b).2.isSome := by
  unfold start
  repeat' split
  all_goals simp

theorem decodeFrom_some_ne_nil (c : Begun) (bytes : List UInt8) :
    decodeFrom (some c) bytes ≠ [] := by
  induction bytes generalizing c with
  | nil => simp [decodeFrom]
  | cons b rest ih =>
      unfold decodeFrom step
      dsimp only
      split
      · split
        · simp
        · exact ih _
      · simp

theorem decode_eq_empty {bytes : List UInt8} : decode bytes = "" ↔ bytes = [] := by
  constructor
  · intro h
    have hchars : decodeFrom none bytes = [] := by
      simpa [decode] using congrArg String.toList h
    cases bytes with
    | nil => rfl
    | cons b rest =>
        obtain ⟨hout, hrest⟩ := List.append_eq_nil_iff.1 hchars
        obtain ⟨c, hc⟩ := Option.isSome_iff_exists.1 ((start_ne_nil b).resolve_left (not_not_intro hout))
        have hrest : decodeFrom (start b).2 rest = [] := hrest
        rw [hc] at hrest
        exact absurd hrest (decodeFrom_some_ne_nil c rest)
  · rintro rfl
    rfl

end Utf8
end FtpClient
