import FtpClient.Text.Utf8

/-
What encoding and decoding do to text.

Decoding gives back what was encoded: the machine reads the octets of a character and is then
between characters again.  Of other octets it makes some text, and the ASCII characters in it
are octets of what was read.  Both are proved octet by octet, so `start` is first put in terms
of numbers.
-/

namespace FtpClient
namespace Utf8

/-! ## Encoding -/

/- An octet below `0x80` is in the encoding of a character exactly if it is all of it: the
other forms have the high bit set throughout. -/
theorem ascii_mem_encodeChar {b : UInt8} (hb : b < 0x80) (c : Char) :
    b ∈ String.utf8EncodeChar c ↔ c.val.toNat = b.toNat := by
  have hlow : b.toNat < 128 := by simpa using UInt8.lt_iff_toNat_lt.1 hb
  have hoctet (n : Nat) : b = UInt8.ofNat n ↔ n % 256 = b.toNat := by
    rw [← UInt8.toNat_inj, UInt8.toNat_ofNat']
    omega
  unfold String.utf8EncodeChar
  dsimp only
  split
  · simp only [List.mem_singleton, hoctet]
    omega
  · split
    · simp only [List.mem_cons, List.not_mem_nil, or_false, hoctet]
      omega
    · split
      · simp only [List.mem_cons, List.not_mem_nil, or_false, hoctet]
        omega
      · simp only [List.mem_cons, List.not_mem_nil, or_false, hoctet]
        omega

theorem toNat_octet {n : Nat} (h : n < 256) : (UInt8.ofNat n).toNat = n := by
  rw [UInt8.toNat_ofNat', Nat.mod_eq_of_lt h]

/-- An ASCII character is in a text exactly if its octet is in the encoding. -/
theorem ascii_mem_encode {c : Char} (hascii : c.toNat < 0x80) (s : String) :
    UInt8.ofNat c.toNat ∈ encode s ↔ c ∈ s.toList := by
  have hvalue : (UInt8.ofNat c.toNat).toNat = c.val.toNat := toNat_octet (by omega)
  have hlow : UInt8.ofNat c.toNat < 0x80 := by
    rw [UInt8.lt_iff_toNat_lt, hvalue]
    exact hascii
  have hchar (d : Char) : UInt8.ofNat c.toNat ∈ String.utf8EncodeChar d ↔ d = c := by
    rw [ascii_mem_encodeChar hlow, hvalue, UInt32.toNat_inj, Char.ext_iff]
  unfold encode
  rw [List.mem_flatMap]
  constructor
  · intro hboth
    obtain ⟨d, hd, hmem⟩ := hboth
    rw [(hchar d).1 hmem] at hd
    exact hd
  · intro h
    exact ⟨c, h, (hchar c).2 rfl⟩

theorem encodeChar_ascii {c : Char} (h : c.toNat < 0x80) :
    String.utf8EncodeChar c = [UInt8.ofNat c.toNat] := by
  have hlow : c.val.toNat ≤ 0x7F := Nat.le_of_lt_succ h
  unfold String.utf8EncodeChar
  dsimp only
  rw [if_pos hlow]
  rfl

theorem encode_ascii {cs : List Char} (h : ∀ c ∈ cs, c.toNat < 0x80) :
    encode (String.ofList cs) = cs.map fun c => UInt8.ofNat c.toNat := by
  rw [encode, String.toList_ofList]
  induction cs with
  | nil => rfl
  | cons c cs ih =>
      rw [List.flatMap_cons, encodeChar_ascii (h c List.mem_cons_self),
        ih fun d hd => h d (List.mem_cons_of_mem c hd)]
      rfl

/-! ## Decoding what was encoded -/

theorem decodeFrom_cons (s : State) (b : UInt8) (rest : List UInt8) :
    decodeFrom s (b :: rest) = (step s b).1 ++ decodeFrom (step s b).2 rest := by
  cases s <;> rfl

section

variable {n : Nat}

theorem octet_lt (h : n < 256) (b : UInt8) : UInt8.ofNat n < b ↔ n < b.toNat := by
  rw [UInt8.lt_iff_toNat_lt, toNat_octet h]

theorem octet_eq (h : n < 256) (b : UInt8) : UInt8.ofNat n = b ↔ n = b.toNat := by
  rw [← UInt8.toNat_inj, toNat_octet h]

theorem le_octet (h : n < 256) (b : UInt8) : b ≤ UInt8.ofNat n ↔ b.toNat ≤ n := by
  rw [UInt8.le_iff_toNat_le, toNat_octet h]

theorem octet_le (h : n < 256) (b : UInt8) : UInt8.ofNat n ≤ b ↔ n ≤ b.toNat := by
  rw [UInt8.le_iff_toNat_le, toNat_octet h]

theorem start_octet (h : n < 256) : start (UInt8.ofNat n) =
    if n < 0x80 then ([Char.ofNat n], none)
    else if n < 0xC2 then ([replacement], none)
    else if n < 0xE0 then ([], some ⟨n - 0xC0, 0, 0x80, 0xBF⟩)
    else if n = 0xE0 then ([], some ⟨0, 1, 0xA0, 0xBF⟩)
    else if n = 0xED then ([], some ⟨0xD, 1, 0x80, 0x9F⟩)
    else if n < 0xF0 then ([], some ⟨n - 0xE0, 1, 0x80, 0xBF⟩)
    else if n = 0xF0 then ([], some ⟨0, 2, 0x90, 0xBF⟩)
    else if n < 0xF4 then ([], some ⟨n - 0xF0, 2, 0x80, 0xBF⟩)
    else if n = 0xF4 then ([], some ⟨4, 2, 0x80, 0x8F⟩)
    else ([replacement], none) := by
  simp only [start, octet_lt h, octet_eq h, toNat_octet h]
  rfl

/-- An octet that the character begun allows belongs to it. -/
theorem step_within {c : Begun} (hlow : c.low.toNat ≤ n) (hhigh : n ≤ c.high.toNat) :
    step (some c) (UInt8.ofNat n) =
      match c.owed with
      | 0 => ([Char.ofNat (c.bits * 64 + (n - 0x80))], none)
      | owed + 1 => ([], some ⟨c.bits * 64 + (n - 0x80), owed, 0x80, 0xBF⟩) := by
  have hn : n < 256 := by
    have := c.high.toNat_lt
    omega
  have hwithin : c.low ≤ UInt8.ofNat n ∧ UInt8.ofNat n ≤ c.high :=
    ⟨(le_octet hn c.low).2 hlow, (octet_le hn c.high).2 hhigh⟩
  obtain ⟨bits, owed, low, high⟩ := c
  cases owed with
  | zero => simp only [step, if_pos hwithin, toNat_octet hn]
  | succ owed => simp only [step, if_pos hwithin, toNat_octet hn]

theorem decodeFrom_last {bits : Nat} {low high : UInt8} (hlow : low.toNat ≤ n)
    (hhigh : n ≤ high.toNat) (rest : List UInt8) :
    decodeFrom (some ⟨bits, 0, low, high⟩) (UInt8.ofNat n :: rest) =
      Char.ofNat (bits * 64 + (n - 0x80)) :: decodeFrom none rest := by
  rw [decodeFrom_cons, step_within hlow hhigh]
  rfl

theorem decodeFrom_more {bits owed : Nat} {low high : UInt8} (hlow : low.toNat ≤ n)
    (hhigh : n ≤ high.toNat) (rest : List UInt8) :
    decodeFrom (some ⟨bits, owed + 1, low, high⟩) (UInt8.ofNat n :: rest) =
      decodeFrom (some ⟨bits * 64 + (n - 0x80), owed, 0x80, 0xBF⟩) rest := by
  rw [decodeFrom_cons, step_within hlow hhigh]
  rfl

/-! The range that the second octet must lie in rules out the forms that are longer than need be,
the surrogates, and the values that are too large.  The value of a character is none of these. -/

theorem start_three {m : Nat} (hlow : 0xE0 ≤ n) (hhigh : n < 0xF0) (hm : 0x80 ≤ m ∧ m < 0xC0)
    (hshort : n = 0xE0 → 0xA0 ≤ m) (hsurrogate : n = 0xED → m < 0xA0) :
    ∃ low high : UInt8, start (UInt8.ofNat n) = ([], some ⟨n - 0xE0, 1, low, high⟩) ∧
      low.toNat ≤ m ∧ m ≤ high.toNat := by
  rw [start_octet (by omega), if_neg (by omega), if_neg (by omega), if_neg (by omega)]
  by_cases hfirst : n = 0xE0
  · rw [if_pos hfirst, hfirst]
    exact ⟨0xA0, 0xBF, rfl, hshort hfirst, by show m ≤ 191; omega⟩
  · rw [if_neg hfirst]
    by_cases hlast : n = 0xED
    · rw [if_pos hlast, hlast]
      exact ⟨0x80, 0x9F, rfl, hm.1, by have := hsurrogate hlast; show m ≤ 159; omega⟩
    · rw [if_neg hlast, if_pos hhigh]
      exact ⟨0x80, 0xBF, rfl, hm.1, by show m ≤ 191; omega⟩

theorem start_four {m : Nat} (hlow : 0xF0 ≤ n) (hhigh : n < 0xF5) (hm : 0x80 ≤ m ∧ m < 0xC0)
    (hshort : n = 0xF0 → 0x90 ≤ m) (hlarge : n = 0xF4 → m < 0x90) :
    ∃ low high : UInt8, start (UInt8.ofNat n) = ([], some ⟨n - 0xF0, 2, low, high⟩) ∧
      low.toNat ≤ m ∧ m ≤ high.toNat := by
  rw [start_octet (by omega), if_neg (by omega), if_neg (by omega), if_neg (by omega),
    if_neg (by omega), if_neg (by omega), if_neg (by omega)]
  by_cases hfirst : n = 0xF0
  · rw [if_pos hfirst, hfirst]
    exact ⟨0x90, 0xBF, rfl, hshort hfirst, by show m ≤ 191; omega⟩
  · rw [if_neg hfirst]
    by_cases hlast : n = 0xF4
    · rw [if_neg (by omega), if_pos hlast, hlast]
      exact ⟨0x80, 0x8F, rfl, hm.1, by have := hlarge hlast; show m ≤ 143; omega⟩
    · rw [if_pos (by omega)]
      exact ⟨0x80, 0xBF, rfl, hm.1, by show m ≤ 191; omega⟩

end

theorem decodeFrom_encodeChar (c : Char) (rest : List UInt8) :
    decodeFrom none (String.utf8EncodeChar c ++ rest) = c :: decodeFrom none rest := by
  have hchar (n : Nat) (h : n = c.val.toNat) : Char.ofNat n = c := by
    rw [h]
    exact Char.ofNat_toNat c
  have hvalid : c.val.toNat < 0xD800 ∨ 0xDFFF < c.val.toNat ∧ c.val.toNat < 0x110000 := c.valid
  have hstart (n : Nat) (more : List UInt8) : decodeFrom none (UInt8.ofNat n :: more) =
      (start (UInt8.ofNat n)).1 ++ decodeFrom (start (UInt8.ofNat n)).2 more :=
    decodeFrom_cons none _ more
  have htail (n : Nat) : (0x80 : UInt8).toNat ≤ n % 64 + 0x80 ∧
      n % 64 + 0x80 ≤ (0xBF : UInt8).toNat := by
    show 0x80 ≤ n % 64 + 0x80 ∧ n % 64 + 0x80 ≤ 0xBF
    omega
  unfold String.utf8EncodeChar
  generalize c.val.toNat = v at hchar hvalid
  dsimp only
  split
  · rw [List.singleton_append, hstart, start_octet (by omega), if_pos (by omega), hchar v rfl]
    rfl
  · split
    · simp only [List.cons_append, List.nil_append]
      rw [hstart, start_octet (by omega), if_neg (by omega), if_neg (by omega), if_pos (by omega),
        List.nil_append, decodeFrom_last (htail v).1 (htail v).2, hchar _ (by omega)]
    · split
      · obtain ⟨low, high, hfirst, hlow, hhigh⟩ := start_three (n := v / 4096 % 16 + 0xe0)
          (m := v / 64 % 64 + 0x80) (by omega) (by omega) (by omega) (by omega) (by omega)
        simp only [List.cons_append, List.nil_append]
        rw [hstart, hfirst, List.nil_append, decodeFrom_more hlow hhigh,
          decodeFrom_last (htail v).1 (htail v).2, hchar _ (by omega)]
      · obtain ⟨low, high, hfirst, hlow, hhigh⟩ := start_four (n := v / 262144 % 8 + 0xf0)
          (m := v / 4096 % 64 + 0x80) (by omega) (by omega) (by omega) (by omega) (by omega)
        simp only [List.cons_append, List.nil_append]
        rw [hstart, hfirst, List.nil_append, decodeFrom_more hlow hhigh,
          decodeFrom_more (htail (v / 64)).1 (htail (v / 64)).2,
          decodeFrom_last (htail v).1 (htail v).2, hchar _ (by omega)]

/-- Text that is encoded is decoded to itself. -/
theorem decode_encode (s : String) : decode (encode s) = s := by
  have hchars (cs : List Char) : decodeFrom none (cs.flatMap String.utf8EncodeChar) = cs := by
    induction cs with
    | nil => rfl
    | cons c cs ih => rw [List.flatMap_cons, decodeFrom_encodeChar, ih]
  rw [decode, encode, hchars, String.ofList_toList]

/-! ## The ASCII characters of decoded text

A character of several octets is no ASCII character, so decoding makes no ASCII character of
other octets.  The character of value zero is left out, as it also stands for values that are no
character. -/

/-- The character that was begun will not be an ASCII character. -/
def Begun.IsWide (c : Begun) : Prop :=
  (if c.owed = 0 then 0x80 else 2) ≤ c.bits * 64 + (c.low.toNat - 0x80)

def State.IsWide : State → Prop
  | none => True
  | some c => c.IsWide

theorem start_isWide (b : UInt8) : State.IsWide (start b).2 := by
  rw [← UInt8.ofNat_toNat (x := b), start_octet b.toNat_lt]
  generalize b.toNat = n
  repeat' split
  all_goals simp [State.IsWide, Begun.IsWide]
  all_goals omega

theorem step_isWide {s : State} (hs : s.IsWide) (b : UInt8) : State.IsWide (step s b).2 := by
  cases s with
  | none => exact start_isWide b
  | some c =>
      obtain ⟨bits, owed, low, high⟩ := c
      unfold step
      dsimp only
      by_cases hwithin : low ≤ b ∧ b ≤ high
      · rw [if_pos hwithin]
        cases owed with
        | zero => trivial
        | succ owed =>
            have hlow : low.toNat ≤ b.toNat := UInt8.le_iff_toNat_le.1 hwithin.1
            have hbits : 2 ≤ bits * 64 + (low.toNat - 0x80) := hs
            have htail : (0x80 : UInt8).toNat = 0x80 := rfl
            simp only [State.IsWide, Begun.IsWide, htail]
            split <;> omega
      · rw [if_neg hwithin]
        exact start_isWide b

variable {c : Char}

theorem toNat_eq_of_ofNat {n : Nat} (hnul : c ≠ '\x00') (h : c = Char.ofNat n) : c.toNat = n := by
  by_cases hvalid : n.isValidChar
  · rw [h, Char.ofNat, dif_pos hvalid]
    rfl
  · exact absurd (by rw [h, Char.ofNat, dif_neg hvalid]; rfl) hnul

theorem mem_start {b : UInt8} (hascii : c.toNat < 0x80) (hnul : c ≠ '\x00')
    (h : c ∈ (start b).1) : b.toNat = c.toNat := by
  have hreplacement : c ∈ [replacement] → b.toNat = c.toNat := by
    intro hc
    rw [List.mem_singleton.1 hc] at hascii
    exact absurd hascii (by decide)
  have hnone : c ∈ ([] : List Char) → b.toNat = c.toNat := fun hc => nomatch hc
  unfold start at h
  by_cases hlow : b < 0x80
  · rw [if_pos hlow] at h
    exact (toNat_eq_of_ofNat hnul (List.mem_singleton.1 h)).symm
  · rw [if_neg hlow] at h
    repeat' split at h
    all_goals first | exact hnone h | exact hreplacement h

theorem mem_step {s : State} {b : UInt8} (hs : s.IsWide) (hascii : c.toNat < 0x80)
    (hnul : c ≠ '\x00') (h : c ∈ (step s b).1) : b.toNat = c.toNat := by
  cases s with
  | none => exact mem_start hascii hnul h
  | some begun =>
      obtain ⟨bits, owed, low, high⟩ := begun
      unfold step at h
      dsimp only at h
      by_cases hwithin : low ≤ b ∧ b ≤ high
      · rw [if_pos hwithin] at h
        cases owed with
        | zero =>
            have hlow : low.toNat ≤ b.toNat := UInt8.le_iff_toNat_le.1 hwithin.1
            have hbits : 0x80 ≤ bits * 64 + (low.toNat - 0x80) := hs
            have hvalue := toNat_eq_of_ofNat hnul (List.mem_singleton.1 h)
            omega
        | succ owed => cases h
      · rw [if_neg hwithin] at h
        rcases List.mem_cons.1 h with hc | hc
        · rw [hc] at hascii
          exact absurd hascii (by decide)
        · exact mem_start hascii hnul hc

theorem mem_decodeFrom {s : State} {bytes : List UInt8} (hs : s.IsWide) (hascii : c.toNat < 0x80)
    (hnul : c ≠ '\x00') (h : c ∈ decodeFrom s bytes) : UInt8.ofNat c.toNat ∈ bytes := by
  induction bytes generalizing s with
  | nil =>
      cases s with
      | none => cases h
      | some begun =>
          rw [List.mem_singleton.1 h] at hascii
          exact absurd hascii (by decide)
  | cons b rest ih =>
      rw [decodeFrom_cons] at h
      rcases List.mem_append.1 h with h | h
      · rw [← mem_step hs hascii hnul h, UInt8.ofNat_toNat]
        exact List.mem_cons_self
      · exact List.mem_cons_of_mem _ (ih (step_isWide hs b) h)

/-- An ASCII character of the text is an octet of what was decoded. -/
theorem mem_decode {bytes : List UInt8} (hascii : c.toNat < 0x80) (hnul : c ≠ '\x00')
    (h : c ∈ (decode bytes).toList) : UInt8.ofNat c.toNat ∈ bytes := by
  rw [decode, String.toList_ofList] at h
  exact mem_decodeFrom (s := none) trivial hascii hnul h

end Utf8
end FtpClient
