import FtpClient.Proofs.Utf8
import FtpClient.Text.PortNumber

/-
Numerals of ports.

A numeral names the port that is the value of its digits.  The reader takes exactly the numerals
that name a port, and the decimal form of a port is one of them.
-/

namespace FtpClient
namespace PortNumber

variable {cs ds : List Char} {port : UInt16} {bytes : List UInt8}

/-- A numeral of a port: digits of which it is the value, behind a sign or not. -/
def Names (cs : List Char) (port : UInt16) : Prop :=
  ∃ digits, (cs = digits ∨ cs = '+' :: digits) ∧ digits ≠ [] ∧ (∀ c ∈ digits, c.isDigit) ∧
    Nat.ofDigitChars 10 digits 0 = port.toNat

/-! ## Reading -/

theorem all_isDigit : ds.all isDigit ↔ ∀ c ∈ ds, c.isDigit := by
  rw [List.all_eq_true]
  exact Iff.rfl

theorem value_eq (ds : List Char) : value ds = Nat.ofDigitChars 10 ds 0 := by
  unfold value Nat.ofDigitChars
  simp only [Nat.mul_comm]

theorem digits?_eq_some : digits? cs = some ds ↔
    (cs = ds ∨ cs = '+' :: ds) ∧ ds ≠ [] ∧ ∀ c ∈ ds, c.isDigit := by
  have hread (es : List Char) : (if es ≠ [] ∧ es.all isDigit then some es else none) = some ds ↔
      es = ds ∧ ds ≠ [] ∧ ∀ c ∈ ds, c.isDigit := by
    rw [← all_isDigit]
    by_cases hes : es ≠ [] ∧ es.all isDigit
    · rw [if_pos hes, Option.some_inj]
      exact ⟨fun h => ⟨h, h ▸ hes⟩, And.left⟩
    · rw [if_neg hes]
      exact ⟨nofun, fun h => absurd (h.1 ▸ h.2) hes⟩
  unfold digits?
  split
  · rename_i rest
    rw [hread]
    constructor
    · intro h
      exact ⟨Or.inr (by rw [h.1]), h.2⟩
    · intro h
      obtain ⟨hcs, hds⟩ := h
      rcases hcs with rfl | hcs
      · -- The sign is no digit.
        exact absurd (hds.2 '+' List.mem_cons_self) (by decide)
      · exact ⟨(List.cons.inj hcs).2, hds⟩
  · rename_i hsign
    rw [hread]
    constructor
    · intro h
      exact ⟨Or.inl h.1, h.2⟩
    · intro h
      obtain ⟨hcs, hds⟩ := h
      exact ⟨hcs.resolve_right fun heq => hsign ds heq, hds⟩

theorem fitting?_eq_some (h : ∀ c ∈ ds, c.isDigit) :
    fitting? ds = some port ↔ Nat.ofDigitChars 10 ds 0 = port.toNat := by
  rw [fitting?_eq (all_isDigit.2 h), value_eq]
  generalize Nat.ofDigitChars 10 ds 0 = n
  by_cases hn : n < 65536
  · rw [if_pos hn, Option.some_inj, ← UInt16.toNat_inj, UInt16.toNat_ofNat']
    rw [Nat.mod_eq_of_lt hn]
  · have hport := port.toNat_lt
    rw [if_neg hn]
    constructor
    · exact nofun
    · intro heq
      omega

/-- Exactly the numerals of a port are read as it. -/
theorem ofChars?_eq_some : ofChars? cs = some port ↔ Names cs port := by
  unfold ofChars?
  rw [Option.bind_eq_some_iff]
  constructor
  · intro h
    obtain ⟨ds, hds, hfitting⟩ := h
    obtain ⟨hcs, hne, hdigits⟩ := digits?_eq_some.1 hds
    exact ⟨ds, hcs, hne, hdigits, (fitting?_eq_some hdigits).1 hfitting⟩
  · intro h
    obtain ⟨ds, hcs, hne, hdigits, hvalue⟩ := h
    exact ⟨ds, digits?_eq_some.2 ⟨hcs, hne, hdigits⟩, (fitting?_eq_some hdigits).2 hvalue⟩

/-! ## Octets -/

theorem toNat_of_isDigit {c : Char} (h : c.isDigit) : c.toNat < 0x80 := by
  have hc : '0'.val ≤ c.val ∧ c.val ≤ '9'.val := by simpa [Char.isDigit] using h
  have hle : c.toNat ≤ '9'.toNat := UInt32.le_iff_toNat_le.1 hc.2
  exact Nat.lt_of_le_of_lt hle (by decide)

theorem Names.ascii (h : Names cs port) : ∀ c ∈ cs, c.toNat < 0x80 := by
  obtain ⟨ds, hcs, -, hdigits, -⟩ := h
  intro c hc
  rcases hcs with rfl | rfl
  · exact toNat_of_isDigit (hdigits c hc)
  · rcases List.mem_cons.1 hc with rfl | hc
    · decide
    · exact toNat_of_isDigit (hdigits c hc)

theorem octet_ofUInt8 (b : UInt8) : UInt8.ofNat (Char.ofUInt8 b).toNat = b := by
  show UInt8.ofNat b.toUInt32.toNat = b
  rw [UInt8.toNat_toUInt32, UInt8.ofNat_toNat]

theorem ofUInt8_octet {c : Char} (h : c.toNat < 0x80) :
    Char.ofUInt8 (UInt8.ofNat c.toNat) = c := by
  apply Char.toNat_inj.1
  show (UInt8.ofNat c.toNat).toUInt32.toNat = c.toNat
  rw [UInt8.toNat_toUInt32, Utf8.toNat_octet (by omega)]

/-- Octets are read as a port exactly if they are the encoding of a numeral of it. -/
theorem ofBytes?_eq_some : ofBytes? bytes = some port ↔
    ∃ numeral : String, Utf8.encode numeral = bytes ∧ Names numeral.toList port := by
  unfold ofBytes?
  rw [ofChars?_eq_some]
  constructor
  · intro h
    refine ⟨String.ofList (bytes.map Char.ofUInt8), ?_, by rwa [String.toList_ofList]⟩
    rw [Utf8.encode_ascii h.ascii, List.map_map]
    simp [Function.comp_def, octet_ofUInt8]
  · intro h
    obtain ⟨numeral, rfl, hnames⟩ := h
    have hascii := hnames.ascii
    have hencode := Utf8.encode_ascii hascii
    rw [String.ofList_toList] at hencode
    have hsame : ∀ c ∈ numeral.toList,
        (Char.ofUInt8 ∘ fun c : Char => UInt8.ofNat c.toNat) c = id c :=
      fun c hc => ofUInt8_octet (hascii c hc)
    rw [hencode, List.map_map, List.map_congr_left hsame, List.map_id]
    exact hnames

/-! ## Writing -/

theorem names_toDigits (port : UInt16) : Names (Nat.toDigits 10 port.toNat) port :=
  ⟨_, Or.inl rfl, Nat.toDigits_ne_nil,
    fun _ hc => Nat.isDigit_of_mem_toDigits (by decide) (by decide) hc,
    Nat.ofDigitChars_ten_toDigits⟩

end PortNumber
end FtpClient
