import FtpClient.Text.Utf8

/-
Port numbers in decimal.  A reader takes one sign `+` and leading zeros; the
value has to fit in sixteen bits.
-/

namespace FtpClient
namespace PortNumber

def isDigit (c : Char) : Bool :=
  '0' ≤ c && c ≤ '9'

def value (digits : List Char) : Nat :=
  digits.foldl (fun n c => n * 10 + (c.toNat - '0'.toNat)) 0

/-- A run of digits without the zeros at its beginning. -/
def significant (digits : List Char) : List Char :=
  digits.dropWhile (· = '0')

/-- The value of a run of digits, if it fits in sixteen bits.  Six significant
digits are too many whatever they are, so a long run is not evaluated. -/
def fitting? (digits : List Char) : Option UInt16 :=
  let ds := significant digits
  if ds.length ≤ 5 ∧ value ds < 65536 then some (UInt16.ofNat (value ds)) else none

/-- A numeral without its optional sign. -/
def digits? : List Char → Option (List Char)
  | '+' :: ds => if ds ≠ [] ∧ ds.all isDigit then some ds else none
  | ds => if ds ≠ [] ∧ ds.all isDigit then some ds else none

def ofChars? (cs : List Char) : Option UInt16 :=
  (digits? cs).bind fitting?

def ofString? (s : String) : Option UInt16 :=
  ofChars? s.toList

/-- The port that octets name.  An octet beyond ASCII is no digit. -/
def ofBytes? (bytes : List UInt8) : Option UInt16 :=
  ofChars? (bytes.map Char.ofUInt8)

/-- The decimal form of a port. -/
def toString (port : UInt16) : String :=
  String.ofList (Nat.toDigits 10 port.toNat)

/-- The weight of a digit that `n` digits follow. -/
def weight : Nat → Nat
  | 0 => 1
  | n + 1 => 10 * weight n

theorem weight_le {m n : Nat} (h : m ≤ n) : weight m ≤ weight n := by
  induction h with
  | refl => exact Nat.le_refl _
  | step _ ih => simp only [weight]; omega

theorem value_foldl (n : Nat) (ds : List Char) :
    ds.foldl (fun n c => n * 10 + (c.toNat - '0'.toNat)) n = n * weight ds.length + value ds := by
  induction ds generalizing n with
  | nil => simp [value, weight]
  | cons c ds ih =>
      simp only [value, List.foldl_cons, List.length_cons, weight]
      rw [ih, ih (0 * 10 + (c.toNat - '0'.toNat))]
      simp only [Nat.zero_mul, Nat.zero_add, Nat.add_mul, Nat.mul_assoc, Nat.add_assoc]

theorem value_cons (c : Char) (ds : List Char) :
    value (c :: ds) = (c.toNat - '0'.toNat) * weight ds.length + value ds := by
  rw [← value_foldl]
  simp [value]

theorem value_significant (ds : List Char) : value (significant ds) = value ds := by
  induction ds with
  | nil => rfl
  | cons c ds ih =>
      by_cases h : c = '0'
      · subst h
        rw [value_cons]
        simpa [significant] using ih
      · simp [significant, h]

theorem weight_le_value_significant {ds : List Char} (h : ds.all isDigit)
    (hne : significant ds ≠ []) : weight ((significant ds).length - 1) ≤ value ds := by
  induction ds with
  | nil => exact absurd rfl hne
  | cons c ds ih =>
      by_cases hc : c = '0'
      · subst hc
        have hs : significant ('0' :: ds) = significant ds := by simp [significant]
        rw [← value_significant, hs, value_significant]
        rw [hs] at hne
        exact ih (by simpa using (List.all_eq_true.1 h · <| List.mem_cons_of_mem _ ·)) hne
      · have hs : significant (c :: ds) = c :: ds := by simp [significant, hc]
        have hd : '0' ≤ c := by
          have := List.all_eq_true.1 h c List.mem_cons_self
          simp only [isDigit, Bool.and_eq_true, decide_eq_true_eq] at this
          exact this.1
        have hle : '0'.toNat ≤ c.toNat := hd
        have hne0 : c.toNat ≠ '0'.toNat := fun e => hc (Char.toNat_inj.1 e)
        have hpos : 1 ≤ c.toNat - '0'.toNat := by omega
        rw [hs, value_cons]
        calc weight ((c :: ds).length - 1) = 1 * weight ds.length := by simp
          _ ≤ (c.toNat - '0'.toNat) * weight ds.length := Nat.mul_le_mul_right _ hpos
          _ ≤ _ := Nat.le_add_right _ _

theorem fitting?_eq {ds : List Char} (h : ds.all isDigit) :
    fitting? ds = if value ds < 65536 then some (UInt16.ofNat (value ds)) else none := by
  unfold fitting?
  simp only [value_significant]
  by_cases hv : value ds < 65536
  · have hlen : (significant ds).length ≤ 5 := by
      by_cases hne : significant ds = []
      · simp [hne]
      · have hp := weight_le_value_significant h hne
        refine Nat.le_of_not_lt fun hlt => ?_
        have hw : weight 5 ≤ weight ((significant ds).length - 1) := weight_le (by omega)
        have h5 : weight 5 = 100000 := rfl
        omega
    simp [hv, hlen]
  · simp [hv]

end PortNumber
end FtpClient
