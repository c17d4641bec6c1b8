import FtpClient.Proofs.PortNumbers
import FtpClient.Reply.DataPort

/-
The port in the answer to `EPSV`.

The octets between the first bar and the last one decide, whatever else is in the text, and
whether or not they are whole characters.  `parse?` is the reader step by step, where an octet
that is not there would end it without a result: it always has one.
-/

namespace FtpClient

/-! ## Positions of an octet -/

/-- The first octet of its kind is at position `i`. -/
structure IsFirst (b : UInt8) (bytes : List UInt8) (i : Nat) : Prop where
  here : bytes[i]? = some b
  before : ∀ k < i, bytes[k]? ≠ some b

/-- The last octet of its kind is at position `j`. -/
structure IsLast (b : UInt8) (bytes : List UInt8) (j : Nat) : Prop where
  here : bytes[j]? = some b
  behind : ∀ k > j, bytes[k]? ≠ some b

/-- The octets from `i` up to `j`, if these are positions in order. -/
def slice? (bytes : List UInt8) (i j : Nat) : Option (List UInt8) :=
  if i ≤ j ∧ j ≤ bytes.length then some ((bytes.take j).drop i) else none

section

variable {b : UInt8} {bytes front back : List UInt8} {i j : Nat}

theorem isFirst_iff : IsFirst b bytes i ↔ bytes.findIdx? (· == b) = some i := by
  rw [List.findIdx?_eq_some_iff_getElem]
  constructor
  · intro h
    obtain ⟨hlt, hget⟩ := List.getElem?_eq_some_iff.1 h.here
    refine ⟨hlt, by simpa using hget, fun k hk => ?_⟩
    have hne := h.before k hk
    rw [List.getElem?_eq_getElem (by omega)] at hne
    simpa using hne
  · intro h
    obtain ⟨hlt, hget, hbefore⟩ := h
    refine ⟨?_, fun k hk => ?_⟩
    · rw [List.getElem?_eq_getElem hlt]
      simpa using hget
    · rw [List.getElem?_eq_getElem (by omega)]
      simpa using hbefore k hk

theorem IsFirst.lt (h : IsFirst b bytes i) : i < bytes.length :=
  (List.getElem?_eq_some_iff.1 h.here).1

theorem IsLast.lt (h : IsLast b bytes j) : j < bytes.length :=
  (List.getElem?_eq_some_iff.1 h.here).1

/-- Read from its end a list has its last octet first. -/
theorem isLast_iff_reverse (hj : j < bytes.length) :
    IsLast b bytes j ↔ IsFirst b bytes.reverse (bytes.length - 1 - j) := by
  have hreverse (k : Nat) (hk : k < bytes.length) :
      bytes.reverse[bytes.length - 1 - k]? = bytes[k]? := by
    rw [List.getElem?_reverse (by omega)]
    congr 1
    omega
  constructor
  · intro h
    refine ⟨(hreverse j hj).trans h.here, fun k hk => ?_⟩
    have hmirror := h.behind (bytes.length - 1 - k) (by omega)
    rwa [← hreverse _ (by omega), show bytes.length - 1 - (bytes.length - 1 - k) = k by omega]
      at hmirror
  · intro h
    refine ⟨(hreverse j hj).symm.trans h.here, fun k hk => ?_⟩
    by_cases hlt : k < bytes.length
    · rw [← hreverse k hlt]
      exact h.before _ (by omega)
    · rw [List.getElem?_eq_none (by omega)]
      exact nofun

theorem isFirst_append (hfront : b ∉ front) (rest : List UInt8) :
    IsFirst b (front ++ b :: rest) front.length := by
  refine ⟨by simp, fun k hk => ?_⟩
  rw [List.getElem?_append_left hk]
  exact fun hget => hfront (List.mem_of_getElem? hget)

theorem isLast_append (hback : b ∉ back) (front : List UInt8) :
    IsLast b (front ++ b :: back) front.length := by
  refine ⟨by simp, fun k hk => ?_⟩
  rw [List.getElem?_append_right (by omega), List.getElem?_cons, if_neg (by omega)]
  exact fun hget => hback (List.mem_of_getElem? hget)

end

/-! ## The text without its line end -/

namespace Blank

/-- Exactly the line ends at the end of a text are trimmed. -/
theorem trimLineEnd_spec (text : String) :
    ∃ tail, text = trimLineEnd text ++ tail ∧ (∀ c ∈ tail.toList, c = '\r' ∨ c = '\n') ∧
      ∀ c, (trimLineEnd text).toList.getLast? = some c → c ≠ '\r' ∧ c ≠ '\n' := by
  have htrimmed : (trimLineEnd text).toList = (text.toList.reverse.dropWhile isLineEnd).reverse :=
    String.toList_ofList
  refine ⟨String.ofList (text.toList.reverse.takeWhile isLineEnd).reverse, ?_, ?_, ?_⟩
  · rw [← String.toList_inj, String.toList_append, htrimmed, String.toList_ofList,
      ← List.reverse_append, List.takeWhile_append_dropWhile, List.reverse_reverse]
  · intro c hc
    rw [String.toList_ofList, List.mem_reverse] at hc
    have hend := List.all_eq_true.1 List.all_takeWhile c hc
    simpa [isLineEnd] using hend
  · intro c hc
    have hkept := List.head?_dropWhile_not isLineEnd text.toList.reverse
    rw [htrimmed, List.getLast?_eq_head?_reverse, List.reverse_reverse] at hc
    rw [hc] at hkept
    simpa [isLineEnd] using hkept

end Blank

namespace DataPort

/-- Parsing a text, where an octet that is out of range would leave no result. -/
def parse? (text : String) : Option (Except Failure UInt16) :=
  let bytes := Utf8.encode text
  let failed := .error (.protocol .invalidDataPort (Blank.trimLineEnd text))
  match firstBar? bytes, lastBar? bytes with
  | some first, some last =>
      if bytes.length ≤ first + 3 ∨ last ≤ first + 3 then some failed
      else
        (slice? bytes (first + 3) last).map fun field =>
          match PortNumber.ofBytes? field with
          | some port => .ok port
          | none => failed
  | _, _ => some failed

variable {bytes field front back : List UInt8} {first last : Nat} {text : String} {port : UInt16}

theorem firstBar?_eq_some : firstBar? bytes = some first ↔ IsFirst bar bytes first :=
  isFirst_iff.symm

theorem lastBar?_eq_some : lastBar? bytes = some last ↔ IsLast bar bytes last := by
  unfold lastBar?
  rw [Option.map_eq_some_iff]
  constructor
  · intro h
    obtain ⟨i, hi, rfl⟩ := h
    have hfirst := isFirst_iff.2 hi
    have hlt := hfirst.lt
    rw [List.length_reverse] at hlt
    rw [isLast_iff_reverse (by omega)]
    rwa [show bytes.length - 1 - (bytes.length - 1 - i) = i by omega]
  · intro h
    have hlt := h.lt
    exact ⟨_, isFirst_iff.1 ((isLast_iff_reverse hlt).1 h), by omega⟩

theorem field?_eq_some : field? bytes = some field ↔
    ∃ first last, IsFirst bar bytes first ∧ IsLast bar bytes last ∧ first + 3 < last ∧
      slice? bytes (first + 3) last = some field := by
  have hcut (first last : Nat) (hlt : first + 3 < last) (hlast : last < bytes.length) :
      slice? bytes (first + 3) last = some ((bytes.take last).drop (first + 3)) :=
    if_pos ⟨by omega, by omega⟩
  constructor
  · intro h
    unfold field? at h
    split at h
    · rename_i first last hfirst hlast
      rw [firstBar?_eq_some] at hfirst
      rw [lastBar?_eq_some] at hlast
      split at h
      · rename_i hlt
        exact ⟨first, last, hfirst, hlast, hlt, (hcut first last hlt hlast.lt).trans h⟩
      · cases h
    · cases h
  · intro h
    obtain ⟨first, last, hfirst, hlast, hlt, hslice⟩ := h
    rw [hcut first last hlt hlast.lt] at hslice
    unfold field?
    rw [firstBar?_eq_some.2 hfirst, lastBar?_eq_some.2 hlast]
    dsimp only
    rw [if_pos hlt, hslice]

theorem parse_eq_ok : parse text = .ok port ↔
    ∃ field, field? (Utf8.encode text) = some field ∧ PortNumber.ofBytes? field = some port := by
  have hfind : parse text = .ok port ↔ find? text = some port := by
    unfold parse
    cases find? text with
    | none => exact ⟨nofun, nofun⟩
    | some found => exact ⟨fun h => congrArg some (Except.ok.inj h),
        fun h => congrArg Except.ok (Option.some.inj h)⟩
  rw [hfind]
  unfold find?
  cases field? (Utf8.encode text) with
  | none => exact ⟨nofun, fun h => nomatch h.choose_spec.1⟩
  | some field =>
      constructor
      · exact fun h => ⟨field, rfl, h⟩
      · intro h
        obtain ⟨field', hfield, hport⟩ := h
        rwa [Option.some.inj hfield]

theorem parse_eq_error (h : ∀ port, parse text ≠ .ok port) :
    parse text = .error (.protocol .invalidDataPort (Blank.trimLineEnd text)) := by
  unfold parse at h ⊢
  cases hfind : find? text with
  | none => rfl
  | some port =>
      rw [hfind] at h
      exact absurd rfl (h port)

/-- Nothing out of range is ever looked at. -/
theorem parse?_eq (text : String) : parse? text = some (parse text) := by
  unfold parse? parse find? field?
  dsimp only
  cases hfirst : firstBar? (Utf8.encode text) with
  | none => rfl
  | some first =>
      cases hlast : lastBar? (Utf8.encode text) with
      | none => rfl
      | some last =>
          have hbound := (lastBar?_eq_some.1 hlast).lt
          dsimp only
          by_cases hlt : first + 3 < last
          · rw [if_neg (by omega), slice?, if_pos ⟨by omega, by omega⟩, if_pos hlt]
            rfl
          · rw [if_pos (by omega), if_neg hlt]

/-- The field between bars in a text that has no others. -/
theorem field?_announced (hfront : bar ∉ front) (hback : bar ∉ back) (hfield : field ≠ []) :
    field? (front ++ bar :: bar :: bar :: (field ++ bar :: back)) = some field := by
  have hlength : 0 < field.length := List.length_pos_iff.2 hfield
  have hparts : front ++ bar :: bar :: bar :: (field ++ bar :: back) =
      (front ++ [bar, bar, bar] ++ field) ++ bar :: back := by simp
  have hfirst := isFirst_append hfront (bar :: bar :: (field ++ bar :: back))
  have hlast := isLast_append hback (front ++ [bar, bar, bar] ++ field)
  have hbegin : front.length + 3 = (front ++ [bar, bar, bar]).length := by simp
  rw [hparts] at hfirst ⊢
  refine field?_eq_some.2 ⟨_, _, hfirst, hlast, by simp; omega, ?_⟩
  rw [slice?, if_pos ⟨by simp, by simp⟩, List.take_left, hbegin, List.drop_left]

theorem parse_announced (port : UInt16) {a b : String} (ha : '|' ∉ a.toList)
    (hb : '|' ∉ b.toList) :
    parse (a ++ "(|||" ++ PortNumber.toString port ++ "|)" ++ b) = .ok port := by
  have hbar (s : String) : bar ∈ Utf8.encode s ↔ '|' ∈ s.toList :=
    Utf8.ascii_mem_encode (c := '|') (by decide) s
  have hnames := PortNumber.names_toDigits port
  have hfield : Utf8.encode (PortNumber.toString port) ≠ [] := by
    rw [PortNumber.toString, Utf8.encode_ascii hnames.ascii]
    simp
  have hfront : bar ∉ Utf8.encode (a ++ "(") := by
    rw [hbar]
    simpa using ha
  have hback : bar ∉ Utf8.encode (")" ++ b) := by
    rw [hbar]
    simpa using hb
  have hencode : Utf8.encode (a ++ "(|||" ++ PortNumber.toString port ++ "|)" ++ b) =
      Utf8.encode (a ++ "(") ++ bar :: bar :: bar ::
        (Utf8.encode (PortNumber.toString port) ++ bar :: Utf8.encode (")" ++ b)) := by
    have hopen : Utf8.encode "(|||" = Utf8.encode "(" ++ [bar, bar, bar] := rfl
    have hclose : Utf8.encode "|)" = bar :: Utf8.encode ")" := rfl
    simp only [Utf8.encode_append, hopen, hclose]
    simp
  refine parse_eq_ok.2 ⟨_, hencode ▸ field?_announced hfront hback hfield, ?_⟩
  refine PortNumber.ofBytes?_eq_some.2 ⟨_, rfl, ?_⟩
  rw [PortNumber.toString, String.toList_ofList]
  exact hnames

/-- A text has a port exactly if the octets from the third one after its first bar up to its last
bar are a numeral of that port.  Of every other text the failure carries all but the line ends at
its end.  No octet out of range is looked at for that.  So a port that is announced between the
only bars of a text is found. -/
theorem parse_exact (text : String) :
    parse? text = some (parse text) ∧
    (∀ port, parse text = .ok port ↔ ∃ first last numeral,
      IsFirst bar (Utf8.encode text) first ∧ IsLast bar (Utf8.encode text) last ∧
      first + 3 < last ∧
      slice? (Utf8.encode text) (first + 3) last = some (Utf8.encode numeral) ∧
      PortNumber.Names numeral.toList port) ∧
    ((∀ port, parse text ≠ .ok port) → ∃ line tail, text = line ++ tail ∧
      (∀ c ∈ tail.toList, c = '\r' ∨ c = '\n') ∧
      (∀ c, line.toList.getLast? = some c → c ≠ '\r' ∧ c ≠ '\n') ∧
      parse text = .error (.protocol .invalidDataPort line)) ∧
    ∀ port a b, '|' ∉ a.toList → '|' ∉ b.toList →
      text = a ++ "(|||" ++ PortNumber.toString port ++ "|)" ++ b → parse text = .ok port := by
  refine ⟨parse?_eq text, fun port => ?_, fun h => ?_, fun port a b ha hb htext => ?_⟩
  · rw [parse_eq_ok]
    constructor
    · intro h
      obtain ⟨field, hfield, hport⟩ := h
      obtain ⟨first, last, hfirst, hlast, hlt, hslice⟩ := field?_eq_some.1 hfield
      obtain ⟨numeral, rfl, hnames⟩ := PortNumber.ofBytes?_eq_some.1 hport
      exact ⟨first, last, numeral, hfirst, hlast, hlt, hslice, hnames⟩
    · intro h
      obtain ⟨first, last, numeral, hfirst, hlast, hlt, hslice, hnames⟩ := h
      exact ⟨_, field?_eq_some.2 ⟨first, last, hfirst, hlast, hlt, hslice⟩,
        PortNumber.ofBytes?_eq_some.2 ⟨numeral, rfl, hnames⟩⟩
  · obtain ⟨tail, htext, htail, hline⟩ := Blank.trimLineEnd_spec text
    exact ⟨_, tail, htext, htail, hline, parse_eq_error h⟩
  · rw [htext]
    exact parse_announced port ha hb

/-- The third octet after the first bar is within a character. -/
example : find? "|\u00e9\u00e95|" = none := by
  decide +kernel

end DataPort
end FtpClient
