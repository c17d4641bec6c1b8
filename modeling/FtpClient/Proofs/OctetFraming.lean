import FtpClient.Proofs.ReplyTexts

/-
Replies in octets.

The lines of replies are told apart after decoding, by their first characters.  Decoding makes
one replacement character of octets that are no text, so what stands where can shift; but ASCII
text at the beginning of a line is there exactly if its octets are, as an octet with the high bit
never begins an ASCII character.  So a line can as well be looked at before it is decoded, and
counting off the lines of one reply after another gives the same numbers either way.
-/

namespace FtpClient

/-! ## The beginning of decoded text -/

namespace Utf8

variable {c : Char}

theorem some_replacement_ne (hascii : c.toNat < 0x80) : some replacement ≠ some c := by
  intro h
  rw [← Option.some.inj h] at hascii
  exact absurd hascii (by decide)

/-- A character that was begun ends as no ASCII character, whatever follows. -/
theorem head?_decodeFrom_some (hascii : c.toNat < 0x80) (hnul : c ≠ '\x00') {begun : Begun}
    (hwide : begun.IsWide) (bytes : List UInt8) :
    (decodeFrom (some begun) bytes).head? ≠ some c := by
  induction bytes generalizing begun with
  | nil => exact some_replacement_ne hascii
  | cons b rest ih =>
      have hnext := step_isWide (s := some begun) hwide b
      rw [decodeFrom_cons]
      obtain ⟨bits, owed, low, high⟩ := begun
      by_cases hwithin : low ≤ b ∧ b ≤ high
      · cases owed with
        | zero =>
            have hlow : low.toNat ≤ b.toNat := UInt8.le_iff_toNat_le.1 hwithin.1
            have hbits : 0x80 ≤ bits * 64 + (low.toNat - 0x80) := hwide
            intro h
            simp only [step, if_pos hwithin] at h
            have hvalue := toNat_eq_of_ofNat hnul (Option.some.inj h).symm
            omega
        | succ owed =>
            simp only [step, if_pos hwithin] at hnext ⊢
            exact ih hnext
      · simp only [step, if_neg hwithin]
        exact some_replacement_ne hascii

theorem start_ascii {b : UInt8} (h : b < 0x80) : start b = ([Char.ofNat b.toNat], none) := by
  rw [start, if_pos h]

/-- An octet with the high bit begins no ASCII character. -/
theorem head?_decodeFrom_high (hascii : c.toNat < 0x80) (hnul : c ≠ '\x00') {b : UInt8}
    (hb : ¬b < 0x80) (rest : List UInt8) : (decodeFrom none (b :: rest)).head? ≠ some c := by
  have hnext := start_isWide b
  rw [decodeFrom_cons]
  show ((start b).1 ++ decodeFrom (start b).2 rest).head? ≠ some c
  have hout : (start b).1 = [] ∨ (start b).1 = [replacement] := by
    unfold start
    rw [if_neg hb]
    repeat' split
    all_goals simp
  rcases hout with hout | hout
  · obtain ⟨begun, hbegun⟩ := Option.isSome_iff_exists.1
      ((start_ne_nil b).resolve_left (not_not_intro hout))
    rw [hbegun] at hnext ⊢
    rw [hout, List.nil_append]
    exact head?_decodeFrom_some hascii hnul hnext rest
  · rw [hout]
    exact some_replacement_ne hascii

theorem octet_eq_iff (hascii : c.toNat < 0x80) (hnul : c ≠ '\x00') (b : UInt8) :
    UInt8.ofNat c.toNat = b ↔ c = Char.ofNat b.toNat := by
  rw [octet_eq (by omega)]
  constructor
  · intro h
    rw [← h, Char.ofNat_toNat]
  · intro h
    exact toNat_eq_of_ofNat hnul h

/-- ASCII text is at the beginning of decoded text exactly if its octets were. -/
theorem prefix_decodeFrom {front : List Char} (hfront : ∀ c ∈ front, c.toNat < 0x80 ∧ c ≠ '\x00')
    (bytes : List UInt8) :
    front <+: decodeFrom none bytes ↔ (front.map fun c => UInt8.ofNat c.toNat) <+: bytes := by
  induction front generalizing bytes with
  | nil => simp
  | cons c front ih =>
      obtain ⟨⟨hascii, hnul⟩, hrest⟩ := List.forall_mem_cons.1 hfront
      cases bytes with
      | nil => simp [decodeFrom]
      | cons b rest =>
          rw [List.map_cons, List.cons_prefix_cons, octet_eq_iff hascii hnul]
          by_cases hb : b < 0x80
          · have hdecoded : decodeFrom none (b :: rest) =
                Char.ofNat b.toNat :: decodeFrom none rest := by
              rw [decodeFrom_cons]
              show (start b).1 ++ decodeFrom (start b).2 rest = _
              rw [start_ascii hb]
              rfl
            rw [hdecoded, List.cons_prefix_cons, ih hrest]
          · have hhead := head?_decodeFrom_high hascii hnul hb rest
            -- Neither side can hold: the text begins otherwise, and so do the octets.
            constructor
            · rintro ⟨more, hmore⟩
              rw [← hmore] at hhead
              exact absurd rfl hhead
            · intro h
              have hoctet := (octet_eq_iff hascii hnul b).2 h.1
              rw [← hoctet, octet_lt (by omega)] at hb
              exact absurd hascii hb

end Utf8

/-! ## Codes in octets -/

/-- A line without its carriage returns. -/
def bare (octets : List UInt8) : List UInt8 :=
  octets.filter (· != carriageReturn)

theorem bare_eq_self {octets : List UInt8} (h : carriageReturn ∉ octets) : bare octets = octets := by
  apply List.filter_eq_self.2
  intro b hb
  rw [bne_iff_ne]
  rintro rfl
  exact h hb

theorem lineText_eq (octets : List UInt8) : lineText octets = Utf8.decode (bare octets) := rfl

namespace Head

/-- The characters that a line with this head begins with. -/
def chars (h : Head) : List Char :=
  [Char.ofNat (48 + h.code / 100), Char.ofNat (48 + h.code / 10 % 10),
    Char.ofNat (48 + h.code % 10), h.mark]

/-- The octets that a line with this head begins with: three digits and a mark. -/
def octets (h : Head) : List UInt8 :=
  [UInt8.ofNat (48 + h.code / 100), UInt8.ofNat (48 + h.code / 10 % 10),
    UInt8.ofNat (48 + h.code % 10), if h.more then 0x2D else 0x20]

/-- The value of an octet that is a digit. -/
def digit? (b : UInt8) : Option Nat :=
  if 0x30 ≤ b ∧ b ≤ 0x39 then some (b.toNat - 48) else none

/-- The head of a line that is not decoded. -/
def ofOctets? : List UInt8 → Option Head
  | a :: b :: c :: mark :: _ => do
      let code := (← digit? a) * 100 + (← digit? b) * 10 + (← digit? c)
      if 100 ≤ code ∧ code ≤ 599 then
        if mark = 0x20 then some ⟨code, false⟩
        else if mark = 0x2D then some ⟨code, true⟩
        else none
      else none
  | _ => none

theorem toNat_digit {d : Nat} (hd : d < 10) : (Char.ofNat (48 + d)).toNat = 48 + d := by
  have hall : ∀ d < 10, (Char.ofNat (48 + d)).toNat = 48 + d := by decide
  exact hall d hd

theorem eq_digit_iff {c : Char} {d : Nat} (hd : d < 10) :
    c = Char.ofNat (48 + d) ↔ ('0' ≤ c ∧ c ≤ '9') ∧ c.toNat - 48 = d := by
  have hrange : ('0' ≤ c ∧ c ≤ '9') ↔ 48 ≤ c.toNat ∧ c.toNat ≤ 57 := Iff.rfl
  constructor
  · rintro rfl
    rw [hrange, toNat_digit hd]
    omega
  · rw [hrange]
    rintro ⟨hc, hvalue⟩
    rw [← Char.ofNat_toNat c]
    congr 1
    omega

/-- A line begins with a code and a mark exactly if it begins with the four characters. -/
theorem begins_iff {h : Head} (hlow : 100 ≤ h.code) (hhigh : h.code ≤ 599) (line : String) :
    Begins h.code h.mark line ↔ h.chars <+: line.toList := by
  have hdigit (c : Char) : ('0' ≤ c ∧ c ≤ '9') ↔ 48 ≤ c.toNat ∧ c.toNat ≤ 57 := Iff.rfl
  constructor
  · rintro ⟨-, -, a, b, c, rest, hline, hdigits, hcode⟩
    have ha := hdigits a (by simp)
    have hb := hdigits b (by simp)
    have hc := hdigits c (by simp)
    simp only [hdigit] at ha hb hc
    have hfirst : a = Char.ofNat (48 + h.code / 100) :=
      (eq_digit_iff (by omega)).2 ⟨ha, by omega⟩
    have hsecond : b = Char.ofNat (48 + h.code / 10 % 10) :=
      (eq_digit_iff (by omega)).2 ⟨hb, by omega⟩
    have hthird : c = Char.ofNat (48 + h.code % 10) :=
      (eq_digit_iff (by omega)).2 ⟨hc, by omega⟩
    rw [chars, ← hfirst, ← hsecond, ← hthird, hline]
    exact ⟨rest, rfl⟩
  · rintro ⟨rest, hline⟩
    obtain ⟨hfirst, ha⟩ := (eq_digit_iff (d := h.code / 100) (by omega)).1 rfl
    obtain ⟨hsecond, hb⟩ := (eq_digit_iff (d := h.code / 10 % 10) (by omega)).1 rfl
    obtain ⟨hthird, hc⟩ := (eq_digit_iff (d := h.code % 10) (by omega)).1 rfl
    refine ⟨hlow, hhigh, _, _, _, rest, hline.symm, ?_, ?_⟩
    · simp only [List.forall_mem_cons]
      exact ⟨hfirst, hsecond, hthird, nofun⟩
    · rw [ha, hb, hc]
      omega

theorem chars_octets {h : Head} (hhigh : h.code ≤ 599) :
    (h.chars.map fun c => UInt8.ofNat c.toNat) = h.octets := by
  simp only [chars, List.map_cons, List.map_nil]
  rw [toNat_digit (by omega), toNat_digit (by omega), toNat_digit (by omega), octets]
  congr 4
  unfold mark
  cases h.more <;> rfl

theorem chars_ascii {h : Head} (hhigh : h.code ≤ 599) :
    ∀ c ∈ h.chars, c.toNat < 0x80 ∧ c ≠ '\x00' := by
  have hall : ∀ d < 10, (Char.ofNat (48 + d)).toNat < 0x80 ∧ Char.ofNat (48 + d) ≠ '\x00' := by
    decide
  have hmark : h.mark.toNat < 0x80 ∧ h.mark ≠ '\x00' := by
    unfold mark
    cases h.more <;> decide
  simp only [chars, List.forall_mem_cons]
  exact ⟨hall _ (by omega), hall _ (by omega), hall _ (by omega), hmark, nofun⟩

/-- Decoding neither makes nor breaks the beginning of a reply. -/
theorem ofLine?_decode_eq_some {h : Head} {bytes : List UInt8} :
    ofLine? (Utf8.decode bytes) = some h ↔
      100 ≤ h.code ∧ h.code ≤ 599 ∧ h.octets <+: bytes := by
  rw [ofLine?_eq_some]
  constructor
  · intro hbegins
    have hlow := hbegins.1
    have hhigh := hbegins.2.1
    rw [begins_iff hlow hhigh, Utf8.decode, String.toList_ofList,
      Utf8.prefix_decodeFrom (chars_ascii hhigh), chars_octets hhigh] at hbegins
    exact ⟨hlow, hhigh, hbegins⟩
  · rintro ⟨hlow, hhigh, hprefix⟩
    rw [begins_iff hlow hhigh, Utf8.decode, String.toList_ofList,
      Utf8.prefix_decodeFrom (chars_ascii hhigh), chars_octets hhigh]
    exact hprefix

theorem digit?_eq_some {b : UInt8} {d : Nat} :
    digit? b = some d ↔ d < 10 ∧ b = UInt8.ofNat (48 + d) := by
  have hrange : (0x30 ≤ b ∧ b ≤ 0x39) ↔ 48 ≤ b.toNat ∧ b.toNat ≤ 57 := Iff.rfl
  unfold digit?
  rw [Option.ite_none_right_eq_some, hrange, Option.some.injEq]
  constructor
  · rintro ⟨hb, rfl⟩
    refine ⟨by omega, ?_⟩
    rw [eq_comm, Utf8.octet_eq (by omega)]
    omega
  · rintro ⟨hd, rfl⟩
    rw [Utf8.toNat_octet (by omega)]
    omega

theorem ofOctets?_eq_some {h : Head} {bytes : List UInt8} :
    ofOctets? bytes = some h ↔ 100 ≤ h.code ∧ h.code ≤ 599 ∧ h.octets <+: bytes := by
  constructor
  · intro hhead
    match bytes with
    | [] | [_] | [_, _] | [_, _, _] => cases hhead
    | a :: b :: c :: m :: rest =>
        simp only [ofOctets?, Option.bind_eq_bind, Option.bind_eq_some_iff] at hhead
        obtain ⟨x, hx, y, hy, z, hz, hhead⟩ := hhead
        obtain ⟨hx, rfl⟩ := digit?_eq_some.1 hx
        obtain ⟨hy, rfl⟩ := digit?_eq_some.1 hy
        obtain ⟨hz, rfl⟩ := digit?_eq_some.1 hz
        obtain ⟨hrange, hhead⟩ := Option.ite_none_right_eq_some.1 hhead
        have hcode (more : Bool) (hmark : m = if more then 0x2D else 0x20) :
            (⟨x * 100 + y * 10 + z, more⟩ : Head).octets <+:
              UInt8.ofNat (48 + x) :: UInt8.ofNat (48 + y) :: UInt8.ofNat (48 + z) :: m :: rest := by
          have hfirst : (x * 100 + y * 10 + z) / 100 = x := by omega
          have hsecond : (x * 100 + y * 10 + z) / 10 % 10 = y := by omega
          have hthird : (x * 100 + y * 10 + z) % 10 = z := by omega
          rw [octets, hfirst, hsecond, hthird, ← hmark]
          exact ⟨rest, rfl⟩
        by_cases hspace : m = 0x20
        · rw [if_pos hspace] at hhead
          obtain rfl := Option.some.inj hhead
          exact ⟨hrange.1, hrange.2, hcode false hspace⟩
        · rw [if_neg hspace] at hhead
          obtain ⟨hhyphen, hhead⟩ := Option.ite_none_right_eq_some.1 hhead
          obtain rfl := Option.some.inj hhead
          exact ⟨hrange.1, hrange.2, hcode true hhyphen⟩
  · rintro ⟨hlow, hhigh, rest, rfl⟩
    have hdigit {d : Nat} (hd : d < 10) : digit? (UInt8.ofNat (48 + d)) = some d :=
      digit?_eq_some.2 ⟨hd, rfl⟩
    have hvalue : h.code / 100 * 100 + h.code / 10 % 10 * 10 + h.code % 10 = h.code := by omega
    simp only [octets, List.cons_append, List.nil_append, ofOctets?]
    rw [hdigit (by omega), hdigit (by omega), hdigit (by omega)]
    simp only [Option.bind_eq_bind, Option.bind_some]
    rw [hvalue, if_pos ⟨hlow, hhigh⟩]
    obtain ⟨code, more⟩ := h
    cases more <;> rfl

theorem ofLine?_decode (bytes : List UInt8) : ofLine? (Utf8.decode bytes) = ofOctets? bytes := by
  apply Option.ext
  intro h
  rw [ofLine?_decode_eq_some, ofOctets?_eq_some]

/-- The octets of a text show the same. -/
theorem ofOctets?_encode (text : String) : ofOctets? (Utf8.encode text) = ofLine? text := by
  rw [← ofLine?_decode, Utf8.decode_encode]

theorem ofLine?_decode_take {h : Head} (hlow : 100 ≤ h.code) (hhigh : h.code ≤ 599)
    (bytes : List UInt8) :
    ofLine? (Utf8.decode bytes) = some h ↔ bytes.take 4 = h.octets := by
  have hlength : h.octets.length = 4 := rfl
  rw [ofLine?_decode_eq_some, List.prefix_iff_eq_take, hlength, eq_comm (a := h.octets)]
  exact ⟨fun hall => hall.2.2, fun heq => ⟨hlow, hhigh, heq⟩⟩

end Head

theorem endsReply_decode_take {code : Nat} (hlow : 100 ≤ code) (hhigh : code ≤ 599)
    (bytes : List UInt8) :
    endsReply code (Utf8.decode bytes) ↔ bytes.take 4 = (Head.mk code false).octets := by
  rw [endsReply, beq_iff_eq]
  exact Head.ofLine?_decode_take hlow hhigh bytes

/-- Only text is encoded to the octets that it was decoded from. -/
theorem encode_decode_iff {bytes : List UInt8} :
    (∃ text, Utf8.encode text = bytes) ↔ Utf8.encode (Utf8.decode bytes) = bytes := by
  constructor
  · rintro ⟨text, rfl⟩
    rw [Utf8.decode_encode]
  · exact fun h => ⟨_, h⟩

/-! ## Boundaries -/

section

variable {α β : Type} (head? : α → Option Head)

/-- How many lines each item takes, one item after another, where `head?` tells what a line
begins with.  Lines that complete no item are not counted.  The state is the code of the reply
that is open, if one is, and the number of its lines so far. -/
def itemLengths : Option (Nat × Nat) → List α → List Nat
  | _, [] => []
  | none, line :: rest =>
      match head? line with
      | some ⟨code, true⟩ => itemLengths (some (code, 1)) rest
      | _ => 1 :: itemLengths none rest
  | some (code, count), line :: rest =>
      if head? line = some ⟨code, false⟩ then (count + 1) :: itemLengths none rest
      else itemLengths (some (code, count + 1)) rest

/-- Nothing of a line matters but what it begins with. -/
theorem itemLengths_map (f : β → α) (opened : Option (Nat × Nat)) (lines : List β) :
    itemLengths head? opened (lines.map f) = itemLengths (fun line => head? (f line)) opened lines := by
  induction lines generalizing opened with
  | nil => cases opened <;> rfl
  | cons line lines ih =>
      cases opened with
      | none =>
          simp only [List.map_cons, itemLengths, ih]
      | some counted =>
          simp only [List.map_cons, itemLengths, ih]

variable {head?}

theorem itemLengths_open {code : Nat} {between : List α}
    (h : ∀ line ∈ between, head? line ≠ some ⟨code, false⟩) (count : Nat) (more : List α) :
    itemLengths head? (some (code, count)) (between ++ more) =
      itemLengths head? (some (code, count + between.length)) more := by
  induction between generalizing count with
  | nil => rfl
  | cons line between ih =>
      obtain ⟨hline, hbetween⟩ := List.forall_mem_cons.1 h
      rw [List.cons_append, itemLengths, if_neg hline, ih hbetween, List.length_cons]
      congr 3
      omega

end

/-- The items of lines are those of their octets. -/
theorem itemLengths_decoded (lines : List (List UInt8)) :
    itemLengths Head.ofLine? none (lines.map lineText) =
      itemLengths Head.ofOctets? none (lines.map bare) := by
  rw [itemLengths_map, itemLengths_map]
  congr 1
  funext line
  rw [lineText_eq, Head.ofLine?_decode]

theorem ofLine?_of_begins {code : Nat} {line : String} (h : Begins code ' ' line) :
    Head.ofLine? line = some ⟨code, false⟩ :=
  Head.ofLine?_eq_some.2 h

theorem ofLine?_of_begins_more {code : Nat} {line : String} (h : Begins code '-' line) :
    Head.ofLine? line = some ⟨code, true⟩ :=
  Head.ofLine?_eq_some.2 h

theorem itemLengths_of_isItem {texts : List String} {item : Except Failure Reply}
    (h : IsItem texts item) (more : List String) :
    itemLengths Head.ofLine? none (texts ++ more) =
      texts.length :: itemLengths Head.ofLine? none more := by
  cases h with
  | stray hnone =>
      rw [List.singleton_append, itemLengths, hnone]
      rfl
  | reply hreply =>
      cases hreply with
      | single hhead =>
          rw [List.singleton_append, itemLengths, ofLine?_of_begins hhead]
          rfl
      | @multi code first last between hhead hopen hlast =>
          have hbetween : ∀ line ∈ between, Head.ofLine? line ≠ some ⟨code, false⟩ :=
            fun line hline hends => hopen line hline (Head.ofLine?_eq_some.1 hends)
          have hlength : (first :: between ++ [last]).length = 1 + between.length + 1 := by
            simp
            omega
          rw [hlength, List.append_assoc, List.cons_append, itemLengths,
            ofLine?_of_begins_more hhead]
          dsimp only
          rw [itemLengths_open hbetween, List.singleton_append, itemLengths,
            if_pos (ofLine?_of_begins hlast)]

theorem itemLengths_of_isOpen {texts : List String} (h : IsOpen texts) :
    itemLengths Head.ofLine? none texts = [] := by
  cases texts with
  | nil => rfl
  | cons first more =>
      obtain ⟨code, hhead, hmore⟩ := h first more rfl
      have hopen : ∀ line ∈ more, Head.ofLine? line ≠ some ⟨code, false⟩ :=
        fun line hline hends => hmore line hline (Head.ofLine?_eq_some.1 hends)
      have hall := itemLengths_open hopen 1 []
      rw [List.append_nil] at hall
      rw [itemLengths, ofLine?_of_begins_more hhead]
      exact hall

theorem Division.itemLengths {bytes : List UInt8} {runs : List (List (List UInt8))}
    {items : List (Except Failure Reply)} {left : List (List UInt8)} {tail : List UInt8}
    (h : Division bytes runs items left tail) :
    itemLengths Head.ofLine? none (Inbound.lineTexts bytes) = runs.map List.length := by
  obtain ⟨hcut, hitems, hleft⟩ := h
  unfold Inbound.lineTexts
  rw [hcut.eq_splitLines]
  dsimp only
  -- Runs are taken off the front, whatever the octets were cut from.
  clear hcut
  induction hitems with
  | nil => exact itemLengths_of_isOpen hleft
  | cons hitem _ ih =>
      rw [List.flatten_cons, List.append_assoc, List.map_append, itemLengths_of_isItem hitem, ih,
        List.length_map, List.map_cons]

namespace Inbound

variable {s : Inbound} {runs : List (List (List UInt8))} {items : List (Except Failure Reply)}
  {left : List (List UInt8)} {tail : List UInt8}

/-- Each reading takes the lines of one run. -/
theorem consumes_of_division (h : Division s.unread runs items left tail) {i : Nat}
    (hi : i < runs.length) : (s.after i).Consumes runs[i].length (s.after (i + 1)) := by
  have hcut := cut_after h (Nat.le_of_lt hi)
  rw [List.drop_eq_getElem_cons hi, List.flatten_cons, List.append_assoc] at hcut
  exact (consumes_iff hcut (cut_after h hi)).2 rfl

theorem after_ending (s : Inbound) (i : Nat) :
    (s.after i).source.ending = s.source.ending := by
  induction i with
  | zero => rfl
  | succ i ih => rw [after_succ, readReply_ending, ih]

/-- Replies can be told apart before their lines are decoded.  A line begins a reply with a code
and a mark, or ends a reply with a code, exactly if its first four octets are the digits of the
code and the mark; a line that is text in UTF-8 is kept as it is.  For every stream, counting off
the items by the octets of its lines gives the numbers of lines that counting them off by their
texts gives, and these are the numbers that one reading after another takes, up to the end of
the stream. -/
theorem framing_octets :
    (∀ (l : List UInt8) (h : Head), carriageReturn ∉ l → 100 ≤ h.code → h.code ≤ 599 →
      (Head.ofLine? (lineText l) = some h ↔ l.take 4 = h.octets) ∧
        (endsReply h.code (lineText l) ↔ l.take 4 = (Head.mk h.code false).octets)) ∧
    (∀ l : List UInt8, carriageReturn ∉ l → Head.ofLine? (lineText l) = Head.ofOctets? l ∧
      Head.ofOctets? (Utf8.encode (lineText l)) = Head.ofOctets? l) ∧
    (∀ l : List UInt8, carriageReturn ∉ l →
      ((∃ text, Utf8.encode text = l) ↔ Utf8.encode (lineText l) = l)) ∧
    ∀ s : Inbound,
      let lengths := itemLengths Head.ofOctets? none ((splitLines s.unread).1.map bare)
      itemLengths Head.ofLine? none (lineTexts s.unread) = lengths ∧
        (∀ i n, lengths[i]? = some n → (s.after i).Consumes n (s.after (i + 1)) ∧
          ∀ cause, (s.after i).readReply.outcome ≠ .error (receivingFailed cause)) ∧
        (s.after lengths.length).readReply.outcome =
          .error (receivingFailed (shortage s.source.ending)) := by
  refine ⟨?_, ?_, ?_, ?_⟩
  · intro l h hl hlow hhigh
    rw [lineText_eq, bare_eq_self hl]
    exact ⟨Head.ofLine?_decode_take hlow hhigh l, endsReply_decode_take hlow hhigh l⟩
  · intro l hl
    rw [Head.ofOctets?_encode, lineText_eq, bare_eq_self hl, Head.ofLine?_decode]
    exact ⟨rfl, rfl⟩
  · intro l hl
    rw [lineText_eq, bare_eq_self hl]
    exact encode_decode_iff
  · intro s lengths
    obtain ⟨runs, items, left, tail, h⟩ := exists_division s.unread
    have hsame : itemLengths Head.ofLine? none (lineTexts s.unread) = lengths :=
      itemLengths_decoded (splitLines s.unread).1
    have hruns : lengths = runs.map List.length := hsame.symm.trans h.itemLengths
    refine ⟨hsame, ?_, ?_⟩
    · intro i n hn
      rw [hruns, List.getElem?_map, Option.map_eq_some_iff] at hn
      obtain ⟨run, hrun, rfl⟩ := hn
      obtain ⟨hi, rfl⟩ := List.getElem?_eq_some_iff.1 hrun
      refine ⟨consumes_of_division h hi, fun cause hfailed => ?_⟩
      have hitem : i < items.length := h.length_eq ▸ hi
      obtain ⟨run, hisItem, hout, -⟩ := reading_of_division h (List.getElem?_eq_getElem hitem)
      exact hisItem.ne_connection _ _ (hout.symm.trans hfailed)
    · have hend := cut_after h (Nat.le_refl runs.length)
      rw [List.drop_length, List.flatten_nil, List.nil_append] at hend
      rw [hruns, List.length_map, readReply_of_isOpen hend h.left, after_ending]

example : Head.ofLine? (lineText [0x32, 0x32, 0xE2, 0x30, 0x20]) = none ∧
    Head.ofLine? (lineText [0x32, 0x32, 0x30, 0x20, 0xE2]) = some ⟨220, false⟩ := by
  decide +kernel

end Inbound

end FtpClient
