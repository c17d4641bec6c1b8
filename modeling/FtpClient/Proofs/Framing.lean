import FtpClient.Reply.Reading
import Mathlib.Order.Bounds.Basic

/-
Reading one reply, against the grammar of replies.

A stream is cut at its line feeds into lines and a rest.  A reply is one line that
begins with a code and a space, or the lines from one that begins with a code and
a hyphen up to the first that begins with the same code and a space.  The reader
consumes exactly the lines of the reply at the beginning of the stream, or exactly
one line that begins no reply.

The lines of a stream are a list, so every statement about the reader is proved by
induction on that list and speaks of the list that is left.  How the octets were
split into arrivals, and which of them were buffered, does not enter: a reader is
looked at through `Inbound.unread` only.
-/

namespace FtpClient

/-! ## The lines of a stream -/

/-- The lines of a stream without their line feeds, and the octets after the last
line feed. -/
def splitLines : List UInt8 → List (List UInt8) × List UInt8
  | [] => ([], [])
  | b :: rest =>
      let (lines, tail) := splitLines rest
      if b = lineFeed then ([] :: lines, tail)
      else
        match lines with
        | [] => ([], b :: tail)
        | line :: lines => ((b :: line) :: lines, tail)

def joinLines (lines : List (List UInt8)) : List UInt8 :=
  lines.flatMap (· ++ [lineFeed])

@[simp] theorem joinLines_nil : joinLines [] = [] := rfl

@[simp] theorem joinLines_cons (line : List UInt8) (lines : List (List UInt8)) :
    joinLines (line :: lines) = line ++ lineFeed :: joinLines lines := by
  simp [joinLines]

@[simp] theorem joinLines_append (lines more : List (List UInt8)) :
    joinLines (lines ++ more) = joinLines lines ++ joinLines more := by
  simp [joinLines]

/-- A stream is made of lines and a rest that holds no line feed. -/
structure Cut (bytes : List UInt8) (lines : List (List UInt8)) (tail : List UInt8) :
    Prop where
  eq : bytes = joinLines lines ++ tail
  lineFeed_lines : ∀ line ∈ lines, lineFeed ∉ line
  lineFeed_tail : lineFeed ∉ tail

theorem cut_splitLines (bytes : List UInt8) :
    Cut bytes (splitLines bytes).1 (splitLines bytes).2 := by
  induction bytes with
  | nil => exact ⟨rfl, by simp [splitLines], by simp [splitLines]⟩
  | cons b rest ih =>
      obtain ⟨heq, hlines, htail⟩ := ih
      simp only [splitLines]
      by_cases hb : b = lineFeed
      · subst hb
        simp only [if_true]
        exact ⟨by rw [joinLines_cons]; simpa using heq, by simpa using hlines, htail⟩
      · simp only [hb, if_false]
        have hne : lineFeed ≠ b := fun h => hb h.symm
        cases hl : (splitLines rest).1 with
        | nil =>
            rw [hl] at heq
            exact ⟨by simpa using heq, by simp, by simp [hne, htail]⟩
        | cons line lines =>
            rw [hl] at heq hlines
            refine ⟨by simpa using heq, ?_, htail⟩
            intro l hmem
            rcases List.mem_cons.1 hmem with rfl | hmem
            · simp [hne, hlines line List.mem_cons_self]
            · exact hlines l (List.mem_cons_of_mem _ hmem)

theorem cut_joinLines_append {lines : List (List UInt8)}
    (h : ∀ line ∈ lines, lineFeed ∉ line) (bytes : List UInt8) :
    Cut (joinLines lines ++ bytes) (lines ++ (splitLines bytes).1) (splitLines bytes).2 := by
  have hbytes := cut_splitLines bytes
  refine ⟨?_, ?_, hbytes.lineFeed_tail⟩
  · rw [joinLines_append, List.append_assoc, ← hbytes.eq]
  · intro l hl
    rcases List.mem_append.1 hl with hl | hl
    · exact h l hl
    · exact hbytes.lineFeed_lines l hl

theorem append_lineFeed_inj {a b x y : List UInt8} (ha : lineFeed ∉ a) (hb : lineFeed ∉ b)
    (h : a ++ lineFeed :: x = b ++ lineFeed :: y) : a = b ∧ x = y := by
  induction a generalizing b with
  | nil =>
      cases b with
      | nil => simpa using h
      | cons c b =>
          have hc : lineFeed = c := (List.cons.inj h).1
          exact absurd (List.mem_cons.2 (Or.inl hc)) hb
  | cons c a ih =>
      cases b with
      | nil =>
          have hc : c = lineFeed := (List.cons.inj h).1
          exact absurd (List.mem_cons.2 (Or.inl hc.symm)) ha
      | cons d b =>
          obtain ⟨rfl, hrest⟩ := List.cons.inj h
          obtain ⟨rfl, rfl⟩ := ih (fun hm => ha (List.mem_cons_of_mem _ hm))
            (fun hm => hb (List.mem_cons_of_mem _ hm)) hrest
          exact ⟨rfl, rfl⟩

theorem lineFeed_joinLines {lines : List (List UInt8)} {tail : List UInt8} :
    lineFeed ∈ joinLines lines ++ tail ↔ lines ≠ [] ∨ lineFeed ∈ tail := by
  cases lines <;> simp

theorem count_joinLines {lines : List (List UInt8)} (h : ∀ line ∈ lines, lineFeed ∉ line) :
    (joinLines lines).count lineFeed = lines.length := by
  induction lines with
  | nil => rfl
  | cons line lines ih =>
      have hline : line.count lineFeed = 0 := List.count_eq_zero.2 (h line List.mem_cons_self)
      rw [joinLines_cons, List.count_append, List.count_cons_self, hline,
        ih fun l hl => h l (List.mem_cons_of_mem _ hl), List.length_cons]
      omega

theorem joinLines_append_inj {lines lines' : List (List UInt8)} {tail tail' : List UInt8}
    (hl : ∀ line ∈ lines, lineFeed ∉ line) (hl' : ∀ line ∈ lines', lineFeed ∉ line)
    (ht : lineFeed ∉ tail) (ht' : lineFeed ∉ tail')
    (h : joinLines lines ++ tail = joinLines lines' ++ tail') :
    lines = lines' ∧ tail = tail' := by
  induction lines generalizing lines' with
  | nil =>
      cases lines' with
      | nil => exact ⟨rfl, h⟩
      | cons line' lines' =>
          have htail : tail = joinLines (line' :: lines') ++ tail' := h
          exact absurd (by simp [htail]) ht
  | cons line lines ih =>
      cases lines' with
      | nil =>
          have htail : joinLines (line :: lines) ++ tail = tail' := h
          exact absurd (by simp [← htail]) ht'
      | cons line' lines' =>
          simp only [joinLines_cons, List.append_assoc, List.cons_append] at h
          obtain ⟨rfl, hrest⟩ := append_lineFeed_inj (hl line List.mem_cons_self)
            (hl' line' List.mem_cons_self) h
          obtain ⟨rfl, rfl⟩ := ih (fun l hm => hl l (List.mem_cons_of_mem _ hm))
            (fun l hm => hl' l (List.mem_cons_of_mem _ hm)) hrest
          exact ⟨rfl, rfl⟩

namespace Cut

variable {bytes tail : List UInt8} {line : List UInt8} {lines more : List (List UInt8)}

theorem unique {tail' : List UInt8} {lines' : List (List UInt8)} (h : Cut bytes lines tail)
    (h' : Cut bytes lines' tail') : lines = lines' ∧ tail = tail' :=
  joinLines_append_inj h.lineFeed_lines h'.lineFeed_lines h.lineFeed_tail h'.lineFeed_tail
    (h.eq.symm.trans h'.eq)

theorem eq_splitLines (h : Cut bytes lines tail) : splitLines bytes = (lines, tail) := by
  obtain ⟨rfl, rfl⟩ := h.unique (cut_splitLines bytes)
  rfl

theorem lineFeed_mem (h : Cut bytes lines tail) : lineFeed ∈ bytes ↔ lines ≠ [] := by
  rw [h.eq, lineFeed_joinLines]
  simp [h.lineFeed_tail]

end Cut

/-! ## The grammar -/

/-- A line begins with three digits whose value is the code of a reply, and a mark. -/
def Begins (code : Nat) (mark : Char) (line : String) : Prop :=
  100 ≤ code ∧ code ≤ 599 ∧ ∃ a b c rest, line.toList = a :: b :: c :: mark :: rest ∧
    (∀ d ∈ [a, b, c], '0' ≤ d ∧ d ≤ '9') ∧
    code = (a.toNat - 48) * 100 + (b.toNat - 48) * 10 + (c.toNat - 48)

inductive IsReply : List String → Reply → Prop where
  | single {code : Nat} {line : String} (begins : Begins code ' ' line) :
      IsReply [line] ⟨code, [line]⟩
  | multi {code : Nat} {first last : String} {between : List String}
      (begins : Begins code '-' first) (goesOn : ∀ line ∈ between, ¬Begins code ' ' line)
      (ends : Begins code ' ' last) :
      IsReply (first :: between ++ [last]) ⟨code, first :: between ++ [last]⟩

namespace Head

theorem code?_eq_some {a b c : Char} {code : Nat} : code? a b c = some code ↔
    100 ≤ code ∧ code ≤ 599 ∧ (∀ d ∈ [a, b, c], '0' ≤ d ∧ d ≤ '9') ∧
      code = (a.toNat - 48) * 100 + (b.toNat - 48) * 10 + (c.toNat - 48) := by
  have hvalue : PortNumber.value [a, b, c] =
      (a.toNat - 48) * 100 + (b.toNat - 48) * 10 + (c.toNat - 48) := by
    show (((0 * 10 + (a.toNat - 48)) * 10 + (b.toNat - 48)) * 10 + (c.toNat - 48)) = _
    omega
  have hdigits : [a, b, c].all PortNumber.isDigit = true ↔
      ∀ d ∈ [a, b, c], '0' ≤ d ∧ d ≤ '9' := by
    simp [PortNumber.isDigit]
  simp only [code?, hvalue, hdigits, Option.ite_none_right_eq_some, Option.some.injEq]
  constructor
  · intro h
    obtain ⟨⟨hd, hlow, hhigh⟩, rfl⟩ := h
    exact ⟨hlow, hhigh, hd, rfl⟩
  · intro h
    obtain ⟨hlow, hhigh, hd, rfl⟩ := h
    exact ⟨⟨hd, hlow, hhigh⟩, rfl⟩

def mark (h : Head) : Char :=
  if h.more then '-' else ' '

/-- A line is read as the beginning of a reply exactly if it begins with a code and
one of the two marks. -/
theorem ofLine?_eq_some {line : String} {h : Head} :
    ofLine? line = some h ↔ Begins h.code h.mark line := by
  obtain ⟨code, more⟩ := h
  unfold ofLine? Begins
  generalize line.toList = cs
  match cs with
  | a :: b :: c :: m :: rest =>
      simp only [ofChars?, List.cons.injEq]
      by_cases hs : m = ' '
      · subst hs
        cases more <;> simp [mark, code?_eq_some]
      · by_cases hh : m = '-'
        · subst hh
          cases more <;> simp [mark, code?_eq_some]
        · cases more <;> simp [mark, hs, hh]
  | [] | [_] | [_, _] | [_, _, _] => simp [ofChars?]

end Head

theorem endsReply_iff {code : Nat} {line : String} :
    endsReply code line = true ↔ Begins code ' ' line := by
  simp [endsReply, Head.ofLine?_eq_some, Head.mark]

namespace IsReply

variable {lines : List String} {reply : Reply}

theorem lines_eq (h : IsReply lines reply) : reply.lines = lines := by
  cases h <;> rfl

end IsReply

/-! ## The reader -/

namespace Inbound

variable {s : Inbound} {line : List UInt8} {lines more : List (List UInt8)} {tail : List UInt8}

theorem readLine_of_cut_cons (h : Cut s.unread (line :: lines) tail) :
    s.readLine.outcome = .ok line ∧ Cut s.readLine.rest.unread lines tail := by
  have hline := h.lineFeed_lines line List.mem_cons_self
  cases hout : s.readLine.outcome with
  | error cause =>
      have hmem : lineFeed ∈ s.unread := h.lineFeed_mem.2 (by simp)
      exact absurd hmem (readLine_error hout).1
  | ok line' =>
      have heq : line' ++ lineFeed :: s.readLine.rest.unread =
          line ++ lineFeed :: (joinLines lines ++ tail) := by
        rw [← readLine_ok hout, h.eq]
        simp
      obtain ⟨rfl, hrest⟩ := append_lineFeed_inj (readLine_lineFeed hout) hline heq
      exact ⟨rfl, hrest, fun l hl => h.lineFeed_lines l (List.mem_cons_of_mem _ hl),
        h.lineFeed_tail⟩

theorem readLine_of_cut_nil (h : Cut s.unread [] tail) :
    s.readLine.outcome = .error (shortage s.source.ending) := by
  cases hout : s.readLine.outcome with
  | error cause => rw [(readLine_error hout).2]
  | ok line =>
      have hmem : lineFeed ∈ s.unread := by simp [readLine_ok hout]
      exact absurd rfl (h.lineFeed_mem.1 hmem)

theorem readRest_of_error {code : Nat} {cause : SystemError}
    (h : s.readLine.outcome = .error cause) :
    s.readRest code = ⟨[], .error (receivingFailed cause), s.readLine.rest⟩ := by
  rw [readRest]
  split
  · rename_i cause' hout
    rw [h] at hout
    rw [Except.error.inj hout]
  · rename_i octets hout
    rw [h] at hout
    cases hout

theorem readRest_of_ok {code : Nat} {octets : List UInt8}
    (h : s.readLine.outcome = .ok octets) :
    s.readRest code =
      if endsReply code (lineText octets) then ⟨[lineText octets], .ok (), s.readLine.rest⟩
      else
        let r := s.readLine.rest.readRest code
        { r with lines := lineText octets :: r.lines } := by
  rw [readRest]
  split
  · rename_i cause hout
    rw [h] at hout
    cases hout
  · rename_i octets' hout
    rw [h] at hout
    rw [Except.ok.inj hout]

theorem readRest_open {code : Nat} (h : Cut s.unread lines tail)
    (hopen : ∀ l ∈ lines, ¬Begins code ' ' (lineText l)) :
    (s.readRest code).outcome = .error (receivingFailed (shortage s.source.ending)) := by
  induction lines generalizing s with
  | nil => rw [readRest_of_error (readLine_of_cut_nil h)]
  | cons line lines ih =>
      obtain ⟨hline, hcut⟩ := readLine_of_cut_cons h
      have hends : ¬endsReply code (lineText line) = true :=
        mt endsReply_iff.1 (hopen line List.mem_cons_self)
      have hrest := ih hcut fun l hl => hopen l (List.mem_cons_of_mem _ hl)
      rw [readRest_of_ok hline, if_neg hends]
      show (s.readLine.rest.readRest code).outcome = _
      rw [hrest, readLine_ending]

theorem readRest_closed {code : Nat} {last : List UInt8}
    (h : Cut s.unread (lines ++ last :: more) tail)
    (hopen : ∀ l ∈ lines, ¬Begins code ' ' (lineText l)) (hlast : Begins code ' ' (lineText last)) :
    (s.readRest code).lines = (lines ++ [last]).map lineText ∧
      (s.readRest code).outcome = .ok () ∧ Cut (s.readRest code).rest.unread more tail := by
  induction lines generalizing s with
  | nil =>
      obtain ⟨hline, hcut⟩ := readLine_of_cut_cons h
      rw [readRest_of_ok hline, if_pos (endsReply_iff.2 hlast)]
      exact ⟨by simp, rfl, hcut⟩
  | cons line lines ih =>
      obtain ⟨hline, hcut⟩ := readLine_of_cut_cons h
      have hends : ¬endsReply code (lineText line) = true :=
        mt endsReply_iff.1 (hopen line List.mem_cons_self)
      obtain ⟨hlines, hok, hleft⟩ := ih hcut fun l hl => hopen l (List.mem_cons_of_mem _ hl)
      rw [readRest_of_ok hline, if_neg hends]
      exact ⟨by simp [hlines], hok, hleft⟩

theorem readRest_ending (code : Nat) (s : Inbound) :
    (s.readRest code).rest.source.ending = s.source.ending := by
  fun_induction readRest code s with
  | case1 s cause hline => exact s.readLine_ending
  | case2 s octets hline line hends => exact s.readLine_ending
  | case3 s octets hline line hends rest ih =>
      rw [← s.readLine_ending]
      exact ih

theorem readReply_ending (s : Inbound) :
    s.readReply.rest.source.ending = s.source.ending := by
  unfold readReply
  split
  · exact s.readLine_ending
  · dsimp only
    split
    · exact s.readLine_ending
    · exact s.readLine_ending
    · rw [← s.readLine_ending]
      exact readRest_ending _ _

/-! Every stream falls under exactly one of the next five lemmas: there is no line;
the first line begins no reply, is a whole reply, or begins a reply that is ended
by a later line or is not. -/

theorem readReply_empty (h : Cut s.unread [] tail) :
    s.readReply.outcome = .error (receivingFailed (shortage s.source.ending)) := by
  unfold readReply
  rw [readLine_of_cut_nil h]

theorem readReply_invalid (h : Cut s.unread (line :: lines) tail)
    (hnone : Head.ofLine? (lineText line) = none) :
    s.readReply.outcome = .error (.protocol .invalidReply (lineText line)) ∧
      Cut s.readReply.rest.unread lines tail := by
  obtain ⟨hline, hcut⟩ := readLine_of_cut_cons h
  unfold readReply
  rw [hline]
  simp only [hnone]
  exact ⟨trivial, hcut⟩

theorem readReply_single {code : Nat} (h : Cut s.unread (line :: lines) tail)
    (hhead : Begins code ' ' (lineText line)) :
    s.readReply.outcome = .ok ⟨code, [lineText line]⟩ ∧
      Cut s.readReply.rest.unread lines tail := by
  obtain ⟨hline, hcut⟩ := readLine_of_cut_cons h
  have hof : Head.ofLine? (lineText line) = some ⟨code, false⟩ := Head.ofLine?_eq_some.2 hhead
  unfold readReply
  rw [hline]
  simp only [hof]
  exact ⟨trivial, hcut⟩

theorem readReply_open {code : Nat} (h : Cut s.unread (line :: lines) tail)
    (hhead : Begins code '-' (lineText line))
    (hopen : ∀ l ∈ lines, ¬Begins code ' ' (lineText l)) :
    s.readReply.outcome = .error (receivingFailed (shortage s.source.ending)) := by
  obtain ⟨hline, hcut⟩ := readLine_of_cut_cons h
  have hof : Head.ofLine? (lineText line) = some ⟨code, true⟩ := Head.ofLine?_eq_some.2 hhead
  unfold readReply
  rw [hline]
  simp only [hof]
  rw [readRest_open hcut hopen, readLine_ending]
  rfl

theorem readReply_multi {code : Nat} {last : List UInt8}
    (h : Cut s.unread (line :: lines ++ last :: more) tail)
    (hhead : Begins code '-' (lineText line))
    (hopen : ∀ l ∈ lines, ¬Begins code ' ' (lineText l)) (hlast : Begins code ' ' (lineText last)) :
    s.readReply.outcome = .ok ⟨code, (line :: lines ++ [last]).map lineText⟩ ∧
      Cut s.readReply.rest.unread more tail := by
  obtain ⟨hline, hcut⟩ := readLine_of_cut_cons h
  have hof : Head.ofLine? (lineText line) = some ⟨code, true⟩ := Head.ofLine?_eq_some.2 hhead
  obtain ⟨hlines, hok, hleft⟩ := readRest_closed hcut hopen hlast
  unfold readReply
  rw [hline]
  simp only [hof, hok, hlines]
  exact ⟨rfl, hleft⟩

theorem exists_last (code : Nat) (lines : List (List UInt8)) :
    (∀ l ∈ lines, ¬Begins code ' ' (lineText l)) ∨
      ∃ between last more, lines = between ++ last :: more ∧
        (∀ l ∈ between, ¬Begins code ' ' (lineText l)) ∧ Begins code ' ' (lineText last) := by
  induction lines with
  | nil => exact Or.inl (by simp)
  | cons line lines ih =>
      by_cases hl : Begins code ' ' (lineText line)
      · exact Or.inr ⟨[], line, lines, rfl, by simp, hl⟩
      · rcases ih with hopen | ⟨between, last, more, rfl, hopen, hlast⟩
        · exact Or.inl (List.forall_mem_cons.2 ⟨hl, hopen⟩)
        · exact Or.inr ⟨line :: between, last, more, rfl, List.forall_mem_cons.2 ⟨hl, hopen⟩, hlast⟩

/-- The five forms of a list of lines. -/
theorem framing_cases (lines : List (List UInt8)) :
    lines = [] ∨
    (∃ line more, lines = line :: more ∧ Head.ofLine? (lineText line) = none) ∨
    (∃ code line more, lines = line :: more ∧ Begins code ' ' (lineText line)) ∨
    (∃ code line more, lines = line :: more ∧ Begins code '-' (lineText line) ∧
      ∀ l ∈ more, ¬Begins code ' ' (lineText l)) ∨
    ∃ code line between last more, lines = line :: between ++ last :: more ∧
      Begins code '-' (lineText line) ∧ (∀ l ∈ between, ¬Begins code ' ' (lineText l)) ∧
      Begins code ' ' (lineText last) := by
  cases lines with
  | nil => exact Or.inl rfl
  | cons line lines =>
      refine Or.inr ?_
      cases hh : Head.ofLine? (lineText line) with
      | none => exact Or.inl ⟨line, lines, rfl, hh⟩
      | some head =>
          obtain ⟨code, more⟩ := head
          have hbegins := Head.ofLine?_eq_some.1 hh
          cases more with
          | false => exact Or.inr (Or.inl ⟨code, line, lines, rfl, hbegins⟩)
          | true =>
              refine Or.inr (Or.inr ?_)
              rcases exists_last code lines with hopen | ⟨between, last, more, rfl, hopen, hlast⟩
              · exact Or.inl ⟨code, line, lines, rfl, hbegins, hopen⟩
              · exact Or.inr ⟨code, line, between, last, more, rfl, hbegins, hopen, hlast⟩

/-- The lines of a reply are read as that reply, whatever follows them. -/
theorem readReply_of_isReply {reply : Reply} (h : Cut s.unread (lines ++ more) tail)
    (hreply : IsReply (lines.map lineText) reply) :
    s.readReply.outcome = .ok reply ∧ Cut s.readReply.rest.unread more tail := by
  generalize htexts : lines.map lineText = texts at hreply
  cases hreply with
  | single hhead =>
      obtain ⟨line, rfl, rfl⟩ := List.map_eq_singleton_iff.1 htexts
      exact readReply_single h hhead
  | multi hhead hopen hlast =>
      obtain ⟨l₁, l₂, rfl, h₁, h₂⟩ := List.map_eq_append_iff.1 htexts
      obtain ⟨first, between, rfl, rfl, rfl⟩ := List.map_eq_cons_iff.1 h₁
      obtain ⟨last, rfl, rfl⟩ := List.map_eq_singleton_iff.1 h₂
      have hcut : Cut s.unread (first :: between ++ last :: more) tail := by simpa using h
      have hbetween : ∀ l ∈ between, ¬Begins _ ' ' (lineText l) :=
        fun l hl => hopen _ (List.mem_map_of_mem hl)
      obtain ⟨hok, hleft⟩ := readReply_multi hcut hhead hbetween hlast
      exact ⟨by simpa using hok, hleft⟩

/-- A reply that was read is made of the lines that were consumed. -/
theorem isReply_of_readReply {reply : Reply} (h : Cut s.unread lines tail)
    (hok : s.readReply.outcome = .ok reply) :
    ∃ taken left, lines = taken ++ left ∧ IsReply (taken.map lineText) reply ∧
      Cut s.readReply.rest.unread left tail := by
  rcases framing_cases lines with rfl | ⟨line, more, rfl, hnone⟩ | ⟨code, line, more, rfl, hhead⟩ |
    ⟨code, line, more, rfl, hhead, hopen⟩ |
    ⟨code, line, between, last, more, rfl, hhead, hopen, hlast⟩
  · rw [readReply_empty h] at hok
    cases hok
  · rw [(readReply_invalid h hnone).1] at hok
    cases hok
  · obtain ⟨hout, hleft⟩ := readReply_single h hhead
    rw [hout] at hok
    obtain rfl := Except.ok.inj hok
    exact ⟨[line], more, rfl, .single hhead, hleft⟩
  · rw [readReply_open h hhead hopen] at hok
    cases hok
  · obtain ⟨hout, hleft⟩ := readReply_multi h hhead hopen hlast
    rw [hout] at hok
    obtain rfl := Except.ok.inj hok
    refine ⟨line :: between ++ [last], more, by simp, ?_, hleft⟩
    have hbetween : ∀ t ∈ between.map lineText, ¬Begins code ' ' t := by simpa using hopen
    simpa using IsReply.multi hhead hbetween hlast

/-- What is read depends on the unread octets and their end only, not on how they
were split or which of them were buffered. -/
theorem readReply_outcome_congr {s t : Inbound} (hunread : s.unread = t.unread)
    (hending : s.source.ending = t.source.ending) :
    s.readReply.outcome = t.readReply.outcome := by
  obtain ⟨lines, tail, hs⟩ : ∃ lines tail, Cut s.unread lines tail := ⟨_, _, cut_splitLines _⟩
  have ht : Cut t.unread lines tail := hunread ▸ hs
  rcases framing_cases lines with rfl | ⟨line, more, rfl, hnone⟩ | ⟨code, line, more, rfl, hhead⟩ |
    ⟨code, line, more, rfl, hhead, hopen⟩ |
    ⟨code, line, between, last, more, rfl, hhead, hopen, hlast⟩
  · rw [readReply_empty hs, readReply_empty ht, hending]
  · rw [(readReply_invalid hs hnone).1, (readReply_invalid ht hnone).1]
  · rw [(readReply_single hs hhead).1, (readReply_single ht hhead).1]
  · rw [readReply_open hs hhead hopen, readReply_open ht hhead hopen, hending]
  · rw [(readReply_multi hs hhead hopen hlast).1, (readReply_multi ht hhead hopen hlast).1]

/-- A reading that came to an end within the stream is not changed by what follows. -/
theorem readReply_outcome_append {s t : Inbound} {later : List UInt8}
    (hunread : t.unread = s.unread ++ later)
    (hdone : ∀ cause, s.readReply.outcome ≠ .error (receivingFailed cause)) :
    t.readReply.outcome = s.readReply.outcome := by
  obtain ⟨lines, tail, hs⟩ : ∃ lines tail, Cut s.unread lines tail := ⟨_, _, cut_splitLines _⟩
  have ht : Cut t.unread (lines ++ (splitLines (tail ++ later)).1)
      (splitLines (tail ++ later)).2 := by
    rw [hunread, hs.eq, List.append_assoc]
    exact cut_joinLines_append hs.lineFeed_lines _
  rcases framing_cases lines with rfl | ⟨line, more, rfl, hnone⟩ | ⟨code, line, more, rfl, hhead⟩ |
    ⟨code, line, more, rfl, hhead, hopen⟩ |
    ⟨code, line, between, last, more, rfl, hhead, hopen, hlast⟩
  · exact absurd (readReply_empty hs) (hdone _)
  · rw [(readReply_invalid hs hnone).1, (readReply_invalid ht hnone).1]
  · rw [(readReply_single hs hhead).1, (readReply_single ht hhead).1]
  · exact absurd (readReply_open hs hhead hopen) (hdone _)
  · rw [List.append_assoc] at ht
    rw [(readReply_multi hs hhead hopen hlast).1, (readReply_multi ht hhead hopen hlast).1]

/-- A reading consumes exactly the first `k` lines and leaves the reader `rest`. -/
def Consumes (s : Inbound) (k : Nat) (rest : Inbound) : Prop :=
  k ≤ (splitLines s.unread).1.length ∧
    s.unread = joinLines ((splitLines s.unread).1.take k) ++ rest.unread

theorem consumes_iff {rest : Inbound} {k : Nat} (h : Cut s.unread (lines ++ more) tail)
    (hrest : Cut rest.unread more tail) : s.Consumes k rest ↔ k = lines.length := by
  simp only [Consumes, h.eq_splitLines]
  constructor
  · intro hboth
    obtain ⟨hk, heq⟩ := hboth
    rw [h.eq, hrest.eq, joinLines_append, List.append_assoc, List.append_cancel_right_eq] at heq
    have hcount := congrArg (List.count lineFeed) heq
    have hall := h.lineFeed_lines
    rw [count_joinLines fun l hl => hall l (List.mem_append_left _ hl),
      count_joinLines fun l hl => hall l (List.mem_of_mem_take hl)] at hcount
    rw [List.length_take] at hcount
    omega
  · intro hsame
    obtain rfl := hsame
    refine ⟨by simp, ?_⟩
    rw [List.take_left, hrest.eq, ← List.append_assoc, ← joinLines_append]
    exact h.eq

def lineTexts (bytes : List UInt8) : List String :=
  (splitLines bytes).1.map lineText

/-- The least number of a line after the first that satisfies `p`, where lines are
counted from one. -/
theorem isLeast_line_iff {p : String → Prop} {first : String} {texts : List String} {k : Nat} :
    IsLeast {j | 1 < j ∧ ∃ line, (first :: texts)[j - 1]? = some line ∧ p line} k ↔
      ∃ between last more, texts = between ++ last :: more ∧ k = between.length + 2 ∧
        (∀ line ∈ between, ¬p line) ∧ p last := by
  constructor
  · intro h
    obtain ⟨⟨hk, last, hget, hlast⟩, hleast⟩ := h
    obtain ⟨n, rfl⟩ : ∃ n, k = n + 2 := ⟨k - 2, by omega⟩
    have hn : texts[n]? = some last := by simpa using hget
    obtain ⟨hlt, rfl⟩ := List.getElem?_eq_some_iff.1 hn
    refine ⟨texts.take n, texts[n], texts.drop (n + 1), ?_, ?_, ?_, hlast⟩
    · rw [List.getElem_cons_drop, List.take_append_drop]
    · rw [List.length_take, Nat.min_eq_left (Nat.le_of_lt hlt)]
    · intro line hmem hp
      obtain ⟨i, hi, rfl⟩ := List.mem_iff_getElem.1 hmem
      have hin : i < n := by simp at hi; omega
      have hmem : i + 2 ∈ {j | 1 < j ∧ ∃ line, (first :: texts)[j - 1]? = some line ∧ p line} :=
        ⟨by omega, texts[i], by simp, by simpa using hp⟩
      have hle : n + 2 ≤ i + 2 := hleast hmem
      omega
  · intro h
    obtain ⟨between, last, more, rfl, rfl, hopen, hlast⟩ := h
    refine ⟨⟨by omega, last, by simp, hlast⟩, ?_⟩
    intro j hends
    obtain ⟨hj, line, hget, hp⟩ := hends
    by_contra hlt
    obtain ⟨n, rfl⟩ : ∃ n, j = n + 2 := ⟨j - 2, by omega⟩
    have hn : n < between.length := by omega
    have hline : between[n] = line := by
      simpa [List.getElem?_append_left hn, hn] using hget
    exact hopen line (hline ▸ List.getElem_mem hn) hp

theorem take_eq_of_append {texts taken : List String} {k : Nat} (hk : k ≤ texts.length)
    (h : texts.take k = taken) : k = taken.length ∧ texts = taken ++ texts.drop k := by
  subst h
  exact ⟨by rw [List.length_take, Nat.min_eq_left hk], (List.take_append_drop k texts).symm⟩

/-- The first `k` lines are a reply exactly if the first line begins it and the `k`th
one is the first to end it. -/
theorem isReply_take_iff {texts : List String} {code k : Nat} {text : String} :
    (k ≤ texts.length ∧ ∃ reply, IsReply (texts.take k) reply ∧ reply.code = code ∧
      reply.text = text) ↔
    ∃ first, texts[0]? = some first ∧
      (Begins code ' ' first ∧ k = 1 ∨ Begins code '-' first ∧
        IsLeast {j | 1 < j ∧ ∃ line, texts[j - 1]? = some line ∧ Begins code ' ' line} k) ∧
      text = String.join ((texts.take k).map (· ++ "\r\n")) := by
  constructor
  · intro h
    obtain ⟨hk, reply, hreply, rfl, rfl⟩ := h
    generalize htake : texts.take k = taken at hreply
    obtain ⟨hlen, happ⟩ := take_eq_of_append hk htake
    generalize texts.drop k = rest at happ
    subst happ
    cases hreply with
    | single hhead => exact ⟨_, rfl, Or.inl ⟨hhead, hlen⟩, rfl⟩
    | @multi code first last between hhead hopen hlast =>
        refine ⟨first, rfl, Or.inr ⟨hhead, ?_⟩, rfl⟩
        simp only [List.cons_append, List.append_assoc, List.nil_append]
        exact isLeast_line_iff.2 ⟨between, last, rest, rfl, by simpa using hlen, hopen, hlast⟩
  · intro h
    obtain ⟨first, hfirst, hform, rfl⟩ := h
    obtain ⟨texts, rfl⟩ : ∃ more, texts = first :: more := by
      cases texts with
      | nil => simp at hfirst
      | cons line more => exact ⟨more, by simpa using hfirst⟩
    rcases hform with ⟨hhead, rfl⟩ | ⟨hhead, hleast⟩
    · exact ⟨by simp, _, .single hhead, rfl, rfl⟩
    · obtain ⟨between, last, rest, rfl, rfl, hopen, hlast⟩ := isLeast_line_iff.1 hleast
      have htake : (first :: (between ++ last :: rest)).take (between.length + 2) =
          first :: between ++ [last] := by
        rw [List.take_succ_cons, List.take_append, List.take_of_length_le (by omega)]
        simp
      rw [htake]
      exact ⟨by simp, _, .multi hhead hopen hlast, rfl, rfl⟩

/-- A reply is read exactly if the first lines form it, and these are consumed. -/
theorem readReply_ok_iff (s : Inbound) (reply : Reply) (k : Nat) :
    (s.readReply.outcome = .ok reply ∧ s.Consumes k s.readReply.rest) ↔
      k ≤ (lineTexts s.unread).length ∧ IsReply ((lineTexts s.unread).take k) reply := by
  have hcut := cut_splitLines s.unread
  simp only [lineTexts, List.length_map, ← List.map_take]
  constructor
  · intro h
    obtain ⟨hok, hk⟩ := h
    obtain ⟨taken, left, heq, hreply, hleft⟩ := isReply_of_readReply hcut hok
    rw [heq] at hcut
    obtain rfl := (consumes_iff hcut hleft).1 hk
    rw [heq, List.take_left]
    exact ⟨by simp, hreply⟩
  · intro h
    obtain ⟨hk, hreply⟩ := h
    rw [← List.take_append_drop k (splitLines s.unread).1] at hcut
    obtain ⟨hok, hleft⟩ := readReply_of_isReply hcut hreply
    exact ⟨hok, (consumes_iff hcut hleft).2 (by rw [List.length_take, Nat.min_eq_left hk])⟩

theorem exists_consumes_of_ok {s : Inbound} {reply : Reply}
    (hok : s.readReply.outcome = .ok reply) : ∃ k, s.Consumes k s.readReply.rest := by
  have hcut := cut_splitLines s.unread
  obtain ⟨taken, left, heq, -, hleft⟩ := isReply_of_readReply hcut hok
  rw [heq] at hcut
  exact ⟨taken.length, (consumes_iff hcut hleft).2 rfl⟩

theorem ofLine?_eq_none_iff {line : String} :
    Head.ofLine? line = none ↔ ∀ code, ¬Begins code ' ' line ∧ ¬Begins code '-' line := by
  constructor
  · intro h code
    refine ⟨fun hb => ?_, fun hb => ?_⟩
    · have := Head.ofLine?_eq_some (h := ⟨code, false⟩).2 hb
      rw [h] at this
      cases this
    · have := Head.ofLine?_eq_some (h := ⟨code, true⟩).2 hb
      rw [h] at this
      cases this
  · intro h
    cases hh : Head.ofLine? line with
    | none => rfl
    | some head =>
        have hb := Head.ofLine?_eq_some.1 hh
        unfold Head.mark at hb
        split at hb
        · exact absurd hb (h head.code).2
        · exact absurd hb (h head.code).1

theorem readReply_begun {head : Head} (h : Cut s.unread (line :: lines) tail)
    (hhead : Head.ofLine? (lineText line) = some head) :
    (∃ reply, s.readReply.outcome = .ok reply) ∨
      Begins head.code '-' (lineText line) ∧ (∀ l ∈ lines, ¬Begins head.code ' ' (lineText l)) ∧
        s.readReply.outcome = .error (receivingFailed (shortage s.source.ending)) := by
  obtain ⟨code, more⟩ := head
  have hbegins := Head.ofLine?_eq_some.1 hhead
  cases more with
  | false => exact Or.inl ⟨_, (readReply_single h hbegins).1⟩
  | true =>
      rcases exists_last code lines with hopen | ⟨between, last, more, rfl, hopen, hlast⟩
      · exact Or.inr ⟨hbegins, hopen, readReply_open h hbegins hopen⟩
      · exact Or.inl ⟨_, (readReply_multi h hbegins hopen hlast).1⟩

theorem readReply_error {s : Inbound} {e : Failure} (h : s.readReply.outcome = .error e) :
    (∃ line, e = .protocol .invalidReply line) ∨
      e = receivingFailed (shortage s.source.ending) := by
  have hcut := cut_splitLines s.unread
  cases hl : (splitLines s.unread).1 with
  | nil =>
      rw [hl] at hcut
      rw [readReply_empty hcut] at h
      exact Or.inr (Except.error.inj h).symm
  | cons l more =>
      rw [hl] at hcut
      cases hh : Head.ofLine? (lineText l) with
      | none =>
          rw [(readReply_invalid hcut hh).1] at h
          exact Or.inl ⟨_, (Except.error.inj h).symm⟩
      | some head =>
          rcases readReply_begun hcut hh with ⟨reply, hok⟩ | ⟨-, -, herr⟩
          · rw [hok] at h
            cases h
          · rw [herr] at h
            exact Or.inr (Except.error.inj h).symm

/-- A first line that begins no reply is a failure that carries the line. -/
theorem readReply_invalid_iff (s : Inbound) (line : String) :
    s.readReply.outcome = .error (.protocol .invalidReply line) ↔
      (lineTexts s.unread)[0]? = some line ∧ Head.ofLine? line = none := by
  have hcut := cut_splitLines s.unread
  unfold lineTexts
  cases hl : (splitLines s.unread).1 with
  | nil =>
      rw [hl] at hcut
      rw [readReply_empty hcut]
      simp [receivingFailed]
  | cons l more =>
      rw [hl] at hcut
      simp only [List.map_cons, List.getElem?_cons_zero, Option.some.injEq]
      cases hh : Head.ofLine? (lineText l) with
      | none =>
          rw [(readReply_invalid hcut hh).1, Except.error.injEq, Failure.protocol.injEq]
          constructor
          · intro h
            obtain ⟨-, rfl⟩ := h
            exact ⟨rfl, hh⟩
          · intro h
            obtain ⟨rfl, -⟩ := h
            exact ⟨rfl, rfl⟩
      | some head =>
          constructor
          · intro hout
            rcases readReply_begun hcut hh with ⟨reply, hok⟩ | ⟨-, -, herr⟩
            · rw [hok] at hout
              cases hout
            · rw [herr] at hout
              cases hout
          · intro h
            obtain ⟨rfl, hnone⟩ := h
            rw [hh] at hnone
            cases hnone

theorem consumes_of_invalid {s : Inbound} {line : String}
    (h : s.readReply.outcome = .error (.protocol .invalidReply line)) :
    s.Consumes 1 s.readReply.rest := by
  have hcut := cut_splitLines s.unread
  obtain ⟨hfirst, hnone⟩ := (readReply_invalid_iff s line).1 h
  unfold lineTexts at hfirst
  cases hl : (splitLines s.unread).1 with
  | nil => simp [hl] at hfirst
  | cons l more =>
      rw [hl] at hcut hfirst
      simp only [List.map_cons, List.getElem?_cons_zero, Option.some.injEq] at hfirst
      subst hfirst
      have hcut' : Cut s.unread ([l] ++ more) _ := hcut
      exact (consumes_iff hcut' (readReply_invalid hcut hnone).2).2 rfl

/-- A stream ends too early if it has no line, or if its first line begins a reply of
several lines that no later line ends. -/
theorem readReply_shortage_iff (s : Inbound) :
    s.readReply.outcome = .error (receivingFailed (shortage s.source.ending)) ↔
      lineFeed ∉ s.unread ∨ ∃ code first, (lineTexts s.unread)[0]? = some first ∧
        Begins code '-' first ∧ ∀ line ∈ (lineTexts s.unread).tail, ¬Begins code ' ' line := by
  have hcut := cut_splitLines s.unread
  rw [hcut.lineFeed_mem]
  unfold lineTexts
  cases hl : (splitLines s.unread).1 with
  | nil =>
      rw [hl] at hcut
      simp [readReply_empty hcut]
  | cons l more =>
      rw [hl] at hcut
      simp only [List.map_cons, List.getElem?_cons_zero, Option.some.injEq, List.tail_cons,
        List.forall_mem_map, ne_eq, reduceCtorEq, not_false_eq_true, not_true_eq_false, false_or]
      constructor
      · intro hout
        cases hh : Head.ofLine? (lineText l) with
        | none =>
            rw [(readReply_invalid hcut hh).1] at hout
            cases hout
        | some head =>
            rcases readReply_begun hcut hh with ⟨reply, hok⟩ | ⟨hbegins, hopen, -⟩
            · rw [hok] at hout
              cases hout
            · exact ⟨head.code, _, rfl, hbegins, hopen⟩
      · intro h
        obtain ⟨code, first, rfl, hbegins, hopen⟩ := h
        exact readReply_open hcut hbegins hopen

/-! ## Exactness -/

theorem unread_ofBytes (bytes : List UInt8) :
    (ofSource (Source.ofBytes bytes)).unread = bytes := by
  simp [unread, ofSource, Source.ofBytes, Source.bytes, Arrival.bytes]

theorem parse_eq_readReply {s : Inbound} {text : String} (hunread : Utf8.encode text = s.unread)
    (hending : s.source.ending = .closed) : Reply.parse text = s.readReply.outcome := by
  refine readReply_outcome_congr ?_ (by rw [hending]; rfl)
  rw [← hunread, unread_ofBytes]

theorem parse_append {text : String} (later : String)
    (hdone : ∀ activity cause, Reply.parse text ≠ .error (.connection activity cause)) :
    Reply.parse (text ++ later) = Reply.parse text := by
  have hunread : (ofSource (Source.ofBytes (Utf8.encode (text ++ later)))).unread =
      (ofSource (Source.ofBytes (Utf8.encode text))).unread ++ Utf8.encode later := by
    rw [unread_ofBytes, unread_ofBytes, Utf8.encode_append]
  exact readReply_outcome_append hunread fun cause => hdone _ cause

/-- A reply is read exactly if the lines at the beginning form one, and exactly these
lines are consumed.  A first line that begins no reply is consumed alone.  Otherwise
the stream ends too early.  The reply of a text is that of its octets, whatever
follows it. -/
theorem readReply_exact (buffer : List UInt8) (arrivals : List Arrival) :
    let s : Inbound := ⟨buffer, ⟨arrivals, .closed⟩⟩
    let texts := (splitLines s.unread).1.map fun line =>
      Utf8.decode (line.filter (· != carriageReturn))
    (∀ code text k,
      ((∃ reply, s.readReply.outcome = .ok reply ∧ reply.code = code ∧ reply.text = text) ∧
        s.Consumes k s.readReply.rest) ↔
      ∃ first, texts[0]? = some first ∧
        (Begins code ' ' first ∧ k = 1 ∨ Begins code '-' first ∧
          IsLeast {j | 1 < j ∧ ∃ line, texts[j - 1]? = some line ∧ Begins code ' ' line} k) ∧
        text = String.join ((texts.take k).map (· ++ "\r\n"))) ∧
    (∀ reply, s.readReply.outcome = .ok reply → ∃ k, s.Consumes k s.readReply.rest) ∧
    (∀ line, s.readReply.outcome = .error (.protocol .invalidReply line) ↔
      texts[0]? = some line ∧ ∀ code, ¬Begins code ' ' line ∧ ¬Begins code '-' line) ∧
    (∀ line, s.readReply.outcome = .error (.protocol .invalidReply line) →
      s.Consumes 1 s.readReply.rest) ∧
    (s.readReply.outcome = .error (.connection .receivingReply .endOfReplies) ↔
      lineFeed ∉ s.unread ∨ ∃ code first, texts[0]? = some first ∧ Begins code '-' first ∧
        ∀ line ∈ texts.tail, ¬Begins code ' ' line) ∧
    (∀ text, Utf8.encode text = s.unread → Reply.parse text = s.readReply.outcome) ∧
    ∀ text later, (∀ activity cause, Reply.parse text ≠ .error (.connection activity cause)) →
      Reply.parse (text ++ later) = Reply.parse text := by
  intro s texts
  have htexts : texts = lineTexts s.unread := rfl
  clear_value texts
  subst htexts
  refine ⟨fun code text k => ?_, fun _ => exists_consumes_of_ok, fun line => ?_,
    fun _ => consumes_of_invalid, readReply_shortage_iff s,
    fun text h => parse_eq_readReply h rfl, fun text later => parse_append later⟩
  · rw [← isReply_take_iff]
    constructor
    · intro hboth
      obtain ⟨⟨reply, hok, hcode, htext⟩, hk⟩ := hboth
      obtain ⟨hle, hreply⟩ := (readReply_ok_iff s reply k).1 ⟨hok, hk⟩
      exact ⟨hle, reply, hreply, hcode, htext⟩
    · intro hboth
      obtain ⟨hle, reply, hreply, hcode, htext⟩ := hboth
      obtain ⟨hok, hk⟩ := (readReply_ok_iff s reply k).2 ⟨hle, hreply⟩
      exact ⟨⟨reply, hok, hcode, htext⟩, hk⟩
  · rw [readReply_invalid_iff, ofLine?_eq_none_iff]

end Inbound
end FtpClient
