import FtpClient.Proofs.RequestLines

/-
Addresses as they are typed.

What a colon means depends on what stands before the last one: a host without colons, or one
that closes a bracket, is followed by a port, and any other address is a host as a whole.
`EndsInPort` says which addresses are of the first kind, and `IsLiteral` describes the hosts for
which it matters, those with colons of their own.
-/

namespace FtpClient
namespace Prompt

variable {cs before after host : List Char}

/-! ## The last colon -/

theorem splitLastColon?_append (h : ':' ∉ after) :
    splitLastColon? (before ++ ':' :: after) = some (before, after) := by
  have hreverse : (before ++ ':' :: after).reverse = after.reverse ++ ':' :: before.reverse := by
    simp
  have hplain : ∀ c ∈ after.reverse, (c != ':') = true := by
    intro c hc
    rw [bne_iff_ne]
    rintro rfl
    exact h (List.mem_reverse.1 hc)
  unfold splitLastColon?
  rw [hreverse, List.dropWhile_append_of_pos hplain, List.takeWhile_append_of_pos hplain]
  simp

theorem splitLastColon?_of_notMem (h : ':' ∉ cs) : splitLastColon? cs = none := by
  have hall : cs.reverse.dropWhile (· != ':') = [] := by
    rw [List.dropWhile_eq_nil_iff]
    intro c hc
    rw [bne_iff_ne]
    rintro rfl
    exact h (List.mem_reverse.1 hc)
  unfold splitLastColon?
  rw [hall]

/-- A list that holds a character is split at the last one. -/
theorem exists_last {c : Char} (h : c ∈ cs) :
    ∃ before after, cs = before ++ c :: after ∧ c ∉ after := by
  obtain ⟨front, back, hcs, hfront⟩ := List.eq_append_cons_of_mem (List.mem_reverse.2 h)
  refine ⟨back.reverse, front.reverse, ?_, by simpa using hfront⟩
  rw [← List.reverse_reverse cs, hcs]
  simp

/-! ## Brackets -/

/-- A host in which neither bracket stands. -/
def IsUnbracketed (host : List Char) : Prop :=
  '[' ∉ host ∧ ']' ∉ host

instance (host : List Char) : Decidable (IsUnbracketed host) :=
  inferInstanceAs (Decidable (_ ∧ _))

theorem dropWhile_eq_of_notMem {bracket : Char} (h : bracket ∉ cs) :
    cs.dropWhile (· == bracket) = cs := by
  cases cs with
  | nil => rfl
  | cons c cs =>
      refine List.dropWhile_cons_of_neg fun hc => h ?_
      rw [← eq_of_beq hc]
      exact List.mem_cons_self

theorem dropEnd_eq_of_notMem {bracket : Char} (h : bracket ∉ cs) :
    Blank.dropEnd (· == bracket) cs = cs := by
  unfold Blank.dropEnd
  rw [dropWhile_eq_of_notMem (mt List.mem_reverse.1 h), List.reverse_reverse]

theorem stripBrackets_of_unbracketed (h : IsUnbracketed host) : stripBrackets host = host := by
  unfold stripBrackets
  rw [dropWhile_eq_of_notMem h.1, dropEnd_eq_of_notMem h.2]

theorem stripBrackets_bracketed (h : IsUnbracketed host) :
    stripBrackets ('[' :: host ++ [']']) = host := by
  have hopening : ('[' :: host ++ [']']).dropWhile (· == '[') = host ++ [']'] := by
    refine (List.dropWhile_cons_of_pos rfl).trans (dropWhile_eq_of_notMem ?_)
    simpa using h.1
  have hclosing : Blank.dropEnd (· == ']') (host ++ [']']) = Blank.dropEnd (· == ']') host := by
    simp [Blank.dropEnd]
  unfold stripBrackets
  rw [hopening, hclosing, dropEnd_eq_of_notMem h.2]

/-! ## Hosts and ports -/

/-- An address that ends in a port: the host before its last colon has no colon of its own or
closes a bracket. -/
def EndsInPort (address before after : List Char) : Prop :=
  address = before ++ ':' :: after ∧ ':' ∉ after ∧
    (':' ∉ before ∨ before.getLast? = some ']')

/-- A host with colons of its own and without brackets, as numeric addresses of version 6
have it. -/
def IsLiteral (host : String) : Prop :=
  2 ≤ host.toList.count ':' ∧ IsUnbracketed host.toList

instance (host : String) : Decidable (IsLiteral host) :=
  inferInstanceAs (Decidable (_ ∧ _))

theorem IsLiteral.lastColon {host : String} (h : IsLiteral host) :
    ∃ before after, host.toList = before ++ ':' :: after ∧ ':' ∉ after ∧ ':' ∈ before := by
  have hmem : ':' ∈ host.toList := List.count_pos_iff.1 (Nat.lt_of_lt_of_le Nat.zero_lt_two h.1)
  obtain ⟨before, after, hhost, hafter⟩ := exists_last hmem
  refine ⟨before, after, hhost, hafter, List.count_pos_iff.1 ?_⟩
  have hcount := h.1
  rw [hhost, List.count_append, List.count_cons_self, List.count_eq_zero.2 hafter] at hcount
  omega

namespace Request

variable {address : String}

theorem ofAddress_endsInPort (h : EndsInPort address.toList before after) :
    ofAddress address = (PortNumber.ofChars? after).elim (.error .invalidPort)
      fun port => .ok (connect (String.ofList (stripBrackets before)) port) := by
  obtain ⟨haddress, hafter, hbefore⟩ := h
  have hcond : ¬(before.contains ':' && before.getLast? != some ']') = true := by
    rw [Bool.and_eq_true, List.contains_iff_mem, bne_iff_ne]
    exact fun hboth => hbefore.elim (absurd hboth.1) hboth.2
  unfold ofAddress
  rw [haddress, splitLastColon?_append hafter]
  dsimp only
  rw [if_neg hcond]
  cases PortNumber.ofChars? after <;> rfl

theorem ofAddress_of_names {port : UInt16} (h : EndsInPort address.toList before after)
    (hport : PortNumber.Names after port) :
    ofAddress address = .ok (connect (String.ofList (stripBrackets before)) port) := by
  rw [ofAddress_endsInPort h, PortNumber.ofChars?_eq_some.2 hport]
  rfl

theorem ofAddress_of_not_names (h : EndsInPort address.toList before after)
    (hnone : ∀ port, ¬PortNumber.Names after port) : ofAddress address = .error .invalidPort := by
  have hchars : PortNumber.ofChars? after = none := by
    rw [Option.eq_none_iff_forall_ne_some]
    exact fun port hport => hnone port (PortNumber.ofChars?_eq_some.1 hport)
  rw [ofAddress_endsInPort h, hchars]
  rfl

/-- An address that does not end in a port is a host as a whole. -/
theorem ofAddress_host (h : ∀ before after, ¬EndsInPort address.toList before after) :
    ofAddress address = .ok (connect address defaultPort) := by
  unfold ofAddress
  by_cases hcolon : ':' ∈ address.toList
  · obtain ⟨before, after, haddress, hafter⟩ := exists_last hcolon
    have hcond : (before.contains ':' && before.getLast? != some ']') = true := by
      rw [Bool.and_eq_true, List.contains_iff_mem, bne_iff_ne]
      by_contra hnot
      rw [not_and_or, not_not] at hnot
      exact h before after ⟨haddress, hafter, hnot⟩
    rw [haddress, splitLastColon?_append hafter]
    dsimp only
    rw [if_pos hcond]
  · rw [splitLastColon?_of_notMem hcolon]

theorem endsInPort_decimal (port : UInt16) (hbefore : ':' ∉ before ∨ before.getLast? = some ']') :
    EndsInPort (before ++ ':' :: (PortNumber.toString port).toList) before
      (Nat.toDigits 10 port.toNat) := by
  have hdigits : ':' ∉ Nat.toDigits 10 port.toNat := by
    intro hmem
    have hdigit := Nat.isDigit_of_mem_toDigits (by decide) (by decide) hmem
    exact absurd hdigit (by decide)
  refine ⟨?_, hdigits, hbefore⟩
  unfold PortNumber.toString
  rw [String.toList_ofList]

/-- Behind a host and a colon the decimal form of a port is that port. -/
theorem ofAddress_decimal {port : UInt16}
    (haddress : address.toList = before ++ ':' :: (PortNumber.toString port).toList)
    (hbefore : ':' ∉ before ∨ before.getLast? = some ']') :
    ofAddress address = .ok (connect (String.ofList (stripBrackets before)) port) := by
  have hends := endsInPort_decimal port hbefore
  rw [← haddress] at hends
  exact ofAddress_of_names hends (PortNumber.names_toDigits port)

theorem ofAddress_bracketed {host : String} (h : IsUnbracketed host.toList) (port : UInt16) :
    ofAddress ("[" ++ host ++ "]:" ++ PortNumber.toString port) = .ok (connect host port) := by
  have haddress : ("[" ++ host ++ "]:" ++ PortNumber.toString port).toList =
      ('[' :: host.toList ++ [']']) ++ ':' :: (PortNumber.toString port).toList := by simp
  rw [ofAddress_decimal haddress (Or.inr List.getLast?_concat), stripBrackets_bracketed h,
    String.ofList_toList]

/-- An address with colons before its last one, which closes no bracket, is a host as a whole. -/
theorem ofAddress_colons (haddress : address.toList = before ++ ':' :: after)
    (hafter : ':' ∉ after) (hbefore : ':' ∈ before) (hbracket : before.getLast? ≠ some ']') :
    ofAddress address = .ok (connect address defaultPort) := by
  refine ofAddress_host fun front back hends => ?_
  obtain ⟨heq, hback, hfront⟩ := hends
  have hsame : some (front, back) = some (before, after) := by
    rw [← splitLastColon?_append hback, ← heq, haddress, splitLastColon?_append hafter]
  obtain ⟨rfl, rfl⟩ := Prod.mk.inj (Option.some.inj hsame)
  exact hfront.elim (absurd hbefore) (absurd · hbracket)

theorem ofAddress_literal {host : String} (h : IsLiteral host) :
    ofAddress host = .ok (connect host defaultPort) := by
  obtain ⟨before, after, hhost, hafter, hbefore⟩ := h.lastColon
  refine ofAddress_colons hhost hafter hbefore fun hbracket => h.2.2 ?_
  rw [hhost]
  exact List.mem_append_left _ (List.mem_of_getLast? hbracket)

/-- A literal in brackets is taken for a host with them: only what stands before the last colon
is searched for a closing bracket. -/
theorem ofAddress_closed {host : String} (h : IsLiteral host) :
    ofAddress ("[" ++ host ++ "]") = .ok (connect ("[" ++ host ++ "]") defaultPort) := by
  obtain ⟨before, after, hhost, hafter, hbefore⟩ := h.lastColon
  have haddress : ("[" ++ host ++ "]").toList = ('[' :: before) ++ ':' :: (after ++ [']']) := by
    simp [hhost]
  refine ofAddress_colons haddress (by simpa using hafter)
    (List.mem_cons_of_mem _ hbefore) fun hbracket => h.2.2 ?_
  have hmem : ']' ∈ before := by simpa using List.mem_of_getLast? hbracket
  rw [hhost]
  exact List.mem_append_left _ hmem

/-- Addresses and what they stand for.  A host without colons and brackets stands for itself,
alone and before a port; a host with colons of its own does so alone and, in brackets, before a
port.  In general an address that ends in a port is read exactly if the port is a numeral, and
every other address is a host as a whole. -/
theorem ofAddress_exact :
    (∀ (host : String) (port : UInt16), ':' ∉ host.toList → IsUnbracketed host.toList →
      ofAddress host = .ok (connect host 21) ∧
      ofAddress (host ++ ":" ++ PortNumber.toString port) = .ok (connect host port)) ∧
    (∀ (host : String) (port : UInt16), IsLiteral host →
      ofAddress host = .ok (connect host 21) ∧
      ofAddress ("[" ++ host ++ "]:" ++ PortNumber.toString port) = .ok (connect host port)) ∧
    (∀ (address : String) (before after : List Char), EndsInPort address.toList before after →
      ((∃ r, ofAddress address = .ok r) ↔ ∃ port, PortNumber.Names after port) ∧
      (∀ port, PortNumber.Names after port →
        ofAddress address = .ok (connect (String.ofList (stripBrackets before)) port)) ∧
      ((∀ port, ¬PortNumber.Names after port) → ofAddress address = .error .invalidPort)) ∧
    ∀ address : String, (∀ before after, ¬EndsInPort address.toList before after) →
      ofAddress address = .ok (connect address 21) := by
  refine ⟨?_, ?_, ?_, fun address h => ofAddress_host h⟩
  · intro host port hcolon hplain
    refine ⟨ofAddress_host fun before after hends => hcolon ?_, ?_⟩
    · rw [hends.1]
      simp
    · have haddress : (host ++ ":" ++ PortNumber.toString port).toList =
          host.toList ++ ':' :: (PortNumber.toString port).toList := by simp
      rw [ofAddress_decimal haddress (Or.inl hcolon), stripBrackets_of_unbracketed hplain,
        String.ofList_toList]
  · exact fun host port h => ⟨ofAddress_literal h, ofAddress_bracketed h.2 port⟩
  · intro address before after h
    refine ⟨?_, fun _ => ofAddress_of_names h, ofAddress_of_not_names h⟩
    constructor
    · intro hok
      obtain ⟨r, hr⟩ := hok
      by_contra hnone
      rw [ofAddress_of_not_names h (not_exists.1 hnone)] at hr
      cases hr
    · intro hport
      obtain ⟨port, hport⟩ := hport
      exact ⟨_, ofAddress_of_names h hport⟩

/-- Without brackets the port is taken for a part of the literal. -/
example : ofAddress "::1:2121" = .ok (connect "::1:2121" 21) := by
  cbv

/-! ## Literals in lines -/

theorem isWord_decimal (port : UInt16) : Blank.IsWord (PortNumber.toString port) := by
  unfold PortNumber.toString
  constructor
  · rw [ne_eq, String.ofList_eq_empty_iff]
    exact Nat.toDigits_ne_nil
  · intro c hc
    rw [String.toList_ofList] at hc
    have hdigit := Nat.isDigit_of_mem_toDigits (by decide) (by decide) hc
    rw [Bool.eq_false_iff]
    intro hblank
    simp only [Blank.isAscii, Bool.or_eq_true, decide_eq_true_eq] at hblank
    rcases hblank with (((rfl | rfl) | rfl) | rfl) | rfl <;> exact absurd hdigit (by decide)

theorem parse_open_word {line w : String} (hw : Blank.IsWord w)
    (hline : line.toList = "open".toList ++ ' ' :: w.toList) : parse line = ofAddress w := by
  have hopen : Blank.IsWord "open" := ⟨by decide, by simp [Blank.isAscii]⟩
  have hspaced := (Blank.spaced_word hw).cons_word hopen (show Blank.isAscii ' ' by decide)
  rw [← hline] at hspaced
  exact parse_of_spaced hspaced

theorem parse_open_words {line w v : String} (hw : Blank.IsWord w) (hv : Blank.IsWord v)
    (hline : line.toList = "open".toList ++ ' ' :: (w.toList ++ ' ' :: v.toList)) :
    parse line = ofConnect [w, v] := by
  have hopen : Blank.IsWord "open" := ⟨by decide, by simp [Blank.isAscii]⟩
  have hblank : Blank.isAscii ' ' := by decide
  have hspaced := ((Blank.spaced_word hv).cons_word hw hblank).cons_word hopen hblank
  rw [← hline] at hspaced
  exact parse_of_spaced hspaced

/-- The spellings of a literal that are read alike are those without brackets and the one in
which brackets are followed by a port.  Where the port is a word of its own or left out, brackets
are taken for a part of the host. -/
theorem literal_spellings {host : String} (h : IsLiteral host)
    (hplain : ∀ c ∈ host.toList, Blank.isAscii c = false) (port : UInt16) :
    parse ("open [" ++ host ++ "]:" ++ PortNumber.toString port) = .ok (connect host port) ∧
      parse ("open " ++ host ++ " " ++ PortNumber.toString port) = .ok (connect host port) ∧
      parse ("open " ++ host) = .ok (connect host 21) ∧
      parse ("open [" ++ host ++ "] " ++ PortNumber.toString port) =
        .ok (connect ("[" ++ host ++ "]") port) ∧
      parse ("open [" ++ host ++ "]") = .ok (connect ("[" ++ host ++ "]") 21) := by
  have hhost : Blank.IsWord host := by
    refine ⟨?_, hplain⟩
    rintro rfl
    exact absurd h.1 (by decide)
  have hopened : Blank.IsWord "[" := ⟨by decide, by simp [Blank.isAscii]⟩
  have hclosed : Blank.IsWord ("[" ++ host ++ "]") :=
    (hopened.append hplain).append (by simp [Blank.isAscii])
  have hport := isWord_decimal port
  have hends : Blank.IsWord ("[" ++ host ++ "]:" ++ PortNumber.toString port) :=
    ((hopened.append hplain).append (by simp [Blank.isAscii])).append hport.2
  refine ⟨?_, ?_, ?_, ?_, ?_⟩
  · rw [parse_open_word hends (by simp)]
    exact ofAddress_bracketed h.2 port
  · rw [parse_open_words hhost hport (by simp)]
    exact ofConnect_decimal host port []
  · rw [parse_open_word hhost (by simp)]
    exact ofAddress_literal h
  · rw [parse_open_words hclosed hport (by simp)]
    exact ofConnect_decimal _ port []
  · rw [parse_open_word hclosed (by simp)]
    exact ofAddress_closed h

theorem literal_spellings_loopback : IsLiteral "::1" ∧
    (∀ c ∈ "::1".toList, Blank.isAscii c = false) ∧
    parse "open [::1]:2121" = .ok (connect "::1" 2121) ∧
    parse "open ::1 2121" = .ok (connect "::1" 2121) ∧
    parse "open ::1" = .ok (connect "::1" 21) ∧
    parse "open [::1] 2121" = .ok (connect "[::1]" 2121) ∧
    parse "open [::1]" = .ok (connect "[::1]" 21) := by
  have hliteral : IsLiteral "::1" := by decide +kernel
  have hplain : ∀ c ∈ "::1".toList, Blank.isAscii c = false := by simp [Blank.isAscii]
  have hport : PortNumber.toString 2121 = "2121" := by decide +kernel
  have hread := literal_spellings hliteral hplain 2121
  simp only [hport, String.reduceAppend] at hread
  exact ⟨hliteral, hplain, hread⟩

/-- A literal in brackets is not the same host as one without them. -/
theorem bracketed_literal_differs :
    ¬ ∀ (host : String) (port : UInt16), IsLiteral host →
      (∀ c ∈ host.toList, Blank.isAscii c = false) →
      parse ("open [" ++ host ++ "]:" ++ PortNumber.toString port) = .ok (connect host port) ∧
      parse ("open [" ++ host ++ "] " ++ PortNumber.toString port) = .ok (connect host port) ∧
      parse ("open " ++ host ++ " " ++ PortNumber.toString port) = .ok (connect host port) ∧
      parse ("open [" ++ host ++ "]") = parse ("open " ++ host) ∧
      parse ("open " ++ host) = .ok (connect host 21) := by
  intro h
  have hport : PortNumber.toString 2121 = "2121" := by decide +kernel
  have hread := (h "::1" 2121 (by decide +kernel) (by simp [Blank.isAscii])).2.1
  have hcode : parse "open [::1] 2121" = .ok (connect "[::1]" 2121) := by cbv
  simp only [hport, String.reduceAppend, hcode] at hread
  exact absurd hread (by decide +kernel)

end Request
end Prompt
end FtpClient
