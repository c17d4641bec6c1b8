import FtpClient.Proofs.PortNumbers
import FtpClient.Prompt.Request
import Mathlib

/-
What a typed line asks for.

A line is words with blanks around them, and its words are all that is read of it: `Spaced`
says which lines have which words, and every line has exactly one list of them.  A request is
written as one of its keywords, in any mix of cases, and the words that it takes.  `Faulty`
lists what can be wrong with the words of a line, and nothing else is refused.
-/

namespace FtpClient

/-! ## Words -/

namespace Blank

/-- At least one character, and no blank among them. -/
def IsWord (w : String) : Prop :=
  w ≠ "" ∧ ∀ c ∈ w.toList, isAscii c = false

/-- Characters that are words, in order, with runs of blanks before, between and after
them. -/
inductive Spaced : List String → List Char → Prop where
  | blanks {gap : List Char} : (∀ c ∈ gap, isAscii c) → Spaced [] gap
  | last {gap : List Char} {w : String} : (∀ c ∈ gap, isAscii c) → IsWord w →
      Spaced [w] (gap ++ w.toList)
  | more {gap cs : List Char} {w : String} {c : Char} {ws : List String} :
      (∀ c ∈ gap, isAscii c) → IsWord w → isAscii c → Spaced ws cs →
      Spaced (w :: ws) (gap ++ w.toList ++ c :: cs)

variable {cs gap : List Char} {ws : List String} {w : String}

theorem wordsFrom_gap (h : ∀ c ∈ gap, isAscii c) (cs : List Char) :
    wordsFrom [] (gap ++ cs) = wordsFrom [] cs := by
  induction gap with
  | nil => rfl
  | cons c gap ih =>
      rw [List.cons_append, wordsFrom, if_pos (h c List.mem_cons_self), if_pos rfl]
      exact ih fun c hc => h c (List.mem_cons_of_mem _ hc)

theorem wordsFrom_plain {begun cs : List Char} (h : ∀ c ∈ begun, isAscii c = false)
    (word : List Char) : wordsFrom word (begun ++ cs) = wordsFrom (begun.reverse ++ word) cs := by
  induction begun generalizing word with
  | nil => rfl
  | cons c begun ih =>
      have hc : ¬isAscii c = true := Bool.eq_false_iff.1 (h c List.mem_cons_self)
      rw [List.cons_append, wordsFrom, if_neg hc, ih fun c hc => h c (List.mem_cons_of_mem _ hc),
        List.reverse_cons, List.append_assoc]
      rfl

theorem IsWord.append {v : String} (h : IsWord w) (hv : ∀ c ∈ v.toList, isAscii c = false) :
    IsWord (w ++ v) := by
  refine ⟨fun hempty => h.1 (String.append_eq_empty_iff.1 hempty).1, fun c hc => ?_⟩
  rw [String.toList_append] at hc
  exact (List.mem_append.1 hc).elim (h.2 c) (hv c)

theorem IsWord.reverse_ne_nil (h : IsWord w) : w.toList.reverse ≠ [] := by
  intro hnil
  exact h.1 (String.toList_eq_nil_iff.1 (List.reverse_eq_nil_iff.1 hnil))

theorem wordsFrom_word (h : IsWord w) (cs : List Char) :
    wordsFrom [] (w.toList ++ cs) = wordsFrom w.toList.reverse cs := by
  rw [wordsFrom_plain h.2, List.append_nil]

/-- The words are those that the characters are made of. -/
theorem Spaced.words_eq (h : Spaced ws cs) : wordsFrom [] cs = ws := by
  induction h with
  | @blanks gap hgap =>
      rw [← List.append_nil gap, wordsFrom_gap hgap]
      rfl
  | @last gap w hgap hw =>
      rw [wordsFrom_gap hgap, ← List.append_nil w.toList, wordsFrom_word hw, wordsFrom,
        if_neg hw.reverse_ne_nil, List.reverse_reverse, String.ofList_toList]
  | @more gap cs w c ws hgap hw hc _ ih =>
      rw [List.append_assoc, wordsFrom_gap hgap, wordsFrom_word hw, wordsFrom, if_pos hc,
        if_neg hw.reverse_ne_nil, List.reverse_reverse, String.ofList_toList, ih]

theorem Spaced.cons_blank {c : Char} (hc : isAscii c) (h : Spaced ws cs) :
    Spaced ws (c :: cs) := by
  have hcons {gap : List Char} (hgap : ∀ c ∈ gap, isAscii c) : ∀ b ∈ c :: gap, isAscii b :=
    List.forall_mem_cons.2 ⟨hc, hgap⟩
  cases h with
  | blanks hgap => exact .blanks (hcons hgap)
  | last hgap hw => exact .last (hcons hgap) hw
  | more hgap hw hb h => exact .more (hcons hgap) hw hb h

theorem spaced_word (hw : IsWord w) : Spaced [w] w.toList :=
  @Spaced.last [] w (by simp) hw

theorem Spaced.cons_word {c : Char} (hw : IsWord w) (hc : isAscii c) (h : Spaced ws cs) :
    Spaced (w :: ws) (w.toList ++ c :: cs) :=
  @Spaced.more [] cs w c ws (by simp) hw hc h

/-- Reading on from a word that was begun finds the words of the whole. -/
theorem spaced_wordsFrom {word : List Char} (h : ∀ c ∈ word, isAscii c = false)
    (cs : List Char) : Spaced (wordsFrom word cs) (word.reverse ++ cs) := by
  have hword {word : List Char} (h : ∀ c ∈ word, isAscii c = false) (hne : word ≠ []) :
      IsWord (String.ofList word.reverse) := by
    refine ⟨fun hempty => hne ?_, fun c hc => h c ?_⟩
    · simpa using congrArg String.toList hempty
    · simpa using hc
  induction cs generalizing word with
  | nil =>
      rw [wordsFrom, List.append_nil]
      by_cases hne : word = []
      · rw [if_pos hne, hne]
        exact .blanks (by simp)
      · rw [if_neg hne]
        simpa using spaced_word (hword h hne)
  | cons c cs ih =>
      rw [wordsFrom]
      by_cases hc : isAscii c
      · have hrest : Spaced (wordsFrom [] cs) cs := ih (by simp)
        rw [if_pos hc]
        by_cases hne : word = []
        · rw [if_pos hne, hne]
          exact hrest.cons_blank hc
        · rw [if_neg hne]
          simpa using hrest.cons_word (hword h hne) hc
      · rw [if_neg hc]
        have hmore := ih (List.forall_mem_cons.2 ⟨Bool.eq_false_iff.2 hc, h⟩)
        rwa [List.reverse_cons, List.append_assoc] at hmore

/-- Every line has its words, and no others. -/
theorem spaced_iff {line : String} : Spaced ws line.toList ↔ ws = words line := by
  constructor
  · intro h
    exact h.words_eq.symm
  · rintro rfl
    exact spaced_wordsFrom (by simp) line.toList

end Blank

namespace Prompt

/-! ## Keywords -/

/-- A keyword in any mix of upper and lower case.  Only ASCII letters have two cases. -/
def IsCased (typed keyword : String) : Prop :=
  List.Forall₂ (fun c letter => c = letter ∨ c = letter.toUpper) typed.toList keyword.toList

namespace Request

/-- All keywords of all requests. -/
def allKeywords : List String :=
  ["binary", "cd", "close", "exit", "quit", "get", "help", "ls", "mkdir", "noop", "open", "put",
    "pwd", "rm", "rmdir", "size", "stat", "syst", "user"]

/-- The words that ask for a request, of which one is typed. -/
def keywords : Request → List String
  | binary => ["binary"]
  | cd _ => ["cd"]
  | close => ["close"]
  | exit => ["exit", "quit"]
  | get _ _ => ["get"]
  | help => ["help"]
  | ls _ => ["ls"]
  | mkdir _ => ["mkdir"]
  | noop => ["noop"]
  | connect _ _ => ["open"]
  | put _ _ => ["put"]
  | pwd => ["pwd"]
  | rm _ => ["rm"]
  | rmdir _ => ["rmdir"]
  | size _ => ["size"]
  | stat _ => ["stat"]
  | syst => ["syst"]
  | user _ => ["user"]

/-- The words that are typed behind the keyword.  Nothing that may be left out is, unless the
request is one without it. -/
def operands : Request → List String
  | cd w | mkdir w | rm w | rmdir w | size w => [w]
  | ls w | stat w | user w => w.toList
  | get remote file => [remote, file]
  | put file remote => [file, remote]
  | connect host port => [host, PortNumber.toString port]
  | binary | close | exit | help | noop | pwd | syst => []

/-- No word is left out, so whatever is typed behind the operands is passed over. -/
def isFull : Request → Bool
  | ls w | stat w | user w => w.isSome
  | _ => true

/-- The keywords that ask for a word, and the name of the first one. -/
def required : List (String × Field) :=
  [("cd", .dir), ("get", .remote), ("mkdir", .dir), ("open", .host), ("put", .localPath),
    ("rm", .file), ("rmdir", .dir), ("size", .file)]

/-- What is wrong with the words of a line. -/
inductive Faulty : List String → ParseError → Prop where
  | empty : Faulty [] .unknownCommand
  | unknown {typed : String} {args : List String} :
      (∀ keyword ∈ allKeywords, ¬IsCased typed keyword) → Faulty (typed :: args) .unknownCommand
  | missing {typed keyword : String} {field : Field} : IsCased typed keyword →
      (keyword, field) ∈ required → Faulty [typed] (.missing field)
  /-- No name is given for the remote file, and the local path has none. -/
  | unnamed {typed file : String} : IsCased typed "put" → Path.fileName? file = none →
      Faulty [typed, file] (.missing .remote)
  | port {typed host numeral : String} {more : List String} : IsCased typed "open" →
      (∀ port, ¬PortNumber.Names numeral.toList port) →
      Faulty (typed :: host :: numeral :: more) .invalidPort
  | address {typed address : String} {e : ParseError} : IsCased typed "open" →
      ofAddress address = .error e → Faulty [typed, address] e

theorem toLower_eq_iff {c letter : Char} (h : letter.toLower = letter) :
    c.toLower = letter ↔ c = letter ∨ c = letter.toUpper := by
  constructor
  · rintro rfl
    by_cases hc : c.isUpper
    · rw [Char.toUpper_toLower_eq_toUpper, Char.toUpper_eq_of_not_isLower]
      · exact Or.inr rfl
      · exact Char.not_isLower_of_isUpper hc
    · exact Or.inl (Char.toLower_eq_of_not_isUpper hc).symm
  · rintro (rfl | rfl)
    · exact h
    · rw [Char.toLower_toUpper_eq_toLower, h]

/-- A word is the keyword that it is in lower case, and no other. -/
theorem isCased_iff {typed keyword : String} (h : ∀ c ∈ keyword.toList, c.toLower = c) :
    IsCased typed keyword ↔ String.ofList (typed.toList.map Char.toLower) = keyword := by
  have hlists (cs letters : List Char) (h : ∀ c ∈ letters, c.toLower = c) :
      List.Forall₂ (fun c letter => c = letter ∨ c = letter.toUpper) cs letters ↔
        cs.map Char.toLower = letters := by
    induction letters generalizing cs with
    | nil => simp
    | cons letter letters ih =>
        obtain ⟨hletter, hletters⟩ := List.forall_mem_cons.1 h
        cases cs with
        | nil => simp
        | cons c cs =>
            rw [List.forall₂_cons, List.map_cons, List.cons.injEq, ih cs hletters,
              toLower_eq_iff hletter]
  unfold IsCased
  rw [hlists _ _ h, ← String.toList_inj, String.toList_ofList]

theorem toLower_of_mem_allKeywords {keyword : String} (h : keyword ∈ allKeywords) :
    ∀ c ∈ keyword.toList, c.toLower = c := by
  have hall : ∀ keyword ∈ allKeywords, ∀ c ∈ keyword.toList, c.toLower = c := by
    simp [allKeywords]
  exact hall keyword h

theorem keywords_subset (r : Request) : r.keywords ⊆ allKeywords := by
  cases r <;> simp [keywords, allKeywords]

theorem parse_of_spaced {line typed : String} {args : List String}
    (h : Blank.Spaced (typed :: args) line.toList) :
    parse line = ofWords (String.ofList (typed.toList.map Char.toLower)) args := by
  unfold parse
  rw [← Blank.spaced_iff.1 h]

/-! ## Requests that are read -/

/-- A word that may be left out is found, if it is there; if not, nothing follows. -/
theorem head?_operand {w : Option String} {more : List String} (h : w.isSome ∨ more = []) :
    (w.toList ++ more).head? = w := by
  cases w with
  | some w => rfl
  | none =>
      rcases h with hsome | rfl
      · cases hsome
      · rfl

theorem ofConnect_decimal (host : String) (port : UInt16) (more : List String) :
    ofConnect (host :: PortNumber.toString port :: more) = .ok (connect host port) := by
  have hport : PortNumber.ofString? (PortNumber.toString port) = some port := by
    unfold PortNumber.ofString? PortNumber.toString
    rw [String.toList_ofList]
    exact PortNumber.ofChars?_eq_some.2 (PortNumber.names_toDigits port)
  unfold ofConnect
  dsimp only
  rw [hport]

theorem ofWords_operands {r : Request} {keyword : String} {more : List String}
    (hkeyword : keyword ∈ r.keywords) (hmore : r.isFull ∨ more = []) :
    ofWords keyword (r.operands ++ more) = .ok r := by
  cases r with
  | exit =>
      rcases List.mem_cons.1 hkeyword with rfl | hquit
      · rfl
      · obtain rfl := List.mem_singleton.1 hquit
        rfl
  | ls w =>
      obtain rfl := List.mem_singleton.1 hkeyword
      exact congrArg (fun w => Except.ok (ls w)) (head?_operand hmore)
  | stat w =>
      obtain rfl := List.mem_singleton.1 hkeyword
      exact congrArg (fun w => Except.ok (stat w)) (head?_operand hmore)
  | user w =>
      obtain rfl := List.mem_singleton.1 hkeyword
      exact congrArg (fun w => Except.ok (user w)) (head?_operand hmore)
  | connect host port =>
      obtain rfl := List.mem_singleton.1 hkeyword
      exact ofConnect_decimal host port more
  | _ =>
      obtain rfl := List.mem_singleton.1 hkeyword
      rfl

/-! ## Lines that are refused -/

variable {args : List String} {e : ParseError}

theorem withWord_eq_error {field : Field} {request : String → Request} :
    withWord field request args = .error e ↔ args = [] ∧ .missing field = e := by
  cases args <;> simp [withWord]

theorem ofGet_eq_error : ofGet args = .error e ↔ args = [] ∧ .missing .remote = e := by
  match args with
  | [] | [_] | _ :: _ :: _ => simp [ofGet]

theorem ofPut_eq_error : ofPut args = .error e ↔
    (args = [] ∧ .missing .localPath = e) ∨
      ∃ file, args = [file] ∧ Path.fileName? file = none ∧ .missing .remote = e := by
  match args with
  | [] | _ :: _ :: _ => simp [ofPut]
  | [file] =>
      unfold ofPut
      dsimp only
      cases hname : Path.fileName? file <;> simp [hname]

theorem ofConnect_eq_error : ofConnect args = .error e ↔
    (args = [] ∧ .missing .host = e) ∨
      (∃ host numeral more, args = host :: numeral :: more ∧
        (∀ port, ¬PortNumber.Names numeral.toList port) ∧ .invalidPort = e) ∨
      ∃ address, args = [address] ∧ ofAddress address = .error e := by
  match args with
  | [] | [_] => simp [ofConnect]
  | host :: numeral :: more =>
      have hnone : PortNumber.ofString? numeral = none ↔
          ∀ port, ¬PortNumber.Names numeral.toList port := by
        simp only [Option.eq_none_iff_forall_ne_some, ne_eq, PortNumber.ofString?,
          PortNumber.ofChars?_eq_some]
      unfold ofConnect
      dsimp only
      cases hport : PortNumber.ofString? numeral <;> simp [← hnone, hport]

theorem ofWords_eq_error {keyword : String} : ofWords keyword args = .error e ↔
    (keyword ∉ allKeywords ∧ .unknownCommand = e) ∨
      (args = [] ∧ ∃ field, (keyword, field) ∈ required ∧ .missing field = e) ∨
      (keyword = "put" ∧ ∃ file, args = [file] ∧ Path.fileName? file = none ∧
        .missing .remote = e) ∨
      (keyword = "open" ∧ ((∃ host numeral more, args = host :: numeral :: more ∧
        (∀ port, ¬PortNumber.Names numeral.toList port) ∧ .invalidPort = e) ∨
        ∃ address, args = [address] ∧ ofAddress address = .error e)) := by
  unfold ofWords
  split
  case h_20 => simp_all [allKeywords, required]
  all_goals simp [allKeywords, required, withWord_eq_error, ofGet_eq_error, ofPut_eq_error,
    ofConnect_eq_error]

theorem required_subset {keyword : String} {field : Field} (h : (keyword, field) ∈ required) :
    keyword ∈ allKeywords := by
  have hall : ∀ k ∈ required.map Prod.fst, k ∈ allKeywords := by decide
  exact hall keyword (List.mem_map_of_mem h)

theorem ofWords_eq_error_iff_faulty {typed : String} :
    ofWords (String.ofList (typed.toList.map Char.toLower)) args = .error e ↔
      Faulty (typed :: args) e := by
  have hcased {keyword : String} (h : keyword ∈ allKeywords) :
      IsCased typed keyword ↔ String.ofList (typed.toList.map Char.toLower) = keyword :=
    isCased_iff (toLower_of_mem_allKeywords h)
  have hopen : "open" ∈ allKeywords := by decide
  have hput : "put" ∈ allKeywords := by decide
  rw [ofWords_eq_error]
  generalize String.ofList (typed.toList.map Char.toLower) = lower at hcased
  constructor
  · rintro (⟨hnone, rfl⟩ | ⟨rfl, field, hfield, rfl⟩ | ⟨hlower, file, rfl, hname, rfl⟩ |
      ⟨hlower, ⟨host, numeral, more, rfl, hnumeral, rfl⟩ | ⟨address, rfl, haddress⟩⟩)
    · exact .unknown fun keyword hkeyword h => hnone ((hcased hkeyword).1 h ▸ hkeyword)
    · exact .missing ((hcased (required_subset hfield)).2 rfl) hfield
    · exact .unnamed ((hcased hput).2 hlower) hname
    · exact .port ((hcased hopen).2 hlower) hnumeral
    · exact .address ((hcased hopen).2 hlower) haddress
  · intro h
    cases h with
    | unknown hnone => exact Or.inl ⟨fun h => hnone lower h ((hcased h).2 rfl), rfl⟩
    | missing htyped hfield =>
        obtain rfl := (hcased (required_subset hfield)).1 htyped
        exact Or.inr (Or.inl ⟨rfl, _, hfield, rfl⟩)
    | unnamed htyped hname =>
        exact Or.inr (Or.inr (Or.inl ⟨(hcased hput).1 htyped, _, rfl, hname, rfl⟩))
    | port htyped hnumeral =>
        exact Or.inr (Or.inr (Or.inr ⟨(hcased hopen).1 htyped, Or.inl ⟨_, _, _, rfl, hnumeral, rfl⟩⟩))
    | address htyped haddress =>
        exact Or.inr (Or.inr (Or.inr ⟨(hcased hopen).1 htyped, Or.inr ⟨_, rfl, haddress⟩⟩))

theorem parse_eq_error {line : String} {ws : List String} (h : Blank.Spaced ws line.toList) :
    parse line = .error e ↔ Faulty ws e := by
  cases ws with
  | nil =>
      unfold parse
      rw [← Blank.spaced_iff.1 h]
      constructor
      · intro heq
        obtain rfl := Except.error.inj heq
        exact .empty
      · intro hfaulty
        cases hfaulty
        rfl
  | cons typed args =>
      rw [parse_of_spaced h]
      exact ofWords_eq_error_iff_faulty

/-- Typed lines and requests.  A line that is made of a keyword of a request, in any mix of
cases, and the words of the request is read as that request, however it is spaced; where no word
is left out, more words may follow.  Every line is made of exactly one list of words, nothing but
these decides what is read, and it is refused exactly if something is wrong with them. -/
theorem parse_spaced :
    (∀ (r : Request) (keyword typed line : String) (more : List String),
      keyword ∈ r.keywords → IsCased typed keyword → (r.isFull ∨ more = []) →
      Blank.Spaced (typed :: r.operands ++ more) line.toList → parse line = .ok r) ∧
    (∀ line : String, ∃! ws, Blank.Spaced ws line.toList) ∧
    (∀ (ws : List String) (line line' : String), Blank.Spaced ws line.toList →
      Blank.Spaced ws line'.toList → parse line = parse line') ∧
    ∀ (ws : List String) (line : String), Blank.Spaced ws line.toList →
      ∀ e, parse line = .error e ↔ Faulty ws e := by
  refine ⟨?_, ?_, ?_, fun _ _ h _ => parse_eq_error h⟩
  · intro r keyword typed line more hkeyword htyped hmore hline
    have hlower := (isCased_iff (toLower_of_mem_allKeywords (r.keywords_subset hkeyword))).1 htyped
    rw [parse_of_spaced hline, hlower]
    exact ofWords_operands hkeyword hmore
  · intro line
    exact ⟨Blank.words line, Blank.spaced_iff.2 rfl, fun ws h => Blank.spaced_iff.1 h⟩
  · intro ws line line' hline hline'
    unfold parse
    rw [← Blank.spaced_iff.1 hline, ← Blank.spaced_iff.1 hline']

example : parse "\t GeT  pub/a.txt   Copy.txt more\r" = .ok (get "pub/a.txt" "Copy.txt") := by
  cbv

end Request
end Prompt
end FtpClient
