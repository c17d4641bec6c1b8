import FtpClient.Prompt.Shell
import FtpClient.Proofs.Lines

/-
What becomes of a typed line.

Everything that a user types reaches the client as one of three texts: a word of a line, the
name that ends a path, or a line that is trimmed.  None of them holds a line feed, the first
because a line feed separates words and the last because a line has it at its end alone.
`Origin` names these texts, and `Request.commands` says where they go.
-/

namespace FtpClient

/-! ## Words -/

namespace Blank

theorem words_from {word cs : List Char} {w : String} (h : w ∈ wordsFrom word cs)
    (hword : ∀ c ∈ word, isAscii c = false) :
    ∀ c ∈ w.toList, isAscii c = false ∧ (c ∈ word ∨ c ∈ cs) := by
  induction cs generalizing word with
  | nil =>
      unfold wordsFrom at h
      split at h
      · cases h
      · obtain rfl := List.mem_singleton.1 h
        intro c hc
        have hmem : c ∈ word := by simpa using hc
        exact ⟨hword c hmem, Or.inl hmem⟩
  | cons b cs ih =>
      unfold wordsFrom at h
      by_cases hb : isAscii b
      · rw [if_pos hb] at h
        have hlater (h : w ∈ wordsFrom [] cs) :
            ∀ c ∈ w.toList, isAscii c = false ∧ (c ∈ word ∨ c ∈ b :: cs) := by
          intro c hc
          obtain ⟨hplain, hmem⟩ := ih h (fun _ h => nomatch h) c hc
          exact ⟨hplain, Or.inr (List.mem_cons_of_mem b (hmem.resolve_left (fun h => nomatch h)))⟩
        by_cases hempty : word = []
        · rw [if_pos hempty] at h
          exact hlater h
        · rw [if_neg hempty] at h
          rcases List.mem_cons.1 h with rfl | h
          · intro c hc
            have hmem : c ∈ word := by simpa using hc
            exact ⟨hword c hmem, Or.inl hmem⟩
          · exact hlater h
      · rw [if_neg hb] at h
        have hmore : ∀ c ∈ b :: word, isAscii c = false := by
          intro c hc
          rcases List.mem_cons.1 hc with rfl | hc
          · exact Bool.eq_false_iff.2 hb
          · exact hword c hc
        intro c hc
        obtain ⟨hplain, hmem⟩ := ih h hmore c hc
        refine ⟨hplain, ?_⟩
        rcases hmem with hmem | hmem
        · rcases List.mem_cons.1 hmem with rfl | hmem
          · exact Or.inr List.mem_cons_self
          · exact Or.inl hmem
        · exact Or.inr (List.mem_cons_of_mem b hmem)

/-- No blank is left in a word. -/
theorem words_plain {s w : String} (h : w ∈ words s) : ∀ c ∈ w.toList, isAscii c = false :=
  fun c hc => (words_from h (fun _ h => nomatch h) c hc).1

/-! ## Trimming -/

theorem mem_dropEnd {p : Char → Bool} {c : Char} {cs : List Char} (h : c ∈ dropEnd p cs) :
    c ∈ cs := by
  have hmem : c ∈ cs.reverse.dropWhile p := by simpa [dropEnd] using h
  exact List.mem_reverse.1 ((List.dropWhile_suffix p).subset hmem)

theorem dropEnd_concat {p : Char → Bool} {c : Char} (h : p c) (cs : List Char) :
    dropEnd p (cs ++ [c]) = dropEnd p cs := by
  simp [dropEnd, h]

/-- A line has its line feed at its end, if it has one. -/
def IsTyped (line : String) : Prop :=
  ∃ cs, '\n' ∉ cs ∧ (line.toList = cs ∨ line.toList = cs ++ ['\n'])

theorem isTyped_empty : IsTyped "" :=
  ⟨[], List.not_mem_nil, Or.inl rfl⟩

theorem lineFeed_notMem_trim {line : String} (h : IsTyped line) : '\n' ∉ (trim line).toList := by
  obtain ⟨cs, hcs, hline⟩ := h
  have hshort : '\n' ∉ dropEnd isUnicode (cs.dropWhile isUnicode) := by
    intro hmem
    exact hcs ((List.dropWhile_suffix isUnicode).subset (mem_dropEnd hmem))
  have htrimmed : (trim line).toList = dropEnd isUnicode (line.toList.dropWhile isUnicode) := by
    simp [trim]
  rw [htrimmed]
  rcases hline with hline | hline
  · rw [hline]
    exact hshort
  · have hblank : isUnicode '\n' := by decide
    rw [hline, List.dropWhile_append]
    by_cases hempty : (cs.dropWhile isUnicode).isEmpty
    · rw [if_pos hempty]
      simp [hblank, dropEnd]
    · rw [if_neg hempty, dropEnd_concat hblank]
      exact hshort

end Blank

/-! ## Names in paths -/

namespace Path

theorem mem_segmentsFrom {segment cs : List Char} {name : String}
    (h : name ∈ segmentsFrom segment cs) : ∀ c ∈ name.toList, c ∈ segment ∨ c ∈ cs := by
  induction cs generalizing segment with
  | nil =>
      obtain rfl := List.mem_singleton.1 h
      intro c hc
      exact Or.inl (by simpa using hc)
  | cons b cs ih =>
      unfold segmentsFrom at h
      by_cases hb : b = '/'
      · rw [if_pos hb] at h
        rcases List.mem_cons.1 h with rfl | h
        · intro c hc
          exact Or.inl (by simpa using hc)
        · intro c hc
          rcases ih h c hc with hmem | hmem
          · cases hmem
          · exact Or.inr (List.mem_cons_of_mem b hmem)
      · rw [if_neg hb] at h
        intro c hc
        rcases ih h c hc with hmem | hmem
        · rcases List.mem_cons.1 hmem with rfl | hmem
          · exact Or.inr List.mem_cons_self
          · exact Or.inl hmem
        · exact Or.inr (List.mem_cons_of_mem b hmem)

/-- The name that a path ends in is a part of it. -/
theorem fileName?_chars {path name : String} (h : fileName? path = some name) :
    ∀ c ∈ name.toList, c ∈ path.toList := by
  have hmem : name ∈ steps path := by
    unfold fileName? at h
    split at h
    · rename_i last hlast
      split at h
      · cases h
      · rw [← Option.some.inj h]
        exact List.mem_of_getLast? hlast
    · cases h
  intro c hc
  rcases mem_segmentsFrom (List.mem_filter.1 hmem).1 c hc with hsegment | hchars
  · cases hsegment
  · exact hchars

end Path

/-! ## Lines of an input -/

namespace Prompt

namespace InputLine

theorem encode_of_ofBytes {bytes : List UInt8} {line : String} (h : ofBytes bytes = text line) :
    Utf8.encode line = bytes := by
  unfold ofBytes Utf8.decode? at h
  dsimp only at h
  by_cases hexact : Utf8.encode (Utf8.decode bytes) = bytes
  · rw [if_pos hexact] at h
    rw [← text.inj h, hexact]
  · rw [if_neg hexact] at h
    cases h

theorem isTyped_of_encode {line : String} {front : List UInt8} (hfront : lineFeed ∉ front)
    (h : Utf8.encode line = front ∨ Utf8.encode line = front ++ [lineFeed]) :
    Blank.IsTyped line := by
  rcases h with h | h
  · refine ⟨line.toList, ?_, Or.inl rfl⟩
    rw [← Utf8.lineFeed_mem_encode, h]
    exact hfront
  · -- There is one line feed, and what follows it has no octets.
    have hone : line.toList.count '\n' = 1 := by
      rw [← Utf8.count_encode, h, List.count_append, List.count_eq_zero.2 hfront]
      rfl
    have hmem : '\n' ∈ line.toList := List.count_pos_iff.1 (by omega)
    obtain ⟨before, behind, hline⟩ := List.append_of_mem hmem
    have hnone : before.count '\n' = 0 ∧ behind.count '\n' = 0 := by
      rw [hline, List.count_append, List.count_cons_self] at hone
      omega
    have hbefore : '\n' ∉ before := List.count_eq_zero.1 hnone.1
    have hoctets : Utf8.encode (String.ofList before) ++
        lineFeed :: Utf8.encode (String.ofList behind) = front ++ lineFeed :: [] := by
      rw [← h]
      simp only [Utf8.encode, hline, String.toList_ofList, List.flatMap_append,
        List.flatMap_cons]
      rfl
    have hclean : lineFeed ∉ Utf8.encode (String.ofList before) := by
      rw [Utf8.lineFeed_mem_encode, String.toList_ofList]
      exact hbefore
    have hbehind : String.ofList behind = "" := by
      rw [← Utf8.decode_encode (String.ofList behind),
        (append_lineFeed_inj hclean hfront hoctets).2]
      rfl
    have hend : behind = [] := by
      simpa using congrArg String.toList hbehind
    exact ⟨before, hbefore, Or.inr (by rw [hline, hend])⟩

/-- Every line of an input that is text has its line feed at its end. -/
theorem isTyped_of_mem_split {input : List UInt8} {line : String}
    (h : text line ∈ split input) : Blank.IsTyped line := by
  have hfrom (begun rest : List UInt8) (hbegun : lineFeed ∉ begun) :
      text line ∈ splitFrom begun rest → Blank.IsTyped line := by
    induction rest generalizing begun with
    | nil =>
        intro hmem
        unfold splitFrom at hmem
        split at hmem
        · cases hmem
        · have hline := encode_of_ofBytes (List.mem_singleton.1 hmem).symm
          exact isTyped_of_encode (by simpa using hbegun) (Or.inl hline)
    | cons b rest ih =>
        intro hmem
        unfold splitFrom at hmem
        by_cases hb : b = lineFeed
        · rw [if_pos hb] at hmem
          rcases List.mem_cons.1 hmem with hmem | hmem
          · have hline := encode_of_ofBytes hmem.symm
            rw [List.reverse_cons, hb] at hline
            exact isTyped_of_encode (by simpa using hbegun) (Or.inr hline)
          · exact ih [] List.not_mem_nil hmem
        · rw [if_neg hb] at hmem
          refine ih (b :: begun) ?_ hmem
          simp [hbegun, Ne.symm hb]
  exact hfrom [] input List.not_mem_nil h

end InputLine

/-! ## Requests -/

namespace Request

/-- The request that a line at the prompt makes, if it makes one. -/
def ofLine? (line : String) : Option Request :=
  if Blank.trim line = "" then none else (parse line).toOption

theorem ofLine?_eq_some {line : String} {r : Request} (h : ofLine? line = some r) :
    Blank.trim line ≠ "" ∧ parse line = .ok r := by
  unfold ofLine? at h
  by_cases hblank : Blank.trim line = ""
  · rw [if_pos hblank] at h
    cases h
  · rw [if_neg hblank] at h
    cases hparsed : parse line with
    | error e => rw [hparsed] at h; cases h
    | ok r' =>
        rw [hparsed] at h
        exact ⟨hblank, congrArg Except.ok (Option.some.inj h)⟩

/-- What a request asks of the client.  Who logs in is asked for a password, without which
nothing is done. -/
def call? (password : Option String) : Request → Option Call
  | binary => some (.setType .image)
  | cd dir => some (.changeDir dir)
  | close => some .quit
  | get remote file => some (.download remote file)
  | ls dir => some (.list dir)
  | mkdir dir => some (.makeDir dir)
  | noop => some .noop
  | connect host port => some (.connect host port)
  | put file remote => some (.upload file remote)
  | pwd => some .workingDir
  | rm path => some (.removeFile path)
  | rmdir dir => some (.removeDir dir)
  | size path => some (.size path)
  | stat path => some (.status path)
  | syst => some .systemType
  | user (some name) => password.map fun password => .login name password
  | exit | help | user none => none

/-- The commands that a request may write.  Leaving the program says goodbye. -/
def commands (password : Option String) : Request → List Command
  | binary => [.type .image]
  | cd dir => [.cwd dir]
  | close | exit => [.quit]
  | get remote _ => [.epsv, .retr remote]
  | ls dir => [.epsv, .list dir]
  | mkdir dir => [.mkd dir]
  | noop => [.noop]
  | put _ remote => [.epsv, .stor remote]
  | pwd => [.pwd]
  | rm path => [.dele path]
  | rmdir dir => [.rmd dir]
  | size path => [.size path]
  | stat path => [.stat path]
  | syst => [.syst]
  | user (some name) => password.toList.flatMap fun password => [.user name, .pass password]
  | connect _ _ | help | user none => []

theorem commands_of_call {password : Option String} {r : Request} {c : Call}
    (h : r.call? password = some c) : c.commands = r.commands password := by
  cases r with
  | user name =>
      cases name with
      | none => cases h
      | some name =>
          cases password with
          | none => cases h
          | some password =>
              obtain rfl := Option.some.inj h
              rfl
  | exit | help => cases h
  | _ =>
      obtain rfl := Option.some.inj h
      rfl

end Request

/-! ## Arguments -/

/-- Where the argument of a command comes from, by what a line was typed for.  The password is
the one that is typed next. -/
inductive Origin (awaiting : Awaiting) (line : String) (password : Option String) :
    String → Prop where
  | word {w : String} : awaiting = .request → w ∈ Blank.words line →
      (∀ c ∈ w.toList, Blank.isAscii c = false) → Origin awaiting line password w
  | fileName {w name : String} : awaiting = .request → w ∈ Blank.words line →
      Path.fileName? w = some name → Origin awaiting line password name
  | letter : awaiting = .request → Origin awaiting line password Representation.image.letter
  | name : awaiting = .name → Origin awaiting line password (Blank.trim line)
  | password {p : String} : password = some p → Origin awaiting line password p

theorem Origin.lineFeed_notMem {awaiting : Awaiting} {line : String} {password : Option String}
    {a : String} (h : Origin awaiting line password a) (hline : Blank.IsTyped line)
    (hpassword : ∀ p, password = some p → '\n' ∉ p.toList) : '\n' ∉ a.toList := by
  have hword {w : String} (hw : w ∈ Blank.words line) : '\n' ∉ w.toList := by
    intro hmem
    have hplain := Blank.words_plain hw '\n' hmem
    cases hplain
  cases h with
  | word _ hw _ => exact hword hw
  | fileName _ hw hname => exact fun hmem => hword hw (Path.fileName?_chars hname _ hmem)
  | letter _ => decide
  | name _ => exact Blank.lineFeed_notMem_trim hline
  | password hp => exact hpassword _ hp

namespace Request

variable {args : List String} {r : Request}

theorem withWord_ok {field : Field} {request : String → Request}
    (h : withWord field request args = .ok r) : ∃ w ∈ args, r = request w := by
  cases args with
  | nil => cases h
  | cons w rest => exact ⟨w, List.mem_cons_self, (Except.ok.inj h).symm⟩

theorem ofGet_ok (h : ofGet args = .ok r) : ∃ w ∈ args, ∃ file, r = get w file := by
  match args, h with
  | [remote], h => exact ⟨remote, List.mem_cons_self, _, (Except.ok.inj h).symm⟩
  | remote :: file :: _, h => exact ⟨remote, List.mem_cons_self, _, (Except.ok.inj h).symm⟩

theorem ofPut_ok (h : ofPut args = .ok r) : ∃ file remote, r = put file remote ∧
    (remote ∈ args ∨ ∃ w ∈ args, Path.fileName? w = some remote) := by
  match args, h with
  | [file], h =>
      cases hname : Path.fileName? file with
      | none => simp [ofPut, hname] at h
      | some name =>
          have hput : put file name = r := by simpa [ofPut, hname] using h
          exact ⟨file, name, hput.symm, Or.inr ⟨file, List.mem_cons_self, hname⟩⟩
  | file :: remote :: _, h =>
      exact ⟨file, remote, (Except.ok.inj h).symm,
        Or.inl (List.mem_cons_of_mem file List.mem_cons_self)⟩

theorem ofAddress_ok {address : String} (h : ofAddress address = .ok r) :
    ∃ host port, r = connect host port := by
  unfold ofAddress at h
  repeat' split at h
  all_goals first | exact ⟨_, _, (Except.ok.inj h).symm⟩ | cases h

theorem ofConnect_ok (h : ofConnect args = .ok r) : ∃ host port, r = connect host port := by
  unfold ofConnect at h
  split at h
  · split at h
    · exact ⟨_, _, (Except.ok.inj h).symm⟩
    · cases h
  · exact ofAddress_ok h
  · cases h

/-- The arguments of the commands that a request may write. -/
def arguments (password : Option String) (r : Request) : List String :=
  (r.commands password).filterMap Command.argument?

/-- A request whose arguments come from a line at the prompt. -/
def Stems (line : String) (password : Option String) (r : Request) : Prop :=
  ∀ a ∈ r.arguments password, Origin .request line password a

section Stems

variable {line w : String} {password : Option String}

theorem stems_of_none (h : r.arguments password = []) : Stems line password r := by
  unfold Stems
  rw [h]
  exact fun _ ha => nomatch ha

theorem stems_of_one (h : r.arguments password = [w])
    (hw : Origin .request line password w) : Stems line password r := by
  unfold Stems
  rw [h]
  intro a ha
  rw [List.mem_singleton.1 ha]
  exact hw

theorem origin_of_mem (hw : w ∈ Blank.words line) : Origin .request line password w :=
  .word rfl hw (Blank.words_plain hw)

theorem withWord_stems {field : Field} {request : String → Request}
    (hargs : ∀ w ∈ args, w ∈ Blank.words line)
    (hrequest : ∀ w, (request w).arguments password = [w])
    (h : withWord field request args = .ok r) : Stems line password r := by
  obtain ⟨w, hw, rfl⟩ := withWord_ok h
  exact stems_of_one (hrequest w) (origin_of_mem (hargs w hw))

/-- A request with a word that may be left out. -/
theorem optional_stems {request : Option String → Request}
    (hargs : ∀ w ∈ args, w ∈ Blank.words line)
    (hnone : (request none).arguments password = [])
    (hsome : ∀ w, (request (some w)).arguments password = [w]) :
    Stems line password (request args.head?) := by
  cases hhead : args.head? with
  | none => exact stems_of_none hnone
  | some w => exact stems_of_one (hsome w) (origin_of_mem (hargs w (List.mem_of_mem_head? hhead)))

theorem user_stems (hargs : ∀ w ∈ args, w ∈ Blank.words line) :
    Stems line password (user args.head?) := by
  cases hhead : args.head? with
  | none => exact stems_of_none rfl
  | some name =>
      cases password with
      | none => exact stems_of_none rfl
      | some p =>
          intro a ha
          have hcases : a = name ∨ a = p := by
            simpa [arguments, commands, Command.argument?] using ha
          rcases hcases with rfl | rfl
          · exact origin_of_mem (hargs a (List.mem_of_mem_head? hhead))
          · exact .password rfl

theorem ofWords_stems {keyword : String} (hargs : ∀ w ∈ args, w ∈ Blank.words line)
    (h : ofWords keyword args = .ok r) : Stems line password r := by
  have hnone {request : Request} (hrequest : request.arguments password = [])
      (h : .ok request = (.ok r : Except ParseError Request)) : Stems line password r := by
    rw [← Except.ok.inj h]
    exact stems_of_none hrequest
  -- The keywords in the order of the alphabet.
  unfold ofWords at h
  split at h
  · rw [← Except.ok.inj h]
    exact stems_of_one rfl (.letter rfl)
  · exact withWord_stems hargs (fun _ => rfl) h
  · exact hnone rfl h
  · exact hnone rfl h
  · exact hnone rfl h
  · obtain ⟨w, hw, file, rfl⟩ := ofGet_ok h
    exact stems_of_one rfl (origin_of_mem (hargs w hw))
  · exact hnone rfl h
  · rw [← Except.ok.inj h]
    exact optional_stems hargs rfl (fun _ => rfl)
  · exact withWord_stems hargs (fun _ => rfl) h
  · exact hnone rfl h
  · obtain ⟨host, port, rfl⟩ := ofConnect_ok h
    exact stems_of_none rfl
  · obtain ⟨file, remote, rfl, hremote | ⟨w, hw, hname⟩⟩ := ofPut_ok h
    · exact stems_of_one rfl (origin_of_mem (hargs remote hremote))
    · exact stems_of_one rfl (.fileName rfl (hargs w hw) hname)
  · exact hnone rfl h
  · exact withWord_stems hargs (fun _ => rfl) h
  · exact withWord_stems hargs (fun _ => rfl) h
  · exact withWord_stems hargs (fun _ => rfl) h
  · rw [← Except.ok.inj h]
    exact optional_stems hargs rfl (fun _ => rfl)
  · exact hnone rfl h
  · rw [← Except.ok.inj h]
    exact user_stems hargs
  · cases h

theorem ofLine?_stems (h : ofLine? line = some r) : Stems line password r := by
  have hparse := (ofLine?_eq_some h).2
  unfold parse at hparse
  split at hparse
  · cases hparse
  · rename_i keyword args hwords
    refine ofWords_stems (fun w hw => ?_) hparse
    rw [hwords]
    exact List.mem_cons_of_mem keyword hw

end Stems

end Request
end Prompt
end FtpClient
