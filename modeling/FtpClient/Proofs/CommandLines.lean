import FtpClient.Proofs.Lines

/-
The lines of commands as a server reads them.

A server cuts what it receives at the line feeds, takes one carriage return off the end of each
line, and cuts the line at its first space.  No verb holds a space, so that gives the verb and
the argument as they were, and the two tell which command it was.  Commands that are sent one
after another are therefore read as these commands.
-/

namespace FtpClient
namespace Command

/-! ## Reading a line -/

/-- The command of a verb and its argument, if it has one. -/
def ofParts? : String → Option String → Option Command
  | "CWD", some path => some (.cwd path)
  | "DELE", some path => some (.dele path)
  | "EPSV", none => some .epsv
  | "LIST", path => some (.list path)
  | "MKD", some path => some (.mkd path)
  | "NOOP", none => some .noop
  | "PASS", some password => some (.pass password)
  | "PWD", none => some .pwd
  | "QUIT", none => some .quit
  | "RETR", some path => some (.retr path)
  | "RMD", some path => some (.rmd path)
  | "SIZE", some path => some (.size path)
  | "STAT", path => some (.stat path)
  | "STOR", some path => some (.stor path)
  | "SYST", none => some .syst
  | "TYPE", some "A" => some (.type .ascii)
  | "TYPE", some "I" => some (.type .image)
  | "USER", some name => some (.user name)
  | _, _ => none

/-- The text before the first space, and the text behind it if there is one. -/
def cutSpace (line : String) : String × Option String :=
  let verb := line.toList.takeWhile (· ≠ ' ')
  match line.toList.dropWhile (· ≠ ' ') with
  | [] => (String.ofList verb, none)
  | _ :: argument => (String.ofList verb, some (String.ofList argument))

def ofLine? (line : String) : Option Command :=
  ofParts? (cutSpace line).1 (cutSpace line).2

/-- A line without the carriage return at its end. -/
def dropReturn (line : List UInt8) : List UInt8 :=
  if line.getLast? = some carriageReturn then line.dropLast else line

def ofOctets? (line : List UInt8) : Option Command :=
  (Utf8.decode? (dropReturn line)).bind ofLine?

/-- What is read from octets: a command or none for each line. -/
def readLines (bytes : List UInt8) : List (Option Command) :=
  (splitLines bytes).1.map ofOctets?

theorem ofParts?_parts (c : Command) : ofParts? c.verb c.argument? = some c := by
  cases c with
  | type r => cases r <;> rfl
  | list path => cases path <;> rfl
  | stat path => cases path <;> rfl
  | _ => rfl

theorem cutSpace_lineOf {verb : String} (h : ' ' ∉ verb.toList) (argument? : Option String) :
    cutSpace (lineOf verb argument?) = (verb, argument?) := by
  have hverb : ∀ c ∈ verb.toList, (decide (c ≠ ' ')) = true := by
    intro c hc
    rw [decide_eq_true_iff]
    intro hspace
    exact h (hspace ▸ hc)
  unfold cutSpace lineOf
  cases argument? with
  | none =>
      have hnone : (verb.toList ++ []).dropWhile (· ≠ ' ') = [] :=
        List.dropWhile_append_of_pos hverb
      have hall : (verb.toList ++ []).takeWhile (· ≠ ' ') = verb.toList ++ [] :=
        List.takeWhile_append_of_pos hverb
      rw [List.append_nil] at hnone hall
      dsimp only
      rw [hnone, hall]
      simp
  | some a =>
      have hline : (verb ++ " " ++ a).toList = verb.toList ++ ' ' :: a.toList := by simp
      dsimp only
      rw [hline, List.dropWhile_append_of_pos hverb, List.takeWhile_append_of_pos hverb]
      simp

theorem ofLine?_line (c : Command) : ofLine? c.line = some c := by
  have hverbs : ∀ v ∈ verbs, ' ' ∉ v.toList := by decide
  rw [ofLine?, line, cutSpace_lineOf (hverbs _ c.verb_mem)]
  exact ofParts?_parts c

theorem ofOctets?_ended (c : Command) : ofOctets? c.ended = some c := by
  have hdropped : dropReturn c.ended = Utf8.encode c.line := by
    rw [dropReturn, ended, List.getLast?_concat, if_pos rfl, List.dropLast_concat]
  have hdecoded : Utf8.decode? (Utf8.encode c.line) = some c.line := by
    unfold Utf8.decode?
    rw [Utf8.decode_encode]
    exact if_pos rfl
  rw [ofOctets?, hdropped, hdecoded]
  exact ofLine?_line c

/-! ## Lines one after another -/

/-- Commands are read as they were written.  What was written of one that was cut short is left
over. -/
theorem readLines_writing {cs : List Command} {cut? : Option (Command × Nat)}
    (h : ∀ c ∈ cs, c.IsLine) (hcut : ∀ cut ∈ cut?, cut.1.IsLine) :
    readLines ((cs.map octets).flatten ++ part cut?) = cs.map some ∧
      (splitLines ((cs.map octets).flatten ++ part cut?)).2 = part cut? := by
  have hsame : ∀ c ∈ cs, (ofOctets? ∘ ended) c = some c := by
    intro c _
    rw [Function.comp_apply, ofOctets?_ended]
  unfold readLines
  rw [splitLines_writing h hcut, List.map_map]
  exact ⟨List.map_congr_left hsame, rfl⟩

theorem readLines_flatten {cs : List Command} (h : ∀ c ∈ cs, c.IsLine) :
    readLines (cs.map octets).flatten = cs.map some := by
  have hnone : ∀ cut ∈ (none : Option (Command × Nat)), cut.1.IsLine := fun _ h => nomatch h
  have hread := (readLines_writing h hnone).1
  rwa [part, List.append_nil] at hread

theorem flatten_inj {cs cs' : List Command} (h : ∀ c ∈ cs, c.IsLine) (h' : ∀ c ∈ cs', c.IsLine)
    (heq : (cs.map octets).flatten = (cs'.map octets).flatten) : cs = cs' := by
  have hread := readLines_flatten h
  rw [heq, readLines_flatten h'] at hread
  exact (List.map_inj_right fun _ _ => Option.some.inj).1 hread.symm

end Command

/-! ## Sending -/

namespace Session

variable {ν : Type} [Network ν]

/-- Send commands one after another, up to one that cannot be sent. -/
def sendAll : List Command → Session ν → Outcome ν Unit
  | [], s => ⟨.ok (), s⟩
  | c :: cs, s => (s.send c.line).andThen fun _ s => sendAll cs s

omit [Network ν] in
theorem sentBytes_of_wires {s t : Session ν} {es : List WireEvent} (h : t.wires = s.wires ++ es) :
    sentBytes t.journal = sentBytes s.journal ++ es.flatMap WireEvent.sentBytes := by
  have hwires : wireEvents t.journal = wireEvents s.journal ++ es := h
  rw [sentBytes_eq, hwires, List.flatMap_append, ← sentBytes_eq]

theorem send_octets (c : Command) (s : Session ν) :
    (s.send c.line).Ends (fun _ t => sentBytes t.journal = sentBytes s.journal ++ c.octets)
      (fun _ t => ∃ cut? : Option (Command × Nat), cut?.toList.map Prod.fst <+: [c] ∧
        sentBytes t.journal = sentBytes s.journal ++ Command.part cut?) := by
  refine (s.send_ends c.line).mono ?_ ?_
  · intro _ t hends
    rw [sentBytes_of_wires hends.2.2]
    exact congrArg _ (List.append_nil _)
  · intro e t hends
    obtain ⟨-, -, es, hunwritten, hwires⟩ := hends
    rw [sentBytes_of_wires hwires]
    cases hunwritten with
    | unheld _ => exact ⟨none, List.nil_prefix, rfl⟩
    | part count _ =>
        refine ⟨some (c, count), List.prefix_rfl, ?_⟩
        exact congrArg _ (Command.sentBytes_writing [] (some (c, count)))

/-- The commands that are sent are the first ones, and all of them unless one fails, of which
a part may have been written. -/
theorem sendAll_octets (cs : List Command) (s : Session ν) :
    (s.sendAll cs).Ends
      (fun _ t => sentBytes t.journal = sentBytes s.journal ++ (cs.map Command.octets).flatten)
      (fun _ t => ∃ sent cut?, sent ++ cut?.toList.map Prod.fst <+: cs ∧
        sentBytes t.journal = sentBytes s.journal ++
          ((sent.map Command.octets).flatten ++ Command.part cut?)) := by
  induction cs generalizing s with
  | nil => exact (List.append_nil _).symm
  | cons c cs ih =>
      refine (send_octets c s).andThen ?_ ?_
      · intro _ t ht
        refine (ih t).mono ?_ ?_
        · intro _ u hu
          rw [hu, ht, List.append_assoc]
          rfl
        · intro e u hends
          obtain ⟨sent, cut?, hsent, hu⟩ := hends
          refine ⟨c :: sent, cut?, (List.prefix_cons_inj c).2 hsent, ?_⟩
          rw [hu, ht, List.append_assoc, ← List.append_assoc c.octets]
          rfl
      · intro e t hends
        obtain ⟨cut?, hcut, ht⟩ := hends
        exact ⟨[], cut?, hcut.trans (List.prefix_append [c] cs), ht⟩

/-- Commands without line feeds in their arguments, sent one after another, are read by a server
as these commands, up to one that could not be sent, of which at most a part is left over.  So
octets stand for one list of commands only, and an empty argument differs from none.  Of all
commands only a password is logged in another form than it is sent, and always in the same
one. -/
theorem sendAll_decoded (cs : List Command) (h : ∀ c ∈ cs, c.IsLine) (s : Session ν) :
    (∃ sent cut? bytes, sent ++ cut?.toList.map Prod.fst <+: cs ∧
      ((s.sendAll cs).value = .ok () → sent = cs ∧ cut? = none) ∧
      sentBytes (s.sendAll cs).session.journal = sentBytes s.journal ++ bytes ∧
      Command.readLines bytes = sent.map some ∧ (splitLines bytes).2 = Command.part cut?) ∧
    (∀ cs', (∀ c ∈ cs', c.IsLine) →
      (cs.map Command.octets).flatten = (cs'.map Command.octets).flatten → cs = cs') ∧
    (Command.list (some "")).line ≠ (Command.list none).line ∧
    (Command.stat (some "")).line ≠ (Command.stat none).line ∧
    (∀ c : Command, (∀ password, c ≠ .pass password) → c.loggedLine = c.line) ∧
    ∀ password password',
      (Command.pass password).loggedLine = (Command.pass password').loggedLine := by
  have hread {sent : List Command} {cut? : Option (Command × Nat)}
      (hsent : sent ++ cut?.toList.map Prod.fst <+: cs) :
      Command.readLines ((sent.map Command.octets).flatten ++ Command.part cut?) = sent.map some ∧
        (splitLines ((sent.map Command.octets).flatten ++ Command.part cut?)).2 =
          Command.part cut? := by
    refine Command.readLines_writing (fun c hc => h c ?_) (fun cut hcut => h cut.1 ?_)
    · exact hsent.subset (List.mem_append_left _ hc)
    · refine hsent.subset (List.mem_append_right _ (List.mem_map_of_mem ?_))
      exact Option.mem_toList.2 hcut
  refine ⟨?_, fun cs' h' => Command.flatten_inj h h', by decide, by decide, ?_, fun _ _ => rfl⟩
  · have hends := s.sendAll_octets cs
    cases hv : (s.sendAll cs).value with
    | ok _ =>
        have hall : cs ++ (none : Option (Command × Nat)).toList.map Prod.fst <+: cs := by simp
        refine ⟨cs, none, _, hall, fun _ => ⟨rfl, rfl⟩, ?_, hread hall⟩
        rw [hends.of_ok hv]
        exact congrArg _ (List.append_nil _).symm
    | error e =>
        obtain ⟨sent, cut?, hsent, hbytes⟩ := hends.of_error hv
        exact ⟨sent, cut?, _, hsent, nofun, hbytes, hread hsent⟩
  · intro c hc
    cases c with
    | pass password => exact absurd rfl (hc password)
    | _ => rfl

/-- Empty arguments, arguments with spaces, and carriage returns at the end of one. -/
theorem sendAll_decoded_oddArguments :
    let s := (start .default .empty ⟨[], []⟩ (Speaker.silent terse)).moves
      [.call (.connect "host" 21)]
    let cs : List Command := [.list (some ""), .list none, .stat (some " a  b"), .cwd "a\rb\r\r",
      .type .image, .pass "", .epsv]
    (∀ c ∈ cs, c.IsLine) ∧ (s.sendAll cs).value = .ok () ∧
      ∃ bytes, sentBytes (s.sendAll cs).session.journal = sentBytes s.journal ++ bytes ∧
        Command.readLines bytes = cs.map some := by
  intro s cs
  have hlines : ∀ c ∈ cs, c.IsLine := by
    simp [cs, Command.IsLine, Command.argument?, Representation.letter]
  have hsent : (s.sendAll cs).value = .ok () := by decide +kernel
  obtain ⟨⟨sent, cut?, bytes, -, hall, hbytes, hread, -⟩, -⟩ := sendAll_decoded cs hlines s
  rw [(hall hsent).1] at hread
  exact ⟨hlines, hsent, bytes, hbytes, hread⟩

end Session
end FtpClient
