import FtpClient.Proofs.Alignment
import FtpClient.Proofs.Ways

/-
The lines that a call writes.

A command is written with its argument as it is.  So without line feeds in its arguments a
call writes one line for each command that it issues, and otherwise every line feed of an
argument ends a line too early: what follows it is a line of its own, which the server
takes for a command.  Where the connection fails the last command is cut short.
-/

namespace FtpClient

/-! ## Line feeds -/

theorem Utf8.count_encode (s : String) : (encode s).count lineFeed = s.toList.count '\n' := by
  have hchar (c : Char) : (String.utf8EncodeChar c).count lineFeed = if c = '\n' then 1 else 0 := by
    by_cases hc : c = '\n'
    · rw [if_pos hc, hc]
      rfl
    · rw [if_neg hc, List.count_eq_zero, ascii_mem_encodeChar (by decide)]
      intro hval
      exact hc (Char.ext (UInt32.toNat_inj.1 hval))
  unfold encode
  induction s.toList with
  | nil => rfl
  | cons c cs ih =>
      rw [List.flatMap_cons, List.count_append, ih, hchar, List.count_cons]
      simp only [beq_iff_eq]
      omega

namespace Command

/-- The characters of the argument of a command. -/
def argumentChars (c : Command) : List Char :=
  (c.argument?.getD "").toList

theorem count_octets (c : Command) : c.octets.count lineFeed = 1 + c.argumentChars.count '\n' := by
  have hverbs : ∀ v ∈ verbs, v.toList.count '\n' = 0 := by decide
  have hverb := hverbs _ c.verb_mem
  have hline : c.line.toList.count '\n' = c.argumentChars.count '\n' := by
    unfold line lineOf argumentChars
    cases c.argument? with
    | none => exact hverb
    | some a => simp [hverb]
  have hends : [carriageReturn, lineFeed].count lineFeed = 1 := rfl
  rw [octets_eq, List.append_assoc, List.count_append, Utf8.count_encode, hline]
  show c.argumentChars.count '\n' + [carriageReturn, lineFeed].count lineFeed = _
  omega

/-- The line of a command, with its carriage return. -/
def ended (c : Command) : List UInt8 :=
  Utf8.encode c.line ++ [carriageReturn]

theorem flatten_octets (cs : List Command) :
    (cs.map octets).flatten = joinLines (cs.map ended) := by
  induction cs with
  | nil => rfl
  | cons c cs ih =>
      rw [List.map_cons, List.flatten_cons, ih, List.map_cons, joinLines_cons, octets_eq]
      simp [ended]

theorem count_flatten (cs : List Command) :
    (cs.map octets).flatten.count lineFeed =
      cs.length + (cs.flatMap argumentChars).count '\n' := by
  induction cs with
  | nil => rfl
  | cons c cs ih =>
      rw [List.map_cons, List.flatten_cons, List.count_append, ih, count_octets,
        List.flatMap_cons, List.count_append, List.length_cons]
      omega

end Command

/-- There are as many lines as line feeds. -/
theorem length_splitLines (bytes : List UInt8) :
    (splitLines bytes).1.length = bytes.count lineFeed := by
  have hcut := cut_splitLines bytes
  have htail := List.count_eq_zero.2 hcut.lineFeed_tail
  have hlines := count_joinLines hcut.lineFeed_lines
  have hcount := congrArg (List.count lineFeed) hcut.eq
  rw [List.count_append, htail, hlines] at hcount
  omega

/-- Nothing is behind the last line feed. -/
theorem splitLines_joinLines_snd (lines : List (List UInt8)) :
    (splitLines (joinLines lines)).2 = [] := by
  have hcut := cut_splitLines (joinLines lines)
  generalize (splitLines (joinLines lines)).1 = lines' at hcut
  generalize (splitLines (joinLines lines)).2 = tail at hcut ⊢
  cases List.eq_nil_or_concat tail with
  | inl hnil => exact hnil
  | inr hlast =>
      -- The last octet of all is a line feed, and a tail has none.
      obtain ⟨front, b, rfl⟩ := hlast
      rcases List.eq_nil_or_concat lines with rfl | ⟨ls, line, rfl⟩
      · have hnil := congrArg List.length hcut.eq
        simp at hnil
      · have hends := hcut.eq
        rw [List.concat_eq_append, joinLines_append, joinLines_cons, joinLines_nil,
          List.concat_eq_append, ← List.append_assoc, ← List.append_assoc] at hends
        have hb : lineFeed = b := (List.append_inj' hends rfl).2 |> List.singleton_inj.1
        exact absurd (by simp [hb]) hcut.lineFeed_tail

/-! ## What is written -/

/-- The events that write a line, whole or in part. -/
def writes (events : List WireEvent) : List WireEvent :=
  events.filter (·.line?.isSome)

/-- The lines that are written whole, as they are written. -/
def sends (events : List WireEvent) : List (List UInt8) :=
  events.filterMap fun
    | .sent bytes => some bytes
    | _ => none

theorem writes_append (events events' : List WireEvent) :
    writes (events ++ events') = writes events ++ writes events' :=
  List.filter_append events events'

theorem Quiet.writes_eq {events : List WireEvent} (h : Quiet events) : writes events = [] := by
  refine List.filter_eq_nil_iff.2 fun e he => ?_
  simp [h e he]

theorem sends_writes (events : List WireEvent) : sends (writes events) = sends events := by
  induction events with
  | nil => rfl
  | cons e events ih =>
      cases e with
      | sent bytes => exact congrArg (bytes :: ·) ih
      | _ => exact ih

theorem sends_append (events events' : List WireEvent) :
    sends (events ++ events') = sends events ++ sends events' :=
  List.filterMap_append

theorem sentBytes_eq (journal : List Entry) :
    sentBytes journal = (wireEvents journal).flatMap WireEvent.sentBytes := by
  unfold sentBytes
  induction journal with
  | nil => rfl
  | cons entry journal ih =>
      rw [List.flatMap_cons, ih]
      cases entry <;> rfl

/-- Nothing but lines is put on a control connection. -/
theorem sentBytes_writes (events : List WireEvent) :
    (writes events).flatMap WireEvent.sentBytes = events.flatMap WireEvent.sentBytes := by
  induction events with
  | nil => rfl
  | cons e events ih =>
      cases e with
      | sent bytes => exact congrArg (bytes ++ ·) ih
      | sentPart bytes count => exact congrArg (bytes.dropLast.take count ++ ·) ih
      | _ => exact ih

namespace Command

/-- How commands are written: whole, up to one of which only the first octets are, as the
connection fails then. -/
def writing (issued : List Command) (cut? : Option (Command × Nat)) : List WireEvent :=
  issued.map (fun c => .sent c.octets) ++ cut?.toList.map fun cut => .sentPart cut.1.octets cut.2

/-- What is written of a command that is cut short.  Its line feed never is. -/
def part : Option (Command × Nat) → List UInt8
  | none => []
  | some (c, count) => c.ended.take count

theorem sentBytes_writing (issued : List Command) (cut? : Option (Command × Nat)) :
    (writing issued cut?).flatMap WireEvent.sentBytes =
      (issued.map octets).flatten ++ part cut? := by
  have hissued : (issued.map fun c => WireEvent.sent c.octets).flatMap WireEvent.sentBytes =
      (issued.map octets).flatten := by
    rw [List.flatMap_map, List.flatMap_def]
    rfl
  rw [writing, List.flatMap_append, hissued]
  cases cut? with
  | none => rfl
  | some cut =>
      obtain ⟨c, count⟩ := cut
      have hends : c.octets.dropLast = c.ended := by
        rw [octets_eq, List.dropLast_concat]
        rfl
      simp [WireEvent.sentBytes, part, hends]

theorem sends_writing (issued : List Command) (cut? : Option (Command × Nat)) :
    sends (writing issued cut?) = issued.map octets := by
  have hissued : sends (issued.map fun c => .sent c.octets) = issued.map octets := by
    induction issued with
    | nil => rfl
    | cons c issued ih => exact congrArg (c.octets :: ·) ih
  rw [writing, sends_append, hissued]
  cases cut? <;> simp [sends]

theorem splitLines_writing {issued : List Command} {cut? : Option (Command × Nat)}
    (hissued : ∀ c ∈ issued, c.IsLine) (hcut : ∀ cut ∈ cut?, cut.1.IsLine) :
    splitLines ((issued.map octets).flatten ++ part cut?) = (issued.map ended, part cut?) := by
  rw [flatten_octets]
  refine Cut.eq_splitLines ⟨rfl, ?_, ?_⟩
  · intro line hmem
    obtain ⟨command, hcommand, rfl⟩ := List.mem_map.1 hmem
    exact command.lineFeed_notMem_octets (hissued command hcommand)
  · cases cut? with
    | none => exact List.not_mem_nil
    | some cut =>
        intro hmem
        exact cut.1.lineFeed_notMem_octets (hcut cut rfl) (List.mem_of_mem_take hmem)

end Command

namespace Session

/-- Events during which some of `commands` are written, from the first on.  The last one may be
cut short. -/
def Issues (commands : List Command) (events : List WireEvent) : Prop :=
  ∃ issued cut?, issued ++ cut?.toList.map Prod.fst <+: commands ∧
    writes events = Command.writing issued cut?

theorem Issues.of_writes {commands : List Command} {events : List WireEvent}
    (h : writes events = []) : Issues commands events :=
  ⟨[], none, List.nil_prefix, h⟩

theorem Issues.append {commands : List Command} {events back : List WireEvent}
    (h : Issues commands events) (hback : writes back = []) :
    Issues commands (events ++ back) := by
  obtain ⟨issued, cut?, hissued, hwrites⟩ := h
  exact ⟨issued, cut?, hissued, by rw [writes_append, hback, List.append_nil, hwrites]⟩

theorem Issues.cons {c : Command} {commands : List Command} {front events : List WireEvent}
    (hfront : writes front = [.sent c.octets]) (h : Issues commands events) :
    Issues (c :: commands) (front ++ events) := by
  obtain ⟨issued, cut?, hissued, hwrites⟩ := h
  refine ⟨c :: issued, cut?, (List.prefix_cons_inj c).2 hissued, ?_⟩
  rw [writes_append, hfront, hwrites]
  rfl

theorem Issues.mono {commands more : List Command} {events : List WireEvent}
    (h : Issues commands events) (hmore : commands <+: more) : Issues more events := by
  obtain ⟨issued, cut?, hissued, hwrites⟩ := h
  exact ⟨issued, cut?, hissued.trans hmore, hwrites⟩

theorem Issues.one {c : Command} {events : List WireEvent}
    (h : writes events = [.sent c.octets]) : Issues [c] events :=
  ⟨[c], none, List.prefix_rfl, h⟩

theorem Issues.sends {commands : List Command} {events : List WireEvent}
    (h : Issues commands events) :
    ∃ issued, issued <+: commands ∧ sends events = issued.map Command.octets ∧
      ∀ line count, .sentPart line count ∈ events →
        ∃ c, issued ++ [c] <+: commands ∧ line = c.octets := by
  obtain ⟨issued, cut?, hissued, hwrites⟩ := h
  refine ⟨issued, (List.prefix_append _ _).trans hissued, ?_, fun line count hmem => ?_⟩
  · rw [← sends_writes, hwrites, Command.sends_writing]
  · have hwritten : .sentPart line count ∈ Command.writing issued cut? := by
      rw [← hwrites]
      exact List.mem_filter.2 ⟨hmem, rfl⟩
    cases cut? with
    | none => simp [Command.writing] at hwritten
    | some cut =>
        have hline : line = cut.1.octets ∧ count = cut.2 := by
          simpa [Command.writing] using hwritten
        exact ⟨cut.1, hissued, hline.1⟩

/-- What is written is written of the commands. -/
theorem Issues.lines {commands : List Command} {events : List WireEvent}
    (h : Issues commands events) :
    ∀ e ∈ events, ∀ line, e.line? = some line → ∃ c ∈ commands, line = c.octets := by
  obtain ⟨issued, cut?, hissued, hwrites⟩ := h
  intro e he line hline
  have hwritten : e ∈ Command.writing issued cut? := by
    rw [← hwrites]
    exact List.mem_filter.2 ⟨he, by rw [hline]; rfl⟩
  rcases List.mem_append.1 hwritten with hmem | hmem
  · obtain ⟨c, hc, rfl⟩ := List.mem_map.1 hmem
    exact ⟨c, hissued.subset (List.mem_append_left _ hc), (Option.some.inj hline).symm⟩
  · obtain ⟨cut, hcut, rfl⟩ := List.mem_map.1 hmem
    have hcommand := hissued.subset (List.mem_append_right _ (List.mem_map_of_mem hcut))
    exact ⟨cut.1, hcommand, (Option.some.inj hline).symm⟩

variable {c : Command} {tell : DataLink → List Notice} {d? : Option DataLink}
  {events : List WireEvent} {notices : List Notice} {last? : Option Reply}

theorem Said.issues (h : Said c events notices last?) : Issues [c] events := by
  cases h with
  | unsent => exact .of_writes rfl
  | cut count => exact ⟨[], some (c, count), List.prefix_rfl, rfl⟩
  | unanswered => exact .one rfl
  | answered reply => exact .one rfl

theorem Exchanged.issues (h : Exchanged c tell d? events notices last?) : Issues [c] events := by
  have hmoved (first : Reply) (sent : List (List UInt8)) (back : List WireEvent)
      (hback : writes back = []) :
      Issues [c] ([.sent c.octets, .received first] ++ sent.map .dataSent ++ back) := by
    refine Issues.append (.one ?_) hback
    rw [writes_append, (quiet_dataSent sent).writes_eq]
    rfl
  cases h with
  | declined hsaid _ => exact hsaid.issues.append rfl
  | broken sent _ => exact hmoved _ sent _ rfl
  | answered sent _ _ => exact hmoved _ sent _ rfl
  | finished sent last _ _ => exact hmoved _ sent _ rfl

theorem Course.issues (h : Course c tell d? events notices last?) :
    Issues [.epsv, c] events := by
  cases h with
  | unopened hsaid _ => exact hsaid.issues.mono (List.prefix_append [_] [_])
  | unconnected reply htried =>
      refine Issues.cons rfl (.of_writes ?_)
      rcases htried with rfl | ⟨target, rfl⟩ <;> rfl
  | opened _ hexchanged => exact Issues.cons rfl hexchanged.issues

theorem SignsIn.issues {user password : String} (h : SignsIn user password events notices last?) :
    Issues [.user user, .pass password] events := by
  cases h with
  | once hsaid => exact hsaid.issues.mono (List.prefix_append [_] [_])
  | asked _ hsaid => exact Issues.cons rfl hsaid.issues

/-! A line that is cut short is the end: no reply is read after it. -/

theorem Said.whole (h : Said c events notices last?) {bytes : List UInt8} {count : Nat}
    (hmem : .sentPart bytes count ∈ events) : last? = none := by
  cases h <;> simp at hmem ⊢

theorem Exchanged.whole (h : Exchanged c tell d? events notices last?) {bytes : List UInt8}
    {count : Nat} (hmem : .sentPart bytes count ∈ events) : last? = none := by
  cases h with
  | declined hsaid _ => exact hsaid.whole (by simpa using hmem)
  | _ => simp at hmem

theorem Course.whole (h : Course c tell d? events notices last?) {bytes : List UInt8}
    {count : Nat} (hmem : .sentPart bytes count ∈ events) : last? = none := by
  cases h with
  | unopened hsaid _ => exact hsaid.whole hmem
  | unconnected reply htried => rfl
  | opened _ hexchanged => exact hexchanged.whole (by simpa using hmem)

theorem SignsIn.whole {user password : String} (h : SignsIn user password events notices last?)
    {bytes : List UInt8} {count : Nat} (hmem : .sentPart bytes count ∈ events) :
    last? = none := by
  cases h with
  | once hsaid => exact hsaid.whole hmem
  | asked _ hsaid => exact hsaid.whole (by simpa using hmem)

variable {ν : Type} [Network ν] {s : Session ν}

theorem Ways.issues {call : Call} (h : Ways s call events notices last?) :
    Issues call.commands events := by
  cases h with
  | simple hcommand hsaid =>
      rw [Call.commands_of_command hcommand]
      exact hsaid.issues
  | quit hsaid => exact hsaid.issues
  | login hsigns => exact hsigns.issues
  | list hcourse => exact hcourse.issues
  | upload hcourse => exact hcourse.issues
  | download hcourse => exact hcourse.issues

theorem Ways.whole {call : Call} (h : Ways s call events notices last?) {bytes : List UInt8}
    {count : Nat} (hmem : .sentPart bytes count ∈ events) : last? = none := by
  cases h with
  | simple _ hsaid => exact hsaid.whole hmem
  | quit hsaid => exact hsaid.whole hmem
  | login hsigns => exact hsigns.whole hmem
  | list hcourse => exact hcourse.whole hmem
  | upload hcourse => exact hcourse.whole hmem
  | download hcourse => exact hcourse.whole hmem

theorem events_issues (hs : s.data = none) (c : Call) : Issues c.commands (s.events c) := by
  rcases events_ways hs c with ⟨events, notices, last?, hways, hstays, -⟩ | hquiet
  · rcases hstays.events hs with hes | hes
    · rw [hes]
      exact hways.issues
    · rw [hes]
      exact hways.issues.append s.quiet_parting.writes_eq
  · exact .of_writes hquiet.writes_eq

/-- A call during which a line is cut short fails, and the control connection is given up. -/
theorem run_cut (hs : s.data = none) {c : Call} {bytes : List UInt8} {count : Nat}
    (hmem : .sentPart bytes count ∈ s.events c) :
    (∃ e, (s.run c).1.verdict = .error e) ∧ (s.run c).2.control = none := by
  rcases events_ways hs c with ⟨events, notices, last?, hways, hstays, hends⟩ | hquiet
  · have hwritten : .sentPart bytes count ∈ events := by
      rcases hstays.events hs with hes | hes
      · rw [← hes]
        exact hmem
      · rw [hes] at hmem
        rcases List.mem_append.1 hmem with hmem | hmem
        · exact hmem
        · exact absurd hmem (s.quiet_parting.notMem rfl)
    obtain rfl := hways.whole hwritten
    refine ⟨?_, ?_⟩
    · unfold Concludes at hends
      cases hverdict : (s.run c).1.verdict with
      | error e => exact ⟨e, rfl⟩
      | ok reply? =>
          rw [hverdict] at hends
          obtain ⟨last, hlast, -⟩ := hends
          cases hlast
    · rcases hstays with ⟨-, -, hnothing | hread⟩ | ⟨hnone, -⟩
      · rw [hnothing] at hwritten
        cases hwritten
      · cases hread
      · exact hnone
  · exact absurd hmem (hquiet.notMem rfl)

/-- In every run, what a call writes is the commands that it issues, from its first one on,
each as its verb, its argument as it is and a line end; if the connection fails meanwhile, the
last one is cut short, the call fails and the connection is given up.  That is a line for each
command, and one more for each line feed in their arguments.  Without any, each line is a
command. -/
theorem moves_lines (options : Options) (observers : Observers) (files : FileTree)
    (network : ν) (ms : List (Move ν)) (c : Call) :
    let s := (start options observers files network).moves ms
    let bytes := sentBytes (s.during c)
    ∃ issued cut?, issued ++ cut?.toList.map Prod.fst <+: c.commands ∧
      writes (s.events c) = Command.writing issued cut? ∧
      bytes = (issued.map fun command => Utf8.encode (command.line ++ lineEnd)).flatten ++
        Command.part cut? ∧
      (splitLines bytes).1.length =
        issued.length + (issued.flatMap Command.argumentChars).count '\n' +
          (Command.part cut?).count lineFeed ∧
      (cut? = none → (splitLines bytes).2 = []) ∧
      (cut?.isSome → (∃ e, (s.run c).1.verdict = .error e) ∧ (s.run c).2.control = none) ∧
      ((∀ command ∈ c.commands, command.IsLine) →
        splitLines bytes = (issued.map Command.ended, Command.part cut?)) := by
  intro s bytes
  have hs : s.data = none := moves_data rfl ms
  obtain ⟨issued, cut?, hissued, hwrites⟩ := events_issues hs c
  have hbytes : bytes = (issued.map Command.octets).flatten ++ Command.part cut? := by
    rw [← Command.sentBytes_writing, ← hwrites, sentBytes_writes]
    exact sentBytes_eq _
  refine ⟨issued, cut?, hissued, hwrites, hbytes, ?_, fun hnone => ?_, fun hcut => ?_,
    fun hline => ?_⟩
  · rw [length_splitLines, hbytes, List.count_append, Command.count_flatten]
  · rw [hbytes, hnone, Command.flatten_octets]
    exact (congrArg (fun bytes => (splitLines bytes).2) (List.append_nil _)).trans
      (splitLines_joinLines_snd _)
  · obtain ⟨cut, rfl⟩ := Option.isSome_iff_exists.1 hcut
    have hmem : .sentPart cut.1.octets cut.2 ∈ writes (s.events c) := by
      rw [hwrites]
      simp [Command.writing]
    exact run_cut hs (List.mem_filter.1 hmem).1
  · rw [hbytes]
    refine Command.splitLines_writing (fun command hmem => hline command ?_)
      (fun cut hmem => hline cut.1 ?_)
    · exact hissued.subset (List.mem_append_left _ hmem)
    · refine hissued.subset (List.mem_append_right _ (List.mem_map_of_mem ?_))
      exact Option.mem_toList.2 hmem

/-- A line feed in an argument makes the server see a command that was not issued. -/
theorem changeDir_two_lines :
    let s := (start .default .empty ⟨[], []⟩ (Speaker.silent terse)).moves
      [.call (.connect "host" 21)]
    let c := Call.changeDir "pub\r\nDELE notes.txt"
    sends (s.events c) = [(Command.cwd "pub\r\nDELE notes.txt").octets] ∧
      splitLines (sentBytes (s.during c)) =
        ([(Command.cwd "pub").ended, (Command.dele "notes.txt").ended], []) ∧
      (splitLines (sentBytes (s.during c))).1.length ≠ (sends (s.events c)).length := by
  decide +kernel

end Session
end FtpClient
