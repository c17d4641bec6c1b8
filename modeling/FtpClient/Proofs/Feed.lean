import FtpClient.Proofs.Alignment
import FtpClient.Proofs.Subscriptions
import FtpClient.Proofs.Ways

/-
What observers hear of a call, and what its caller gets.

Both agree with what was read: an observer hears of each reply once and in order, of a
listing behind the reply to `LIST`, and at last of the failure that the caller gets; and
where there is no failure, the last reply decides what the caller gets.
-/

namespace FtpClient

/-! ## Observers -/

/-- What an observer hears, in order. -/
def heardBy (id : ObserverId) (entries : List Entry) : List Notice :=
  (heardNotices entries).filterMap fun h => if h.1 = id then some h.2 else none

namespace Observers

theorem nodup_subscribe {o : Observers} (h : o.handles.Nodup) (id : ObserverId) :
    (o.subscribe id).handles.Nodup := by
  rw [subscribe_eq]
  exact nodup_enlist (h.filter _)

theorem nodup_unsubscribe {o : Observers} (h : o.handles.Nodup) (id : ObserverId) :
    (o.unsubscribe id).handles.Nodup :=
  (h.filter _).filter _

/-- An observer that is listed once hears a notice once. -/
theorem filterMap_notify {o : Observers} {id : ObserverId} (hnodup : o.handles.Nodup)
    (hid : id ∈ o.listeners) (notice : Notice) :
    (o.notify notice).filterMap (fun h => if h.1 = id then some h.2 else none) = [notice] := by
  have hlisteners : o.listeners.Nodup := hnodup.filter _
  unfold notify
  generalize o.listeners = ids at hid hlisteners
  induction ids with
  | nil => cases hid
  | cons other ids ih =>
      obtain ⟨hother, hids⟩ := List.nodup_cons.1 hlisteners
      rw [List.map_cons, List.filterMap_cons]
      rcases List.mem_cons.1 hid with rfl | hid
      · rw [if_pos rfl, List.filterMap_eq_nil_iff.2]
        intro h hmem
        obtain ⟨listener, hlistener, rfl⟩ := List.mem_map.1 hmem
        exact if_neg fun heq : listener = id => hother (heq ▸ hlistener)
      · have hne : other ≠ id := fun heq => hother (heq ▸ hid)
        rw [if_neg hne]
        exact ih hid hids

theorem filterMap_notices {o : Observers} {id : ObserverId} (hnodup : o.handles.Nodup)
    (hid : id ∈ o.listeners) (notices : List Notice) :
    (notices.flatMap o.notify).filterMap (fun h => if h.1 = id then some h.2 else none) =
      notices := by
  induction notices with
  | nil => rfl
  | cons notice notices ih =>
      rw [List.flatMap_cons, List.filterMap_append, ih, filterMap_notify hnodup hid]
      rfl

end Observers

/-! ## What is told of replies -/

/-- Whether a reply is one to a line that asks for a listing. -/
def Given.isForList (g : Given) : Bool :=
  match g.occasion with
  | .line octets => Command.verbOf octets = Utf8.encode "LIST"
  | .unasked | .greeting => false

def Given.notice (g : Given) : Notice :=
  .reply g.reply.text

/-- What is told of replies, where a listing is told of behind the first reply to the line
that asks for it. -/
def told (listing? : Option String) : List Given → List Notice
  | [] => []
  | g :: talk =>
      if g.isForList then g.notice :: listing?.toList.map .reply ++ talk.map Given.notice
      else g.notice :: told listing? talk

theorem told_none (talk : List Given) : told none talk = talk.map Given.notice := by
  induction talk with
  | nil => rfl
  | cons g talk ih =>
      rw [told, ih]
      exact ite_self _

/-- What is told of a failure. -/
def Call.Result.complaint (result : Call.Result) : List Notice :=
  match result.verdict with
  | .ok _ => []
  | .error e => [.failure e.message]

theorem conversation_dataSent (occasion : Occasion) (sent : List (List UInt8))
    (events : List WireEvent) :
    conversation occasion (sent.map .dataSent ++ events) = conversation occasion events := by
  induction sent with
  | nil => rfl
  | cons bytes sent ih => exact ih

namespace Session

variable {c : Command} {tell : DataLink → List Notice} {d? : Option DataLink}
  {events : List WireEvent} {notices : List Notice} {last? : Option Reply}
  {text? : Option String}

theorem Said.talk (h : Said c events notices last?) (occasion : Occasion) :
    conversation occasion events = last?.toList.map (⟨.line c.octets, ·⟩) ∧
      notices = last?.toList.map fun reply => .reply reply.text := by
  cases h <;> exact ⟨rfl, rfl⟩

/-- Of a refusal nothing but its reply is told. -/
theorem Said.told (h : Said c events notices last?) (occasion : Occasion) :
    told none (conversation occasion events) = notices := by
  obtain ⟨htalk, hnotices⟩ := h.talk occasion
  rw [told_none, htalk, hnotices]
  cases last? <;> rfl

theorem Exchanged.told (h : Exchanged c tell d? events notices last?)
    (htell : ∀ d, d? = some d → tell d = text?.toList.map .reply)
    (hnone : d? = none → text? = none)
    (hlist : text?.isSome → Command.verbOf c.octets = Utf8.encode "LIST")
    (occasion : Occasion) : told text? (conversation occasion events) = notices := by
  -- The reply to the command is told of first, and behind it the listing, if there is one.
  have hfirst (first : Reply) (d : DataLink) (talk : List Given) (hd : d? = some d) :
      FtpClient.told text? (⟨.line c.octets, first⟩ :: talk) =
        .reply first.text :: tell d ++ talk.map Given.notice := by
    unfold FtpClient.told
    by_cases hfor : Command.verbOf c.octets = Utf8.encode "LIST"
    · rw [if_pos (by simpa [Given.isForList] using hfor), htell d hd]
      rfl
    · have hnothing : text? = none := by
        cases hl : text? with
        | none => rfl
        | some text => exact absurd (hlist (by rw [hl]; rfl)) hfor
      rw [if_neg (by simpa [Given.isForList] using hfor), htell d hd, hnothing, told_none]
      rfl
  cases h with
  | declined hsaid _ =>
      rw [hnone rfl, conversation_append]
      simpa [conversation] using hsaid.told occasion
  | @broken first d sent _ =>
      rw [List.append_assoc, conversation_append, conversation_dataSent]
      simpa [conversation] using hfirst first d [] rfl
  | @answered first d sent _ _ =>
      rw [List.append_assoc, conversation_append, conversation_dataSent]
      simpa [conversation] using hfirst first d [] rfl
  | @finished first d sent last _ _ =>
      rw [List.append_assoc, conversation_append, conversation_dataSent]
      simpa [conversation, occasionAfter, Given.notice] using
        hfirst first d [⟨.line c.octets, last⟩] rfl

theorem epsv_notForList (reply : Reply) :
    Given.isForList ⟨.line Command.epsv.octets, reply⟩ = false := by
  have hverb : Command.verbOf Command.epsv.octets ≠ Utf8.encode "LIST" := by
    rw [Ne, Command.verbOf_eq_encode (by simp [Command.verbs])]
    simp [Command.verb]
  simpa [Given.isForList] using hverb

theorem Course.told (h : Course c tell d? events notices last?)
    (htell : ∀ d, d? = some d → tell d = text?.toList.map .reply)
    (hnone : d? = none → text? = none)
    (hlist : text?.isSome → Command.verbOf c.octets = Utf8.encode "LIST")
    (occasion : Occasion) : told text? (conversation occasion events) = notices := by
  cases h with
  | unopened hsaid _ =>
      rw [hnone rfl]
      exact hsaid.told occasion
  | @unconnected reply tried htried =>
      rw [hnone rfl, told_none]
      rcases htried with rfl | ⟨target, rfl⟩ <;> rfl
  | @opened reply target d? events notices last? _ hexchanged =>
      have hlater := hexchanged.told htell hnone hlist (.line Command.epsv.octets)
      rw [← hlater]
      show (if _ then _ else _) = _
      rw [epsv_notForList]
      rfl

theorem SignsIn.told {user password : String} (h : SignsIn user password events notices last?)
    (occasion : Occasion) : told none (conversation occasion events) = notices := by
  cases h with
  | once hsaid => exact hsaid.told occasion
  | @asked reply events notices last? _ hsaid =>
      have hlater := hsaid.told (.line (Command.user user).octets)
      rw [← hlater, told_none, told_none]
      rfl

/-! ## The last reply -/

theorem Said.getLast? {last : Reply} (h : Said c events notices (some last))
    (occasion : Occasion) :
    (conversation occasion events).getLast? = some ⟨.line c.octets, last⟩ := by
  rw [(h.talk occasion).1]
  rfl

theorem Exchanged.getLast? {last : Reply} (h : Exchanged c tell d? events notices (some last))
    (occasion : Occasion) :
    (conversation occasion events).getLast? = some ⟨.line c.octets, last⟩ := by
  cases h with
  | declined hsaid _ =>
      rw [conversation_append, ← hsaid.getLast? occasion]
      simp [conversation]
  | answered sent _ _ =>
      rw [List.append_assoc, conversation_append, conversation_dataSent]
      rfl
  | @finished first d sent _ _ _ =>
      rw [List.append_assoc, conversation_append, conversation_dataSent]
      rfl

theorem Course.getLast? {last : Reply} (h : Course c tell d? events notices (some last))
    (occasion : Occasion) :
    ∃ g, (conversation occasion events).getLast? = some g ∧ g.reply = last := by
  cases h with
  | unopened hsaid _ => exact ⟨_, hsaid.getLast? occasion, rfl⟩
  | opened _ hexchanged =>
      refine ⟨⟨.line c.octets, last⟩, ?_, rfl⟩
      rw [conversation_append, List.getLast?_append, hexchanged.getLast?]
      rfl

theorem SignsIn.getLast? {user password : String} {last : Reply}
    (h : SignsIn user password events notices (some last)) (occasion : Occasion) :
    ∃ g, (conversation occasion events).getLast? = some g ∧ g.reply = last := by
  cases h with
  | once hsaid => exact ⟨_, hsaid.getLast? occasion, rfl⟩
  | asked _ hsaid =>
      refine ⟨⟨.line (Command.pass password).octets, last⟩, ?_, rfl⟩
      rw [conversation_append, List.getLast?_append, hsaid.getLast?]
      rfl

/-! ## Calls -/

variable {ν : Type} [Network ν] {s t : Session ν}

/-- The listing that arrives during a call. -/
def listing? (s : Session ν) (c : Call) : Option String :=
  (s.link? c).bind DataLink.listing?

theorem Ways.told {call : Call} (h : Ways s call events notices last?) (occasion : Occasion) :
    told (s.listing? call) (conversation occasion events) = notices := by
  have hlist (path : Option String) :
      Command.verbOf (Command.list path).octets = Utf8.encode "LIST" := Command.verbOf_octets _
  cases h with
  | simple hcommand hsaid =>
      have hnone : s.listing? call = none := by cases call <;> cases hcommand <;> rfl
      rw [hnone]
      exact hsaid.told occasion
  | quit hsaid => exact hsaid.told occasion
  | login hsigns => exact hsigns.told occasion
  | @list path _ _ _ hcourse =>
      refine hcourse.told (fun d hd => ?_) (fun hnone => ?_) (fun _ => hlist path) occasion
      · simp [Session.listing?, link?, hd]
      · simp [Session.listing?, link?, hnone]
  | upload hcourse =>
      exact hcourse.told (fun _ _ => rfl) (fun _ => rfl) (fun h => nomatch h) occasion
  | download hcourse =>
      exact hcourse.told (fun _ _ => rfl) (fun _ => rfl) (fun h => nomatch h) occasion

theorem Ways.getLast? {call : Call} {last : Reply} (h : Ways s call events notices (some last))
    (occasion : Occasion) :
    ∃ g, (conversation occasion events).getLast? = some g ∧ g.reply = last := by
  cases h with
  | simple _ hsaid => exact ⟨_, hsaid.getLast? occasion, rfl⟩
  | quit hsaid => exact ⟨_, hsaid.getLast? occasion, rfl⟩
  | login hsigns => exact hsigns.getLast? occasion
  | list hcourse => exact hcourse.getLast? occasion
  | upload hcourse => exact hcourse.getLast? occasion
  | download hcourse => exact hcourse.getLast? occasion

/-- What a call comes to, by what was read during it. -/
structure Feeds (s : Session ν) (c : Call) (talk : List Given) : Prop where
  hears : Hears s (told (s.listing? c) talk ++ (s.run c).1.complaint) (s.run c).2
  agrees : ∀ reply?, (s.run c).1.verdict = .ok reply? →
    ∃ g, talk.getLast? = some g ∧ Agrees (s.link? c) g.reply (s.run c).1

omit [Network ν] in
theorem conversation_parting (occasion : Occasion) (s : Session ν) :
    conversation occasion s.parting = [] := by
  unfold parting
  cases s.control <;> rfl

theorem conversation_trials (occasion : Occasion) (tried : List Endpoint) :
    conversation occasion (trials tried) = [] := by
  induction tried generalizing occasion with
  | nil => rfl
  | cons target tried ih => exact ih .greeting

theorem run_feeds_of_writes (hs : s.data = none) {c : Call} (hc : c.isOrdinary ∨ c = .quit) :
    Feeds s c (conversation .unasked (s.events c)) := by
  obtain ⟨events, notices, last?, hways, hstays, hconcludes⟩ := run_ways hs hc
  have htalk : conversation .unasked (s.events c) = conversation .unasked events := by
    rcases hstays.events hs with hevents | hevents
    · rw [hevents]
    · rw [hevents, conversation_append, conversation_parting, List.append_nil]
  rw [htalk]
  unfold Concludes at hconcludes
  cases hv : (s.run c).1.verdict with
  | ok reply? =>
      rw [hv] at hconcludes
      obtain ⟨last, rfl, hagrees, hhears⟩ := hconcludes
      refine ⟨?_, fun _ _ => ?_⟩
      · rw [hways.told, Call.Result.complaint, hv, List.append_nil]
        exact hhears
      · obtain ⟨g, hlast, hreply⟩ := hways.getLast? .unasked
        exact ⟨g, hlast, by rw [hreply]; exact hagrees⟩
  | error e =>
      rw [hv] at hconcludes
      refine ⟨?_, fun reply? h => by rw [hv] at h; cases h⟩
      rw [hways.told, Call.Result.complaint, hv]
      exact hconcludes

/-! ## Opening -/

theorem dial_hears (target : Endpoint) (s : Session ν) : Hears s [] (s.dial target).2 := by
  unfold dial
  generalize Network.connect target s.network = attempted
  obtain ⟨attempt, network⟩ := attempted
  dsimp only
  cases attempt.underLimits s.options with
  | ok first =>
      have hset (c : Option ControlLink) : Hears s [] { s with control := c, network } :=
        .congr rfl rfl
      exact (hset _).trans (.wire _ _)
  | error cause =>
      by_cases he : attempt.isEstablished
      · have hhung : Hears s [] { s with network := Network.hangUp network } := .congr rfl rfl
        simp only [he, if_true]
        exact (hhung.trans (.wire _ _)).trans (.wire _ _)
      · simp only [he]
        exact .congr rfl rfl

theorem dialAny_hears (port : UInt16) (cause : SystemError) (addresses : List String)
    (s : Session ν) : Hears s [] (dialAny port cause addresses s).session := by
  induction addresses generalizing s cause with
  | nil => exact .refl s
  | cons address rest ih =>
      unfold dialAny
      dsimp only
      generalize hl : s.log .trace .control
        ("Trying " ++ Endpoint.toString ⟨address, port⟩) = s₁
      have hlog : Hears s [] s₁ := hl ▸ .log s _ _ _
      have hdial := hlog.trans (s₁.dial_hears ⟨address, port⟩)
      generalize s₁.dial ⟨address, port⟩ = dialled at hdial ⊢
      obtain ⟨value, t⟩ := dialled
      cases value with
      | ok _ => exact hdial
      | error cause' => exact (hdial.trans (.log t _ _ _)).trans (ih cause' _)

theorem openControl_hears (host : String) (port : UInt16) (s : Session ν) :
    Hears s [] (s.openControl host port).session := by
  unfold openControl
  dsimp only
  generalize hl : s.closeControl.log .debug .control
    ("Connecting to " ++ host ++ ":" ++ PortNumber.toString port) = s₁
  have hclosed : Hears s [] s₁ := hl ▸ s.closeControl_hears.trans (.log _ _ _ _)
  cases Network.resolve s₁.network host with
  | error cause => exact hclosed
  | ok addresses =>
      have hdialled := hclosed.trans (dialAny_hears port .noAddress addresses s₁)
      dsimp only
      generalize dialAny port .noAddress addresses s₁ = o at hdialled ⊢
      obtain ⟨value, t⟩ := o
      cases value with
      | ok _ => exact hdialled.trans (.log t _ _ _)
      | error e => exact hdialled

theorem connect_hears (host : String) (port : UInt16) (s : Session ν) :
    (s.connect host port).Ends (fun answer t => Hears s [.reply answer.reply.text] t)
      (fun e t => Hears s [.failure e.message] t) := by
  unfold connect
  dsimp only
  generalize hl : s.log .debug .client
    ("Opening session with " ++ host ++ ":" ++ PortNumber.toString port) = s₁
  have hstart : Hears s [] s₁ := hl ▸ .log s _ _ _
  have hopened := hstart.trans (s₁.openControl_hears host port)
  have hgreeted : ((s₁.openControl host port).andThen fun _ t =>
      ((t.log .debug .client "Reading server greeting...").receiveReply).map Answer.ofReply).Ends
      (fun answer t => Hears s [.reply answer.reply.text] t) (fun _ t => Hears s [] t) := by
    generalize s₁.openControl host port = o at hopened ⊢
    obtain ⟨value, t⟩ := o
    cases value with
    | error e => exact hopened
    | ok _ =>
        have htold := hopened.trans (.log t .debug .client "Reading server greeting...")
        have hread := receiveReply_adds (t.log .debug .client "Reading server greeting...")
        refine Outcome.Ends.map (hread.mono ?_ ?_)
        · intro greeting u hu
          rw [Answer.reply_ofReply]
          exact htold.trans hu.toHears
        · intro e u hends
          exact htold.trans hends.1.toHears
  exact guarded_of_ends hgreeted fun e t ht => ht.trans (report_hears e t)

theorem run_feeds_connect (hs : s.data = none) (host : String) (port : UInt16) :
    Feeds s (.connect host port) (conversation .unasked (s.events (.connect host port))) := by
  have hends := connect_ends host port s
  have hhears := connect_hears host port s
  have hrun : s.run (.connect host port) = replied (s.connect host port) := rfl
  cases hv : (s.connect host port).value with
  | ok answer =>
      obtain ⟨-, tried, target, greeting, hanswer, -, hwires⟩ := hends.of_ok hv
      have htalk : conversation .unasked (s.events (.connect host port)) =
          [⟨.greeting, greeting⟩] := by
        rw [List.append_assoc, List.append_assoc] at hwires
        rw [events_eq hs (c := .connect host port) hwires, conversation_append, conversation_append,
          conversation_parting, conversation_trials]
        rfl
      rw [htalk]
      have hheard := hhears.of_ok hv
      refine ⟨?_, fun _ _ => ⟨_, rfl, ?_⟩⟩
      · rw [hrun]
        rw [hanswer, Answer.reply_ofReply] at hheard
        simpa [Call.Result.complaint, Call.Result.verdict, replied, hv, told, Given.isForList,
          Given.notice, Except.map] using hheard
      · show (s.connect host port).value = .ok (Answer.ofReply greeting)
        rw [hv, hanswer]
  | error e =>
      obtain ⟨-, -, tried, hwires⟩ := hends.of_error hv
      have htalk : conversation .unasked (s.events (.connect host port)) = [] := by
        rw [List.append_assoc] at hwires
        rw [events_eq hs (c := .connect host port) hwires, conversation_append,
          conversation_parting, conversation_trials]
        rfl
      rw [htalk]
      have hheard := hhears.of_error hv
      refine ⟨?_, fun reply? hreply => ?_⟩
      · rw [hrun]
        simpa [Call.Result.complaint, Call.Result.verdict, replied, hv, told, Except.map]
          using hheard
      · rw [hrun] at hreply
        simp [Call.Result.verdict, replied, hv, Except.map] at hreply

/-! ## Every run -/

theorem isOpen_observers (s : Session ν) : s.isOpen.2.observers = s.observers := by
  have hguarded : (guarded s.probe).Ends (fun _ t => t.observers = s.observers)
      (fun _ t => t.observers = s.observers) := by
    refine guarded_of_ends (s.probe_ends.mono (fun _ _ h => h.1.observers) fun _ _ h => h) ?_
    intro e t hends
    obtain ⟨htalks, -, he⟩ := hends
    exact (report_breaking he t).1.observers.trans htalks.observers
  unfold isOpen
  generalize guarded s.probe = o at hguarded ⊢
  obtain ⟨value, t⟩ := o
  cases value with
  | ok isThere => exact hguarded
  | error e => exact hguarded

/-- Who is subscribed does not change during a call. -/
theorem run_observers (hs : s.data = none) (c : Call) : (s.run c).2.observers = s.observers := by
  by_cases hwrites : c.isOrdinary ∨ c = .quit
  · exact (run_feeds_of_writes hs hwrites).hears.observers
  · cases c with
    | connect host port => exact (connect_keeps host port s).observers
    | isOpen => exact isOpen_observers s
    | reset => exact s.resetControl_spec.1.observers
    | _ => simp [Call.isOrdinary] at hwrites

/-- A move after which only the client has changed its list of observers.  Observers may be
made and dropped meanwhile. -/
def KeepsHandles (s : Session ν) : Move ν → Prop
  | .elapse around => around.observers.handles = s.observers.handles
  | .call _ | .subscribe _ | .unsubscribe _ => True

theorem move_nodup {m : Move ν} (hs : s.data = none) (h : s.observers.handles.Nodup)
    (hm : KeepsHandles s m) : (s.move m).observers.handles.Nodup := by
  cases m with
  | call c =>
      show (s.run c).2.observers.handles.Nodup
      rw [run_observers hs c]
      exact h
  | subscribe id => exact Observers.nodup_subscribe h id
  | unsubscribe id => exact Observers.nodup_unsubscribe h id
  | elapse around =>
      show around.observers.handles.Nodup
      rw [hm]
      exact h

theorem Hears.heardBy {notices : List Notice} {c : Call} {id : ObserverId} (hs : s.data = none)
    (hnodup : s.observers.handles.Nodup) (hid : id ∈ s.observers.listeners)
    (h : Hears s notices (s.run c).2) : heardBy id (s.during c) = notices := by
  have hheard := h.heard
  rw [journal_run hs c, heardNotices_append] at hheard
  rw [FtpClient.heardBy, List.append_cancel_left hheard]
  exact Observers.filterMap_notices hnodup hid notices

/-- In every run, whoever is subscribed and alive hears during a call that opens a connection
or writes commands one notice for each reply that is read, the listing behind the reply to the
command that asked for it if it arrives whole and is not empty, at last the failure if the call
fails, and nothing else.  If it does not fail, the last reply decides the result. -/
theorem moves_feed (options : Options) (observers : Observers) (files : FileTree) (network : ν)
    (hobservers : observers.handles.Nodup) (ms : List (Move ν))
    (hms : Along KeepsHandles (start options observers files network) ms) (c : Call)
    (hisOpen : c ≠ .isOpen) (hreset : c ≠ .reset) :
    let s := (start options observers files network).moves ms
    let talk := conversation .unasked (s.events c)
    (∀ id ∈ s.observers.listeners, heardBy id (s.during c) =
      told (s.listing? c) talk ++ (s.run c).1.complaint) ∧
    (∀ reply?, (s.run c).1.verdict = .ok reply? →
      ∃ g, talk.getLast? = some g ∧ Agrees (s.link? c) g.reply (s.run c).1) := by
  intro s talk
  have hkept := moves_preserve
    (p := fun t : Session ν => t.data = none ∧ t.observers.handles.Nodup)
    (fun t m ht hm => ⟨move_data ht.1 m, move_nodup ht.1 ht.2 hm⟩)
    (s := start options observers files network) ⟨rfl, hobservers⟩ hms
  obtain ⟨hs, hnodup⟩ : s.data = none ∧ s.observers.handles.Nodup := hkept
  have hfeeds : Feeds s c talk := by
    by_cases hwrites : c.isOrdinary ∨ c = .quit
    · exact run_feeds_of_writes hs hwrites
    · cases c with
      | connect host port => exact run_feeds_connect hs host port
      | isOpen => exact absurd rfl hisOpen
      | reset => exact absurd rfl hreset
      | _ => simp [Call.isOrdinary] at hwrites
  exact ⟨fun id hid => hfeeds.hears.heardBy hs hnodup hid, hfeeds.agrees⟩

def watched : List (Move (Speaker terse)) :=
  [.subscribe 0, .call (.connect "host" 21)]

theorem moves_feed_terse :
    let observers := Observers.empty.create.2
    observers.handles.Nodup ∧
    Along KeepsHandles (start .default observers ⟨[], []⟩ (.silent terse)) watched ∧
    (Call.list none ≠ .isOpen ∧ Call.list none ≠ .reset) ∧
    let s := (start .default observers ⟨[], []⟩ (Speaker.silent terse)).moves watched
    heardBy 0 (s.during (.list none)) = [.reply "229 Port (|||4000|)\r\n",
      .reply "150 Wait\r\n", .reply "file\r\n", .reply "226 Sent\r\n"] ∧
    Agrees (s.link? (.list none)) ⟨226, ["226 Sent"]⟩ (s.run (.list none)).1 := by
  intro observers
  have hobservers : observers.handles.Nodup := List.nodup_nil
  have hms : Along KeepsHandles (start .default observers ⟨[], []⟩ (.silent terse)) watched :=
    ⟨trivial, trivial, trivial⟩
  have hisOpen : Call.list none ≠ .isOpen := by decide
  have hreset : Call.list none ≠ .reset := by decide
  have h := moves_feed .default observers ⟨[], []⟩ (Speaker.silent terse) hobservers watched
    hms (.list none) hisOpen hreset
  obtain ⟨hheard, hagrees⟩ := h
  refine ⟨hobservers, hms, ⟨hisOpen, hreset⟩, ?_, ?_⟩
  · rw [hheard 0 (by decide +kernel)]
    decide +kernel
  · obtain ⟨g, hlast, hg⟩ := hagrees none (by decide +kernel)
    have hfarewell : g.reply = ⟨226, ["226 Sent"]⟩ := by
      have hreplies := congrArg (Option.map Given.reply) hlast
      exact Option.some.inj (hreplies.symm.trans (by decide +kernel))
    rw [← hfarewell]
    exact hg

end Session
end FtpClient
