import FtpClient.Proofs.Courses

/-
The ways of the operations.

What an operation does is what its parts do, with a report of its failure at the end.
`Ways` lists for each call what can happen on the connections and what observers are then
told, and `run_ways` says that every call that writes commands goes one of them: which
failures leave the control connection, and how the last reply decides the result.
-/

namespace FtpClient
namespace Session

variable {ν : Type} {s t : Session ν}

/-! ## The end of an operation -/

/-- An outcome that has gone one of the ways of `course`, and of which a failure has been
reported.  One that breaks the session has ended the control connection. -/
def Went {α : Type} (s : Session ν)
    (course : List WireEvent → List Notice → Option Reply → Prop) (answers : α → Reply → Prop)
    (o : Outcome ν α) : Prop :=
  o.Ends
    (fun a t => ∃ events notices last, course events notices (some last) ∧ answers a last ∧
      Adds s events notices t)
    (fun e t => ∃ events notices last?, course events notices last? ∧
      Hears s (notices ++ [.failure e.message]) t ∧
      if e.breaksSession then t.control = none ∧ t.wires = s.wires ++ events ++ s.parting
      else (events = [] ∨ last?.isSome) ∧ t.peer = s.peer ∧ t.wires = s.wires ++ events)

/-- A result that the last reply decides, with the listing that was delivered. -/
def Agrees (d? : Option DataLink) (last : Reply) : Call.Result → Prop
  | .replied value => value = .ok (Answer.ofReply last)
  | .listed value => ∃ answer, value = .ok answer ∧
      Fits (fun d text => d.delivered? = some text) d? answer last
  | .transferred value => ∃ answer, value = .ok answer ∧
      answer.refusal? = (Answer.ofReply last).refusal?
  | .held _ | .done => False

/-- The end of a call: observers were told `notices`, and of the failure, if any; without
one there was a last reply, which decides the result. -/
def Concludes (s : Session ν) (d? : Option DataLink) (notices : List Notice)
    (last? : Option Reply) (result : Call.Result) (t : Session ν) : Prop :=
  match result.verdict with
  | .ok _ => ∃ last, last? = some last ∧ Agrees d? last result ∧ Hears s notices t
  | .error e => Hears s (notices ++ [.failure e.message]) t

/-- What is left of the control connection after `events`: it is still there, or it was
given up after them. -/
def Stays (s : Session ν) (events : List WireEvent) (last? : Option Reply) (t : Session ν) :
    Prop :=
  (t.peer = s.peer ∧ t.wires = s.wires ++ events ∧ (events = [] ∨ last?.isSome)) ∨
    (t.control = none ∧ t.wires = s.wires ++ events ++ s.parting)

/-- An outcome before which observers were told `notices`, and of the failure, if any;
without one there was a last reply, which decides the value. -/
def Decided {α : Type} (s : Session ν) (notices : List Notice) (last? : Option Reply)
    (answers : α → Reply → Prop) (o : Outcome ν α) : Prop :=
  o.Ends (fun a t => ∃ last, last? = some last ∧ answers a last ∧ Hears s notices t)
    (fun e t => Hears s (notices ++ [.failure e.message]) t)

theorem Went.stays {α : Type} {course : List WireEvent → List Notice → Option Reply → Prop}
    {answers : α → Reply → Prop} {o : Outcome ν α} (h : Went s course answers o) :
    ∃ events notices last?, course events notices last? ∧ Stays s events last? o.session ∧
      Decided s notices last? answers o := by
  obtain ⟨value, t⟩ := o
  cases value with
  | ok a =>
      obtain ⟨events, notices, last, hcourse, ha, ht⟩ := h
      exact ⟨events, notices, some last, hcourse, Or.inl ⟨ht.peer, ht.wires, Or.inr rfl⟩,
        last, rfl, ha, ht.toHears⟩
  | error e =>
      obtain ⟨events, notices, last?, hcourse, hhears, hends⟩ := h
      refine ⟨events, notices, last?, hcourse, ?_, hhears⟩
      by_cases he : e.breaksSession
      · rw [if_pos he] at hends
        exact Or.inr hends
      · rw [if_neg he] at hends
        exact Or.inl ⟨hends.2.1, hends.2.2, hends.1⟩

theorem concludes_replied {o : Outcome ν (Answer Reply)} {notices : List Notice}
    {last? : Option Reply} (d? : Option DataLink)
    (h : Decided s notices last? (fun answer last => answer = Answer.ofReply last) o) :
    Concludes s d? notices last? (replied o).1 (replied o).2 := by
  obtain ⟨value, t⟩ := o
  cases value with
  | ok a =>
      obtain ⟨last, hlast, rfl, ht⟩ := h
      exact ⟨last, hlast, rfl, ht⟩
  | error e => exact h

theorem concludes_listed {o : Outcome ν (Answer String)} {notices : List Notice}
    {last? : Option Reply} {d? : Option DataLink}
    (h : Decided s notices last? (Fits (fun d text => d.delivered? = some text) d?) o) :
    Concludes s d? notices last? (listed o).1 (listed o).2 := by
  obtain ⟨value, t⟩ := o
  cases value with
  | ok a =>
      obtain ⟨last, hlast, ha, ht⟩ := h
      exact ⟨last, hlast, ⟨a, rfl, ha⟩, ht⟩
  | error e => exact h

theorem concludes_transferred {o : Outcome ν (Answer Nat)} {notices : List Notice}
    {last? : Option Reply} (d? : Option DataLink)
    (h : Decided s notices last?
      (fun answer last => answer.refusal? = (Answer.ofReply last).refusal?) o) :
    Concludes s d? notices last? (transferred o).1 (transferred o).2 := by
  obtain ⟨value, t⟩ := o
  cases value with
  | ok a =>
      obtain ⟨last, hlast, ha, ht⟩ := h
      exact ⟨last, hlast, ⟨a, rfl, ha⟩, ht⟩
  | error e => exact h

theorem parting_congr (h : t.peer = s.peer) : t.parting = s.parting := by
  cases hs : s.control with
  | none =>
      have ht : t.control = none := by rw [← peer_eq_none, h, peer_eq_none, hs]
      rw [parting_of_none ht, parting_of_none hs]
  | some c =>
      have hpeer : s.peer = some c.peer := by simp [peer, hs]
      rw [parting_of_peer hpeer, parting_of_peer (h.trans hpeer)]

/-! ## Operations -/

/-- The ways of a login.  The password is sent only in answer to a reply that asks for it. -/
inductive SignsIn (user password : String) :
    List WireEvent → List Notice → Option Reply → Prop where
  | once {events : List WireEvent} {notices : List Notice} {last? : Option Reply} :
      Said (.user user) events notices last? → SignsIn user password events notices last?
  | asked {reply : Reply} {events : List WireEvent} {notices : List Notice}
      {last? : Option Reply} : reply.code = 331 → Said (.pass password) events notices last? →
      SignsIn user password
        ([.sent (Command.user user).octets, .received reply] ++ events)
        (.reply reply.text :: notices) last?

theorem finishDownload_goes {course : List WireEvent → List Notice → Option Reply → Prop}
    {o : Outcome ν (Answer Nat)} (path : String) (place : Place) (existed : Bool)
    (h : Goes s course (fun answer last => answer.refusal? = (Answer.ofReply last).refusal?) o) :
    Goes s course (fun answer last => answer.refusal? = (Answer.ofReply last).refusal?)
      (finishDownload path place existed o) := by
  obtain ⟨value, t⟩ := o
  have herased : Adds t [] [] { t.log .trace .client ("Removing incomplete file " ++ path) with
      files := t.files.erase place } := (Adds.log t _ _ _).still (.setFiles _ _)
  cases value with
  | error e =>
      obtain ⟨events, notices, last?, hcourse, hbegun, ht⟩ := h
      cases existed with
      | true => exact ⟨events, notices, last?, hcourse, hbegun, ht⟩
      | false => exact ⟨events, notices, last?, hcourse, hbegun, ht.still herased⟩
  | ok answer =>
      obtain ⟨events, notices, last, hcourse, hanswer, ht⟩ := h
      cases answer with
      | accepted count =>
          unfold finishDownload
          dsimp only
          cases t.files.truncate place count with
          | error cause =>
              exact ⟨events, notices, some last, hcourse, Or.inr (Or.inr rfl), ht⟩
          | ok files =>
              exact ⟨events, notices, last, hcourse, hanswer, ht.still (.setFiles t files)⟩
      | refused reply =>
          cases existed with
          | true => exact ⟨events, notices, last, hcourse, hanswer, ht⟩
          | false => exact ⟨events, notices, last, hcourse, hanswer, ht.still herased⟩

variable [Network ν]

/-- The data connection on which a listing arrives, if it comes to that. -/
def listingLink (path : Option String) (s : Session ν) : Option DataLink :=
  (s.log .debug .client ("Listing " ++ path.getD "working directory")).carrying (.list path)

/-- The data connection on which a file arrives, if it comes to that.  Without a local file to
write nothing is asked for. -/
def fetchLink (remote path : String) (s : Session ν) : Option DataLink :=
  let s := s.log .debug .client ("Downloading " ++ remote ++ " to " ++ path)
  match s.files.openForWriting path s.options.overwrite with
  | .error _ => none
  | .ok (_, files) => { s with files }.carrying (.retr remote)

theorem closeControl_hears (s : Session ν) : Hears s [] s.closeControl := by
  unfold closeControl
  cases s.control with
  | none => exact .refl s
  | some c =>
      dsimp only
      generalize hl : s.log .trace .control "Closing control connection" = s₁
      have hlog : Hears s [] s₁ := hl ▸ .log s _ _ _
      have hhung : Hears s₁ [] { s₁ with control := none, network := Network.hangUp s₁.network } :=
        .congr rfl rfl
      exact (hlog.trans hhung).trans (.wire _ _)

theorem resetControl_hears (s : Session ν) : Hears s [] s.resetControl := by
  unfold resetControl
  cases s.control with
  | none => exact .refl s
  | some c => exact (Hears.log s _ _ _).trans (closeControl_hears _)

theorem report_hears (e : Failure) (s : Session ν) :
    Hears s [.failure e.message] (s.report e) := by
  have htold := (Hears.log s .error .client e.message).trans (.notify _ (.failure e.message))
  unfold report
  dsimp only
  by_cases he : e.breaksSession
  · rw [if_pos he]
    exact htold.trans (resetControl_hears _)
  · rw [if_neg he]
    exact htold

theorem Goes.guarded {α : Type} {course : List WireEvent → List Notice → Option Reply → Prop}
    {answers : α → Reply → Prop} {o : Outcome ν α} (h : Goes s course answers o) :
    Went s course answers (guarded o) := by
  refine guarded_of_ends h ?_
  intro e t hends
  obtain ⟨events, notices, last?, hcourse, hbegun, ht⟩ := hends
  refine ⟨events, notices, last?, hcourse, ht.toHears.trans (report_hears e t), ?_⟩
  by_cases he : e.breaksSession
  · obtain ⟨-, hnone, hwires⟩ := report_breaking he t
    rw [if_pos he]
    exact ⟨hnone, by rw [hwires, ht.wires, parting_congr ht.peer]⟩
  · obtain ⟨htalks, -, hwires⟩ := report_other (Bool.eq_false_iff.2 he) t
    rw [if_neg he]
    exact ⟨hbegun.resolve_left he, htalks.peer.trans ht.peer, by rw [hwires, ht.wires]⟩

theorem simple_went (c : Command) (note : String) (s : Session ν) :
    Went s (Said c) (fun answer last => answer = Answer.ofReply last)
      ((s.log .debug .client note).simple c) := by
  have hsaid := (command_goes c (s.log .debug .client note)).after (.log s _ _ _)
  exact (hsaid.map fun reply last h => congrArg Answer.ofReply h).guarded

theorem login_went (user password : String) (s : Session ν) :
    Went s (SignsIn user password) (fun answer last => answer = Answer.ofReply last)
      (s.login user password) := by
  have hstart := Adds.log s .debug .client ("Signing in with user '" ++ user ++ "'")
  unfold login
  generalize s.log .debug .client ("Signing in with user '" ++ user ++ "'") = s₁ at hstart ⊢
  refine Goes.guarded (Goes.after ?_ hstart)
  refine (s₁.command_adds (.user user)).andThen ?_ ?_
  · intro reply t ht
    by_cases hcode : reply.code ≠ 331
    · rw [if_pos hcode]
      exact ⟨_, _, reply, .once (.answered reply), rfl, ht⟩
    · rw [if_neg hcode]
      have hasked := ht.still (.log t .debug .client "Password is required")
      have hsaid := command_adds (.pass password) (t.log .debug .client "Password is required")
      refine Outcome.Ends.map (hsaid.mono ?_ ?_)
      · intro last u hu
        exact ⟨_, _, last, .asked (not_not.1 hcode) (.answered last), rfl, hasked.trans hu⟩
      · intro e u hends
        obtain ⟨he, events, hpass, hu⟩ := hends
        exact ⟨_, _, none, .asked (not_not.1 hcode) hpass, Or.inl he, hasked.trans hu⟩
  · intro e t hends
    obtain ⟨he, events, hsaid, ht⟩ := hends
    exact ⟨events, [], none, .once hsaid, Or.inl he, ht⟩

theorem list_went (path : Option String) {s : Session ν} (hs : s.data = none) :
    Went s (Course (.list path) (fun d => d.listing?.toList.map .reply) (s.listingLink path))
      (Fits (fun d text => d.delivered? = some text) (s.listingLink path)) (s.list path) := by
  have hstart := Adds.log s .debug .client ("Listing " ++ path.getD "working directory")
  have hmoved := transfer_goes receiveListing_tells (.list path)
    (s := s.log .debug .client ("Listing " ++ path.getD "working directory")) hs
  exact (hmoved.after hstart).guarded

theorem upload_went (path remote : String) {s : Session ν} (hs : s.data = none) :
    Went s (fun events notices last? => ∃ d?,
        Course (.stor remote) (fun _ => []) d? events notices last?)
      (fun answer last => answer.refusal? = (Answer.ofReply last).refusal?)
      (s.upload path remote) := by
  have hstart := Adds.log s .debug .client ("Uploading " ++ path ++ " to " ++ remote)
  unfold upload
  generalize hl : s.log .debug .client ("Uploading " ++ path ++ " to " ++ remote) = s₁ at hstart ⊢
  have hdata : s₁.data = none := by rw [← hl]; exact hs
  refine Goes.guarded (Goes.after ?_ hstart)
  cases s₁.files.openForReading path with
  | error cause =>
      have hunsent : Course (.stor remote) (fun _ => []) none [] [] none :=
        .unopened .unsent (fun _ h => nomatch h)
      exact ⟨[], [], none, ⟨none, hunsent⟩, Or.inr (Or.inl rfl), .refl s₁⟩
  | ok source =>
      have hmoved := transfer_goes (sendFile_tells source) (.stor remote) hdata
      exact (hmoved.mono fun _ _ _ h => ⟨_, h⟩).imp fun _ _ h => h.1

theorem download_went (remote path : String) {s : Session ν} (hs : s.data = none) :
    Went s (Course (.retr remote) (fun _ => []) (s.fetchLink remote path))
      (fun answer last => answer.refusal? = (Answer.ofReply last).refusal?)
      (s.download remote path) := by
  have hstart := Adds.log s .debug .client ("Downloading " ++ remote ++ " to " ++ path)
  unfold download fetchLink
  generalize hl : s.log .debug .client ("Downloading " ++ remote ++ " to " ++ path) = s₁
    at hstart ⊢
  have hdata : s₁.data = none := by rw [← hl]; exact hs
  refine Goes.guarded (Goes.after ?_ hstart)
  dsimp only
  cases s₁.files.openForWriting path s₁.options.overwrite with
  | error cause => exact ⟨[], [], none, .unopened .unsent (fun _ h => nomatch h),
      Or.inr (Or.inl rfl), .refl s₁⟩
  | ok opened =>
      have hmoved := (transfer_goes (receiveInto_tells opened.1) (.retr remote)
        (s := { s₁ with files := opened.2 }) hdata).imp fun _ _ h => h.1
      exact finishDownload_goes path opened.1 _ (hmoved.after (.setFiles s₁ opened.2))

/-! ## Calls -/

/-- The data connection on which a call gets a listing, if it comes to that. -/
def link? (s : Session ν) : Call → Option DataLink
  | .list path => s.listingLink path
  | _ => none

/-- The ways of a call that writes commands. -/
inductive Ways (s : Session ν) : Call → List WireEvent → List Notice → Option Reply → Prop where
  | simple {c : Call} {command : Command} {events : List WireEvent} {notices : List Notice}
      {last? : Option Reply} : c.command? = some command → Said command events notices last? →
      Ways s c events notices last?
  | quit {events : List WireEvent} {notices : List Notice} {last? : Option Reply} :
      Said .quit events notices last? → Ways s .quit events notices last?
  | login {user password : String} {events : List WireEvent} {notices : List Notice}
      {last? : Option Reply} : SignsIn user password events notices last? →
      Ways s (.login user password) events notices last?
  | list {path : Option String} {events : List WireEvent} {notices : List Notice}
      {last? : Option Reply} :
      Course (.list path) (fun d => d.listing?.toList.map .reply) (s.listingLink path)
        events notices last? → Ways s (.list path) events notices last?
  | upload {path remote : String} {d? : Option DataLink} {events : List WireEvent}
      {notices : List Notice} {last? : Option Reply} :
      Course (.stor remote) (fun _ => []) d? events notices last? →
      Ways s (.upload path remote) events notices last?
  | download {remote path : String} {d? : Option DataLink} {events : List WireEvent}
      {notices : List Notice} {last? : Option Reply} :
      Course (.retr remote) (fun _ => []) d? events notices last? →
      Ways s (.download remote path) events notices last?

theorem quit_went (s : Session ν) :
    ∃ events notices last?, Said .quit events notices last? ∧ Stays s events last? s.quit.session ∧
      Decided s notices last? (fun answer last => answer = Answer.ofReply last) s.quit := by
  obtain ⟨events, notices, last?, hsaid, hstays, hends⟩ :=
    (simple_went .quit "Quitting session" s).stays
  unfold quit
  generalize (s.log .debug .client "Quitting session").simple .quit = o at hstays hends ⊢
  -- The connection is given up whatever has become of the command.
  obtain ⟨-, hnone, hwires⟩ := o.session.closeControl_spec
  have hclosed := o.session.closeControl_hears
  refine ⟨events, notices, last?, hsaid, Or.inr ⟨hnone, ?_⟩, Outcome.ends_mapSession.2 ?_⟩
  · show o.session.closeControl.wires = _
    rw [hwires]
    rcases hstays with ⟨hpeer, htWires, -⟩ | ⟨htNone, htWires⟩
    · rw [htWires, parting_congr hpeer]
    · rw [htWires, parting_of_none htNone, List.append_nil]
  · obtain ⟨value, t⟩ := o
    cases value with
    | ok a =>
        obtain ⟨last, hlast, ha, ht⟩ := hends
        exact ⟨last, hlast, ha, by simpa using ht.trans hclosed⟩
    | error e =>
        show Hears s _ t.closeControl
        simpa using Hears.trans hends hclosed

/-- Every call that writes commands goes one of its ways. -/
theorem run_ways {s : Session ν} (hs : s.data = none) {c : Call}
    (hc : c.isOrdinary ∨ c = .quit) :
    ∃ events notices last?, Ways s c events notices last? ∧
      Stays s events last? (s.run c).2 ∧
      Concludes s (s.link? c) notices last? (s.run c).1 (s.run c).2 := by
  induction c using Call.byForm with
  | connect | isOpen | reset => simp [Call.isOrdinary] at hc
  | login user password =>
      obtain ⟨events, notices, last?, hway, hstays, hends⟩ := (login_went user password s).stays
      exact ⟨events, notices, last?, .login hway, hstays, concludes_replied _ hends⟩
  | list path =>
      obtain ⟨events, notices, last?, hway, hstays, hends⟩ := (list_went path hs).stays
      exact ⟨events, notices, last?, .list hway, hstays, concludes_listed hends⟩
  | upload path remote =>
      obtain ⟨events, notices, last?, ⟨d?, hway⟩, hstays, hends⟩ :=
        (upload_went path remote hs).stays
      exact ⟨events, notices, last?, .upload hway, hstays, concludes_transferred _ hends⟩
  | download remote path =>
      obtain ⟨events, notices, last?, hway, hstays, hends⟩ := (download_went remote path hs).stays
      exact ⟨events, notices, last?, .download hway, hstays, concludes_transferred _ hends⟩
  | quit =>
      obtain ⟨events, notices, last?, hway, hstays, hends⟩ := s.quit_went
      exact ⟨events, notices, last?, .quit hway, hstays, concludes_replied _ hends⟩
  | simple c command h =>
      obtain ⟨note, hrun⟩ := run_of_command h s
      obtain ⟨events, notices, last?, hway, hstays, hends⟩ := (simple_went command note s).stays
      rw [hrun]
      exact ⟨events, notices, last?, .simple h hway, hstays, concludes_replied _ hends⟩

end Session

/-! ## Calls that write nothing -/

/-- The line that is written, whole or in part. -/
def WireEvent.line? : WireEvent → Option (List UInt8)
  | sent bytes | sentPart bytes _ => some bytes
  | _ => none

/-- Events among which no line is written. -/
def Quiet (events : List WireEvent) : Prop :=
  ∀ e ∈ events, e.line? = none

@[simp] theorem quiet_nil : Quiet [] :=
  List.forall_mem_nil _

@[simp] theorem quiet_cons {e : WireEvent} {events : List WireEvent} :
    Quiet (e :: events) ↔ e.line? = none ∧ Quiet events :=
  List.forall_mem_cons

@[simp] theorem quiet_append {front back : List WireEvent} :
    Quiet (front ++ back) ↔ Quiet front ∧ Quiet back :=
  List.forall_mem_append

@[simp] theorem quiet_dataSent (sent : List (List UInt8)) : Quiet (sent.map .dataSent) := by
  intro e he
  obtain ⟨bytes, -, rfl⟩ := List.mem_map.1 he
  rfl

theorem Quiet.append {front back : List WireEvent} (h : Quiet front) (h' : Quiet back) :
    Quiet (front ++ back) :=
  quiet_append.2 ⟨h, h'⟩

theorem Quiet.notMem {e : WireEvent} {line : List UInt8} {events : List WireEvent}
    (h : Quiet events) (he : e.line? = some line) : e ∉ events := by
  intro hmem
  rw [h e hmem] at he
  cases he

namespace Session

variable {ν : Type} {s t : Session ν} [Network ν]

omit [Network ν] in
theorem quiet_parting (s : Session ν) : Quiet s.parting := by
  unfold parting
  cases s.control <;> simp [WireEvent.line?]

theorem quiet_trials (tried : List Endpoint) : Quiet (trials tried) := by
  induction tried with
  | nil => exact quiet_nil
  | cons target tried ih => exact quiet_cons.2 ⟨rfl, quiet_cons.2 ⟨rfl, ih⟩⟩

theorem isOpen_stays (s : Session ν) : Stays s [] none s.isOpen.2 := by
  have hprobed : s.probe.Ends (fun _ t => Stays s [] none t)
      (fun e t => e.breaksSession ∧ t.peer = s.peer ∧ t.wires = s.wires) := by
    refine s.probe_ends.mono ?_ ?_
    · intro isThere t hends
      obtain ⟨htalks, hwires, -⟩ := hends
      exact Or.inl ⟨htalks.peer, by rw [List.append_nil]; exact hwires, Or.inl rfl⟩
    · intro e t hends
      obtain ⟨htalks, hwires, he⟩ := hends
      exact ⟨he, htalks.peer, hwires⟩
  have hguarded : (guarded s.probe).Ends (fun _ t => Stays s [] none t)
      (fun _ t => Stays s [] none t) := by
    refine guarded_of_ends hprobed fun e t hends => ?_
    obtain ⟨he, hpeer, hwires⟩ := hends
    obtain ⟨-, hnone, hgiven⟩ := report_breaking he t
    exact Or.inr ⟨hnone, by rw [hgiven, hwires, parting_congr hpeer, List.append_nil]⟩
  unfold isOpen
  generalize guarded s.probe = o at hguarded ⊢
  obtain ⟨value, t⟩ := o
  cases value with
  | ok isThere => exact hguarded
  | error e => exact hguarded

theorem Stays.events (hs : s.data = none) {c : Call} {events : List WireEvent}
    {last? : Option Reply} (h : Stays s events last? (s.run c).2) :
    s.events c = events ∨ s.events c = events ++ s.parting := by
  rcases h with ⟨-, hwires, -⟩ | ⟨-, hwires⟩
  · exact Or.inl (events_eq hs hwires)
  · rw [List.append_assoc] at hwires
    exact Or.inr (events_eq hs hwires)

/-- A call that opens no connection goes one of its ways, or nothing happens but that the
control connection may be given up. -/
theorem run_stays (hs : s.data = none) {c : Call} (hc : c.isConnect = false) :
    ∃ events last?, ((∃ notices, Ways s c events notices last?) ∨ events = []) ∧
      Stays s events last? (s.run c).2 := by
  by_cases hwrites : c.isOrdinary ∨ c = .quit
  · obtain ⟨events, notices, last?, hways, hstays, -⟩ := run_ways hs hwrites
    exact ⟨events, last?, Or.inl ⟨notices, hways⟩, hstays⟩
  · refine ⟨[], none, Or.inr rfl, ?_⟩
    cases c with
    | connect host port => cases hc
    | isOpen => exact isOpen_stays s
    | reset =>
        obtain ⟨-, hnone, hwires⟩ := s.resetControl_spec
        exact Or.inr ⟨hnone, by rw [List.append_nil]; exact hwires⟩
    | _ => simp [Call.isOrdinary] at hwrites

theorem connect_quiet (hs : s.data = none) (host : String) (port : UInt16) :
    Quiet (s.events (.connect host port)) := by
  have hquiet {es : List WireEvent} (hes : Quiet es)
      (hwires : (s.connect host port).session.wires = s.wires ++ s.parting ++ es) :
      Quiet (s.events (.connect host port)) := by
    rw [List.append_assoc] at hwires
    rw [events_eq (c := .connect host port) hs hwires]
    exact s.quiet_parting.append hes
  have h := connect_ends host port s
  cases hv : (s.connect host port).value with
  | ok answer =>
      obtain ⟨-, tried, target, greeting, -, -, hwires⟩ := h.of_ok hv
      rw [List.append_assoc _ (trials tried)] at hwires
      have hgreeted : Quiet [.connected target, .received greeting] := by
        simp [WireEvent.line?]
      exact hquiet ((quiet_trials tried).append hgreeted) hwires
  | error e =>
      obtain ⟨-, -, tried, hwires⟩ := h.of_error hv
      exact hquiet (quiet_trials tried) hwires

/-- A call goes one of its ways, or it writes nothing. -/
theorem events_ways (hs : s.data = none) (c : Call) :
    (∃ events notices last?, Ways s c events notices last? ∧
      Stays s events last? (s.run c).2 ∧
      Concludes s (s.link? c) notices last? (s.run c).1 (s.run c).2) ∨ Quiet (s.events c) := by
  by_cases hwrites : c.isOrdinary ∨ c = .quit
  · exact Or.inl (run_ways hs hwrites)
  · refine Or.inr ?_
    cases c with
    | connect host port => exact connect_quiet hs host port
    | isOpen =>
        rcases (isOpen_stays s).events (c := .isOpen) hs with hes | hes
        · rw [hes]
          exact quiet_nil
        · rw [hes]
          exact s.quiet_parting
    | reset =>
        rw [events_eq (c := .reset) hs s.resetControl_spec.2.2]
        exact s.quiet_parting
    | _ => simp [Call.isOrdinary] at hwrites

end Session
end FtpClient
