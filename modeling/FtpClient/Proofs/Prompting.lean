import FtpClient.Proofs.Lines
import FtpClient.Proofs.Turns
import FtpClient.Proofs.TypedLines

/-
What the program does with a line.

A line leads to at most one call of the client, and a request to none that needs a session
where there is none: `Does` describes such a piece of a session, and `Leads.serves` says which
call a line leads to.  All that a line may put on the connections follows from the call.
-/

namespace FtpClient
namespace Session

/-! ## Calls that open no connection -/

section Within

variable {c : Command} {tell : DataLink → List Notice} {d? : Option DataLink}
  {events : List WireEvent} {notices : List Notice} {last? : Option Reply}

theorem Said.within (h : Said c events notices last?) : ∀ e ∈ events, e.IsWithin := by
  cases h <;> simp [WireEvent.IsWithin]

theorem Exchanged.within (h : Exchanged c tell d? events notices last?) :
    ∀ e ∈ events, e.IsWithin := by
  cases h with
  | declined hsaid _ =>
      exact List.forall_mem_append.2 ⟨hsaid.within, by simp [WireEvent.IsWithin]⟩
  | _ => simp [or_imp, forall_and, WireEvent.IsWithin]

theorem Course.within (h : Course c tell d? events notices last?) : ∀ e ∈ events, e.IsWithin := by
  cases h with
  | unopened hsaid _ => exact hsaid.within
  | unconnected reply htried =>
      rcases htried with rfl | ⟨target, rfl⟩ <;> simp [WireEvent.IsWithin]
  | opened _ hexchanged =>
      exact List.forall_mem_append.2 ⟨by simp [WireEvent.IsWithin], hexchanged.within⟩

theorem SignsIn.within {user password : String} (h : SignsIn user password events notices last?) :
    ∀ e ∈ events, e.IsWithin := by
  cases h with
  | once hsaid => exact hsaid.within
  | asked _ hsaid => exact List.forall_mem_append.2 ⟨by simp [WireEvent.IsWithin], hsaid.within⟩

end Within

variable {ν : Type} [Network ν] {s t : Session ν}

theorem Ways.within {c : Call} {events : List WireEvent} {notices : List Notice}
    {last? : Option Reply} (h : Ways s c events notices last?) : ∀ e ∈ events, e.IsWithin := by
  cases h with
  | simple _ hsaid => exact hsaid.within
  | quit hsaid => exact hsaid.within
  | login hsigns => exact hsigns.within
  | list hcourse => exact hcourse.within
  | upload hcourse => exact hcourse.within
  | download hcourse => exact hcourse.within

omit [Network ν] in
theorem eq_disconnected {e : WireEvent} (h : e ∈ s.parting) : e = .disconnected := by
  unfold parting at h
  cases hc : s.control with
  | none => rw [hc] at h; cases h
  | some c =>
      rw [hc] at h
      exact List.mem_singleton.1 h

/-- Only opening begins a control connection. -/
theorem connected_notMem (hs : s.data = none) {c : Call} (hc : c.isConnect = false)
    (target : Endpoint) : .connected target ∉ s.events c := by
  obtain ⟨events, last?, hways, hstays⟩ := run_stays hs hc
  have hwithin : .connected target ∉ events := by
    intro hmem
    rcases hways with ⟨notices, hways⟩ | rfl
    · exact hways.within _ hmem
    · cases hmem
  intro hmem
  rcases hstays.events hs with hevents | hevents
  · rw [hevents] at hmem
    exact hwithin hmem
  · rw [hevents] at hmem
    rcases List.mem_append.1 hmem with hmem | hmem
    · exact hwithin hmem
    · cases eq_disconnected hmem

/-! ## Probes -/

/-- A probe that finds the connection leaves all as it is. -/
theorem isOpen_true (hs : s.data = none) (h : s.isOpen.1) :
    s.isOpen.2 = s ∧ s.control.isSome := by
  have hheld : s.control.isSome := by
    cases hc : s.control with
    | none => rw [isOpen_unconnected hc] at h; cases h
    | some c => rfl
  have hlands := isOpen_lands hs
  split at hlands
  · obtain ⟨hvalue, -, -, hsame⟩ := hlands
    exact ⟨hsame (hvalue.symm.trans h), hheld⟩
  · rw [hlands.1] at h
    cases h

theorem isOpen_events (hs : s.data = none) : ∀ e ∈ s.events .isOpen, e = .disconnected := by
  intro e he
  have hstays : Stays s [] none (s.run .isOpen).2 := isOpen_stays s
  rcases hstays.events hs with hevents | hevents
  · rw [hevents] at he
    cases he
  · rw [hevents] at he
    exact eq_disconnected he

/-! ## What a program does with its client -/

/-- A session after at most one call.  The program may have shown text and waited for its user,
and asked before the call whether the connection is there. -/
inductive Does (s : Session ν) : Option Call → Session ν → Prop where
  | nothing : Does s none s
  | shows {c? : Option Call} {t : Session ν} (screen : Screen) (text : String) :
      Does s c? t → Does s c? (t.record [.shown screen text])
  | waits {c? : Option Call} {t : Session ν} :
      Does s c? t → Does s c? (t.settle (Network.pause t.network))
  | probes {t : Session ν} : Does s none t → Does s none t.isOpen.2
  | calls {t : Session ν} (c : Call) : Does s none t → Does s (some c) (t.run c).2

/-- What a piece of a session with at most one call comes to on the connections. -/
structure Yields (s : Session ν) (c? : Option Call) (events : List WireEvent) (t : Session ν) :
    Prop where
  data : t.data = none
  wires : t.wires = s.wires ++ events
  follows : s.turn.follow events = some t.turn
  idle : c? = none → ∀ e ∈ events, e = .disconnected
  issues : Issues (c?.elim [] Call.commands) events
  connects : ∀ target, .connected target ∈ events → ∃ host port, c? = some (.connect host port)

theorem writes_of_disconnected {events : List WireEvent} (h : ∀ e ∈ events, e = .disconnected) :
    writes events = [] :=
  Quiet.writes_eq fun e hmem => by rw [h e hmem]; rfl

/-- A call after a piece without one. -/
theorem Yields.call {events : List WireEvent} (h : Yields s none events t) (c : Call) :
    Yields s (some c) (events ++ t.events c) (t.run c).2 where
  data := (run_grows h.data c).2
  wires := by rw [wires_run h.data, h.wires, List.append_assoc]
  follows := by
    obtain ⟨es, hwires, hfollow⟩ := run_follows h.data c
    rw [Turn.follow_append, h.follows, events_eq h.data hwires]
    exact hfollow
  idle := nofun
  issues := by
    obtain ⟨issued, cut?, hissued, hwrites⟩ := events_issues h.data c
    refine ⟨issued, cut?, hissued, ?_⟩
    rw [writes_append, writes_of_disconnected (h.idle rfl), hwrites]
    rfl
  connects target hmem := by
    rcases List.mem_append.1 hmem with hmem | hmem
    · cases h.idle rfl _ hmem
    · cases c with
      | connect host port => exact ⟨host, port, rfl⟩
      | _ => exact absurd hmem (connected_notMem h.data rfl target)

theorem Does.yields {c? : Option Call} (hs : s.data = none) (h : Does s c? t) :
    ∃ events, Yields s c? events t := by
  induction h with
  | nothing =>
      exact ⟨[], hs, (List.append_nil _).symm, rfl, fun _ _ h => (nomatch h), .of_writes rfl,
        fun _ h => nomatch h⟩
  | @shows c? t screen text _ ih =>
      obtain ⟨events, hevents⟩ := ih
      refine ⟨events, hevents.data, ?_, hevents.follows, hevents.idle, hevents.issues,
        hevents.connects⟩
      rw [record_wires, hevents.wires]
      exact List.append_nil _
  | @waits c? t _ ih =>
      obtain ⟨events, hevents⟩ := ih
      refine ⟨events, hevents.data, hevents.wires, ?_, hevents.idle, hevents.issues,
        hevents.connects⟩
      rw [turn_of_peer (settle_peer _ t)]
      exact hevents.follows
  | @probes t _ ih =>
      obtain ⟨events, hevents⟩ := ih
      -- A probe is a call, but one that leads to nothing but the end of the connection.
      obtain ⟨hdata, hwires, hfollows, -⟩ := hevents.call .isOpen
      have hidle : ∀ e ∈ events ++ t.events .isOpen, e = .disconnected :=
        List.forall_mem_append.2 ⟨hevents.idle rfl, isOpen_events hevents.data⟩
      exact ⟨_, hdata, hwires, hfollows, fun _ => hidle, .of_writes (writes_of_disconnected hidle),
        fun _ hmem => nomatch hidle _ hmem⟩
  | calls c _ ih =>
      obtain ⟨events, hevents⟩ := ih
      exact ⟨_, hevents.call c⟩

end Session

namespace Prompt

/-- A line at which the program stops where it waits for a request. -/
def InputLine.leaves : InputLine → Prop
  | .text line => Request.ofLine? line = some .exit
  | .undecodable => True

namespace Shell

variable {ν : Type} {sh t : Shell ν}

/-- The passwords that have not been typed yet. -/
def secrets (sh : Shell ν) : List String :=
  sh.passwords.getD []

/-- What happens on the connections from one state of the program to a later one. -/
def traffic (sh t : Shell ν) : List WireEvent :=
  t.session.wires.drop sh.session.wires.length

theorem traffic_eq {events : List WireEvent} (h : t.session.wires = sh.session.wires ++ events) :
    sh.traffic t = events := by
  rw [traffic, h, List.drop_left]

variable [Network ν]

/-- The call that a request leads to which is read at the prompt: opening where there is no
session, and all else where there is one. -/
def call? (sh : Shell ν) (r : Request) : Option Call :=
  if r.needsConnection = sh.session.isOpen.1 then r.call? sh.secrets.head? else none

/-- The call that a line leads to.  With a name the user is logged in whatever has become of the
session in the meantime. -/
def called? (sh : Shell ν) (r? : Option Request) : Option Call :=
  match sh.awaiting with
  | .name => r?.bind (Request.call? sh.secrets.head?)
  | _ => r?.bind sh.call?

/-! ## Requests -/

/-- A program that is further on by at most one call, for which passwords may have been
typed. -/
structure Serves (sh : Shell ν) (c? : Option Call) (t : Shell ν) : Prop where
  does : sh.session.Does c? t.session
  secrets : t.secrets <:+ sh.secrets

namespace Serves

variable {c? : Option Call}

theorem refl (sh : Shell ν) : Serves sh none sh :=
  ⟨.nothing, List.suffix_rfl⟩

theorem print (h : Serves sh c? t) (text : String) : Serves sh c? (t.print text) :=
  ⟨h.does.shows _ text, h.secrets⟩

theorem complain (h : Serves sh c? t) (text : String) : Serves sh c? (t.complain text) :=
  ⟨h.does.shows _ text, h.secrets⟩

theorem await (h : Serves sh c? t) (awaiting : Awaiting) : Serves sh c? { t with awaiting } :=
  ⟨h.does, h.secrets⟩

theorem prompt (h : Serves sh c? t) : Serves sh c? t.prompt :=
  (h.print _).await .request

theorem probe (h : Serves sh none t) : Serves sh none { t with session := t.session.isOpen.2 } :=
  ⟨h.does.probes, h.secrets⟩

theorem call (h : Serves sh none t) (c : Call) :
    Serves sh (some c) { t with session := (t.session.run c).2 } :=
  ⟨h.does.calls c, h.secrets⟩

theorem login (h : Serves sh none t) (name : String) :
    Serves sh ((Request.user (some name)).call? t.secrets.head?) (t.login name) := by
  have hsecrets := h.secrets
  unfold Shell.login
  unfold Shell.secrets at hsecrets ⊢
  cases hpasswords : t.passwords with
  | none => exact h.complain _
  | some passwords =>
      cases passwords with
      | nil => exact h.complain _
      | cons password rest =>
          rw [hpasswords] at hsecrets
          exact ⟨h.does.waits.calls (.login name password), (List.suffix_cons _ _).trans hsecrets⟩

theorem connect (h : Serves sh none t) (host : String) (port : UInt16) :
    Serves sh (if t.session.isOpen.1 then none else some (.connect host port))
      (t.connect host port) := by
  unfold Shell.connect
  dsimp only
  by_cases hopen : t.session.isOpen.1
  · rw [if_pos hopen, if_pos hopen]
    exact h.probe.complain _
  · rw [if_neg hopen, if_neg hopen]
    exact h.probe.call (.connect host port)

theorem transfer {o : Outcome ν (Answer Nat)} (h : Serves sh c? (t.after o)) :
    Serves sh c? (t.afterTransfer o) := by
  unfold Shell.afterTransfer
  dsimp only
  split
  · exact h.print _
  · exact h

/-- A request that needs a session, where there is one. -/
theorem carryOut (h : Serves sh none t) {r : Request} (hr : r.needsConnection) :
    Serves sh (r.call? t.secrets.head?) (t.carryOut r) := by
  cases r with
  | connect | help | exit => cases hr
  | user name =>
      cases name with
      | none => exact (h.print _).await .name
      | some name => exact h.login name
  | get remote file => exact (h.call (.download remote file)).transfer
  | put file remote => exact (h.call (.upload file remote)).transfer
  | binary => exact h.call (.setType .image)
  | cd dir => exact h.call (.changeDir dir)
  | close => exact h.call .quit
  | ls dir => exact h.call (.list dir)
  | mkdir dir => exact h.call (.makeDir dir)
  | noop => exact h.call .noop
  | pwd => exact h.call .workingDir
  | rm path => exact h.call (.removeFile path)
  | rmdir dir => exact h.call (.removeDir dir)
  | size path => exact h.call (.size path)
  | stat path => exact h.call (.status path)
  | syst => exact h.call .systemType

end Serves

theorem perform_serves (sh : Shell ν) (r : Request) : Serves sh (sh.call? r) (sh.perform r) := by
  unfold call? perform
  by_cases hr : r.needsConnection
  · rw [if_pos hr]
    dsimp only
    by_cases hopen : sh.session.isOpen.1
    · rw [if_pos hopen, if_pos (hr.trans hopen.symm)]
      exact (Serves.refl sh).probe.carryOut hr
    · rw [if_neg hopen, if_neg (by simp [hr, hopen])]
      exact (Serves.refl sh).probe.complain _
  · -- What is left is done without a session, and only opening makes a call.
    rw [if_neg hr]
    cases r with
    | connect host port =>
        have hopened : Serves sh _ (sh.carryOut (.connect host port)) :=
          (Serves.refl sh).connect host port
        cases hopen : sh.session.isOpen.1 with
        | true => simpa [Request.needsConnection, hopen] using hopened
        | false => simpa [Request.needsConnection, Request.call?, hopen] using hopened
    | help =>
        have hhelped : Serves sh none (sh.carryOut .help) := (Serves.refl sh).print requestHelp
        simpa [Request.call?] using hhelped
    | exit =>
        have hleft : Serves sh none (sh.carryOut .exit) := Serves.refl sh
        simpa [Request.call?] using hleft
    | _ => exact absurd rfl hr

/-! ## What is read next -/

theorem login_awaiting (name : String) (sh : Shell ν) : (sh.login name).awaiting = sh.awaiting := by
  unfold login
  split <;> rfl

theorem carryOut_awaiting (r : Request) (sh : Shell ν) :
    (sh.carryOut r).awaiting = if r = .user none then .name else sh.awaiting := by
  have htransfer (o : Outcome ν (Answer Nat)) : (sh.afterTransfer o).awaiting = sh.awaiting := by
    unfold afterTransfer
    dsimp only
    split <;> rfl
  cases r with
  | user name =>
      cases name with
      | none => rfl
      | some name => exact sh.login_awaiting name
  | get remote file => exact htransfer _
  | put file remote => exact htransfer _
  | connect host port =>
      show (sh.connect host port).awaiting = sh.awaiting
      unfold connect
      dsimp only
      split <;> rfl
  | _ => rfl

theorem perform_awaiting (r : Request) (sh : Shell ν) : (sh.perform r).awaiting =
    if r = .user none ∧ sh.session.isOpen.1 then .name else sh.awaiting := by
  unfold perform
  by_cases hr : r.needsConnection
  · rw [if_pos hr]
    dsimp only
    by_cases hopen : sh.session.isOpen.1
    · rw [if_pos hopen, carryOut_awaiting]
      simp [hopen]
    · rw [if_neg hopen, if_neg (by simp [hopen])]
      rfl
  · have hother : r ≠ .user none := by
      rintro rfl
      exact hr rfl
    rw [if_neg hr, carryOut_awaiting, if_neg hother, if_neg (by simp [hother])]

omit [Network ν] in
theorem next_awaiting (sh : Shell ν) :
    sh.next.awaiting = if sh.awaiting = .name then .name else .request := by
  unfold next
  cases h : sh.awaiting <;> first | rfl | exact h

theorem Serves.next {c? : Option Call} (h : Serves sh c? t) : Serves sh c? t.next := by
  unfold Shell.next
  split
  · exact h
  · exact h.prompt

/-! ## A line -/

/-- What the program goes on to at a line, by the request that is made with it. -/
inductive Leads (sh : Shell ν) : Option Request → Shell ν → Prop where
  | asked {r : Request} : sh.awaiting = .request → r ≠ .exit →
      Leads sh (some r) (sh.perform r).next
  | blank : sh.awaiting = .request → Leads sh none sh.prompt
  | unknown (text : String) : sh.awaiting = .request → Leads sh none (sh.print text).prompt
  | named (name : String) : sh.awaiting = .name →
      Leads sh (some (.user (some name))) (sh.login name).prompt
  | unnamed (text : String) : sh.awaiting = .name → Leads sh none (sh.complain text).prompt

theorem request_leads (hawaiting : sh.awaiting = .request) {line : String}
    (hstays : Request.ofLine? line ≠ some .exit) :
    Leads sh (Request.ofLine? line) (sh.request line) := by
  unfold Request.ofLine? at hstays ⊢
  unfold request
  by_cases hblank : Blank.trim line = ""
  · rw [if_pos hblank, if_pos hblank]
    exact .blank hawaiting
  · rw [if_neg hblank] at hstays ⊢
    rw [if_neg hblank]
    cases hparsed : Request.parse line with
    | error e => exact .unknown _ hawaiting
    | ok r =>
        rw [hparsed] at hstays
        have hr : r ≠ .exit := fun h => hstays (congrArg some h)
        cases r with
        | exit => exact absurd rfl hr
        | _ => exact .asked hawaiting hr

end Shell

/-- A line that is read in a run, and where the program stands at that moment.  There is no line
where the input has ended and a name is waited for. -/
structure Step (ν : Type) where
  before : Shell ν
  line? : Option InputLine

namespace Step

variable {ν : Type} [Network ν]

def after (st : Step ν) : Shell ν :=
  match st.line? with
  | some line => st.before.read line
  | none => (st.before.login "").prompt

/-- What happens on the connections during a step. -/
def traffic (st : Step ν) : List WireEvent :=
  st.before.traffic st.after

omit [Network ν] in
/-- What was typed. -/
def text (st : Step ν) : String :=
  match st.line? with
  | some (.text line) => line
  | _ => ""

/-- The request that is made: at the prompt by the line, and else by the name of the user that
is waited for. -/
def request? (st : Step ν) : Option Request :=
  match st.before.awaiting, st.line? with
  | .request, some (.text line) => Request.ofLine? line
  | .name, some (.text line) => some (.user (some (Blank.trim line)))
  | .name, none => some (.user (some ""))
  | _, _ => none

/-- The call that the request leads to. -/
def call? (st : Step ν) : Option Call :=
  st.before.called? st.request?

/-- The commands that the step may write. -/
def commands (st : Step ν) : List Command :=
  st.request?.elim [] (Request.commands st.before.secrets.head?)

/-- A step of a run that goes on. -/
def Goes (st : Step ν) : Prop :=
  match st.line? with
  | some line => st.before.awaiting = .request → ¬ line.leaves
  | none => st.before.awaiting = .name

theorem leads {st : Step ν} (hgoes : st.Goes) (hawaits : st.before.awaiting ≠ .nothing) :
    st.before.Leads st.request? st.after := by
  obtain ⟨sh, line?⟩ := st
  unfold Goes at hgoes
  unfold after request?
  dsimp only at hgoes hawaits ⊢
  cases hawaiting : sh.awaiting with
  | nothing => exact absurd hawaiting hawaits
  | request =>
      cases line? with
      | none => rw [hawaiting] at hgoes; cases hgoes
      | some line =>
          have hstays := hgoes hawaiting
          unfold Shell.read
          rw [hawaiting]
          cases line with
          | undecodable => exact absurd trivial hstays
          | text line => exact Shell.request_leads hawaiting hstays
  | name =>
      cases line? with
      | none => exact .named "" hawaiting
      | some line =>
          unfold Shell.read
          rw [hawaiting]
          cases line with
          | undecodable => exact .unnamed _ hawaiting
          | text line => exact .named _ hawaiting

end Step

namespace Shell

variable {ν : Type} [Network ν] {sh t : Shell ν} {r? : Option Request}

/-- A program between two lines. -/
structure Ready (sh : Shell ν) : Prop where
  data : sh.session.data = none
  awaits : sh.awaiting ≠ .nothing
  follows : Turn.apart.follow sh.session.wires = some sh.session.turn

theorem Ready.wait (h : sh.Ready) : sh.wait.Ready where
  data := h.data
  awaits := h.awaits
  follows := h.follows.trans (congrArg some
    (Session.turn_of_peer (Session.settle_peer _ sh.session)).symm)

namespace Leads

theorem serves (h : sh.Leads r? t) : Serves sh (sh.called? r?) t := by
  have hasked (hawaiting : sh.awaiting = .request) (r? : Option Request) :
      sh.called? r? = r?.bind sh.call? := by rw [called?, hawaiting]
  cases h with
  | asked hawaiting _ =>
      rw [hasked hawaiting]
      exact (sh.perform_serves _).next
  | blank hawaiting =>
      rw [hasked hawaiting]
      exact (Serves.refl sh).prompt
  | unknown text hawaiting =>
      rw [hasked hawaiting]
      exact ((Serves.refl sh).print text).prompt
  | named name hawaiting =>
      rw [called?, hawaiting]
      exact ((Serves.refl sh).login name).prompt
  | unnamed text hawaiting =>
      rw [called?, hawaiting]
      exact ((Serves.refl sh).complain text).prompt

theorem awaiting (h : sh.Leads r? t) : t.awaiting =
    if r? = some (.user none) ∧ sh.session.isOpen.1 then .name else .request := by
  cases h with
  | @asked r hawaiting _ =>
      rw [next_awaiting, perform_awaiting, hawaiting]
      by_cases hr : r = .user none ∧ sh.session.isOpen.1
      · simp [hr]
      · rw [if_neg hr, if_neg (fun h => nomatch h), if_neg (by simpa using hr)]
  | _ => simp [prompt]

/-- A connection is opened only at the prompt, by a request for that, where there is none. -/
theorem opens {host : String} {port : UInt16} (h : sh.Leads r? t)
    (hcall : sh.called? r? = some (.connect host port)) : sh.session.isOpen.1 = false ∧
      ∃ host port, r? = some (.connect host port) := by
  have hlogin (name : String) : (Request.user (some name)).call? sh.secrets.head? ≠
      some (.connect host port) := by
    cases hhead : sh.secrets.head? <;> simp [Request.call?]
  unfold called? at hcall
  cases h with
  | @asked r hawaiting _ =>
      rw [hawaiting] at hcall
      dsimp only [Option.bind_some] at hcall
      unfold call? at hcall
      split at hcall
      · rename_i hopen
        cases r with
        | connect host' port' => exact ⟨hopen.symm, host', port', rfl⟩
        | user name =>
            cases name with
            | none => cases hcall
            | some name => exact absurd hcall (hlogin name)
        | _ => cases hcall
      · cases hcall
  | named name hawaiting =>
      rw [hawaiting] at hcall
      exact absurd hcall (hlogin name)
  | blank hawaiting | unknown _ hawaiting | unnamed _ hawaiting =>
      rw [hawaiting] at hcall
      cases hcall

theorem wires (h : sh.Leads none t) : t.session.wires = sh.session.wires := by
  cases h <;> simp [prompt, print, complain, wireEvents]

theorem ready (h : sh.Leads r? t) (hready : sh.Ready) : t.Ready := by
  obtain ⟨events, hyields⟩ := h.serves.does.yields hready.data
  refine ⟨hyields.data, ?_, ?_⟩
  · rw [h.awaiting]
    split <;> simp
  · rw [hyields.wires, Turn.follow_append, hready.follows]
    exact hyields.follows

end Leads

end Shell
end Prompt
end FtpClient
