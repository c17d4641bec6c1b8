import Mathlib.Data.List.Forall2
import FtpClient.Network.Scripted
import FtpClient.Proofs.Connections
import FtpClient.Proofs.Prompting

/-
Runs of the program.

A run is a chain of steps, one for each line that is read, from the first prompt to the
goodbye.  `Reads` is this chain, and whatever a step keeps a run keeps.  Before each line the
program waits for its user, and a step begins when its line is there.
-/

namespace FtpClient

/-! ## The goodbye -/

/-- What is seen of a line that was to be written. -/
def Written.event (line : List UInt8) : Written → WireEvent
  | whole => .sent line
  | part count _ => .sentPart line count

namespace Session

variable {ν : Type} [Network ν] {s : Session ν}

theorem write_record (entries : List Entry) (bytes : List UInt8) (s : Session ν) :
    (s.record entries).write bytes = ((s.write bytes).1, (s.write bytes).2.record entries) := by
  have huntold : (s.record entries).untold? = s.untold? := rfl
  unfold write
  rw [huntold]
  cases s.untold? <;> rfl

theorem perform_wires {c : Command} (hs : s.control.isSome) :
    (s.perform c).session.wires = s.wires ++ [(s.write c.octets).1.event c.octets] := by
  obtain ⟨link, hlink⟩ := Option.isSome_iff_exists.1 hs
  have hwrite := (s.write_adds c.octets).wires
  unfold perform send
  rw [log_eq_record, record_control, hlink]
  dsimp only
  rw [← Command.octets, write_record]
  generalize s.write c.octets = written at hwrite ⊢
  obtain ⟨result, t⟩ := written
  rw [List.append_nil] at hwrite
  cases result <;> simp [Written.event, wireEvents, ← hwrite]

theorem command_wires {c : Command} (hs : s.control.isSome) :
    ∃ back, Quiet back ∧ (s.command c).session.wires =
      s.wires ++ (s.write c.octets).1.event c.octets :: back := by
  have hperform := perform_wires (c := c) hs
  unfold command
  generalize s.perform c = o at hperform ⊢
  obtain ⟨value, t⟩ := o
  cases value with
  | error e => exact ⟨[], quiet_nil, hperform⟩
  | ok _ =>
      have hread := t.receiveReply_ends
      rw [Outcome.andThen_ok]
      generalize t.receiveReply = o' at hread ⊢
      obtain ⟨value, u⟩ := o'
      cases value with
      | ok reply =>
          refine ⟨[.received reply], by simp [WireEvent.line?], ?_⟩
          rw [hread.2.2, hperform, List.append_assoc]
          rfl
      | error e => exact ⟨[], quiet_nil, hread.2.2.trans hperform⟩

theorem guarded_wires {α : Type} (o : Outcome ν α) :
    ∃ back, Quiet back ∧ (guarded o).session.wires = o.session.wires ++ back := by
  obtain ⟨value, t⟩ := o
  cases value with
  | ok a => exact ⟨[], quiet_nil, (List.append_nil _).symm⟩
  | error e =>
      by_cases he : e.breaksSession
      · exact ⟨t.parting, t.quiet_parting, (report_breaking he t).2.2⟩
      · refine ⟨[], quiet_nil, ?_⟩
        rw [List.append_nil]
        exact (report_other (Bool.eq_false_iff.2 he) t).2.2

/-- Where a control connection is held, a goodbye is written once, as far as it can be, and
nothing else. -/
theorem quit_writes (hs : s.data = none) (hheld : s.control.isSome) :
    writes (s.events .quit) =
      [(s.write Command.quit.octets).1.event Command.quit.octets] := by
  generalize hl : s.log .debug .client "Quitting session" = s₁
  have hwires₁ : s₁.wires = s.wires := by
    rw [← hl]
    exact (record_wires _ _).trans (List.append_nil _)
  have hheld₁ : s₁.control.isSome := by rw [← hl]; exact hheld
  have hwrite₁ : (s₁.write Command.quit.octets).1 = (s.write Command.quit.octets).1 := by
    rw [← hl, log_eq_record, write_record]
  obtain ⟨back, hback, hsaid⟩ := command_wires (c := .quit) hheld₁
  obtain ⟨more, hmore, hguarded⟩ := guarded_wires ((s₁.command .quit).map Answer.ofReply)
  obtain ⟨-, -, hclosed⟩ := closeControl_spec (s₁.simple .quit).session
  have hquit : (s.run .quit).2.wires = s.wires ++
      ((s.write Command.quit.octets).1.event Command.quit.octets :: back ++ more ++
        (s₁.simple .quit).session.parting) := by
    have hrun : (s.run .quit).2 = (s₁.simple .quit).session.closeControl := by
      rw [← hl]
      rfl
    have hsame : ((s₁.command .quit).map Answer.ofReply).session.wires =
        (s₁.command .quit).session.wires := rfl
    rw [hrun, hclosed, simple, hguarded, hsame, hsaid, hwires₁, hwrite₁]
    simp
  have hquiet : Quiet (back ++ more ++ (s₁.simple .quit).session.parting) :=
    (hback.append hmore).append (quiet_parting _)
  rw [events_eq hs hquit, List.cons_append, List.cons_append]
  have hline : ((s.write Command.quit.octets).1.event Command.quit.octets).line?.isSome := by
    cases (s.write Command.quit.octets).1 <;> rfl
  refine Eq.trans ?_ (congrArg _ hquiet.writes_eq)
  exact List.filter_cons_of_pos hline

end Session

namespace Prompt
namespace Shell

variable {ν : Type}

/-! ## The beginning -/

/-- The program before it has connected to the host of its arguments. -/
def fresh (passwords : Option (List String)) (files : FileTree) (network : ν) : Shell ν :=
  let (observer, observers) := Observers.empty.create
  ⟨(Session.start Options.default observers files network).subscribe observer, .request,
    passwords⟩

variable [Network ν] {sh t last : Shell ν} {r? : Option Request}

theorem call?_commands (sh : Shell ν) (r : Request) :
    (sh.call? r).elim [] Call.commands <+: r.commands sh.secrets.head? := by
  unfold call?
  split
  · cases hcall : r.call? sh.secrets.head? with
    | none => exact List.nil_prefix
    | some c =>
        rw [← Request.commands_of_call hcall]
        exact List.prefix_rfl
  · exact List.nil_prefix

/-- A call that is made for the host of the arguments, if any is. -/
def Dials (host : Option String) (c? : Option Call) : Prop :=
  ∀ c, c? = some c → ∃ address name port, host = some address ∧
    Request.ofAddress address = .ok (.connect name port) ∧ c = .connect name port

section Start

variable (host : Option String) (passwords : Option (List String)) (files : FileTree)
  (network : ν)

/-- At the beginning the program may open a connection, to the host of its arguments. -/
theorem start_serves :
    ∃ c?, Serves (fresh passwords files network) c? (start host passwords files network) ∧
      Dials host c? ∧ (start host passwords files network).awaiting = .request := by
  have hbegun := Serves.refl (fresh passwords files network)
  cases host with
  | none => exact ⟨none, hbegun.prompt, nofun, rfl⟩
  | some address =>
      unfold start
      dsimp only
      cases haddress : Request.ofAddress address with
      | error e => exact ⟨none, (hbegun.complain _).prompt, nofun, rfl⟩
      | ok r =>
          obtain ⟨name, port, rfl⟩ := Request.ofAddress_ok haddress
          have hperformed := perform_serves (fresh passwords files network) (.connect name port)
          refine ⟨_, hperformed.prompt, fun c hc => ?_, rfl⟩
          exact ⟨address, name, port, rfl, haddress, (Option.some.inj hc).symm⟩

theorem start_yields :
    ∃ c?, (fresh passwords files network).session.Yields c?
        (start host passwords files network).session.wires
        (start host passwords files network).session ∧ Dials host c? := by
  obtain ⟨c?, hserves, hdials, -⟩ := start_serves host passwords files network
  obtain ⟨events, hyields⟩ := hserves.does.yields rfl
  have hwires : (start host passwords files network).session.wires = events := hyields.wires
  refine ⟨c?, ?_, hdials⟩
  rw [hwires]
  exact hyields

theorem start_ready : (start host passwords files network).Ready := by
  obtain ⟨-, -, -, hawaiting⟩ := start_serves host passwords files network
  obtain ⟨c?, hyields, -⟩ := start_yields host passwords files network
  refine ⟨hyields.data, ?_, hyields.follows⟩
  rw [hawaiting]
  simp

/-- Nothing is written at the beginning. -/
theorem start_writes : writes (start host passwords files network).session.wires = [] := by
  obtain ⟨c?, hyields, hdials⟩ := start_yields host passwords files network
  obtain ⟨issued, cut?, hissued, hwrites⟩ := hyields.issues
  have hquiet : c?.elim [] Call.commands = [] := by
    cases c? with
    | none => rfl
    | some c =>
        obtain ⟨address, name, port, -, -, rfl⟩ := hdials c rfl
        rfl
  rw [hquiet, List.prefix_nil, List.append_eq_nil_iff, List.map_eq_nil_iff] at hissued
  obtain ⟨rfl, hcut⟩ := hissued
  rw [hwrites, Command.writing, hcut]
  rfl

theorem start_opens {target : Endpoint}
    (h : .connected target ∈ (start host passwords files network).session.wires) :
    ∃ address name port, host = some address ∧
      Request.ofAddress address = .ok (.connect name port) := by
  obtain ⟨c?, hyields, hdials⟩ := start_yields host passwords files network
  obtain ⟨name, port, hconnect⟩ := hyields.connects target h
  obtain ⟨address, name, port, hhost, haddress, -⟩ := hdials _ hconnect
  exact ⟨address, name, port, hhost, haddress⟩

end Start

/-! ## The end -/

theorem stop_serves (sh : Shell ν) :
    Serves sh (if sh.session.isOpen.1 then some .quit else none) sh.stop := by
  have hprobed := ((Serves.refl sh).probe).await .nothing
  unfold stop
  dsimp only
  by_cases hopen : sh.session.isOpen.1
  · rw [if_pos hopen, if_pos hopen]
    exact hprobed.call .quit
  · rw [if_neg hopen, if_neg hopen]
    exact hprobed

theorem stop_awaiting (sh : Shell ν) : sh.stop.awaiting = .nothing := by
  unfold stop
  dsimp only
  split <;> rfl

theorem stop_yields (hdata : sh.session.data = none) :
    sh.session.Yields (if sh.session.isOpen.1 then some .quit else none) (sh.traffic sh.stop)
      sh.stop.session := by
  obtain ⟨events, hyields⟩ := sh.stop_serves.does.yields hdata
  rw [traffic_eq hyields.wires]
  exact hyields

/-- At its end the program writes nothing but a goodbye. -/
theorem stop_issues (hdata : sh.session.data = none) :
    Session.Issues [Command.quit] (sh.traffic sh.stop) := by
  refine (stop_yields hdata).issues.mono ?_
  split
  · exact List.prefix_rfl
  · exact List.nil_prefix

/-- The program says goodbye once, as far as it can, exactly if the connection is there. -/
theorem stop_farewell (hdata : sh.session.data = none) :
    if sh.session.isOpen.1 then writes (sh.traffic sh.stop) =
      [(sh.session.write Command.quit.octets).1.event Command.quit.octets]
    else ∀ e ∈ sh.traffic sh.stop, e = .disconnected := by
  by_cases hopen : sh.session.isOpen.1
  · rw [if_pos hopen]
    obtain ⟨hsame, hheld⟩ := Session.isOpen_true hdata hopen
    have hstopped : sh.stop.session = (sh.session.run .quit).2 := by
      unfold stop
      dsimp only
      rw [if_pos hopen, hsame]
      rfl
    have htraffic : sh.traffic sh.stop = sh.session.events .quit := by
      refine traffic_eq ?_
      rw [hstopped]
      exact Session.wires_run hdata .quit
    rw [htraffic]
    exact Session.quit_writes hdata hheld
  · rw [if_neg hopen]
    exact (stop_yields hdata).idle (if_neg hopen)

end Shell

/-! ## Steps -/

namespace Step

variable {ν : Type} [Network ν] {st : Step ν}

/-- What a line comes to. -/
theorem yields (hgoes : st.Goes) (hready : st.before.Ready) :
    st.before.session.Yields st.call? st.traffic st.after.session := by
  have hserves := (leads hgoes hready.awaits).serves
  obtain ⟨events, hyields⟩ := hserves.does.yields hready.data
  have htraffic : st.traffic = events := Shell.traffic_eq hyields.wires
  rw [htraffic]
  exact hyields

theorem ready (hgoes : st.Goes) (hready : st.before.Ready) : st.after.Ready :=
  (leads hgoes hready.awaits).ready hready

theorem commands_of_call : st.call?.elim [] Call.commands <+: st.commands := by
  unfold call? commands Shell.called?
  cases st.request? with
  | none => cases st.before.awaiting <;> exact List.nil_prefix
  | some r =>
      have hasked := st.before.call?_commands r
      cases st.before.awaiting with
      | request | nothing => exact hasked
      | name =>
          dsimp only [Option.bind_some, Option.elim_some]
          cases hcall : r.call? st.before.secrets.head? with
          | none => exact List.nil_prefix
          | some c =>
              rw [← Request.commands_of_call hcall]
              exact List.prefix_rfl

/-- What a line leads to.  The call of its request is made, if there is one.  Nothing comes of a
line that makes no request, and nothing is written for a request that needs a session if there
is none when it is read. -/
structure Sound (st : Step ν) : Prop where
  awaited : st.before.awaiting = .request ∨ st.before.awaiting = .name
  does : st.before.session.Does st.call? st.after.session
  /-- A bare `user` makes the next line the name. -/
  awaiting : st.after.awaiting =
    if st.request? = some (.user none) ∧ st.before.session.isOpen.1 then .name else .request
  still : st.request? = none → st.traffic = []
  gated : st.before.awaiting = .request → ∀ r, st.request? = some r → r.needsConnection →
    st.before.session.isOpen.1 = false → ∀ e ∈ st.traffic, e = .disconnected
  opens : ∀ target, .connected target ∈ st.traffic → st.before.session.isOpen.1 = false ∧
    ∃ host port, st.request? = some (.connect host port)

theorem sound (hgoes : st.Goes) (hready : st.before.Ready) : st.Sound := by
  have hleads := leads hgoes hready.awaits
  have hyields := yields hgoes hready
  refine ⟨?_, hleads.serves.does, hleads.awaiting, fun hnone => ?_,
    fun hawaiting r hr hneeds hclosed => ?_, fun target hmem => ?_⟩
  · cases hawaiting : st.before.awaiting with
    | nothing => exact absurd hawaiting hready.awaits
    | request => exact Or.inl rfl
    | name => exact Or.inr rfl
  · rw [hnone] at hleads
    refine Shell.traffic_eq ?_
    rw [hleads.wires, List.append_nil]
  · refine hyields.idle ?_
    rw [call?, Shell.called?, hawaiting, hr]
    dsimp only [Option.bind_some]
    rw [Shell.call?, if_neg]
    rw [hneeds, hclosed]
    simp
  · obtain ⟨host, port, hcall⟩ := hyields.connects target hmem
    exact hleads.opens hcall

end Step

/-! ## Chains of steps -/

/-- The steps of a run, each at the next line, and where the program stands when it stops: at
the prompt, where there is no line or one that ends the program.  Before each step the program
waits. -/
inductive Reads {ν : Type} [Network ν] :
    Shell ν → List InputLine → List (Step ν) → Shell ν → Prop where
  | stops {sh : Shell ν} {input : List InputLine} : sh.awaiting = .request →
      (∀ line ∈ input.head?, line.leaves) → Reads sh input [] sh.wait
  | reads {sh last : Shell ν} {line? : Option InputLine} {input : List InputLine}
      {steps : List (Step ν)} : Step.Goes ⟨sh.wait, line?⟩ → (line? = none → input = []) →
      Reads (Step.after ⟨sh.wait, line?⟩) input steps last →
      Reads sh (line?.toList ++ input) (⟨sh.wait, line?⟩ :: steps) last

namespace Reads

variable {ν : Type} [Network ν] {sh last : Shell ν} {input : List InputLine}
  {steps : List (Step ν)}

/-- The lines are read in order, up to one that ends the program or to the end. -/
theorem lines (h : Reads sh input steps last) : ∃ unread,
    input = steps.filterMap Step.line? ++ unread ∧ last.awaiting = .request ∧
      ∀ line ∈ unread.head?, line.leaves := by
  induction h with
  | @stops sh input hawaiting hleaves => exact ⟨input, rfl, hawaiting, hleaves⟩
  | @reads sh last line? input steps _ _ _ ih =>
      obtain ⟨unread, rfl, hstops⟩ := ih
      refine ⟨unread, ?_, hstops⟩
      cases line? <;> rfl

/-- What holds at first and is kept by each step and each wait holds at each step and at the
end. -/
theorem preserve {p : Shell ν → Prop} (h : Reads sh input steps last)
    (hwait : ∀ sh : Shell ν, p sh → p sh.wait)
    (hstep : ∀ st : Step ν, st.Goes → p st.before → p st.after) (hs : p sh) :
    (∀ st ∈ steps, st.Goes ∧ p st.before) ∧ p last := by
  induction h with
  | stops => exact ⟨fun _ h => (nomatch h), hwait _ hs⟩
  | reads hgoes _ _ ih =>
      obtain ⟨hsteps, hlast⟩ := ih (hstep _ hgoes (hwait _ hs))
      exact ⟨List.forall_mem_cons.2 ⟨⟨hgoes, hwait _ hs⟩, hsteps⟩, hlast⟩

theorem ready (h : Reads sh input steps last) (hready : sh.Ready) :
    (∀ st ∈ steps, st.Goes ∧ st.before.Ready) ∧ last.Ready :=
  h.preserve (fun _ => Shell.Ready.wait) (fun _ hgoes hbefore => Step.ready hgoes hbefore) hready

/-- All that happens on the connections happens in the steps. -/
theorem wires (h : Reads sh input steps last) (hready : sh.Ready) :
    last.session.wires = sh.session.wires ++ steps.flatMap Step.traffic := by
  induction h with
  | stops => exact (List.append_nil _).symm
  | @reads sh last line? input steps hgoes _ _ ih =>
      have hwait : sh.wait.session.wires = sh.session.wires := rfl
      rw [ih (Step.ready hgoes hready.wait), (Step.yields hgoes hready.wait).wires,
        List.append_assoc, List.flatMap_cons, hwait]

/-- All that happens on the connections happens in the steps and at the end. -/
theorem stop_wires (h : Reads sh input steps last) (hready : sh.Ready) :
    last.stop.session.wires =
      sh.session.wires ++ steps.flatMap Step.traffic ++ last.traffic last.stop := by
  rw [(Shell.stop_yields (h.ready hready).2.data).wires, h.wires hready]

/-- A name is read behind a bare `user` that has found a connection. -/
theorem named (h : Reads sh input steps last) (hready : sh.Ready)
    {front back : List (Step ν)} {st st' : Step ν} (heq : steps = front ++ st :: st' :: back)
    (hname : st'.before.awaiting = .name) :
    st.request? = some (.user none) ∧ st.before.session.isOpen.1 := by
  induction h generalizing front with
  | stops => cases front <;> cases heq
  | @reads sh last line? input steps hgoes _ hrest ih =>
      cases front with
      | cons first front =>
          exact ih (Step.ready hgoes hready.wait) (List.cons.inj heq).2
      | nil =>
          obtain ⟨rfl, rfl⟩ := List.cons.inj heq
          have hafter : (Step.after ⟨sh.wait, line?⟩).awaiting = .name := by
            cases hrest with
            | reads _ _ _ => exact hname
          rw [(Step.sound hgoes hready.wait).awaiting] at hafter
          split at hafter
          · assumption
          · cases hafter

end Reads

namespace Shell

variable {ν : Type} [Network ν] {sh : Shell ν}

theorem foldl_feed_nothing (h : sh.awaiting = .nothing) (input : List InputLine) :
    input.foldl feed sh = sh := by
  induction input with
  | nil => rfl
  | cons line input ih =>
      have hsame : sh.feed line = sh := by
        unfold feed
        rw [h]
      rw [List.foldl_cons, hsame, ih]

theorem feed_eq (h : sh.awaiting ≠ .nothing) (line : InputLine) :
    sh.feed line = sh.wait.read line := by
  unfold feed
  cases hawaiting : sh.awaiting with
  | nothing => exact absurd hawaiting h
  | request | name => rfl

theorem read_leaves (h : sh.awaiting = .request) {line : InputLine} (hleaves : line.leaves) :
    sh.read line = sh.stop := by
  unfold read
  rw [h]
  cases line with
  | undecodable => rfl
  | text line =>
      obtain ⟨hline, hparsed⟩ := Request.ofLine?_eq_some (r := .exit) hleaves
      unfold request
      dsimp only
      rw [if_neg hline, hparsed]

/-- Every run is a chain of steps up to where the program stops. -/
theorem run_reads (hready : sh.Ready) (input : List InputLine) :
    ∃ steps last, Reads sh input steps last ∧ sh.run input = last.stop := by
  induction input generalizing sh with
  | nil =>
      unfold run finish
      rw [List.foldl_nil]
      cases hawaiting : sh.awaiting with
      | nothing => exact absurd hawaiting hready.awaits
      | request => exact ⟨[], sh.wait, .stops hawaiting (fun _ h => nomatch h), rfl⟩
      | name =>
          have hgoes : Step.Goes ⟨sh.wait, none⟩ := hawaiting
          exact ⟨_, _, .reads hgoes (fun _ => rfl) (.stops rfl (fun _ h => nomatch h)), rfl⟩
  | cons line input ih =>
      have hfeed := feed_eq hready.awaits line
      by_cases hleaves : sh.awaiting = .request ∧ line.leaves
      · have hfirst : ∀ l ∈ (line :: input).head?, l.leaves := by
          intro l hl
          rw [← Option.some.inj hl]
          exact hleaves.2
        refine ⟨[], sh.wait, .stops hleaves.1 hfirst, ?_⟩
        -- The lines behind are fed to a program that has stopped.
        have hawaiting : sh.wait.awaiting = .request := hleaves.1
        have hstopped := read_leaves hawaiting hleaves.2
        unfold run finish
        rw [List.foldl_cons, hfeed, hstopped, foldl_feed_nothing sh.wait.stop_awaiting,
          sh.wait.stop_awaiting]
      · have hgoes : Step.Goes ⟨sh.wait, some line⟩ := fun h h' => hleaves ⟨h, h'⟩
        obtain ⟨steps, last, hreads, hrun⟩ := ih (Step.ready hgoes hready.wait)
        refine ⟨_, last, .reads hgoes (fun h => nomatch h) hreads, ?_⟩
        rw [← hrun]
        unfold run
        rw [List.foldl_cons, hfeed]
        rfl

section Run

variable (host : Option String) (passwords : Option (List String)) (files : FileTree)
  (network : ν) (lines : List InputLine)

/-- All that happens on the control connections of a run is in the grammar. -/
theorem run_follows : let final := (start host passwords files network).run lines
    Turn.apart.follow final.session.wires = some final.session.turn := by
  intro final
  have hready := start_ready host passwords files network
  obtain ⟨steps, last, hreads, hrun⟩ := run_reads hready lines
  have hlast := (hreads.ready hready).2
  have hstop := stop_yields hlast.data
  have hfinal : final = last.stop := hrun
  rw [hfinal, hstop.wires, Turn.follow_append, hlast.follows]
  exact hstop.follows

/-- There is one control connection at a time. -/
theorem run_apart {before between rest : List WireEvent} {target target' : Endpoint}
    (h : ((start host passwords files network).run lines).session.wires =
      before ++ .connected target :: between ++ .connected target' :: rest) :
    .disconnected ∈ between := by
  have hfollow := run_follows host passwords files network lines
  dsimp only at hfollow
  rw [h] at hfollow
  exact Turn.disconnected_of_connected hfollow

/-- Nothing is written on a connection behind a goodbye, whole or not. -/
theorem run_silent {before between rest : List WireEvent} {e e' : WireEvent}
    {line bytes : List UInt8}
    (h : ((start host passwords files network).run lines).session.wires =
      before ++ e :: between ++ e' :: rest) (he : e.line? = some line)
    (he' : e'.line? = some bytes) (hline : Command.verbOf line = Utf8.encode "QUIT") :
    .disconnected ∈ between := by
  have hfollow := run_follows host passwords files network lines
  dsimp only at hfollow
  rw [h] at hfollow
  exact Turn.disconnected_of_farewell hfollow he he' hline

end Run

/-- The program as a state machine.  It reads the lines of its input in order, each as a
request or as a name, until one of them ends it or there are no more.  It opens a connection
only where there is none, writes nothing for a request if there is none that it needs when it is
read, nothing on a connection on which it has said goodbye, and says goodbye at its end exactly
if the connection is there, as far as that can be written.

A name is asked for only where there is a connection, but that may be gone when the name is
read, and a user is logged in all the same.  A read that would wait forever is one that times out
here, so this holds also for servers that keep the client waiting. -/
theorem run_orderly (host : Option String) (passwords : Option (List String))
    (files : FileTree) (network : ν) (input : List UInt8) :
    let sh := start host passwords files network
    let lines := InputLine.split input
    let final := sh.run lines
    ∃ steps last, Reads sh lines steps last ∧ final = last.stop ∧
      (∃ unread, lines = steps.filterMap Step.line? ++ unread ∧ last.awaiting = .request ∧
        ∀ line ∈ unread.head?, line.leaves) ∧
      final.session.wires =
        sh.session.wires ++ steps.flatMap Step.traffic ++ last.traffic final ∧
      sh.awaiting = .request ∧ writes sh.session.wires = [] ∧
      (∀ target, .connected target ∈ sh.session.wires → ∃ address name port,
        host = some address ∧ Request.ofAddress address = .ok (.connect name port)) ∧
      (∀ st ∈ steps, st.Sound) ∧
      (∀ front st st' back, steps = front ++ st :: st' :: back →
        st'.before.awaiting = .name →
        st.request? = some (.user none) ∧ st.before.session.isOpen.1) ∧
      (if last.session.isOpen.1 then writes (last.traffic final) =
          [(last.session.write Command.quit.octets).1.event Command.quit.octets]
        else ∀ e ∈ last.traffic final, e = .disconnected) ∧
      (∀ before target between target' rest, final.session.wires =
          before ++ .connected target :: between ++ .connected target' :: rest →
        .disconnected ∈ between) ∧
      ∀ before e line between e' bytes rest,
        final.session.wires = before ++ e :: between ++ e' :: rest →
        e.line? = some line → e'.line? = some bytes →
        Command.verbOf line = Utf8.encode "QUIT" → .disconnected ∈ between := by
  intro sh lines final
  have hready : sh.Ready := start_ready host passwords files network
  obtain ⟨steps, last, hreads, hrun⟩ := run_reads hready lines
  have hfinal : final = last.stop := hrun
  obtain ⟨hsteps, hlast⟩ := hreads.ready hready
  obtain ⟨c?, -, -, hawaiting⟩ := start_serves host passwords files network
  refine ⟨steps, last, hreads, hfinal, hreads.lines, ?_, hawaiting,
    start_writes host passwords files network,
    fun target hmem => start_opens host passwords files network hmem,
    fun st hst => Step.sound (hsteps st hst).1 (hsteps st hst).2,
    fun front st st' back heq hname => hreads.named hready heq hname, ?_,
    fun before target between target' rest heq =>
      run_apart host passwords files network lines heq,
    fun before e line between e' bytes rest heq he he' hline =>
      run_silent host passwords files network lines heq he he' hline⟩
  · rw [hfinal]
    exact hreads.stop_wires hready
  · rw [hfinal]
    exact stop_farewell hlast.data

/-- A server that lets a user in who knows a password. -/
def greeter : Scripted.Server :=
  .start true ⟨"127.0.0.1", 2121⟩
    [[⟨Utf8.encode "220 Ready\r\n", none, false⟩, ⟨Utf8.encode "331 Password\r\n", none, false⟩,
      ⟨Utf8.encode "230 Welcome\r\n", none, false⟩, ⟨Utf8.encode "221 Bye\r\n", none, true⟩]] []

example :
    let sh := start (some "127.0.0.1:2121") (some ["sesame"]) ⟨[], []⟩ greeter
    let lines := InputLine.split (Utf8.encode "\nuser\n anna \nfrobnicate\nexit\nnoop\n")
    sends (sh.run lines).session.wires =
      [Command.user "anna", .pass "sesame", .quit].map Command.octets := by
  decide +kernel

/-- A server that asks for a password and hangs up. -/
def deserter : Scripted.Server :=
  .start true ⟨"127.0.0.1", 2121⟩
    [[⟨Utf8.encode "220 Ready\r\n", none, false⟩,
      ⟨Utf8.encode "331 Password required\r\n", none, true⟩]] []

/-- A server that sends three replies at once and is gone, so that only the first line finds a
place. -/
structure Hasty where
  taken : Nat
deriving DecidableEq

instance : Network Hasty where
  resolve _ host := .ok [host]
  connect _ n := (.established ⟨Utf8.encode "220 a\r\n200 b\r\n200 c\r\n", .closed⟩, n)
  peerAddress _ := .error .notConnected
  send _ n := ⟨if n.taken = 0 then .whole else .part 0 (.other "Broken pipe (os error 32)"),
    .none, ⟨n.taken + 1⟩⟩
  hangUp n := n
  connectData _ n := ⟨.rejected .connectionRefused, .none, n⟩
  sendData _ n := ⟨.error .notConnected, .none, n⟩
  hangUpData n := ⟨.ok (), .none, n⟩
  pause n := ⟨(), .none, n⟩

/-- The connection is looked at once for a request.  A server that hangs up in the middle of a
login still gets the password; and where replies are left to be read the connection counts as
there, but the goodbye may find no place on it. -/
theorem run_deserted :
    (let sh := start (some "127.0.0.1:2121") (some ["secret"]) ⟨[], []⟩ deserter
     let answered := (sh.session.command (.user "me")).session
     let final := sh.run (InputLine.split (Utf8.encode "user me\nexit\n"))
     answered.isOpen.1 = false ∧ final.session.wires = answered.wires ++
       [.sent (Command.pass "secret").octets, .disconnected]) ∧
    (let sh := start (some "127.0.0.1:2121") none ⟨[], []⟩ (⟨0⟩ : Hasty)
     let last := sh.feed (.text "noop\n")
     let final := sh.run [.text "noop\n", .text "exit\n"]
     last.session.isOpen.1 ∧ sends final.session.wires = [Command.noop.octets] ∧
       Command.quit.octets ∉ sends (last.traffic final)) := by
  decide +kernel

end Shell

/-! ## What is written -/

/-- A step that writes commands of its request, from the first on, with arguments that were
typed. -/
structure Step.Writes {ν : Type} [Network ν] (st : Step ν) (issued : List Command) : Prop where
  begins : issued <+: st.commands
  sends : sends st.traffic = issued.map Command.octets
  /-- One more may be cut short. -/
  cut : ∀ line count, .sentPart line count ∈ st.traffic →
    ∃ c, issued ++ [c] <+: st.commands ∧ line = c.octets
  arguments : ∀ c ∈ st.commands, ∀ a, c.argument? = some a → '\n' ∉ a.toList ∧
    Origin st.before.awaiting st.text st.before.secrets.head? a

namespace Step

variable {ν : Type} [Network ν] {st : Step ν}

omit [Network ν] in
/-- The arguments of a step were typed. -/
theorem origin {c : Command} (hc : c ∈ st.commands) {a : String} (ha : c.argument? = some a) :
    Origin st.before.awaiting st.text st.before.secrets.head? a := by
  obtain ⟨sh, line?⟩ := st
  unfold commands request? at hc
  unfold text
  dsimp only at hc ⊢
  have hname (name : String) (hawaiting : sh.awaiting = .name)
      (hc : c ∈ (Request.user (some (Blank.trim name))).commands sh.secrets.head?) :
      Origin sh.awaiting name sh.secrets.head? a := by
    obtain ⟨password, hpassword, hmem⟩ := List.mem_flatMap.1 hc
    have hcases : c = .user (Blank.trim name) ∨ c = .pass password := by simpa using hmem
    rcases hcases with rfl | rfl
    · rw [← Option.some.inj ha]
      exact .name hawaiting
    · rw [← Option.some.inj ha]
      exact .password (Option.mem_toList.1 hpassword)
  cases hawaiting : sh.awaiting with
  | nothing => rw [hawaiting] at hc; cases hc
  | request =>
      rw [hawaiting] at hc
      rcases line? with - | line | -
      · cases hc
      · cases hr : Request.ofLine? line with
        | none => simp [hr] at hc
        | some r =>
            simp only [hr, Option.elim_some] at hc
            exact Request.ofLine?_stems hr a (List.mem_filterMap.2 ⟨c, hc, ha⟩)
      · cases hc
  | name =>
      rw [← hawaiting]
      rw [hawaiting] at hc
      rcases line? with - | line | -
      · exact hname "" hawaiting hc
      · exact hname line hawaiting hc
      · cases hc

omit [Network ν] in
theorem arguments (htyped : Blank.IsTyped st.text)
    (hclean : ∀ p ∈ st.before.secrets, '\n' ∉ p.toList) :
    ∀ c ∈ st.commands, ∀ a, c.argument? = some a → '\n' ∉ a.toList ∧
      Origin st.before.awaiting st.text st.before.secrets.head? a := by
  intro c hc a ha
  have horigin := origin hc ha
  exact ⟨horigin.lineFeed_notMem htyped fun p hp => hclean p (List.mem_of_mem_head? hp), horigin⟩

end Step

/-- The lines of a run write the commands of their requests. -/
theorem Reads.writes {ν : Type} [Network ν] {sh last : Shell ν} {input : List InputLine}
    {steps : List (Step ν)} (h : Reads sh input steps last) (hready : sh.Ready)
    (htyped : ∀ line, .text line ∈ input → Blank.IsTyped line)
    (hclean : ∀ p ∈ sh.secrets, '\n' ∉ p.toList) :
    ∃ issued, List.Forall₂ Step.Writes steps issued ∧
      sends (steps.flatMap Step.traffic) = issued.flatten.map Command.octets ∧
      Commanding (steps.flatMap Step.traffic) := by
  induction h with
  | stops => exact ⟨[], .nil, rfl, fun _ h => nomatch h⟩
  | @reads sh last line? input steps hgoes _ _ ih =>
      have hbefore := hready.wait
      have htext : Blank.IsTyped (Step.text ⟨sh.wait, line?⟩) := by
        unfold Step.text
        cases line? with
        | none => exact Blank.isTyped_empty
        | some line =>
            cases line with
            | text line => exact htyped line List.mem_cons_self
            | undecodable => exact Blank.isTyped_empty
      have hsecrets := (Step.leads hgoes hbefore.awaits).serves.secrets
      have harguments := Step.arguments htext hclean
      have hissues := (Step.yields hgoes hbefore).issues.mono Step.commands_of_call
      obtain ⟨first, hbegins, hfirst, hcut⟩ := hissues.sends
      -- What is left of the passwords is an end of those that were there.
      obtain ⟨rest, hrest, hsends, hlines⟩ := ih (Step.ready hgoes hbefore)
        (fun line hline => htyped line (List.mem_append_right _ hline))
        (fun p hp => hclean p (hsecrets.subset hp))
      refine ⟨first :: rest, .cons ⟨hbegins, hfirst, hcut, harguments⟩ hrest, ?_, ?_⟩
      · rw [List.flatMap_cons, sends_append, hfirst, hsends, List.flatten_cons, List.map_append]
      · rw [List.flatMap_cons]
        exact (hissues.commanding fun c hc a ha => (harguments c hc a ha).1).append hlines

/-- No typed line brings in a second command.  Without line feeds in the passwords, each line
that the program ends on a connection is a command of the request that is being made, and its
argument is a word of the line that was typed, the name that such a word ends in, the letter of a
type, a name that was asked for or a password.  What stands behind the last line of a connection
is the beginning of a line that could not be written to its end. -/
theorem Shell.run_commands {ν : Type} [Network ν] (host : Option String)
    (passwords : Option (List String)) (files : FileTree) (network : ν) (input : List UInt8)
    (hpasswords : ∀ p ∈ passwords.getD [], '\n' ∉ p.toList) :
    let sh := start host passwords files network
    let lines := InputLine.split input
    let final := sh.run lines
    let written := connections final.session.wires
    ∃ steps last issued farewell, Reads sh lines steps last ∧ final = last.stop ∧
      List.Forall₂ Step.Writes steps issued ∧ farewell <+: [Command.quit] ∧
      sends (last.traffic final) = farewell.map Command.octets ∧
      written.flatten = sentBytes final.session.journal ∧
      written.flatMap (fun bytes => (splitLines bytes).1) =
        (issued.flatten ++ farewell).map Command.ended ∧
      (∀ bytes ∈ written, (splitLines bytes).2 = [] ∨ ∃ line count,
        .sentPart line count ∈ final.session.wires ∧
          (splitLines bytes).2 = line.dropLast.take count) ∧
      ((∀ line count, .sentPart line count ∉ final.session.wires) →
        splitLines (sentBytes final.session.journal) =
          ((issued.flatten ++ farewell).map Command.ended, [])) := by
  intro sh lines final written
  have hready : sh.Ready := start_ready host passwords files network
  obtain ⟨steps, last, hreads, hrun⟩ := run_reads hready lines
  have hfinal : final = last.stop := hrun
  have hclean : ∀ p ∈ sh.secrets, '\n' ∉ p.toList := by
    obtain ⟨c?, hstart, -⟩ := start_serves host passwords files network
    exact fun p hp => hpasswords p (hstart.secrets.subset hp)
  obtain ⟨issued, hwrites, hissued, hlines⟩ := hreads.writes hready
    (fun line hline => InputLine.isTyped_of_mem_split hline) hclean
  have hgoodbye := stop_issues (hreads.ready hready).2.data
  obtain ⟨farewell, hquit, hfarewell, -⟩ := hgoodbye.sends
  have hwires : final.session.wires =
      sh.session.wires ++ steps.flatMap Step.traffic ++ last.traffic last.stop := by
    rw [hfinal]
    exact hreads.stop_wires hready
  have hbegun : writes sh.session.wires = [] := start_writes host passwords files network
  have hsends : sends final.session.wires = (issued.flatten ++ farewell).map Command.octets := by
    rw [hwires, sends_append, sends_append, ← sends_writes sh.session.wires, hbegun, hissued,
      hfarewell, List.map_append]
    rfl
  have hcommanding : Commanding final.session.wires := by
    have hnone : ∀ c ∈ [Command.quit], c.IsLine := by
      intro c hc a ha
      obtain rfl := List.mem_singleton.1 hc
      cases ha
    rw [hwires]
    exact ((commanding_of_writes hbegun).append hlines).append (hgoodbye.commanding hnone)
  have hended : (sends final.session.wires).map List.dropLast =
      (issued.flatten ++ farewell).map Command.ended := by
    rw [hsends, List.map_map]
    exact List.map_congr_left fun c _ => c.dropLast_octets
  have hfollow := run_follows host passwords files network lines
  obtain ⟨hsplit, htails⟩ := lines_of_follow hfollow hcommanding
  have hbytes : written.flatten = sentBytes final.session.journal :=
    (connections_flatten _).trans (sentBytes_eq _).symm
  refine ⟨steps, last, issued, farewell, hreads, hfinal, hwrites, hquit, ?_, hbytes,
    hsplit.trans hended, htails, fun hwhole => ?_⟩
  · rw [hfinal]
    exact hfarewell
  · rw [sentBytes_eq, ← hended]
    exact splitLines_of_whole hcommanding hwhole

theorem Shell.run_commands_greeted :
    let sh := start (some "127.0.0.1:2121") (some ["sesame"]) ⟨[], []⟩ greeter
    let lines := InputLine.split (Utf8.encode "user\nan\rna\nls\n")
    (∀ p ∈ ["sesame"], '\n' ∉ p.toList) ∧
      (∃ steps last issued farewell, Reads sh lines steps last ∧ sh.run lines = last.stop ∧
        List.Forall₂ Step.Writes steps issued ∧
        (connections (sh.run lines).session.wires).flatMap (fun bytes => (splitLines bytes).1) =
          (issued.flatten ++ farewell).map Command.ended) ∧
      splitLines (sentBytes (sh.run lines).session.journal) =
        ([Command.user "an\rna", .pass "sesame", .epsv].map Command.ended, []) := by
  intro sh lines
  have hclean : ∀ p ∈ ["sesame"], '\n' ∉ p.toList := by decide
  obtain ⟨steps, last, issued, farewell, hreads, hrun, hwrites, -, -, -, hlines, -⟩ :=
    run_commands (some "127.0.0.1:2121") (some ["sesame"]) ⟨[], []⟩ greeter
      (Utf8.encode "user\nan\rna\nls\n") hclean
  refine ⟨hclean, ⟨steps, last, issued, farewell, hreads, hrun, hwrites, hlines⟩, ?_⟩
  decide +kernel

end Prompt
end FtpClient
