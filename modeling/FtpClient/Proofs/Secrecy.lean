import FtpClient.Network.Scripted
import FtpClient.Proofs.Lines
import FtpClient.Proofs.Passwords
import FtpClient.Prompt.Screens

/-
Passwords stay secret.

The program takes its passwords from the terminal and hands them to `login`, so what holds
of two sessions holds of two runs of the program: on the screen, in the files, on the data
connections and on the control connections they differ in nothing but the lines that send a
password.  The far side has to be one that takes no notice of passwords; a server that plays
a script is one, as its script goes on by one step for each line whatever the line says.
-/

namespace FtpClient

/-! ## The program -/

namespace Prompt

variable {ν : Type} [Network ν] {D : Discreet ν}

/-- What two users type at the password prompts. -/
inductive PasswordsAlike : Option (List String) → Option (List String) → Prop where
  | absent : PasswordsAlike none none
  | typed {ps qs : List String} : List.Forall₂ Hidden ps qs → PasswordsAlike (some ps) (some qs)

/-- Two states of the program that differ at most in passwords. -/
structure Shell.Alike (D : Discreet ν) (sh sh' : Shell ν) : Prop where
  session : sh.session.Alike D sh'.session
  awaiting : sh.awaiting = sh'.awaiting
  passwords : PasswordsAlike sh.passwords sh'.passwords

namespace Shell.Alike

variable {sh sh' : Shell ν}

theorem setSession (h : sh.Alike D sh') {s s' : Session ν} (hs : s.Alike D s') :
    { sh with session := s }.Alike D { sh' with session := s' } :=
  ⟨hs, h.awaiting, h.passwords⟩

theorem setAwaiting (h : sh.Alike D sh') (awaiting : Awaiting) :
    { sh with awaiting }.Alike D { sh' with awaiting } :=
  ⟨h.session, rfl, h.passwords⟩

theorem print (h : sh.Alike D sh') (text : String) : (sh.print text).Alike D (sh'.print text) :=
  h.setSession (h.session.record _)

theorem complain (h : sh.Alike D sh') (text : String) :
    (sh.complain text).Alike D (sh'.complain text) :=
  h.setSession (h.session.record _)

theorem prompt (h : sh.Alike D sh') : sh.prompt.Alike D sh'.prompt :=
  (h.print _).setAwaiting _

theorem wait (h : sh.Alike D sh') : sh.wait.Alike D sh'.wait :=
  h.setSession (h.session.settle (D.pause h.session.network))

theorem after {α : Type} (h : sh.Alike D sh') {o o' : Outcome ν α} (ho : o.Alike D o') :
    (sh.after o).Alike D (sh'.after o') :=
  h.setSession ho.session

theorem afterTransfer (h : sh.Alike D sh') {o o' : Outcome ν (Answer Nat)} (ho : o.Alike D o') :
    (sh.afterTransfer o).Alike D (sh'.afterTransfer o') := by
  unfold Shell.afterTransfer
  dsimp only
  rw [ho.value]
  split
  · exact (h.after ho).print _
  · exact h.after ho

theorem login (h : sh.Alike D sh') (name : String) :
    (sh.login name).Alike D (sh'.login name) := by
  have hpasswords := h.passwords
  unfold Shell.login
  generalize sh.passwords = passwords at hpasswords ⊢
  generalize sh'.passwords = passwords' at hpasswords ⊢
  cases hpasswords with
  | absent => exact h.complain _
  | typed hps =>
      cases hps with
      | nil => exact h.complain _
      | cons hidden hrest =>
          have hwaited := h.wait.session.login name hidden
          exact ⟨hwaited.session, h.awaiting, .typed hrest⟩

theorem isOpen (h : sh.Alike D sh') : ∃ b s s', sh.session.isOpen = (b, s) ∧
    sh'.session.isOpen = (b, s') ∧ { sh with session := s }.Alike D { sh' with session := s' } := by
  obtain ⟨hvalue, hsession⟩ := h.session.isOpen
  exact ⟨sh.session.isOpen.1, sh.session.isOpen.2, sh'.session.isOpen.2, rfl,
    Prod.ext hvalue.symm rfl, h.setSession hsession⟩

theorem connect (h : sh.Alike D sh') (host : String) (port : UInt16) :
    (sh.connect host port).Alike D (sh'.connect host port) := by
  obtain ⟨b, s, s', hs, hs', hprobed⟩ := h.isOpen
  unfold Shell.connect
  rw [hs, hs']
  cases b with
  | true => exact hprobed.complain _
  | false => exact hprobed.after (hprobed.session.connect host port)

theorem carryOut (h : sh.Alike D sh') (r : Request) :
    (sh.carryOut r).Alike D (sh'.carryOut r) := by
  cases r with
  | binary => exact h.after ((h.session.log _ _ _).simple _)
  | cd dir => exact h.after ((h.session.log _ _ _).simple _)
  | close => exact h.after h.session.quit
  | exit => exact h
  | get remote file => exact h.afterTransfer (h.session.download remote file)
  | help => exact h.print _
  | ls dir => exact h.after (h.session.list dir)
  | mkdir dir => exact h.after ((h.session.log _ _ _).simple _)
  | noop => exact h.after ((h.session.log _ _ _).simple _)
  | connect host port => exact h.connect host port
  | put file remote => exact h.afterTransfer (h.session.upload file remote)
  | pwd => exact h.after ((h.session.log _ _ _).simple _)
  | rm path => exact h.after ((h.session.log _ _ _).simple _)
  | rmdir dir => exact h.after ((h.session.log _ _ _).simple _)
  | size path => exact h.after ((h.session.log _ _ _).simple _)
  | stat path => exact h.after ((h.session.log _ _ _).simple _)
  | syst => exact h.after ((h.session.log _ _ _).simple _)
  | user name =>
      cases name with
      | none => exact (h.print _).setAwaiting _
      | some name => exact h.login name

theorem perform (h : sh.Alike D sh') (r : Request) : (sh.perform r).Alike D (sh'.perform r) := by
  unfold Shell.perform
  by_cases hneeds : r.needsConnection
  · obtain ⟨b, s, s', hs, hs', hprobed⟩ := h.isOpen
    rw [if_pos hneeds, if_pos hneeds, hs, hs']
    cases b with
    | true => exact hprobed.carryOut r
    | false => exact hprobed.complain _
  · rw [if_neg hneeds, if_neg hneeds]
    exact h.carryOut r

theorem next (h : sh.Alike D sh') : sh.next.Alike D sh'.next := by
  unfold Shell.next
  rw [h.awaiting]
  cases sh'.awaiting with
  | request => exact h.prompt
  | name => exact h
  | nothing => exact h.prompt

theorem stop (h : sh.Alike D sh') : sh.stop.Alike D sh'.stop := by
  obtain ⟨b, s, s', hs, hs', hprobed⟩ := h.isOpen
  have hstopped := hprobed.setAwaiting .nothing
  unfold Shell.stop
  rw [hs, hs']
  cases b with
  | true => exact hstopped.after hstopped.session.quit
  | false => exact hstopped

theorem request (h : sh.Alike D sh') (line : String) :
    (sh.request line).Alike D (sh'.request line) := by
  unfold Shell.request
  by_cases hempty : Blank.trim line = ""
  · rw [if_pos hempty, if_pos hempty]
    exact h.prompt
  · rw [if_neg hempty, if_neg hempty]
    split
    · exact (h.print _).prompt
    · exact h.stop
    · exact (h.perform _).next

theorem read (h : sh.Alike D sh') (line : InputLine) : (sh.read line).Alike D (sh'.read line) := by
  unfold Shell.read
  rw [h.awaiting]
  cases sh'.awaiting with
  | request =>
      cases line with
      | text line => exact h.request line
      | undecodable => exact h.stop
  | name =>
      cases line with
      | text line => exact (h.login _).prompt
      | undecodable => exact (h.complain _).prompt
  | nothing => exact h

theorem feed (h : sh.Alike D sh') (line : InputLine) : (sh.feed line).Alike D (sh'.feed line) := by
  unfold Shell.feed
  rw [h.awaiting]
  cases sh'.awaiting with
  | request => exact h.wait.read line
  | name => exact h.wait.read line
  | nothing => exact h

theorem finish (h : sh.Alike D sh') : sh.finish.Alike D sh'.finish := by
  unfold Shell.finish
  rw [h.awaiting]
  cases sh'.awaiting with
  | request => exact h.wait.stop
  | name => exact ((h.wait.login "").prompt).wait.stop
  | nothing => exact h

theorem run (h : sh.Alike D sh') (input : List InputLine) :
    (sh.run input).Alike D (sh'.run input) := by
  unfold Shell.run
  induction input generalizing sh sh' with
  | nil => exact h.finish
  | cons line input ih => exact ih (h.feed line)

theorem start (D : Discreet ν) (host : Option String) {passwords passwords' : Option (List String)}
    (hpasswords : PasswordsAlike passwords passwords') (files : FileTree) (network : ν) :
    (Shell.start host passwords files network).Alike D
      (Shell.start host passwords' files network) := by
  have hsession := (Session.Alike.start D .default Observers.empty.create.2 files
    network).subscribe Observers.empty.create.1
  have hsh : Shell.Alike D ⟨_, .request, passwords⟩ ⟨_, .request, passwords'⟩ :=
    ⟨hsession, rfl, hpasswords⟩
  unfold Shell.start
  dsimp only
  cases host with
  | none => exact hsh.prompt
  | some address =>
      dsimp only
      cases Request.ofAddress address with
      | error e => exact (hsh.complain _).prompt
      | ok r => exact (hsh.perform r).prompt

end Shell.Alike

/-! ## What a run of the program shows -/

/-- Entries that are alike are shown alike, as what is sent is not shown. -/
theorem shownOn_alike {journal journal' : List Entry}
    (h : List.Forall₂ Entry.Alike journal journal') (screen : Screen) (time : String)
    (v : Verbosity) : shownOn screen time v journal = shownOn screen time v journal' := by
  have hshown {e e' : Entry} (he : e.Alike e') : shown? time v e = shown? time v e' := by
    cases he <;> rfl
  unfold shownOn
  congr 1
  induction h with
  | nil => rfl
  | cons he _ ih => rw [List.filterMap_cons, List.filterMap_cons, hshown he, ih]

/-- Two ends of the program that differ at most in what the far side remembers. -/
structure Finished.Alike (D : Discreet ν) (f f' : Finished ν) : Prop where
  status : f.status = f'.status
  output : f.output = f'.output
  diagnostics : f.diagnostics = f'.diagnostics
  files : f.files = f'.files
  network : D.alike f.network f'.network

/-- Two beginnings of the program. -/
inductive Launch.Alike (D : Discreet ν) : Launch ν → Launch ν → Prop where
  | ended (status : Nat) (output diagnostics : String) :
      Alike D (.ended status output diagnostics) (.ended status output diagnostics)
  | running (v : Verbosity) {sh sh' : Shell ν} : sh.Alike D sh' →
      Alike D (.running v sh) (.running v sh')

theorem launch_alike (D : Discreet ν) (arguments : List String)
    {passwords passwords' : Option (List String)} (hpasswords : PasswordsAlike passwords passwords')
    (files : FileTree) (network : ν) :
    (launch arguments passwords files network).Alike D
      (launch arguments passwords' files network) := by
  unfold launch
  cases Arguments.parse arguments with
  | refused e => exact .ended _ _ _
  | help => exact .ended _ _ _
  | run a =>
      dsimp only
      by_cases hversion : a.version
      · rw [if_pos hversion, if_pos hversion]
        exact .ended _ _ _
      · rw [if_neg hversion, if_neg hversion]
        exact .running _ (.start D a.host hpasswords files network)

theorem runProgram_alike (D : Discreet ν) (time : String) (arguments : List String)
    {passwords passwords' : Option (List String)} (hpasswords : PasswordsAlike passwords passwords')
    (input : List InputLine) (files : FileTree) (network : ν) :
    (runProgram time arguments passwords input files network).Alike D
      (runProgram time arguments passwords' input files network) := by
  have hlaunched := launch_alike D arguments hpasswords files network
  unfold runProgram
  generalize launch arguments passwords files network = l at hlaunched ⊢
  generalize launch arguments passwords' files network = l' at hlaunched ⊢
  cases hlaunched with
  | ended status output diagnostics => exact ⟨rfl, rfl, rfl, rfl, D.refl network⟩
  | @running v sh sh' hsh =>
      have hran := (hsh.run input).session
      exact ⟨rfl, shownOn_alike hran.journal _ _ _, shownOn_alike hran.journal _ _ _,
        hran.files, hran.network⟩

end Prompt

/-! ## A server that plays a script -/

theorem Veiled.count {x y : List UInt8} (h : Veiled x y) : x.count lineFeed = y.count lineFeed := by
  have hone {p : String} (hp : '\n' ∉ p.toList) :
      (Command.pass p).octets.count lineFeed = 1 := by
    have hnone : (Command.pass p).argumentChars.count '\n' = 0 := List.count_eq_zero.2 hp
    rw [Command.count_octets, hnone]
  cases h with
  | same => rfl
  | pass hidden =>
      cases hidden with
      | same => rfl
      | other hp hq => rw [hone hp, hone hq]

/-- Octets that were written line by line, each line the same or with a password. -/
def Spoken (a b : List UInt8) : Prop :=
  ∃ lines lines', List.Forall₂ Veiled lines lines' ∧ a = lines.flatten ∧ b = lines'.flatten

theorem Spoken.refl (a : List UInt8) : Spoken a a :=
  ⟨[a], [a], .cons (.same a) .nil, by simp, by simp⟩

theorem Spoken.snoc {a b x y : List UInt8} (h : Spoken a b) (hxy : Veiled x y) :
    Spoken (a ++ x) (b ++ y) := by
  obtain ⟨lines, lines', hlines, rfl, rfl⟩ := h
  exact ⟨lines ++ [x], lines' ++ [y], List.rel_append hlines (.cons hxy .nil), by simp, by simp⟩

namespace Scripted
namespace Server

/-- Servers that differ at most in the passwords that they received. -/
def Alike (s s' : Server) : Prop :=
  ∃ received, s' = { s with received } ∧ List.Forall₂ Spoken s.received received

theorem Alike.refl (s : Server) : s.Alike s :=
  ⟨s.received, rfl, List.forall₂_same.2 fun a _ => .refl a⟩

theorem extendLast_spoken {received received' : List (List UInt8)} {x y : List UInt8}
    (h : List.Forall₂ Spoken received received') (hxy : Veiled x y) :
    List.Forall₂ Spoken (extendLast x received) (extendLast y received') := by
  induction h with
  | nil => exact .nil
  | cons hfirst hrest ih =>
      cases hrest with
      | nil => exact .cons (hfirst.snoc hxy) .nil
      | cons hsecond hmore => exact .cons hfirst ih

theorem releaseData_alike {s s' : Server} (h : s.Alike s') :
    s.releaseData.1 = s'.releaseData.1 ∧ s.releaseData.2.Alike s'.releaseData.2 := by
  obtain ⟨received, rfl, hreceived⟩ := h
  obtain ⟨_, _, _, _, _, play, _, _, _⟩ := s
  unfold releaseData
  dsimp only
  cases play with
  | none => exact ⟨rfl, received, rfl, hreceived⟩
  | some p => exact ⟨rfl, received, rfl, hreceived⟩

/-- Such a server takes no notice of passwords: whatever a line says, it plays one step. -/
def discreet : Discreet Server where
  alike := Alike
  refl := Alike.refl
  resolve {m n} host h := by
    obtain ⟨received, rfl, -⟩ := h
    rfl
  connect {m n} target h := by
    obtain ⟨received, rfl, hreceived⟩ := h
    show (m.connect target).1 = (({ m with received } : Server).connect target).1 ∧
      (m.connect target).2.Alike (({ m with received } : Server).connect target).2
    obtain ⟨reachable, endpoint, scripts, _, _, _, _, _, _⟩ := m
    unfold connect
    dsimp only
    split
    · exact ⟨rfl, received, rfl, hreceived⟩
    · split
      · exact ⟨rfl, received, rfl, hreceived⟩
      · cases scripts with
        | nil => exact ⟨rfl, received, rfl, hreceived⟩
        | cons script rest =>
            exact ⟨rfl, received ++ [[]], rfl,
              List.rel_append hreceived (.cons (.refl []) .nil)⟩
  peerAddress {m n} h := by
    obtain ⟨received, rfl, -⟩ := h
    rfl
  send {m n bytes bytes'} hbytes h := by
    obtain ⟨received, rfl, hreceived⟩ := h
    show (m.send bytes).Alike Alike (({ m with received } : Server).send bytes')
    obtain ⟨_, _, _, _, _, play, _, _, _⟩ := m
    unfold send
    dsimp only
    -- How far the script goes on depends on the number of line feeds only.
    rw [hbytes.count]
    cases play with
    | none => exact ⟨rfl, rfl, received, rfl, hreceived⟩
    | some p => exact ⟨rfl, rfl, _, rfl, extendLast_spoken hreceived hbytes⟩
  hangUp {m n} h := by
    obtain ⟨received, rfl, hreceived⟩ := h
    exact ⟨received, rfl, hreceived⟩
  connectData {m n} target h := by
    obtain ⟨hdelivery, hreleased⟩ := releaseData_alike h
    obtain ⟨received, rfl, hreceived⟩ := h
    show (m.connectData target).Alike Alike (({ m with received } : Server).connectData target)
    unfold connectData
    dsimp only
    split
    · exact ⟨rfl, rfl, received, rfl, hreceived⟩
    · split
      · exact ⟨rfl, rfl, received, rfl, hreceived⟩
      · obtain ⟨released, heq, hspoken⟩ := hreleased
        rw [heq]
        exact ⟨rfl, hdelivery, released, rfl, hspoken⟩
  sendData {m n} bytes h := by
    obtain ⟨received, rfl, hreceived⟩ := h
    show (m.sendData bytes).Alike Alike (({ m with received } : Server).sendData bytes)
    unfold sendData
    dsimp only
    split
    · exact ⟨rfl, rfl, received, rfl, hreceived⟩
    · exact ⟨rfl, rfl, received, rfl, hreceived⟩
  hangUpData {m n} h := by
    obtain ⟨hdelivery, hreleased⟩ := releaseData_alike h
    exact ⟨rfl, hdelivery, hreleased⟩
  pause h := ⟨rfl, rfl, h⟩

end Server
end Scripted

/-! ## Every run -/

/-- All that a run of the program leaves in its journal. -/
def Prompt.Launch.journal {ν : Type} [Network ν] (input : List Prompt.InputLine) :
    Prompt.Launch ν → List Entry
  | .ended _ _ _ => []
  | .running _ sh => (sh.run input).session.journal

theorem Prompt.Launch.Alike.journal {ν : Type} [Network ν] {D : Discreet ν}
    {l l' : Prompt.Launch ν} (h : l.Alike D l') (input : List Prompt.InputLine) :
    List.Forall₂ Entry.Alike (l.journal input) (l'.journal input) := by
  cases h with
  | ended => exact .nil
  | running v hsh => exact (hsh.run input).session.journal

/-- Passwords stay secret from all but the server.  Two runs of a client that differ in nothing
but passwords have the same results and the same journals, and so have two runs of the program,
which show the same; only the lines that send a password differ.  The server may be any that
takes no notice of passwords, as one that plays a script. -/
theorem passwords_secret {ν : Type} [Network ν] (D : Discreet ν) (files : FileTree)
    (network : ν) :
    (∀ options observers (ms ms' : List (Move ν)), List.Forall₂ (Session.MoveAlike D) ms ms' →
      ∀ c c', Call.Alike c c' →
        let r := ((Session.start options observers files network).moves ms).run c
        let r' := ((Session.start options observers files network).moves ms').run c'
        r.1 = r'.1 ∧ List.Forall₂ Entry.Alike r.2.journal r'.2.journal ∧
          r.2.files = r'.2.files ∧ D.alike r.2.network r'.2.network) ∧
    (∀ time arguments passwords passwords' input, Prompt.PasswordsAlike passwords passwords' →
      Prompt.Finished.Alike D
        (Prompt.runProgram time arguments passwords input files network)
        (Prompt.runProgram time arguments passwords' input files network) ∧
      List.Forall₂ Entry.Alike
        ((Prompt.launch arguments passwords files network).journal input)
        ((Prompt.launch arguments passwords' files network).journal input)) := by
  constructor
  · intro options observers ms ms' hms c c' hc r r'
    have hmoved := (Session.Alike.start D options observers files network).moves hms
    obtain ⟨hresult, hran⟩ := hmoved.run hc
    exact ⟨hresult, hran.journal, hran.files, hran.network⟩
  · intro time arguments passwords passwords' input hpasswords
    exact ⟨Prompt.runProgram_alike D time arguments hpasswords input files network,
      (Prompt.launch_alike D arguments hpasswords files network).journal input⟩

/-- A server that asks for a password. -/
def doorkeeper : Scripted.Server :=
  .start true ⟨"127.0.0.1", 2121⟩
    [[⟨Utf8.encode "220 Ready\r\n", none, false⟩, ⟨Utf8.encode "331 Password\r\n", none, false⟩,
      ⟨Utf8.encode "230 Welcome\r\n", none, false⟩]] []

theorem passwords_secret_doorkeeper :
    let s := (Session.start .default .empty ⟨[], []⟩ doorkeeper).moves
      [.call (.connect "127.0.0.1" 2121)]
    let r := s.run (.login "anna" "sesame")
    let r' := s.run (.login "anna" "x")
    let shown (password : String) := Prompt.runProgram "now" ["-D", "127.0.0.1:2121"]
      (some [password]) [.text "user anna\n"] ⟨[], []⟩ doorkeeper
    (r.1 = r'.1 ∧ List.Forall₂ Entry.Alike r.2.journal r'.2.journal) ∧
      Entry.wire (.sent (Command.pass "sesame").octets) ∈ r.2.journal ∧
      Entry.wire (.sent (Command.pass "x").octets) ∈ r'.2.journal ∧
      (shown "sesame").output = (shown "x").output ∧
      (shown "sesame").diagnostics = (shown "x").diagnostics := by
  intro s r r' shown
  have hidden : Hidden "sesame" "x" := .other (by decide) (by decide)
  obtain ⟨hclient, hprogram⟩ :=
    passwords_secret Scripted.Server.discreet ⟨[], []⟩ doorkeeper
  have hconnect : List.Forall₂ (Session.MoveAlike Scripted.Server.discreet)
      [.call (.connect "127.0.0.1" 2121)] [.call (.connect "127.0.0.1" 2121)] :=
    .cons (.call (.same _)) .nil
  have hlogin : Call.Alike (.login "anna" "sesame") (.login "anna" "x") := .login hidden
  obtain ⟨hresult, hjournal, -, -⟩ := hclient .default .empty _ _ hconnect _ _ hlogin
  obtain ⟨hshown, -⟩ := hprogram "now" ["-D", "127.0.0.1:2121"] (some ["sesame"]) (some ["x"])
    [.text "user anna\n"] (.typed (.cons hidden .nil))
  refine ⟨⟨hresult, hjournal⟩, ?_, ?_, hshown.output, hshown.diagnostics⟩
  · decide +kernel
  · decide +kernel

end FtpClient
