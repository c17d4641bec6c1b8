import FtpClient.Proofs.Runs

/-
Recovery.  After every operation the control connection is either the one that was held
before, or none is held, and the failure of the operation tells which.  Without one, no
operation but opening reaches the network, so a caller that saw a connection break can go
on calling without harm until it opens a new one.
-/

namespace FtpClient

def Call.isConnect : Call → Bool
  | .connect _ _ => true
  | _ => false

namespace Session

variable {ν : Type}

/-! ## Without a control connection -/

/-- A session after an operation that did not reach the network. -/
structure Idles (s t : Session ν) : Prop where
  control : t.control = none
  network : t.network = s.network
  wires : t.wires = s.wires

/-- An outcome that is a failure and did not reach the network. -/
def Fails {α : Type} (s : Session ν) (e : Failure) (o : Outcome ν α) : Prop :=
  o.value = .error e ∧ Idles s o.session

namespace Idles

variable {s t u : Session ν}

theorem refl (hs : s.control = none) : Idles s s :=
  ⟨hs, rfl, rfl⟩

theorem log (h : Idles s t) (level : Level) (component : Component) (text : String) :
    Idles s (t.log level component text) :=
  ⟨h.control, h.network, by simpa using h.wires⟩

theorem setFiles (h : Idles s t) (files : FileTree) : Idles s { t with files } :=
  ⟨h.control, h.network, h.wires⟩

theorem notify (h : Idles s t) (notice : Notice) : Idles s (t.notify notice) :=
  ⟨h.control, h.network, by simpa using h.wires⟩

variable [Network ν]

theorem closeControl (h : Idles s t) : Idles s t.closeControl := by
  have hnone := h.control
  have hsame : t.closeControl = t := by
    unfold Session.closeControl
    rw [hnone]
  rw [hsame]
  exact h

theorem resetControl (h : Idles s t) : Idles s t.resetControl := by
  have hnone := h.control
  have hsame : t.resetControl = t := by
    unfold Session.resetControl
    rw [hnone]
  rw [hsame]
  exact h

theorem report (h : Idles s t) (e : Failure) : Idles s (t.report e) := by
  have htold := (h.log .error .client e.message).notify (.failure e.message)
  unfold Session.report
  dsimp only
  by_cases he : e.breaksSession
  · rw [if_pos he]
    exact htold.resetControl
  · rw [if_neg he]
    exact htold

end Idles

namespace Fails

variable {α β : Type} {s : Session ν} {e : Failure} {o : Outcome ν α}

theorem andThen (h : Fails s e o) (next : α → Session ν → Outcome ν β) :
    Fails s e (o.andThen next) := by
  obtain ⟨value, t⟩ := o
  obtain ⟨rfl, ht⟩ := h
  exact ⟨rfl, ht⟩

theorem map (h : Fails s e o) (f : α → β) : Fails s e (o.map f) := by
  obtain ⟨value, t⟩ := o
  obtain ⟨rfl, ht⟩ := h
  exact ⟨rfl, ht⟩

theorem guarded [Network ν] (h : Fails s e o) : Fails s e (guarded o) := by
  obtain ⟨value, t⟩ := o
  obtain ⟨rfl, ht⟩ := h
  exact ⟨rfl, ht.report e⟩

theorem replied {o : Outcome ν (Answer Reply)} (h : Fails s e o) :
    (Session.replied o).1 = .replied (.error e) ∧ Idles s (Session.replied o).2 :=
  ⟨congrArg Call.Result.replied h.1, h.2⟩

theorem listed {o : Outcome ν (Answer String)} (h : Fails s e o) :
    (Session.listed o).1 = .listed (.error e) ∧ Idles s (Session.listed o).2 :=
  ⟨congrArg Call.Result.listed h.1, h.2⟩

theorem transferred {o : Outcome ν (Answer Nat)} (h : Fails s e o) :
    (Session.transferred o).1 = .transferred (.error e) ∧ Idles s (Session.transferred o).2 :=
  ⟨congrArg Call.Result.transferred h.1, h.2⟩

end Fails

theorem finishDownload_fails {s : Session ν} {e : Failure} {o : Outcome ν (Answer Nat)}
    (h : Fails s e o) (path : String) (place : Place) (existed : Bool) :
    Fails s e (finishDownload path place existed o) := by
  obtain ⟨value, t⟩ := o
  obtain ⟨rfl, ht⟩ := h
  unfold finishDownload
  dsimp only
  by_cases hexisted : existed
  · rw [if_pos hexisted]
    exact ⟨rfl, ht⟩
  · rw [if_neg hexisted]
    exact ⟨rfl, (ht.log _ _ _).setFiles _⟩

variable [Network ν]

theorem command_fails {s t : Session ν} (h : Idles s t) (c : Command) :
    Fails s .notConnected (t.command c) := by
  rw [command_of_none h.control]
  exact ⟨rfl, h.log _ _ _⟩

theorem transfer_fails {α : Type} {s t : Session ν} (h : Idles s t) (c : Command)
    (payload : Session ν → Outcome ν α) : Fails s .notConnected (t.transfer c payload) :=
  ((command_fails h .epsv).andThen _).andThen _

/-- What an operation other than opening comes to without a control connection.  A local
file is opened before anything is sent, so its failure comes first. -/
def unconnected (s : Session ν) : Call → Call.Result
  | .isOpen => .held false
  | .reset => .done
  | .list _ => .listed (.error .notConnected)
  | .upload path _ =>
      match s.files.openForReading path with
      | .ok _ => .transferred (.error .notConnected)
      | .error cause => .transferred (.error (.file path cause))
  | .download _ path =>
      match s.files.openForWriting path s.options.overwrite with
      | .ok _ => .transferred (.error .notConnected)
      | .error cause => .transferred (.error (.file path cause))
  | _ => .replied (.error .notConnected)

theorem upload_fails {s : Session ν} (hs : s.control = none) (path remote : String) :
    (∀ cause, s.files.openForReading path = .error cause →
      Fails s (.file path cause) (s.upload path remote)) ∧
    (∀ source, s.files.openForReading path = .ok source →
      Fails s .notConnected (s.upload path remote)) := by
  have hstart := (Idles.refl hs).log .debug .client ("Uploading " ++ path ++ " to " ++ remote)
  unfold upload
  dsimp only [log_eq_record, record_files]
  constructor
  · intro cause hfile
    rw [hfile]
    exact Fails.guarded ⟨rfl, hstart⟩
  · intro source hfile
    rw [hfile]
    exact (transfer_fails hstart (.stor remote) _).guarded

theorem download_fails {s : Session ν} (hs : s.control = none) (remote path : String) :
    (∀ cause, s.files.openForWriting path s.options.overwrite = .error cause →
      Fails s (.file path cause) (s.download remote path)) ∧
    (∀ opened, s.files.openForWriting path s.options.overwrite = .ok opened →
      Fails s .notConnected (s.download remote path)) := by
  have hstart :=
    (Idles.refl hs).log .debug .client ("Downloading " ++ remote ++ " to " ++ path)
  unfold download
  dsimp only [log_eq_record, record_files, record_options]
  constructor
  · intro cause hfile
    rw [hfile]
    exact Fails.guarded ⟨rfl, hstart⟩
  · intro hends hfile
    obtain ⟨place, files⟩ := hends
    rw [hfile]
    have hopened := hstart.setFiles files
    exact (finishDownload_fails (transfer_fails hopened (.retr remote) _) path place _).guarded

theorem isOpen_unconnected {s : Session ν} (hs : s.control = none) :
    s.isOpen = (false, s) := by
  unfold isOpen probe
  rw [hs]
  rfl

theorem run_unconnected {s : Session ν} (hs : s.control = none) {c : Call}
    (hc : c.isConnect = false) : (s.run c).1 = s.unconnected c ∧ Idles s (s.run c).2 := by
  have hstart (note : String) : Idles s (s.log .debug .client note) := (Idles.refl hs).log _ _ _
  induction c using Call.byForm with
  | connect host port => cases hc
  | isOpen =>
      have h := isOpen_unconnected hs
      show Call.Result.held s.isOpen.1 = .held false ∧ Idles s s.isOpen.2
      rw [h]
      exact ⟨rfl, .refl hs⟩
  | login user password =>
      exact (((command_fails (hstart _) (.user user)).andThen _).guarded).replied
  | list path =>
      exact ((transfer_fails (hstart _) (.list path) receiveListing).guarded).listed
  | upload path remote =>
      have h := upload_fails hs path remote
      cases hfile : s.files.openForReading path with
      | error cause =>
          have hresult : s.unconnected (.upload path remote) =
              .transferred (.error (.file path cause)) := by
            simp only [unconnected, hfile]
          rw [hresult]
          exact (h.1 cause hfile).transferred
      | ok source =>
          have hresult : s.unconnected (.upload path remote) =
              .transferred (.error .notConnected) := by
            simp only [unconnected, hfile]
          rw [hresult]
          exact (h.2 source hfile).transferred
  | download remote path =>
      have h := download_fails hs remote path
      cases hfile : s.files.openForWriting path s.options.overwrite with
      | error cause =>
          have hresult : s.unconnected (.download remote path) =
              .transferred (.error (.file path cause)) := by
            simp only [unconnected, hfile]
          rw [hresult]
          exact (h.1 cause hfile).transferred
      | ok opened =>
          have hresult : s.unconnected (.download remote path) =
              .transferred (.error .notConnected) := by
            simp only [unconnected, hfile]
          rw [hresult]
          exact (h.2 opened hfile).transferred
  | quit =>
      have h := ((command_fails (hstart "Quitting session") .quit).map Answer.ofReply).guarded
      exact ⟨congrArg Call.Result.replied h.1, h.2.closeControl⟩
  | reset => exact ⟨rfl, (Idles.refl hs).resetControl⟩
  | simple c command h =>
      obtain ⟨note, hrun⟩ := run_of_command h s
      have hfails := ((command_fails (hstart note) command).map Answer.ofReply).guarded
      have hresult : s.unconnected c = .replied (.error .notConnected) := by
        cases c <;> cases h <;> rfl
      rw [hrun, hresult]
      exact hfails.replied

/-! ## After every operation -/

/-- The control connection that was held, if any, is still held: it leads where it led,
and none was given up or established. -/
def HoldsOn (s : Session ν) (c : Call) : Prop :=
  (s.run c).2.peer = s.peer ∧ ∀ e ∈ s.events c, e.IsWithin

/-- What an operation does to the control connection. -/
def Settled (s : Session ν) (c : Call) : Prop :=
  match c with
  | .quit | .reset => (s.run c).2.control = none
  | .connect _ _ =>
      ((s.run c).2.control.isSome ↔ ∃ answer, (s.run c).1 = .replied (.ok answer)) ∧
      (s.control.isSome → ∃ rest, s.events c = .disconnected :: rest)
  | .isOpen =>
      match s.probe.value with
      | .ok _ => HoldsOn s c
      | .error _ => (s.run c).2.control = none
  | _ =>
      match (s.run c).1.verdict with
      | .error (.connection _ _) | .error (.protocol _ _) => (s.run c).2.control = none
      | .error (.file _ _) | .ok _ => HoldsOn s c

/-- No operation but opening reaches the network. -/
def Stranded (s : Session ν) : Prop :=
  s.control = none ∧ ∀ c, c.isConnect = false → (s.run c).1 = s.unconnected c ∧
    (s.run c).2.network = s.network ∧ s.events c = []

/-- A move that opens a session. -/
def Opens (s : Session ν) : Move ν → Prop
  | .call (.connect host port) => ∃ answer, (s.connect host port).value = .ok answer
  | _ => False

omit [Network ν] in
theorem isSome_of_peer {s : Session ν} {target : Endpoint} (h : s.peer = some target) :
    s.control.isSome := by
  cases hc : s.control with
  | none => simp [peer, hc] at h
  | some c => rfl

theorem settled_connect {s : Session ν} (hs : s.data = none) (host : String) (port : UInt16) :
    Settled s (.connect host port) := by
  have h := connect_ends host port s
  have hrun : s.run (.connect host port) = replied (s.connect host port) := rfl
  have hevents (es : List WireEvent) (hwires : (s.connect host port).session.wires =
      s.wires ++ s.parting ++ es) (hheld : s.control.isSome) :
      ∃ rest, s.events (.connect host port) = .disconnected :: rest := by
    have hparting : s.parting = [.disconnected] := by
      cases hc : s.control with
      | none => simp [hc] at hheld
      | some c => simp [parting, hc]
    refine ⟨es, events_eq hs ?_⟩
    rw [hrun, List.append_cons, ← hparting]
    exact hwires
  unfold Settled
  dsimp only
  rw [hrun]
  cases hv : (s.connect host port).value with
  | ok answer =>
      obtain ⟨-, tried, target, greeting, -, hpeer, hwires⟩ := h.of_ok hv
      refine ⟨⟨fun _ => ⟨answer, congrArg Call.Result.replied hv⟩,
        fun _ => isSome_of_peer hpeer⟩, ?_⟩
      rw [List.append_assoc] at hwires
      exact hevents _ hwires
  | error e =>
      obtain ⟨-, hnone, tried, hwires⟩ := h.of_error hv
      refine ⟨⟨fun hheld => ?_, ?_⟩, hevents _ hwires⟩
      · have : (s.connect host port).session.control.isSome := hheld
        simp [hnone] at this
      · intro hboth
        obtain ⟨answer, hanswer⟩ := hboth
        have : (s.connect host port).value = .ok answer := by
          simpa [replied] using hanswer
        simp [hv] at this

theorem settled_ordinary {s : Session ν} (hs : s.data = none) {c : Call}
    (hc : c.isOrdinary) : Settled s c := by
  have h := run_lands hs hc
  have hlands : match (s.run c).1.verdict with
      | .error (.connection _ _) | .error (.protocol _ _) => (s.run c).2.control = none
      | .error (.file _ _) | .ok _ => HoldsOn s c := by
    generalize (s.run c).1.verdict = verdict at h ⊢
    cases verdict with
    | ok reply? => exact ⟨h.1.peer, h.events⟩
    | error e =>
        cases e with
        | connection activity cause => exact h.2.2
        | protocol violation line => exact h.2.2
        | file path cause => exact ⟨h.1.peer, Rests.events h⟩
  cases c <;> first | exact hlands | cases hc

theorem run_settled {s : Session ν} (hs : s.data = none) (c : Call) : Settled s c := by
  cases hc : c.isOrdinary with
  | true => exact settled_ordinary hs hc
  | false =>
      cases c with
      | connect host port => exact settled_connect hs host port
      | isOpen =>
          have h := isOpen_lands hs
          unfold Settled
          dsimp only
          cases hv : s.probe.value with
          | ok isThere =>
              rw [hv] at h
              exact ⟨h.2.1.1.peer, h.2.1.events⟩
          | error e =>
              rw [hv] at h
              exact h.2.2.2
      | quit => exact (quit_parts hs).2.2
      | reset => exact (reset_parts hs).2.2
      | _ => cases hc

theorem move_unconnected {s : Session ν} (hc : s.control = none) {m : Move ν}
    (hm : ¬ Opens s m) : (s.move m).control = none := by
  cases m with
  | call c =>
      cases hconnect : c.isConnect with
      | false => exact (run_unconnected hc hconnect).2.control
      | true =>
          cases c with
          | connect host port =>
              cases hv : (s.connect host port).value with
              | ok answer => exact absurd ⟨answer, hv⟩ hm
              | error e => exact ((connect_ends host port s).of_error hv).2.1
          | _ => cases hconnect
  | subscribe id => exact hc
  | unsubscribe id => exact hc
  | elapse around =>
      show s.control.map _ = none
      rw [hc]
      rfl

theorem stranded {s : Session ν} (hs : s.data = none) (hc : s.control = none) : Stranded s := by
  refine ⟨hc, fun c hconnect => ?_⟩
  obtain ⟨hresult, hidle⟩ := run_unconnected hc hconnect
  exact ⟨hresult, hidle.network, events_eq hs (by rw [hidle.wires, List.append_nil])⟩

/-- After every run, the result of the next operation tells whether a control connection is
held; and once none is, no operation reaches the network until one of them opens it. -/
theorem moves_recover (options : Options) (observers : Observers) (files : FileTree)
    (network : ν) (ms : List (Move ν)) :
    let s := (start options observers files network).moves ms
    (∀ c, Settled s c) ∧ (s.control = none → ∀ ms' : List (Move ν),
      Along (fun t m => ¬ Opens t m) s ms' → Stranded (s.moves ms')) := by
  intro s
  have hs : s.data = none := moves_data rfl ms
  refine ⟨fun c => run_settled hs c, fun hc ms' halong => ?_⟩
  have hkept := moves_preserve (p := fun t : Session ν => t.data = none ∧ t.control = none)
    (fun t m ht hm => ⟨move_data ht.1 m, move_unconnected ht.2 hm⟩) ⟨hs, hc⟩ halong
  exact stranded hkept.1 hkept.2

end Session
end FtpClient
