import FtpClient.Proofs.Transfers
import FtpClient.Session.Call

/-
The operations, once for all properties.

Every operation but those that open, close or probe the control connection is put together
from three parts: a log record or a change of the local files, a command with its reply, and
a transfer.  So a property of sessions that these parts keep is kept by every such operation.
`Frame` lists what has to be shown of the parts, and `Frame.run` is the conclusion.
-/

namespace FtpClient

/-! ## Results -/

namespace Answer

/-- The reply of a command that was refused. -/
def refusal? {α : Type} : Answer α → Option Reply
  | accepted _ => none
  | refused reply => some reply

def reply : Answer Reply → Reply
  | accepted reply | refused reply => reply

@[simp] theorem reply_ofReply (reply : Reply) : (ofReply reply).reply = reply := by
  unfold ofReply
  split <;> rfl

end Answer

namespace Call

/-- The failure of a call, or the reply that it gives back, if any. -/
def Result.verdict : Result → Except Failure (Option Reply)
  | replied value => value.map fun answer => some answer.reply
  | listed value => value.map Answer.refusal?
  | transferred value => value.map Answer.refusal?
  | held _ | done => .ok none

/-! ## The operations by their form -/

/-- The command of an operation that is nothing but one command. -/
def command? : Call → Option Command
  | changeDir path => some (.cwd path)
  | workingDir => some .pwd
  | makeDir path => some (.mkd path)
  | removeDir path => some (.rmd path)
  | removeFile path => some (.dele path)
  | size path => some (.size path)
  | status path => some (.stat path)
  | systemType => some .syst
  | noop => some .noop
  | setType representation => some (.type representation)
  | _ => none

/-- The commands that an operation may write. -/
def commands : Call → List Command
  | connect _ _ | isOpen | reset => []
  | login user password => [.user user, .pass password]
  | list path => [.epsv, .list path]
  | upload _ remote => [.epsv, .stor remote]
  | download remote _ => [.epsv, .retr remote]
  | quit => [.quit]
  | c => c.command?.toList

/-- Whether an operation needs the control connection and means to keep it. -/
def isOrdinary : Call → Bool
  | connect _ _ | isOpen | quit | reset => false
  | _ => true

/-- The operations of one command are alike, so they are one case. -/
@[elab_as_elim] theorem byForm {motive : Call → Prop}
    (connect : ∀ host port, motive (connect host port)) (isOpen : motive isOpen)
    (login : ∀ user password, motive (login user password)) (list : ∀ path, motive (list path))
    (upload : ∀ path remote, motive (upload path remote))
    (download : ∀ remote path, motive (download remote path)) (quit : motive quit)
    (reset : motive reset) (simple : ∀ c command, c.command? = some command → motive c)
    (c : Call) : motive c := by
  cases c with
  | connect host port => exact connect host port
  | isOpen => exact isOpen
  | login user password => exact login user password
  | list path => exact list path
  | upload path remote => exact upload path remote
  | download remote path => exact download remote path
  | quit => exact quit
  | reset => exact reset
  | _ => exact simple _ _ rfl

def movesPayload : Call → Bool
  | list _ | upload _ _ | download _ _ => true
  | _ => false

theorem commands_of_command {c : Call} {command : Command} (h : c.command? = some command) :
    c.commands = [command] := by
  cases c <;> cases h <;> rfl

theorem transfers_of_command {c : Call} {command : Command} (h : c.command? = some command) :
    Command.transfers command.octets = false := by
  rw [Command.transfers_octets]
  cases c <;> cases h <;> rfl

theorem transfers_of_commands {c : Call} (hc : c.movesPayload = false) :
    ∀ command ∈ c.commands, Command.transfers command.octets = false := by
  intro command hmem
  induction c using byForm with
  | connect | isOpen | reset => cases hmem
  | list | upload | download => cases hc
  | login user password =>
      rcases List.mem_cons.1 hmem with rfl | hmem
      · exact Command.transfers_octets _
      · obtain rfl := List.mem_singleton.1 hmem
        exact Command.transfers_octets _
  | quit =>
      obtain rfl := List.mem_singleton.1 hmem
      exact Command.transfers_octets _
  | simple c command' h =>
      rw [commands_of_command h] at hmem
      obtain rfl := List.mem_singleton.1 hmem
      exact transfers_of_command h

end Call

namespace Session

variable {ν : Type} [Network ν]

theorem run_of_command {c : Call} {command : Command} (h : c.command? = some command)
    (s : Session ν) :
    ∃ note, s.run c = replied ((s.log .debug .client note).simple command) := by
  cases c <;> cases h <;> exact ⟨_, rfl⟩

/-! ## The frame rule -/

/-- A property of sessions that the parts of operations keep.  `after` says what holds
between two parts: after parts that gave a reply to pass on, after parts that gave none, and
after a failure.  `final` is what holds once the failure is reported. -/
structure Frame (ν : Type) [Network ν] where
  allows : Command → Prop
  after : Except Failure (Option Reply) → Session ν → Prop
  final : Failure → Session ν → Prop
  log : ∀ {v t} level component text, after v t → after v (t.log level component text)
  files : ∀ {v t} files, after v t → after v { t with files }
  /-- That a local file cannot be used does no harm. -/
  blame : ∀ {v t} path cause, after (.ok v) t → after (.error (.file path cause)) t
  /-- A reply need not be passed on. -/
  forget : ∀ {v t}, after (.ok v) t → after (.ok none) t
  command : ∀ {c t}, allows c → Command.transfers c.octets = false → after (.ok none) t →
    (t.command c).Ends (fun reply u => after (.ok (some reply)) u) (fun e u => after (.error e) u)
  transfer : ∀ {α : Type} {c t} {payload : Session ν → Outcome ν α}, allows .epsv → allows c →
    Command.transfers c.octets → IsPayload payload → after (.ok none) t →
    (t.transfer c payload).Ends (fun answer u => after (.ok answer.refusal?) u)
      (fun e u => after (.error e) u)
  report : ∀ {e t}, after (.error e) t → final e (t.report e)

namespace Frame

variable (F : Frame ν) {s : Session ν}

/-- What holds of a session after an operation, by the result of the operation. -/
def Leaves (result : Call.Result) (t : Session ν) : Prop :=
  match result.verdict with
  | .ok reply? => F.after (.ok reply?) t
  | .error e => F.final e t

theorem guarded {α : Type} {o : Outcome ν α} {good : α → Session ν → Prop}
    (h : o.Ends good (fun e t => F.after (.error e) t)) :
    (guarded o).Ends good (fun e t => F.final e t) := by
  obtain ⟨value, t⟩ := o
  cases value with
  | ok a => exact h
  | error e => exact F.report h

theorem simple {c : Command} (hc : F.allows c) (hquiet : Command.transfers c.octets = false)
    (note : String) (hs : F.after (.ok none) s) :
    ((s.log .debug .client note).simple c).Ends
      (fun answer t => F.after (.ok (some answer.reply)) t) (fun e t => F.final e t) := by
  have hstart := F.log .debug .client note hs
  refine F.guarded (Outcome.Ends.map ((F.command hc hquiet hstart).mono ?_ fun _ _ h => h))
  intro reply t ht
  rw [Answer.reply_ofReply]
  exact ht

theorem login {user password : String} (huser : F.allows (.user user))
    (hpass : F.allows (.pass password)) (hs : F.after (.ok none) s) :
    (s.login user password).Ends (fun answer t => F.after (.ok (some answer.reply)) t)
      (fun e t => F.final e t) := by
  have hstart := F.log .debug .client ("Signing in with user '" ++ user ++ "'") hs
  refine F.guarded ((F.command huser (Command.transfers_octets _) hstart).andThen ?_
    fun _ _ h => h)
  intro reply t ht
  by_cases hcode : reply.code ≠ 331
  · rw [if_pos hcode, Outcome.ends_ok, Answer.reply_ofReply]
    exact ht
  · rw [if_neg hcode]
    have htold := F.log .debug .client "Password is required" (F.forget ht)
    refine Outcome.Ends.map ((F.command hpass (Command.transfers_octets _) htold).mono ?_
      fun _ _ h => h)
    intro reply' u hu
    rw [Answer.reply_ofReply]
    exact hu

theorem list {path : Option String} (hepsv : F.allows .epsv) (hlist : F.allows (.list path))
    (hs : F.after (.ok none) s) :
    (s.list path).Ends (fun answer t => F.after (.ok answer.refusal?) t)
      (fun e t => F.final e t) := by
  have hverb : Command.transfers (Command.list path).octets := Command.transfers_octets _
  exact F.guarded (F.transfer hepsv hlist hverb receiveListing_isPayload (F.log _ _ _ hs))

theorem upload {path remote : String} (hepsv : F.allows .epsv) (hstor : F.allows (.stor remote))
    (hs : F.after (.ok none) s) :
    (s.upload path remote).Ends (fun answer t => F.after (.ok answer.refusal?) t)
      (fun e t => F.final e t) := by
  have hstart := F.log .debug .client ("Uploading " ++ path ++ " to " ++ remote) hs
  have hverb : Command.transfers (Command.stor remote).octets := Command.transfers_octets _
  refine F.guarded ?_
  generalize s.log .debug .client ("Uploading " ++ path ++ " to " ++ remote) = s₁ at hstart ⊢
  cases s₁.files.openForReading path with
  | error cause => exact F.blame _ _ hstart
  | ok source => exact F.transfer hepsv hstor hverb (sendFile_isPayload source) hstart

theorem finishDownload {o : Outcome ν (Answer Nat)} (path : String) (place : Place)
    (existed : Bool) (h : o.Ends (fun answer t => F.after (.ok answer.refusal?) t)
      (fun e t => F.after (.error e) t)) :
    (finishDownload path place existed o).Ends (fun answer t => F.after (.ok answer.refusal?) t)
      (fun e t => F.after (.error e) t) := by
  have herased {v : Except Failure (Option Reply)} {t : Session ν} (ht : F.after v t)
      (files : FileTree) :
      F.after v { t.log .trace .client ("Removing incomplete file " ++ path) with files } :=
    F.files files (F.log _ _ _ ht)
  obtain ⟨value, t⟩ := o
  unfold Session.finishDownload
  dsimp only
  split
  · split
    · exact F.blame _ _ h
    · exact F.files _ h
  · split
    · exact h
    · cases value with
      | ok answer => exact herased h _
      | error e => exact herased h _

theorem download {remote path : String} (hepsv : F.allows .epsv)
    (hretr : F.allows (.retr remote)) (hs : F.after (.ok none) s) :
    (s.download remote path).Ends (fun answer t => F.after (.ok answer.refusal?) t)
      (fun e t => F.final e t) := by
  have hstart := F.log .debug .client ("Downloading " ++ remote ++ " to " ++ path) hs
  have hverb : Command.transfers (Command.retr remote).octets := Command.transfers_octets _
  refine F.guarded ?_
  generalize s.log .debug .client ("Downloading " ++ remote ++ " to " ++ path) = s₁ at hstart ⊢
  dsimp only
  cases s₁.files.openForWriting path s₁.options.overwrite with
  | error cause => exact F.blame _ _ hstart
  | ok opened =>
      exact F.finishDownload _ _ _ (F.transfer hepsv hretr hverb
        (receiveInto_isPayload opened.1) (F.files opened.2 hstart))

theorem leaves_replied {o : Outcome ν (Answer Reply)}
    (h : o.Ends (fun answer t => F.after (.ok (some answer.reply)) t) (fun e t => F.final e t)) :
    F.Leaves (replied o).1 (replied o).2 := by
  obtain ⟨value, t⟩ := o
  cases value <;> exact h

theorem leaves_listed {o : Outcome ν (Answer String)}
    (h : o.Ends (fun answer t => F.after (.ok answer.refusal?) t) (fun e t => F.final e t)) :
    F.Leaves (listed o).1 (listed o).2 := by
  obtain ⟨value, t⟩ := o
  cases value <;> exact h

theorem leaves_transferred {o : Outcome ν (Answer Nat)}
    (h : o.Ends (fun answer t => F.after (.ok answer.refusal?) t) (fun e t => F.final e t)) :
    F.Leaves (transferred o).1 (transferred o).2 := by
  obtain ⟨value, t⟩ := o
  cases value <;> exact h

theorem run {c : Call} (hc : c.isOrdinary) (hallows : ∀ command ∈ c.commands, F.allows command)
    (hs : F.after (.ok none) s) : F.Leaves (s.run c).1 (s.run c).2 := by
  induction c using Call.byForm with
  | connect | isOpen | quit | reset => cases hc
  | login user password =>
      have huser := hallows (.user user) (by simp [Call.commands])
      have hpass := hallows (.pass password) (by simp [Call.commands])
      exact F.leaves_replied (F.login huser hpass hs)
  | list path =>
      have hepsv := hallows .epsv (by simp [Call.commands])
      have hlist := hallows (.list path) (by simp [Call.commands])
      exact F.leaves_listed (F.list hepsv hlist hs)
  | upload path remote =>
      have hepsv := hallows .epsv (by simp [Call.commands])
      have hstor := hallows (.stor remote) (by simp [Call.commands])
      exact F.leaves_transferred (F.upload hepsv hstor hs)
  | download remote path =>
      have hepsv := hallows .epsv (by simp [Call.commands])
      have hretr := hallows (.retr remote) (by simp [Call.commands])
      exact F.leaves_transferred (F.download hepsv hretr hs)
  | simple c command h =>
      obtain ⟨note, hrun⟩ := run_of_command h s
      have hquiet := Call.transfers_of_command h
      have hallowed := hallows command (by rw [Call.commands_of_command h]; simp)
      rw [hrun]
      exact F.leaves_replied (F.simple hallowed hquiet note hs)

end Frame
end Session
end FtpClient
