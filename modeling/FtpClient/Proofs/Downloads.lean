import FtpClient.Network.Scripted
import FtpClient.Proofs.DataConnection
import FtpClient.Proofs.Files
import FtpClient.Proofs.Ways

/-
What a download makes of the local files.

The file is written over in place while its payload arrives, and only what happens after the
whole transfer is done decides what remains of it: a complete file is cut to its length, and an
incomplete one that was made for the download is removed.  So the local files after a download
are told by the place of the file, the octets that arrived, and whether the answer accepts
them: `FileTree.Fetched` is that relation.
-/

namespace FtpClient

/-! ## The files of a download -/

namespace FileTree

variable {t t' : FileTree} {path : String} {replace : Bool} {place : Place}

/-- The content of the file at a place.  A file that is yet to be made has none. -/
def contentAt (t : FileTree) (place : Place) : List UInt8 :=
  match t.node? place with
  | some (.file content) => content
  | _ => []

/-- The local files while a file at `place` is written over, of which `received` has arrived. -/
structure Written (t : FileTree) (place : Place) (received : List UInt8) (t' : FileTree) :
    Prop where
  here : t'.here = t.here
  elsewhere : ∀ other, other ≠ place → t'.node? other = t.node? other
  content : t'.node? place =
    some (.file (received ++ (t.contentAt place).drop received.length))
  undone : t.node? place = none → t'.erase place = t

/-- The local files after a download into the file at `place`, for which `received` arrived.
`complete` tells whether its answer accepts them. -/
structure Fetched (t : FileTree) (place : Place) (received : List UInt8) (complete : Prop)
    (t' : FileTree) : Prop where
  here : t'.here = t.here
  elsewhere : ∀ other, other ≠ place → t'.node? other = t.node? other
  whole : complete → t'.node? place = some (.file received)
  removed : ¬ complete → t.node? place = none → t' = t
  overwritten : ¬ complete → ∀ old, t.node? place = some (.file old) →
    t'.node? place = some (.file (received ++ old.drop received.length))

theorem Fetched.congr {received : List UInt8} {complete complete' : Prop}
    (h : t.Fetched place received complete t') (hiff : complete ↔ complete') :
    t.Fetched place received complete' t' := by
  rw [← propext hiff]
  exact h

theorem Admits.opened (h : t.Admits path replace place) :
    t.Written place [] (t.opened place) := by
  have hplace := place?_ne_nil h.leads
  rcases h.free with hnone | ⟨-, old, hold⟩
  · rw [opened_of_none hnone]
    refine ⟨rfl, fun other hne => node?_set_of_ne hne _ t, ?_, fun _ => ?_⟩
    · rw [node?_set hplace, contentAt, hnone]
      rfl
    · rw [erase_set, erase_of_none hplace hnone]
  · rw [opened_of_some hold]
    refine ⟨rfl, fun _ _ => rfl, ?_, fun hnone => ?_⟩
    · rw [hold, contentAt, hold]
      rfl
    · rw [hold] at hnone
      cases hnone

theorem Written.overwrite (hplace : place ≠ []) (h : t.Written place [] t')
    (bytes : List UInt8) : t.Written place bytes (t'.overwrite place bytes) := by
  have hcontent : t'.node? place = some (.file (t.contentAt place)) := h.content
  refine ⟨?_, fun other hne => ?_, ?_, fun hnone => ?_⟩
  · rw [overwrite_of_file hcontent]
    exact h.here
  · rw [overwrite_of_file hcontent, node?_set_of_ne hne]
    exact h.elsewhere other hne
  · rw [overwrite_of_file hcontent, node?_set hplace]
  · rw [erase_overwrite]
    exact h.undone hnone

/-- A complete file is cut to what was received. -/
theorem Written.cut (hplace : place ≠ []) {received : List UInt8}
    (h : t.Written place received t') {complete : Prop} (hcomplete : complete) :
    ∃ files, t'.truncate place received.length = .ok files ∧
      t.Fetched place received complete files := by
  refine ⟨_, truncate_of_file h.content _, h.here, fun other hne => ?_, fun _ => ?_,
    fun hnot => absurd hcomplete hnot, fun hnot => absurd hcomplete hnot⟩
  · rw [node?_set_of_ne hne]
    exact h.elsewhere other hne
  · rw [node?_set hplace, List.take_left]

/-- An incomplete file that was there before stays as far as it was written. -/
theorem Written.kept {received : List UInt8} (h : t.Written place received t')
    (hsome : t.node? place ≠ none) {complete : Prop} (hnot : ¬ complete) :
    t.Fetched place received complete t' := by
  refine ⟨h.here, h.elsewhere, fun hcomplete => absurd hcomplete hnot,
    fun _ hnone => absurd hnone hsome, fun _ old hold => ?_⟩
  rw [h.content, contentAt, hold]

/-- An incomplete file that was made for the download is removed. -/
theorem Written.undo {received : List UInt8} (h : t.Written place received t')
    (hnone : t.node? place = none) {complete : Prop} (hnot : ¬ complete) :
    t.Fetched place received complete (t'.erase place) := by
  rw [h.undone hnone]
  refine ⟨rfl, fun _ _ => rfl, fun hcomplete => absurd hcomplete hnot, fun _ _ => rfl,
    fun _ old hold => ?_⟩
  rw [hnone] at hold
  cases hold

end FileTree

namespace Session

variable {ν : Type} [Network ν]

/-! ## Transfers -/

/-- A payload that makes `store d files` of the local files, by the data connection that it is
moved on, whether it fails or not. -/
def Stores {α : Type} (store : DataLink → FileTree → FileTree)
    (payload : Session ν → Outcome ν α) : Prop :=
  ∀ s d, s.data = some d → (payload s).session.files = store d s.files

/-- Read a file from the data connection over a regular file, which has room for all of it. -/
def receiveRegular (place : Place) (s : Session ν) : Outcome ν Nat :=
  match s.data with
  | none => ⟨.error .dataClosed, { s with files := s.files.overwrite place [] }⟩
  | some d =>
      let bytes := d.source.bytes
      let read := { s.leaveData [] d with files := s.files.overwrite place bytes }
      match d.source.ending.failure? with
      | some cause => ⟨.error (.connection .receivingFile cause), read⟩
      | none =>
          ⟨.ok bytes.length,
            read.log .trace .data ("Received " ++ toString bytes.length ++ " bytes")⟩

omit [Network ν] in
theorem receiveInto_of_file {s : Session ν} {place : Place} {old : List UInt8}
    (h : s.files.node? place = some (.file old)) :
    s.receiveInto place = s.receiveRegular place := by
  unfold receiveInto receiveFile receiveRegular
  rw [FileTree.sinkAt_of_file h]
  cases hd : s.data with
  | none => simp [hd, Sink.unlimited]
  | some d =>
      obtain ⟨houtcome, hrest, hheld, hflush⟩ :=
        Sink.drain_unlimited (s := .unlimited) rfl 0 (d.source.pieces transferBufferSize)
      rw [Source.pieces_flatten, Nat.zero_add] at houtcome
      rw [Source.pieces_flatten] at hheld
      dsimp only
      generalize Sink.unlimited.drain 0 (d.source.pieces transferBufferSize) = w
        at houtcome hrest hheld hflush ⊢
      have hall : w.sink.held = d.source.bytes := hheld
      unfold fileReceived Sink.flush
      rw [houtcome, hflush, hrest]
      cases d.source.ending.failure? with
      | some cause => simp [hall, leaveData]
      | none => simp [hall, leaveData, record, Sink.unlimited]

omit [Network ν] in
theorem receiveRegular_stores (place : Place) :
    Stores (fun d files => files.overwrite place d.source.bytes)
      (receiveRegular (ν := ν) place) := by
  intro s d hd
  unfold receiveRegular
  rw [hd]
  dsimp only
  cases d.source.ending.failure? <;> rfl

/-- The local files once a payload was moved on `d?`, if it came to that. -/
def stored (store : DataLink → FileTree → FileTree) (d? : Option DataLink) (files : FileTree) :
    FileTree :=
  d?.elim files fun d => store d files

theorem exchange_files {α : Type} {store : DataLink → FileTree → FileTree}
    {payload : Session ν → Outcome ν α} (hp : Stores store payload) (c : Command)
    {s : Session ν} (hs : s.data.isSome) :
    (s.exchange c payload).session.files = stored store (s.accepting c) s.files := by
  have hcommand := s.command_ends c
  unfold exchange accepting
  generalize s.command c = o at hcommand ⊢
  obtain ⟨value, t⟩ := o
  cases value with
  | error e => exact hcommand.1.files
  | ok first =>
      obtain ⟨ht, -⟩ := hcommand
      dsimp only [Outcome.andThen_ok]
      by_cases hnegative : first.isNegative
      · rw [if_pos hnegative, if_pos hnegative]
        exact ht.files
      · rw [if_neg hnegative, if_neg hnegative]
        obtain ⟨d, hd⟩ := Option.isSome_iff_exists.1 hs
        have hmoved := hp t d (ht.data.trans hd)
        rw [ht.files] at hmoved
        rw [hd]
        show _ = store d s.files
        rw [← hmoved]
        generalize payload t = moved at hmoved ⊢
        obtain ⟨value, u⟩ := moved
        cases value with
        | error e => rfl
        | ok a =>
            -- Neither closing the data connection nor the last reply touches a file.
            rw [Outcome.andThen_ok]
            refine Outcome.ends_session.1 (u.closeData_ends.andThen ?_ fun _ _ h => h.2.1)
            intro _ v hv
            refine Outcome.Ends.map ?_
            by_cases hpreliminary : first.isPreliminary
            · rw [if_pos hpreliminary]
              exact v.receiveReply_ends.mono (fun _ _ hw => hw.1.files.trans hv.2.1)
                fun _ _ hw => hw.1.files.trans hv.2.1
            · rw [if_neg hpreliminary]
              exact hv.2.1

theorem enterPassive_opens {s : Session ν} (hs : s.data = none) :
    s.enterPassive.Ends
      (fun entered t => t.files = s.files ∧ (entered = .accepted () → ∃ d, t.data = some d ∧
        ∃ u : ν, (Network.connectData d.remote u).result = .established d.source))
      (fun _ t => t.files = s.files) := by
  refine (s.command_ends .epsv).andThen ?_ fun _ _ h => h.1.files
  intro reply t hends
  obtain ⟨ht, -⟩ := hends
  by_cases hnegative : reply.isNegative
  · rw [if_pos hnegative]
    exact ⟨ht.files, fun h => nomatch h⟩
  · rw [if_neg hnegative]
    split
    · exact ht.files
    · exact ht.files
    · rename_i port address _ _
      refine Outcome.Ends.map ((openData_ends ⟨address, port⟩ (ht.data.trans hs)).mono ?_ ?_)
      · intro _ u hends
        obtain ⟨-, hfiles, -, source, hdata, hestablished⟩ := hends
        exact ⟨hfiles.trans ht.files, fun _ => ⟨_, hdata, t.network, hestablished⟩⟩
      · intro e u hends
        exact hends.2.1.trans ht.files

theorem transfer_files {α : Type} {store : DataLink → FileTree → FileTree}
    {payload : Session ν → Outcome ν α} (hp : Stores store payload) (c : Command)
    {s : Session ν} (hs : s.data = none) :
    (s.transfer c payload).session.files = stored store (s.carrying c) s.files := by
  have hentered := enterPassive_opens hs
  unfold transfer carrying
  generalize s.enterPassive = o at hentered ⊢
  obtain ⟨value, t⟩ := o
  cases value with
  | error e => exact hentered
  | ok entered =>
      obtain ⟨hfiles, hopen⟩ := hentered
      cases entered with
      | refused reply => exact hfiles
      | accepted _ =>
          obtain ⟨d, hd, -⟩ := hopen rfl
          show (t.exchange c payload).session.releaseData.files = _
          rw [(releaseData_spec _).2.1, exchange_files hp c (by rw [hd]; rfl), hfiles]

/-- What a payload is moved on is a data connection that the network established. -/
theorem carrying_established {c : Command} {s : Session ν} (hs : s.data = none) {d : DataLink}
    (h : s.carrying c = some d) :
    ∃ u : ν, (Network.connectData d.remote u).result = .established d.source := by
  have hentered := enterPassive_opens hs
  unfold carrying at h
  generalize s.enterPassive = o at hentered h
  split at h
  · rename_i t
    obtain ⟨d', hd', hestablished⟩ := hentered.2 rfl
    unfold accepting at h
    split at h
    · split at h
      · cases h
      · rw [hd'] at h
        rwa [← Option.some.inj h]
    · cases h
  · cases h

/-- A transfer hardly depends on what its payload does: only where the local files are as they
were before it. -/
theorem exchange_congr {α : Type} {payload payload' : Session ν → Outcome ν α} (c : Command)
    {s : Session ν} (h : ∀ t, t.files = s.files → payload t = payload' t) :
    s.exchange c payload = s.exchange c payload' := by
  have hcommand := s.command_ends c
  unfold exchange
  generalize s.command c = o at hcommand ⊢
  obtain ⟨value, t⟩ := o
  cases value with
  | error e => rfl
  | ok first =>
      have hsame : payload t = payload' t := h t hcommand.1.files
      rw [Outcome.andThen_ok, Outcome.andThen_ok, hsame]

theorem transfer_congr {α : Type} {payload payload' : Session ν → Outcome ν α} (c : Command)
    {s : Session ν} (hs : s.data = none)
    (h : ∀ t, t.files = s.files → payload t = payload' t) :
    s.transfer c payload = s.transfer c payload' := by
  have hentered := enterPassive_opens hs
  unfold transfer
  generalize s.enterPassive = o at hentered ⊢
  obtain ⟨value, t⟩ := o
  cases value with
  | error e => rfl
  | ok entered =>
      have hfiles : t.files = s.files := hentered.1
      have hsame := exchange_congr (s := t) c fun u hu => h u (hu.trans hfiles)
      cases entered with
      | refused reply => rfl
      | accepted _ => rw [Outcome.andThen_ok, Outcome.andThen_ok, hsame]

/-! ## Downloads -/

/-- What arrived on a data connection, if there was one. -/
def arrived (d? : Option DataLink) : List UInt8 :=
  d?.elim [] fun d => d.source.bytes

/-- A session that is about to download into the file at a place, which is open. -/
def readied (remote path : String) (place : Place) (s : Session ν) : Session ν :=
  { s.log .debug .client ("Downloading " ++ remote ++ " to " ++ path) with
    files := s.files.opened place }

/-- A download up to the end of its transfer. -/
def fetch (remote path : String) (place : Place) (s : Session ν) : Outcome ν (Answer Nat) :=
  (s.readied remote path place).transfer (.retr remote) (receiveRegular place)

variable {s : Session ν} {path : String} {place : Place}

theorem fetch_eq (hs : s.data = none) (h : s.files.Admits path s.options.overwrite place)
    (remote : String) : s.fetch remote path place =
      (s.readied remote path place).transfer (.retr remote) (receiveInto place) := by
  refine (transfer_congr (s := s.readied remote path place) (.retr remote) hs
    fun t ht => ?_).symm
  have hold : t.files.node? place = some (.file (s.files.contentAt place)) := by
    rw [ht]
    exact h.opened.content
  exact receiveInto_of_file hold

theorem download_of_admits (hs : s.data = none)
    (h : s.files.Admits path s.options.overwrite place) (remote : String) :
    s.download remote path =
      guarded (finishDownload path place (s.files.node? place).isSome
        (s.fetch remote path place)) := by
  have hexisted : (s.options.overwrite && s.files.holds path) = (s.files.node? place).isSome := by
    rw [FileTree.holds_eq h.leads]
    rcases h.free with hnone | ⟨hreplace, -⟩
    · rw [hnone]
      exact Bool.and_false _
    · rw [hreplace]
      exact Bool.true_and _
  rw [fetch_eq hs h]
  unfold download
  dsimp only [log_eq_record, record_files, record_options]
  rw [h.openForWriting, hexisted]
  rfl

theorem fetchLink_of_admits (h : s.files.Admits path s.options.overwrite place)
    (remote : String) :
    s.fetchLink remote path = (s.readied remote path place).carrying (.retr remote) := by
  unfold fetchLink
  dsimp only [log_eq_record, record_files, record_options]
  rw [h.openForWriting]
  rfl

/-- Before the end of a download its file is written over with what arrived, and nothing but
the whole of that is counted. -/
theorem fetch_ends (hs : s.data = none) (h : s.files.Admits path s.options.overwrite place)
    (remote : String) :
    let link? := s.fetchLink remote path
    (s.fetch remote path place).Ends
      (fun answer t => s.files.Written place (arrived link?) t.files ∧
        ∀ n, answer = .accepted n → link?.isSome ∧ n = (arrived link?).length)
      (fun e t => s.files.Written place (arrived link?) t.files ∧ e.breaksSession) := by
  intro link?
  have hlink : link? = (s.readied remote path place).carrying (.retr remote) :=
    fetchLink_of_admits h remote
  have hwritten : (s.fetch remote path place).Ends
      (fun _ t => s.files.Written place (arrived link?) t.files)
      (fun _ t => s.files.Written place (arrived link?) t.files) := by
    refine Outcome.ends_session.2 ?_
    have hfiles := transfer_files (receiveRegular_stores place) (.retr remote)
      (s := s.readied remote path place) hs
    rw [← hlink] at hfiles
    rw [fetch, hfiles]
    cases link? with
    | none => exact h.opened
    | some d => exact h.opened.overwrite (FileTree.place?_ne_nil h.leads) _
  have hcounted := transfer_goes (receiveInto_tells place) (.retr remote)
    (s := s.readied remote path place) hs
  have hbroken := transfer_ends (.retr remote) (receiveInto_isPayload place)
    (s := s.readied remote path place) hs
  rw [← fetch_eq hs h] at hcounted hbroken
  rw [← hlink] at hcounted
  refine (hwritten.and (Outcome.Ends.and hcounted hbroken)).mono ?_ ?_
  · intro answer t hends
    obtain ⟨hwrote, ⟨-, -, last, -, hfits, -⟩, -⟩ := hends
    refine ⟨hwrote, fun n hn => ?_⟩
    obtain ⟨d, hd, hlength⟩ := hfits.2 n hn
    rw [hd]
    exact ⟨rfl, hlength⟩
  · intro e t hends
    exact ⟨hends.1, hends.2.2.2.2⟩

omit [Network ν] in
/-- An incomplete file is kept or removed, whether the transfer was refused or failed. -/
theorem finishDownload_incomplete (path : String) (value : Except Failure (Answer Nat))
    {t : Session ν} {t₀ : FileTree} {received : List UInt8} {complete : Prop}
    (hvalue : ∀ n, value ≠ .ok (.accepted n)) (hnot : ¬ complete)
    (ht : t₀.Written place received t.files) :
    ∃ u, finishDownload path place (t₀.node? place).isSome ⟨value, t⟩ = ⟨value, u⟩ ∧
      t₀.Fetched place received complete u.files := by
  have hend (existed : Bool) : finishDownload path place existed ⟨value, t⟩ =
      ⟨value, if existed then t
        else { t.log .trace .client ("Removing incomplete file " ++ path) with
          files := t.files.erase place }⟩ := by
    unfold finishDownload
    split
    · rename_i count hcount
      exact absurd hcount (hvalue count)
    · cases existed <;> rfl
  refine ⟨_, hend _, ?_⟩
  cases hnode : t₀.node? place with
  | none => exact ht.undo hnode hnot
  | some node => exact ht.kept (by rw [hnode]; exact nofun) hnot

omit [Network ν] in
/-- The end of a download, by what the local files were before it. -/
theorem finishDownload_ends (h : s.files.Admits path s.options.overwrite place)
    {link? : Option DataLink} {o : Outcome ν (Answer Nat)}
    (ho : o.Ends
      (fun answer t => s.files.Written place (arrived link?) t.files ∧
        ∀ n, answer = .accepted n → link?.isSome ∧ n = (arrived link?).length)
      (fun e t => s.files.Written place (arrived link?) t.files ∧ e.breaksSession)) :
    (finishDownload path place (s.files.node? place).isSome o).Ends
      (fun answer t =>
        s.files.Fetched place (arrived link?) (∃ n, answer = .accepted n) t.files ∧
          ∀ n, answer = .accepted n → link?.isSome ∧ n = (arrived link?).length)
      (fun e t => s.files.Fetched place (arrived link?) False t.files ∧ e.breaksSession) := by
  obtain ⟨value, t⟩ := o
  cases value with
  | error e =>
      obtain ⟨hwritten, he⟩ := ho
      obtain ⟨u, hu, hfetched⟩ := finishDownload_incomplete path (.error e)
        (fun _ h => nomatch h) not_false hwritten
      rw [hu]
      exact ⟨hfetched, he⟩
  | ok answer =>
      obtain ⟨hwritten, hcounted⟩ := ho
      cases answer with
      | accepted n =>
          have hcomplete : ∃ m : Nat, Answer.accepted n = .accepted m := ⟨n, rfl⟩
          obtain ⟨files, htruncate, hfetched⟩ :=
            hwritten.cut (FileTree.place?_ne_nil h.leads) hcomplete
          rw [← (hcounted n rfl).2] at htruncate
          unfold finishDownload
          dsimp only
          rw [htruncate]
          exact ⟨hfetched, hcounted⟩
      | refused reply =>
          have hnot : ¬ ∃ n : Nat, Answer.refused reply = .accepted n := nofun
          obtain ⟨u, hu, hfetched⟩ := finishDownload_incomplete path (.ok (.refused reply))
            (fun _ h => nomatch h) hnot hwritten
          rw [hu]
          exact ⟨hfetched, hcounted⟩

theorem report_files (e : Failure) (s : Session ν) : (s.report e).files = s.files := by
  by_cases he : e.breaksSession
  · exact (report_breaking he s).1.files
  · exact (report_other (Bool.eq_false_iff.2 he) s).1.files

theorem guarded_files {α : Type} (o : Outcome ν α) :
    (guarded o).session.files = o.session.files := by
  obtain ⟨value, t⟩ := o
  cases value with
  | ok a => rfl
  | error e => exact report_files e t

theorem download_ends (hs : s.data = none) (h : s.files.Admits path s.options.overwrite place)
    (remote : String) :
    let link? := s.fetchLink remote path
    (s.download remote path).Ends
      (fun answer t =>
        s.files.Fetched place (arrived link?) (∃ n, answer = .accepted n) t.files ∧
          ∀ n, answer = .accepted n → link?.isSome ∧ n = (arrived link?).length)
      (fun e t => s.files.Fetched place (arrived link?) False t.files ∧ e.breaksSession) := by
  intro link?
  rw [download_of_admits hs h]
  refine guarded_of_ends (finishDownload_ends h (fetch_ends hs h remote)) fun e t hends => ?_
  rw [report_files]
  exact hends

/-- An operation that fails because of a local file, before it begins. -/
theorem guarded_unopened {α : Type} (note path : String) (cause : SystemError) (s : Session ν) :
    let o : Outcome ν α := guarded ⟨.error (.file path cause), s.log .debug .client note⟩
    o.value = .error (.file path cause) ∧ o.session.files = s.files ∧
      o.session.wires = s.wires := by
  obtain ⟨htalks, -, hwires⟩ :=
    report_other (e := .file path cause) rfl (s.log .debug .client note)
  refine ⟨rfl, htalks.files, hwires.trans ?_⟩
  rw [log_eq_record, record_wires]
  exact List.append_nil _

/-- Without a local file to write nothing happens. -/
theorem download_unopened {cause : SystemError}
    (h : s.files.openForWriting path s.options.overwrite = .error cause) (remote : String) :
    (s.download remote path).value = .error (.file path cause) ∧
      (s.download remote path).session.files = s.files ∧
      (s.download remote path).session.wires = s.wires := by
  have hdownload : s.download remote path =
      guarded ⟨.error (.file path cause),
        s.log .debug .client ("Downloading " ++ remote ++ " to " ++ path)⟩ := by
    unfold download
    dsimp only [log_eq_record, record_files, record_options]
    rw [h]
  rw [hdownload]
  exact guarded_unopened _ path cause s

omit [Network ν] in
theorem Exchanged.accepts {c : Command} {tell : DataLink → List Notice} {d : DataLink}
    {events : List WireEvent} {notices : List Notice} {last? : Option Reply}
    (h : Exchanged c tell (some d) events notices last?) :
    ∃ first, first.isNegative = false ∧ [.sent c.octets, .received first] <:+: events := by
  cases h with
  | broken sent hfirst =>
      exact ⟨_, hfirst, [], sent.map .dataSent ++ [.dataClosed], by simp⟩
  | answered sent hfirst =>
      exact ⟨_, hfirst, [], sent.map .dataSent ++ [.dataClosed], by simp⟩
  | finished sent last hfirst =>
      exact ⟨_, hfirst, [], sent.map .dataSent ++ [.dataClosed, .received last], by simp⟩

omit [Network ν] in
/-- A payload is moved only where its command was accepted. -/
theorem Course.accepts {c : Command} {tell : DataLink → List Notice} {d : DataLink}
    {events : List WireEvent} {notices : List Notice} {last? : Option Reply}
    (h : Course c tell (some d) events notices last?) :
    ∃ first, first.isNegative = false ∧ [.sent c.octets, .received first] <:+: events := by
  cases h with
  | opened hannounces hexchanged =>
      obtain ⟨first, hfirst, hinfix⟩ := hexchanged.accepts
      exact ⟨first, hfirst, hinfix.trans (List.suffix_append _ _).isInfix⟩

theorem fetchLink_accepts (hs : s.data = none) {remote : String} {d : DataLink}
    (h : s.fetchLink remote path = some d) :
    ∃ first, first.isNegative = false ∧
      [.sent (Command.retr remote).octets, .received first] <:+:
        s.events (.download remote path) := by
  obtain ⟨events, notices, last?, hcourse, hstays, -⟩ := (download_went remote path hs).stays
  rw [h] at hcourse
  obtain ⟨first, hfirst, hinfix⟩ := hcourse.accepts
  refine ⟨first, hfirst, ?_⟩
  have hdownloaded : Stays s events last? (s.run (.download remote path)).2 := hstays
  rcases hdownloaded.events hs with hevents | hevents
  · rw [hevents]
    exact hinfix
  · rw [hevents]
    exact hinfix.trans (List.prefix_append _ _).isInfix

theorem fetchLink_established (hs : s.data = none) {remote : String} {d : DataLink}
    (h : s.fetchLink remote path = some d) :
    ∃ u : ν, (Network.connectData d.remote u).result = .established d.source := by
  unfold fetchLink at h
  dsimp only at h
  split at h
  · cases h
  · refine carrying_established ?_ h
    exact hs

/-- Where no `RETR` was accepted nothing arrived. -/
theorem fetchLink_eq_none (hs : s.data = none) {remote : String}
    (hrefused : ∀ first, [.sent (Command.retr remote).octets, .received first] <:+:
      s.events (.download remote path) → first.isNegative) : s.fetchLink remote path = none := by
  cases hlink : s.fetchLink remote path with
  | none => rfl
  | some d =>
      obtain ⟨first, hfirst, hinfix⟩ := fetchLink_accepts hs hlink
      rw [hrefused first hinfix] at hfirst
      cases hfirst

/-- Where a file can be written a download changes no other place.  An answer that accepts
the payload leaves exactly what arrived and counts it; after any other end a file that was
made for the download is gone, and a file that was there is written over with what arrived,
and with that alone.  Where no file can be written nothing happens at all. -/
theorem moves_download (options : Options) (observers : Observers) (files : FileTree)
    (network : ν) (ms : List (Move ν)) (remote path : String)
    (hplain : ((start options observers files network).moves ms).files.IsPlain) :
    let s := (start options observers files network).moves ms
    let o := s.download remote path
    let events := s.events (.download remote path)
    let link? := s.fetchLink remote path
    (∀ d, link? = some d →
      ∃ u : ν, (Network.connectData d.remote u).result = .established d.source) ∧
    (s.files.Blocked path s.options.overwrite →
      ∀ place, ¬ s.files.Admits path s.options.overwrite place) ∧
    ((∀ place, ¬ s.files.Admits path s.options.overwrite place) →
      (∃ cause, o.value = .error (.file path cause)) ∧ o.session.files = s.files ∧
        events = []) ∧
    ∀ place, s.files.Admits path s.options.overwrite place →
      s.files.Fetched place (arrived link?) (∃ n, o.value = .ok (.accepted n))
        o.session.files ∧
      (∀ n, o.value = .ok (.accepted n) → link?.isSome ∧ n = (arrived link?).length) ∧
      (∀ p cause, o.value ≠ .error (.file p cause)) ∧
      ((∀ first, [.sent (Command.retr remote).octets, .received first] <:+: events →
          first.isNegative) →
        ∀ old, s.files.node? place = some (.file old) →
          o.session.files.node? place = some (.file old)) := by
  intro s o events link?
  have hs : s.data = none := moves_data rfl ms
  refine ⟨fun d hd => fetchLink_established hs hd, fun hblocked _ => hblocked.not_admits,
    fun hnowhere => ?_, fun place hadmits => ?_⟩
  · cases hopen : s.files.openForWriting path s.options.overwrite with
    | ok opened => exact absurd (hplain.admits hopen) (hnowhere opened.1)
    | error cause =>
        obtain ⟨hvalue, hfiles, hwires⟩ := download_unopened hopen remote
        refine ⟨⟨cause, hvalue⟩, hfiles, events_eq (c := .download remote path) hs ?_⟩
        rw [List.append_nil]
        exact hwires
  · have hends := download_ends hs hadmits remote
    have hresult : s.files.Fetched place (arrived link?) (∃ n, o.value = .ok (.accepted n))
          o.session.files ∧
        (∀ n, o.value = .ok (.accepted n) → link?.isSome ∧ n = (arrived link?).length) ∧
        ∀ p cause, o.value ≠ .error (.file p cause) := by
      cases hv : o.value with
      | ok answer =>
          obtain ⟨hfetched, hcounted⟩ := hends.of_ok hv
          refine ⟨hfetched.congr ?_, fun n hn => hcounted n (Except.ok.inj hn), nofun⟩
          simp
      | error e =>
          obtain ⟨hfetched, he⟩ := hends.of_error hv
          refine ⟨hfetched.congr ?_, nofun, fun p cause hfile => ?_⟩
          · simp
          · rw [Except.error.inj hfile] at he
            cases he
    obtain ⟨hfetched, hcounted, hblameless⟩ := hresult
    refine ⟨hfetched, hcounted, hblameless, fun hrefused old hold => ?_⟩
    have hnone : link? = none := fetchLink_eq_none hs hrefused
    rw [hnone] at hfetched hcounted
    exact hfetched.overwritten (fun ⟨n, hn⟩ => nomatch (hcounted n hn).1) old hold

/-! A session in which a file is fetched over another one, from a server that gives its
verdict after the payload. -/

def shelf : FileTree :=
  ⟨[(["local.txt"], .file (Utf8.encode "old content"))], []⟩

def lender (verdict : String) : Scripted.Server :=
  .start true ⟨"host", 21⟩
    [[⟨Utf8.encode "220 Ready\r\n", none, false⟩,
      ⟨Utf8.encode "229 Extended passive mode (|||30008|)\r\n", none, false⟩,
      ⟨Utf8.encode "150 Opening data connection\r\n", some (Utf8.encode verdict), false⟩]]
    [⟨30008, Utf8.encode "fresh", false⟩]

def borrowing (verdict : String) : Session Scripted.Server :=
  (start ⟨none, none, none, true⟩ .empty shelf (lender verdict)).moves
    [.call (.connect "host" 21)]

theorem borrowing_keeps (verdict : String) :
    Keeps (start ⟨none, none, none, true⟩ .empty shelf (lender verdict)) (borrowing verdict) :=
  connect_keeps "host" 21 _

theorem shelf_admits : shelf.Admits "local.txt" true ["local.txt"] :=
  ⟨by decide +kernel, Or.inr ⟨rfl, Utf8.encode "old content", by decide +kernel⟩⟩

theorem shelf_isPlain : shelf.IsPlain := by
  intro place device h
  unfold FileTree.node? at h
  split at h
  · cases h
  · by_cases hplace : (["local.txt"] == place)
    · simp [shelf, hplace] at h
    · simp [shelf, hplace] at h

theorem borrowing_admits (verdict : String) : (borrowing verdict).files.Admits "local.txt"
    (borrowing verdict).options.overwrite ["local.txt"] := by
  rw [(borrowing_keeps verdict).files, (borrowing_keeps verdict).options]
  exact shelf_admits

/-- The download as it can be computed. -/
theorem borrowing_download (verdict : String) :
    (borrowing verdict).download "remote.txt" "local.txt" =
      guarded (finishDownload "local.txt" ["local.txt"]
        ((borrowing verdict).files.node? ["local.txt"]).isSome
        ((borrowing verdict).fetch "remote.txt" "local.txt" ["local.txt"])) :=
  download_of_admits (moves_data rfl _) (borrowing_admits verdict) "remote.txt"

theorem moves_download_whole :
    let s := borrowing "226 Done\r\n"
    let o := s.download "remote.txt" "local.txt"
    s.files.IsPlain ∧ s.files.node? ["local.txt"] = some (.file (Utf8.encode "old content")) ∧
      o.value = .ok (.accepted 5) ∧
      o.session.files.node? ["local.txt"] = some (.file (Utf8.encode "fresh")) := by
  intro s o
  have hfiles : s.files = shelf := (borrowing_keeps _).files
  have hplain : s.files.IsPlain := by
    rw [hfiles]
    exact shelf_isPlain
  have hvalue : o.value = .ok (.accepted 5) := by
    show ((borrowing _).download _ _).value = _
    rw [borrowing_download]
    decide +kernel
  have h := moves_download _ _ _ _ [.call (.connect "host" 21)] "remote.txt" "local.txt" hplain
  refine ⟨hplain, ?_, hvalue, ?_⟩
  · rw [hfiles]
    decide +kernel
  · have harrived : arrived (s.fetchLink "remote.txt" "local.txt") = Utf8.encode "fresh" := by
      decide +kernel
    rw [← harrived]
    exact (h.2.2.2 ["local.txt"] (borrowing_admits _)).1.whole ⟨5, hvalue⟩

/-- A refused download leaves what arrived at the beginning of a file that was there.  So the
file is as it was only if that is what it began with, as it is if no `RETR` was accepted. -/
theorem moves_download_refused (options : Options) (observers : Observers) (files : FileTree)
    (network : ν) (ms : List (Move ν)) (remote path : String) (place : Place)
    (old : List UInt8) (reply : Reply) :
    let s := (start options observers files network).moves ms
    let o := s.download remote path
    let received := arrived (s.fetchLink remote path)
    s.options.overwrite → s.files.place? path = some place →
      s.files.node? place = some (.file old) → o.value = .ok (.refused reply) →
      o.session.files.node? place = some (.file (received ++ old.drop received.length)) ∧
        (o.session.files.node? place = some (.file old) ↔ received <+: old) ∧
        ((∀ first, [.sent (Command.retr remote).octets, .received first] <:+:
            s.events (.download remote path) → first.isNegative) →
          o.session.files.node? place = some (.file old)) := by
  intro s o received hoverwrite hplace hold hvalue
  have hs : s.data = none := moves_data rfl ms
  have hadmits : s.files.Admits path s.options.overwrite place :=
    ⟨hplace, Or.inr ⟨hoverwrite, old, hold⟩⟩
  obtain ⟨hfetched, -⟩ := (download_ends hs hadmits remote).of_ok hvalue
  have hcontent := hfetched.overwritten nofun old hold
  refine ⟨hcontent, ?_, fun hrefused => ?_⟩
  · rw [hcontent]
    constructor
    · intro h
      have hsame : received ++ old.drop received.length = old := by simpa using h
      exact ⟨_, hsame⟩
    · intro h
      obtain ⟨rest, rfl⟩ := h
      rw [List.drop_left]
  · rw [fetchLink_eq_none hs hrefused] at hcontent
    exact hcontent

theorem moves_download_refused_late :
    let s := borrowing "426 Transfer aborted\r\n"
    let o := s.download "remote.txt" "local.txt"
    let reply : Reply := ⟨426, ["426 Transfer aborted"]⟩
    s.options.overwrite ∧ s.files.place? "local.txt" = some ["local.txt"] ∧
      s.files.node? ["local.txt"] = some (.file (Utf8.encode "old content")) ∧
      o.value = .ok (.refused reply) ∧
      o.session.files.node? ["local.txt"] = some (.file (Utf8.encode "freshontent")) := by
  intro s o reply
  have hoverwrite : s.options.overwrite := by rw [(borrowing_keeps _).options]; rfl
  have hplace : s.files.place? "local.txt" = some ["local.txt"] := (borrowing_admits _).leads
  have hold : s.files.node? ["local.txt"] = some (.file (Utf8.encode "old content")) := by
    rw [(borrowing_keeps _).files]
    decide +kernel
  have hvalue : o.value = .ok (.refused reply) := by
    show ((borrowing _).download _ _).value = _
    rw [borrowing_download]
    decide +kernel
  obtain ⟨hcontent, -⟩ := moves_download_refused _ _ _ _ [.call (.connect "host" 21)] "remote.txt"
    "local.txt" ["local.txt"] _ reply hoverwrite hplace hold hvalue
  refine ⟨hoverwrite, hplace, hold, hvalue, ?_⟩
  have harrived : arrived (s.fetchLink "remote.txt" "local.txt") = Utf8.encode "fresh" := by
    decide +kernel
  have hleft : Utf8.encode "freshontent" = Utf8.encode "fresh" ++
      (Utf8.encode "old content").drop (Utf8.encode "fresh").length := by decide +kernel
  rw [hleft, ← harrived]
  exact hcontent

/-- A download that is refused after its payload changes the file that was there. -/
theorem download_refused_changes_file :
    let s := borrowing "426 Transfer aborted\r\n"
    let o := s.download "remote.txt" "local.txt"
    s.options.overwrite ∧
      s.files.node? ["local.txt"] = some (.file (Utf8.encode "old content")) ∧
      o.value = .ok (.refused ⟨426, ["426 Transfer aborted"]⟩) ∧
      o.session.files.node? ["local.txt"] ≠ s.files.node? ["local.txt"] := by
  intro s o
  show s.options.overwrite ∧ _ ∧ ((borrowing _).download _ _).value = _ ∧
    ((borrowing _).download _ _).session.files.node? _ ≠ _
  rw [borrowing_download]
  decide +kernel

end Session
end FtpClient
