import FtpClient.Network.Scripted
import FtpClient.Proofs.Downloads
import FtpClient.Proofs.Reads

/-
What an upload puts on its data connection.

A source is written piece by piece as it is read, so what is written before a read fails is all
that the source delivered.  `Writes` follows that through the network, and `Delivered` lists the
events of an upload that succeeded: the content of the file, whole and in order, on a data
connection of its own.  Before anything of that the local file is opened, and none is changed.
-/

namespace FtpClient

/-! ## Networks that take data -/

namespace Network

variable {ν : Type} [Network ν]

/-- A network after pieces were written on its data connection. -/
def afterData (pieces : List (List UInt8)) (u : ν) : ν :=
  pieces.foldl (fun u piece => (sendData piece u).network) u

/-- A network whose data connection takes all that is written. -/
def TakesData (u : ν) : Prop :=
  ∀ pieces piece, (sendData piece (afterData pieces u)).result = .ok ()

end Network

/-- The data connection of a server that plays a script takes all data while it is open. -/
theorem Scripted.Server.takesData {u : Scripted.Server} (h : u.dataOpen) :
    Network.TakesData u := by
  intro pieces piece
  have hopen : (Network.afterData pieces u).dataOpen := by
    induction pieces generalizing u with
    | nil => exact h
    | cons first rest ih =>
        refine ih (u := (Network.sendData first u).network) ?_
        simp [Network.sendData, sendData, h]
  simp [Network.sendData, sendData, hopen]

/-! ## Written octets, and answers that count them -/

/-- The octets that events put on data connections. -/
def dataOctets (events : List WireEvent) : List UInt8 :=
  events.flatMap fun
    | .dataSent bytes => bytes
    | _ => []

theorem dataOctets_append (events events' : List WireEvent) :
    dataOctets (events ++ events') = dataOctets events ++ dataOctets events' :=
  List.flatMap_append

theorem dataOctets_dataSent (pieces : List (List UInt8)) :
    dataOctets (pieces.map .dataSent) = pieces.flatten := by
  rw [dataOctets, List.flatMap_map, List.flatMap_def]
  exact congrArg List.flatten (List.map_id pieces)

theorem Answer.eq_of_map {α : Type} {last : Reply} {value a : α}
    (h : ((Answer.ofReply last).map fun _ => value) = .accepted a) : value = a := by
  cases hanswer : Answer.ofReply last with
  | refused reply =>
      rw [hanswer] at h
      cases h
  | accepted reply =>
      rw [hanswer] at h
      exact Answer.accepted.inj h

namespace Session

variable {ν : Type} [Network ν] {s t : Session ν}

/-! ## Writing a source -/

/-- A session that has written pieces on its data connection. -/
structure Writes (s : Session ν) (pieces : List (List UInt8)) (t : Session ν) : Prop where
  data : t.data = s.data
  wires : t.wires = s.wires ++ pieces.map .dataSent
  network : t.network = Network.afterData pieces s.network

/-- The write of some piece fails, after the pieces before it. -/
def WriteFails (s : Session ν) (pieces : List (List UInt8)) (e : Failure) : Prop :=
  ∃ sent piece cause, sent ++ [piece] <+: pieces ∧
    (Network.sendData piece (Network.afterData sent s.network)).result = .error cause ∧
    e = .connection .sendingFile cause

theorem sendPieces_writes (count : Nat) (pieces : List (List UInt8)) (s : Session ν) :
    (s.sendPieces count pieces).Ends
      (fun n t => n = count + pieces.flatten.length ∧ Writes s pieces t)
      (fun e _ => WriteFails s pieces e) := by
  induction pieces generalizing count s with
  | nil => exact ⟨rfl, rfl, (List.append_nil _).symm, rfl⟩
  | cons piece rest ih =>
      unfold sendPieces
      generalize hr : Network.sendData piece s.network = r
      dsimp only
      cases hresult : r.result with
      | error cause =>
          refine ⟨[], piece, cause, ⟨rest, rfl⟩, ?_, rfl⟩
          show (Network.sendData piece s.network).result = _
          rw [hr, hresult]
      | ok _ =>
          refine (ih _ _).mono ?_ ?_
          · intro n t hends
            obtain ⟨rfl, ht⟩ := hends
            refine ⟨?_, ht.data, ?_, ?_⟩
            · rw [List.flatten_cons, List.length_append, Nat.add_assoc]
            · rw [ht.wires]
              simp [wireEvents]
            · rw [ht.network]
              simp [Network.afterData, hr]
          · intro e t hends
            obtain ⟨sent, last, cause, hprefix, hfailed, he⟩ := hends
            refine ⟨piece :: sent, last, cause, (List.prefix_cons_inj piece).2 hprefix, ?_, he⟩
            rw [← hfailed]
            simp [Network.afterData, hr]

theorem sendFile_writes {d : DataLink} (hd : s.data = some d) (source : Source) :
    (s.sendFile source).Ends
      (fun n t => n = source.bytes.length ∧ source.ending.failure? = none ∧
        Writes s (source.pieces transferBufferSize) t)
      (fun e t => (∃ cause, source.ending.failure? = some cause ∧
          e = .connection .readingFile cause ∧
          Writes s (source.pieces transferBufferSize) t) ∨
        WriteFails s (source.pieces transferBufferSize) e) := by
  unfold sendFile
  rw [hd]
  refine (sendPieces_writes 0 _ s).andThen ?_ fun _ _ h => Or.inr h
  intro count t hends
  obtain ⟨hcount, ht⟩ := hends
  rw [Source.pieces_flatten, Nat.zero_add] at hcount
  cases hf : source.ending.failure? with
  | some cause => exact Or.inl ⟨cause, rfl, rfl, ht⟩
  | none => exact ⟨hcount, rfl, ht.data, by rw [← ht.wires]; simp [wireEvents], ht.network⟩

theorem sendFile_taken {d : DataLink} (hd : s.data = some d) (h : Network.TakesData s.network)
    (source : Source) :
    (s.sendFile source).value = (match source.ending.failure? with
      | none => .ok source.bytes.length
      | some cause => .error (.connection .readingFile cause)) ∧
    Writes s (source.pieces transferBufferSize) (s.sendFile source).session := by
  have hends := sendFile_writes hd source
  generalize s.sendFile source = o at hends ⊢
  obtain ⟨value, t⟩ := o
  cases value with
  | ok n =>
      obtain ⟨rfl, hclosed, ht⟩ := hends
      rw [hclosed]
      exact ⟨rfl, ht⟩
  | error e =>
      rcases hends with ⟨cause, hcause, rfl, ht⟩ | ⟨sent, piece, cause, -, hfailed, -⟩
      · rw [hcause]
        exact ⟨rfl, ht⟩
      · rw [h sent piece] at hfailed
        cases hfailed

/-! ## Transfers of a source -/

/-- A payload that has written `content` on the data connection wherever it comes to a count,
which is the length of that. -/
def Sends (content : List UInt8) (payload : Session ν → Outcome ν Nat) : Prop :=
  ∀ s, s.data.isSome → (payload s).Ends
    (fun n t => n = content.length ∧ t.data.isSome ∧
      dataOctets t.wires = dataOctets s.wires ++ content)
    (fun _ _ => True)

theorem sendFile_sends (source : Source) : Sends source.bytes (sendFile (ν := ν) source) := by
  intro s hs
  obtain ⟨d, hd⟩ := Option.isSome_iff_exists.1 hs
  refine (sendFile_writes hd source).mono ?_ fun _ _ _ => trivial
  intro n t hends
  obtain ⟨hn, -, ht⟩ := hends
  refine ⟨hn, by rw [ht.data, hd]; rfl, ?_⟩
  rw [ht.wires, dataOctets_append, dataOctets_dataSent, Source.pieces_flatten]

/-- An answer that accepts a payload counts `content`, which has been written by then. -/
def Sent (s : Session ν) (content : List UInt8) (answer : Answer Nat) (t : Session ν) : Prop :=
  ∀ n, answer = .accepted n →
    n = content.length ∧ dataOctets t.wires = dataOctets s.wires ++ content

theorem exchange_sends {content : List UInt8} {payload : Session ν → Outcome ν Nat}
    (hp : Sends content payload) (c : Command) {s : Session ν} (hs : s.data.isSome) :
    (s.exchange c payload).Ends (Sent s content) (fun _ _ => True) := by
  refine ((s.command_adds c).and (s.command_ends c)).andThen ?_ fun _ _ _ => trivial
  intro first t hends
  obtain ⟨ht, htalks, -⟩ := hends
  by_cases hnegative : first.isNegative
  · rw [if_pos hnegative]
    exact fun _ h => nomatch h
  · rw [if_neg hnegative]
    have hopen : t.data.isSome := by rw [htalks.data]; exact hs
    refine (hp t hopen).andThen ?_ fun _ _ _ => trivial
    intro value u hends
    obtain ⟨hvalue, hheld, hu⟩ := hends
    refine (closeData_adds hheld).andThen ?_ fun _ _ _ => trivial
    intro _ v hends
    have hwritten : dataOctets v.wires = dataOctets s.wires ++ content := by
      rw [hends.1.wires, dataOctets_append, hu, ht.wires, dataOctets_append]
      simp [dataOctets]
    refine Outcome.Ends.map ?_
    by_cases hpreliminary : first.isPreliminary
    · rw [if_pos hpreliminary]
      refine v.receiveReply_adds.mono ?_ fun _ _ _ => trivial
      intro last w hw n hn
      refine ⟨(Answer.eq_of_map hn).symm.trans hvalue, ?_⟩
      rw [hw.wires, dataOctets_append, hwritten]
      simp [dataOctets]
    · rw [if_neg hpreliminary]
      exact fun n hn => ⟨(Answer.eq_of_map hn).symm.trans hvalue, hwritten⟩

theorem transfer_sends {content : List UInt8} {payload : Session ν → Outcome ν Nat}
    (hp : Sends content payload) (c : Command) {s : Session ν} (hs : s.data = none) :
    (s.transfer c payload).Ends (Sent s content) (fun _ _ => True) := by
  refine (enterPassive_adds hs).andThen ?_ fun _ _ _ => trivial
  intro entered t hends
  cases entered with
  | refused reply => exact fun _ h => nomatch h
  | accepted _ =>
      obtain ⟨hopen, reply, target, -, ht⟩ := hends
      refine Outcome.ends_mapSession.2 ((exchange_sends hp c hopen).mono ?_ fun _ _ _ => trivial)
      intro answer u hu n hn
      obtain ⟨hcount, hwritten⟩ := hu n hn
      refine ⟨hcount, ?_⟩
      rw [(releaseData_spec u).2.2.2, dataOctets_append, hwritten, ht.wires, dataOctets_append]
      cases u.data.isSome <;> simp [dataOctets]

/-- The events of a transfer that has written `content`, whole and in order, on a data
connection of its own, and that was accepted. -/
inductive Delivered (c : Command) (content : List UInt8) : List WireEvent → Prop where
  | answered {reply : Reply} {target : Endpoint} {first : Reply} {sent : List (List UInt8)} :
      Announces reply target → first.isNegative = false → first.isPreliminary = false →
      sent.flatten = content →
      Delivered c content
        ([.sent Command.epsv.octets, .received reply, .dataConnected target,
          .sent c.octets, .received first] ++ sent.map .dataSent ++ [.dataClosed])
  | finished {reply : Reply} {target : Endpoint} {first : Reply} {sent : List (List UInt8)}
      {last : Reply} :
      Announces reply target → first.isNegative = false → first.isPreliminary →
      sent.flatten = content → last.isNegative = false →
      Delivered c content
        ([.sent Command.epsv.octets, .received reply, .dataConnected target,
          .sent c.octets, .received first] ++ sent.map .dataSent ++
          [.dataClosed, .received last])

omit [Network ν] in
theorem Exchanged.delivered {c : Command} {tell : DataLink → List Notice} {d? : Option DataLink}
    {events : List WireEvent} {notices : List Notice} {last : Reply} {reply : Reply}
    {target : Endpoint} (h : Exchanged c tell d? events notices (some last))
    (hlast : last.isNegative = false) (hannounces : Announces reply target) :
    Delivered c (dataOctets events)
      ([.sent Command.epsv.octets, .received reply, .dataConnected target] ++ events) := by
  generalize hl : some last = last? at h
  cases h with
  | declined hsaid hrefused =>
      rw [hrefused last hl.symm] at hlast
      cases hlast
  | broken sent hfirst => cases hl
  | answered sent hfirst hfinal =>
      refine .answered hannounces hfirst hfinal ?_
      rw [dataOctets_append, dataOctets_append, dataOctets_dataSent]
      simp [dataOctets]
  | finished sent last' hfirst hpreliminary =>
      obtain rfl := Option.some.inj hl
      refine .finished hannounces hfirst hpreliminary ?_ hlast
      rw [dataOctets_append, dataOctets_append, dataOctets_dataSent]
      simp [dataOctets]

omit [Network ν] in
theorem Course.delivered {c : Command} {tell : DataLink → List Notice} {d? : Option DataLink}
    {events : List WireEvent} {notices : List Notice} {last : Reply}
    (h : Course c tell d? events notices (some last)) (hlast : last.isNegative = false) :
    Delivered c (dataOctets events) events := by
  generalize hl : some last = last? at h
  cases h with
  | unopened hsaid hrefused =>
      rw [hrefused last hl.symm] at hlast
      cases hlast
  | unconnected reply htried => cases hl
  | opened hannounces hexchanged =>
      subst hl
      exact hexchanged.delivered hlast hannounces

/-! ## Uploads -/

/-- A session that is about to upload. -/
def uploading (path remote : String) (s : Session ν) : Session ν :=
  s.log .debug .client ("Uploading " ++ path ++ " to " ++ remote)

theorem upload_of_readable {source : Source} {path : String}
    (h : s.files.openForReading path = .ok source) (remote : String) :
    s.upload path remote =
      guarded ((s.uploading path remote).transfer (.stor remote) (sendFile source)) := by
  unfold upload uploading
  dsimp only [log_eq_record, record_files]
  rw [h]

/-- Without a local file to read nothing happens. -/
theorem upload_unopened {path : String} {cause : SystemError}
    (h : s.files.openForReading path = .error cause) (remote : String) :
    (s.upload path remote).value = .error (.file path cause) ∧
      (s.upload path remote).session.files = s.files ∧
      (s.upload path remote).session.wires = s.wires := by
  have hupload : s.upload path remote = guarded ⟨.error (.file path cause),
      s.log .debug .client ("Uploading " ++ path ++ " to " ++ remote)⟩ := by
    unfold upload
    dsimp only [log_eq_record, record_files]
    rw [h]
  rw [hupload]
  exact guarded_unopened _ path cause s

theorem sendPieces_files (count : Nat) (pieces : List (List UInt8)) (s : Session ν) :
    (s.sendPieces count pieces).session.files = s.files := by
  induction pieces generalizing count s with
  | nil => rfl
  | cons piece rest ih =>
      unfold sendPieces
      dsimp only
      cases (Network.sendData piece s.network).result with
      | error cause => rfl
      | ok _ => exact ih _ _

theorem sendFile_stores (source : Source) :
    Stores (fun _ files => files) (sendFile (ν := ν) source) := by
  intro s d hd
  have hfiles := sendPieces_files 0 (source.pieces transferBufferSize) s
  unfold sendFile
  rw [hd]
  dsimp only
  generalize s.sendPieces 0 (source.pieces transferBufferSize) = o at hfiles ⊢
  obtain ⟨value, t⟩ := o
  cases value with
  | error e => exact hfiles
  | ok count =>
      rw [Outcome.andThen_ok]
      cases source.ending.failure? <;> exact hfiles

/-- An upload changes no local file. -/
theorem upload_files (hs : s.data = none) (path remote : String) :
    (s.upload path remote).session.files = s.files := by
  cases hopen : s.files.openForReading path with
  | error cause => exact (upload_unopened hopen remote).2.1
  | ok source =>
      have hmoved := transfer_files (sendFile_stores source) (.stor remote)
        (s := s.uploading path remote) hs
      rw [upload_of_readable hopen, guarded_files, hmoved]
      unfold stored
      cases (s.uploading path remote).carrying (.stor remote) <;> rfl

/-- An upload that is accepted has written all of its source, and counts it. -/
theorem upload_accepted (hs : s.data = none) {path remote : String} {source : Source} {n : Nat}
    (hopen : s.files.openForReading path = .ok source)
    (hvalue : (s.upload path remote).value = .ok (.accepted n)) :
    n = source.bytes.length ∧
      Delivered (.stor remote) source.bytes (s.events (.upload path remote)) := by
  have hsent : (s.upload path remote).Ends (Sent s source.bytes) (fun _ _ => True) := by
    rw [upload_of_readable hopen]
    have hmoved := transfer_sends (sendFile_sends source) (.stor remote)
      (s := s.uploading path remote) hs
    refine guarded_of_ends (hmoved.mono ?_ fun _ _ h => h) fun _ _ _ => trivial
    intro answer t ht k hk
    simpa [uploading, wireEvents] using ht k hk
  obtain ⟨events, notices, last, ⟨d?, hcourse⟩, hanswer, hadds⟩ :=
    (upload_went path remote hs).of_ok hvalue
  obtain ⟨hcount, hwritten⟩ := hsent.of_ok hvalue n rfl
  have hlast : last.isNegative = false := by
    by_contra hnegative
    rw [Answer.ofReply, if_pos (by simpa using hnegative)] at hanswer
    cases hanswer
  have hcontent : dataOctets events = source.bytes := by
    rw [hadds.wires, dataOctets_append] at hwritten
    exact List.append_cancel_left hwritten
  have hevents : s.events (.upload path remote) = events :=
    events_eq (c := .upload path remote) hs hadds.wires
  refine ⟨hcount, ?_⟩
  rw [hevents, ← hcontent]
  exact hcourse.delivered hlast

/-- Only the local file is to blame for a file error. -/
theorem upload_blames (hs : s.data = none) {path remote p : String} {cause : SystemError}
    (hvalue : (s.upload path remote).value = .error (.file p cause)) :
    p = path ∧ s.files.Unreadable path cause := by
  cases hopen : s.files.openForReading path with
  | error cause' =>
      rw [(upload_unopened hopen remote).1] at hvalue
      cases hvalue
      exact ⟨rfl, FileTree.unreadable_of_openForReading hopen⟩
  | ok source =>
      have hends : (s.upload path remote).Ends (fun _ _ => True) (fun e _ => e.breaksSession) := by
        have hmoved := transfer_ends (.stor remote) (sendFile_isPayload source)
          (s := s.uploading path remote) hs
        rw [upload_of_readable hopen]
        exact guarded_of_ends (hmoved.mono (fun _ _ _ => trivial) fun _ _ h => h.2.2)
          fun _ _ h => h
      cases hends.of_error hvalue

/-- On a data connection that takes all writes, sending a file puts there just what its reads
take, piece by piece: all that the source delivers before it ends or fails.  So an upload that
is accepted has written the content of its file, whole and in order, and counts it.  No upload
changes a local file, and one whose file cannot be opened for reading does nothing else than to
report that. -/
theorem moves_upload (options : Options) (observers : Observers) (files : FileTree)
    (network : ν) (ms : List (Move ν)) (path remote : String) :
    let s := (start options observers files network).moves ms
    let o := s.upload path remote
    let events := s.events (.upload path remote)
    (∀ (t : Session ν) d source, t.data = some d → Network.TakesData t.network →
      (t.sendFile source).value = (match source.ending.failure? with
        | none => .ok source.bytes.length
        | some cause => .error (.connection .readingFile cause)) ∧
      ∃ pieces, Source.Reads transferBufferSize source.arrivals pieces ∧
        pieces.flatten = source.bytes ∧ Writes t pieces (t.sendFile source).session) ∧
    (∀ place content n, s.files.find path = .ok (place, .file content) →
      o.value = .ok (.accepted n) →
      n = content.length ∧ Delivered (.stor remote) content events) ∧
    o.session.files = s.files ∧
    (∀ cause, s.files.Unreadable path cause →
      o.value = .error (.file path cause) ∧ events = []) ∧
    ∀ p cause, o.value = .error (.file p cause) → p = path ∧ s.files.Unreadable path cause := by
  intro s o events
  have hs : s.data = none := moves_data rfl ms
  refine ⟨fun t d source hd htakes => ?_, fun place content n hfind hvalue => ?_,
    upload_files hs path remote, fun cause h => ?_, fun p cause => upload_blames hs⟩
  · obtain ⟨hvalue, hwrites⟩ := sendFile_taken hd htakes source
    exact ⟨hvalue, _, Source.reads_pieces (by decide) source, Source.pieces_flatten _ _, hwrites⟩
  · have hopen := FileTree.openForReading_of_find hfind
    have haccepted := upload_accepted hs hopen hvalue
    rwa [Source.ofBytes_bytes] at haccepted
  · obtain ⟨hvalue, -, hwires⟩ := upload_unopened h.openForReading remote
    refine ⟨hvalue, events_eq (c := .upload path remote) hs ?_⟩
    rw [List.append_nil]
    exact hwires

/-- A file that is sent to a server with a data connection for it, and a source that fails. -/
theorem moves_upload_whole :
    let s := borrowing "226 Done\r\n"
    let o := s.upload "local.txt" "remote.txt"
    let source : Source := ⟨[.chunk [1, 2], .interrupted, .chunk [3]], .failed .noSuchDevice⟩
    let t : Session Scripted.Server :=
      { s with
        data := some ⟨⟨"host", 30008⟩, ⟨[], .closed⟩⟩
        network := { s.network with dataOpen := true } }
    s.files.find "local.txt" = .ok (["local.txt"], .file (Utf8.encode "old content")) ∧
      o.value = .ok (.accepted 11) ∧
      Delivered (.stor "remote.txt") (Utf8.encode "old content")
        (s.events (.upload "local.txt" "remote.txt")) ∧
      o.session.network.receivedData = [(30008, Utf8.encode "old content")] ∧
      (t.sendFile source).value = .error (.connection .readingFile .noSuchDevice) ∧
      dataOctets (t.sendFile source).session.wires = dataOctets s.wires ++ [1, 2, 3] := by
  intro s o source t
  have hfind : s.files.find "local.txt" =
      .ok (["local.txt"], .file (Utf8.encode "old content")) := by decide +kernel
  have hvalue : o.value = .ok (.accepted 11) := by decide +kernel
  obtain ⟨hsent, hdelivered, -⟩ := moves_upload ⟨none, none, none, true⟩ .empty shelf
    (lender "226 Done\r\n") [.call (.connect "host" 21)] "local.txt" "remote.txt"
  obtain ⟨hfailed, pieces, -, hpieces, hwrites⟩ :=
    hsent t _ source rfl (Scripted.Server.takesData rfl)
  refine ⟨hfind, hvalue, (hdelivered _ _ 11 hfind hvalue).2, by decide +kernel, hfailed, ?_⟩
  rw [hwrites.wires, dataOctets_append, dataOctets_dataSent, hpieces]
  rfl

end Session
end FtpClient
