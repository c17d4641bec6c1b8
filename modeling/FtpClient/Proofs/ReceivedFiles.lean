import FtpClient.Proofs.Courses

/-
What receiving a file makes of a sink.

The sink may take its octets in parts, be interrupted, be full at any octet and fail to be
flushed, and the octets may arrive in any reads.  None of that shows in the end: the sink holds
the longest beginning of the payload that fits, and receiving succeeds if that is all of it,
the far side ended the stream, and the flush went well.
-/

namespace FtpClient

theorem Source.bytes_chunks (pieces : List (List UInt8)) (ending : Ending) :
    Source.bytes ⟨pieces.map .chunk, ending⟩ = pieces.flatten := by
  induction pieces with
  | nil => rfl
  | cons piece rest ih => exact congrArg (piece ++ ·) ih

namespace Session

variable {ν : Type} {s : Session ν} {d : DataLink} {sink : Sink} {source : Source}

/-- How receiving a file fails: with what does not fit, else with the stream, and else with
the flush. -/
inductive FileLost (sink : Sink) (source : Source) : Failure → Prop where
  | full : ¬ sink.Fits source.bytes → FileLost sink source (.connection .writingFile sink.refusal)
  | cut {cause : SystemError} : sink.Fits source.bytes → source.ending.failure? = some cause →
      FileLost sink source (.connection .receivingFile cause)
  | unflushed {cause : SystemError} : sink.Fits source.bytes → source.ending = .closed →
      sink.flushFailure = some cause → FileLost sink source (.connection .writingFile cause)

theorem FileLost.message {e : Failure} (h : FileLost sink source e) :
    ∃ activity cause, e = .connection activity cause ∧ activity.message =
      if sink.Fits source.bytes ∧ source.ending ≠ .closed then "cannot receive file"
      else "cannot write file" := by
  cases h with
  | full hfull => exact ⟨_, _, rfl, (if_neg fun hcut => hfull hcut.1).symm⟩
  | cut hfits hcause =>
      have hopen : source.ending ≠ .closed := by
        intro hclosed
        rw [Ending.failure?_eq_none.2 hclosed] at hcause
        cases hcause
      exact ⟨_, _, rfl, (if_pos ⟨hfits, hopen⟩).symm⟩
  | unflushed _ hclosed _ => exact ⟨_, _, rfl, (if_neg fun hcut => hcut.2 hclosed).symm⟩

theorem drain_file (sink : Sink) (source : Source) :
    let w := sink.drain 0 (source.pieces transferBufferSize)
    sink.Takes source.bytes w.sink ∧
      (sink.Fits source.bytes → w.outcome = .ok source.bytes.length) ∧
      (¬ sink.Fits source.bytes → w.outcome = .error sink.refusal) := by
  intro w
  obtain ⟨htakes, houtcome⟩ := sink.drain_takes 0 (source.pieces transferBufferSize)
  rw [Source.pieces_flatten] at htakes houtcome
  rw [Nat.zero_add] at houtcome
  refine ⟨htakes, fun hfits => ?_, fun hfull => ?_⟩
  · rw [houtcome, if_pos (Sink.fits_iff.1 hfits)]
  · rw [houtcome, if_neg (fun hall => hfull (Sink.fits_iff.2 hall))]

theorem fileReceived_full (h : ¬ sink.Fits source.bytes) :
    fileReceived (sink.drain 0 (source.pieces transferBufferSize)) source.ending =
      .error (.connection .writingFile sink.refusal) := by
  unfold fileReceived
  rw [(drain_file sink source).2.2 h]

theorem fileReceived_fits (h : sink.Fits source.bytes) :
    fileReceived (sink.drain 0 (source.pieces transferBufferSize)) source.ending =
      match source.ending.failure?, sink.flushFailure with
      | some cause, _ => .error (.connection .receivingFile cause)
      | none, some cause => .error (.connection .writingFile cause)
      | none, none => .ok source.bytes.length := by
  obtain ⟨htakes, houtcome, -⟩ := drain_file sink source
  unfold fileReceived Sink.flush
  rw [houtcome h, htakes.flushFailure]
  cases source.ending.failure? with
  | some cause => rfl
  | none => cases sink.flushFailure <;> rfl

theorem fileReceived_eq_ok {n : Nat} :
    fileReceived (sink.drain 0 (source.pieces transferBufferSize)) source.ending = .ok n ↔
      source.ending = .closed ∧ sink.Fits source.bytes ∧ sink.flushFailure = none ∧
        n = source.bytes.length := by
  by_cases hfits : sink.Fits source.bytes
  · rw [fileReceived_fits hfits, ← Ending.failure?_eq_none]
    cases source.ending.failure? with
    | some cause => simp
    | none => cases sink.flushFailure <;> simp [hfits, eq_comm]
  · simp [fileReceived_full hfits, hfits]

theorem fileReceived_eq_error {e : Failure} :
    fileReceived (sink.drain 0 (source.pieces transferBufferSize)) source.ending = .error e ↔
      FileLost sink source e := by
  constructor
  · intro h
    by_cases hfits : sink.Fits source.bytes
    · rw [fileReceived_fits hfits] at h
      split at h
      · rename_i cause hcause
        obtain rfl := Except.error.inj h
        exact .cut hfits hcause
      · rename_i cause hclosed hflush
        obtain rfl := Except.error.inj h
        exact .unflushed hfits (Ending.failure?_eq_none.1 hclosed) hflush
      · cases h
    · rw [fileReceived_full hfits] at h
      obtain rfl := Except.error.inj h
      exact .full hfits
  · intro h
    cases h with
    | full hfull => exact fileReceived_full hfull
    | cut hfits hcause => rw [fileReceived_fits hfits, hcause]
    | unflushed hfits hclosed hflush =>
        rw [fileReceived_fits hfits, Ending.failure?_eq_none.2 hclosed, hflush]

/-- What `receiveFile` comes to, by the writes into its sink. -/
theorem receiveFile_eq (hd : s.data = some d) (sink : Sink) :
    let w := sink.drain 0 (d.source.pieces transferBufferSize)
    (s.receiveFile sink).1.value = fileReceived w d.source.ending ∧
      (s.receiveFile sink).1.session.data =
        some { d with source := ⟨w.rest.map .chunk, d.source.ending⟩ } ∧
      (s.receiveFile sink).2 = w.sink := by
  intro w
  unfold receiveFile
  rw [hd]
  dsimp only
  cases fileReceived w d.source.ending with
  | error e => exact ⟨rfl, rfl, rfl⟩
  | ok count => exact ⟨rfl, rfl, rfl⟩

/-- Receiving a file is exact whatever the reads and the sink are: it succeeds just where the
far side ends a stream that fits into the sink and the flush goes well, and the sink holds the
longest beginning that fits of what was read.  Text is decoded from all that arrives. -/
theorem receiveFile_exact (hd : s.data = some d) (sink : Sink) :
    let payload := d.source.bytes
    let o := (s.receiveFile sink).1
    let filled := (s.receiveFile sink).2
    (∀ n, o.value = .ok n ↔
      d.source.ending = .closed ∧ sink.Fits payload ∧ sink.flushFailure = none ∧
        n = payload.length) ∧
    (∀ n, o.value = .ok n → filled.held = sink.held ++ payload) ∧
    (∀ e, o.value = .error e ↔ FileLost sink d.source e) ∧
    (∀ e, o.value = .error e → ∃ activity cause, e = .connection activity cause ∧
      activity.message =
        if sink.Fits payload ∧ d.source.ending ≠ .closed then "cannot receive file"
        else "cannot write file") ∧
    (∃ d' read, o.session.data = some d' ∧ payload = read ++ d'.source.bytes ∧
      sink.Filled read filled) ∧
    sink.Filled payload filled ∧
    s.receiveText.value =
      match d.source.ending.failure? with
      | none => .ok (Utf8.decode payload)
      | some cause => .error (.connection .receivingData cause) := by
  intro payload o filled
  obtain ⟨hvalue, hdata, hsink⟩ := receiveFile_eq hd sink
  obtain ⟨htakes, -⟩ := drain_file sink d.source
  rw [← hsink] at htakes
  have hlost (e : Failure) : o.value = .error e ↔ FileLost sink d.source e := by
    rw [hvalue]
    exact fileReceived_eq_error
  refine ⟨fun n => ?_, fun n hn => ?_, hlost, fun e he => ?_, ?_, htakes.filled, ?_⟩
  · rw [hvalue]
    exact fileReceived_eq_ok
  · rw [hvalue] at hn
    exact htakes.filled.whole (fileReceived_eq_ok.1 hn).2.1
  · exact ((hlost e).1 he).message
  · obtain ⟨done, hdone, hdrain⟩ := sink.drain_done 0 (d.source.pieces transferBufferSize)
    have hread := (sink.drain_takes 0 done).1
    rw [hdrain, ← hsink] at hread
    refine ⟨_, done.flatten, hdata, ?_, hread.filled⟩
    rw [Source.bytes_chunks, ← List.flatten_append, ← hdone, Source.pieces_flatten]
  · unfold receiveText
    rw [hd]
    dsimp only
    cases d.source.ending.failure? <;> rfl

/-! Six octets that arrive in two reads, and a sink that has room for four of them, takes up to
three in a call and is interrupted in between. -/

def sixOctets : DataLink :=
  ⟨⟨"host", 30008⟩, ⟨[.chunk [1, 2, 3], .interrupted, .chunk [4, 5, 6]], .closed⟩⟩

def roomForFour : Sink :=
  { held := [], calls := 0, capacity := fun _ => 3, interruptions := fun n => 2 * n
    limit := some 4, overflow := some .noSpaceLeft, flushFailure := none }

def receivingSix : Session Unit :=
  { start ⟨none, none, none, false⟩ .empty ⟨[], []⟩ () with data := some sixOctets }

theorem receiveFile_exact_sixOctets :
    receivingSix.data = some sixOctets ∧
      (receivingSix.receiveFile roomForFour).1.value =
        .error (.connection .writingFile .noSpaceLeft) ∧
      (receivingSix.receiveFile roomForFour).2.held = [1, 2, 3, 4] := by
  have hdata : receivingSix.data = some sixOctets := rfl
  have hfull : ¬ roomForFour.Fits sixOctets.source.bytes :=
    by decide
  obtain ⟨-, -, hlost, -, -, hfilled, -⟩ := receiveFile_exact hdata roomForFour
  refine ⟨hdata, (hlost _).2 (.full hfull), ?_⟩
  obtain ⟨kept, hheld, hprefix, hfits, hlongest⟩ := hfilled
  have hfour : [1, 2, 3, 4] <+: kept := by
    refine hlongest _ ⟨[5, 6], rfl⟩ fun limit hlimit => ?_
    rw [← Option.some.inj hlimit]
    decide
  have hkept : [1, 2, 3, 4] = kept := hfour.eq_of_length_le (hfits 4 rfl)
  rw [hheld, ← hkept]
  rfl

end Session
end FtpClient
