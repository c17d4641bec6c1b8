import FtpClient.Stream.Sink

/-
Writing into a sink, whatever its calls take and however often they are interrupted.

All that matters of a sink is how much it has room for: a write fills it with as much as fits,
and it succeeds if that is everything.  `write_takes` says so of one write and `drain_takes` of
pieces that are written one after another, for which only their concatenation counts.  `Filled`
says the same without counting room: the sink has taken the longest beginning that fits.
-/

namespace FtpClient
namespace Sink

variable {s t : Sink} {bytes : List UInt8}

/-! ## Room -/

theorem room_le (s : Sink) (n : Nat) : s.room n ≤ n := by
  unfold room
  cases s.limit with
  | none => exact Nat.le_refl n
  | some limit => exact Nat.min_le_left n _

theorem room_zero (s : Sink) : s.room 0 = 0 :=
  Nat.le_zero.1 (s.room_le 0)

theorem room_mono (s : Sink) {m n : Nat} (h : m ≤ n) : s.room m ≤ s.room n := by
  unfold room
  cases s.limit with
  | none => exact h
  | some limit =>
      show min m (limit - s.held.length) ≤ min n (limit - s.held.length)
      omega

/-- A sink in which one of some octets does not fit is full after the others. -/
theorem room_stays (s : Sink) {m n : Nat} (hfull : s.room m < m) (h : m ≤ n) :
    s.room n = s.room m := by
  unfold room at hfull ⊢
  cases hl : s.limit with
  | none =>
      rw [hl] at hfull
      exact absurd hfull (Nat.lt_irrefl m)
  | some limit =>
      rw [hl] at hfull
      dsimp only at hfull ⊢
      omega

theorem room_eq_zero {m : Nat} (hm : 0 < m) (h : s.room m = 0) (n : Nat) : s.room n = 0 := by
  have hfull : s.room m < m := by omega
  by_cases hn : m ≤ n
  · rw [s.room_stays hfull hn]
    exact h
  · have hle := s.room_mono (Nat.le_of_not_le hn)
    omega

/-- A sink after it was filled with as much of some octets as it has room for. -/
structure Takes (s : Sink) (bytes : List UInt8) (t : Sink) : Prop where
  held : t.held = s.held ++ bytes.take (s.room bytes.length)
  limit : t.limit = s.limit
  overflow : t.overflow = s.overflow
  flushFailure : t.flushFailure = s.flushFailure

/-- How writing beyond the room of a sink fails. -/
def refusal (s : Sink) : SystemError :=
  s.overflow.getD .tookNothing

namespace Takes

theorem nil (s : Sink) : Takes s [] s :=
  ⟨by simp, rfl, rfl, rfl⟩

theorem refusal_eq (h : Takes s bytes t) : t.refusal = s.refusal := by
  unfold refusal
  rw [h.overflow]

/-- What was taken is no longer free. -/
theorem room_eq (h : Takes s bytes t) (hfits : s.room bytes.length = bytes.length) (n : Nat) :
    t.room n = s.room (bytes.length + n) - bytes.length := by
  have hheld : t.held.length = s.held.length + bytes.length := by
    rw [h.held, hfits, List.take_length, List.length_append]
  unfold room at hfits ⊢
  rw [h.limit]
  cases hl : s.limit with
  | none => exact (Nat.add_sub_cancel_left bytes.length n).symm
  | some limit =>
      rw [hl] at hfits
      dsimp only at hfits ⊢
      rw [hheld]
      omega

/-- Octets that all fit, and more octets after them. -/
theorem append {more : List UInt8} {u : Sink} (h : Takes s bytes t)
    (hfits : s.room bytes.length = bytes.length) (h' : Takes t more u) :
    Takes s (bytes ++ more) u := by
  have hroom := h.room_eq hfits more.length
  have hmono := s.room_mono (Nat.le_add_right bytes.length more.length)
  refine ⟨?_, h'.limit.trans h.limit, h'.overflow.trans h.overflow,
    h'.flushFailure.trans h.flushFailure⟩
  have htake : (bytes ++ more).take (s.room (bytes.length + more.length)) =
      bytes ++ more.take (t.room more.length) := by
    rw [List.take_append, hroom, List.take_of_length_le (by omega)]
  rw [h'.held, h.held, hfits, List.take_length, List.append_assoc, List.length_append, htake]

/-- Octets that do not all fit, and more octets that were not tried. -/
theorem full (h : Takes s bytes t) (hfull : s.room bytes.length < bytes.length)
    (more : List UInt8) : Takes s (bytes ++ more) t := by
  refine ⟨?_, h.limit, h.overflow, h.flushFailure⟩
  have hroom : s.room (bytes ++ more).length = s.room bytes.length := by
    rw [List.length_append]
    exact s.room_stays hfull (Nat.le_add_right _ _)
  rw [hroom, List.take_append_of_le_length (Nat.le_of_lt hfull)]
  exact h.held

end Takes

/-! ## The longest beginning that fits -/

/-- A sink has room for all of some octets. -/
def Fits (s : Sink) (bytes : List UInt8) : Prop :=
  ∀ limit, s.limit = some limit → bytes.length ≤ limit - s.held.length

/-- A sink after it was filled with the longest beginning of some octets that fits. -/
def Filled (s : Sink) (bytes : List UInt8) (t : Sink) : Prop :=
  ∃ kept, t.held = s.held ++ kept ∧ kept <+: bytes ∧ s.Fits kept ∧
    ∀ more, more <+: bytes → s.Fits more → more <+: kept

theorem le_room_iff {m n : Nat} :
    m ≤ s.room n ↔ m ≤ n ∧ ∀ limit, s.limit = some limit → m ≤ limit - s.held.length := by
  unfold room
  cases s.limit with
  | none => simp
  | some limit =>
      show m ≤ min n (limit - s.held.length) ↔ _
      rw [Nat.le_min]
      simp

theorem fits_iff : s.Fits bytes ↔ s.room bytes.length = bytes.length := by
  have hle := s.room_le bytes.length
  have hroom := s.le_room_iff (m := bytes.length) (n := bytes.length)
  constructor
  · intro hfits
    exact Nat.le_antisymm hle (hroom.2 ⟨Nat.le_refl _, hfits⟩)
  · intro hall
    exact (hroom.1 (Nat.le_of_eq hall.symm)).2

instance (s : Sink) (bytes : List UInt8) : Decidable (s.Fits bytes) :=
  decidable_of_iff _ fits_iff.symm

theorem Filled.whole (h : s.Filled bytes t) (hfits : s.Fits bytes) :
    t.held = s.held ++ bytes := by
  obtain ⟨kept, hheld, hprefix, -, hlongest⟩ := h
  have hall := hlongest bytes List.prefix_rfl hfits
  rw [hheld, hprefix.eq_of_length_le hall.length_le]

theorem Takes.filled (h : Takes s bytes t) : s.Filled bytes t := by
  have hlength : (bytes.take (s.room bytes.length)).length = s.room bytes.length :=
    List.length_take_of_le (s.room_le _)
  refine ⟨_, h.held, List.take_prefix _ _, ?_, ?_⟩
  · unfold Fits
    rw [hlength]
    exact (le_room_iff.1 (Nat.le_refl _)).2
  · intro more hmore hfits
    have hle : more.length ≤ s.room bytes.length := le_room_iff.2 ⟨hmore.length_le, hfits⟩
    rw [List.prefix_iff_eq_take.1 hmore]
    exact List.take_prefix_take_left hle

/-! ## One call -/

theorem call_took {tries n : Nat} (h : s.call tries bytes = .took (n + 1)) :
    n + 1 ≤ s.room bytes.length := by
  unfold call at h
  have hle := s.room_mono (Nat.min_le_left bytes.length (max 1 (s.capacity s.calls)))
  split at h
  · cases h
  · split at h
    · split at h <;> cases h
    · have hroom := Call.took.inj h
      omega

/-- A call that takes nothing says why: the sink is full. -/
theorem call_full {tries : Nat} (hbytes : bytes ≠ []) (h : s.call tries bytes = .took 0 ∨
    ∃ cause, s.call tries bytes = .failed cause) :
    s.room bytes.length = 0 ∧ (s.call tries bytes = .took 0 → s.refusal = .tookNothing) ∧
      ∀ cause, s.call tries bytes = .failed cause → s.refusal = cause := by
  have hpos : 0 < min bytes.length (max 1 (s.capacity s.calls)) := by
    have hlength := List.length_pos_iff.2 hbytes
    omega
  unfold call at h ⊢
  by_cases hbusy : tries < s.interruptions s.calls
  · simp [hbusy] at h
  · rw [if_neg hbusy] at h ⊢
    cases hroom : s.room (min bytes.length (max 1 (s.capacity s.calls))) with
    | zero =>
        refine ⟨room_eq_zero hpos hroom _, ?_, ?_⟩
        · intro htook
          cases ho : s.overflow with
          | none => rw [refusal, ho]; rfl
          | some cause => simp [ho] at htook
        · intro cause hfailed
          cases ho : s.overflow with
          | none => simp [ho] at hfailed
          | some cause' =>
              rw [refusal, ho]
              simpa [ho] using hfailed
    | succ n => simp [hroom] at h

/-! ## Writes -/

/-- A write that fills a sink, and succeeds if everything fits. -/
def Fills (s : Sink) (bytes : List UInt8) (w : Written) : Prop :=
  Takes s bytes w.sink ∧
    w.outcome = if s.room bytes.length = bytes.length then .ok () else .error s.refusal

theorem fills_nothing (hbytes : bytes ≠ []) (hfull : s.room bytes.length = 0)
    {cause : SystemError} (hcause : s.refusal = cause) : Fills s bytes ⟨.error cause, s⟩ := by
  have hlength := List.length_pos_iff.2 hbytes
  refine ⟨⟨?_, rfl, rfl, rfl⟩, ?_⟩
  · rw [hfull, List.take_zero, List.append_nil]
  · rw [if_neg (by omega), hcause]

/-- Some octets that fit were taken, and then the others were written. -/
theorem Fills.after {k calls : Nat} {w : Written} (hk : k ≤ s.room bytes.length)
    (h : Fills { s with held := s.held ++ bytes.take k, calls } (bytes.drop k) w) :
    Fills s bytes w := by
  have hle := Nat.le_trans hk (s.room_le _)
  have hlength : (bytes.take k).length = k := by rw [List.length_take]; omega
  have hfits : s.room (bytes.take k).length = (bytes.take k).length := by
    rw [hlength]
    by_cases hfull : s.room k < k
    · have hstays := s.room_stays hfull hle
      omega
    · have hroom := s.room_le k
      omega
  have hfirst : Takes s (bytes.take k) { s with held := s.held ++ bytes.take k, calls } := by
    refine ⟨?_, rfl, rfl, rfl⟩
    rw [hfits, List.take_length]
  have hroom := hfirst.room_eq hfits (bytes.drop k).length
  rw [hlength, List.length_drop, Nat.add_sub_cancel' hle] at hroom
  obtain ⟨htakes, houtcome⟩ := h
  refine ⟨?_, ?_⟩
  · have hall := hfirst.append hfits htakes
    rwa [List.take_append_drop] at hall
  · rw [houtcome, hfirst.refusal_eq, List.length_drop, hroom]
    by_cases hall : s.room bytes.length = bytes.length
    · rw [if_pos (by omega), if_pos hall]
    · rw [if_neg (by omega), if_neg hall]

theorem writeFrom_fills (tries : Nat) (bytes : List UInt8) (s : Sink) :
    Fills s bytes (writeFrom tries bytes s) := by
  fun_induction writeFrom tries bytes s with
  | case1 => exact ⟨.nil _, by simp [room_zero]⟩
  | case2 tries bytes s hbytes hcall ih => exact ih
  | case3 tries bytes s hbytes cause hcall =>
      obtain ⟨hfull, -, hcause⟩ := call_full hbytes (Or.inr ⟨cause, hcall⟩)
      exact fills_nothing hbytes hfull (hcause cause hcall)
  | case4 tries bytes s hbytes hcall =>
      obtain ⟨hfull, hcause, -⟩ := call_full hbytes (Or.inl hcall)
      exact fills_nothing hbytes hfull (hcause hcall)
  | case5 tries bytes s hbytes n hcall ih => exact ih.after (call_took hcall)

theorem write_takes (bytes : List UInt8) (s : Sink) :
    Takes s bytes (s.write bytes).sink ∧
      (s.write bytes).outcome =
        if s.room bytes.length = bytes.length then .ok () else .error s.refusal :=
  writeFrom_fills 0 bytes s

/-- Pieces that are written one after another fill a sink as their concatenation does, and
their octets are counted if all of them fit. -/
theorem drain_takes (count : Nat) (s : Sink) (pieces : List (List UInt8)) :
    Takes s pieces.flatten (s.drain count pieces).sink ∧
      (s.drain count pieces).outcome =
        if s.room pieces.flatten.length = pieces.flatten.length then
          .ok (count + pieces.flatten.length)
        else .error s.refusal := by
  induction pieces generalizing count s with
  | nil => exact ⟨.nil s, by simp [drain, room_zero]⟩
  | cons piece rest ih =>
      obtain ⟨htakes, houtcome⟩ := write_takes piece s
      unfold drain
      rw [List.flatten_cons, List.length_append]
      by_cases hfits : s.room piece.length = piece.length
      · rw [if_pos hfits] at houtcome
        obtain ⟨htakes', houtcome'⟩ := ih (count + piece.length) (s.write piece).sink
        have hroom := htakes.room_eq hfits rest.flatten.length
        have hle := s.room_mono (Nat.le_add_right piece.length rest.flatten.length)
        dsimp only
        rw [houtcome]
        refine ⟨htakes.append hfits htakes', ?_⟩
        rw [houtcome', hroom, htakes.refusal_eq]
        by_cases hall : s.room (piece.length + rest.flatten.length) =
            piece.length + rest.flatten.length
        · rw [if_pos (by omega), if_pos hall, Nat.add_assoc]
        · rw [if_neg (by omega), if_neg hall]
      · have hfull : s.room piece.length < piece.length := by
          have hle := s.room_le piece.length
          omega
        rw [if_neg hfits] at houtcome
        have hstays := s.room_stays hfull (Nat.le_add_right _ rest.flatten.length)
        dsimp only
        rw [houtcome]
        refine ⟨htakes.full hfull _, ?_⟩
        rw [if_neg (by omega)]

/-- Where all pieces could be written, none is left. -/
theorem drain_rest {count n : Nat} {s : Sink} {pieces : List (List UInt8)}
    (h : (s.drain count pieces).outcome = .ok n) : (s.drain count pieces).rest = [] := by
  induction pieces generalizing count s with
  | nil => rfl
  | cons piece rest ih =>
      unfold drain at h ⊢
      cases hw : (s.write piece).outcome with
      | error cause => simp [hw] at h
      | ok _ =>
          simp only [hw] at h ⊢
          exact ih h

/-- Draining stops at the pieces that are left, and comes to what draining the others does. -/
theorem drain_done (count : Nat) (s : Sink) (pieces : List (List UInt8)) :
    ∃ done, pieces = done ++ (s.drain count pieces).rest ∧
      s.drain count done = { s.drain count pieces with rest := [] } := by
  induction pieces generalizing count s with
  | nil => exact ⟨[], rfl, rfl⟩
  | cons piece rest ih =>
      cases hw : (s.write piece).outcome with
      | error cause => exact ⟨[piece], by simp [drain, hw]⟩
      | ok _ =>
          obtain ⟨done, hdone, hdrain⟩ := ih (count + piece.length) (s.write piece).sink
          refine ⟨piece :: done, ?_, ?_⟩
          · simp only [drain, hw, List.cons_append]
            rw [← hdone]
          · simp only [drain, hw]
            exact hdrain

/-- A sink without a limit takes everything. -/
theorem drain_unlimited {s : Sink} (hs : s.limit = none) (count : Nat)
    (pieces : List (List UInt8)) :
    let w := s.drain count pieces
    w.outcome = .ok (count + pieces.flatten.length) ∧ w.rest = [] ∧
      w.sink.held = s.held ++ pieces.flatten ∧ w.sink.flushFailure = s.flushFailure := by
  intro w
  have hroom (n : Nat) : s.room n = n := by rw [room, hs]
  obtain ⟨htakes, houtcome⟩ := drain_takes count s pieces
  rw [hroom, if_pos rfl] at houtcome
  refine ⟨houtcome, drain_rest houtcome, ?_, htakes.flushFailure⟩
  rw [htakes.held, hroom, List.take_length]

end Sink
end FtpClient
