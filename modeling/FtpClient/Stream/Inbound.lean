import FtpClient.Stream.Source

/-
The reading side of a connection: octets already taken from the socket, and the
socket.  Lines are read from the two together, and what was taken beyond a line
is kept for the next one.
-/

namespace FtpClient

def lineFeed : UInt8 := 0x0A

def carriageReturn : UInt8 := 0x0D

/-- Octets cut before and after their first line feed. -/
def cutLine? (bytes : List UInt8) : Option (List UInt8 × List UInt8) :=
  match bytes.dropWhile (· != lineFeed) with
  | [] => none
  | _ :: rest => some (bytes.takeWhile (· != lineFeed), rest)

theorem cutLine?_eq_some {bytes line rest : List UInt8}
    (h : cutLine? bytes = some (line, rest)) :
    bytes = line ++ lineFeed :: rest ∧ lineFeed ∉ line := by
  unfold cutLine? at h
  have hall := List.takeWhile_append_dropWhile (p := (· != lineFeed)) (l := bytes)
  generalize hd : bytes.dropWhile (· != lineFeed) = d at h hall
  cases d with
  | nil => simp at h
  | cons b r =>
      simp only [Option.some.injEq, Prod.mk.injEq] at h
      obtain ⟨rfl, rfl⟩ := h
      have hb : b = lineFeed := by
        have := List.head?_dropWhile_not (· != lineFeed) bytes
        rw [hd] at this
        simpa using this
      subst hb
      refine ⟨hall.symm, fun hmem => ?_⟩
      have hline := List.all_takeWhile (p := (· != lineFeed)) (l := bytes)
      simpa using List.all_eq_true.1 hline _ hmem

theorem cutLine?_eq_none {bytes : List UInt8} (h : cutLine? bytes = none) :
    lineFeed ∉ bytes := by
  unfold cutLine? at h
  cases hd : bytes.dropWhile (· != lineFeed) with
  | nil =>
      have hall := List.any_dropWhile (p := (· != lineFeed)) (l := bytes)
      rw [hd] at hall
      have hnone : ∀ x ∈ bytes, ¬x = lineFeed := by simpa using hall.symm
      exact fun hmem => hnone _ hmem rfl
  | cons b r => rw [hd] at h; simp at h

/-- A buffered reader. -/
structure Inbound where
  buffer : List UInt8
  source : Source
deriving DecidableEq, Repr

namespace Inbound

def ofSource (s : Source) : Inbound :=
  ⟨[], s⟩

/-- All that is still to be read. -/
def unread (s : Inbound) : List UInt8 :=
  s.buffer ++ s.source.bytes

/-- The stream once its failure has been told. -/
def told (s : Inbound) : Inbound :=
  { s with source := { s.source with ending := s.source.ending.told } }

@[simp] theorem told_unread (s : Inbound) : s.told.unread = s.unread := rfl

@[simp] theorem told_ending (s : Inbound) : s.told.source.ending = s.source.ending.told := rfl

/-- Why there is no whole line once all octets are read. -/
def shortage (ending : Ending) : SystemError :=
  ending.failure?.getD .endOfReplies

/-- The outcome of reading a line. -/
structure Line where
  /-- The octets before the line feed, or why there is no whole line. -/
  outcome : Except SystemError (List UInt8)
  rest : Inbound
deriving Repr

/-- Read on until a line feed arrives.  `held` has none.  Without one, what was
held is lost with the failure. -/
def readLineFrom (ending : Ending) (held : List UInt8) : List Arrival → Line
  | [] => ⟨.error (shortage ending), ⟨[], ⟨[], ending⟩⟩⟩
  | .interrupted :: rest => readLineFrom ending held rest
  | .chunk bytes :: rest =>
      match cutLine? bytes with
      | some (line, after) => ⟨.ok (held ++ line), ⟨after, ⟨rest, ending⟩⟩⟩
      | none => readLineFrom ending (held ++ bytes) rest

def readLine (s : Inbound) : Line :=
  match cutLine? s.buffer with
  | some (line, after) => ⟨.ok line, { s with buffer := after }⟩
  | none => readLineFrom s.source.ending s.buffer s.source.arrivals

theorem readLineFrom_ok {ending : Ending} {held line : List UInt8} {arrivals : List Arrival}
    (h : (readLineFrom ending held arrivals).outcome = .ok line) :
    held ++ arrivals.flatMap Arrival.bytes =
      line ++ lineFeed :: (readLineFrom ending held arrivals).rest.unread := by
  induction arrivals generalizing held with
  | nil => simp [readLineFrom] at h
  | cons a rest ih =>
      cases a with
      | interrupted =>
          simp only [readLineFrom] at h ⊢
          simpa [Arrival.bytes] using ih h
      | chunk bytes =>
          simp only [readLineFrom] at h ⊢
          cases hc : cutLine? bytes with
          | none =>
              rw [hc] at h
              simpa [Arrival.bytes] using ih h
          | some p =>
              obtain ⟨l, after⟩ := p
              rw [hc] at h
              simp only [Except.ok.injEq] at h
              subst h
              simp [Arrival.bytes, (cutLine?_eq_some hc).1, unread, Source.bytes]

/-- A line that was read is the beginning of what was unread. -/
theorem readLine_ok {s : Inbound} {line : List UInt8} (h : s.readLine.outcome = .ok line) :
    s.unread = line ++ lineFeed :: s.readLine.rest.unread := by
  unfold readLine at h ⊢
  cases hc : cutLine? s.buffer with
  | none =>
      rw [hc] at h
      exact readLineFrom_ok h
  | some p =>
      obtain ⟨l, after⟩ := p
      rw [hc] at h
      simp only [Except.ok.injEq] at h
      subst h
      simp [unread, (cutLine?_eq_some hc).1]

theorem readLineFrom_lineFeed {ending : Ending} {held line : List UInt8}
    {arrivals : List Arrival} (hheld : lineFeed ∉ held)
    (h : (readLineFrom ending held arrivals).outcome = .ok line) : lineFeed ∉ line := by
  induction arrivals generalizing held with
  | nil => simp [readLineFrom] at h
  | cons a rest ih =>
      cases a with
      | interrupted => exact ih hheld (by simpa only [readLineFrom] using h)
      | chunk bytes =>
          simp only [readLineFrom] at h
          cases hc : cutLine? bytes with
          | none =>
              rw [hc] at h
              exact ih (by simp [hheld, cutLine?_eq_none hc]) h
          | some p =>
              obtain ⟨l, after⟩ := p
              rw [hc] at h
              simp only [Except.ok.injEq] at h
              subst h
              simp [hheld, (cutLine?_eq_some hc).2]

theorem readLine_lineFeed {s : Inbound} {line : List UInt8}
    (h : s.readLine.outcome = .ok line) : lineFeed ∉ line := by
  unfold readLine at h
  cases hc : cutLine? s.buffer with
  | none =>
      rw [hc] at h
      exact readLineFrom_lineFeed (cutLine?_eq_none hc) h
  | some p =>
      obtain ⟨l, after⟩ := p
      rw [hc] at h
      simp only [Except.ok.injEq] at h
      exact h ▸ (cutLine?_eq_some hc).2

theorem readLineFrom_error {ending : Ending} {held : List UInt8} {arrivals : List Arrival}
    {cause : SystemError} (hheld : lineFeed ∉ held)
    (h : (readLineFrom ending held arrivals).outcome = .error cause) :
    lineFeed ∉ held ++ arrivals.flatMap Arrival.bytes ∧ cause = shortage ending := by
  induction arrivals generalizing held with
  | nil =>
      simp only [readLineFrom, Except.error.injEq] at h
      exact ⟨by simpa using hheld, h.symm⟩
  | cons a rest ih =>
      cases a with
      | interrupted =>
          simp only [readLineFrom] at h
          simpa [Arrival.bytes] using ih hheld h
      | chunk bytes =>
          simp only [readLineFrom] at h
          cases hc : cutLine? bytes with
          | none =>
              rw [hc] at h
              simpa [Arrival.bytes] using ih (by simp [hheld, cutLine?_eq_none hc]) h
          | some p => simp [hc] at h

/-- Reading a line fails only where no line feed is left. -/
theorem readLine_error {s : Inbound} {cause : SystemError}
    (h : s.readLine.outcome = .error cause) :
    lineFeed ∉ s.unread ∧ cause = shortage s.source.ending := by
  unfold readLine at h
  cases hc : cutLine? s.buffer with
  | none =>
      rw [hc] at h
      exact readLineFrom_error (cutLine?_eq_none hc) h
  | some p => simp [hc] at h

theorem readLineFrom_ending (ending : Ending) (held : List UInt8) (arrivals : List Arrival) :
    (readLineFrom ending held arrivals).rest.source.ending = ending := by
  induction arrivals generalizing held with
  | nil => rfl
  | cons a rest ih =>
      cases a with
      | interrupted => exact ih held
      | chunk bytes =>
          simp only [readLineFrom]
          cases hc : cutLine? bytes with
          | none => exact ih _
          | some p => rfl

@[simp] theorem readLine_ending (s : Inbound) :
    s.readLine.rest.source.ending = s.source.ending := by
  unfold readLine
  cases cutLine? s.buffer with
  | none => exact readLineFrom_ending _ _ _
  | some p => rfl

theorem readLine_length {s : Inbound} {line : List UInt8} (h : s.readLine.outcome = .ok line) :
    s.readLine.rest.unread.length < s.unread.length := by
  rw [readLine_ok h]
  simp only [List.length_append, List.length_cons]
  omega

/-- Octets that arrive later, and what is met after them.  Nothing arrives on a
connection that has ended. -/
def receive (bytes : List UInt8) (ending : Ending) (s : Inbound) : Inbound :=
  match s.source.ending with
  | .quiet =>
      { s with source := ⟨s.source.arrivals ++ [.chunk bytes], ending⟩ }
  | _ => s

theorem receive_quiet {s : Inbound} (h : s.source.ending = .quiet) (bytes : List UInt8)
    (ending : Ending) : (s.receive bytes ending).unread = s.unread ++ bytes := by
  unfold receive
  rw [h]
  simp [unread, Source.bytes, Arrival.bytes]

theorem receive_ended {s : Inbound} (h : s.source.ending ≠ .quiet) (bytes : List UInt8)
    (ending : Ending) : s.receive bytes ending = s := by
  unfold receive
  split
  · rename_i hquiet
    exact absurd hquiet h
  · rfl

end Inbound
end FtpClient
