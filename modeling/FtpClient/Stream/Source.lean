import FtpClient.SystemError

/-
Sources of octets: a socket, a file, or whatever else is read in pieces.  What a
source will deliver is a value: the results of its successive reads, and how
reading ends after them.
-/

namespace FtpClient

/-- The result of one read. -/
inductive Arrival where
  | chunk (bytes : List UInt8)
  /-- The read was interrupted and has to be made again. -/
  | interrupted
deriving DecidableEq, Repr

namespace Arrival

def bytes : Arrival → List UInt8
  | chunk bs => bs
  | interrupted => []

end Arrival

/-- What a read meets once all octets are read. -/
inductive Ending where
  /-- Nothing for now: a read waits until its time is up. -/
  | quiet
  | closed
  | failed (cause : SystemError)
deriving DecidableEq, Repr

namespace Ending

def failure? : Ending → Option SystemError
  | quiet => some .timedOut
  | closed => none
  | failed cause => some cause

/-- The failure that a connection keeps until an act on it has been told.  A time-out
is none: it strikes again and again. -/
def untold? : Ending → Option SystemError
  | failed cause => if cause = .timedOut then none else some cause
  | quiet | closed => none

/-- What is met once the failure has been told. -/
def told (e : Ending) : Ending :=
  if e.untold?.isSome then closed else e

theorem told_eq_quiet {e : Ending} : e.told = quiet ↔ e = quiet := by
  cases e with
  | quiet => exact Iff.rfl
  | closed => simp [told, untold?]
  | failed cause =>
      unfold told
      split <;> simp

end Ending

/-- What a source still has to deliver. -/
structure Source where
  arrivals : List Arrival
  ending : Ending
deriving DecidableEq, Repr

namespace Source

/-- A source that delivers its octets at once and then ends. -/
def ofBytes (bytes : List UInt8) : Source :=
  ⟨[.chunk bytes], .closed⟩

def bytes (s : Source) : List UInt8 :=
  s.arrivals.flatMap Arrival.bytes

/-- Cut octets into pieces of `size`, where `room` more fit into the piece begun
as `piece`, last octet first. -/
def cutFrom (size room : Nat) (piece : List UInt8) : List UInt8 → List (List UInt8)
  | [] => if piece = [] then [] else [piece.reverse]
  | b :: rest =>
      match room with
      | 0 => piece.reverse :: cutFrom size (size - 1) [b] rest
      | room + 1 => cutFrom size room (b :: piece) rest

/-- The successive results of reading with a buffer of `size` octets.  An
interrupted read is made again, so it leaves no trace. -/
def pieces (size : Nat) (s : Source) : List (List UInt8) :=
  s.arrivals.flatMap fun a => cutFrom size size [] a.bytes

theorem cutFrom_flatten (size room : Nat) (piece bs : List UInt8) :
    (cutFrom size room piece bs).flatten = piece.reverse ++ bs := by
  induction bs generalizing room piece with
  | nil => by_cases h : piece = [] <;> simp [cutFrom, h]
  | cons b rest ih => cases room <;> simp [cutFrom, ih]

theorem pieces_flatten (size : Nat) (s : Source) :
    (s.pieces size).flatten = s.bytes := by
  obtain ⟨arrivals, ending⟩ := s
  induction arrivals with
  | nil => rfl
  | cons a rest ih =>
      simp only [pieces, bytes, List.flatMap_cons, List.flatten_append] at ih ⊢
      rw [cutFrom_flatten, ih]
      simp

end Source
end FtpClient
