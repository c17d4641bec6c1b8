import FtpClient.SystemError

/-
Sinks of octets: a file, or whatever else is written in pieces.  One call may
take a part of what it is given, and may be interrupted any number of times
before it takes anything.
-/

namespace FtpClient

/-- A sink and what it holds. -/
structure Sink where
  held : List UInt8
  /-- The number of calls that have taken something. -/
  calls : Nat
  /-- The most that a call takes, by its number.  A call takes at least one
  octet. -/
  capacity : Nat → Nat
  /-- How often a call is interrupted first, by its number. -/
  interruptions : Nat → Nat
  limit : Option Nat
  /-- How a call fails once the sink is full.  Without a failure it takes
  nothing. -/
  overflow : Option SystemError
  flushFailure : Option SystemError

namespace Sink

def unlimited : Sink :=
  { held := [], calls := 0, capacity := fun _ => 0xFFFFFFFF, interruptions := fun _ => 0
    limit := none, overflow := none, flushFailure := none }

/-- What one call comes to. -/
inductive Call where
  | interrupted
  | took (n : Nat)
  | failed (cause : SystemError)
deriving DecidableEq, Repr

/-- The number of octets that still fit, out of `n`. -/
def room (s : Sink) (n : Nat) : Nat :=
  match s.limit with
  | none => n
  | some limit => min n (limit - s.held.length)

/-- One call, after `tries` interrupted ones. -/
def call (tries : Nat) (bytes : List UInt8) (s : Sink) : Call :=
  if tries < s.interruptions s.calls then .interrupted
  else
    match s.room (min bytes.length (max 1 (s.capacity s.calls))) with
    | 0 =>
        match s.overflow with
        | some cause => .failed cause
        | none => .took 0
    | n => .took n

/-- The outcome of a write. -/
structure Written where
  outcome : Except SystemError Unit
  sink : Sink

/-- Make calls until all octets are taken.  An interrupted call is made again,
and a call that takes nothing is a failure. -/
def writeFrom (tries : Nat) (bytes : List UInt8) (s : Sink) : Written :=
  if bytes = [] then ⟨.ok (), s⟩
  else
    match h : s.call tries bytes with
    | .interrupted => writeFrom (tries + 1) bytes s
    | .failed cause => ⟨.error cause, s⟩
    | .took 0 => ⟨.error .tookNothing, s⟩
    | .took (n + 1) =>
        writeFrom 0 (bytes.drop (n + 1))
          { s with held := s.held ++ bytes.take (n + 1), calls := s.calls + 1 }
termination_by (bytes.length, s.interruptions s.calls - tries)
decreasing_by
  · apply Prod.Lex.right
    have : tries < s.interruptions s.calls := by
      unfold call at h
      split at h
      · assumption
      · split at h
        · split at h <;> cases h
        · cases h
    omega
  · apply Prod.Lex.left
    have : 0 < bytes.length := List.length_pos_iff.2 (by assumption)
    simp only [List.length_drop]
    omega

def write (bytes : List UInt8) (s : Sink) : Written :=
  writeFrom 0 bytes s

/-- The outcome of writing pieces one after another. -/
structure Drained where
  outcome : Except SystemError Nat
  /-- The pieces after the one that could not be written. -/
  rest : List (List UInt8)
  sink : Sink

/-- Write pieces until one cannot be written, where `count` octets have been
written before. -/
def drain (count : Nat) (s : Sink) : List (List UInt8) → Drained
  | [] => ⟨.ok count, [], s⟩
  | piece :: rest =>
      let w := s.write piece
      match w.outcome with
      | .error cause => ⟨.error cause, rest, w.sink⟩
      | .ok () => drain (count + piece.length) w.sink rest

def flush (s : Sink) : Except SystemError Unit :=
  match s.flushFailure with
  | some cause => .error cause
  | none => .ok ()

end Sink
end FtpClient
