/-
Observers of a client.  A client does not own its observers: it holds handles in
the order of subscription, and an observer that its owner has dropped hears
nothing more.  Handles of dropped observers are removed on the next change of
the list.
-/

namespace FtpClient

/-- The identity of an observer.  It is never used again. -/
abbrev ObserverId := Nat

/-- What an observer hears. -/
inductive Notice where
  | reply (text : String)
  | failure (text : String)
deriving DecidableEq, Repr

/-- The observers that exist and the list of those that are subscribed. -/
structure Observers where
  next : ObserverId
  /-- The observers that their owners have not dropped. -/
  alive : List ObserverId
  /-- Handles in the order of subscription. -/
  handles : List ObserverId
deriving DecidableEq, Repr

namespace Observers

def empty : Observers :=
  ⟨0, [], []⟩

def create (o : Observers) : ObserverId × Observers :=
  (o.next, { o with next := o.next + 1, alive := o.next :: o.alive })

/-- The owner drops an observer.  The list of handles stays as it is. -/
def drop (id : ObserverId) (o : Observers) : Observers :=
  { o with alive := o.alive.filter (· != id) }

def isAlive (o : Observers) (id : ObserverId) : Bool :=
  o.alive.contains id

def prune (o : Observers) : Observers :=
  { o with handles := o.handles.filter o.isAlive }

/-- Add an observer at the end of the list, unless it is subscribed. -/
def subscribe (id : ObserverId) (o : Observers) : Observers :=
  let o := o.prune
  if o.handles.contains id then o else { o with handles := o.handles ++ [id] }

/-- Remove an observer from the list, if it is subscribed. -/
def unsubscribe (id : ObserverId) (o : Observers) : Observers :=
  ({ o with handles := o.handles.filter (· != id) }).prune

/-- The observers that hear the next notice, in order. -/
def listeners (o : Observers) : List ObserverId :=
  o.handles.filter o.isAlive

def size (o : Observers) : Nat :=
  o.listeners.length

def notify (n : Notice) (o : Observers) : List (ObserverId × Notice) :=
  o.listeners.map fun id => (id, n)

end Observers
end FtpClient
