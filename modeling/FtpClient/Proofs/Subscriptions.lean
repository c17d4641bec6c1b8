import FtpClient.Observers
import Mathlib.Data.List.Nodup
import Mathlib.Logic.Function.Basic

/-
The list of observers against its specification.

The list keeps the handle of an observer that its owner has dropped until the next change of the
list, and every reader of the list passes such handles over.  The specification keeps living
observers only: one that is dropped is off the list at once.  Both are run through the same acts
of an owner and a client, and nothing that can be seen of an act tells them apart.

Handles are the same if they have the same address.  A handle keeps its address in use, also
after its observer was dropped, so no address on the list is given to another observer, and an
identity that is never used again stands for it.
-/

namespace FtpClient
namespace Observers

/-- A list with an observer at its end, unless it is listed. -/
def enlist (id : ObserverId) (ids : List ObserverId) : List ObserverId :=
  if id ∈ ids then ids else ids ++ [id]

theorem mem_enlist {id other : ObserverId} {ids : List ObserverId} :
    other ∈ enlist id ids ↔ other ∈ ids ∨ other = id := by
  unfold enlist
  split
  · exact ⟨.inl, fun h => h.elim (fun h => h) (fun h => h ▸ ‹id ∈ ids›)⟩
  · simp

theorem nodup_enlist {id : ObserverId} {ids : List ObserverId} (h : ids.Nodup) :
    (enlist id ids).Nodup := by
  unfold enlist
  split
  · exact h
  · rw [← List.concat_eq_append]
    exact h.concat ‹id ∉ ids›

/-! ## Who lives and who listens -/

section

variable {o : Observers} {id : ObserverId}

theorem isAlive_iff : o.isAlive id = true ↔ id ∈ o.alive :=
  List.contains_iff_mem

theorem isAlive_drop {other : ObserverId} :
    (o.drop id).isAlive other = true ↔ o.isAlive other = true ∧ other ≠ id := by
  simp only [isAlive_iff]
  simp [drop]

theorem isAlive_create {other : ObserverId} :
    o.create.2.isAlive other = true ↔ other = o.next ∨ o.isAlive other = true := by
  simp only [isAlive_iff]
  simp [create]

theorem listeners_drop : (o.drop id).listeners = o.listeners.filter (· != id) := by
  rw [listeners, listeners, List.filter_filter]
  refine List.filter_congr fun other _ => ?_
  rw [Bool.eq_iff_iff, isAlive_drop]
  simp [and_comm]

/-- No handle of a new observer is on the list. -/
theorem listeners_create (h : o.next ∉ o.handles) : o.create.2.listeners = o.listeners := by
  refine List.filter_congr fun other hother => ?_
  have hne : other ≠ o.next := fun heq => h (heq ▸ hother)
  rw [Bool.eq_iff_iff, isAlive_create]
  simp [hne]

theorem isAlive_of_mem_listeners (h : id ∈ o.listeners) : o.isAlive id = true :=
  (List.mem_filter.1 h).2

theorem mem_handles_of_mem_listeners (h : id ∈ o.listeners) : id ∈ o.handles :=
  List.mem_of_mem_filter h

theorem listeners_of_isAlive {ids : List ObserverId} (h : ∀ id ∈ ids, o.isAlive id = true) :
    ({ o with handles := ids } : Observers).listeners = ids :=
  List.filter_eq_self.2 h

/-- A change of the list takes the handles of dropped observers off it. -/
theorem subscribe_eq : o.subscribe id = { o with handles := enlist id o.listeners } := by
  have hcontains : o.prune.handles.contains id = true ↔ id ∈ o.listeners :=
    List.contains_iff_mem
  unfold subscribe enlist
  simp only [hcontains]
  split <;> rfl

theorem unsubscribe_eq :
    o.unsubscribe id = { o with handles := o.listeners.filter (· != id) } := by
  show ({ o with handles := (o.handles.filter (· != id)).filter o.isAlive } : Observers) = _
  rw [List.filter_comm]
  rfl

theorem listeners_subscribe (h : o.isAlive id = true) :
    (o.subscribe id).listeners = enlist id o.listeners := by
  rw [subscribe_eq]
  refine listeners_of_isAlive fun other hother => ?_
  rcases mem_enlist.1 hother with hother | rfl
  · exact isAlive_of_mem_listeners hother
  · exact h

theorem listeners_unsubscribe :
    (o.unsubscribe id).listeners = o.listeners.filter (· != id) := by
  rw [unsubscribe_eq]
  refine listeners_of_isAlive fun other hother => ?_
  exact isAlive_of_mem_listeners (List.mem_of_mem_filter hother)

end

/-! ## Acts -/

/-- What an owner and a client do with observers.  The owner holds observers by name, and one
that is held can be subscribed; whoever has a handle can unsubscribe it, and handles outlive
their observers. -/
inductive Act where
  | create (name : String)
  | drop (name : String)
  | subscribe (name : String)
  | unsubscribe (id : ObserverId)
  | notify (notice : Notice)
deriving DecidableEq, Repr

/-- What is seen of an act: the observer that it makes, who hears what during it, and how many
are subscribed after it. -/
structure Sight where
  made : Option ObserverId
  heard : List (ObserverId × Notice)
  size : Nat
deriving DecidableEq, Repr

/-- A run of acts, and what is seen of each. -/
def run {σ : Type} (step : σ → Act → σ × Sight) (s : σ) : List Act → σ × List Sight
  | [] => (s, [])
  | act :: acts =>
      let rest := run step (step s act).1 acts
      (rest.1, (step s act).2 :: rest.2)

/-- Observers, and the names under which their owner holds them. -/
structure Owned where
  observers : Observers
  held : String → Option ObserverId

namespace Owned

def empty : Owned :=
  ⟨.empty, fun _ => none⟩

def drop (name : String) (w : Owned) : Owned :=
  match w.held name with
  | some id => ⟨w.observers.drop id, Function.update w.held name none⟩
  | none => w

/-- Make an observer.  It takes the place of the one held under its name, which is dropped. -/
def create (name : String) (w : Owned) : Owned :=
  let w := w.drop name
  ⟨w.observers.create.2, Function.update w.held name (some w.observers.create.1)⟩

def subscribe (name : String) (w : Owned) : Owned :=
  match w.held name with
  | some id => { w with observers := w.observers.subscribe id }
  | none => w

def unsubscribe (id : ObserverId) (w : Owned) : Owned :=
  { w with observers := w.observers.unsubscribe id }

def seen (made : Option ObserverId) (heard : List (ObserverId × Notice)) (w : Owned) :
    Owned × Sight :=
  (w, ⟨made, heard, w.observers.size⟩)

def step (w : Owned) : Act → Owned × Sight
  | .create name => (w.create name).seen (some w.observers.next) []
  | .drop name => (w.drop name).seen none []
  | .subscribe name => (w.subscribe name).seen none []
  | .unsubscribe id => (w.unsubscribe id).seen none []
  | .notify notice => w.seen none (w.observers.notify notice)

end Owned

/-! ## The specification -/

section

variable {held : String → Option ObserverId} {name other : String} {id new : ObserverId}

theorem update_none_eq_some :
    Function.update held name none other = some id ↔ other ≠ name ∧ held other = some id := by
  rw [Function.update_apply]
  split <;> simp [*]

theorem update_some_eq_some :
    Function.update held name (some new) other = some id ↔
      other = name ∧ new = id ∨ other ≠ name ∧ held other = some id := by
  rw [Function.update_apply]
  split <;> simp [*]

end

/-- The specification of subscriptions: a list of observers that live, that is, that are held,
each once and in the order of subscription. -/
@[ext]
structure Roster where
  created : Nat
  held : String → Option ObserverId
  listed : List ObserverId
  held_lt : ∀ {name id}, held name = some id → id < created
  held_inj : ∀ {a b id}, held a = some id → held b = some id → a = b
  nodup : listed.Nodup
  isHeld : ∀ {id}, id ∈ listed → ∃ name, held name = some id

namespace Roster

variable {r : Roster} {name : String} {id : ObserverId}

def empty : Roster where
  created := 0
  held := fun _ => none
  listed := []
  held_lt := nofun
  held_inj := nofun
  nodup := .nil
  isHeld := nofun

/-- Those who are held under other names. -/
theorem exists_update_none (r : Roster) :
    (∃ other, Function.update r.held name none other = some id) ↔
      (∃ other, r.held other = some id) ∧ r.held name ≠ some id := by
  simp only [update_none_eq_some]
  constructor
  · rintro ⟨other, hne, hother⟩
    exact ⟨⟨other, hother⟩, fun hname => hne (r.held_inj hother hname)⟩
  · rintro ⟨⟨other, hother⟩, hname⟩
    exact ⟨other, fun heq => hname (heq ▸ hother), hother⟩

/-- Whoever is held under the name leaves the list at once. -/
def drop (name : String) (r : Roster) : Roster where
  created := r.created
  held := Function.update r.held name none
  listed := r.listed.filter fun id => r.held name ≠ some id
  held_lt h := r.held_lt (update_none_eq_some.1 h).2
  held_inj ha hb := r.held_inj (update_none_eq_some.1 ha).2 (update_none_eq_some.1 hb).2
  nodup := r.nodup.filter _
  isHeld h := by
    obtain ⟨hlisted, hname⟩ := List.mem_filter.1 h
    exact r.exists_update_none.2 ⟨r.isHeld hlisted, of_decide_eq_true hname⟩

theorem drop_of_none (h : r.held name = none) : r.drop name = r := by
  apply Roster.ext
  · rfl
  · exact Function.update_eq_self_iff.2 h.symm
  · exact List.filter_eq_self.2 fun id _ => by simp [h]

/-- A new observer takes the place of the one held under the name, which is dropped. -/
def create (name : String) (r : Roster) : Roster where
  created := r.created + 1
  held := Function.update r.held name (some r.created)
  listed := (r.drop name).listed
  held_lt h := by
    rcases update_some_eq_some.1 h with ⟨-, rfl⟩ | ⟨-, h⟩
    · exact Nat.lt_succ_self _
    · exact Nat.lt_succ_of_lt (r.held_lt h)
  held_inj ha hb := by
    rcases update_some_eq_some.1 ha with ⟨rfl, rfl⟩ | ⟨-, ha'⟩ <;>
      rcases update_some_eq_some.1 hb with ⟨rfl, heq⟩ | ⟨-, hb'⟩
    · rfl
    · exact absurd (r.held_lt hb') (Nat.lt_irrefl _)
    · exact absurd (heq ▸ r.held_lt ha') (Nat.lt_irrefl _)
    · exact r.held_inj ha' hb'
  nodup := (r.drop name).nodup
  isHeld h := by
    obtain ⟨other, hother⟩ := (r.drop name).isHeld h
    exact ⟨other, update_some_eq_some.2 (.inr (update_none_eq_some.1 hother))⟩

/-- Those that live when one is made are that one and those that are not dropped. -/
theorem isHeld_create : (∃ other, (r.create name).held other = some id) ↔
    id = r.created ∨ ∃ other, (r.drop name).held other = some id := by
  simp only [create, drop, update_some_eq_some, update_none_eq_some]
  constructor
  · rintro ⟨other, ⟨-, rfl⟩ | hother⟩
    · exact .inl rfl
    · exact .inr ⟨other, hother⟩
  · rintro (rfl | ⟨other, hother⟩)
    · exact ⟨name, .inl ⟨rfl, rfl⟩⟩
    · exact ⟨other, .inr hother⟩

def subscribe (name : String) (r : Roster) : Roster :=
  { r with
    listed := match r.held name with
      | some id => enlist id r.listed
      | none => r.listed
    nodup := by
      cases r.held name with
      | some id => exact nodup_enlist r.nodup
      | none => exact r.nodup
    isHeld := by
      intro other h
      cases hheld : r.held name with
      | some id =>
          rw [hheld] at h
          rcases mem_enlist.1 h with h | rfl
          · exact r.isHeld h
          · exact ⟨name, hheld⟩
      | none =>
          rw [hheld] at h
          exact r.isHeld h }

theorem subscribe_of_none (h : r.held name = none) : r.subscribe name = r :=
  Roster.ext rfl rfl (by simp only [subscribe, h])

theorem listed_subscribe (h : r.held name = some id) :
    (r.subscribe name).listed = enlist id r.listed := by
  simp only [subscribe, h]

def unsubscribe (id : ObserverId) (r : Roster) : Roster :=
  { r with
    listed := r.listed.erase id
    nodup := r.nodup.erase id
    isHeld := fun h => r.isHeld (List.mem_of_mem_erase h) }

def seen (made : Option ObserverId) (heard : List (ObserverId × Notice)) (r : Roster) :
    Roster × Sight :=
  (r, ⟨made, heard, r.listed.length⟩)

def step (r : Roster) : Act → Roster × Sight
  | .create name => (r.create name).seen (some r.created) []
  | .drop name => (r.drop name).seen none []
  | .subscribe name => (r.subscribe name).seen none []
  | .unsubscribe id => (r.unsubscribe id).seen none []
  | .notify notice => r.seen none (r.listed.map fun id => (id, notice))

end Roster

/-! ## Refinement -/

/-- The observers and the specification agree.  Nothing is said of the handles of dropped
observers on the list but that they are not those of observers to come. -/
structure Refines (w : Owned) (r : Roster) : Prop where
  held : w.held = r.held
  next : w.observers.next = r.created
  isAlive : ∀ id, w.observers.isAlive id = true ↔ ∃ name, r.held name = some id
  listeners : w.observers.listeners = r.listed
  handles : ∀ id ∈ w.observers.handles, id < r.created

namespace Refines

variable {w : Owned} {r : Roster}

theorem seen (h : Refines w r) (made : Option ObserverId)
    (heard : List (ObserverId × Notice)) :
    Refines (w.seen made heard).1 (r.seen made heard).1 ∧
      (w.seen made heard).2 = (r.seen made heard).2 := by
  refine ⟨h, ?_⟩
  show Sight.mk _ _ w.observers.listeners.length = Sight.mk _ _ r.listed.length
  rw [h.listeners]

theorem empty : Refines Owned.empty Roster.empty where
  held := rfl
  next := rfl
  isAlive := by simp [Owned.empty, Observers.empty, Observers.isAlive, Roster.empty]
  listeners := rfl
  handles := nofun

theorem drop (h : Refines w r) (name : String) : Refines (w.drop name) (r.drop name) := by
  have hheld : w.held name = r.held name := congrFun h.held name
  unfold Owned.drop
  cases hname : w.held name with
  | none =>
      -- Under a name that nobody has, there is nobody to drop.
      have hnone : r.held name = none := hheld ▸ hname
      rw [Roster.drop_of_none hnone]
      exact h
  | some former =>
      have hformer : r.held name = some former := hheld ▸ hname
      exact {
        held := by rw [h.held]; rfl
        next := h.next
        isAlive := fun id => by
          have hdropped : some former ≠ some id ↔ id ≠ former := by
            rw [ne_comm, Ne, Ne, Option.some_inj]
          rw [isAlive_drop, h.isAlive, ← hdropped, ← hformer]
          exact r.exists_update_none.symm
        listeners := by
          rw [listeners_drop, h.listeners]
          refine List.filter_congr fun id _ => ?_
          have hiff : (id != former) = true ↔ some former ≠ some id := by
            rw [bne_iff_ne, ne_comm, Ne, Ne, Option.some_inj]
          rw [hformer, Bool.eq_iff_iff, hiff, decide_eq_true_iff]
        handles := h.handles }

theorem create (h : Refines w r) (name : String) : Refines (w.create name) (r.create name) := by
  have hdrop := h.drop name
  have hnext : (w.drop name).observers.next = r.created := hdrop.next
  refine ⟨?_, ?_, ?_, ?_, ?_⟩
  · have hid : (w.drop name).observers.create.1 = r.created := hnext
    rw [Owned.create, hid, hdrop.held]
    exact Function.update_idem ..
  · exact congrArg (· + 1) hnext
  · intro id
    rw [Roster.isHeld_create, ← hdrop.isAlive, ← hnext]
    exact isAlive_create
  -- Also the handles of dropped observers are older than the new one.
  · have hfresh : (w.drop name).observers.next ∉ (w.drop name).observers.handles := fun hmem =>
      Nat.lt_irrefl _ (hdrop.next ▸ hdrop.handles _ hmem)
    exact (listeners_create hfresh).trans hdrop.listeners
  · intro id hid
    exact Nat.lt_succ_of_lt (hdrop.handles id hid)

theorem subscribe (h : Refines w r) (name : String) :
    Refines (w.subscribe name) (r.subscribe name) := by
  have hheld : w.held name = r.held name := congrFun h.held name
  unfold Owned.subscribe
  cases hname : w.held name with
  | none =>
      rw [Roster.subscribe_of_none (hheld ▸ hname)]
      exact h
  | some id =>
      have hid : r.held name = some id := hheld ▸ hname
      have halive : w.observers.isAlive id = true := (h.isAlive id).2 ⟨name, hid⟩
      show Refines { w with observers := w.observers.subscribe id } (r.subscribe name)
      exact {
        held := h.held
        next := by rw [subscribe_eq]; exact h.next
        isAlive := by rw [subscribe_eq]; exact h.isAlive
        listeners := by
          rw [listeners_subscribe halive, h.listeners, Roster.listed_subscribe hid]
        handles := fun other hother => by
          rw [subscribe_eq] at hother
          rcases mem_enlist.1 hother with hother | rfl
          · exact h.handles other (mem_handles_of_mem_listeners hother)
          · exact r.held_lt hid }

theorem unsubscribe (h : Refines w r) (id : ObserverId) :
    Refines (w.unsubscribe id) (r.unsubscribe id) where
  held := h.held
  next := h.next
  isAlive := h.isAlive
  listeners := by
    rw [Owned.unsubscribe, listeners_unsubscribe, h.listeners]
    exact (r.nodup.erase_eq_filter id).symm
  handles other hother := by
    rw [Owned.unsubscribe, unsubscribe_eq] at hother
    exact h.handles other (mem_handles_of_mem_listeners (List.mem_of_mem_filter hother))

theorem step (h : Refines w r) (act : Act) :
    Refines (w.step act).1 (r.step act).1 ∧ (w.step act).2 = (r.step act).2 := by
  cases act with
  | create name =>
      rw [Owned.step, Roster.step, h.next]
      exact (h.create name).seen _ _
  | drop name => exact (h.drop name).seen _ _
  | subscribe name => exact (h.subscribe name).seen _ _
  | unsubscribe id => exact (h.unsubscribe id).seen _ _
  | notify notice =>
      rw [Owned.step, Roster.step, Observers.notify, h.listeners]
      exact h.seen _ _

theorem run (h : Refines w r) (acts : List Act) :
    Refines (Observers.run Owned.step w acts).1 (Observers.run Roster.step r acts).1 ∧
      (Observers.run Owned.step w acts).2 = (Observers.run Roster.step r acts).2 := by
  induction acts generalizing w r with
  | nil => exact ⟨h, rfl⟩
  | cons act acts ih =>
      obtain ⟨hstep, hsight⟩ := h.step act
      obtain ⟨hrest, hsights⟩ := ih hstep
      exact ⟨hrest, congrArg₂ List.cons hsight hsights⟩

/-- Whoever is made under a name lives and is not subscribed, and the former holder of the name
is not subscribed any more. -/
theorem held_create (h : Refines w r) (name : String) :
    (w.create name).held name = some r.created ∧
      r.created ∉ (w.create name).observers.listeners ∧
      ∀ former, w.held name = some former → former ∉ (w.create name).observers.listeners := by
  have hcreate := h.create name
  have hlisteners : (w.create name).observers.listeners = (r.drop name).listed :=
    hcreate.listeners
  refine ⟨?_, ?_, ?_⟩
  · rw [hcreate.held]
    exact Function.update_self ..
  · rw [hlisteners]
    intro hlisted
    obtain ⟨other, hother⟩ := (r.drop name).isHeld hlisted
    exact Nat.lt_irrefl _ ((r.drop name).held_lt hother)
  · intro former hformer
    rw [h.held] at hformer
    rw [hlisteners]
    intro hlisted
    exact (r.exists_update_none.1 ((r.drop name).isHeld hlisted)).2 hformer

/-- One that is subscribed keeps its place when it is subscribed again. -/
theorem subscribe_again (h : Refines w r) {name : String} {id : ObserverId}
    (hheld : w.held name = some id) (hid : id ∈ w.observers.listeners) :
    (w.subscribe name).observers.listeners = w.observers.listeners := by
  rw [(h.subscribe name).listeners, Roster.listed_subscribe (h.held ▸ hheld), ← h.listeners]
  exact if_pos hid

/-- One that is unsubscribed and subscribed again moves to the end. -/
theorem subscribe_unsubscribe (h : Refines w r) {name : String} {id : ObserverId}
    (hheld : w.held name = some id) :
    ((w.unsubscribe id).subscribe name).observers.listeners =
      w.observers.listeners.erase id ++ [id] := by
  have hunsubscribe := h.unsubscribe id
  have hname : (r.unsubscribe id).held name = some id := h.held ▸ hheld
  rw [(hunsubscribe.subscribe name).listeners, Roster.listed_subscribe hname, h.listeners]
  exact if_neg r.nodup.not_mem_erase

end Refines

/-- Observers are numbered as they are made. -/
theorem Roster.made_run (r : Roster) (acts : List Act) :
    List.range r.created ++ (run Roster.step r acts).2.filterMap Sight.made =
      List.range (run Roster.step r acts).1.created := by
  induction acts generalizing r with
  | nil => exact List.append_nil _
  | cons act acts ih =>
      have hrest := ih (r.step act).1
      cases act with
      | create name =>
          have hcreated : (r.step (.create name)).1.created = r.created + 1 := rfl
          rw [hcreated, List.range_succ, List.append_assoc] at hrest
          exact hrest
      | _ => exact hrest

/-- Through all acts of an owner and a client, the list that keeps the handles of dropped
observers shows what the specification shows: who is made, who hears what in which order, and
how many are subscribed.  Between any two acts the observers that would hear are those of the
specification, each once.  All that are made differ, also under one name; one that is subscribed
again keeps its place, and one that is unsubscribed first moves to the end. -/
theorem run_refines (acts : List Act) :
    let owned := (run Owned.step .empty acts).1
    let sights := (run Owned.step .empty acts).2
    let roster := (run Roster.step .empty acts).1
    sights = (run Roster.step .empty acts).2 ∧
    (owned.held = roster.held ∧
      ∀ id, owned.observers.isAlive id = true ↔ ∃ name, owned.held name = some id) ∧
    (owned.observers.listeners = roster.listed ∧
      owned.observers.size = roster.listed.length ∧
      ∀ notice, owned.observers.notify notice = roster.listed.map fun id => (id, notice)) ∧
    (roster.listed.Nodup ∧ ∀ id ∈ roster.listed, owned.observers.isAlive id = true) ∧
    (sights.filterMap Sight.made).Nodup ∧
    (∀ name, ∃ id, id ∉ sights.filterMap Sight.made ∧
      (owned.create name).held name = some id ∧
      id ∉ (owned.create name).observers.listeners ∧
      ∀ former, owned.held name = some former →
        former ∉ (owned.create name).observers.listeners) ∧
    (∀ name id, owned.held name = some id → id ∈ owned.observers.listeners →
      (owned.subscribe name).observers.listeners = owned.observers.listeners) ∧
    (∀ name id, owned.held name = some id →
      ((owned.unsubscribe id).subscribe name).observers.listeners =
        owned.observers.listeners.erase id ++ [id]) := by
  intro owned sights roster
  obtain ⟨hrefines, hsights⟩ := Refines.empty.run acts
  have hmade : sights.filterMap Sight.made = List.range roster.created := by
    have hrange := Roster.empty.made_run acts
    rw [← hsights] at hrange
    exact hrange
  have halive (id : ObserverId) :
      owned.observers.isAlive id = true ↔ ∃ name, owned.held name = some id := by
    rw [hrefines.held]
    exact hrefines.isAlive id
  refine ⟨hsights, ⟨hrefines.held, halive⟩, ⟨hrefines.listeners, ?_, ?_⟩,
    ⟨roster.nodup, fun id hid => (hrefines.isAlive id).2 (roster.isHeld hid)⟩, ?_, ?_,
    fun name id => hrefines.subscribe_again, fun name id => hrefines.subscribe_unsubscribe⟩
  · rw [size, hrefines.listeners]
  · intro notice
    rw [notify, hrefines.listeners]
  · rw [hmade]
    exact List.nodup_range
  · intro name
    refine ⟨roster.created, ?_, hrefines.held_create name⟩
    rw [hmade]
    exact List.not_mem_range_self

example :
    (run Owned.step .empty [.create "a", .subscribe "a", .create "b", .subscribe "b",
      .create "a", .subscribe "a", .unsubscribe 0, .notify (.reply "200 ok\r\n")]).2.getLast? =
    some ⟨none, [(1, .reply "200 ok\r\n"), (2, .reply "200 ok\r\n")], 2⟩ := by
  decide

end Observers
end FtpClient
