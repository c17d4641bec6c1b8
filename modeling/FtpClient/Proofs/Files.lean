import FtpClient.Files.Tree

/-
What opening, writing and removing a file does to the local files.

A path leads to one place of the tree, and all that is done with the file at that place leaves
the other places alone.  `Unreadable` lists why a file cannot be opened for reading.  `Admits`
says when one can be opened for writing: the path leads to a place that is free or, if the file
there may be replaced, holds a regular file.  `Blocked` lists what can stand in the way.
-/

namespace FtpClient

/-! ## Written paths -/

namespace Path

theorem segmentsFrom_append (segment cs ds : List Char) :
    segmentsFrom segment (cs ++ '/' :: ds) = segmentsFrom segment cs ++ segmentsFrom [] ds := by
  induction cs generalizing segment with
  | nil => simp [segmentsFrom]
  | cons c cs ih =>
      by_cases hc : c = '/'
      · simp [segmentsFrom, hc, ih]
      · simp [segmentsFrom, hc, ih]

theorem segmentsFrom_of_notMem (segment : List Char) {cs : List Char} (h : '/' ∉ cs) :
    segmentsFrom segment cs = [String.ofList (segment.reverse ++ cs)] := by
  induction cs generalizing segment with
  | nil => simp [segmentsFrom]
  | cons c cs ih =>
      have hc : c ≠ '/' := fun hc => h (hc ▸ List.mem_cons_self)
      have hcs : '/' ∉ cs := fun hmem => h (List.mem_cons_of_mem c hmem)
      rw [segmentsFrom, if_neg hc, ih _ hcs]
      simp

theorem segments_child (dir : String) {name : String} (h : '/' ∉ name.toList) :
    segments (dir ++ "/" ++ name) = segments dir ++ [name] := by
  have hchars : (dir ++ "/" ++ name).toList = dir.toList ++ '/' :: name.toList := by simp
  rw [segments, hchars, segmentsFrom_append, segmentsFrom_of_notMem [] h]
  simp [segments]

end Path

/-! ## Entries -/

theorem Source.ofBytes_bytes (bytes : List UInt8) : (Source.ofBytes bytes).bytes = bytes :=
  List.append_nil bytes

/-- What opening an entry for reading comes to. -/
def Node.reading : Node → Except SystemError Source
  | .file content => .ok (Source.ofBytes content)
  | .dir => .error .directoryAsFile
  | .device d =>
      match d.refusal with
      | some cause => .error cause
      | none => .ok d.source

namespace FileTree

variable {t : FileTree} {path : String} {place other : Place}

/-! ## Places -/

theorem node?_of_ne (hplace : place ≠ []) (t : FileTree) :
    t.node? place = (t.entries.find? fun e => e.1 == place).map (·.2) := by
  cases place with
  | nil => exact absurd rfl hplace
  | cons name rest => rfl

@[simp] theorem node?_set (hplace : place ≠ []) (node : Node) (t : FileTree) :
    (t.set place node).node? place = some node := by
  rw [node?_of_ne hplace]
  simp [set]

theorem find?_filter_ne {entries : List (Place × Node)} (h : other ≠ place) :
    (entries.filter fun e => e.1 != place).find? (fun e => e.1 == other) =
      entries.find? fun e => e.1 == other := by
  rw [List.find?_filter]
  congr 1
  funext e
  by_cases he : e.1 = other
  · simp [he, h]
  · simp [he]

theorem node?_set_of_ne (h : other ≠ place) (node : Node) (t : FileTree) :
    (t.set place node).node? other = t.node? other := by
  by_cases hother : other = []
  · rw [hother]
    rfl
  · have hne : (place == other) = false := by simpa using h.symm
    rw [node?_of_ne hother, node?_of_ne hother, set]
    simp only [List.find?_cons, hne]
    rw [find?_filter_ne h]

/-- What was put at a place leaves no trace once it is taken away. -/
theorem erase_set (place : Place) (node : Node) (t : FileTree) :
    (t.set place node).erase place = t.erase place := by
  simp [erase, set]

theorem erase_of_none (hplace : place ≠ []) (h : t.node? place = none) :
    t.erase place = t := by
  rw [node?_of_ne hplace, Option.map_eq_none_iff, List.find?_eq_none] at h
  have hkept : t.entries.filter (fun e => e.1 != place) = t.entries := by
    apply List.filter_eq_self.2
    intro e he
    simpa using h e he
  rw [erase, hkept]

theorem overwrite_of_file {old : List UInt8} (h : t.node? place = some (.file old))
    (bytes : List UInt8) :
    t.overwrite place bytes = t.set place (.file (bytes ++ old.drop bytes.length)) := by
  rw [overwrite, h]

theorem erase_overwrite (place : Place) (bytes : List UInt8) (t : FileTree) :
    (t.overwrite place bytes).erase place = t.erase place := by
  unfold overwrite
  split
  · exact t.erase_set place _
  · rfl

theorem truncate_of_file {old : List UInt8} (h : t.node? place = some (.file old))
    (length : Nat) :
    t.truncate place length = .ok (t.set place (.file (old.take length))) := by
  rw [truncate, h]

theorem sinkAt_of_file {old : List UInt8} (h : t.node? place = some (.file old)) :
    t.sinkAt place = .unlimited := by
  rw [sinkAt, h]

/-! ## Following a path -/

/-- The names on the way that a path describes. -/
def wayOf (path : String) : List String :=
  (Path.segments path).filter (· ≠ "")

/-- Where the way of a path starts. -/
def origin (t : FileTree) (path : String) : Place :=
  if path.toList.head? = some '/' then [] else t.here

/-- A text that can be a path. -/
def IsPath (path : String) : Prop :=
  path.toList.contains '\x00' = false ∧ path ≠ "" ∧ path.utf8ByteSize ≤ pathLimit

theorem follow_eq (h : IsPath path) :
    t.follow path = (do
      let parent ← (wayOf path).dropLast.foldlM t.step (t.origin path)
      t.checkDir parent
      match (wayOf path).getLast? with
      | none => return .dir parent
      | some name =>
          if name = "." || name = ".." then return .dir (← t.step parent name)
          else return .entry parent name (path.toList.getLast? = some '/')) := by
  obtain ⟨hnul, hempty, hlength⟩ := h
  unfold follow
  rw [if_neg (by rw [hnul]; exact Bool.false_ne_true), if_neg hempty, if_neg (by omega)]
  rfl

theorem isPath_of_follow {target : Target} (h : t.follow path = .ok target) : IsPath path := by
  unfold follow at h
  by_cases hnul : path.toList.contains '\x00'
  · rw [if_pos hnul] at h
    cases h
  by_cases hempty : path = ""
  · rw [if_neg hnul, if_pos hempty] at h
    cases h
  by_cases hlong : path.utf8ByteSize > pathLimit
  · rw [if_neg hnul, if_neg hempty, if_pos hlong] at h
    cases h
  · exact ⟨Bool.eq_false_iff.2 hnul, hempty, by omega⟩

/-- A way that can be gone to its end, which is a directory. -/
def LeadsTo (t : FileTree) (path : String) (place : Place) : Prop :=
  (wayOf path).foldlM t.step (t.origin path) = .ok place ∧ t.checkDir place = .ok ()

theorem checkDir_ok (h : t.checkDir place = .ok ()) : t.node? place = some .dir := by
  unfold checkDir at h
  split at h
  · assumption
  · cases h
  · cases h

theorem checkDir_of_step {name : String} (h : t.step place name = .ok other) :
    t.checkDir place = .ok () := by
  unfold step at h
  cases hdir : t.checkDir place with
  | error cause => rw [hdir] at h; cases h
  | ok _ => rfl

theorem LeadsTo.holds (hpath : IsPath path) (h : t.LeadsTo path place) : t.holds path := by
  obtain ⟨hway, hdir⟩ := h
  have hfind : ∃ p, t.find path = .ok (p, .dir) := by
    unfold find
    rw [follow_eq hpath]
    rcases List.eq_nil_or_concat (wayOf path) with hnone | ⟨names, name, hnames⟩
    · rw [hnone] at hway ⊢
      obtain rfl : t.origin path = place := Except.ok.inj hway
      refine ⟨t.origin path, ?_⟩
      simp [hdir, bind, Except.bind, pure, Except.pure]
    · rw [List.concat_eq_append] at hnames
      rw [hnames] at hway ⊢
      rw [List.foldlM_append] at hway
      cases hparent : names.foldlM t.step (t.origin path) with
      | error cause => rw [hparent] at hway; cases hway
      | ok parent =>
          rw [hparent] at hway
          have hstep : t.step parent name = .ok place := by
            cases hs : t.step parent name with
            | error cause => simp [hs, bind, Except.bind] at hway
            | ok p => simpa [hs, bind, Except.bind, pure, Except.pure] using hway
          have hcheck := checkDir_of_step hstep
          have hnode := checkDir_ok hdir
          refine ⟨place, ?_⟩
          by_cases hdots : (name = "." || name = "..")
          · simp [hparent, hcheck, hdots, hstep, bind, Except.bind, pure, Except.pure]
          · simp [hparent, hcheck, hdots, hstep, hnode, bind, Except.bind, pure, Except.pure]
  obtain ⟨p, hp⟩ := hfind
  rw [FileTree.holds, hp]

theorem wayOf_child (dir : String) {name : String} (hname : name ≠ "")
    (h : '/' ∉ name.toList) : wayOf (dir ++ "/" ++ name) = wayOf dir ++ [name] := by
  rw [wayOf, Path.segments_child dir h, List.filter_append]
  simp [wayOf, hname]

theorem origin_child {dir : String} (hdir : dir ≠ "") (name : String) (t : FileTree) :
    t.origin (dir ++ "/" ++ name) = t.origin dir := by
  have hchars : dir.toList ≠ [] := fun h => hdir (String.toList_eq_nil_iff.1 h)
  obtain ⟨c, cs, hcs⟩ := List.exists_cons_of_ne_nil hchars
  simp [origin, hcs]

theorem IsPath.parent {dir name : String} (hdir : dir ≠ "")
    (h : IsPath (dir ++ "/" ++ name)) : IsPath dir := by
  obtain ⟨hnul, -, hlength⟩ := h
  refine ⟨?_, hdir, ?_⟩
  · simp only [List.contains_eq_mem, decide_eq_false_iff_not] at hnul ⊢
    exact fun hmem => hnul (by simp [hmem])
  · simp only [String.utf8ByteSize_append] at hlength
    omega

/-- A path below a directory that is not there leads nowhere. -/
theorem follow_orphan {dir name : String} (hdir : dir ≠ "") (hname : name ≠ "")
    (hslash : '/' ∉ name.toList) (h : t.holds dir = false) :
    ∃ cause, t.follow (dir ++ "/" ++ name) = .error cause := by
  cases hfollow : t.follow (dir ++ "/" ++ name) with
  | error cause => exact ⟨cause, rfl⟩
  | ok target =>
      have hpath := isPath_of_follow hfollow
      have hleads : ∃ parent, t.LeadsTo dir parent := by
        rw [follow_eq hpath, wayOf_child dir hname hslash, origin_child hdir,
          List.dropLast_concat] at hfollow
        cases hway : (wayOf dir).foldlM t.step (t.origin dir) with
        | error cause => rw [hway] at hfollow; cases hfollow
        | ok parent =>
            rw [hway] at hfollow
            cases hcheck : t.checkDir parent with
            | error cause => simp [hcheck, bind, Except.bind] at hfollow
            | ok _ => exact ⟨parent, hway, hcheck⟩
      obtain ⟨parent, hparent⟩ := hleads
      have hholds := hparent.holds (hpath.parent hdir)
      rw [h] at hholds
      cases hholds

/-! ## The place that a path leads to -/

/-- The place that a path leads to, whether there is an entry or not.  A path that leads to a
directory for sure, as one with a slash at its end, leads to no such place. -/
def place? (t : FileTree) (path : String) : Option Place :=
  match t.follow path with
  | .ok (.entry parent name false) => (t.step parent name).toOption
  | _ => none

theorem place?_eq_some : t.place? path = some place ↔ ∃ parent name,
    t.follow path = .ok (.entry parent name false) ∧ t.step parent name = .ok place := by
  unfold place?
  constructor
  · intro h
    split at h
    · rename_i parent name hfollow
      refine ⟨parent, name, hfollow, ?_⟩
      cases hstep : t.step parent name with
      | error cause => rw [hstep] at h; cases h
      | ok place' =>
          rw [hstep] at h
          rw [Option.some.inj h]
    · cases h
  · intro h
    obtain ⟨parent, name, hfollow, hstep⟩ := h
    rw [hfollow]
    show (t.step parent name).toOption = some place
    rw [hstep]
    rfl

theorem follow_entry {parent : Place} {name : String} {slash : Bool}
    (h : t.follow path = .ok (.entry parent name slash)) : name ≠ "." ∧ name ≠ ".." := by
  unfold follow at h
  simp only [bind, Except.bind, pure, Except.pure, throw, throwThe, MonadExceptOf.throw] at h
  repeat' split at h
  all_goals try cases h
  all_goals simp_all

theorem step_entry {parent : Place} {name : String} (hname : name ≠ "." ∧ name ≠ "..")
    (h : t.step parent name = .ok place) : place = parent ++ [name] := by
  unfold step at h
  rw [if_neg hname.1, if_neg hname.2] at h
  cases hdir : t.checkDir parent with
  | error cause => rw [hdir] at h; cases h
  | ok _ =>
      rw [hdir] at h
      by_cases hlong : name.utf8ByteSize > nameLimit
      · rw [if_pos hlong] at h
        cases h
      · rw [if_neg hlong] at h
        exact (Except.ok.inj h).symm

theorem place?_ne_nil (h : t.place? path = some place) : place ≠ [] := by
  obtain ⟨parent, name, hfollow, hstep⟩ := place?_eq_some.1 h
  rw [step_entry (follow_entry hfollow) hstep]
  simp

theorem find_eq (h : t.place? path = some place) :
    t.find path =
      match t.node? place with
      | none => .error .noSuchEntry
      | some node => .ok (place, node) := by
  obtain ⟨parent, name, hfollow, hstep⟩ := place?_eq_some.1 h
  unfold find
  rw [hfollow]
  simp only [bind, Except.bind, hstep]
  cases t.node? place <;> rfl

/-- Where a path leads, there is something if there is an entry. -/
theorem holds_eq (h : t.place? path = some place) : t.holds path = (t.node? place).isSome := by
  rw [holds, find_eq h]
  cases t.node? place <;> rfl

/-! ## Opening a file for reading -/

/-- Why the file at a path cannot be opened for reading. -/
inductive Unreadable (t : FileTree) (path : String) : SystemError → Prop where
  | lost {cause : SystemError} : t.find path = .error cause → Unreadable t path cause
  | directory {place : Place} : t.find path = .ok (place, .dir) →
      Unreadable t path .directoryAsFile
  | refused {place : Place} {device : Device} {cause : SystemError} :
      t.find path = .ok (place, .device device) → device.refusal = some cause →
      Unreadable t path cause

theorem openForReading_eq (t : FileTree) (path : String) :
    t.openForReading path = (t.find path).bind fun found => found.2.reading := by
  unfold openForReading
  cases t.find path with
  | error cause => rfl
  | ok found =>
      obtain ⟨place, node⟩ := found
      cases node <;> rfl

theorem openForReading_of_find {node : Node} (h : t.find path = .ok (place, node)) :
    t.openForReading path = node.reading := by
  rw [openForReading_eq, h]
  rfl

theorem Unreadable.openForReading {cause : SystemError} (h : t.Unreadable path cause) :
    t.openForReading path = .error cause := by
  cases h with
  | lost hfind => rw [openForReading_eq, hfind]; rfl
  | directory hfind => exact openForReading_of_find hfind
  | refused hfind hrefusal =>
      rw [openForReading_of_find hfind, Node.reading, hrefusal]

theorem unreadable_of_openForReading {cause : SystemError}
    (h : t.openForReading path = .error cause) : t.Unreadable path cause := by
  cases hfind : t.find path with
  | error cause' =>
      rw [openForReading_eq, hfind] at h
      obtain rfl := Except.error.inj h
      exact .lost hfind
  | ok found =>
      obtain ⟨place, node⟩ := found
      rw [openForReading_of_find hfind] at h
      cases node with
      | file content => cases h
      | dir =>
          obtain rfl := Except.error.inj h
          exact .directory hfind
      | device d =>
          dsimp only [Node.reading] at h
          split at h
          · rename_i cause' hrefusal
            obtain rfl := Except.error.inj h
            exact .refused hfind hrefusal
          · cases h

/-! ## Opening a file for writing -/

/-- A tree of directories and regular files. -/
def IsPlain (t : FileTree) : Prop :=
  ∀ place device, t.node? place ≠ some (.device device)

/-- A path that a file can be written at: it leads to a place that is free or, if an existing
file may be replaced, holds a regular file. -/
structure Admits (t : FileTree) (path : String) (replace : Bool) (place : Place) : Prop where
  leads : t.place? path = some place
  free : t.node? place = none ∨ replace ∧ ∃ old, t.node? place = some (.file old)

/-- The tree with an empty file at a place that was free. -/
def opened (t : FileTree) (place : Place) : FileTree :=
  if (t.node? place).isSome then t else t.set place (.file [])

theorem opened_of_none (h : t.node? place = none) : t.opened place = t.set place (.file []) := by
  rw [opened, h]
  rfl

theorem opened_of_some {node : Node} (h : t.node? place = some node) : t.opened place = t := by
  rw [opened, h]
  rfl

theorem openForWriting_eq (h : t.place? path = some place) (replace : Bool) :
    t.openForWriting path replace =
      match t.node? place with
      | none => .ok (place, t.set place (.file []))
      | some node =>
          if !replace then .error .entryExists
          else
            match node with
            | .file _ => .ok (place, t)
            | .dir => .error .isADirectory
            | .device d =>
                match d.refusal with
                | some cause => .error cause
                | none => .ok (place, t) := by
  obtain ⟨parent, name, hfollow, hstep⟩ := place?_eq_some.1 h
  unfold openForWriting
  rw [hfollow]
  simp only [bind, Except.bind, hstep]
  cases t.node? place with
  | none => rfl
  | some node => cases replace <;> rfl

theorem place?_of_openForWriting {replace : Bool} {files : FileTree}
    (h : t.openForWriting path replace = .ok (place, files)) : t.place? path = some place := by
  have hleads : ∃ place', t.place? path = some place' := by
    unfold openForWriting at h
    cases hfollow : t.follow path with
    | error cause => rw [hfollow] at h; cases h
    | ok target =>
        rw [hfollow] at h
        cases target with
        | dir _ => cases h
        | entry parent name slash =>
            cases slash with
            | true => cases h
            | false =>
                cases hstep : t.step parent name with
                | error cause => simp [hstep, bind, Except.bind] at h
                | ok place' => exact ⟨place', place?_eq_some.2 ⟨parent, name, hfollow, hstep⟩⟩
  obtain ⟨place', hplace⟩ := hleads
  rw [openForWriting_eq hplace] at h
  repeat' split at h
  all_goals cases h
  all_goals exact hplace

theorem Admits.openForWriting {replace : Bool} (h : t.Admits path replace place) :
    t.openForWriting path replace = .ok (place, t.opened place) := by
  rw [openForWriting_eq h.leads]
  rcases h.free with hnone | ⟨hreplace, old, hold⟩
  · rw [opened_of_none hnone, hnone]
  · rw [opened_of_some hold, hold, hreplace]
    rfl

/-- Without devices, a file can be opened for writing only at a place that admits it. -/
theorem IsPlain.admits (ht : t.IsPlain) {replace : Bool} {files : FileTree}
    (h : t.openForWriting path replace = .ok (place, files)) : t.Admits path replace place := by
  have hleads := place?_of_openForWriting h
  refine ⟨hleads, ?_⟩
  rw [openForWriting_eq hleads] at h
  cases hnode : t.node? place with
  | none => exact Or.inl rfl
  | some node =>
      rw [hnode] at h
      cases replace with
      | false => cases h
      | true =>
          cases node with
          | file old => exact Or.inr ⟨rfl, old, rfl⟩
          | dir => cases h
          | device d => exact absurd hnode (ht place d)

/-- What stands in the way of writing a file: an entry that is not to be replaced, a missing
directory, a way that cannot be gone for another reason, or a directory in its place. -/
inductive Blocked (t : FileTree) (path : String) (replace : Bool) : Prop where
  | taken : t.holds path → replace = false → Blocked t path replace
  | orphan {dir name : String} : path = dir ++ "/" ++ name → dir ≠ "" → name ≠ "" →
      '/' ∉ name.toList → t.holds dir = false → Blocked t path replace
  | lost {cause : SystemError} : t.follow path = .error cause → Blocked t path replace
  | directory {place : Place} : t.find path = .ok (place, .dir) → Blocked t path replace

theorem not_admits_of_lost {replace : Bool} {cause : SystemError}
    (h : t.follow path = .error cause) : ¬ t.Admits path replace place := by
  intro hadmits
  obtain ⟨parent, name, hfollow, -⟩ := place?_eq_some.1 hadmits.leads
  rw [h] at hfollow
  cases hfollow

theorem Blocked.not_admits {replace : Bool} (h : t.Blocked path replace) :
    ¬ t.Admits path replace place := by
  cases h with
  | taken hholds hreplace =>
      intro hadmits
      rw [holds_eq hadmits.leads] at hholds
      rcases hadmits.free with hnone | ⟨hallowed, -⟩
      · rw [hnone] at hholds
        cases hholds
      · rw [hreplace] at hallowed
        cases hallowed
  | orphan hpath hdir hname hslash hmissing =>
      obtain ⟨cause, hfollow⟩ := follow_orphan hdir hname hslash hmissing
      rw [hpath]
      exact not_admits_of_lost hfollow
  | lost hfollow => exact not_admits_of_lost hfollow
  | directory hfind =>
      intro hadmits
      rw [find_eq hadmits.leads] at hfind
      rcases hadmits.free with hnone | ⟨-, old, hold⟩
      · rw [hnone] at hfind
        cases hfind
      · rw [hold] at hfind
        cases hfind

end FileTree
end FtpClient
