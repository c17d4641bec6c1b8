import FtpClient.Proofs.Downloads
import FtpClient.Proofs.TypedAddresses

/-
The names of files that a user leaves out.

A file that is fetched is named like the text behind the last slash of its path, whatever that
is; a file that is sent is named like the entry that its path leads to, and is not sent without
one.  `EndsIn` and `Names` describe the two.  They agree where the text behind the last slash is
the name of an entry, and only there: a download that is named by anything else fails before it
begins, and any other one touches a single entry of the working directory.
-/

namespace FtpClient

/-! ## Names -/

namespace Path

variable {path name : String}

/-- A text that can name an entry of a directory. -/
structure IsEntryName (name : String) : Prop where
  ne_empty : name ≠ ""
  ne_here : name ≠ "."
  ne_up : name ≠ ".."
  plain : '/' ∉ name.toList

/-- A path that has a text behind its last slash, or in which no slash is. -/
def EndsIn (path name : String) : Prop :=
  '/' ∉ name.toList ∧ (path = name ∨ ∃ dir, path = dir ++ "/" ++ name)

/-- A path that leads to an entry by its name.  Slashes and steps that stay may follow. -/
inductive Names : String → String → Prop where
  | ends {path name : String} : EndsIn path name → IsEntryName name → Names path name
  | slash {path name : String} : Names path name → Names (path ++ "/") name
  | here {path name : String} : Names path name → Names (path ++ "/.") name

theorem Names.isEntryName (h : Names path name) : IsEntryName name := by
  induction h with
  | ends _ hname => exact hname
  | slash _ ih => exact ih
  | here _ ih => exact ih

theorem stays_or_up (hplain : '/' ∉ name.toList) (h : ¬IsEntryName name) :
    (name = "" ∨ name = ".") ∨ name = ".." := by
  by_contra hnone
  simp only [not_or] at hnone
  exact h ⟨hnone.1.1, hnone.1.2, hnone.2, hplain⟩

theorem Names.child {dir : String} (h : Names dir name) (hstays : path = "" ∨ path = ".") :
    Names (dir ++ "/" ++ path) name := by
  rcases hstays with rfl | rfl
  · simpa using h.slash
  · simpa [String.append_assoc] using h.here

theorem EndsIn.segments (h : EndsIn path name) : ∃ before, segments path = before ++ [name] := by
  obtain ⟨hplain, rfl | ⟨dir, rfl⟩⟩ := h
  · refine ⟨[], ?_⟩
    rw [Path.segments, segmentsFrom_of_notMem [] hplain]
    simp
  · exact ⟨Path.segments dir, segments_child dir hplain⟩

theorem EndsIn.lastSegment (h : EndsIn path name) : lastSegment path = name := by
  obtain ⟨before, hsegments⟩ := h.segments
  rw [Path.lastSegment, hsegments, List.getLast?_concat]
  rfl

theorem exists_endsIn (path : String) : ∃ name, EndsIn path name := by
  by_cases hslash : '/' ∈ path.toList
  · obtain ⟨before, after, hpath, hafter⟩ := Prompt.exists_last hslash
    refine ⟨String.ofList after, by simpa using hafter, Or.inr ⟨String.ofList before, ?_⟩⟩
    apply String.toList_inj.1
    rw [hpath]
    simp
  · exact ⟨path, hslash, Or.inl rfl⟩

/-! ## Steps -/

theorem steps_child (dir : String) (h : '/' ∉ name.toList) :
    steps (dir ++ "/" ++ name) = steps dir ++ if name ≠ "" ∧ name ≠ "." then [name] else [] := by
  rw [steps, segments_child dir h, List.filter_append, List.filter_singleton]
  simp [steps]

theorem fileName?_eq_some : fileName? path = some name ↔
    (steps path).getLast? = some name ∧ name ≠ ".." := by
  unfold fileName?
  cases (steps path).getLast? with
  | none => simp
  | some last =>
      by_cases hup : last = ".."
      · simp only [hup, if_true, Option.some.injEq, reduceCtorEq, false_iff, not_and, not_not]
        exact fun heq => heq.symm
      · simp only [hup, if_false, Option.some.injEq, iff_self_and]
        exact fun heq => heq ▸ hup

/-- A step that stays leads to the same entry. -/
theorem fileName?_child (dir : String) (h : name = "" ∨ name = ".") :
    fileName? (dir ++ "/" ++ name) = fileName? dir := by
  have hplain : '/' ∉ name.toList := by
    rcases h with rfl | rfl <;> decide
  have hstays : ¬(name ≠ "" ∧ name ≠ ".") := by
    rcases h with rfl | rfl <;> decide
  rw [fileName?, steps_child dir hplain, if_neg hstays, List.append_nil]
  rfl

theorem EndsIn.fileName? (h : EndsIn path name) (hname : IsEntryName name) :
    fileName? path = some name := by
  obtain ⟨before, hsegments⟩ := h.segments
  rw [fileName?_eq_some, steps, hsegments, List.filter_append]
  refine ⟨?_, hname.ne_up⟩
  simp [hname.ne_empty, hname.ne_here]

theorem EndsIn.fileName?_up (h : EndsIn path "..") : Path.fileName? path = none := by
  obtain ⟨before, hsegments⟩ := h.segments
  rw [Path.fileName?, steps, hsegments, List.filter_append]
  simp

/-- A sent file is named like the entry that its path leads to, by whatever slashes. -/
theorem fileName?_iff_names : Path.fileName? path = some name ↔ Names path name := by
  constructor
  · intro h
    -- The induction goes up the path, from one slash to the one before it.
    induction hlength : path.toList.length using Nat.strongRecOn generalizing path with
    | ind length ih =>
        obtain ⟨last, hlast⟩ := exists_endsIn path
        by_cases hname : IsEntryName last
        · rw [hlast.fileName? hname] at h
          obtain rfl := Option.some.inj h
          exact .ends hlast hname
        · rcases stays_or_up hlast.1 hname with hstays | rfl
          · obtain ⟨-, rfl | ⟨dir, rfl⟩⟩ := hlast
            · rcases hstays with rfl | rfl <;> cases h
            · rw [fileName?_child dir hstays] at h
              have hshorter : dir.toList.length < length := by simp [← hlength]
              exact (ih _ hshorter h rfl).child hstays
          · rw [hlast.fileName?_up] at h
            cases h
  · intro h
    induction h with
    | ends hends hname => exact hends.fileName? hname
    | @slash path name _ ih =>
        rw [← ih, ← fileName?_child path (Or.inl rfl)]
        simp
    | @here path name _ ih =>
        rw [← ih, ← fileName?_child path (Or.inr rfl)]
        congr 1
        apply String.toList_inj.1
        simp

end Path

/-! ## The entry that a name leads to -/

namespace FileTree

variable {t t' u : FileTree} {name path : String} {place : Place}

/-- A name that is a path by itself leads to an entry of the working directory, if anywhere. -/
theorem place?_of_plain (hplain : '/' ∉ name.toList) (h : t.place? name = some place) :
    Path.IsEntryName name ∧ place = t.here ++ [name] := by
  obtain ⟨parent, last, hfollow, hstep⟩ := place?_eq_some.1 h
  have hpath := isPath_of_follow hfollow
  have hway : wayOf name = [name] := by
    rw [wayOf, Path.segments, Path.segmentsFrom_of_notMem [] hplain]
    simp [hpath.2.1]
  have horigin : t.origin name = t.here := by
    refine if_neg fun hhead => hplain ?_
    exact List.mem_of_mem_head? hhead
  rw [follow_eq hpath, hway, horigin] at hfollow
  cases hdir : t.checkDir t.here with
  | error cause => simp [hdir, bind, Except.bind, pure, Except.pure] at hfollow
  | ok _ =>
      by_cases hdots : name = "." ∨ name = ".."
      · cases hdot : t.step t.here name <;>
          simp [hdir, hdots, hdot, bind, Except.bind, pure, Except.pure] at hfollow
      · simp [hdir, hdots, bind, Except.bind, pure, Except.pure] at hfollow
        obtain ⟨rfl, rfl, -⟩ := hfollow
        obtain ⟨hhere, hup⟩ := not_or.1 hdots
        exact ⟨⟨hpath.2.1, hhere, hup, hplain⟩, step_entry ⟨hhere, hup⟩ hstep⟩

/-- Trees that differ at one place at most. -/
structure AgreeOff (place : Place) (t t' : FileTree) : Prop where
  here : t'.here = t.here
  elsewhere : ∀ other, other ≠ place → t'.node? other = t.node? other

namespace AgreeOff

theorem refl (place : Place) (t : FileTree) : AgreeOff place t t :=
  ⟨rfl, fun _ _ => rfl⟩

theorem trans (h : AgreeOff place t t') (h' : AgreeOff place t' u) : AgreeOff place t u :=
  ⟨h'.here.trans h.here, fun other hne => (h'.elsewhere other hne).trans (h.elsewhere other hne)⟩

theorem set (place : Place) (node : Node) (t : FileTree) : AgreeOff place t (t.set place node) :=
  ⟨rfl, fun _ hne => node?_set_of_ne hne node t⟩

theorem erase (place : Place) (t : FileTree) : AgreeOff place t (t.erase place) := by
  refine ⟨rfl, fun other hne => ?_⟩
  by_cases hother : other = []
  · rw [hother]
    rfl
  · rw [node?_of_ne hother, node?_of_ne hother, FileTree.erase, find?_filter_ne hne]

theorem overwrite (place : Place) (bytes : List UInt8) (t : FileTree) :
    AgreeOff place t (t.overwrite place bytes) := by
  unfold FileTree.overwrite
  split
  · exact set place _ t
  · exact refl place t

theorem truncate {length : Nat} (h : t.truncate place length = .ok t') : AgreeOff place t t' := by
  unfold FileTree.truncate at h
  repeat' split at h
  all_goals cases h
  · exact set place _ t
  · exact refl place t

theorem openForWriting {replace : Bool} (h : t.openForWriting path replace = .ok (place, t')) :
    AgreeOff place t t' := by
  rw [openForWriting_eq (place?_of_openForWriting h)] at h
  repeat' split at h
  all_goals cases h
  · exact set place _ t
  · exact refl place t
  · exact refl place t

end AgreeOff

end FileTree

/-! ## Downloads -/

namespace Session

open FileTree (AgreeOff)

variable {ν : Type} [Network ν] {s : Session ν} {path : String} {place : Place}

omit [Network ν] in
/-- What is received goes over the file at the place, as far as there is room for it. -/
theorem receiveInto_stores (place : Place) :
    Stores (fun d files => files.overwrite place
      ((files.sinkAt place).drain 0 (d.source.pieces transferBufferSize)).sink.held)
      (receiveInto (ν := ν) place) := by
  intro s d hd
  unfold receiveInto receiveFile
  rw [hd]
  dsimp only
  split <;> rfl

omit [Network ν] in
theorem finishDownload_agreeOff (path : String) (place : Place) (existed : Bool)
    (o : Outcome ν (Answer Nat)) :
    AgreeOff place o.session.files (finishDownload path place existed o).session.files := by
  unfold finishDownload
  dsimp only
  split
  · split
    · exact .refl place _
    · rename_i files hfiles
      exact .truncate hfiles
  · split
    · exact .refl place _
    · exact .erase place _

theorem receiveInto_agreeOff (hs : s.data = none) (c : Command) (place : Place) :
    AgreeOff place s.files (s.transfer c (receiveInto place)).session.files := by
  rw [transfer_files (receiveInto_stores place) c hs]
  unfold stored
  cases s.carrying c with
  | none => exact .refl place s.files
  | some d => exact .overwrite place _ s.files

/-- Whatever becomes of a download, it touches no file but its own. -/
theorem download_agreeOff (hs : s.data = none) {files : FileTree}
    (h : s.files.openForWriting path s.options.overwrite = .ok (place, files)) (remote : String) :
    AgreeOff place s.files (s.download remote path).session.files := by
  let opened : Session ν :=
    { s.log .debug .client ("Downloading " ++ remote ++ " to " ++ path) with files }
  have hdownload : s.download remote path =
      guarded (finishDownload path place (s.options.overwrite && s.files.holds path)
        (opened.transfer (.retr remote) (receiveInto place))) := by
    unfold download
    dsimp only [log_eq_record, record_files, record_options]
    rw [h]
    rfl
  have hmoved := receiveInto_agreeOff (s := opened) hs (.retr remote) place
  rw [hdownload, guarded_files]
  exact ((AgreeOff.openForWriting h).trans hmoved).trans (finishDownload_agreeOff _ _ _ _)

variable {name : String}

/-- A download into the working directory touches the entry of that name, and where the text is
no name of an entry it fails before it begins. -/
theorem download_plain (hs : s.data = none) (hplain : '/' ∉ name.toList) (remote : String) :
    let o := s.download remote name
    AgreeOff (s.files.here ++ [name]) s.files o.session.files ∧
      (¬Path.IsEntryName name → (∃ cause, o.value = .error (.file name cause)) ∧
        o.session.files = s.files ∧ o.session.wires = s.wires) := by
  intro o
  cases hopen : s.files.openForWriting name s.options.overwrite with
  | error cause =>
      obtain ⟨hvalue, hfiles, hwires⟩ := download_unopened hopen remote
      refine ⟨?_, fun _ => ⟨⟨cause, hvalue⟩, hfiles, hwires⟩⟩
      rw [hfiles]
      exact .refl _ s.files
  | ok opened =>
      obtain ⟨place, files⟩ := opened
      have hplace := FileTree.place?_of_openForWriting hopen
      obtain ⟨hname, rfl⟩ := FileTree.place?_of_plain hplain hplace
      exact ⟨download_agreeOff hs hopen remote, fun hnot => absurd hname hnot⟩

/-- An accepted download has made that entry a file of the octets that it counts. -/
theorem download_plain_accepted (hs : s.data = none) (hfiles : s.files.IsPlain)
    (hplain : '/' ∉ name.toList) {remote : String} {n : Nat}
    (hvalue : (s.download remote name).value = .ok (.accepted n)) :
    ∃ content, content.length = n ∧
      (s.download remote name).session.files.node? (s.files.here ++ [name]) =
        some (.file content) := by
  cases hopen : s.files.openForWriting name s.options.overwrite with
  | error cause =>
      rw [(download_unopened hopen remote).1] at hvalue
      cases hvalue
  | ok opened =>
      have hadmits : s.files.Admits name s.options.overwrite opened.1 := hfiles.admits hopen
      obtain ⟨-, hplace⟩ := FileTree.place?_of_plain hplain hadmits.leads
      obtain ⟨hfetched, hcounted⟩ := (download_ends hs hadmits remote).of_ok hvalue
      obtain ⟨-, hlength⟩ := hcounted n rfl
      rw [← hplace]
      exact ⟨_, hlength.symm, hfetched.whole ⟨n, rfl⟩⟩

end Session

/-! ## Requests without a second path -/

namespace Prompt
namespace Request

open FtpClient.Path (EndsIn IsEntryName Names)

variable {line typed word : String}

theorem parse_get_word (htyped : IsCased typed "get")
    (hline : Blank.Spaced [typed, word] line.toList) {name : String} (hname : EndsIn word name) :
    parse line = .ok (get word name) := by
  have hlower := (isCased_iff (toLower_of_mem_allKeywords (by decide))).1 htyped
  rw [parse_of_spaced hline, hlower, ← hname.lastSegment]
  rfl

theorem parse_put_word (htyped : IsCased typed "put")
    (hline : Blank.Spaced [typed, word] line.toList) :
    parse line = (Path.fileName? word).elim (.error (.missing .remote))
      fun name => .ok (put word name) := by
  have hlower := (isCased_iff (toLower_of_mem_allKeywords (by decide))).1 htyped
  rw [parse_of_spaced hline, hlower]
  show ofPut [word] = _
  unfold ofPut
  dsimp only
  cases Path.fileName? word <;> rfl

/-- The names that are given to files.  A file that is fetched gets the text behind the last
slash of its path, usable or not.  A file that is sent gets the name of the entry that its path
leads to, and there is no such request without one.  The two are the same where the text behind
the last slash can name an entry.  Then a download changes that entry of the working directory,
and no other one; it fails without a word to the server if the text cannot name an entry. -/
theorem default_names {ν : Type} [Network ν] (word : String) (options : Options)
    (observers : Observers) (files : FileTree) (network : ν) (ms : List (Move ν)) :
    ∃ name, EndsIn word name ∧
      (∀ typed line, IsCased typed "get" → Blank.Spaced [typed, word] line.toList →
        parse line = .ok (get word name)) ∧
      (∀ typed line, IsCased typed "put" → Blank.Spaced [typed, word] line.toList →
        (∀ remote, parse line = .ok (put word remote) ↔ Names word remote) ∧
          (parse line = .error (.missing .remote) ↔ ∀ remote, ¬Names word remote)) ∧
      (∀ remote, Names word remote → IsEntryName remote) ∧
      (Names word name ↔ IsEntryName name) ∧
      let s := (Session.start options observers files network).moves ms
      let o := s.download word name
      FileTree.AgreeOff (s.files.here ++ [name]) s.files o.session.files ∧
        (¬IsEntryName name → (∃ cause, o.value = .error (.file name cause)) ∧
          o.session.files = s.files ∧ o.session.wires = s.wires) ∧
        (s.files.IsPlain → ∀ n, o.value = .ok (.accepted n) → ∃ content, content.length = n ∧
          o.session.files.node? (s.files.here ++ [name]) = some (.file content)) := by
  obtain ⟨name, hends⟩ := Path.exists_endsIn word
  refine ⟨name, hends, ?_, ?_, fun _ h => h.isEntryName, ⟨Names.isEntryName, .ends hends⟩, ?_⟩
  · intro typed line htyped hline
    exact parse_get_word htyped hline hends
  · intro typed line htyped hline
    rw [parse_put_word htyped hline]
    constructor
    · intro remote
      rw [← Path.fileName?_iff_names]
      cases Path.fileName? word <;> simp
    · simp only [← Path.fileName?_iff_names]
      cases Path.fileName? word <;> simp
  · intro s o
    have hs : s.data = none := Session.moves_data rfl ms
    obtain ⟨hagree, hunusable⟩ := Session.download_plain hs hends.1 word
    exact ⟨hagree, hunusable, fun hfiles n => Session.download_plain_accepted hs hfiles hends.1⟩

/-- A path with a slash at its end is fetched, though nothing is behind the slash. -/
theorem get_slash_unnamed : ¬∀ line typed word name : String,
    Blank.Spaced [typed, word] line.toList →
    (parse line = .ok (get word name) ∨ parse line = .ok (put word name)) →
    IsEntryName name := by
  intro h
  have hline : Blank.Spaced ["get", "pub/"] "get pub/".toList := Blank.spaced_iff.2 (by cbv)
  have hparse : parse "get pub/" = .ok (get "pub/" "") := by cbv
  exact (h "get pub/" "get" "pub/" "" hline (Or.inl hparse)).ne_empty rfl

example : parse "put pub/." = .ok (put "pub/." "pub") := by
  cbv

end Request
end Prompt
end FtpClient
