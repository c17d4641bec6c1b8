import FtpClient.Proofs.Framing
import Mathlib.Data.List.Forall2

/-
Reading replies one after another until the stream ends.

The lines of a stream fall into runs, one for each item that is read, and lines that are left
when no further item is complete.  That every stream is divided so is a fact about lines alone,
proved by induction on their number.  Reading is then followed along the division, so that
whatever is said of the items, of the readers between them and of the way in which the octets
arrived is read off it.
-/

namespace FtpClient

/-! ## Items -/

/-- The item that lines are read as: a reply, or the one line that begins none. -/
inductive IsItem : List String → Except Failure Reply → Prop where
  | reply {texts : List String} {reply : Reply} (h : IsReply texts reply) :
      IsItem texts (.ok reply)
  | stray {text : String} (h : Head.ofLine? text = none) :
      IsItem [text] (.error (.protocol .invalidReply text))

/-- Lines of which nothing is read: none at all, or those of a reply that no line ends. -/
def IsOpen (texts : List String) : Prop :=
  ∀ first more, texts = first :: more →
    ∃ code, Begins code '-' first ∧ ∀ text ∈ more, ¬Begins code ' ' text

/-- The text of an item, with its line ends. -/
def itemText : Except Failure Reply → String
  | .ok reply => reply.text
  | .error (.protocol _ line) => line ++ lineEnd
  | .error _ => ""

namespace IsItem

variable {texts : List String} {item : Except Failure Reply}

theorem ne_nil (h : IsItem texts item) : texts ≠ [] := by
  cases h with
  | reply h => cases h <;> simp
  | stray h => simp

theorem text_eq (h : IsItem texts item) :
    itemText item = String.join (texts.map (· ++ "\r\n")) := by
  cases h with
  | reply h =>
      show String.join _ = _
      rw [h.lines_eq]
      rfl
  | stray h => simp [itemText, lineEnd]

theorem ne_connection (h : IsItem texts item) (activity : Activity) (cause : SystemError) :
    item ≠ .error (.connection activity cause) := by
  intro hitem
  rw [hitem] at h
  cases h

end IsItem

/-! ## Runs of lines -/

/-- Octets cut into lines: the runs that are read as items, the lines that are left, and the
octets after the last line feed. -/
structure Division (bytes : List UInt8) (runs : List (List (List UInt8)))
    (items : List (Except Failure Reply)) (left : List (List UInt8)) (tail : List UInt8) :
    Prop where
  cut : Cut bytes (runs.flatten ++ left) tail
  items : List.Forall₂ (fun run item => IsItem (run.map lineText) item) runs items
  left : IsOpen (left.map lineText)

theorem exists_runs (lines : List (List UInt8)) :
    ∃ runs items left, lines = runs.flatten ++ left ∧
      List.Forall₂ (fun run item => IsItem (run.map lineText) item) runs items ∧
      IsOpen (left.map lineText) := by
  have hcons (run : List (List UInt8)) {more : List (List UInt8)} {item : Except Failure Reply}
      (hitem : IsItem (run.map lineText) item)
      (hmore : ∃ runs items left, more = runs.flatten ++ left ∧
        List.Forall₂ (fun run item => IsItem (run.map lineText) item) runs items ∧
        IsOpen (left.map lineText)) :
      ∃ runs items left, run ++ more = runs.flatten ++ left ∧
        List.Forall₂ (fun run item => IsItem (run.map lineText) item) runs items ∧
        IsOpen (left.map lineText) := by
    obtain ⟨runs, items, left, heq, hitems, hleft⟩ := hmore
    exact ⟨run :: runs, item :: items, left, by simp [heq], .cons hitem hitems, hleft⟩
  -- No run is empty, so the lines after the first one are fewer.
  induction hlength : lines.length using Nat.strongRecOn generalizing lines with
  | ind n ih =>
      rcases Inbound.framing_cases lines with rfl | ⟨line, more, rfl, hnone⟩ |
        ⟨code, line, more, rfl, hhead⟩ | ⟨code, line, more, rfl, hhead, hopen⟩ |
        ⟨code, line, between, last, more, rfl, hhead, hopen, hlast⟩
      · exact ⟨[], [], [], rfl, .nil, by simp [IsOpen]⟩
      · exact hcons [line] (.stray hnone) (ih more.length (by simp [← hlength]) more rfl)
      · exact hcons [line] (.reply (.single hhead))
          (ih more.length (by simp [← hlength]) more rfl)
      · refine ⟨[], [], line :: more, rfl, .nil, ?_⟩
        intro first rest htexts
        obtain ⟨rfl, rfl⟩ := List.cons.inj htexts
        exact ⟨code, hhead, by simpa using hopen⟩
      · have hbetween : ∀ text ∈ between.map lineText, ¬Begins code ' ' text := by
          simpa using hopen
        have hreply := IsReply.multi hhead hbetween hlast
        have hmore := ih more.length (by simp [← hlength]; omega) more rfl
        have hall := hcons (line :: between ++ [last]) (.reply (by simpa using hreply)) hmore
        simpa using hall

theorem exists_division (bytes : List UInt8) :
    ∃ runs items left tail, Division bytes runs items left tail := by
  have hcut := cut_splitLines bytes
  obtain ⟨runs, items, left, heq, hitems, hleft⟩ := exists_runs (splitLines bytes).1
  rw [heq] at hcut
  exact ⟨runs, items, left, _, hcut, hitems, hleft⟩

namespace Division

variable {bytes : List UInt8} {runs : List (List (List UInt8))}
  {items : List (Except Failure Reply)} {left : List (List UInt8)} {tail : List UInt8}

theorem length_eq (h : Division bytes runs items left tail) : runs.length = items.length :=
  h.items.length_eq

theorem isItem (h : Division bytes runs items left tail) {i : Nat} {item : Except Failure Reply}
    (hitem : items[i]? = some item) :
    ∃ run, runs.drop i = run :: runs.drop (i + 1) ∧ IsItem (run.map lineText) item := by
  obtain ⟨hi, rfl⟩ := List.getElem?_eq_some_iff.1 hitem
  have hrun : i < runs.length := h.length_eq ▸ hi
  exact ⟨runs[i], List.drop_eq_getElem_cons hrun, h.items.get hrun hi⟩

/-- The items have the text of the runs. -/
theorem join_items (h : Division bytes runs items left tail) :
    String.join (items.map itemText) =
      String.join (runs.flatten.map fun line => lineText line ++ "\r\n") := by
  obtain ⟨-, hitems, -⟩ := h
  induction hitems with
  | nil => rfl
  | cons hitem hitems ih =>
      rw [List.map_cons, String.join_cons, ih, hitem.text_eq, List.flatten_cons, List.map_append,
        String.join_append, List.map_map]
      rfl

end Division

namespace Inbound

variable {s : Inbound} {run left more : List (List UInt8)} {runs : List (List (List UInt8))}
  {items : List (Except Failure Reply)} {item : Except Failure Reply} {tail : List UInt8}

/-! ## Reading along a division -/

/-- Items, and then the failure of the connection with which a stream ends. -/
def ended (items : List (Except Failure Reply)) (cause : SystemError) :
    List (Except Failure Reply) :=
  items ++ [.error (.connection .receivingReply cause)]

theorem readReply_of_isItem (h : Cut s.unread (run ++ more) tail)
    (hitem : IsItem (run.map lineText) item) :
    s.readReply.outcome = item ∧ Cut s.readReply.rest.unread more tail := by
  generalize htexts : run.map lineText = texts at hitem
  cases hitem with
  | reply hreply => exact readReply_of_isReply h (htexts ▸ hreply)
  | stray hnone =>
      obtain ⟨line, rfl, rfl⟩ := List.map_eq_singleton_iff.1 htexts
      exact readReply_invalid h hnone

theorem readReply_of_isOpen (h : Cut s.unread left tail) (hopen : IsOpen (left.map lineText)) :
    s.readReply.outcome = .error (receivingFailed (shortage s.source.ending)) := by
  cases left with
  | nil => exact readReply_empty h
  | cons line more =>
      obtain ⟨code, hhead, hmore⟩ := hopen _ _ rfl
      exact readReply_open h hhead (by simpa using hmore)

theorem readReplies_of_isItem (limit : Nat) (hitem : IsItem (run.map lineText) item)
    (hout : s.readReply.outcome = item) :
    readReplies (limit + 1) s = item :: readReplies limit s.readReply.rest := by
  rw [readReplies]
  split
  · rename_i activity cause hfailed
    exact absurd (hout.symm.trans hfailed) (hitem.ne_connection activity cause)
  · rw [hout]

theorem readReplies_of_isOpen (limit : Nat) (h : Cut s.unread left tail)
    (hopen : IsOpen (left.map lineText)) :
    readReplies (limit + 1) s = [.error (receivingFailed (shortage s.source.ending))] := by
  rw [readReplies, readReply_of_isOpen h hopen]
  rfl

/-- What is read are the items, and then the failure with which the stream ends. -/
theorem readReplies_of_division (h : Division s.unread runs items left tail) (limit : Nat) :
    readReplies limit s = (ended items (shortage s.source.ending)).take limit := by
  obtain ⟨hcut, hitems, hleft⟩ := h
  induction hitems generalizing s limit with
  | nil =>
      cases limit with
      | zero => rfl
      | succ limit =>
          rw [readReplies_of_isOpen limit hcut hleft]
          simp [ended, receivingFailed]
  | @cons run item runs items hitem hitems ih =>
      cases limit with
      | zero => rfl
      | succ limit =>
          rw [List.flatten_cons, List.append_assoc] at hcut
          obtain ⟨hout, hrest⟩ := readReply_of_isItem hcut hitem
          rw [readReplies_of_isItem limit hitem hout, ih limit hrest, readReply_ending]
          rfl

/-- The reader after `n` readings. -/
def after (s : Inbound) : Nat → Inbound
  | 0 => s
  | n + 1 => s.readReply.rest.after n

theorem after_succ (s : Inbound) (i : Nat) : s.after (i + 1) = (s.after i).readReply.rest := by
  induction i generalizing s with
  | zero => rfl
  | succ i ih => exact ih s.readReply.rest

theorem cut_after (h : Division s.unread runs items left tail) {i : Nat} (hi : i ≤ runs.length) :
    Cut (s.after i).unread ((runs.drop i).flatten ++ left) tail := by
  obtain ⟨hcut, hitems, -⟩ := h
  induction hitems generalizing s i with
  | nil =>
      obtain rfl : i = 0 := by simpa using hi
      exact hcut
  | @cons run item runs items hitem hitems ih =>
      cases i with
      | zero => exact hcut
      | succ i =>
          rw [List.flatten_cons, List.append_assoc] at hcut
          exact ih (Nat.le_of_succ_le_succ hi) (readReply_of_isItem hcut hitem).2

/-- The reader that comes to an item reads it, and consumes its run. -/
theorem reading_of_division (h : Division s.unread runs items left tail) {i : Nat}
    (hitem : items[i]? = some item) :
    ∃ run, IsItem (run.map lineText) item ∧ (s.after i).readReply.outcome = item ∧
      (s.after i).unread = joinLines run ++ (s.after (i + 1)).unread := by
  obtain ⟨run, hdrop, hrun⟩ := h.isItem hitem
  obtain ⟨hi, -⟩ := List.getElem?_eq_some_iff.1 hitem
  have hcut := cut_after h (i := i) (by have := h.length_eq; omega)
  rw [hdrop, List.flatten_cons, List.append_assoc] at hcut
  obtain ⟨hout, hrest⟩ := readReply_of_isItem hcut hrun
  refine ⟨run, hrun, hout, ?_⟩
  rw [after_succ, hcut.eq, hrest.eq, joinLines_append, List.append_assoc]

/-- Reading a stream to its end accounts for all its lines.  They fall into runs and the lines
that are left.  Each run is consumed as a whole, from the first on and one after another, and is
one item: a reply, or the one line that begins none.  Together the items have the text of the
runs.  The premature end comes next: the lines that are left are none or those of a reply that
no line ends, and the octets after the last line feed are no line. -/
theorem readReplies_accounts (s : Inbound) :
    let text (line : List UInt8) := Utf8.decode (line.filter (· != carriageReturn))
    ∃ (runs : List (List (List UInt8))) (items : List (Except Failure Reply))
      (left : List (List UInt8)) (tail : List UInt8),
      splitLines s.unread = (runs.flatten ++ left, tail) ∧
      (∀ limit, readReplies limit s = (ended items (shortage s.source.ending)).take limit) ∧
      List.Forall₂ (fun run item => run ≠ [] ∧ IsItem (run.map text) item) runs items ∧
      (∀ i item, items[i]? = some item → (s.after i).readReply.outcome = item) ∧
      (∀ i ≤ runs.length,
        (s.after i).unread = joinLines ((runs.drop i).flatten ++ left) ++ tail) ∧
      String.join (items.map itemText) =
        String.join (runs.flatten.map fun line => text line ++ "\r\n") ∧
      IsOpen (left.map text) := by
  intro text
  obtain ⟨runs, items, left, tail, h⟩ := exists_division s.unread
  refine ⟨runs, items, left, tail, h.cut.eq_splitLines, readReplies_of_division h, ?_, ?_, ?_,
    h.join_items, h.left⟩
  · refine h.items.imp fun run item hitem => ⟨?_, hitem⟩
    intro hnil
    exact hitem.ne_nil (by rw [hnil, List.map_nil])
  · intro i item hitem
    obtain ⟨run, -, hout, -⟩ := reading_of_division h hitem
    exact hout
  · intro i hi
    exact (cut_after h hi).eq

/-! ## How octets arrive -/

theorem readLineFrom_arrivals (ending : Ending) (held : List UInt8) (arrivals : List Arrival) :
    (readLineFrom ending held arrivals).rest.source.arrivals <:+ arrivals := by
  induction arrivals generalizing held with
  | nil => exact List.suffix_rfl
  | cons a rest ih =>
      cases a with
      | interrupted => exact (ih held).trans (List.suffix_cons _ _)
      | chunk bytes =>
          simp only [readLineFrom]
          cases cutLine? bytes with
          | none => exact (ih _).trans (List.suffix_cons _ _)
          | some p => exact List.suffix_cons _ _

theorem readLine_arrivals (s : Inbound) :
    s.readLine.rest.source.arrivals <:+ s.source.arrivals := by
  unfold readLine
  cases cutLine? s.buffer with
  | none => exact readLineFrom_arrivals _ _ _
  | some p => exact List.suffix_rfl

theorem readRest_arrivals (code : Nat) (s : Inbound) :
    (s.readRest code).rest.source.arrivals <:+ s.source.arrivals := by
  fun_induction readRest code s with
  | case1 s cause hline => exact s.readLine_arrivals
  | case2 s octets hline line hends => exact s.readLine_arrivals
  | case3 s octets hline line hends rest ih => exact ih.trans s.readLine_arrivals

theorem readReply_arrivals (s : Inbound) :
    s.readReply.rest.source.arrivals <:+ s.source.arrivals := by
  unfold readReply
  split
  · exact s.readLine_arrivals
  · dsimp only
    split
    · exact s.readLine_arrivals
    · exact s.readLine_arrivals
    · exact (readRest_arrivals _ _).trans s.readLine_arrivals

/-- A reading that takes arrivals off the front loses none of their octets: what it does not
consume is in the buffer. -/
theorem kept_of_suffix {rest : Inbound} {consumed : List UInt8}
    (hunread : s.unread = consumed ++ rest.unread)
    (hsuffix : rest.source.arrivals <:+ s.source.arrivals) :
    ∃ received, s.source.arrivals = received ++ rest.source.arrivals ∧
      s.buffer ++ received.flatMap Arrival.bytes = consumed ++ rest.buffer := by
  obtain ⟨received, hreceived⟩ := hsuffix
  refine ⟨received, hreceived.symm, ?_⟩
  simp only [unread, Source.bytes, ← hreceived, List.flatMap_append] at hunread
  rw [← List.append_assoc, ← List.append_assoc] at hunread
  exact List.append_cancel_right hunread

/-- Replies do not depend on how their octets arrive.  However these are split, and wherever a
read is interrupted, the items are those of the octets in one piece, and after each of them the
same octets are still to be read.  How the stream ends shows in the last item only.  What was
received beyond an item is kept for the next one. -/
theorem readReplies_arrivals (arrivals : List Arrival) :
    let whole := ofSource (Source.ofBytes (arrivals.flatMap Arrival.bytes))
    ∃ items : List (Except Failure Reply),
      (∀ item ∈ items, ∀ activity cause, item ≠ .error (.connection activity cause)) ∧
      (∀ limit, readReplies limit whole = (ended items .endOfReplies).take limit) ∧
      (∀ limit, readReplies limit (ofSource ⟨arrivals, .closed⟩) = readReplies limit whole) ∧
      (∀ ending cause, ending.failure? = some cause →
        ∀ limit, readReplies limit (ofSource ⟨arrivals, ending⟩) =
          (ended items cause).take limit) ∧
      ∀ ending, let s := ofSource ⟨arrivals, ending⟩
        (∀ i ≤ items.length, (s.after i).unread = (whole.after i).unread) ∧
        ∀ i item, items[i]? = some item → ∃ received run,
          (s.after i).source.arrivals = received ++ (s.after (i + 1)).source.arrivals ∧
          (s.after i).buffer ++ received.flatMap Arrival.bytes =
            joinLines run ++ (s.after (i + 1)).buffer ∧
          IsItem (run.map lineText) item := by
  intro whole
  obtain ⟨runs, items, left, tail, h⟩ := exists_division (arrivals.flatMap Arrival.bytes)
  have hwhole : Division whole.unread runs items left tail := by
    rw [unread_ofBytes]
    exact h
  have hsplit (ending : Ending) :
      Division (ofSource ⟨arrivals, ending⟩).unread runs items left tail := h
  refine ⟨items, ?_, readReplies_of_division hwhole, ?_, ?_, ?_⟩
  · intro item hmem
    obtain ⟨i, hi⟩ := List.mem_iff_getElem?.1 hmem
    obtain ⟨run, -, hitem⟩ := h.isItem hi
    exact hitem.ne_connection
  · intro limit
    rw [readReplies_of_division hwhole, readReplies_of_division (hsplit .closed)]
    rfl
  · intro ending cause hcause limit
    rw [readReplies_of_division (hsplit ending)]
    show (ended items (ending.failure?.getD .endOfReplies)).take limit = _
    rw [hcause]
    rfl
  · intro ending s
    refine ⟨?_, ?_⟩
    · intro i hi
      have hrun : i ≤ runs.length := h.length_eq ▸ hi
      rw [(cut_after (hsplit ending) hrun).eq, (cut_after hwhole hrun).eq]
    · intro i item hi
      obtain ⟨run, hitem, -, hunread⟩ := reading_of_division (hsplit ending) hi
      have hsuffix := (s.after i).readReply_arrivals
      rw [← after_succ] at hsuffix
      obtain ⟨received, harrivals, hkept⟩ := kept_of_suffix hunread hsuffix
      exact ⟨received, run, harrivals, hkept, hitem⟩

end Inbound
end FtpClient
