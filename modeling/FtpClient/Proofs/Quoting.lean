import FtpClient.Proofs.Probing
import Mathlib.Data.List.Basic

/-
What is shown of the lines of a server.

A line of a server is shown in its quoted form only, in the text of a failure and in the trace of
a reading.  The form is read back by `decodeFrom`, a machine that takes one character after
another: behind every written character it is where it was before, with that character read, so a
text is read back whole whatever stands in it.  And nothing that moves a terminal or breaks a line
is written as it is: an escape is made of printed ASCII characters.
-/

namespace FtpClient
namespace Quoted

/-! ## Reading a quoted form -/

/-- Where the reading of a quoted form is: between characters, behind a backslash, behind the
letter of a numbered character, or among its digits. -/
inductive State where
  | plain
  | escaped
  | opening
  | digits (n : Nat)

def hexDigit? (c : Char) : Option Nat :=
  if '0' ≤ c ∧ c ≤ '9' then some (c.toNat - 48)
  else if 'a' ≤ c ∧ c ≤ 'f' then some (c.toNat - 87)
  else none

/-- The character that is written as a backslash and this one. -/
def unescape? (c : Char) : Option Char :=
  if c = '0' then some '\x00'
  else if c = 't' then some '\t'
  else if c = 'r' then some '\r'
  else if c = 'n' then some '\n'
  else if c = '"' ∨ c = '\\' then some c
  else none

/-- The characters up to the double quote that ends the form.  Nothing may follow it. -/
def decodeFrom : State → List Char → Option (List Char)
  | .plain, c :: rest =>
      if c = '"' then if rest = [] then some [] else none
      else if c = '\\' then decodeFrom .escaped rest
      else (decodeFrom .plain rest).map (c :: ·)
  | .escaped, c :: rest =>
      if c = 'u' then decodeFrom .opening rest
      else (unescape? c).bind fun d => (decodeFrom .plain rest).map (d :: ·)
  | .opening, c :: rest => if c = '{' then decodeFrom (.digits 0) rest else none
  | .digits n, c :: rest =>
      if c = '}' then (decodeFrom .plain rest).map (Char.ofNat n :: ·)
      else (hexDigit? c).bind fun d => decodeFrom (.digits (16 * n + d)) rest
  | _, [] => none

theorem decodeFrom_digit (n : Nat) {d : Nat} (hd : d < 16) (rest : List Char) :
    decodeFrom (.digits n) (d.digitChar :: rest) = decodeFrom (.digits (16 * n + d)) rest := by
  have hread : ∀ d < 16, hexDigit? d.digitChar = some d ∧ d.digitChar ≠ '}' := by decide
  obtain ⟨hvalue, hclose⟩ := hread d hd
  rw [decodeFrom, if_neg hclose, hvalue]
  rfl

theorem decodeFrom_hex (n : Nat) (rest : List Char) :
    decodeFrom (.digits 0) (hex n ++ rest) = decodeFrom (.digits n) rest := by
  unfold hex
  -- The digits before the last one are those of a smaller number.
  induction n using Nat.strongRecOn generalizing rest with
  | ind n ih =>
      rw [Nat.toDigits_eq_if (by decide)]
      by_cases hsmall : n < 16
      · rw [if_pos hsmall, List.singleton_append, decodeFrom_digit 0 hsmall, Nat.mul_zero,
          Nat.zero_add]
      · have hfewer : n / 16 < n := by omega
        have hlast : n % 16 < 16 := by omega
        rw [if_neg hsmall, List.append_assoc, ih _ hfewer, List.singleton_append,
          decodeFrom_digit _ hlast, Nat.div_add_mod]

/-- Each written character is read back, whatever follows it. -/
theorem decodeFrom_escape (c : Char) (rest : List Char) :
    decodeFrom .plain (escape c ++ rest) = (decodeFrom .plain rest).map (c :: ·) := by
  unfold escape
  split_ifs with hnul htab hreturn hfeed hquote hbackslash hshown
  · rw [hnul]
    rfl
  · rw [htab]
    rfl
  · rw [hreturn]
    rfl
  · rw [hfeed]
    rfl
  · rw [hquote]
    rfl
  · rw [hbackslash]
    rfl
  · have hopened : decodeFrom .plain (['\\', 'u', '{'] ++ hex c.toNat ++ ['}'] ++ rest) =
        decodeFrom (.digits 0) (hex c.toNat ++ '}' :: rest) := by
      simp [decodeFrom]
    rw [hopened, decodeFrom_hex, decodeFrom, if_pos rfl, Char.ofNat_toNat]
  · rw [List.singleton_append, decodeFrom, if_neg hquote, if_neg hbackslash]

theorem decodeFrom_encode (cs : List Char) :
    decodeFrom .plain (encode cs ++ ['"']) = some cs := by
  induction cs with
  | nil => rfl
  | cons c cs ih =>
      have hfirst : encode (c :: cs) ++ ['"'] = escape c ++ (encode cs ++ ['"']) := by
        simp [encode]
      rw [hfirst, decodeFrom_escape, ih]
      rfl

end Quoted

/-- The text with this quoted form. -/
def unquote? : List Char → Option String
  | [] => none
  | c :: rest => if c = '"' then (Quoted.decodeFrom .plain rest).map String.ofList else none

theorem unquote?_quote (s : String) : unquote? (quote s).toList = some s := by
  unfold quote
  rw [String.toList_ofList, List.cons_append, unquote?, if_pos rfl, Quoted.decodeFrom_encode,
    Option.map_some, String.ofList_toList]

/-! ## What is safe to show -/

namespace Quoted

variable {c : Char}

/-- A control character. -/
def IsControl (c : Char) : Prop :=
  c.toNat < 0x20 ∨ 0x7F ≤ c.toNat ∧ c.toNat ≤ 0x9F

/-- A character that ends a line: one from line feed to carriage return, next line, or one of the
two separators. -/
def EndsLine (c : Char) : Prop :=
  0x0A ≤ c.toNat ∧ c.toNat ≤ 0x0D ∨ c.toNat = 0x85 ∨ c.toNat = 0x2028 ∨ c.toNat = 0x2029

/-- An ASCII character with a printed form. -/
def isPrinted (c : Char) : Bool :=
  0x20 ≤ c.toNat && c.toNat < 0x7F

theorem shown_of_isPrinted (h : isPrinted c) : ¬IsControl c ∧ ¬EndsLine c := by
  simp only [isPrinted, Bool.and_eq_true, decide_eq_true_eq] at h
  unfold IsControl EndsLine
  omega

/-- A single line without control characters. -/
def IsOneLine (text : String) : Prop :=
  ∀ c ∈ text.toList, ¬IsControl c ∧ ¬EndsLine c

theorem isOneLine_of_printed {text : String} (h : text.toList.all isPrinted) : IsOneLine text :=
  fun c hc => shown_of_isPrinted (List.all_eq_true.1 h c hc)

theorem IsOneLine.append {text more : String} (h : IsOneLine text) (h' : IsOneLine more) :
    IsOneLine (text ++ more) := by
  intro c hc
  rw [String.toList_append] at hc
  exact (List.mem_append.1 hc).elim (h c) (h' c)

theorem holds_of_range {r : Nat × Nat} (hmem : r ∈ Unprintable.basicRanges) (hlow : 0x7F ≤ r.1)
    (hhigh : r.2 < 0x10000) (hc : r.1 ≤ c.toNat ∧ c.toNat ≤ r.2) : Unprintable.holds c := by
  unfold Unprintable.holds
  dsimp only
  rw [if_neg (by omega), if_pos (by omega), List.any_eq_true]
  exact ⟨r, hmem, by simpa using hc⟩

/-- What moves a terminal or ends a line has no printed form. -/
theorem unprintable_of (h : IsControl c ∨ EndsLine c) : Unprintable.holds c := by
  unfold IsControl EndsLine at h
  by_cases hlow : c.toNat < 0x20
  · unfold Unprintable.holds
    dsimp only
    rw [if_pos (by omega)]
    exact decide_eq_true hlow
  · by_cases hmiddle : c.toNat ≤ 0xA0
    · have hmem : (0x7F, 0xA0) ∈ Unprintable.basicRanges := by decide +kernel
      exact holds_of_range hmem (by decide) (by decide) ⟨by omega, hmiddle⟩
    · have hmem : (0x2028, 0x202F) ∈ Unprintable.basicRanges := by decide +kernel
      exact holds_of_range hmem (by decide) (by decide) ⟨by omega, by omega⟩

theorem mem_hex {n : Nat} (h : c ∈ hex n) : ∃ d < 16, c = d.digitChar := by
  unfold hex at h
  induction n using Nat.strongRecOn with
  | ind n ih =>
      rw [Nat.toDigits_eq_if (by decide)] at h
      by_cases hsmall : n < 16
      · rw [if_pos hsmall] at h
        exact ⟨n, hsmall, List.mem_singleton.1 h⟩
      · rw [if_neg hsmall] at h
        rcases List.mem_append.1 h with h | h
        · exact ih _ (by omega) h
        · exact ⟨_, Nat.mod_lt n (by decide), List.mem_singleton.1 h⟩

/-- A written character is made of printed ASCII characters, or has a printed form itself. -/
theorem mem_escape {d : Char} (h : d ∈ escape c) :
    isPrinted d ∨ d = c ∧ Unprintable.holds c = false := by
  have hpair {e : Char} (he : isPrinted e) (h : d ∈ ['\\', e]) : isPrinted d := by
    rcases List.mem_pair.1 h with rfl | rfl
    · rfl
    · exact he
  have hdigit : ∀ n < 16, isPrinted n.digitChar := by decide
  unfold escape at h
  split_ifs at h with _ _ _ _ _ _ hshown
  · exact Or.inl (hpair rfl h)
  · exact Or.inl (hpair rfl h)
  · exact Or.inl (hpair rfl h)
  · exact Or.inl (hpair rfl h)
  · exact Or.inl (hpair rfl h)
  · exact Or.inl (hpair rfl h)
  · left
    rcases List.mem_append.1 h with h | h
    · rcases List.mem_append.1 h with h | h
      · rcases List.mem_cons.1 h with rfl | h
        · rfl
        · rcases List.mem_pair.1 h with rfl | rfl <;> rfl
      · obtain ⟨n, hn, rfl⟩ := mem_hex h
        exact hdigit n hn
    · obtain rfl := List.mem_singleton.1 h
      rfl
  · -- Only here a character stands for itself, and the tables allow it.
    rw [Bool.or_eq_true, not_or] at hshown
    exact Or.inr ⟨List.mem_singleton.1 h, Bool.eq_false_iff.2 hshown.2⟩

theorem escape_shown {d : Char} (h : d ∈ escape c) : ¬IsControl d ∧ ¬EndsLine d := by
  rcases mem_escape h with hprinted | ⟨rfl, hholds⟩
  · exact shown_of_isPrinted hprinted
  · rw [← not_or]
    intro hbad
    rw [unprintable_of hbad] at hholds
    cases hholds

theorem isOneLine_quote (s : String) : IsOneLine (quote s) := by
  have hmark : ¬IsControl '"' ∧ ¬EndsLine '"' := shown_of_isPrinted rfl
  intro c hc
  rw [quote, String.toList_ofList, List.cons_append] at hc
  rcases List.mem_cons.1 hc with rfl | hc
  · exact hmark
  · rcases List.mem_append.1 hc with hc | hc
    · obtain ⟨b, -, hb⟩ := List.mem_flatMap.1 hc
      exact escape_shown hb
    · obtain rfl := List.mem_singleton.1 hc
      exact hmark

end Quoted

/-- The text whose quoted form stands behind `lead`. -/
def shownBehind? (lead text : String) : Option String :=
  if lead.toList <+: text.toList then unquote? (text.toList.drop lead.toList.length) else none

theorem shownBehind?_quote (lead s : String) : shownBehind? lead (lead ++ quote s) = some s := by
  unfold shownBehind?
  rw [String.toList_append, if_pos (List.prefix_append _ _), List.drop_left]
  exact unquote?_quote s

theorem getElem?_lead {lead : String} {i : Nat} (hi : i < lead.toList.length) (more : String) :
    (lead ++ more).toList[i]? = lead.toList[i]? := by
  rw [String.toList_append, List.getElem?_append_left hi]

theorem shownBehind?_of_ne {lead text : String} {i : Nat} (hi : i < lead.toList.length)
    (h : lead.toList[i]? ≠ text.toList[i]?) : shownBehind? lead text = none := by
  unfold shownBehind?
  refine if_neg fun hprefix => h ?_
  obtain ⟨rest, hrest⟩ := hprefix
  rw [← hrest, List.getElem?_append_left hi]

/-! ## Failures -/

namespace Failure

/-- What stands before the line in the text of a failure. -/
def lead (v : Violation) : String :=
  "Protocol error: " ++ v.message ++ ": "

theorem isOneLine_lead (v : Violation) : Quoted.IsOneLine (lead v) := by
  have hbegin : Quoted.IsOneLine "Protocol error: " := Quoted.isOneLine_of_printed (by decide)
  have hend : Quoted.IsOneLine ": " := Quoted.isOneLine_of_printed (by decide)
  have hreason : Quoted.IsOneLine v.message := by
    cases v <;> exact Quoted.isOneLine_of_printed (by decide)
  exact (hbegin.append hreason).append hend

/-- What a text says of a broken protocol: how, and by which line. -/
def readProtocol? (text : String) : Option (Violation × String) :=
  [Violation.invalidReply, .invalidDataPort].findSome? fun v =>
    (shownBehind? (lead v) text).map (v, ·)

/-- The texts of other failures begin otherwise. -/
theorem readProtocol?_of_first {text : String} (h : text.toList[0]? ≠ some 'P') :
    readProtocol? text = none := by
  have hnone (v : Violation) : shownBehind? (lead v) text = none := by
    have hfirst : (lead v).toList[0]? = some 'P' := by cases v <;> rfl
    refine shownBehind?_of_ne (i := 0) (by cases v <;> decide) ?_
    rw [hfirst]
    exact h.symm
  simp [readProtocol?, hnone]

theorem readProtocol?_message (v : Violation) (line : String) :
    readProtocol? (protocol v line).message = some (v, line) := by
  have hown : shownBehind? (lead v) (protocol v line).message = some line :=
    shownBehind?_quote (lead v) line
  cases v with
  | invalidReply => simp [readProtocol?, hown]
  | invalidDataPort =>
      have hother : shownBehind? (lead .invalidReply) (protocol .invalidDataPort line).message =
          none := by
        -- The two reasons differ in the first letter behind the colon.
        refine shownBehind?_of_ne (i := 16) (by decide) ?_
        show _ ≠ (lead .invalidDataPort ++ quote line).toList[16]?
        rw [getElem?_lead (by decide)]
        decide
      simp [readProtocol?, hown, hother]

/-- The text of a failure tells whether the server broke the protocol, how, and by which line. -/
theorem readProtocol?_eq_some {e : Failure} {v : Violation} {line : String} :
    readProtocol? e.message = some (v, line) ↔ e = .protocol v line := by
  constructor
  · intro h
    cases e with
    | connection activity cause =>
        have hfirst : (connection activity cause).message.toList[0]? ≠ some 'P' := by
          show ("Connection error: " ++ activity.message ++ ": " ++ cause.message).toList[0]? ≠ _
          rw [String.append_assoc, String.append_assoc, getElem?_lead (by decide)]
          decide
        rw [readProtocol?_of_first hfirst] at h
        cases h
    | protocol v' line' =>
        rw [readProtocol?_message] at h
        obtain ⟨rfl, rfl⟩ := Prod.mk.inj (Option.some.inj h)
        rfl
    | file path cause =>
        have hfirst : (file path cause).message.toList[0]? ≠ some 'P' := by
          show ("File error: " ++ path ++ ": " ++ cause.message).toList[0]? ≠ _
          rw [String.append_assoc, String.append_assoc, getElem?_lead (by decide)]
          decide
        rw [readProtocol?_of_first hfirst] at h
        cases h
  · rintro rfl
    exact readProtocol?_message v line

end Failure

/-! ## Traces -/

/-- The record of a line that was read. -/
def lineRecord (line : String) : String :=
  "CC IN: " ++ quote line

theorem isOneLine_lineRecord (line : String) : Quoted.IsOneLine (lineRecord line) := by
  have hlead : Quoted.IsOneLine "CC IN: " := Quoted.isOneLine_of_printed (by decide)
  exact hlead.append (Quoted.isOneLine_quote line)

theorem shownBehind?_lineRecord (line : String) :
    shownBehind? "CC IN: " (lineRecord line) = some line := by
  rw [lineRecord, shownBehind?_quote]

/-- The records of lines in a journal. -/
def lineRecords (journal : List Entry) : List String :=
  journal.filterMap fun
    | .log .trace .reply text => some text
    | _ => none

theorem lineRecords_append (entries entries' : List Entry) :
    lineRecords (entries ++ entries') = lineRecords entries ++ lineRecords entries' :=
  List.filterMap_append

theorem lineRecords_lines (lines : List String) :
    lineRecords (lines.map fun line => .log .trace .reply (lineRecord line)) =
      lines.map lineRecord := by
  induction lines with
  | nil => rfl
  | cons line lines ih => exact congrArg (lineRecord line :: ·) ih

namespace Inbound

theorem lineTexts_cons {octets : List UInt8} (h : lineFeed ∉ octets) (bytes : List UInt8) :
    lineTexts (octets ++ lineFeed :: bytes) = lineText octets :: lineTexts bytes := by
  have hcut := cut_joinLines_append (List.forall_mem_singleton.2 h) bytes
  have hbytes : joinLines [octets] ++ bytes = octets ++ lineFeed :: bytes := by simp
  rw [hbytes] at hcut
  unfold lineTexts
  rw [hcut.eq_splitLines]
  rfl

theorem lineTexts_of_notMem {bytes : List UInt8} (h : lineFeed ∉ bytes) : lineTexts bytes = [] := by
  have hcut : Cut bytes [] bytes := ⟨rfl, by simp, h⟩
  unfold lineTexts
  rw [hcut.eq_splitLines]
  rfl

/-- A reading that took octets, which held these lines. -/
def Took (s : Inbound) (lines : List String) (rest : Inbound) : Prop :=
  ∃ taken, s.unread = taken ++ rest.unread ∧ lineTexts taken = lines

variable {s rest : Inbound} {lines : List String}

theorem took_nothing {cause : SystemError} (h : s.readLine.outcome = .error cause) :
    s.Took [] s.readLine.rest := by
  refine ⟨s.unread, ?_, lineTexts_of_notMem (readLine_error h).1⟩
  rw [readLine_failed h, List.append_nil]

theorem took_line {octets : List UInt8} (h : s.readLine.outcome = .ok octets)
    (hrest : s.readLine.rest.Took lines rest) : s.Took (lineText octets :: lines) rest := by
  obtain ⟨taken, htaken, hlines⟩ := hrest
  refine ⟨octets ++ lineFeed :: taken, ?_, ?_⟩
  · rw [readLine_ok h, htaken, List.append_assoc]
    rfl
  · rw [lineTexts_cons (readLine_lineFeed h), hlines]

theorem took_refl (s : Inbound) : s.Took [] s :=
  ⟨[], rfl, rfl⟩

theorem readRest_took (code : Nat) (s : Inbound) :
    s.Took (s.readRest code).lines (s.readRest code).rest := by
  fun_induction readRest code s with
  | case1 s cause hline => exact took_nothing hline
  | case2 s octets hline line hends => exact took_line hline (took_refl _)
  | case3 s octets hline line hends rest ih => exact took_line hline ih

/-- What a reading reports are the lines that it took, whatever became of it. -/
theorem readReply_took (s : Inbound) : s.Took s.readReply.lines s.readReply.rest := by
  unfold readReply
  split
  · rename_i cause hline
    exact took_nothing hline
  · rename_i octets hline
    dsimp only
    split
    · exact took_line hline (took_refl _)
    · exact took_line hline (took_refl _)
    · exact took_line hline (readRest_took _ _)

end Inbound

namespace Session

variable {ν : Type} [Network ν]

/-- The octets that were taken from the control connection on the way to another session. -/
def takenBy (s t : Session ν) : List UInt8 :=
  match s.control, t.control with
  | some before, some after =>
      before.inbound.unread.take (before.inbound.unread.length - after.inbound.unread.length)
  | _, _ => []

/-- The lines that an act reads. -/
def linesOf (s : Session ν) : ControlAct ν → List String
  | .receive => Inbound.lineTexts (s.takenBy s.receive.session)
  | _ => []

/-- The lines that acts read, in order. -/
def linesRead (s : Session ν) : List (ControlAct ν) → List String
  | [] => []
  | a :: rest => s.linesOf a ++ linesRead (s.act a).2 rest

/-- The records of lines that a session has written. -/
def traced (s : Session ν) : List String :=
  lineRecords s.journal

omit [Network ν] in
theorem record_traced (entries : List Entry) (s : Session ν) :
    (s.record entries).traced = s.traced ++ lineRecords entries := by
  rw [traced, journal_record, lineRecords_append]
  rfl

omit [Network ν] in
theorem log_traced (level : Level) {component : Component} (h : component ≠ .reply)
    (text : String) (s : Session ν) : (s.log level component text).traced = s.traced := by
  have hnone : lineRecords [.log level component text] = [] := by
    cases component with
    | reply => exact absurd rfl h
    | _ => cases level <;> rfl
  rw [log_eq_record, record_traced, hnone, List.append_nil]

omit [Network ν] in
theorem wire_traced (event : WireEvent) (s : Session ν) :
    (s.wire event).traced = s.traced := by
  rw [wire_eq_record, record_traced]
  exact List.append_nil _

theorem closeControl_traced (s : Session ν) :
    s.closeControl.traced = s.traced := by
  unfold closeControl
  cases s.control with
  | none => rfl
  | some c =>
      dsimp only
      rw [wire_traced]
      exact log_traced .trace (by decide) _ s

theorem resetControl_traced (s : Session ν) :
    s.resetControl.traced = s.traced := by
  unfold resetControl
  cases s.control with
  | none => rfl
  | some c =>
      dsimp only
      rw [closeControl_traced, log_traced .debug (by decide)]

theorem dial_traced (target : Endpoint) (s : Session ν) :
    (s.dial target).2.traced = s.traced := by
  unfold dial
  dsimp only
  cases (Network.connect target s.network).1.underLimits s.options with
  | ok first => exact wire_traced _ _
  | error cause =>
      dsimp only
      by_cases hestablished : (Network.connect target s.network).1.isEstablished
      · rw [if_pos hestablished, wire_traced, wire_traced]
        rfl
      · rw [if_neg hestablished]
        rfl

theorem dialAny_traced (port : UInt16) (cause : SystemError) (addresses : List String)
    (s : Session ν) : (dialAny port cause addresses s).session.traced = s.traced := by
  induction addresses generalizing s cause with
  | nil => rfl
  | cons address rest ih =>
      have hdial := dial_traced ⟨address, port⟩
        (s.log .trace .control ("Trying " ++ Endpoint.toString ⟨address, port⟩))
      rw [log_traced .trace (by decide)] at hdial
      unfold dialAny
      dsimp only
      generalize dial ⟨address, port⟩ (s.log _ _ _) = dialled at hdial
      obtain ⟨value, t⟩ := dialled
      cases value with
      | ok _ => exact hdial
      | error cause' =>
          dsimp only
          rw [ih, log_traced .debug (by decide)]
          exact hdial

theorem openControl_traced (host : String) (port : UInt16) (s : Session ν) :
    (s.openControl host port).session.traced = s.traced := by
  unfold openControl
  dsimp only
  generalize hready : s.closeControl.log .debug .control
    ("Connecting to " ++ host ++ ":" ++ PortNumber.toString port) = t
  have ht : t.traced = s.traced := by
    rw [← hready, log_traced .debug (by decide), closeControl_traced]
  cases Network.resolve t.network host with
  | error cause => exact ht
  | ok addresses =>
      have hdialled := dialAny_traced port .noAddress addresses t
      dsimp only
      generalize dialAny port .noAddress addresses t = o at hdialled
      obtain ⟨value, u⟩ := o
      cases value with
      | error e => exact hdialled.trans ht
      | ok _ =>
          rw [Outcome.andThen_ok, log_traced .debug (by decide)]
          exact hdialled.trans ht

theorem write_traced (bytes : List UInt8) (s : Session ν) :
    (s.write bytes).2.traced = s.traced := by
  unfold write
  cases s.untold? <;> rfl

theorem send_traced (line : String) (s : Session ν) :
    (s.send line).session.traced = s.traced := by
  have hwritten := s.write_traced (Utf8.encode (line ++ lineEnd))
  unfold send
  cases s.control with
  | none => rfl
  | some c =>
      dsimp only
      generalize s.write (Utf8.encode (line ++ lineEnd)) = written at hwritten
      obtain ⟨result, t⟩ := written
      cases result with
      | whole => exact (wire_traced _ t).trans hwritten
      | part count cause => exact (wire_traced _ t).trans hwritten

omit [Network ν] in
theorem probe_traced (s : Session ν) : s.probe.session.traced = s.traced := by
  refine s.probe_same.session (p := fun t => t.traced = s.traced) ?_ ?_
  · intro isThere t ht
    rcases ht with rfl | ⟨-, -, rfl | rfl⟩
    · rfl
    · exact log_traced .debug (by decide) _ s
    · rfl
  · intro e t ht
    rw [ht.1]
    rfl

omit [Network ν] in
theorem takenBy_eq {s t : Session ν} {c d : ControlLink} {taken : List UInt8}
    (hs : s.control = some c) (ht : t.control = some d)
    (h : c.inbound.unread = taken ++ d.inbound.unread) : s.takenBy t = taken := by
  unfold takenBy
  rw [hs, ht]
  dsimp only
  rw [h, List.length_append, Nat.add_sub_cancel, List.take_left]

omit [Network ν] in
theorem receive_of_control {s : Session ν} {c : ControlLink} (hc : s.control = some c) :
    s.receive.session.control = some { c with inbound := c.inbound.readReply.left } ∧
      s.receive.session.traced = s.traced ++ c.inbound.readReply.lines.map lineRecord := by
  unfold receive
  rw [hc]
  dsimp only
  generalize hread : record _ _ = t
  have ht : t.control = some { c with inbound := c.inbound.readReply.left } ∧
      t.traced = s.traced ++ c.inbound.readReply.lines.map lineRecord := by
    rw [← hread, record_traced, ← lineRecords_lines]
    exact ⟨rfl, rfl⟩
  cases c.inbound.readReply.outcome with
  | error e => exact ht
  | ok reply => exact ⟨ht.1, (wire_traced _ t).trans ht.2⟩

omit [Network ν] in
/-- A reading writes one record for each line that it took, in order. -/
theorem receive_traced (s : Session ν) :
    s.receive.session.traced = s.traced ++ (s.linesOf .receive).map lineRecord := by
  show _ = s.traced ++ (Inbound.lineTexts (s.takenBy s.receive.session)).map lineRecord
  cases hc : s.control with
  | none =>
      have hnothing : s.receive.session = s := by
        unfold receive
        rw [hc]
      rw [hnothing, takenBy, hc]
      exact (List.append_nil _).symm
  | some c =>
      obtain ⟨hcontrol, htraced⟩ := receive_of_control hc
      obtain ⟨taken, htaken, hlines⟩ := c.inbound.readReply_took
      rw [← Reading.left_unread] at htaken
      rw [htraced, ← hlines, takenBy_eq hc hcontrol htaken]

theorem act_traced (s : Session ν) (a : ControlAct ν) :
    (s.act a).2.traced = s.traced ++ (s.linesOf a).map lineRecord := by
  have hnothing {t : Session ν} (h : t.traced = s.traced) :
      t.traced = s.traced ++ [].map lineRecord := by
    rw [h, List.map_nil, List.append_nil]
  cases a with
  | connect host port => exact hnothing (openControl_traced host port s)
  | send line => exact hnothing (send_traced line s)
  | receive => exact receive_traced s
  | peerAddress => exact hnothing rfl
  | close => exact hnothing (closeControl_traced s)
  | reset => exact hnothing (resetControl_traced s)
  | probe => exact hnothing (probe_traced s)
  | elapse delivery network => exact hnothing rfl

theorem acts_traced (s : Session ν) (as : List (ControlAct ν)) :
    (s.acts as).traced = s.traced ++ (s.linesRead as).map lineRecord := by
  induction as generalizing s with
  | nil => simp [acts, linesRead]
  | cons a rest ih =>
      rw [acts_cons, ih, act_traced, linesRead, List.map_append, List.append_assoc]

/-- Lines that a server sent, wherever they are shown.  The text of a failure is a single line
without control characters if the server broke the protocol, and it tells how it did and by which
line; no other failure has that text.  Readings write one record for each line that they take,
in order, each of them a single line without control characters that tells the exact line. -/
theorem lines_shown :
    (∀ v line, Quoted.IsOneLine (Failure.protocol v line).message) ∧
    (∀ (e : Failure) v line,
      Failure.readProtocol? e.message = some (v, line) ↔ e = .protocol v line) ∧
    (∀ v w line line', (Failure.protocol v line).message = (Failure.protocol w line').message →
      v = w ∧ line = line') ∧
    ∀ (s : Session ν) (as : List (ControlAct ν)), ∃ records,
      (s.acts as).traced = s.traced ++ records ∧ (∀ text ∈ records, Quoted.IsOneLine text) ∧
        records.map (shownBehind? "CC IN: ") = (s.linesRead as).map some := by
  refine ⟨?_, fun _ _ _ => Failure.readProtocol?_eq_some, ?_, ?_⟩
  · intro v line
    exact (Failure.isOneLine_lead v).append (Quoted.isOneLine_quote line)
  · intro v w line line' h
    have hread := Failure.readProtocol?_message v line
    rw [h, Failure.readProtocol?_message] at hread
    obtain ⟨rfl, rfl⟩ := Prod.mk.inj (Option.some.inj hread)
    exact ⟨rfl, rfl⟩
  · intro s as
    refine ⟨(s.linesRead as).map lineRecord, acts_traced s as, ?_, ?_⟩
    · intro text htext
      obtain ⟨line, -, rfl⟩ := List.mem_map.1 htext
      exact isOneLine_lineRecord line
    · have hread : shownBehind? "CC IN: " ∘ lineRecord = some := by
        funext line
        rw [Function.comp_apply, shownBehind?_lineRecord]
      rw [List.map_map, hread]

example : (Failure.protocol .invalidReply "5\\0\x1b\"").message =
    "Protocol error: invalid server reply: \"5\\\\0\\u\x7b1b\x7d\\\"\"" := by
  decide +kernel

end Session

end FtpClient
