import FtpClient.Proofs.Commands
import FtpClient.Proofs.Streams

/-
The texts of replies.

A line that was read holds no carriage return and no line feed, so encoding it and reading it
again gives the same line.  The text of a reply is therefore read as that reply, also where
texts of other replies follow it, and whether its last line has a carriage return or not.
-/

namespace FtpClient

/-! ## Lines that are read again -/

/-- A line as reading leaves it. -/
def IsPlain (line : String) : Prop :=
  '\r' ∉ line.toList ∧ '\n' ∉ line.toList

theorem isPlain_lineText {octets : List UInt8} (h : lineFeed ∉ octets) :
    IsPlain (lineText octets) := by
  constructor
  · intro hmem
    have hoctet : carriageReturn ∈ octets.filter (· != carriageReturn) :=
      Utf8.mem_decode (c := '\r') (by decide) (by decide) hmem
    simp at hoctet
  · intro hmem
    have hoctet : lineFeed ∈ octets.filter (· != carriageReturn) :=
      Utf8.mem_decode (c := '\n') (by decide) (by decide) hmem
    exact h (List.mem_of_mem_filter hoctet)

theorem lineText_encode {line : String} (h : IsPlain line) : lineText (Utf8.encode line) = line := by
  have hall : ∀ b ∈ Utf8.encode line, (b != carriageReturn) = true := by
    intro b hb
    rw [bne_iff_ne]
    intro hcr
    exact h.1 (Utf8.carriageReturn_mem_encode.1 (hcr ▸ hb))
  rw [lineText, List.filter_eq_self.2 hall, Utf8.decode_encode]

theorem lineText_append_carriageReturn (octets : List UInt8) :
    lineText (octets ++ [carriageReturn]) = lineText octets := by
  simp [lineText]

/-- A line with its carriage return. -/
def wireLine (line : String) : List UInt8 :=
  Utf8.encode line ++ [carriageReturn]

theorem lineText_wireLine {line : String} (h : IsPlain line) : lineText (wireLine line) = line := by
  rw [wireLine, lineText_append_carriageReturn, lineText_encode h]

theorem lineFeed_notMem_encode {line : String} (h : IsPlain line) :
    lineFeed ∉ Utf8.encode line :=
  mt Utf8.lineFeed_mem_encode.1 h.2

theorem lineFeed_notMem_wireLine {line : String} (h : IsPlain line) :
    lineFeed ∉ wireLine line := by
  intro hmem
  rcases List.mem_append.1 hmem with hmem | hmem
  · exact lineFeed_notMem_encode h hmem
  · exact absurd (List.mem_singleton.1 hmem) (by decide)

theorem map_lineText_wireLine {lines : List String} (h : ∀ line ∈ lines, IsPlain line) :
    (lines.map wireLine).map lineText = lines := by
  have hsame : ∀ line ∈ lines, (lineText ∘ wireLine) line = id line :=
    fun line hline => lineText_wireLine (h line hline)
  rw [List.map_map, List.map_congr_left hsame, List.map_id]

theorem lineFeed_notMem_wireLines {lines : List String} (h : ∀ line ∈ lines, IsPlain line) :
    ∀ octets ∈ lines.map wireLine, lineFeed ∉ octets := by
  intro octets hoctets
  obtain ⟨line, hline, rfl⟩ := List.mem_map.1 hoctets
  exact lineFeed_notMem_wireLine (h line hline)

theorem encode_join (lines : List String) :
    Utf8.encode (String.join (lines.map (· ++ lineEnd))) = joinLines (lines.map wireLine) := by
  induction lines with
  | nil => rfl
  | cons line lines ih =>
      rw [List.map_cons, String.join_cons, Utf8.encode_append, ih, Utf8.encode_append,
        List.map_cons, joinLines_cons, wireLine, List.append_assoc, List.append_assoc]
      rfl

/-! ## Replies that were read -/

/-- A reply as reading leaves it. -/
structure Reply.IsRead (reply : Reply) : Prop where
  isReply : IsReply reply.lines reply
  plain : ∀ line ∈ reply.lines, IsPlain line

theorem Inbound.isRead_of_readReply {s : Inbound} {reply : Reply}
    (h : s.readReply.outcome = .ok reply) : reply.IsRead := by
  have hcut := cut_splitLines s.unread
  obtain ⟨taken, left, heq, hreply, -⟩ := isReply_of_readReply hcut h
  rw [heq] at hcut
  have hlines := hreply.lines_eq
  refine ⟨hlines.symm ▸ hreply, ?_⟩
  intro line hmem
  rw [hlines] at hmem
  obtain ⟨octets, hoctets, rfl⟩ := List.mem_map.1 hmem
  exact isPlain_lineText (hcut.lineFeed_lines octets (List.mem_append_left _ hoctets))

theorem Reply.parse_of_lines {text : String} {lines : List (List UInt8)} {reply : Reply}
    (htext : Utf8.encode text = joinLines lines) (hlines : ∀ line ∈ lines, lineFeed ∉ line)
    (hreply : IsReply (lines.map lineText) reply) : Reply.parse text = .ok reply := by
  have hcut : Cut (Inbound.ofSource (Source.ofBytes (Utf8.encode text))).unread (lines ++ []) [] := by
    rw [Inbound.unread_ofBytes, htext, List.append_nil]
    exact ⟨(List.append_nil _).symm, hlines, List.not_mem_nil⟩
  exact (Inbound.readReply_of_isReply hcut hreply).1

theorem Blank.dropEnd_append {p : Char → Bool} {cs ds : List Char} (hds : ∀ d ∈ ds, p d = true)
    (hcs : ∀ c, cs.getLast? = some c → p c = false) : dropEnd p (cs ++ ds) = cs := by
  have hall : ∀ d ∈ ds.reverse, p d = true := fun d hd => hds d (List.mem_reverse.1 hd)
  rw [dropEnd, List.reverse_append, List.dropWhile_append_of_pos hall]
  rw [List.getLast?_eq_head?_reverse] at hcs
  cases hrev : cs.reverse with
  | nil => simpa using hrev.symm
  | cons c rest =>
      have hc : p c = false := hcs c (by rw [hrev, List.head?_cons])
      rw [List.dropWhile_cons_of_neg (by simp [hc]), ← hrev, List.reverse_reverse]

namespace Reply.IsRead

variable {reply : Reply}

/-- The last line ends the reply, so it is not empty. -/
theorem exists_last (h : reply.IsRead) :
    ∃ init last, reply.lines = init ++ [last] ∧ last.toList ≠ [] := by
  have hne {line : String} (hbegins : Begins reply.code ' ' line) : line.toList ≠ [] := by
    obtain ⟨-, -, a, b, c, rest, hline, -⟩ := hbegins
    simp [hline]
  have hreply := h.isReply
  generalize reply.lines = lines at hreply
  cases hreply with
  | single hbegins => exact ⟨[], _, rfl, hne hbegins⟩
  | multi _ _ hlast => exact ⟨_, _, rfl, hne hlast⟩

theorem text_eq {init : List String} {last : String} (h : reply.lines = init ++ [last]) :
    reply.text = String.join (init.map (· ++ lineEnd)) ++ last ++ lineEnd := by
  rw [Reply.text, h, List.map_append, String.join_append, String.append_assoc]
  simp

/-- The line end at the end is all that is trimmed. -/
theorem display_eq (h : reply.IsRead) {init : List String} {last : String}
    (hlines : reply.lines = init ++ [last]) (hlast : last.toList ≠ []) :
    reply.display = String.join (init.map (· ++ lineEnd)) ++ last ∧
      ∃ c, reply.display.toList.getLast? = some c ∧ c ≠ '\r' ∧ c ≠ '\n' := by
  obtain ⟨c, hc⟩ := Option.isSome_iff_exists.1 (List.getLast?_isSome.2 hlast)
  have hplain : IsPlain last := h.plain last (by simp [hlines])
  have hmem : c ∈ last.toList := List.mem_of_getLast? hc
  have hcr : c ≠ '\r' := fun heq => hplain.1 (heq ▸ hmem)
  have hlf : c ≠ '\n' := fun heq => hplain.2 (heq ▸ hmem)
  have hend : (String.join (init.map (· ++ lineEnd)) ++ last).toList.getLast? = some c := by
    rw [String.toList_append, List.getLast?_append, hc]
    rfl
  have hlineEnd : ∀ d ∈ lineEnd.toList, Blank.isLineEnd d = true := by
    simp [lineEnd, Blank.isLineEnd]
  have hdisplay : reply.display = String.join (init.map (· ++ lineEnd)) ++ last := by
    rw [Reply.display, Blank.trimLineEnd, text_eq hlines, String.toList_append,
      Blank.dropEnd_append hlineEnd ?_, String.ofList_toList]
    intro d hd
    rw [hend] at hd
    obtain rfl := Option.some.inj hd
    simp [Blank.isLineEnd, hcr, hlf]
  exact ⟨hdisplay, c, hdisplay ▸ hend, hcr, hlf⟩

theorem parse_text (h : reply.IsRead) : Reply.parse reply.text = .ok reply := by
  refine parse_of_lines (encode_join reply.lines) (lineFeed_notMem_wireLines h.plain) ?_
  rw [map_lineText_wireLine h.plain]
  exact h.isReply

/-- The last line need not have its carriage return. -/
theorem parse_display (h : reply.IsRead) : Reply.parse (reply.display ++ "\n") = .ok reply := by
  obtain ⟨init, last, hlines, hlast⟩ := h.exists_last
  have hinit : ∀ line ∈ init, IsPlain line := fun line hline => h.plain line (by simp [hlines, hline])
  have hplain : IsPlain last := h.plain last (by simp [hlines])
  have hencode : Utf8.encode (reply.display ++ "\n") =
      joinLines (init.map wireLine ++ [Utf8.encode last]) := by
    rw [(h.display_eq hlines hlast).1, Utf8.encode_append, Utf8.encode_append, encode_join,
      joinLines_append, joinLines_cons, List.append_assoc]
    rfl
  refine parse_of_lines hencode ?_ ?_
  · intro octets hoctets
    rcases List.mem_append.1 hoctets with hoctets | hoctets
    · exact lineFeed_notMem_wireLines hinit octets hoctets
    · rw [List.mem_singleton.1 hoctets]
      exact lineFeed_notMem_encode hplain
  · rw [List.map_append, map_lineText_wireLine hinit, List.map_singleton, lineText_encode hplain,
      ← hlines]
    exact h.isReply

end Reply.IsRead

/-! ## Texts one after another -/

theorem division_texts {replies : List Reply} (h : ∀ reply ∈ replies, reply.IsRead) :
    Division (Utf8.encode (String.join (replies.map Reply.text)))
      (replies.map fun reply => reply.lines.map wireLine) (replies.map .ok) [] [] := by
  induction replies with
  | nil => exact ⟨⟨rfl, by simp, by simp⟩, .nil, by simp [IsOpen]⟩
  | cons reply replies ih =>
      obtain ⟨hcut, hitems, hleft⟩ := ih fun r hr => h r (List.mem_cons_of_mem _ hr)
      have hread := h reply List.mem_cons_self
      refine ⟨⟨?_, ?_, List.not_mem_nil⟩, .cons ?_ hitems, hleft⟩
      · rw [List.map_cons, String.join_cons, Utf8.encode_append, hcut.eq, Reply.text, encode_join]
        simp
      · intro octets hoctets
        rw [List.map_cons, List.flatten_cons, List.append_assoc] at hoctets
        rcases List.mem_append.1 hoctets with hoctets | hoctets
        · exact lineFeed_notMem_wireLines hread.plain octets hoctets
        · exact hcut.lineFeed_lines octets hoctets
      · rw [map_lineText_wireLine hread.plain]
        exact .reply hread.isReply

namespace Inbound

/-- The texts of replies that were read, one after another, are read as these replies, and no
octet is left over.  The text of one of them, and also its display with a bare line feed, is
parsed to it.  The display is the text without the line end at its end. -/
theorem readReplies_texts (replies : List Reply)
    (h : ∀ reply ∈ replies, ∃ s : Inbound, s.readReply.outcome = .ok reply) :
    let s := ofSource (Source.ofBytes (Utf8.encode (String.join (replies.map Reply.text))))
    (∀ limit, readReplies limit s = (ended (replies.map .ok) .endOfReplies).take limit) ∧
    (s.after replies.length).unread = [] ∧
    ∀ reply ∈ replies,
      Reply.parse reply.text = .ok reply ∧
      reply.display ++ "\r\n" = reply.text ∧
      (∃ c, reply.display.toList.getLast? = some c ∧ c ≠ '\r' ∧ c ≠ '\n') ∧
      Reply.parse (reply.display ++ "\n") = .ok reply := by
  intro s
  have hread : ∀ reply ∈ replies, reply.IsRead := by
    intro reply hreply
    obtain ⟨t, ht⟩ := h reply hreply
    exact isRead_of_readReply ht
  have hdivision : Division s.unread (replies.map fun reply => reply.lines.map wireLine)
      (replies.map .ok) [] [] := by
    rw [unread_ofBytes]
    exact division_texts hread
  refine ⟨readReplies_of_division hdivision, ?_, ?_⟩
  · have hcut := cut_after hdivision (i := replies.length) (by simp)
    rw [hcut.eq, List.drop_eq_nil_of_le (by simp)]
    rfl
  · intro reply hreply
    have hr := hread reply hreply
    obtain ⟨init, last, hlines, hlast⟩ := hr.exists_last
    obtain ⟨hdisplay, hend⟩ := hr.display_eq hlines hlast
    refine ⟨hr.parse_text, ?_, hend, hr.parse_display⟩
    rw [hdisplay, Reply.IsRead.text_eq hlines]
    rfl

/-- Lines that nearly end a reply of several lines, stray carriage returns, and an octet that is
no UTF-8. -/
theorem readReplies_texts_nearMisses :
    let raw : List UInt8 := Utf8.encode "211-A\n211-B\r\n\r 211 x\n211\r \r" ++ [0xFF, lineFeed]
    let status : Reply := ⟨211, ["211-A", "211-B", " 211 x", "211 \uFFFD"]⟩
    let ready : Reply := ⟨220, ["220 Ready"]⟩
    let texts := "211-A\r\n211-B\r\n 211 x\r\n211 \uFFFD\r\n220 Ready\r\n"
    (ofSource (Source.ofBytes raw)).readReply.outcome = .ok status ∧
      (ofSource (Source.ofBytes (Utf8.encode "220 Ready\n"))).readReply.outcome = .ok ready ∧
      ∀ limit, readReplies limit (ofSource (Source.ofBytes (Utf8.encode texts))) =
        (ended [.ok status, .ok ready] .endOfReplies).take limit := by
  intro raw status ready texts
  have hstatus : (ofSource (Source.ofBytes raw)).readReply.outcome = .ok status := by
    decide +kernel
  have hready : (ofSource (Source.ofBytes (Utf8.encode "220 Ready\n"))).readReply.outcome =
      .ok ready := by
    decide +kernel
  have hread : ∀ reply ∈ [status, ready], ∃ s : Inbound, s.readReply.outcome = .ok reply := by
    intro reply hreply
    rcases List.mem_cons.1 hreply with rfl | hreply
    · exact ⟨_, hstatus⟩
    · rw [List.mem_singleton.1 hreply]
      exact ⟨_, hready⟩
  exact ⟨hstatus, hready, (readReplies_texts [status, ready] hread).1⟩

end Inbound
end FtpClient
