import FtpClient.Proofs.Runs
import FtpClient.Proofs.Server

/-
The dialogue of one operation with a server that keeps to the protocol.

Everything here is about an operation from a session `s₀` on.  `Told` is what holds of a
session at any time in it, also after a failure: what was read is part of what the server has
given since `s₀`, in order and for the same commands.  `Linked n` holds while the connection
is in order: what is still to be read are whole replies, and `n` replies are outstanding, be
they given already or owed.  Every exit of an operation is at `n = 0`, or with a failure that
gives the connection up.
-/

namespace FtpClient

/-! ## The journal of an operation -/

/-- Entries in which no reply is read and none is told. -/
structure Mute (entries : List Entry) : Prop where
  unread : ∀ occasion, conversation occasion (wireEvents entries) = []
  untold : ∀ id text, .heard id (.reply text) ∉ entries

/-- Mute entries in which nothing happens that a reply could be given for. -/
structure Still (entries : List Entry) : Prop extends Mute entries where
  unasked : ∀ occasion, occasionAfter occasion (wireEvents entries) = occasion

theorem still_log (level : Level) (component : Component) (text : String) :
    Still [.log level component text] :=
  ⟨⟨fun _ => rfl, by simp⟩, fun _ => rfl⟩

theorem mute_wire {e : WireEvent} (he : ∀ reply, e ≠ .received reply) : Mute [.wire e] := by
  refine ⟨fun occasion => ?_, by simp⟩
  cases e with
  | received reply => exact absurd rfl (he reply)
  | _ => rfl

theorem still_wire {e : WireEvent} (htalk : ¬ e.IsTalk) (he : ∀ target, e ≠ .connected target) :
    Still [.wire e] := by
  cases e with
  | connected target => exact absurd rfl (he target)
  | sent bytes => exact absurd trivial htalk
  | received reply => exact absurd trivial htalk
  | _ => exact ⟨⟨fun _ => rfl, by simp⟩, fun _ => rfl⟩

theorem still_of_wireEvents {entries : List Entry} (h : wireEvents entries = [])
    (huntold : ∀ id text, .heard id (.reply text) ∉ entries) : Still entries :=
  ⟨⟨fun _ => by rw [h]; rfl, huntold⟩, fun _ => by rw [h]; rfl⟩

theorem still_failure (observers : Observers) (text : String) :
    Still ((observers.notify (.failure text)).map fun h => .heard h.1 h.2) := by
  refine still_of_wireEvents (wireEvents_heard _) ?_
  intro id text' hheard
  obtain ⟨told, htold, heq⟩ := List.mem_map.1 hheard
  obtain ⟨id', -, rfl⟩ := List.mem_map.1 htold
  cases heq

namespace Session

variable {ν : Type}

def since (s₀ t : Session ν) : List Entry :=
  t.journal.drop s₀.journal.length

/-- The replies that were read since `s₀`. -/
def talk (s₀ t : Session ν) : List Given :=
  conversation .unasked (wireEvents (since s₀ t))

/-- What a reply would be read for. -/
def occasion (s₀ t : Session ν) : Occasion :=
  occasionAfter .unasked (wireEvents (since s₀ t))

theorem since_record {s₀ t : Session ν} (h : s₀.journal <+: t.journal) (entries : List Entry) :
    since s₀ (t.record entries) = since s₀ t ++ entries := by
  have hlength := h.length_le
  rw [since, since, journal_record, List.drop_append_of_le_length hlength]

theorem since_mono {s₀ t u : Session ν} (h : s₀.journal <+: t.journal)
    (hgrows : t.journal <+: u.journal) : since s₀ t ⊆ since s₀ u := by
  obtain ⟨entries, hentries⟩ := hgrows
  have hsince : since s₀ u = since s₀ t ++ entries := by
    rw [since, ← hentries, List.drop_append_of_le_length h.length_le]
    rfl
  rw [hsince]
  exact List.subset_append_left _ _

/-! Two sessions with the same journal have read and been told the same. -/

theorem since_congr {s₀ t u : Session ν} (h : u.journal = t.journal) :
    since s₀ u = since s₀ t := by
  rw [since, since, h]

theorem talk_congr {s₀ t u : Session ν} (h : u.journal = t.journal) :
    talk s₀ u = talk s₀ t := by
  rw [talk, talk, since_congr h]

theorem occasion_congr {s₀ t u : Session ν} (h : u.journal = t.journal) :
    occasion s₀ u = occasion s₀ t := by
  rw [occasion, occasion, since_congr h]

theorem talk_record {s₀ t : Session ν} (h : s₀.journal <+: t.journal) (entries : List Entry) :
    talk s₀ (t.record entries) =
      talk s₀ t ++ conversation (occasion s₀ t) (wireEvents entries) := by
  rw [talk, since_record h, wireEvents_append, conversation_append]
  rfl

theorem occasion_record {s₀ t : Session ν} (h : s₀.journal <+: t.journal)
    (entries : List Entry) :
    occasion s₀ (t.record entries) = occasionAfter (occasion s₀ t) (wireEvents entries) := by
  rw [occasion, since_record h, wireEvents_append, occasionAfter_append]
  rfl

/-! ## What is told -/

variable [Network ν]

/-- A text that was delivered by a data connection that was established meanwhile. -/
def IsListing (ν : Type) [Network ν] (entries : List Entry) (text : String) : Prop :=
  ∃ (target : Endpoint) (n : ν) (source : Source), .wire (.dataConnected target) ∈ entries ∧
    (Network.connectData target n).result = .established source ∧
      text = Utf8.decode source.bytes

theorem IsListing.mono {entries entries' : List Entry} {text : String}
    (h : IsListing ν entries text) (hsub : entries ⊆ entries') : IsListing ν entries' text := by
  obtain ⟨target, n, source, hmem, hdelivered⟩ := h
  exact ⟨target, n, source, hsub hmem, hdelivered⟩

/-- Each reply that was read since `s₀` was asked for since `s₀`, each text that was told is
that of such a reply or a listing, and so is the reply that is to be passed on. -/
structure Reports (s₀ : Session ν) (reply? : Option Reply) (t : Session ν) : Prop where
  grows : s₀.journal <+: t.journal
  asked : ∀ g ∈ talk s₀ t, g.occasion ≠ .unasked
  heard : ∀ id text, .heard id (.reply text) ∈ since s₀ t →
    (∃ g ∈ talk s₀ t, g.reply.text = text) ∨ IsListing ν (since s₀ t) text
  said : ∀ reply, reply? = some reply → ∃ g ∈ talk s₀ t, g.reply = reply

variable {s₀ t : Session ν} {reply? : Option Reply}

theorem Reports.forget (h : Reports s₀ reply? t) : Reports s₀ none t :=
  ⟨h.grows, h.asked, h.heard, fun _ h => nomatch h⟩

theorem Reports.record (h : Reports s₀ reply? t) {entries : List Entry}
    (hasked : ∀ g ∈ conversation (occasion s₀ t) (wireEvents entries), g.occasion ≠ .unasked)
    (hheard : ∀ id text, .heard id (.reply text) ∈ entries →
      (∃ g ∈ talk s₀ t, g.reply.text = text) ∨ IsListing ν (since s₀ t) text) :
    Reports s₀ reply? (t.record entries) := by
  have htalk := talk_record h.grows entries
  have hkept {g : Given} (hg : g ∈ talk s₀ t) : g ∈ talk s₀ (t.record entries) := by
    rw [htalk]
    exact List.mem_append_left _ hg
  refine ⟨?_, ?_, ?_, ?_⟩
  · rw [journal_record]
    exact h.grows.trans (List.prefix_append _ _)
  · intro g hg
    rw [htalk] at hg
    rcases List.mem_append.1 hg with hg | hg
    · exact h.asked g hg
    · exact hasked g hg
  · intro id text hmem
    rw [since_record h.grows] at hmem
    have hbefore : (∃ g ∈ talk s₀ t, g.reply.text = text) ∨ IsListing ν (since s₀ t) text := by
      rcases List.mem_append.1 hmem with hmem | hmem
      · exact h.heard id text hmem
      · exact hheard id text hmem
    rcases hbefore with ⟨g, hg, htext⟩ | hlisting
    · exact Or.inl ⟨g, hkept hg, htext⟩
    · rw [since_record h.grows]
      exact Or.inr (hlisting.mono (List.subset_append_left _ _))
  · intro reply hreply
    obtain ⟨g, hg, heq⟩ := h.said reply hreply
    exact ⟨g, hkept hg, heq⟩

theorem Reports.congr (h : Reports s₀ reply? t) {u : Session ν}
    (hjournal : u.journal = t.journal) : Reports s₀ reply? u := by
  have htalk : talk s₀ u = talk s₀ t := talk_congr hjournal
  refine ⟨?_, ?_, ?_, ?_⟩
  · rw [hjournal]
    exact h.grows
  · rw [htalk]
    exact h.asked
  · rw [since_congr hjournal, htalk]
    exact h.heard
  · rw [htalk]
    exact h.said

theorem Reports.mute (h : Reports s₀ reply? t) {entries : List Entry} (he : Mute entries) :
    Reports s₀ reply? (t.record entries) := by
  refine h.record ?_ ?_
  · rw [he.unread]
    simp
  · intro id text hmem
    exact absurd hmem (he.untold id text)

omit [Network ν] in
theorem talk_mute (hgrows : s₀.journal <+: t.journal) {entries : List Entry}
    (he : Mute entries) : talk s₀ (t.record entries) = talk s₀ t := by
  rw [talk_record hgrows, he.unread, List.append_nil]

/-- A session in an operation from `s₀` on, also after a failure: the replies that were read
are among those that the server has given since, in the same order. -/
structure Told (L : Ledger ν) (s₀ : Session ν) (reply? : Option Reply) (t : Session ν) :
    Prop extends Reports s₀ reply? t where
  order : ∃ more, (L.account t.network).given = (L.account s₀.network).given ++ more ∧
    (talk s₀ t).Sublist more

/-- The control connection of a session in an operation from `s₀` on, for a server with
account `a`: `pending` are the replies that are given and not read, of which the octets
`late` are still to come, and `n` counts the one that is owed too. -/
structure Link (L : Ledger ν) (s₀ : Session ν) (a : Account) (c : ControlLink)
    (pending : List Given) (late : List UInt8) (n : Nat) (t : Session ν) : Prop where
  control : t.control = some c
  spelled : SpellsAll (c.inbound.unread ++ late) pending
  /-- Nothing arrives any more on a connection that has ended. -/
  late : c.inbound.source.ending = .quiet → late = a.unsent
  count : pending.length + a.owed.toList.length = n
  asked : ∀ g ∈ pending, g.occasion = occasion s₀ t ∧ g.occasion ≠ .unasked
  owed : ∀ line, a.owed = some line → occasion s₀ t = .line line
  order : ∃ more, a.given = (L.account s₀.network).given ++ more ∧
    (talk s₀ t ++ pending).Sublist more

/-- A session in an operation from `s₀` on whose control connection is in order, with `n`
replies outstanding. -/
structure Linked (L : Ledger ν) (s₀ : Session ν) (n : Nat) (reply? : Option Reply)
    (t : Session ν) : Prop extends Reports s₀ reply? t where
  link : ∃ c pending late, Link L s₀ (L.account t.network) c pending late n t

variable {L : Ledger ν} {n : Nat}

theorem Told.forget (h : Told L s₀ reply? t) : Told L s₀ none t :=
  ⟨h.toReports.forget, h.order⟩

theorem Linked.forget (h : Linked L s₀ n reply? t) : Linked L s₀ n none t :=
  ⟨h.toReports.forget, h.link⟩

theorem Linked.told (h : Linked L s₀ n reply? t) : Told L s₀ reply? t := by
  obtain ⟨c, pending, late, hlink⟩ := h.link
  obtain ⟨more, hgiven, horder⟩ := hlink.order
  exact ⟨h.toReports, more, hgiven, (List.sublist_append_left _ _).trans horder⟩

theorem Told.mute (h : Told L s₀ reply? t) {entries : List Entry} (he : Mute entries) :
    Told L s₀ reply? (t.record entries) := by
  obtain ⟨more, hgiven, horder⟩ := h.order
  refine ⟨h.toReports.mute he, more, hgiven, ?_⟩
  rw [talk_mute h.grows he]
  exact horder

theorem Told.network (h : Told L s₀ reply? t) {u : Session ν} (hjournal : u.journal = t.journal)
    (hgiven : (L.account t.network).given <+: (L.account u.network).given) :
    Told L s₀ reply? u := by
  have htalk : talk s₀ u = talk s₀ t := talk_congr hjournal
  obtain ⟨more, hmore, horder⟩ := h.order
  obtain ⟨later, hlater⟩ := hgiven
  refine ⟨h.toReports.congr hjournal, more ++ later, ?_, ?_⟩
  · rw [← hlater, hmore, List.append_assoc]
  · rw [htalk]
    exact horder.trans (List.sublist_append_left _ _)

theorem Link.record {a : Account} {c : ControlLink} {pending : List Given}
    {late : List UInt8} (h : Link L s₀ a c pending late n t) (hgrows : s₀.journal <+: t.journal)
    {entries : List Entry}
    (hunread : ∀ occasion, conversation occasion (wireEvents entries) = [])
    (hunasked : ∀ occasion, occasionAfter occasion (wireEvents entries) = occasion) :
    Link L s₀ a c pending late n (t.record entries) := by
  have hoccasion : occasion s₀ (t.record entries) = occasion s₀ t := by
    rw [occasion_record hgrows, hunasked]
  have htalk : talk s₀ (t.record entries) = talk s₀ t := by
    rw [talk_record hgrows, hunread, List.append_nil]
  refine ⟨h.control, h.spelled, h.late, h.count, ?_, ?_, ?_⟩
  · rw [hoccasion]
    exact h.asked
  · rw [hoccasion]
    exact h.owed
  · rw [htalk]
    exact h.order

theorem Linked.still (h : Linked L s₀ n reply? t) {entries : List Entry}
    (he : Still entries) : Linked L s₀ n reply? (t.record entries) := by
  obtain ⟨c, pending, late, hlink⟩ := h.link
  exact ⟨h.toReports.mute he.toMute, c, pending, late,
    hlink.record h.grows he.unread he.unasked⟩

theorem Linked.log (h : Linked L s₀ n reply? t) (level : Level) (component : Component)
    (text : String) : Linked L s₀ n reply? (t.log level component text) :=
  h.still (still_log level component text)

theorem Told.log (h : Told L s₀ reply? t) (level : Level) (component : Component)
    (text : String) : Told L s₀ reply? (t.log level component text) :=
  h.mute (still_log level component text).toMute

theorem Linked.wire (h : Linked L s₀ n reply? t) {e : WireEvent} (htalk : ¬ e.IsTalk)
    (he : ∀ target, e ≠ .connected target) : Linked L s₀ n reply? (t.wire e) :=
  h.still (still_wire htalk he)

theorem Linked.setData (h : Linked L s₀ n reply? t) (data : Option DataLink) :
    Linked L s₀ n reply? { t with data } := by
  obtain ⟨c, pending, late, hl⟩ := h.link
  exact ⟨h.toReports.congr rfl, c, pending, late,
    hl.control, hl.spelled, hl.late, hl.count, hl.asked, hl.owed, hl.order⟩

theorem Linked.setFiles (h : Linked L s₀ n reply? t) (files : FileTree) :
    Linked L s₀ n reply? { t with files } := by
  obtain ⟨c, pending, late, hl⟩ := h.link
  exact ⟨h.toReports.congr rfl, c, pending, late,
    hl.control, hl.spelled, hl.late, hl.count, hl.asked, hl.owed, hl.order⟩

/-! ## What a server does -/

section Server

variable {a b : Account} {c : ControlLink} {pending : List Given} {late : List UInt8}

/-- The server has given one more reply, for what was asked last. -/
theorem Link.give (h : Link L s₀ a c pending late n t) {g : Given} {raw : List UInt8}
    (hraw : Spells raw g.reply) {owed : Option (List UInt8)} {u : Session ν}
    (hcontrol : u.control = t.control) (htalk : talk s₀ u = talk s₀ t)
    (hoccasion : occasion s₀ u = g.occasion) (hasked : g.occasion ≠ .unasked)
    (hpending : ∀ g' ∈ pending, g'.occasion = g.occasion)
    (howed : ∀ line, owed = some line → g.occasion = .line line) :
    Link L s₀ (a.give g raw owed) c (pending ++ [g]) (late ++ raw)
      (pending.length + 1 + owed.toList.length) u := by
  obtain ⟨more, hgiven, horder⟩ := h.order
  refine ⟨hcontrol.trans h.control, ?_, ?_, ?_, ?_, ?_, more ++ [g], ?_, ?_⟩
  · rw [← List.append_assoc]
    exact h.spelled.snoc hraw
  · intro hquiet
    rw [h.late hquiet]
    rfl
  · show (pending ++ [g]).length + owed.toList.length = _
    rw [List.length_append, List.length_singleton]
  · intro g' hg'
    rw [hoccasion]
    rcases List.mem_append.1 hg' with hg' | hg'
    · rw [hpending g' hg']
      exact ⟨rfl, hasked⟩
    · obtain rfl := List.mem_singleton.1 hg'
      exact ⟨rfl, hasked⟩
  · rw [hoccasion]
    exact howed
  · show a.given ++ [g] = _
    rw [hgiven, List.append_assoc]
  · rw [htalk, ← List.append_assoc]
    exact horder.append (List.Sublist.refl _)

theorem Link.pays (h : Link L s₀ a c pending late n t) (hpays : a.Pays b) :
    ∃ more late', Link L s₀ b c (pending ++ more) late' n t := by
  cases hpays with
  | later => exact ⟨[], late, by rwa [List.append_nil]⟩
  | @now line raw reply howed hraw =>
      have hoccasion : occasion s₀ t = .line line := h.owed line howed
      have hcount : pending.length + 1 = n := by
        have hcount := h.count
        rw [howed] at hcount
        exact hcount
      refine ⟨[⟨.line line, reply⟩], late ++ raw, ?_⟩
      rw [← hcount]
      exact h.give hraw rfl rfl hoccasion (fun h => nomatch h)
        (fun g' hg' => (h.asked g' hg').1.trans hoccasion) fun _ h => nomatch h

theorem Link.ships (h : Link L s₀ a c pending late n t) {bytes : List UInt8}
    (hships : a.Ships bytes b) {ending : Ending} {u : Session ν}
    (hcontrol : u.control = some { c with inbound := c.inbound.receive bytes ending })
    (hjournal : u.journal = t.journal) :
    ∃ more late', Link L s₀ b { c with inbound := c.inbound.receive bytes ending }
      (pending ++ more) late' n u := by
  obtain ⟨m, hpays, hgiven, howed, hunsent⟩ := hships
  obtain ⟨more, late', hm⟩ := h.pays hpays
  have htalk : talk s₀ u = talk s₀ t := talk_congr hjournal
  have hoccasion : occasion s₀ u = occasion s₀ t := occasion_congr hjournal
  have hrest {late'' : List UInt8}
      (hspelled : SpellsAll ((c.inbound.receive bytes ending).unread ++ late'')
        (pending ++ more))
      (hlate : (c.inbound.receive bytes ending).source.ending = .quiet → late'' = b.unsent) :
      Link L s₀ b { c with inbound := c.inbound.receive bytes ending } (pending ++ more) late''
        n u := by
    refine ⟨hcontrol, hspelled, hlate, ?_, ?_, ?_, ?_⟩
    · rw [howed]
      exact hm.count
    · rw [hoccasion]
      exact hm.asked
    · rw [hoccasion, howed]
      exact hm.owed
    · rw [htalk, hgiven]
      exact hm.order
  -- What is sent on a connection that has ended is lost, so `late` stays what it was.
  by_cases hquiet : c.inbound.source.ending = .quiet
  · refine ⟨more, b.unsent, hrest ?_ fun _ => rfl⟩
    rw [Inbound.receive_quiet hquiet, List.append_assoc, ← hunsent, ← hm.late hquiet]
    exact hm.spelled
  · refine ⟨more, late', hrest ?_ ?_⟩
    · rw [Inbound.receive_ended hquiet]
      exact hm.spelled
    · rw [Inbound.receive_ended hquiet]
      intro h
      exact absurd h hquiet

theorem Linked.ships (h : Linked L s₀ n reply? t) {α : Type} {r : Reaction ν α}
    (hships : (L.account t.network).Ships r.delivery.bytes (L.account r.network)) :
    Linked L s₀ n reply? (t.settle r) := by
  obtain ⟨c, pending, late, hlink⟩ := h.link
  have hcontrol : (t.settle r).control =
      some { c with inbound := c.inbound.receive r.delivery.bytes r.delivery.ending } := by
    show t.control.map _ = _
    rw [hlink.control]
    rfl
  obtain ⟨more, late', hu⟩ := hlink.ships hships hcontrol rfl
  exact ⟨⟨h.grows, h.asked, h.heard, h.said⟩, _, _, late', hu⟩

theorem Link.nothing (h : Link L s₀ a c pending late 0 t) : pending = [] ∧ a.owed = none := by
  have hcount := h.count
  constructor
  · exact List.eq_nil_of_length_eq_zero (by omega)
  · cases howed : a.owed with
    | none => rfl
    | some line =>
        rw [howed] at hcount
        exact absurd hcount (Nat.succ_ne_zero _)

theorem Link.answers (h : Link L s₀ a c [] late 0 t) (hgrows : s₀.journal <+: t.journal)
    {line : List UInt8} (hanswers : a.Answers line b) :
    ∃ g late', Link L s₀ b c [g] late'
      (1 + if Command.transfers line ∧ g.reply.code < 200 then 1 else 0)
      (t.wire (.sent line)) := by
  cases hanswers with
  | @answer raw reply hraw =>
      have hoccasion : occasion s₀ (t.wire (.sent line)) = .line line := by
        rw [wire_eq_record, occasion_record hgrows]
        rfl
      have htalk : talk s₀ (t.wire (.sent line)) = talk s₀ t :=
        talk_mute hgrows (mute_wire fun _ h => nomatch h)
      have hgiven (owed : Option (List UInt8)) (howed : ∀ l, owed = some l → line = l) :
          Link L s₀ (a.give ⟨.line line, reply⟩ raw owed) c [⟨.line line, reply⟩] (late ++ raw)
            (1 + owed.toList.length) (t.wire (.sent line)) :=
        h.give hraw rfl htalk hoccasion (fun h => nomatch h) (fun _ h => nomatch h)
          fun l hl => congrArg Occasion.line (howed l hl)
      refine ⟨⟨.line line, reply⟩, late ++ raw, ?_⟩
      by_cases htwo : Command.transfers line ∧ reply.code < 200
      · rw [if_pos htwo, if_pos htwo]
        exact hgiven (some line) fun l hl => Option.some.inj hl
      · rw [if_neg htwo, if_neg htwo]
        exact hgiven none fun _ hl => nomatch hl

end Server

/-! ## Reading and writing -/

theorem Link.receives {a : Account} {c : ControlLink} {pending : List Given}
    {late : List UInt8} (h : Link L s₀ a c pending late (n + 1) t)
    (hgrows : s₀.journal <+: t.journal) {reply : Reply}
    (hok : c.inbound.readReply.outcome = .ok reply) {u : Session ν}
    (hcontrol : u.control = some { c with inbound := c.inbound.readReply.rest })
    {entries : List Entry} (hjournal : u.journal = (t.record entries).journal)
    (hentries : wireEvents entries = [.received reply]) :
    ∃ g rest, pending = g :: rest ∧ g.reply = reply ∧ talk s₀ u = talk s₀ t ++ [g] ∧
      Link L s₀ a { c with inbound := c.inbound.readReply.rest } rest late n u := by
  have hspelled := h.spelled
  generalize hbytes : c.inbound.unread ++ late = bytes at hspelled
  cases hspelled with
  | nil =>
      have hunread : c.inbound.unread = [] := (List.append_eq_nil_iff.1 hbytes).1
      have hempty : Cut c.inbound.unread [] [] := by
        rw [hunread]
        exact cut_splitLines []
      rw [Inbound.readReply_empty hempty] at hok
      cases hok
  | @cons raw more g rest hraw hmore =>
      obtain ⟨rfl, hread⟩ := Inbound.readReply_of_spells hraw hbytes hok
      have hasked := (h.asked g List.mem_cons_self).1
      have htalk : talk s₀ u = talk s₀ t ++ [g] := by
        rw [talk_congr hjournal, talk_record hgrows, hentries]
        show talk s₀ t ++ [⟨occasion s₀ t, g.reply⟩] = _
        rw [← hasked]
      have hoccasion : occasion s₀ u = occasion s₀ t := by
        rw [occasion_congr hjournal, occasion_record hgrows, hentries]
        rfl
      refine ⟨g, rest, rfl, rfl, htalk, hcontrol, ?_, ?_, ?_, ?_, ?_, ?_⟩
      · rw [hread]
        exact hmore
      · rw [Inbound.readReply_ending]
        exact h.late
      · have hcount := h.count
        rw [List.length_cons] at hcount
        omega
      · intro g' hg'
        rw [hoccasion]
        exact h.asked g' (List.mem_cons_of_mem g hg')
      · rw [hoccasion]
        exact h.owed
      · obtain ⟨later, hgiven, horder⟩ := h.order
        refine ⟨later, hgiven, ?_⟩
        rw [htalk, List.append_assoc]
        exact horder

theorem Link.notify {a : Account} {c : ControlLink} {pending : List Given}
    {late : List UInt8} (h : Link L s₀ a c pending late n t) (hgrows : s₀.journal <+: t.journal)
    (notice : Notice) : Link L s₀ a c pending late n (t.notify notice) := by
  refine h.record hgrows ?_ ?_
  · rw [wireEvents_heard]
    exact fun _ => rfl
  · rw [wireEvents_heard]
    exact fun _ => rfl

theorem Reports.notify (h : Reports s₀ reply? t) (text : String)
    (htext : (∃ g ∈ talk s₀ t, g.reply.text = text) ∨ IsListing ν (since s₀ t) text) :
    Reports s₀ reply? (t.notify (.reply text)) := by
  refine h.record ?_ ?_
  · rw [wireEvents_heard]
    simp [conversation]
  · intro id text' hheard
    obtain ⟨told, htold, heq⟩ := List.mem_map.1 hheard
    obtain ⟨id', -, rfl⟩ := List.mem_map.1 htold
    have htext' : text = text' := by simpa using (Entry.heard.inj heq).2
    rw [← htext']
    exact htext

theorem Reports.tell (h : Reports s₀ none t) {g : Given} {reply : Reply} (hg : g ∈ talk s₀ t)
    (heq : g.reply = reply) : Reports s₀ (some reply) (t.notify (.reply reply.text)) := by
  have htold := h.notify reply.text (Or.inl ⟨g, hg, by rw [heq]⟩)
  have htalk : talk s₀ (t.notify (.reply reply.text)) = talk s₀ t := by
    rw [Session.notify, talk_record h.grows, wireEvents_heard]
    exact List.append_nil _
  refine ⟨htold.grows, htold.asked, htold.heard, fun reply' hreply' => ⟨g, ?_, ?_⟩⟩
  · rw [htalk]
    exact hg
  · rw [heq, Option.some.inj hreply']

/-- A reply was read that may be read. -/
theorem Reports.reads (h : Reports s₀ reply? t) (hasked : occasion s₀ t ≠ .unasked)
    {entries : List Entry} {reply : Reply} (hevents : wireEvents entries = [.received reply])
    (huntold : ∀ id text, .heard id (.reply text) ∉ entries) :
    Reports s₀ none (t.record entries) := by
  refine h.forget.record ?_ ?_
  · rw [hevents]
    intro g hg
    obtain rfl := List.mem_singleton.1 hg
    exact hasked
  · intro id text hheard
    exact absurd hheard (huntold id text)

theorem receive_aligned {c : ControlLink} {pending : List Given} {late : List UInt8}
    (hreports : Reports s₀ reply? t)
    (h : Link L s₀ (L.account t.network) c pending late (n + 1) t) :
    t.receive.Ends
      (fun reply u => Reports s₀ none u ∧ ∃ c' g rest, pending = g :: rest ∧ g.reply = reply ∧
        g ∈ talk s₀ u ∧ Link L s₀ (L.account u.network) c' rest late n u)
      (fun e u => Told L s₀ none u ∧ e.breaksSession) := by
  have hbreaks := t.receive_ends
  have htold : Told L s₀ none t := (Linked.told ⟨hreports, c, pending, late, h⟩).forget
  unfold receive at hbreaks ⊢
  rw [h.control] at hbreaks ⊢
  dsimp only at hbreaks ⊢
  generalize hlogs : c.inbound.readReply.lines.map
    (fun line => Entry.log .trace .reply ("CC IN: " ++ quote line)) = logs at hbreaks ⊢
  have hstill : Still logs := by
    rw [← hlogs]
    exact still_of_wireEvents (by simp [wireEvents]) (by simp)
  cases hout : c.inbound.readReply.outcome with
  | error e =>
      rw [hout] at hbreaks
      have hread : Told L s₀ none
          { t with control := some { c with inbound := c.inbound.readReply.left } } :=
        htold.network rfl List.prefix_rfl
      exact ⟨hread.mute hstill.toMute, hbreaks.2.1⟩
  | ok reply =>
      rw [Reading.left_ok hout]
      dsimp only
      generalize hu : (({ t with
        control := some { c with inbound := c.inbound.readReply.rest } }.record logs).wire
          (.received reply)) = u
      have hjournal : u.journal = (t.record (logs ++ [.wire (.received reply)])).journal := by
        rw [← hu, wire_eq_record, journal_record, journal_record, journal_record,
          List.append_assoc]
        rfl
      have hevents : wireEvents (logs ++ [.wire (.received reply)]) = [.received reply] := by
        rw [wireEvents_append, ← hlogs]
        simp [wireEvents]
      obtain ⟨g, rest, hpending, hg, htalk, hlink⟩ :=
        h.receives hreports.grows hout (by rw [← hu]; rfl) hjournal hevents
      have hasked : occasion s₀ t ≠ .unasked := by
        have hmem : g ∈ pending := by
          rw [hpending]
          exact List.mem_cons_self
        rw [← (h.asked g hmem).1]
        exact (h.asked g hmem).2
      have hread : Reports s₀ none u := by
        refine (hreports.reads hasked hevents ?_).congr hjournal
        intro id text hheard
        rcases List.mem_append.1 hheard with hheard | hheard
        · exact hstill.untold id text hheard
        · simp at hheard
      have hsaid : g ∈ talk s₀ u := by
        rw [htalk]
        exact List.mem_append_right _ List.mem_cons_self
      have hnetwork : u.network = t.network := by
        rw [← hu]
        rfl
      rw [← hnetwork] at hlink
      exact ⟨hread, _, g, rest, hpending, hg, hsaid, hlink⟩

theorem receiveReply_aligned {c : ControlLink} {pending : List Given} {late : List UInt8}
    (hreports : Reports s₀ reply? t)
    (h : Link L s₀ (L.account t.network) c pending late (n + 1) t) :
    t.receiveReply.Ends
      (fun reply u => Reports s₀ (some reply) u ∧ ∃ c' g rest, pending = g :: rest ∧
        g.reply = reply ∧ Link L s₀ (L.account u.network) c' rest late n u)
      (fun e u => Told L s₀ none u ∧ e.breaksSession) := by
  refine (receive_aligned hreports h).andThen ?_ fun _ _ h => h
  intro reply u hends
  obtain ⟨hu, c', g, rest, hpending, hg, hsaid, hlink⟩ := hends
  exact ⟨hu.tell hsaid hg, c', g, rest, hpending, hg, hlink.notify hu.grows _⟩

/-- The number of replies to a command line after the first one. -/
def further (line : List UInt8) (first : Reply) : Nat :=
  if Command.transfers line ∧ first.code < 200 then 1 else 0

theorem send_aligned {c : Command} (hc : c.IsLine) (h : Linked L s₀ 0 reply? t) :
    (t.send c.line).Ends
      (fun _ u => Reports s₀ none u ∧ ∃ link g more late,
        Link L s₀ (L.account u.network) link (g :: more) late (further c.octets g.reply + 1) u)
      (fun e u => Told L s₀ none u ∧ e.breaksSession) := by
  obtain ⟨link, pending, late, hlink⟩ := h.link
  obtain ⟨rfl, howed⟩ := hlink.nothing
  have hanswer := L.answer (Utf8.encode c.line ++ [carriageReturn]) t.network
    (c.lineFeed_notMem_octets hc) howed
  rw [← c.octets_eq] at hanswer
  have hgiven := L.send c.octets t.network
  have hcut (count : Nat) : Mute [.wire (.sentPart c.octets count)] :=
    mute_wire fun _ h => nomatch h
  unfold send
  rw [hlink.control]
  dsimp only
  rw [show Utf8.encode (c.line ++ lineEnd) = c.octets from rfl]
  unfold write
  cases t.untold? with
  | some cause =>
      -- The connection has failed before, so that nothing is asked.
      have hfailed : Told L s₀ none t.informed := h.forget.told.network rfl List.prefix_rfl
      exact ⟨hfailed.mute (hcut 0), rfl⟩
  | none =>
      dsimp only
      generalize Network.send c.octets t.network = r at hanswer hgiven ⊢
      cases hresult : r.result with
      | part count cause =>
          have hfailed : Told L s₀ none (t.settle r) := h.forget.told.network rfl hgiven
          exact ⟨hfailed.mute (hcut count), rfl⟩
      | whole =>
          obtain ⟨m, hanswers, hships⟩ := hanswer hresult
          obtain ⟨g, late', hasked⟩ := hlink.answers h.grows hanswers
          have hcontrol : ((t.settle r).wire (.sent c.octets)).control = some { link with
              inbound := link.inbound.receive r.delivery.bytes r.delivery.ending } := by
            show t.control.map _ = _
            rw [hlink.control]
            rfl
          obtain ⟨more, late'', hsent⟩ := hasked.ships hships hcontrol rfl
          rw [Nat.add_comm] at hsent
          refine ⟨?_, _, g, more, late'', hsent⟩
          have hmute : Mute [.wire (.sent c.octets)] := mute_wire fun _ h => nomatch h
          exact (h.forget.toReports.mute hmute).congr rfl

theorem command_aligned {c : Command} (hc : c.IsLine) (h : Linked L s₀ 0 reply? t) :
    (t.command c).Ends
      (fun reply u => Linked L s₀ (further c.octets reply) (some reply) u)
      (fun e u => Told L s₀ none u ∧ e.breaksSession) := by
  have hlogged := h.log .trace .client ("CC OUT: " ++ c.loggedLine)
  refine (send_aligned hc hlogged).andThen ?_ fun _ _ h => h
  intro _ u hends
  obtain ⟨hreports, link, g, more, late, hlink⟩ := hends
  refine (receiveReply_aligned hreports hlink).mono ?_ fun _ _ h => h
  intro reply v hends
  obtain ⟨hv, link', g', rest, hpending, hreply, hlink'⟩ := hends
  obtain ⟨rfl, -⟩ := List.cons.inj hpending
  rw [hreply] at hlink'
  exact ⟨hv, link', rest, _, hlink'⟩

theorem receiveReply_last (h : Linked L s₀ 1 reply? t) :
    t.receiveReply.Ends (fun reply u => Linked L s₀ 0 (some reply) u)
      (fun e u => Told L s₀ none u ∧ e.breaksSession) := by
  obtain ⟨link, pending, late, hlink⟩ := h.link
  refine (receiveReply_aligned h.toReports hlink).mono ?_ fun _ _ h => h
  intro reply u hends
  obtain ⟨hu, link', g, rest, -, -, hlink'⟩ := hends
  exact ⟨hu, link', rest, _, hlink'⟩

end Session
end FtpClient
