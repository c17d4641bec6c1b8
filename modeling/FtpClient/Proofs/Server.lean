import FtpClient.Proofs.Commands
import FtpClient.Proofs.Framing
import FtpClient.Journal

/-
A server that keeps to the protocol, whatever else it does.

It greets, it gives one reply to each command line, and one more to a command line that asks
for a payload if the first reply was preliminary.  It may send its octets as late and in as
many parts as it likes.  A `Ledger` is the account that such a server could keep: what it
has given so far, in answer to what, and what of it has not been sent yet.
-/

namespace FtpClient

/-! ## The octets of replies -/

/-- Octets that are one whole reply. -/
def Spells (raw : List UInt8) (reply : Reply) : Prop :=
  ∃ lines, (∀ line ∈ lines, lineFeed ∉ line) ∧ raw = joinLines lines ∧
    IsReply (lines.map lineText) reply

theorem joinLines_inj_of_length {lines lines' : List (List UInt8)} {rest rest' : List UInt8}
    (hl : ∀ line ∈ lines, lineFeed ∉ line) (hl' : ∀ line ∈ lines', lineFeed ∉ line)
    (hlength : lines.length = lines'.length)
    (h : joinLines lines ++ rest = joinLines lines' ++ rest') : lines = lines' ∧ rest = rest' := by
  induction lines generalizing lines' with
  | nil =>
      cases lines' with
      | nil => exact ⟨rfl, h⟩
      | cons line' lines' => simp at hlength
  | cons line lines ih =>
      cases lines' with
      | nil => simp at hlength
      | cons line' lines' =>
          simp only [joinLines_cons, List.append_assoc, List.cons_append] at h
          obtain ⟨rfl, hrest⟩ := append_lineFeed_inj (hl line List.mem_cons_self)
            (hl' line' List.mem_cons_self) h
          obtain ⟨rfl, rfl⟩ := ih (fun l hm => hl l (List.mem_cons_of_mem _ hm))
            (fun l hm => hl' l (List.mem_cons_of_mem _ hm)) (Nat.succ.inj hlength) hrest
          exact ⟨rfl, rfl⟩

namespace Inbound

/-- What is read from the octets of a reply, also while the last of them are still to come,
is that reply and takes no octet of what follows. -/
theorem readReply_of_spells {s : Inbound} {raw late more : List UInt8} {reply reply' : Reply}
    (hraw : Spells raw reply) (h : s.unread ++ late = raw ++ more)
    (hok : s.readReply.outcome = .ok reply') :
    reply' = reply ∧ s.readReply.rest.unread ++ late = more := by
  obtain ⟨lines, hlines, rfl, hreply⟩ := hraw
  have hcut := cut_splitLines s.unread
  obtain ⟨taken, left, heq, htaken, hleft⟩ := isReply_of_readReply hcut hok
  rw [heq] at hcut
  have hlinesTaken : ∀ line ∈ taken, lineFeed ∉ line :=
    fun line hl => hcut.lineFeed_lines line (List.mem_append_left _ hl)
  have hunread : s.unread = joinLines taken ++ s.readReply.rest.unread := by
    rw [hcut.eq, hleft.eq, joinLines_append, List.append_assoc]
  have hsame : joinLines taken ++ (s.readReply.rest.unread ++ late) = joinLines lines ++ more := by
    rw [← List.append_assoc, ← hunread, h]
  -- Reading on from all the octets finds both replies, so they are one.
  have hall (lines : List (List UInt8)) (bytes : List UInt8) (r : Reply)
      (hl : ∀ line ∈ lines, lineFeed ∉ line) (hr : IsReply (lines.map lineText) r) :
      (ofSource (Source.ofBytes (joinLines lines ++ bytes))).readReply.outcome = .ok r := by
    have hc := cut_joinLines_append hl bytes
    rw [← unread_ofBytes (joinLines lines ++ bytes)] at hc
    exact (readReply_of_isReply hc hr).1
  have htakenRead := hall taken (s.readReply.rest.unread ++ late) reply' hlinesTaken htaken
  rw [hsame, hall lines more reply hlines hreply] at htakenRead
  obtain rfl := Except.ok.inj htakenRead
  have hlength : taken.length = lines.length := by
    have htexts := htaken.lines_eq.symm.trans hreply.lines_eq
    simpa using congrArg List.length htexts
  exact ⟨rfl, (joinLines_inj_of_length hlinesTaken hlines hlength hsame).2⟩

end Inbound

/-! ## What a server gives -/

/-- What a reply is given for. -/
inductive Occasion where
  | unasked
  | greeting
  | line (octets : List UInt8)
deriving DecidableEq

/-- A reply and what it is given for. -/
structure Given where
  occasion : Occasion
  reply : Reply
deriving DecidableEq

/-- The occasion of the next reply, by what happened on the connections last. -/
def occasionAfter (occasion : Occasion) : List WireEvent → Occasion
  | [] => occasion
  | .connected _ :: events => occasionAfter .greeting events
  | .sent bytes :: events => occasionAfter (.line bytes) events
  | _ :: events => occasionAfter occasion events

/-- The replies that were read, each with what it was read for. -/
def conversation (occasion : Occasion) : List WireEvent → List Given
  | [] => []
  | .connected _ :: events => conversation .greeting events
  | .sent bytes :: events => conversation (.line bytes) events
  | .received reply :: events => ⟨occasion, reply⟩ :: conversation occasion events
  | _ :: events => conversation occasion events

theorem occasionAfter_append (occasion : Occasion) (events events' : List WireEvent) :
    occasionAfter occasion (events ++ events') =
      occasionAfter (occasionAfter occasion events) events' := by
  induction events generalizing occasion with
  | nil => rfl
  | cons e events ih => cases e <;> exact ih _

theorem conversation_append (occasion : Occasion) (events events' : List WireEvent) :
    conversation occasion (events ++ events') =
      conversation occasion events ++ conversation (occasionAfter occasion events) events' := by
  induction events generalizing occasion with
  | nil => rfl
  | cons e events ih =>
      cases e with
      | received reply => exact congrArg (List.cons _) (ih _)
      | _ => exact ih _

/-- What a reply was read for happened before it was read. -/
theorem mem_conversation {occasion : Occasion} {events : List WireEvent} {g : Given}
    (h : g ∈ conversation occasion events) :
    g.occasion = occasion ∨ (g.occasion = .greeting ∧ ∃ target, .connected target ∈ events) ∨
      ∃ line, g.occasion = .line line ∧ .sent line ∈ events := by
  induction events generalizing occasion with
  | nil => cases h
  | cons e events ih =>
      have hlater {occasion' : Occasion} (h : g ∈ conversation occasion' events) :
          g.occasion = occasion' ∨
            (g.occasion = .greeting ∧ ∃ target, .connected target ∈ e :: events) ∨
            ∃ line, g.occasion = .line line ∧ .sent line ∈ e :: events := by
        rcases ih h with heq | ⟨heq, target, hmem⟩ | ⟨line, heq, hmem⟩
        · exact Or.inl heq
        · exact Or.inr (Or.inl ⟨heq, target, List.mem_cons_of_mem e hmem⟩)
        · exact Or.inr (Or.inr ⟨line, heq, List.mem_cons_of_mem e hmem⟩)
      cases e with
      | connected target =>
          rcases hlater h with heq | hasked
          · exact Or.inr (Or.inl ⟨heq, target, List.mem_cons_self⟩)
          · exact Or.inr hasked
      | sent bytes =>
          rcases hlater h with heq | hasked
          · exact Or.inr (Or.inr ⟨bytes, heq, List.mem_cons_self⟩)
          · exact Or.inr hasked
      | received reply =>
          rcases List.mem_cons.1 h with rfl | h
          · exact Or.inl rfl
          · exact hlater h
      | disconnected => exact hlater h
      | sentPart bytes count => exact hlater h
      | dataConnected target => exact hlater h
      | dataSent bytes => exact hlater h
      | dataClosed => exact hlater h

/-- The account of a server: the replies given so far, the octets of them that are not sent
yet, and the line whose last reply is still to be given. -/
structure Account where
  given : List Given
  unsent : List UInt8
  owed : Option (List UInt8)

/-- Octets that are these replies, one after another. -/
inductive SpellsAll : List UInt8 → List Given → Prop where
  | nil : SpellsAll [] []
  | cons {raw rest : List UInt8} {g : Given} {gs : List Given} :
      Spells raw g.reply → SpellsAll rest gs → SpellsAll (raw ++ rest) (g :: gs)

theorem SpellsAll.snoc {bytes raw : List UInt8} {gs : List Given} {g : Given}
    (h : SpellsAll bytes gs) (hraw : Spells raw g.reply) :
    SpellsAll (bytes ++ raw) (gs ++ [g]) := by
  induction h with
  | nil =>
      have hone := SpellsAll.cons hraw .nil
      rwa [List.append_nil] at hone
  | cons hfirst _ ih =>
      rw [List.append_assoc]
      exact .cons hfirst ih

namespace Account

def give (a : Account) (g : Given) (raw : List UInt8) (owed : Option (List UInt8)) : Account :=
  ⟨a.given ++ [g], a.unsent ++ raw, owed⟩

/-- The account after a command line was taken: it is given one reply, and is owed another
if it asks for a payload and the reply is preliminary. -/
inductive Answers (line : List UInt8) (a : Account) : Account → Prop where
  | answer {raw : List UInt8} {reply : Reply} : Spells raw reply →
      Answers line a (a.give ⟨.line line, reply⟩ raw
        (if Command.transfers line ∧ reply.code < 200 then some line else none))

/-- The account after what is owed may have been given. -/
inductive Pays (a : Account) : Account → Prop where
  | later : Pays a a
  | now {line raw : List UInt8} {reply : Reply} : a.owed = some line → Spells raw reply →
      Pays a (a.give ⟨.line line, reply⟩ raw none)

/-- The account after octets were sent, and after what is owed may have been given. -/
def Ships (bytes : List UInt8) (a b : Account) : Prop :=
  ∃ m, Pays a m ∧ b.given = m.given ∧ b.owed = m.owed ∧ m.unsent = bytes ++ b.unsent

theorem Pays.given {a b : Account} (h : Pays a b) : a.given <+: b.given := by
  cases h with
  | later => exact List.prefix_rfl
  | now => exact List.prefix_append _ _

theorem Ships.given {a b : Account} {bytes : List UInt8} (h : Ships bytes a b) :
    a.given <+: b.given := by
  obtain ⟨m, hpays, hgiven, -⟩ := h
  rw [hgiven]
  exact hpays.given

end Account

/-- How a server that keeps to the protocol keeps its account: it greets, it answers each
command line once it has been written, and otherwise it gives only what it owes.  Nothing
is said about when it sends its octets, nor about command lines that it gets while it owes
a reply, nor about anything else that it does. -/
structure Ledger (ν : Type) [Network ν] where
  account : ν → Account
  greet : ∀ target n first, (Network.connect target n).1 = .established first →
    ∃ raw reply, Spells raw reply ∧ (account (Network.connect target n).2).given =
        (account n).given ++ [⟨.greeting, reply⟩] ∧
      raw = first.bytes ++ (account (Network.connect target n).2).unsent ∧
      (account (Network.connect target n).2).owed = none
  connect : ∀ target n, (account n).given <+: (account (Network.connect target n).2).given
  hangUp : ∀ n, (account n).given <+: (account (Network.hangUp n)).given
  send : ∀ bytes n, (account n).given <+: (account (Network.send bytes n).network).given
  answer : ∀ line n, lineFeed ∉ line → (account n).owed = none →
    (Network.send (line ++ [lineFeed]) n).result = .whole →
    ∃ m, (account n).Answers (line ++ [lineFeed]) m ∧
      m.Ships (Network.send (line ++ [lineFeed]) n).delivery.bytes
        (account (Network.send (line ++ [lineFeed]) n).network)
  connectData : ∀ target n, (account n).Ships (Network.connectData target n).delivery.bytes
    (account (Network.connectData target n).network)
  sendData : ∀ bytes n, (account n).Ships (Network.sendData bytes n).delivery.bytes
    (account (Network.sendData bytes n).network)
  hangUpData : ∀ n, (account n).Ships (Network.hangUpData n).delivery.bytes
    (account (Network.hangUpData n).network)

/-! ## Servers that answer at once -/

theorem Spells.line {octets : List UInt8} {code : Nat} {text : String}
    (hoctets : lineFeed ∉ octets) (htext : lineText octets = text)
    (hhead : Head.ofLine? text = some ⟨code, false⟩) :
    Spells (joinLines [octets]) ⟨code, [text]⟩ := by
  refine ⟨[octets], ?_, rfl, ?_⟩
  · intro line hline
    rw [List.mem_singleton.1 hline]
    exact hoctets
  · show IsReply [lineText octets] ⟨code, [text]⟩
    rw [htext]
    exact .single (Head.ofLine?_eq_some.1 hhead)

structure Phrase where
  octets : List UInt8
  reply : Reply
  spells : Spells octets reply

def Phrase.line (octets : List UInt8) (code : Nat) (text : String) (hoctets : lineFeed ∉ octets)
    (htext : lineText octets = text) (hhead : Head.ofLine? text = some ⟨code, false⟩) : Phrase :=
  ⟨joinLines [octets], ⟨code, [text]⟩, .line hoctets htext hhead⟩

/-- What a server says: first, to each command line, and to one that asked for a payload
once the payload was moved. -/
structure Words where
  greeting : Phrase
  answer : List UInt8 → Phrase
  farewell : List UInt8 → Phrase
  /-- What its data connections deliver. -/
  payload : Source

/-- A server with these words, which takes every connection and sends every reply at once. -/
structure Speaker (w : Words) where
  given : List Given
  owed : Option (List UInt8)

namespace Speaker

variable {w : Words}

def silent (w : Words) : Speaker w :=
  ⟨[], none⟩

def greet (s : Speaker w) : Speaker w :=
  ⟨s.given ++ [⟨.greeting, w.greeting.reply⟩], none⟩

def answer (line : List UInt8) (s : Speaker w) : Speaker w :=
  ⟨s.given ++ [⟨.line line, (w.answer line).reply⟩],
    if Command.transfers line ∧ (w.answer line).reply.code < 200 then some line else none⟩

/-- Say what is owed, if anything is. -/
def settleUp (s : Speaker w) : Delivery × Speaker w :=
  match s.owed with
  | none => (.none, s)
  | some line =>
      (⟨(w.farewell line).octets, .quiet⟩,
        ⟨s.given ++ [⟨.line line, (w.farewell line).reply⟩], none⟩)

instance : Network (Speaker w) where
  resolve _ host := .ok [host]
  connect _ s := (.established ⟨w.greeting.octets, .quiet⟩, s.greet)
  peerAddress _ := .ok "192.0.2.1"
  send line s := ⟨.whole, ⟨(w.answer line).octets, .quiet⟩, s.answer line⟩
  hangUp s := s
  connectData _ s := ⟨.established w.payload, .none, s⟩
  sendData _ s := ⟨.ok (), .none, s⟩
  hangUpData s := ⟨.ok (), s.settleUp.1, s.settleUp.2⟩
  pause s := ⟨(), .none, s⟩

def account (s : Speaker w) : Account :=
  ⟨s.given, [], s.owed⟩

theorem settleUp_ships (s : Speaker w) :
    s.account.Ships s.settleUp.1.bytes s.settleUp.2.account := by
  unfold settleUp
  cases howed : s.owed with
  | none => exact ⟨s.account, .later, rfl, rfl, rfl⟩
  | some line =>
      refine ⟨_, .now howed (w.farewell line).spells, rfl, rfl, ?_⟩
      exact (List.append_nil _).symm

/-- Such a server keeps to the protocol, whatever its words are. -/
def ledger (w : Words) : Ledger (Speaker w) where
  account := account
  greet target n first hfirst := by
    obtain rfl := Attempt.established.inj hfirst
    exact ⟨_, _, w.greeting.spells, rfl, (List.append_nil _).symm, rfl⟩
  connect target n := List.prefix_append _ _
  hangUp n := List.prefix_rfl
  send line n := List.prefix_append _ _
  answer line n _ _ _ := by
    refine ⟨_, .answer (w.answer _).spells, _, .later, rfl, rfl, ?_⟩
    exact (List.append_nil _).symm
  connectData target n := ⟨n.account, .later, rfl, rfl, rfl⟩
  sendData bytes n := ⟨n.account, .later, rfl, rfl, rfl⟩
  hangUpData n := n.settleUp_ships

end Speaker
end FtpClient
