import FtpClient.Proofs.Runs

/-
The data connection over the life of a session.  What happens on the two connections obeys
one law, event by event: a data connection is opened on the answer to `EPSV` and to the port
of that answer, a payload is asked for while it is open, and a reply is read while it is
open only in answer to that.  The address is the far end of the control connection, as the
system tells it then.

`Tracks` says that the events so far obey the law and that the connections of the session
are the ones that its events tell of.  Acts are shown to keep it one at a time.  Outside
transfers all events are quiet, that is, they have nothing to do with a data connection.
-/

namespace FtpClient
namespace WireEvent

/-! ## The law -/

/-- What was dialled for the control connection that is held after an event. -/
def peerStep : Option Endpoint → WireEvent → Option Endpoint
  | _, connected target => some target
  | _, disconnected => none
  | peer, _ => peer

def dataStep : Option Endpoint → WireEvent → Option Endpoint
  | _, dataConnected target => some target
  | _, dataClosed => none
  | data, _ => data

def peerAfter (past : List WireEvent) : Option Endpoint :=
  past.foldl peerStep none

def dataAfter (past : List WireEvent) : Option Endpoint :=
  past.foldl dataStep none

/-- A data connection may be opened to `target`: none is open, a control connection is
held, and the last thing that happened is that `EPSV` was answered, with the port of
`target`. -/
def MayOpen (past : List WireEvent) (target : Endpoint) : Prop :=
  dataAfter past = none ∧ (peerAfter past).isSome ∧
  ∃ before reply, past = before ++ [sent Command.epsv.octets, received reply] ∧
    reply.code < 400 ∧ reply.dataPort = .ok target.port

/-- What may happen next.  A reply may be read while a data connection is open only if
nothing has happened on it yet and the last thing written asks for the payload. -/
def Licit (past : List WireEvent) : WireEvent → Prop
  | dataConnected target => MayOpen past target
  | sent bytes | sentPart bytes _ => Command.transfers bytes → (dataAfter past).isSome
  | received _ => (dataAfter past).isSome → ∃ before target bytes,
      past = before ++ [dataConnected target, sent bytes] ∧ Command.transfers bytes
  | dataSent _ | dataClosed => (dataAfter past).isSome
  | connected _ | disconnected => True

/-- Everything that happened was licit when it happened. -/
def Lawful (past : List WireEvent) : Prop :=
  ∀ before e rest, past = before ++ e :: rest → Licit before e

theorem lawful_nil : Lawful [] := by
  intro before e rest h
  cases before <;> cases h

theorem Lawful.snoc {past : List WireEvent} {e : WireEvent} (h : Lawful past)
    (he : Licit past e) : Lawful (past ++ [e]) := by
  intro before e' rest hsplit
  rcases List.eq_nil_or_concat rest with rfl | ⟨rest', last, rfl⟩
  · obtain ⟨rfl, hlast⟩ := List.append_inj' hsplit rfl
    obtain rfl := List.singleton_inj.1 hlast
    exact he
  · have hsplit' : past ++ [e] = (before ++ e' :: rest') ++ [last] := by simpa using hsplit
    obtain ⟨hpast, -⟩ := List.append_inj' hsplit' rfl
    exact h before e' rest' hpast

/-- An event that has nothing to do with a data connection. -/
def IsQuiet : WireEvent → Prop
  | connected _ | received _ | disconnected => True
  | sent bytes | sentPart bytes _ => Command.transfers bytes = false
  | dataConnected _ | dataSent _ | dataClosed => False

theorem licit_of_quiet {past : List WireEvent} {e : WireEvent} (he : e.IsQuiet)
    (hpast : dataAfter past = none) : Licit past e := by
  cases e with
  | connected target => trivial
  | disconnected => trivial
  | received reply => simp [Licit, hpast]
  | sent bytes =>
      have hbytes : Command.transfers bytes = false := he
      simp [Licit, hbytes]
  | sentPart bytes count =>
      have hbytes : Command.transfers bytes = false := he
      simp [Licit, hbytes]
  | dataConnected target => exact he.elim
  | dataSent bytes => exact he.elim
  | dataClosed => exact he.elim

theorem dataStep_of_quiet {e : WireEvent} (he : e.IsQuiet) (data : Option Endpoint) :
    dataStep data e = data := by
  cases e with
  | dataConnected target => exact he.elim
  | dataSent bytes => exact he.elim
  | dataClosed => exact he.elim
  | _ => rfl

/-! ## Keeping track -/

/-- The events so far are lawful and lead to these connections. -/
structure Tracks (past : List WireEvent) (peer data : Option Endpoint) : Prop where
  lawful : Lawful past
  peer : peerAfter past = peer
  data : dataAfter past = data

namespace Tracks

variable {past : List WireEvent} {peer data : Option Endpoint}

theorem nil : Tracks [] none none :=
  ⟨lawful_nil, rfl, rfl⟩

theorem snoc (h : Tracks past peer data) {e : WireEvent} (he : Licit past e) :
    Tracks (past ++ [e]) (peerStep peer e) (dataStep data e) := by
  refine ⟨h.lawful.snoc he, ?_, ?_⟩
  · rw [peerAfter, List.foldl_append, ← h.peer]
    rfl
  · rw [dataAfter, List.foldl_append, ← h.data]
    rfl

theorem quiet (h : Tracks past peer none) {events : List WireEvent}
    (hquiet : ∀ e ∈ events, e.IsQuiet) :
    Tracks (past ++ events) (events.foldl peerStep peer) none := by
  induction events generalizing past peer with
  | nil => simpa using h
  | cons e events ih =>
      have he := hquiet e List.mem_cons_self
      have hstep := h.snoc (licit_of_quiet he h.data)
      rw [dataStep_of_quiet he] at hstep
      have hrest := ih hstep fun e' he' => hquiet e' (List.mem_cons_of_mem e he')
      rwa [List.append_assoc] at hrest

end Tracks
theorem parting_quiet {ν : Type} (s : Session ν) : ∀ e ∈ s.parting, e.IsQuiet := by
  intro e he
  unfold Session.parting at he
  split at he
  · cases he
  · obtain rfl := List.mem_singleton.1 he
    trivial

theorem trials_quiet (tried : List Endpoint) : ∀ e ∈ Session.trials tried, e.IsQuiet := by
  intro e he
  obtain ⟨target, -, he⟩ := List.mem_flatMap.1 he
  rcases List.mem_cons.1 he with rfl | he
  · trivial
  · obtain rfl := List.mem_singleton.1 he
    trivial

theorem foldl_parting {ν : Type} (s : Session ν) : s.parting.foldl peerStep s.peer = none := by
  unfold Session.parting Session.peer
  cases s.control <;> rfl

theorem foldl_trials (tried : List Endpoint) :
    (Session.trials tried).foldl peerStep none = none := by
  induction tried with
  | nil => rfl
  | cons target rest ih => exact ih

end WireEvent

namespace Outcome

variable {ν α : Type} {o : Outcome ν α} {p : Session ν → Prop}

theorem ends_session : o.Ends (fun _ t => p t) (fun _ t => p t) ↔ p o.session := by
  obtain ⟨value, t⟩ := o
  cases value <;> exact Iff.rfl

end Outcome

namespace Session

open WireEvent

variable {ν : Type} {s t u : Session ν}

/-- The connections of a session are the ones that its events tell of. -/
def Tracked (s : Session ν) : Prop :=
  Tracks s.wires s.peer (s.data.map (·.remote))

/-! ## Quiet operations -/

/-- A session after quiet events, with the control connection that they lead to. -/
structure Quietly (s t : Session ν) : Prop where
  data : t.data = s.data
  events : ∃ es, t.wires = s.wires ++ es ∧ (∀ e ∈ es, e.IsQuiet) ∧
    es.foldl peerStep s.peer = t.peer

namespace Quietly

theorem refl (s : Session ν) : Quietly s s :=
  ⟨rfl, [], (List.append_nil _).symm, by simp, rfl⟩

theorem trans (h : Quietly s t) (h' : Quietly t u) : Quietly s u := by
  obtain ⟨es, hwires, hquiet, hpeer⟩ := h.events
  obtain ⟨es', hwires', hquiet', hpeer'⟩ := h'.events
  refine ⟨h'.data.trans h.data, es ++ es', by rw [hwires', hwires, List.append_assoc], ?_, ?_⟩
  · intro e he
    rcases List.mem_append.1 he with he | he
    · exact hquiet e he
    · exact hquiet' e he
  · rw [List.foldl_append, hpeer, hpeer']

theorem log (s : Session ν) (level : Level) (component : Component) (text : String) :
    Quietly s (s.log level component text) :=
  ⟨rfl, [], by simp, by simp, rfl⟩

theorem tracked (h : Quietly s t) (hs : s.data = none) (hs' : Tracked s) : Tracked t := by
  obtain ⟨es, hwires, hquiet, hpeer⟩ := h.events
  have htracks : Tracks s.wires s.peer none := by
    simpa [Tracked, hs] using hs'
  have ht := htracks.quiet hquiet
  rw [Tracked, hwires, ← hpeer, h.data, hs]
  exact ht

theorem parting (hdata : t.data = s.data) (hnone : t.control = none)
    (hwires : t.wires = s.wires ++ s.parting) : Quietly s t := by
  refine ⟨hdata, s.parting, hwires, parting_quiet s, ?_⟩
  rw [foldl_parting, peer_eq_none.2 hnone]

theorem talks (h : Talks s t) {es : List WireEvent} (hwires : t.wires = s.wires ++ es)
    (hquiet : ∀ e ∈ es, e.IsQuiet) (hpeer : es.foldl peerStep s.peer = s.peer) :
    Quietly s t :=
  ⟨h.data, es, hwires, hquiet, hpeer.trans h.peer.symm⟩

end Quietly

variable [Network ν]

theorem command_quietly {c : Command} (hc : Command.transfers c.octets = false)
    (s : Session ν) : (s.command c).Ends (fun _ t => Quietly s t) (fun _ t => Quietly s t) := by
  refine (s.command_ends c).mono ?_ ?_
  · intro reply t hends
    obtain ⟨ht, -, hwires⟩ := hends
    refine .talks ht hwires ?_ rfl
    intro e hends
    rcases hends with he | he
    · exact hc
    · obtain rfl := List.mem_singleton.1 (by assumption)
      trivial
  · intro e t hends
    rcases hends with ⟨ht, -, ⟨es, hes, hwires⟩ | hwires⟩
    · cases hes with
      | unheld _ => exact .talks ht hwires (by simp) rfl
      | part count _ =>
          refine .talks ht hwires ?_ rfl
          intro e he
          obtain rfl := List.mem_singleton.1 he
          exact hc
    · refine .talks ht hwires ?_ rfl
      intro e he
      obtain rfl := List.mem_singleton.1 he
      exact hc

theorem report_quietly (e : Failure) (s : Session ν) : Quietly s (s.report e) := by
  cases he : e.breaksSession with
  | true =>
      obtain ⟨hkeeps, hnone, hwires⟩ := report_breaking he s
      exact .parting hkeeps.data hnone hwires
  | false =>
      obtain ⟨ht, -, hwires⟩ := report_other he s
      exact .talks ht (hwires.trans (List.append_nil _).symm) (by simp) rfl

def quietFrame (s : Session ν) : Frame ν where
  allows c := Command.transfers c.octets = false
  after _ t := Quietly s t
  final _ t := Quietly s t
  log _ _ _ h := h.trans (.log _ _ _ _)
  files files h := ⟨h.data, h.events⟩
  blame _ _ h := h
  forget h := h
  command {c t} _ hc h := by
    refine (command_quietly hc t).mono ?_ ?_
    · intro reply u hu
      exact h.trans hu
    · intro e u hu
      exact h.trans hu
  transfer _ hc htransfers _ _ := by
    rw [hc] at htransfers
    cases htransfers
  report {e t} h := h.trans (report_quietly e t)

theorem connect_quietly (host : String) (port : UInt16) (s : Session ν) :
    Quietly s (s.connect host port).session := by
  have hquiet (tried : List Endpoint) : ∀ e ∈ s.parting ++ trials tried, e.IsQuiet := by
    intro e he
    rcases List.mem_append.1 he with he | he
    · exact parting_quiet s e he
    · exact trials_quiet tried e he
  have hpeer (tried : List Endpoint) :
      (s.parting ++ trials tried).foldl peerStep s.peer = none := by
    rw [List.foldl_append, foldl_parting, foldl_trials]
  rw [← Outcome.ends_session (p := fun t => Quietly s t)]
  refine (connect_ends host port s).mono ?_ ?_
  · intro answer t hends
    obtain ⟨hkeeps, tried, target, greeting, -, htPeer, hwires⟩ := hends
    refine ⟨hkeeps.data,
      (s.parting ++ trials tried) ++ [connected target, received greeting], ?_, ?_, ?_⟩
    · rw [hwires, List.append_assoc, List.append_assoc, List.append_assoc]
    · intro e he
      rcases List.mem_append.1 he with he | he
      · exact hquiet tried e he
      · rcases List.mem_cons.1 he with rfl | he
        · trivial
        · obtain rfl := List.mem_singleton.1 he
          trivial
    · rw [List.foldl_append, hpeer, htPeer]
      rfl
  · intro e t hends
    obtain ⟨hkeeps, hnone, tried, hwires⟩ := hends
    refine ⟨hkeeps.data, s.parting ++ trials tried, ?_, hquiet tried, ?_⟩
    · rw [hwires, List.append_assoc]
    · rw [hpeer, peer_eq_none.2 hnone]

theorem closeControl_quietly (s : Session ν) : Quietly s s.closeControl := by
  obtain ⟨hkeeps, hnone, hwires⟩ := s.closeControl_spec
  exact .parting hkeeps.data hnone hwires

theorem resetControl_quietly (s : Session ν) : Quietly s s.resetControl := by
  obtain ⟨hkeeps, hnone, hwires⟩ := s.resetControl_spec
  exact .parting hkeeps.data hnone hwires

theorem isOpen_quietly (s : Session ν) : Quietly s s.isOpen.2 := by
  have hprobe : s.probe.Ends (fun _ t => Quietly s t) (fun _ t => Quietly s t) := by
    refine s.probe_ends.mono ?_ ?_
    · intro isThere t hends
      obtain ⟨ht, hwires, -⟩ := hends
      exact .talks ht (hwires.trans (List.append_nil _).symm) (by simp) rfl
    · intro e t hends
      obtain ⟨ht, hwires, -⟩ := hends
      exact .talks ht (hwires.trans (List.append_nil _).symm) (by simp) rfl
  have h : (guarded s.probe).Ends (fun _ t => Quietly s t) (fun _ t => Quietly s t) :=
    guarded_of_ends hprobe fun e t ht => ht.trans (report_quietly e t)
  unfold isOpen
  generalize guarded s.probe = o at h ⊢
  obtain ⟨value, t⟩ := o
  cases value <;> exact h

theorem run_quietly (s : Session ν) {c : Call} (hc : c.movesPayload = false) :
    Quietly s (s.run c).2 := by
  have hquit : Command.transfers Command.quit.octets = false := Command.transfers_octets _
  cases hordinary : c.isOrdinary with
  | true =>
      have h := (quietFrame s).run hordinary (Call.transfers_of_commands hc) (Quietly.refl s)
      unfold Frame.Leaves at h
      split at h <;> exact h
  | false =>
      cases c with
      | connect host port => exact connect_quietly host port s
      | isOpen => exact isOpen_quietly s
      | quit =>
          have h := (quietFrame s).simple (c := .quit) hquit hquit "Quitting session" (.refl s)
          exact (Outcome.ends_session.1 h).trans (closeControl_quietly _)
      | reset => exact resetControl_quietly s
      | _ => cases hordinary

/-! ## Transfers -/

omit [Network ν] in
theorem Tracked.snoc (hs : Tracked s) {e : WireEvent} (he : Licit s.wires e)
    (hwires : t.wires = s.wires ++ [e]) (hpeer : t.peer = peerStep s.peer e)
    (hdata : t.data.map (·.remote) = dataStep (s.data.map (·.remote)) e) : Tracked t := by
  rw [Tracked, hwires, hpeer, hdata]
  exact Tracks.snoc hs he

omit [Network ν] in
theorem Tracked.same (hs : Tracked s) (hwires : t.wires = s.wires) (hpeer : t.peer = s.peer)
    (hdata : t.data.map (·.remote) = s.data.map (·.remote)) : Tracked t := by
  rw [Tracked, hwires, hpeer, hdata]
  exact hs

omit [Network ν] in
theorem Tracked.isOpen (hs : Tracked s) (hopen : s.data.isSome) :
    (dataAfter s.wires).isSome := by
  rw [hs.data, Option.isSome_map]
  exact hopen

omit [Network ν] in
theorem Tracked.closed (hs : Tracked s) (hpeer : t.peer = s.peer) (hnone : t.data = none)
    (hwires : t.wires = s.wires ++ if s.data.isSome then [.dataClosed] else []) :
    Tracked t := by
  by_cases hopen : s.data.isSome
  · rw [if_pos hopen] at hwires
    exact hs.snoc (e := .dataClosed) (hs.isOpen hopen) hwires hpeer (by rw [hnone]; rfl)
  · rw [if_neg hopen, List.append_nil] at hwires
    have hsNone : s.data = none := by simpa using hopen
    exact hs.same hwires hpeer (by rw [hnone, hsNone])

theorem closeData_tracked (hs : Tracked s) :
    s.closeData.Ends (fun _ t => Tracked t ∧ t.data = none) (fun _ t => Tracked t) := by
  refine s.closeData_ends.mono ?_ ?_
  · intro _ t hends
    obtain ⟨ht, -, hnone, hwires⟩ := hends
    exact ⟨hs.closed ht.peer hnone hwires, hnone⟩
  · intro e t hends
    obtain ⟨ht, -, hnone, -, hwires⟩ := hends
    exact hs.closed ht.peer hnone hwires

theorem Tracked.carries (hs : Tracked s) (hopen : s.data.isSome) (h : Carries s t) :
    Tracked t ∧ t.data.isSome := by
  have hisSome {u : Session ν} (hu : Carries s u) : u.data.isSome := by
    rw [← Option.isSome_map (f := DataLink.remote), hu.remote, Option.isSome_map]
    exact hopen
  refine ⟨?_, hisSome h⟩
  induction h with
  | refl => exact hs
  | log level component text ht ih => exact ih.same (by simp) rfl rfl
  | tell ht hd ih => exact ih.same (notify_wires _ _) rfl rfl
  | read arrivals ht hd ih => exact ih.same rfl rfl (by rw [hd]; rfl)
  | write bytes ht ih => exact ih.same (settle_wires _ _) (settle_peer _ _) rfl
  | wrote bytes ht ih =>
      exact ih.snoc (e := .dataSent bytes) (ih.isOpen (hisSome ht)) (by simp) rfl rfl
  | store files ht ih => exact ih.same rfl rfl rfl

omit [Network ν] in
theorem receiveReply_tracked (hs : Tracked s) (hnone : s.data = none) :
    s.receiveReply.Ends (fun _ t => Tracked t) (fun _ t => Tracked t) := by
  refine s.receiveReply_ends.mono ?_ ?_
  · intro reply t hends
    obtain ⟨ht, -, hwires⟩ := hends
    refine hs.snoc (e := .received reply) ?_ hwires ht.peer (by rw [ht.data]; rfl)
    refine licit_of_quiet trivial ?_
    rw [hs.data, hnone]
    rfl
  · intro e t hends
    obtain ⟨ht, -, hwires⟩ := hends
    exact hs.same hwires ht.peer (by rw [ht.data])

theorem enterPassive_tracked (hs : Tracked s) (hnone : s.data = none) :
    s.enterPassive.Ends
      (fun entered t => Tracked t ∧ (entered = .accepted () → t.data.isSome ∧
        ∃ before target, t.wires = before ++ [.dataConnected target]))
      (fun _ t => Tracked t) := by
  have hepsv : Command.transfers Command.epsv.octets = false := Command.transfers_octets _
  have hquiet := command_quietly hepsv s
  refine ((s.command_ends .epsv).and hquiet).andThen ?_ ?_
  · intro reply t hends
    obtain ⟨⟨ht, -, hwires⟩, htQuiet⟩ := hends
    have htTracked : Tracked t := htQuiet.tracked hnone hs
    have htNone : t.data = none := ht.data.trans hnone
    by_cases hnegative : reply.isNegative
    · rw [if_pos hnegative]
      exact ⟨htTracked, fun h => nomatch h⟩
    · rw [if_neg hnegative]
      split
      · exact htTracked
      · exact htTracked
      · rename_i port address hport haddress
        have hlicit : Licit t.wires (.dataConnected ⟨address, port⟩) := by
          refine ⟨?_, ?_, s.wires, reply, hwires, ?_, hport⟩
          · rw [htTracked.data, htNone]
            rfl
          · rw [htTracked.peer, peer, Option.isSome_map]
            exact (peerAddress_ok haddress).1
          · simpa [Reply.isNegative] using hnegative
        refine Outcome.Ends.map ((openData_ends ⟨address, port⟩ htNone).mono ?_ ?_)
        · intro _ u hends
          obtain ⟨hu, -, huWires, source, huData, -⟩ := hends
          refine ⟨htTracked.snoc hlicit huWires hu.peer (by rw [huData]; rfl), fun _ => ?_⟩
          exact ⟨by rw [huData]; rfl, t.wires, _, huWires⟩
        · intro e u hends
          rcases hends with ⟨hu, -, -, huNone, huWires | huWires⟩
          · exact htTracked.same huWires hu.peer (by rw [huNone, htNone])
          · have hopened := Tracks.snoc htTracked hlicit
            have hopen : Licit (t.wires ++ [.dataConnected ⟨address, port⟩]) .dataClosed := by
              show (dataAfter _).isSome
              rw [hopened.data]
              rfl
            have hclosed := hopened.snoc hopen
            rw [List.append_assoc] at hclosed
            rw [Tracked, huWires, hu.peer, huNone]
            exact hclosed
  · intro e t hends
    obtain ⟨-, htQuiet⟩ := hends
    exact htQuiet.tracked hnone hs

/-- The command that asks for a payload is written on an open data connection, and its
first reply is read on it; the payload follows, and the last reply comes after the end. -/
theorem exchange_tracked {α : Type} {payload : Session ν → Outcome ν α} {c : Command}
    (hc : Command.transfers c.octets) (hp : IsPayload payload) (hs : Tracked s)
    (hopen : s.data.isSome) {before : List WireEvent} {target : Endpoint}
    (hwires : s.wires = before ++ [.dataConnected target]) :
    (s.exchange c payload).Ends (fun _ t => Tracked t) (fun _ t => Tracked t) := by
  have hsent : Tracks (s.wires ++ [.sent c.octets]) s.peer (s.data.map (·.remote)) :=
    Tracks.snoc hs fun _ => hs.isOpen hopen
  have hanswered (reply : Reply) : Tracks (s.wires ++ [.sent c.octets, .received reply]) s.peer
      (s.data.map (·.remote)) := by
    have hlicit : Licit (s.wires ++ [.sent c.octets]) (.received reply) := by
      intro _
      exact ⟨before, target, c.octets, by rw [hwires, List.append_assoc]; rfl, hc⟩
    have h := hsent.snoc hlicit
    rwa [List.append_assoc] at h
  refine (s.command_ends c).andThen ?_ ?_
  · intro first t hends
    obtain ⟨ht, -, htWires⟩ := hends
    have htTracked : Tracked t := by
      rw [Tracked, htWires, ht.peer, ht.data]
      exact hanswered first
    by_cases hnegative : first.isNegative
    · rw [if_pos hnegative]
      exact htTracked
    · rw [if_neg hnegative]
      have htOpen : t.data.isSome := by
        rw [ht.data]
        exact hopen
      refine (hp t).andThen ?_ fun e u hu => (htTracked.carries htOpen hu.1).1
      intro value u hu
      refine (closeData_tracked (htTracked.carries htOpen hu).1).andThen ?_ fun e v hv => hv
      intro _ v hends
      obtain ⟨hv, hvNone⟩ := hends
      refine Outcome.Ends.map ?_
      by_cases hpreliminary : first.isPreliminary
      · rw [if_pos hpreliminary]
        exact receiveReply_tracked hv hvNone
      · rw [if_neg hpreliminary]
        exact hv
  · intro e t hends
    rcases hends with ⟨ht, -, ⟨es, hes, htWires⟩ | htWires⟩
    · cases hes with
      | unheld _ =>
          exact hs.same (htWires.trans (List.append_nil _)) ht.peer (by rw [ht.data])
      | part count _ =>
          have hpart := Tracks.snoc (e := .sentPart c.octets count) hs fun _ => hs.isOpen hopen
          rw [Tracked, htWires, ht.peer, ht.data]
          exact hpart
    · rw [Tracked, htWires, ht.peer, ht.data]
      exact hsent

theorem releaseData_tracked (hs : Tracked s) : Tracked s.releaseData := by
  obtain ⟨ht, -, hnone, hwires⟩ := s.releaseData_spec
  exact hs.closed ht.peer hnone hwires

theorem transfer_tracked {α : Type} {payload : Session ν → Outcome ν α} {c : Command}
    (hc : Command.transfers c.octets) (hp : IsPayload payload) (hs : Tracked s)
    (hnone : s.data = none) : Tracked (s.transfer c payload).session := by
  refine Outcome.ends_session.1 ((enterPassive_tracked hs hnone).andThen ?_ fun e t ht => ht)
  intro entered t hends
  obtain ⟨ht, hentered⟩ := hends
  cases entered with
  | refused reply => exact ht
  | accepted _ =>
      obtain ⟨hopen, before, target, hwires⟩ := hentered rfl
      have hex := Outcome.ends_session.1 (exchange_tracked hc hp ht hopen hwires)
      exact Outcome.ends_session.2 (releaseData_tracked hex)

/-! ## Every operation -/

/-- Tracked, and without a data connection, as between two operations. -/
def AtRest (s : Session ν) : Prop :=
  Tracked s ∧ s.data = none

omit [Network ν] in
theorem AtRest.quietly (hs : AtRest s) (h : Quietly s t) : AtRest t :=
  ⟨h.tracked hs.2 hs.1, h.data.trans hs.2⟩

omit [Network ν] in
theorem AtRest.setFiles (hs : AtRest s) (files : FileTree) : AtRest { s with files } :=
  ⟨hs.1.same rfl rfl rfl, hs.2⟩

theorem transfer_atRest {α : Type} {payload : Session ν → Outcome ν α} {c : Command}
    (hc : Command.transfers c.octets) (hp : IsPayload payload) (hs : AtRest s) :
    AtRest (s.transfer c payload).session := by
  refine ⟨transfer_tracked hc hp hs.1 hs.2, ?_⟩
  refine Outcome.ends_session (p := fun t => t.data = none) |>.1
    ((transfer_ends c hp hs.2).mono ?_ ?_)
  · intro answer t hends
    obtain ⟨-, hnone⟩ := hends
    exact hnone
  · intro e t hends
    obtain ⟨-, hnone, -⟩ := hends
    exact hnone

def atRestFrame : Frame ν where
  allows _ := True
  after _ t := AtRest t
  final _ t := AtRest t
  log _ _ _ h := h.quietly (.log _ _ _ _)
  files files h := h.setFiles files
  blame _ _ h := h
  forget h := h
  command {c t} _ hc h := by
    refine (command_quietly hc t).mono ?_ ?_
    · intro reply u hu
      exact h.quietly hu
    · intro e u hu
      exact h.quietly hu
  transfer _ _ htransfers hp h := Outcome.ends_session.2 (transfer_atRest htransfers hp h)
  report {e t} h := h.quietly (report_quietly e t)

theorem run_atRest (hs : AtRest s) (c : Call) : AtRest (s.run c).2 := by
  cases hc : c.movesPayload with
  | false => exact hs.quietly (run_quietly s hc)
  | true =>
      have hordinary : c.isOrdinary := by cases c <;> first | rfl | cases hc
      have h := atRestFrame.run hordinary (fun _ _ => trivial) hs
      unfold Frame.Leaves at h
      split at h <;> exact h

theorem move_atRest (hs : AtRest s) (m : Move ν) : AtRest (s.move m) := by
  cases m with
  | call c => exact run_atRest hs c
  | subscribe id => exact ⟨hs.1.same (by simp [move, subscribe, logObservers]; rfl) rfl rfl, hs.2⟩
  | unsubscribe id =>
      exact ⟨hs.1.same (by simp [move, unsubscribe, logObservers]; rfl) rfl rfl, hs.2⟩
  | elapse around => exact ⟨hs.1.same rfl (settle_peer _ s) rfl, hs.2⟩

theorem moves_atRest (options : Options) (observers : Observers) (files : FileTree)
    (network : ν) (ms : List (Move ν)) :
    AtRest ((start options observers files network).moves ms) :=
  moves_preserve (p := AtRest) (fun _ m h _ => move_atRest h m) ⟨Tracks.nil, rfl⟩
    (along_of_forall (fun _ _ => trivial) _ ms)

/-! ## Where data connections lead -/

/-- The address at the far end of the control connection, as the system tells it once `EPSV`
is written.  The answer to that does not enter. -/
def farEnd (network : ν) : Except SystemError String :=
  Network.peerAddress (Network.send Command.epsv.octets network).network

/-- From `s` to `t` data connections are opened only to the address `far`. -/
def LeadsTo (far : Except SystemError String) (s t : Session ν) : Prop :=
  ∃ es, t.wires = s.wires ++ es ∧
    ∀ target, .dataConnected target ∈ es → far = .ok target.address

namespace LeadsTo

variable {far : Except SystemError String}

omit [Network ν] in
theorem trans (h : LeadsTo far s t) (h' : LeadsTo far t u) : LeadsTo far s u := by
  obtain ⟨es, hwires, hfar⟩ := h
  obtain ⟨es', hwires', hfar'⟩ := h'
  refine ⟨es ++ es', by rw [hwires', hwires, List.append_assoc], fun target hmem => ?_⟩
  rcases List.mem_append.1 hmem with hmem | hmem
  · exact hfar target hmem
  · exact hfar' target hmem

omit [Network ν] in
theorem of_wires (h : t.wires = s.wires) : LeadsTo far s t :=
  ⟨[], by rw [h, List.append_nil], fun _ hmem => nomatch hmem⟩

omit [Network ν] in
theorem of_exchange (h : Follows IsExchange s t) : LeadsTo far s t := by
  obtain ⟨entries, hjournal, hexchange⟩ := h.journal
  refine ⟨wireEvents entries, by rw [wires, wires, hjournal, wireEvents_append], ?_⟩
  intro target hmem
  exact (hexchange _ (mem_wireEvents.1 hmem)).elim

omit [Network ν] in
theorem of_quiet (h : Quietly s t) : LeadsTo far s t := by
  obtain ⟨es, hwires, hquiet, -⟩ := h.events
  exact ⟨es, hwires, fun target hmem => (hquiet _ hmem).elim⟩

theorem guarded {α : Type} {o : Outcome ν α} (h : LeadsTo far s o.session) :
    LeadsTo far s (guarded o).session := by
  obtain ⟨value, t⟩ := o
  cases value with
  | ok a => exact h
  | error e => exact h.trans (.of_quiet (report_quietly e t))

end LeadsTo

/-- Reading a reply does not move the network. -/
theorem command_network (c : Command) (s : Session ν) :
    (s.command c).Ends (fun _ t => t.network = (Network.send c.octets s.network).network)
      (fun _ _ => True) := by
  have hread (t : Session ν) : t.receiveReply.session.network = t.network := by
    unfold receiveReply receive
    cases t.control with
    | none => rfl
    | some c =>
        dsimp only
        cases c.inbound.readReply.outcome <;> rfl
  unfold command perform send
  generalize hl : s.log .trace .client ("CC OUT: " ++ c.loggedLine) = s₁
  have hnetwork : s₁.network = s.network := by
    rw [← hl]
    rfl
  cases s₁.control with
  | none => exact trivial
  | some link =>
      dsimp only
      rw [← Command.octets]
      unfold write
      cases s₁.untold? with
      | some cause => exact trivial
      | none =>
          dsimp only
          rw [hnetwork]
          cases (Network.send c.octets s.network).result with
          | part count cause => exact trivial
          | whole =>
              have hsession := hread ((s₁.settle (Network.send c.octets s.network)).wire
                (.sent c.octets))
              dsimp only [Outcome.andThen_ok]
              generalize receiveReply _ = o at hsession ⊢
              obtain ⟨value, t⟩ := o
              cases value with
              | ok reply => exact hsession
              | error e => exact trivial

/-- The answer to `EPSV` gives the port alone. -/
theorem enterPassive_leads (hs : s.data = none) :
    LeadsTo (farEnd s.network) s s.enterPassive.session := by
  refine Outcome.ends_session.1 (((s.command_ends .epsv).and
    (command_network .epsv s)).andThen ?_ fun e t hends => .of_exchange hends.1.1.exchanges)
  intro reply t hends
  obtain ⟨⟨ht, -, -⟩, hnetwork⟩ := hends
  have hasked : LeadsTo (farEnd s.network) s t := .of_exchange ht.exchanges
  by_cases hnegative : reply.isNegative
  · rw [if_pos hnegative]
    exact hasked
  · rw [if_neg hnegative]
    split
    · exact hasked
    · exact hasked
    · rename_i port address _ haddress
      have hfar : farEnd s.network = .ok address := by
        rw [farEnd, ← hnetwork]
        exact (peerAddress_ok haddress).2
      refine Outcome.Ends.map ((openData_ends ⟨address, port⟩ (ht.data.trans hs)).mono ?_ ?_)
      · intro _ u hends
        refine hasked.trans ⟨_, hends.2.2.1, fun target hmem => ?_⟩
        obtain rfl := WireEvent.dataConnected.inj (List.mem_singleton.1 hmem)
        exact hfar
      · intro e u hends
        obtain ⟨-, -, -, -, hwires | hwires⟩ := hends
        · exact hasked.trans (.of_wires hwires)
        · refine hasked.trans ⟨_, hwires, fun target hmem => ?_⟩
          obtain rfl : target = ⟨address, port⟩ := by simpa using hmem
          exact hfar

theorem transfer_leads {α : Type} {payload : Session ν → Outcome ν α} (c : Command)
    (hp : IsPayload payload) (hs : s.data = none) :
    LeadsTo (farEnd s.network) s (s.transfer c payload).session := by
  have hentered := enterPassive_leads hs
  unfold transfer
  generalize s.enterPassive = o at hentered ⊢
  obtain ⟨value, t⟩ := o
  cases value with
  | error e => exact hentered
  | ok entered =>
      cases entered with
      | refused reply => exact hentered
      | accepted _ =>
          have hmoved : Follows IsExchange t (t.exchange c payload).session :=
            Outcome.ends_session.1 ((exchange_ends c hp t).mono (fun _ _ h => h) fun _ _ h => h.1)
          have hreleased := (t.exchange c payload).session.releaseData_spec.1
          exact hentered.trans (.of_exchange (hmoved.trans hreleased))

omit [Network ν] in
theorem finishDownload_wires (path : String) (place : Place) (existed : Bool)
    (o : Outcome ν (Answer Nat)) :
    (finishDownload path place existed o).session.wires = o.session.wires := by
  unfold finishDownload
  dsimp only
  split
  · split <;> rfl
  · split
    · rfl
    · exact (record_wires _ _).trans (List.append_nil _)

/-- An operation connects only to the far end of the control connection. -/
theorem run_leads (hs : s.data = none) (c : Call) : LeadsTo (farEnd s.network) s (s.run c).2 := by
  have hlogged (text : String) :
      LeadsTo (farEnd s.network) s (s.log .debug .client text) :=
    .of_quiet (.log _ _ _ _)
  cases c with
  | list path =>
      have hmoved := transfer_leads (.list path) receiveListing_isPayload
        (s := s.log .debug .client ("Listing " ++ path.getD "working directory")) hs
      exact ((hlogged _).trans hmoved).guarded
  | upload path remote =>
      have hstart := hlogged ("Uploading " ++ path ++ " to " ++ remote)
      refine LeadsTo.guarded (hstart.trans ?_)
      generalize hl : s.log .debug .client ("Uploading " ++ path ++ " to " ++ remote) = s₁
      have hdata : s₁.data = none := by rw [← hl]; exact hs
      have hnetwork : s.network = s₁.network := by rw [← hl]; rfl
      cases s₁.files.openForReading path with
      | error cause => exact .of_wires rfl
      | ok source =>
          rw [hnetwork]
          exact transfer_leads (.stor remote) (sendFile_isPayload source) hdata
  | download remote path =>
      have hstart := hlogged ("Downloading " ++ remote ++ " to " ++ path)
      refine LeadsTo.guarded (hstart.trans ?_)
      dsimp only
      generalize hl : s.log .debug .client ("Downloading " ++ remote ++ " to " ++ path) = s₁
      have hdata : s₁.data = none := by rw [← hl]; exact hs
      have hnetwork : s.network = s₁.network := by rw [← hl]; rfl
      cases s₁.files.openForWriting path s₁.options.overwrite with
      | error cause => exact .of_wires rfl
      | ok opened =>
          have hmoved := transfer_leads (.retr remote) (receiveInto_isPayload opened.1)
            (s := { s₁ with files := opened.2 }) hdata
          obtain ⟨es, hwires, hfar⟩ := hmoved
          rw [hnetwork]
          exact ⟨es, (finishDownload_wires _ _ _ _).trans hwires, hfar⟩
  | _ => exact .of_quiet (run_quietly s rfl)

/-- In every run, everything that happens on the two connections during the next operation
is licit when it happens; only an operation that moves a payload opens a data connection, and
only to the far end of the control connection, as the system tells it once `EPSV` is written;
and none is open once the operation has returned. -/
theorem run_lawful (options : Options) (observers : Observers) (files : FileTree)
    (network : ν) (ms : List (Move ν)) (c : Call) :
    let s := (start options observers files network).moves ms
    (∀ before e rest, (s.run c).2.wires = before ++ e :: rest → Licit before e) ∧
    (∀ target, .dataConnected target ∈ s.events c → c.movesPayload ∧
      Network.peerAddress (Network.send Command.epsv.octets s.network).network =
        .ok target.address) ∧
    (s.run c).2.data = none ∧ dataAfter (s.run c).2.wires = none := by
  intro s
  have hs : AtRest s := moves_atRest options observers files network ms
  have hafter : AtRest (s.run c).2 := run_atRest hs c
  refine ⟨hafter.1.lawful, fun target hmem => ⟨?_, ?_⟩, hafter.2, ?_⟩
  · cases hc : c.movesPayload with
    | true => rfl
    | false =>
        obtain ⟨es, hwires, hquiet, -⟩ := (run_quietly s hc).events
        rw [events_eq hs.2 hwires] at hmem
        exact (hquiet _ hmem).elim
  · obtain ⟨es, hwires, hfar⟩ := run_leads hs.2 c
    rw [events_eq hs.2 hwires] at hmem
    exact hfar target hmem
  · rw [hafter.1.data, hafter.2]
    rfl

end Session
end FtpClient
