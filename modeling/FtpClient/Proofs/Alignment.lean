import FtpClient.Proofs.Dialogue

/-
Commands and replies stay aligned.  Against a server that keeps to the protocol, every
operation that keeps the control connection reads exactly what was given for it, so the next
one starts with nothing left to be read.
-/

namespace FtpClient
namespace Session

variable {ν : Type} [Network ν] {L : Ledger ν} {s₀ t : Session ν} {reply? : Option Reply} {n : Nat}

/-! ## Transfers -/

/-- A data connection that was established since `s₀` and from which nothing was read. -/
def Delivers (s₀ t : Session ν) : Prop :=
  ∀ d, t.data = some d → IsListing ν (since s₀ t) (Utf8.decode d.source.bytes)

theorem Delivers.mono {u : Session ν} (h : Delivers s₀ t) (h₀ : s₀.journal <+: t.journal)
    (hgrows : t.journal <+: u.journal) (hdata : u.data = t.data) : Delivers s₀ u := by
  intro d hd
  rw [hdata] at hd
  exact (h d hd).mono (since_mono h₀ hgrows)

theorem openData_aligned (target : Endpoint) (h : Linked L s₀ n reply? t) :
    (t.openData target).Ends
      (fun _ u => Linked L s₀ n reply? u ∧ Delivers s₀ u)
      (fun e u => Told L s₀ none u ∧ e.breaksSession) := by
  have hships := L.connectData target t.network
  unfold openData
  dsimp only
  have hlogged := h.log .debug .data ("Opening data connection to " ++ target.toString)
  generalize hl : t.log .debug .data ("Opening data connection to " ++ target.toString) = t₁
  have ht₁ : Linked L s₀ n reply? t₁ := by
    rw [← hl]
    exact hlogged
  have hnetwork : t₁.network = t.network := by rw [← hl]; rfl
  rw [← hnetwork] at hships
  generalize hr : Network.connectData target t₁.network = r at hships ⊢
  have hsettled := ht₁.ships hships
  cases hlimits : r.result.underLimits (t₁.settle r).options with
  | error cause =>
      by_cases he : r.result.isEstablished
      · rw [if_pos he]
        have hconnected := hsettled.wire (e := .dataConnected target)
          (fun h => h) fun _ h => nomatch h
        have hhungUp := hconnected.ships (L.hangUpData _)
        have hclosed := hhungUp.wire (e := .dataClosed) (fun h => h) fun _ h => nomatch h
        exact ⟨hclosed.forget.told, rfl⟩
      · rw [if_neg he]
        exact ⟨hsettled.forget.told, rfl⟩
  | ok source =>
      have hcleared : Linked L s₀ n reply?
          (if (t₁.settle r).data.isSome then (t₁.settle r).wire .dataClosed else t₁.settle r) := by
        by_cases hopen : (t₁.settle r).data.isSome
        · rw [if_pos hopen]
          exact hsettled.wire (fun h => h) fun _ h => nomatch h
        · rw [if_neg hopen]
          exact hsettled
      dsimp only
      generalize (if (t₁.settle r).data.isSome then (t₁.settle r).wire .dataClosed
        else t₁.settle r) = t₂ at hcleared ⊢
      have hset := hcleared.setData (some ⟨target, source⟩)
      have hconnected := hset.wire (e := .dataConnected target)
        (fun h => h) fun _ h => nomatch h
      refine ⟨hconnected.log _ _ _, fun d hd => ?_⟩
      obtain rfl : DataLink.mk target source = d := Option.some.inj hd
      have hmem : .wire (.dataConnected target) ∈ since s₀
          (({ t₂ with data := some ⟨target, source⟩ } : Session ν).wire
            (.dataConnected target)) := by
        rw [wire_eq_record, since_record hset.grows]
        exact List.mem_append_right _ List.mem_cons_self
      refine IsListing.mono ?_ (since_mono hconnected.grows ⟨_, (journal_record _ _).symm⟩)
      rw [← hr] at hlimits
      exact ⟨target, _, source, hmem, Attempt.underLimits_eq_ok hlimits, rfl⟩

theorem dropData_aligned (h : Linked L s₀ n reply? t) : Linked L s₀ n reply? t.dropData.2 := by
  have hsettled := (h.ships (L.hangUpData t.network)).setData none
  exact hsettled.wire (e := .dataClosed) (fun h => h) fun _ h => nomatch h

theorem closeData_aligned (h : Linked L s₀ n reply? t) :
    t.closeData.Ends (fun _ u => Linked L s₀ n reply? u)
      (fun e u => Told L s₀ none u ∧ e.breaksSession) := by
  unfold closeData
  cases t.data with
  | none => exact h
  | some d =>
      have hdropped := dropData_aligned (h.log .trace .data
        ("Closing data connection to " ++ d.remote.toString))
      dsimp only
      split
      · rename_i hdrop
        rw [hdrop] at hdropped
        exact hdropped
      · rename_i cause u hdrop
        rw [hdrop] at hdropped
        by_cases hgone : cause = .notConnected
        · rw [if_pos hgone]
          exact hdropped
        · rw [if_neg hgone]
          exact ⟨hdropped.forget.told, rfl⟩

theorem releaseData_told (h : Told L s₀ reply? t) : Told L s₀ reply? t.releaseData := by
  unfold releaseData
  cases t.data with
  | none => exact h
  | some d =>
      have hsettled :
          Told L s₀ reply? { t.settle (Network.hangUpData t.network) with data := none } :=
        h.network rfl (L.hangUpData t.network).given
      exact hsettled.mute (mute_wire (e := .dataClosed) fun _ h => nomatch h)

theorem releaseData_aligned (h : Linked L s₀ n reply? t) :
    Linked L s₀ n reply? t.releaseData := by
  unfold releaseData
  cases t.data with
  | none => exact h
  | some d => exact dropData_aligned h

theorem carries_aligned (h : Linked L s₀ n reply? t) (hdelivers : Delivers s₀ t) {u : Session ν}
    (hu : Carries t u) : Linked L s₀ n reply? u := by
  induction hu with
  | refl => exact h
  | log level component text _ ih => exact ih.log level component text
  | tell hu hd ih =>
      obtain ⟨c, pending, late, hlink⟩ := ih.link
      obtain ⟨entries, hentries, -⟩ := hu.follows.journal
      have hlisting := (hdelivers _ hd).mono (since_mono h.grows ⟨entries, hentries.symm⟩)
      exact ⟨ih.toReports.notify _ (Or.inr hlisting), c, pending, late,
        hlink.notify ih.grows _⟩
  | read arrivals _ _ ih => exact ih.setData _
  | write bytes _ ih => exact ih.ships (L.sendData bytes _)
  | wrote bytes _ ih =>
      exact ih.wire (e := .dataSent bytes) (fun h => h) fun _ h => nomatch h
  | store files _ ih => exact ih.setFiles files

theorem enterPassive_aligned (h : Linked L s₀ 0 reply? t) :
    t.enterPassive.Ends
      (fun entered u => Linked L s₀ 0 entered.refusal? u ∧
        (entered = .accepted () → Delivers s₀ u))
      (fun e u => Told L s₀ none u ∧ e.breaksSession) := by
  have hepsv : Command.epsv.IsLine := fun _ h => nomatch h
  refine (command_aligned hepsv h).andThen ?_ fun _ _ h => h
  intro reply u hu
  have hfurther : further Command.epsv.octets reply = 0 := by
    have hquiet : Command.transfers Command.epsv.octets = false := Command.transfers_octets _
    simp [further, hquiet]
  rw [hfurther] at hu
  by_cases hnegative : reply.isNegative
  · rw [if_pos hnegative]
    exact ⟨hu, fun h => nomatch h⟩
  · rw [if_neg hnegative]
    split
    · rename_i e _ hport
      exact ⟨hu.forget.told, Reply.dataPort_error hport⟩
    · rename_i e _ haddress
      exact ⟨hu.forget.told, peerAddress_error haddress⟩
    · refine Outcome.Ends.map ((openData_aligned _ hu.forget).mono ?_ fun _ _ h => h)
      intro _ v hv
      exact ⟨hv.1, fun _ => hv.2⟩

theorem Linked.ofReply {α : Type} {last : Reply} (h : Linked L s₀ n (some last) t)
    (f : Reply → α) : Linked L s₀ n ((Answer.ofReply last).map f).refusal? t := by
  unfold Answer.ofReply
  by_cases hnegative : last.isNegative
  · rw [if_pos hnegative]
    exact h
  · rw [if_neg hnegative]
    exact h.forget

theorem exchange_aligned {α : Type} {payload : Session ν → Outcome ν α} {c : Command}
    (hc : c.IsLine) (htransfers : Command.transfers c.octets) (hp : IsPayload payload)
    (h : Linked L s₀ 0 reply? t) (hdelivers : Delivers s₀ t) :
    (t.exchange c payload).Ends (fun answer u => Linked L s₀ 0 answer.refusal? u)
      (fun e u => Told L s₀ none u ∧ e.breaksSession) := by
  refine ((command_aligned hc h).and (t.command_ends c)).andThen ?_ fun _ _ h => h.1
  intro first u hends
  obtain ⟨hu, htalks, -⟩ := hends
  have hdeliversU : Delivers s₀ u :=
    hdelivers.mono h.grows htalks.keeps.journal htalks.data
  by_cases hnegative : first.isNegative
  · rw [if_pos hnegative]
    have hfurther : further c.octets first = 0 := by
      have hcode : ¬ first.code < 200 := by
        have : 400 ≤ first.code := by simpa [Reply.isNegative] using hnegative
        omega
      simp [further, hcode]
    rw [hfurther] at hu
    exact hu
  · rw [if_neg hnegative]
    refine (hp u).andThen ?_ ?_
    · intro value v hv
      have hv := carries_aligned hu hdeliversU hv
      refine (closeData_aligned hv).andThen ?_ fun _ _ h => h
      intro _ w hw
      refine Outcome.Ends.map ?_
      -- One more reply is read exactly where one more is outstanding.
      by_cases hpreliminary : first.isPreliminary
      · rw [if_pos hpreliminary]
        have hfurther : further c.octets first = 1 := by
          have hcode : first.code < 200 := by simpa [Reply.isPreliminary] using hpreliminary
          simp [further, htransfers, hcode]
        rw [hfurther] at hw
        refine (receiveReply_last hw).mono ?_ fun _ _ h => h
        intro last x hx
        exact hx.ofReply _
      · rw [if_neg hpreliminary]
        have hfurther : further c.octets first = 0 := by
          have hcode : ¬ first.code < 200 := by simpa [Reply.isPreliminary] using hpreliminary
          simp [further, hcode]
        rw [hfurther] at hw
        exact hw.ofReply _
    · intro e v hends
      obtain ⟨hv, he⟩ := hends
      exact ⟨(carries_aligned hu hdeliversU hv).forget.told, he⟩

theorem transfer_aligned {α : Type} {payload : Session ν → Outcome ν α} {c : Command}
    (hc : c.IsLine) (htransfers : Command.transfers c.octets) (hp : IsPayload payload)
    (h : Linked L s₀ 0 reply? t) :
    (t.transfer c payload).Ends (fun answer u => Linked L s₀ 0 answer.refusal? u)
      (fun e u => Told L s₀ none u ∧ e.breaksSession) := by
  refine (enterPassive_aligned h).andThen ?_ fun _ _ h => h
  intro entered u hentered
  obtain ⟨hu, hdelivers⟩ := hentered
  cases entered with
  | refused reply => exact hu
  | accepted _ =>
      have hexchanged := exchange_aligned hc htransfers hp hu (hdelivers rfl)
      dsimp only
      generalize u.exchange c payload = o at hexchanged ⊢
      obtain ⟨value, v⟩ := o
      cases value with
      | ok answer => exact releaseData_aligned hexchanged
      | error e => exact ⟨releaseData_told hexchanged.1, hexchanged.2⟩

/-! ## Giving the control connection up -/

theorem closeControl_told (h : Told L s₀ reply? t) : Told L s₀ reply? t.closeControl := by
  unfold closeControl
  cases t.control with
  | none => exact h
  | some c =>
      have hgone : Told L s₀ reply?
          { t.log .trace .control "Closing control connection" with
            control := none, network := Network.hangUp t.network } :=
        (h.log _ _ _).network rfl (L.hangUp t.network)
      exact hgone.mute (mute_wire (e := .disconnected) fun _ h => nomatch h)

theorem resetControl_told (h : Told L s₀ reply? t) : Told L s₀ reply? t.resetControl := by
  unfold resetControl
  cases t.control with
  | none => exact h
  | some c => exact closeControl_told (h.log _ _ _)

theorem report_told (h : Told L s₀ reply? t) (e : Failure) :
    Told L s₀ reply? (t.report e) := by
  have htold := (h.log .error .client e.message).mute (still_failure t.observers e.message).toMute
  unfold report
  dsimp only
  by_cases he : e.breaksSession
  · rw [if_pos he]
    exact resetControl_told htold
  · rw [if_neg he]
    exact htold

theorem report_linked (h : Linked L s₀ n reply? t) {e : Failure} (he : e.breaksSession = false) :
    Linked L s₀ n reply? (t.report e) := by
  have htold := (h.log .error .client e.message).still (still_failure t.observers e.message)
  unfold report
  rw [he]
  exact htold

/-! ## Opening -/

theorem greets {target : Endpoint} {network : ν} {first : Delivery} (h : Told L s₀ none t)
    (hattempt : Network.connect target t.network = (.established first, network)) {u : Session ν}
    (hnetwork : u.network = network)
    (hcontrol : u.control =
      some ⟨target, Inbound.ofSource ⟨[.chunk first.bytes], first.ending⟩⟩)
    (hjournal : u.journal = (t.wire (.connected target)).journal) : Linked L s₀ 1 none u := by
  have hconnected : Mute [.wire (.connected target)] := mute_wire (by simp)
  have hoccasion : occasion s₀ u = .greeting := by
    rw [occasion_congr hjournal, wire_eq_record, occasion_record h.grows]
    rfl
  have htalk : talk s₀ u = talk s₀ t := by
    rw [talk_congr hjournal]
    exact talk_mute h.grows hconnected
  have hunread : (Inbound.ofSource ⟨[.chunk first.bytes], first.ending⟩).unread =
      first.bytes := by
    simp [Inbound.unread, Inbound.ofSource, Source.bytes, Arrival.bytes]
  have hgreet := L.greet target t.network first
  rw [hattempt, ← hnetwork] at hgreet
  obtain ⟨raw, reply, hraw, hgreeted, heq, howed⟩ := hgreet rfl
  obtain ⟨more, hmore, horder⟩ := h.order
  refine ⟨(h.toReports.mute hconnected).congr hjournal, _, [⟨.greeting, reply⟩], _,
    hcontrol, ?_, fun _ => rfl, ?_, ?_, ?_, more ++ [⟨.greeting, reply⟩], ?_, ?_⟩
  · have hone := SpellsAll.cons (g := ⟨.greeting, reply⟩) hraw .nil
    rw [List.append_nil, heq, ← hunread] at hone
    exact hone
  · rw [howed]
    rfl
  · intro g hg
    obtain rfl := List.mem_singleton.1 hg
    exact ⟨hoccasion.symm, by simp⟩
  · intro line hline
    rw [howed] at hline
    cases hline
  · rw [hgreeted, hmore, List.append_assoc]
  · rw [htalk]
    exact horder.append (List.Sublist.refl _)

theorem dial_aligned (target : Endpoint) (h : Told L s₀ none t) :
    match t.dial target with
    | (.ok _, u) => Linked L s₀ 1 none u
    | (.error _, u) => Told L s₀ none u := by
  have hgiven := L.connect target t.network
  unfold dial
  cases hattempt : Network.connect target t.network with
  | mk attempt network =>
      rw [hattempt] at hgiven
      dsimp only at hgiven ⊢
      cases hlimits : attempt.underLimits t.options with
      | error cause =>
          dsimp only
          by_cases he : attempt.isEstablished
          · rw [if_pos he]
            have hhungUp : Told L s₀ none { t with network := Network.hangUp network } :=
              h.network rfl (hgiven.trans (L.hangUp network))
            have hconnected := hhungUp.mute (mute_wire (e := .connected target)
              fun _ h => nomatch h)
            exact hconnected.mute (mute_wire (e := .disconnected) fun _ h => nomatch h)
          · rw [if_neg he]
            exact h.network rfl hgiven
      | ok first =>
          obtain rfl := Attempt.underLimits_eq_ok hlimits
          exact greets h hattempt rfl rfl rfl

theorem dialAny_aligned (port : UInt16) (cause : SystemError) (addresses : List String)
    (h : Told L s₀ none t) :
    (dialAny port cause addresses t).Ends (fun _ u => Linked L s₀ 1 none u)
      (fun _ u => Told L s₀ none u) := by
  induction addresses generalizing t cause with
  | nil => exact h
  | cons address rest ih =>
      have hdial := dial_aligned ⟨address, port⟩
        (h.log .trace .control ("Trying " ++ Endpoint.toString ⟨address, port⟩))
      unfold dialAny
      dsimp only
      generalize (t.log .trace .control _).dial ⟨address, port⟩ = dialled at hdial ⊢
      obtain ⟨value, u⟩ := dialled
      cases value with
      | ok _ => exact hdial
      | error cause' => exact ih cause' (hdial.log _ _ _)

theorem openControl_aligned (host : String) (port : UInt16) (h : Told L s₀ none t) :
    (t.openControl host port).Ends (fun _ u => Linked L s₀ 1 none u)
      (fun _ u => Told L s₀ none u) := by
  have hclosed := (closeControl_told h).log .debug .control
    ("Connecting to " ++ host ++ ":" ++ PortNumber.toString port)
  unfold openControl
  dsimp only
  generalize t.closeControl.log .debug .control
    ("Connecting to " ++ host ++ ":" ++ PortNumber.toString port) = t₁ at hclosed ⊢
  cases Network.resolve t₁.network host with
  | error cause => exact hclosed
  | ok addresses =>
      refine (dialAny_aligned port .noAddress addresses hclosed).andThen ?_ fun _ _ h => h
      intro _ u hu
      exact hu.log _ _ _

theorem connect_aligned (host : String) (port : UInt16) (h : Told L s₀ none t) :
    (t.connect host port).Ends (fun answer u => Linked L s₀ 0 (some answer.reply) u)
      (fun _ u => Told L s₀ none u) := by
  have hstart := h.log .debug .client
    ("Opening session with " ++ host ++ ":" ++ PortNumber.toString port)
  refine guarded_of_ends ((openControl_aligned host port hstart).andThen ?_ fun _ _ h => h)
    fun e u hu => report_told hu e
  intro _ u hu
  have hgreeted := receiveReply_last (hu.log .debug .client "Reading server greeting...")
  refine Outcome.Ends.map (hgreeted.mono ?_ fun _ _ h => h.1)
  intro greeting v hv
  rw [Answer.reply_ofReply]
  exact hv

/-! ## Every operation -/

/-- A session before or after an operation: a control connection that is in order, or
none. -/
structure Ready (L : Ledger ν) (s₀ : Session ν) (reply? : Option Reply) (t : Session ν) :
    Prop extends Told L s₀ reply? t where
  linked : t.control.isSome → Linked L s₀ 0 reply? t

theorem Linked.ready (h : Linked L s₀ 0 reply? t) : Ready L s₀ reply? t :=
  ⟨h.told, fun _ => h⟩

theorem Told.ready (h : Told L s₀ reply? t) (hnone : t.control = none) :
    Ready L s₀ reply? t := by
  refine ⟨h, fun hheld => ?_⟩
  rw [hnone] at hheld
  cases hheld

theorem Ready.forget (h : Ready L s₀ reply? t) : Ready L s₀ none t :=
  ⟨h.toTold.forget, fun hheld => (h.linked hheld).forget⟩

theorem Ready.log (h : Ready L s₀ reply? t) (level : Level) (component : Component)
    (text : String) : Ready L s₀ reply? (t.log level component text) :=
  ⟨h.toTold.log _ _ _, fun hheld => (h.linked hheld).log _ _ _⟩

theorem Ready.setFiles (h : Ready L s₀ reply? t) (files : FileTree) :
    Ready L s₀ reply? { t with files } :=
  ⟨h.toTold.network rfl List.prefix_rfl, fun hheld => (h.linked hheld).setFiles files⟩

/-- Being told of a failure changes nothing of what was or will be read. -/
theorem Ready.informed (h : Ready L s₀ reply? t) : Ready L s₀ reply? t.informed := by
  refine ⟨h.toTold.network rfl List.prefix_rfl, fun hheld => ?_⟩
  have hlinked := h.linked (by simpa [Session.informed] using hheld)
  obtain ⟨c, pending, late, hlink⟩ := hlinked.link
  refine ⟨hlinked.toReports.congr rfl, { c with inbound := c.inbound.told }, pending, late,
    ?_, hlink.spelled, fun hquiet => ?_, hlink.count, hlink.asked, hlink.owed, hlink.order⟩
  · rw [Session.informed, hlink.control]
    rfl
  · exact hlink.late (Ending.told_eq_quiet.1 hquiet)

theorem report_ready {e : Failure} (h : Told L s₀ none t)
    (hother : e.breaksSession = false → Ready L s₀ none t) : Ready L s₀ none (t.report e) := by
  have htold := report_told h e
  cases he : e.breaksSession with
  | true => exact htold.ready (report_breaking he t).2.1
  | false =>
      refine ⟨htold, fun hheld => ?_⟩
      rw [(report_other he t).2.1] at hheld
      exact report_linked ((hother he).linked hheld) he

def alignFrame (L : Ledger ν) (s₀ : Session ν) : Frame ν where
  allows := Command.IsLine
  after
    | .ok reply?, t => Ready L s₀ reply? t
    | .error e, t => Told L s₀ none t ∧ (e.breaksSession = false → Ready L s₀ none t)
  final _ t := Ready L s₀ none t
  log {v t} level component text h := by
    cases v with
    | ok reply? => exact h.log _ _ _
    | error e => exact ⟨h.1.log _ _ _, fun he => (h.2 he).log _ _ _⟩
  files {v t} files h := by
    cases v with
    | ok reply? => exact h.setFiles files
    | error e =>
        exact ⟨h.1.network rfl List.prefix_rfl, fun he => (h.2 he).setFiles files⟩
  blame _ _ h := ⟨h.toTold.forget, fun _ => h.forget⟩
  forget h := h.forget
  command {c t} hc hquiet h := by
    cases hcontrol : t.control with
    | none =>
        rw [command_of_none hcontrol]
        exact ⟨h.toTold.log _ _ _, fun he => nomatch he⟩
    | some link =>
        have hlinked := h.linked (by rw [hcontrol]; rfl)
        refine (command_aligned hc hlinked).mono ?_ ?_
        · intro reply u hu
          have hfurther : further c.octets reply = 0 := by simp [further, hquiet]
          rw [hfurther] at hu
          exact hu.ready
        · intro e u hu
          exact ⟨hu.1, fun he => by rw [hu.2] at he; cases he⟩
  transfer {α c t payload} _ hc htransfers hp h := by
    cases hcontrol : t.control with
    | none =>
        unfold transfer enterPassive
        rw [command_of_none hcontrol]
        exact ⟨h.toTold.log _ _ _, fun he => nomatch he⟩
    | some link =>
        have hlinked := h.linked (by rw [hcontrol]; rfl)
        refine (transfer_aligned hc htransfers hp hlinked).mono ?_ ?_
        · intro answer u hu
          exact hu.ready
        · intro e u hu
          exact ⟨hu.1, fun he => by rw [hu.2] at he; cases he⟩
  report h := report_ready h.1 h.2

theorem isOpen_ready (h : Ready L s₀ none t) : Ready L s₀ none t.isOpen.2 := by
  have hprobe : t.probe.Ends (fun _ u => Ready L s₀ none u)
      (fun e u => Told L s₀ none u ∧ (e.breaksSession = false → Ready L s₀ none u)) := by
    refine t.probe_same.mono ?_ ?_
    · intro isThere u hends
      rcases hends with rfl | ⟨-, -, rfl | rfl⟩
      · exact h
      · exact h.log _ _ _
      · exact h.informed
    · intro e u hends
      obtain ⟨rfl, -⟩ := hends
      exact ⟨h.informed.toTold, fun _ => h.informed⟩
  have hguarded := guarded_of_ends hprobe fun e u hu => report_ready hu.1 hu.2
  unfold isOpen
  generalize guarded t.probe = o at hguarded ⊢
  obtain ⟨value, u⟩ := o
  cases value with
  | ok isThere => exact hguarded
  | error e => exact hguarded

theorem quit_ready (h : Ready L s₀ none t) :
    (alignFrame L s₀).Leaves (t.run .quit).1 (t.run .quit).2 := by
  have hquiet : Command.transfers Command.quit.octets = false := Command.transfers_octets _
  have hsaid := (alignFrame L s₀).simple (c := .quit) (fun _ h => nomatch h) hquiet
    "Quitting session" h
  refine (alignFrame L s₀).leaves_replied ?_
  unfold quit
  dsimp only
  generalize (t.log .debug .client "Quitting session").simple .quit = o at hsaid ⊢
  obtain ⟨value, u⟩ := o
  have hnone := u.closeControl_spec.2.1
  cases value with
  | ok answer => exact (closeControl_told hsaid.toTold).ready hnone
  | error e => exact (closeControl_told hsaid.toTold).ready hnone

theorem run_ready {c : Call} (hc : ∀ command ∈ c.commands, command.IsLine)
    (h : Ready L s₀ none t) : (alignFrame L s₀).Leaves (t.run c).1 (t.run c).2 := by
  cases hordinary : c.isOrdinary with
  | true => exact (alignFrame L s₀).run hordinary hc h
  | false =>
      cases c with
      | connect host port =>
          have hconnected := (connect_aligned host port h.toTold).and (connect_ends host port t)
          refine (alignFrame L s₀).leaves_replied (hconnected.mono ?_ ?_)
          · intro answer u hu
            exact hu.1.ready
          · intro e u hu
            exact hu.1.ready hu.2.2.1
      | isOpen => exact isOpen_ready h
      | quit => exact quit_ready h
      | reset => exact (resetControl_told h.toTold).ready t.resetControl_spec.2.1
      | _ => cases hordinary

/-! ## Every run -/

/-- Between two operations: everything that the server gave on the control connection was
read, and nothing is owed. -/
def Aligned (L : Ledger ν) (s : Session ν) : Prop :=
  ∀ link, s.control = some link → link.inbound.unread = [] ∧
    (link.inbound.source.ending = .quiet → (L.account s.network).unsent = []) ∧
    (L.account s.network).owed = none

theorem Aligned.ready {s : Session ν} (hs : Aligned L s) : Ready L s none s := by
  have hsince : since s s = [] := List.drop_length
  have htalk : talk s s = [] := by rw [talk, hsince]; rfl
  have hreports : Reports s none s := by
    refine ⟨List.prefix_rfl, ?_, ?_, ?_⟩
    · intro g hg
      rw [htalk] at hg
      cases hg
    · intro id text hheard
      rw [hsince] at hheard
      cases hheard
    · intro reply hreply
      cases hreply
  have horder : (talk s s).Sublist [] := List.sublist_nil.2 htalk
  refine ⟨⟨hreports, [], (List.append_nil _).symm, horder⟩, fun hheld => ?_⟩
  obtain ⟨link, hlink⟩ := Option.isSome_iff_exists.1 hheld
  obtain ⟨hunread, hunsent, howed⟩ := hs link hlink
  refine ⟨hreports, link, [], [], hlink, ?_, fun hquiet => (hunsent hquiet).symm, ?_, by simp,
    ?_, [], (List.append_nil _).symm, ?_⟩
  · rw [hunread]
    exact .nil
  · rw [howed]
    rfl
  · intro line hline
    rw [howed] at hline
    cases hline
  · rw [List.append_nil]
    exact horder

theorem Linked.aligned (h : Linked L s₀ 0 reply? t) : Aligned L t := by
  intro link hheld
  obtain ⟨c, pending, late, hlink⟩ := h.link
  obtain rfl : c = link := Option.some.inj (hlink.control.symm.trans hheld)
  obtain ⟨rfl, howed⟩ := hlink.nothing
  have hspelled := hlink.spelled
  generalize hbytes : c.inbound.unread ++ late = bytes at hspelled
  cases hspelled
  obtain ⟨hunread, rfl⟩ := List.append_eq_nil_iff.1 hbytes
  exact ⟨hunread, fun hquiet => (hlink.late hquiet).symm, howed⟩

theorem Ready.aligned (h : Ready L s₀ reply? t) : Aligned L t := by
  intro link hheld
  exact (h.linked (by rw [hheld]; rfl)).aligned link hheld

/-- A move of a run: callers pass no line feeds, and between two operations the server
sends nothing but what it gives by the rules. -/
def Fair (L : Ledger ν) (s : Session ν) : Move ν → Prop
  | .call c => ∀ command ∈ c.commands, command.IsLine
  | .subscribe _ | .unsubscribe _ => True
  | .elapse around => s.control.isSome →
      (L.account s.network).Ships around.delivery.bytes (L.account around.network)

theorem run_aligned {s : Session ν} (hs : Aligned L s) {c : Call}
    (hc : ∀ command ∈ c.commands, command.IsLine) : Aligned L (s.run c).2 := by
  have h := run_ready hc hs.ready
  unfold Frame.Leaves at h
  split at h
  · exact Ready.aligned h
  · exact Ready.aligned h

theorem move_aligned {s : Session ν} {m : Move ν} (hs : Aligned L s) (hm : Fair L s m) :
    Aligned L (s.move m) := by
  cases m with
  | call c => exact run_aligned hs hm
  | subscribe id => exact hs
  | unsubscribe id => exact hs
  | elapse around =>
      intro link hheld
      have hbefore : s.control.isSome := by
        have hmapped : (s.settle ⟨(), around.delivery, around.network⟩).control = some link := hheld
        cases hcontrol : s.control with
        | none => simp [settle, hcontrol] at hmapped
        | some _ => rfl
      have hlinked := (hs.ready.linked hbefore).ships
        (r := ⟨(), around.delivery, around.network⟩) (hm hbefore)
      exact hlinked.aligned link hheld

/-- Against a server that keeps to the protocol, after every run the next operation reads
and reports only replies that the server gives during that operation, each for a line that
the operation writes or as the greeting of the connection that it opens, in the order in
which they are given.  If it keeps a control connection, it leaves nothing to be read of
what the server sent on it, and nothing is still to come.  What it returns is such a reply,
and what its observers hear besides is a listing. -/
theorem moves_aligned (L : Ledger ν) (options : Options) (observers : Observers)
    (files : FileTree) (network : ν) (ms : List (Move ν))
    (hms : Along (Fair L) (start options observers files network) ms) (c : Call)
    (hc : ∀ command ∈ c.commands, command.IsLine) :
    let s := (start options observers files network).moves ms
    let t := (s.run c).2
    let talk := conversation .unasked (s.events c)
    (∀ link, t.control = some link → link.inbound.unread = [] ∧
      (link.inbound.source.ending = .quiet → (L.account t.network).unsent = []) ∧
      (L.account t.network).owed = none) ∧
    (∃ more, (L.account t.network).given = (L.account s.network).given ++ more ∧
      talk.Sublist more) ∧
    (∀ g ∈ talk, (g.occasion = .greeting ∧ ∃ target, .connected target ∈ s.events c) ∨
      ∃ line, g.occasion = .line line ∧ .sent line ∈ s.events c) ∧
    (∀ reply, (s.run c).1.verdict = .ok (some reply) → ∃ g ∈ talk, g.reply = reply) ∧
    (∀ id text, .heard id (.reply text) ∈ s.during c →
      (∃ g ∈ talk, g.reply.text = text) ∨ IsListing ν (s.during c) text) := by
  intro s t talk
  have hstart : Aligned L (start options observers files network) := fun _ h => nomatch h
  have hs : Aligned L s := moves_preserve (p := Aligned L)
    (fun _ _ h hm => move_aligned h hm) hstart hms
  have hleaves : (alignFrame L s).Leaves (s.run c).1 t := run_ready hc hs.ready
  have hready : Ready L s none t ∧ ∀ reply, (s.run c).1.verdict = .ok (some reply) →
      ∃ g ∈ talk, g.reply = reply := by
    unfold Frame.Leaves at hleaves
    split at hleaves
    · rename_i reply? hverdict
      have hleaves : Ready L s reply? t := hleaves
      refine ⟨hleaves.forget, fun reply hreply => hleaves.said reply ?_⟩
      rw [hverdict] at hreply
      exact Except.ok.inj hreply
    · rename_i e hverdict
      refine ⟨hleaves, fun reply hreply => ?_⟩
      rw [hverdict] at hreply
      cases hreply
  obtain ⟨hready, hsaid⟩ := hready
  refine ⟨hready.aligned, hready.order, fun g hg => ?_, hsaid, hready.heard⟩
  rcases mem_conversation hg with hunasked | hasked
  · exact absurd hunasked (hready.asked g hg)
  · exact hasked

def terse : Words where
  greeting := .line (Utf8.encode "220 Ready\r") 220 "220 Ready" (by decide) (by decide) (by decide)
  answer line :=
    if line = Command.epsv.octets then
      .line (Utf8.encode "229 Port (|||4000|)\r") 229 "229 Port (|||4000|)"
        (by decide) (by decide) (by decide)
    else if Command.transfers line then
      .line (Utf8.encode "150 Wait\r") 150 "150 Wait" (by decide) (by decide) (by decide)
    else .line (Utf8.encode "200 Done\r") 200 "200 Done" (by decide) (by decide) (by decide)
  farewell _ := .line (Utf8.encode "226 Sent\r") 226 "226 Sent" (by decide) (by decide) (by decide)
  payload := .ofBytes (Utf8.encode "file\r\n")

def served : List (Move (Speaker terse)) :=
  [.call (.connect "host" 21), .call (.list none)]

theorem moves_aligned_terse :
    Along (Fair (Speaker.ledger terse)) (start .default .empty ⟨[], []⟩ (.silent terse)) served ∧
    (∀ command ∈ Call.noop.commands, command.IsLine) ∧
    let s := (start .default .empty ⟨[], []⟩ (Speaker.silent terse)).moves served
    (s.run .noop).2.control.isSome ∧ Aligned (Speaker.ledger terse) (s.run .noop).2 ∧
    ∃ g ∈ conversation .unasked (s.events .noop), g.reply = ⟨200, ["200 Done"]⟩ := by
  have hlist : ∀ command ∈ (Call.list none).commands, command.IsLine := by
    intro command hmem
    rcases List.mem_cons.1 hmem with rfl | hmem
    · exact fun _ h => nomatch h
    · obtain rfl := List.mem_singleton.1 hmem
      exact fun _ h => nomatch h
  have hnoop : ∀ command ∈ Call.noop.commands, command.IsLine := by
    intro command hmem
    obtain rfl := List.mem_singleton.1 hmem
    exact fun _ h => nomatch h
  have hms : Along (Fair (Speaker.ledger terse))
      (start .default .empty ⟨[], []⟩ (.silent terse)) served :=
    ⟨(fun _ h => nomatch h), hlist, trivial⟩
  have h := moves_aligned (Speaker.ledger terse) .default .empty ⟨[], []⟩ (.silent terse)
    served hms .noop hnoop
  obtain ⟨haligned, -, -, hsaid, -⟩ := h
  refine ⟨hms, hnoop, ?_, haligned, hsaid _ ?_⟩
  · decide +kernel
  · decide +kernel

end Session
end FtpClient
