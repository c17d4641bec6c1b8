import FtpClient.Proofs.Recovery
import FtpClient.Proofs.Sinks

/-
The courses that operations can take.

An operation writes commands and reads replies until it is done or something fails, so the
ways it can go are few: one for each of its exits.  `Adds` says what a chain of acts adds to
the life of a session: events on its connections, and notices that its observers are told.
`Said` lists the ways of a command and `Course` those of a transfer, and `Goes` says of an
outcome that it takes one of them.
-/

namespace FtpClient

theorem Outcome.ends_mapSession {ν α : Type} {good : α → Session ν → Prop}
    {bad : Failure → Session ν → Prop} {o : Outcome ν α} {f : Session ν → Session ν} :
    ({ o with session := f o.session } : Outcome ν α).Ends good bad ↔
      o.Ends (fun a t => good a (f t)) (fun e t => bad e (f t)) := by
  obtain ⟨value, t⟩ := o
  cases value <;> exact Iff.rfl

namespace Session

variable {ν : Type} {s t u : Session ν}

/-! ## What a chain of acts adds -/

/-- A session whose observers have been told `notices`, each of them by every observer. -/
structure Hears (s : Session ν) (notices : List Notice) (t : Session ν) : Prop where
  observers : t.observers = s.observers
  heard : heardNotices t.journal = heardNotices s.journal ++ notices.flatMap s.observers.notify

namespace Hears

variable {notices notices' : List Notice}

theorem refl (s : Session ν) : Hears s [] s :=
  ⟨rfl, (List.append_nil _).symm⟩

theorem trans (h : Hears s notices t) (h' : Hears t notices' u) :
    Hears s (notices ++ notices') u := by
  refine ⟨h'.observers.trans h.observers, ?_⟩
  rw [h'.heard, h.heard, h.observers, List.flatMap_append, List.append_assoc]

theorem record (s : Session ν) {entries : List Entry} (h : heardNotices entries = []) :
    Hears s [] (s.record entries) :=
  ⟨rfl, by rw [journal_record, heardNotices_append, h]; rfl⟩

theorem log (s : Session ν) (level : Level) (component : Component) (text : String) :
    Hears s [] (s.log level component text) :=
  .record s rfl

theorem wire (s : Session ν) (e : WireEvent) : Hears s [] (s.wire e) :=
  .record s rfl

theorem notify (s : Session ν) (notice : Notice) : Hears s [notice] (s.notify notice) := by
  refine ⟨rfl, ?_⟩
  rw [Session.notify, journal_record, heardNotices_append, heardNotices_heard]
  simp

theorem congr (hobservers : t.observers = s.observers) (hjournal : t.journal = s.journal) :
    Hears s [] t :=
  ⟨hobservers, by rw [hjournal]; exact (List.append_nil _).symm⟩

end Hears

/-- A session within the same control connection, after `events` on its connections and
after its observers have been told `notices`. -/
structure Adds (s : Session ν) (events : List WireEvent) (notices : List Notice)
    (t : Session ν) : Prop extends Hears s notices t where
  peer : t.peer = s.peer
  wires : t.wires = s.wires ++ events

namespace Adds

variable {events events' : List WireEvent} {notices notices' : List Notice}

theorem refl (s : Session ν) : Adds s [] [] s :=
  ⟨.refl s, rfl, (List.append_nil _).symm⟩

theorem trans (h : Adds s events notices t) (h' : Adds t events' notices' u) :
    Adds s (events ++ events') (notices ++ notices') u :=
  ⟨h.toHears.trans h'.toHears, h'.peer.trans h.peer,
    by rw [h'.wires, h.wires, List.append_assoc]⟩

/-- Acts that add nothing. -/
theorem still (h : Adds s events notices t) (h' : Adds t [] [] u) : Adds s events notices u := by
  simpa using h.trans h'

theorem record (s : Session ν) {entries : List Entry} (hheard : heardNotices entries = [])
    (hwires : wireEvents entries = []) : Adds s [] [] (s.record entries) :=
  ⟨.record s hheard, rfl, by rw [record_wires, hwires]⟩

theorem log (s : Session ν) (level : Level) (component : Component) (text : String) :
    Adds s [] [] (s.log level component text) :=
  .record s rfl rfl

theorem wire (s : Session ν) (e : WireEvent) : Adds s [e] [] (s.wire e) :=
  ⟨.wire s e, rfl, by rw [wire_eq_record, record_wires]; rfl⟩

theorem notify (s : Session ν) (notice : Notice) : Adds s [] [notice] (s.notify notice) :=
  ⟨.notify s notice, rfl, by rw [notify_wires, List.append_nil]⟩

theorem settle {α : Type} (r : Reaction ν α) (s : Session ν) : Adds s [] [] (s.settle r) :=
  ⟨.congr rfl rfl, settle_peer r s, (List.append_nil _).symm⟩

theorem informed (s : Session ν) : Adds s [] [] s.informed :=
  ⟨.congr rfl rfl, informed_peer s, (List.append_nil _).symm⟩

theorem setData (s : Session ν) (data : Option DataLink) : Adds s [] [] { s with data } :=
  ⟨.congr rfl rfl, rfl, (List.append_nil _).symm⟩

theorem setFiles (s : Session ν) (files : FileTree) : Adds s [] [] { s with files } :=
  ⟨.congr rfl rfl, rfl, (List.append_nil _).symm⟩

end Adds

/-! ## A command -/

/-- The ways of a command: what happens, what observers are told, and its reply, if it was
read. -/
inductive Said (c : Command) : List WireEvent → List Notice → Option Reply → Prop where
  | unsent : Said c [] [] none
  /-- The connection failed before all of the line was written. -/
  | cut (count : Nat) : Said c [.sentPart c.octets count] [] none
  | unanswered : Said c [.sent c.octets] [] none
  | answered (reply : Reply) :
      Said c [.sent c.octets, .received reply] [.reply reply.text] (some reply)

/-- An outcome that goes one of the ways of `course`, of which the last reply decides the
value.  A failure leaves it anywhere if it breaks the session, and else only before it has
begun or after it is complete. -/
def Goes {α : Type} (s : Session ν)
    (course : List WireEvent → List Notice → Option Reply → Prop) (answers : α → Reply → Prop)
    (o : Outcome ν α) : Prop :=
  o.Ends
    (fun a t => ∃ events notices last, course events notices (some last) ∧ answers a last ∧
      Adds s events notices t)
    (fun e t => ∃ events notices last?, course events notices last? ∧
      (e.breaksSession ∨ events = [] ∨ last?.isSome) ∧ Adds s events notices t)

namespace Goes

variable {α β : Type} {course : List WireEvent → List Notice → Option Reply → Prop}
  {answers : α → Reply → Prop} {o : Outcome ν α}

theorem after (h : Goes t course answers o) (hs : Adds s [] [] t) : Goes s course answers o := by
  refine Outcome.Ends.mono h ?_ ?_
  · intro a u hends
    obtain ⟨events, notices, last, hcourse, ha, hu⟩ := hends
    exact ⟨events, notices, last, hcourse, ha, by simpa using hs.trans hu⟩
  · intro e u hends
    obtain ⟨events, notices, last?, hcourse, hbegun, hu⟩ := hends
    exact ⟨events, notices, last?, hcourse, hbegun, by simpa using hs.trans hu⟩

theorem map {f : α → β} {answers' : β → Reply → Prop} (h : Goes s course answers o)
    (hf : ∀ a last, answers a last → answers' (f a) last) : Goes s course answers' (o.map f) := by
  refine Outcome.Ends.map (Outcome.Ends.mono h ?_ fun _ _ he => he)
  intro a u hends
  obtain ⟨events, notices, last, hcourse, ha, hu⟩ := hends
  exact ⟨events, notices, last, hcourse, hf a last ha, hu⟩

theorem imp {answers' : α → Reply → Prop} (h : Goes s course answers o)
    (hanswers : ∀ a last, answers a last → answers' a last) : Goes s course answers' o := by
  refine Outcome.Ends.mono h ?_ fun _ _ he => he
  intro a u hends
  obtain ⟨events, notices, last, hcourse, ha, hu⟩ := hends
  exact ⟨events, notices, last, hcourse, hanswers a last ha, hu⟩

theorem mono {course' : List WireEvent → List Notice → Option Reply → Prop}
    (h : Goes s course answers o)
    (hcourse : ∀ events notices last?, course events notices last? →
      course' events notices last?) : Goes s course' answers o := by
  refine Outcome.Ends.mono h ?_ ?_
  · intro a u hends
    obtain ⟨events, notices, last, hway, ha, hu⟩ := hends
    exact ⟨events, notices, last, hcourse _ _ _ hway, ha, hu⟩
  · intro e u hends
    obtain ⟨events, notices, last?, hway, hbegun, hu⟩ := hends
    exact ⟨events, notices, last?, hcourse _ _ _ hway, hbegun, hu⟩

end Goes

theorem receiveReply_adds (s : Session ν) :
    s.receiveReply.Ends (fun reply t => Adds s [.received reply] [.reply reply.text] t)
      (fun e t => Adds s [] [] t ∧ e.breaksSession) := by
  have hbreaks := s.receive_ends
  unfold receiveReply
  unfold receive at hbreaks ⊢
  cases hc : s.control with
  | none => exact ⟨.refl s, rfl⟩
  | some c =>
      rw [hc] at hbreaks
      dsimp only at hbreaks ⊢
      generalize c.inbound.readReply = r at hbreaks ⊢
      generalize hlogs : (r.lines.map fun line =>
        Entry.log .trace .reply ("CC IN: " ++ quote line)) = logs at hbreaks ⊢
      have hread : Adds s [] [] { s with control := some { c with inbound := r.left } } :=
        ⟨.congr rfl rfl, by simp [peer, hc], (List.append_nil _).symm⟩
      have hlogs (t : Session ν) : Adds t [] [] (t.record logs) :=
        .record t (by simp [← hlogs, heardNotices]) (by simp [← hlogs, wireEvents])
      have hlogged := hread.still (hlogs _)
      cases ho : r.outcome with
      | error e =>
          rw [ho] at hbreaks
          exact ⟨hlogged, hbreaks.2.1⟩
      | ok reply => exact (hlogged.trans (.wire _ _)).trans (.notify _ _)

variable [Network ν]

theorem write_adds (bytes : List UInt8) (s : Session ν) : Adds s [] [] (s.write bytes).2 := by
  unfold write
  cases s.untold? with
  | some cause => exact .informed s
  | none => exact .settle _ s

theorem perform_adds (c : Command) (s : Session ν) :
    (s.perform c).Ends (fun _ t => Adds s [.sent c.octets] [] t)
      (fun e t => e.breaksSession ∧ ∃ events, Said c events [] none ∧ Adds s events [] t) := by
  have hlog := Adds.log s .trace .client ("CC OUT: " ++ c.loggedLine)
  unfold perform send
  generalize s.log .trace .client ("CC OUT: " ++ c.loggedLine) = s₁ at hlog ⊢
  cases s₁.control with
  | none => exact ⟨rfl, _, .unsent, hlog⟩
  | some link =>
      have hwritten := hlog.still (s₁.write_adds c.octets)
      dsimp only
      rw [← Command.octets]
      generalize s₁.write c.octets = written at hwritten ⊢
      obtain ⟨result, t⟩ := written
      cases result with
      | whole => exact hwritten.trans (.wire t _)
      | part count cause => exact ⟨rfl, _, .cut count, hwritten.trans (.wire t _)⟩

theorem command_adds (c : Command) (s : Session ν) :
    (s.command c).Ends
      (fun reply t => Adds s [.sent c.octets, .received reply] [.reply reply.text] t)
      (fun e t => e.breaksSession ∧ ∃ events, Said c events [] none ∧ Adds s events [] t) := by
  refine (s.perform_adds c).andThen ?_ fun _ _ hends => hends
  intro _ t hsent
  refine t.receiveReply_adds.mono ?_ ?_
  · intro reply u hu
    exact hsent.trans hu
  · intro e u hends
    obtain ⟨hu, he⟩ := hends
    exact ⟨he, _, .unanswered, hsent.still hu⟩

theorem command_goes (c : Command) (s : Session ν) :
    Goes s (Said c) (fun reply last => reply = last) (s.command c) := by
  refine (s.command_adds c).mono ?_ ?_
  · intro reply t ht
    exact ⟨_, _, reply, .answered reply, rfl, ht⟩
  · intro e t hends
    obtain ⟨he, events, hsaid, ht⟩ := hends
    exact ⟨events, [], none, hsaid, Or.inl he, ht⟩

/-! ## The data connection -/

theorem openData_adds {s : Session ν} (target : Endpoint) (hs : s.data = none) :
    (s.openData target).Ends
      (fun _ t => Adds s [.dataConnected target] [] t ∧ t.data.isSome)
      (fun e t => e.breaksSession ∧
        (Adds s [] [] t ∨ Adds s [.dataConnected target, .dataClosed] [] t)) := by
  unfold openData
  dsimp only
  generalize hl : s.log .debug .data ("Opening data connection to " ++ target.toString) = s₁
  have hlog : Adds s [] [] s₁ := hl ▸ .log s _ _ _
  have hdata : s₁.data = none := by rw [← hl]; exact hs
  generalize Network.connectData target s₁.network = r
  have hsettle := hlog.still (.settle r s₁)
  cases r.result.underLimits (s₁.settle r).options with
  | error cause =>
      by_cases he : r.result.isEstablished
      · rw [if_pos he]
        have hconnected := hsettle.trans (.wire _ (.dataConnected target))
        have hhungUp := hconnected.still (.settle (Network.hangUpData (s₁.settle r).network) _)
        exact ⟨rfl, Or.inr (hhungUp.trans (.wire _ .dataClosed))⟩
      · rw [if_neg he]
        exact ⟨rfl, Or.inl hsettle⟩
  | ok source =>
      have hnone : (s₁.settle r).data.isSome = false := by
        rw [settle_data, hdata]
        rfl
      rw [hnone]
      have hset := hsettle.still (.setData _ (some ⟨target, source⟩))
      have hwire := hset.trans (.wire _ (.dataConnected target))
      exact ⟨hwire.still (.log _ _ _ _), rfl⟩

theorem dropData_adds (s : Session ν) :
    Adds s [.dataClosed] [] s.dropData.2 ∧ s.dropData.2.data = none :=
  ⟨((Adds.settle (Network.hangUpData s.network) s).still (.setData _ none)).trans (.wire _ _), rfl⟩

theorem closeData_adds {s : Session ν} (hs : s.data.isSome) :
    s.closeData.Ends (fun _ t => Adds s [.dataClosed] [] t ∧ t.data = none)
      (fun e t => e.breaksSession ∧ Adds s [.dataClosed] [] t ∧ t.data = none) := by
  unfold closeData
  cases hd : s.data with
  | none => rw [hd] at hs; cases hs
  | some d =>
      dsimp only
      generalize hl : s.log .trace .data ("Closing data connection to " ++ d.remote.toString) = s₁
      have hlog : Adds s [] [] s₁ := hl ▸ .log s _ _ _
      obtain ⟨hdrop, hnone⟩ := s₁.dropData_adds
      generalize s₁.dropData = dropped at hdrop hnone ⊢
      obtain ⟨value, t⟩ := dropped
      have hclosed : Adds s [.dataClosed] [] t := hlog.trans hdrop
      cases value with
      | ok _ => exact ⟨hclosed, hnone⟩
      | error cause =>
          dsimp only
          by_cases hgone : cause = .notConnected
          · rw [if_pos hgone]
            exact ⟨hclosed, hnone⟩
          · rw [if_neg hgone]
            exact ⟨rfl, hclosed, hnone⟩

theorem releaseData_adds {s : Session ν} (hs : s.data.isSome) :
    Adds s [.dataClosed] [] s.releaseData := by
  unfold releaseData
  cases hd : s.data with
  | none => rw [hd] at hs; cases hs
  | some d => exact s.dropData_adds.1

theorem releaseData_of_none {s : Session ν} (hs : s.data = none) : s.releaseData = s := by
  unfold releaseData
  rw [hs]

/-! ## Payloads -/

/-- What a payload gives back, and what observers are told of it, by the data connection
that it is moved on.  They are told the same when it fails. -/
def Tells {α : Type} (tell : DataLink → List Notice) (gives : DataLink → α → Prop)
    (payload : Session ν → Outcome ν α) : Prop :=
  ∀ s d, s.data = some d → (payload s).Ends
    (fun a t => gives d a ∧ t.data.isSome ∧
      ∃ sent : List (List UInt8), Adds s (sent.map .dataSent) (tell d) t)
    (fun e t => e.breaksSession ∧ t.data.isSome ∧
      ∃ sent : List (List UInt8), Adds s (sent.map .dataSent) (tell d) t)

theorem sendPieces_adds (count : Nat) (pieces : List (List UInt8)) (s : Session ν) :
    (s.sendPieces count pieces).Ends
      (fun _ t => t.data = s.data ∧
        ∃ sent : List (List UInt8), Adds s (sent.map .dataSent) [] t)
      (fun e t => e.breaksSession ∧ t.data = s.data ∧
        ∃ sent : List (List UInt8), Adds s (sent.map .dataSent) [] t) := by
  induction pieces generalizing count s with
  | nil => exact ⟨rfl, [], .refl s⟩
  | cons piece rest ih =>
      unfold sendPieces
      generalize Network.sendData piece s.network = r
      have hsettle := Adds.settle r s
      dsimp only
      cases r.result with
      | error cause => exact ⟨rfl, rfl, [], hsettle⟩
      | ok _ =>
          have hwrote := hsettle.trans (.wire _ (.dataSent piece))
          refine (ih _ _).mono ?_ ?_
          · intro _ t hends
            obtain ⟨hdata, sent, ht⟩ := hends
            exact ⟨hdata, piece :: sent, hwrote.trans ht⟩
          · intro e t hends
            obtain ⟨he, hdata, sent, ht⟩ := hends
            exact ⟨he, hdata, piece :: sent, hwrote.trans ht⟩

theorem sendFile_tells (source : Source) :
    Tells (fun _ => []) (fun _ _ => True) (sendFile (ν := ν) source) := by
  intro s d hd
  unfold sendFile
  rw [hd]
  refine (sendPieces_adds 0 _ s).andThen ?_ ?_
  · intro count t hends
    obtain ⟨hdata, sent, ht⟩ := hends
    have hopen : t.data.isSome := by rw [hdata, hd]; rfl
    cases source.ending.failure? with
    | some cause => exact ⟨rfl, hopen, sent, ht⟩
    | none => exact ⟨trivial, hopen, sent, ht.still (.log _ _ _ _)⟩
  · intro e t hends
    obtain ⟨he, hdata, sent, ht⟩ := hends
    exact ⟨he, by rw [hdata, hd]; rfl, sent, ht⟩

omit [Network ν] in
theorem leaveData_adds (arrivals : List Arrival) (d : DataLink) (s : Session ν) :
    Adds s [] [] (s.leaveData arrivals d) :=
  .setData s _

omit [Network ν] in
theorem fileReceived_ok {w : Sink.Drained} {ending : Ending} {count : Nat}
    (h : fileReceived w ending = .ok count) : w.outcome = .ok count := by
  unfold fileReceived at h
  split at h
  · cases h
  · rename_i count' hw
    split at h
    · cases h
    · split at h
      · cases h
      · rw [hw, Except.ok.inj h]

omit [Network ν] in
theorem receiveInto_tells (place : Place) :
    Tells (fun _ => []) (fun d count => count = d.source.bytes.length)
      (receiveInto (ν := ν) place) := by
  intro s d hd
  have hdrained :=
    (Sink.drain_takes 0 (s.files.sinkAt place) (d.source.pieces transferBufferSize)).2
  rw [Source.pieces_flatten, Nat.zero_add] at hdrained
  unfold receiveInto receiveFile
  rw [hd]
  dsimp only
  generalize (s.files.sinkAt place).drain 0 (d.source.pieces transferBufferSize) = w
    at hdrained ⊢
  have hread := leaveData_adds (w.rest.map .chunk) d s
  cases hv : fileReceived w d.source.ending with
  | ok count =>
      -- Nothing but the whole is counted.
      rw [fileReceived_ok hv] at hdrained
      have hcount : count = d.source.bytes.length := by
        split at hdrained
        · exact Except.ok.inj hdrained
        · cases hdrained
      exact ⟨hcount, rfl, [], (hread.still (.log _ _ _ _)).still (.setFiles _ _)⟩
  | error e => exact ⟨fileReceived_error hv, rfl, [], hread.still (.setFiles _ _)⟩

end Session

theorem Ending.failure?_eq_none {ending : Ending} : ending.failure? = none ↔ ending = .closed := by
  cases ending <;> simp [failure?]

namespace DataLink

/-- The text that a data connection delivers, if the far side ends it. -/
def delivered? (d : DataLink) : Option String :=
  if d.source.ending = .closed then some (Utf8.decode d.source.bytes) else none

/-- The listing that observers are told of: what is delivered to its end, unless it is
empty. -/
def listing? (d : DataLink) : Option String :=
  if d.source.bytes = [] then none else d.delivered?

end DataLink

namespace Session

variable {ν : Type} {s t u : Session ν} [Network ν]

omit [Network ν] in
theorem receiveListing_tells :
    Tells (fun d => d.listing?.toList.map .reply) (fun d text => d.delivered? = some text)
      (receiveListing (ν := ν)) := by
  intro s d hd
  have hread := leaveData_adds [] d s
  unfold receiveListing receiveText
  rw [hd]
  dsimp only
  cases hf : d.source.ending.failure? with
  | some cause =>
      have hopen : d.delivered? = none := by
        unfold DataLink.delivered?
        rw [if_neg]
        intro hclosed
        rw [Ending.failure?_eq_none.2 hclosed] at hf
        cases hf
      have hnone : d.listing? = none := by
        rw [DataLink.listing?, hopen]
        exact ite_self none
      rw [hnone]
      exact ⟨rfl, rfl, [], hread⟩
  | none =>
      have hclosed : d.delivered? = some (Utf8.decode d.source.bytes) := by
        rw [DataLink.delivered?, if_pos (Ending.failure?_eq_none.1 hf)]
      rw [DataLink.listing?, hclosed, Outcome.andThen_ok, Outcome.ends_ok]
      have hlogged := hread.still (.log _ .trace .data
        ("Received " ++ toString d.source.bytes.length ++ " bytes of text"))
      by_cases hempty : d.source.bytes = []
      · rw [if_pos (Utf8.decode_eq_empty.2 hempty), if_pos hempty]
        exact ⟨rfl, rfl, [], hlogged⟩
      · rw [if_neg (fun h => hempty (Utf8.decode_eq_empty.1 h)), if_neg hempty]
        exact ⟨rfl, rfl, [], hlogged.trans (.notify _ _)⟩

/-! ## A transfer -/

/-- An answer to `EPSV` on which a data connection was established. -/
structure Announces (reply : Reply) (target : Endpoint) : Prop where
  positive : reply.code < 400
  port : reply.dataPort = .ok target.port

/-- The ways of a transfer on its data connection, and the connection that the payload is
moved on, if it comes to that. -/
inductive Exchanged (c : Command) (tell : DataLink → List Notice) :
    Option DataLink → List WireEvent → List Notice → Option Reply → Prop where
  | declined {events : List WireEvent} {notices : List Notice} {last? : Option Reply} :
      Said c events notices last? → (∀ reply, last? = some reply → reply.isNegative) →
      Exchanged c tell none (events ++ [.dataClosed]) notices last?
  | broken {first : Reply} {d : DataLink} (sent : List (List UInt8)) :
      first.isNegative = false →
      Exchanged c tell (some d)
        ([.sent c.octets, .received first] ++ sent.map .dataSent ++ [.dataClosed])
        (.reply first.text :: tell d) none
  | answered {first : Reply} {d : DataLink} (sent : List (List UInt8)) :
      first.isNegative = false → first.isPreliminary = false →
      Exchanged c tell (some d)
        ([.sent c.octets, .received first] ++ sent.map .dataSent ++ [.dataClosed])
        (.reply first.text :: tell d) (some first)
  | finished {first : Reply} {d : DataLink} (sent : List (List UInt8)) (last : Reply) :
      first.isNegative = false → first.isPreliminary →
      Exchanged c tell (some d)
        ([.sent c.octets, .received first] ++ sent.map .dataSent ++
          [.dataClosed, .received last])
        (.reply first.text :: tell d ++ [.reply last.text]) (some last)

theorem Exchanged.ne_nil {c : Command} {tell : DataLink → List Notice} {d? : Option DataLink}
    {events : List WireEvent} {notices : List Notice} {last? : Option Reply}
    (h : Exchanged c tell d? events notices last?) : events ≠ [] := by
  cases h <;> simp

/-- The ways of a transfer. -/
inductive Course (c : Command) (tell : DataLink → List Notice) :
    Option DataLink → List WireEvent → List Notice → Option Reply → Prop where
  | unopened {events : List WireEvent} {notices : List Notice} {last? : Option Reply} :
      Said .epsv events notices last? → (∀ reply, last? = some reply → reply.isNegative) →
      Course c tell none events notices last?
  /-- No data connection came about, or one that could not be kept. -/
  | unconnected (reply : Reply) {tried : List WireEvent} :
      (tried = [] ∨ ∃ target, tried = [.dataConnected target, .dataClosed]) →
      Course c tell none ([.sent Command.epsv.octets, .received reply] ++ tried)
        [.reply reply.text] none
  | opened {reply : Reply} {target : Endpoint} {d? : Option DataLink}
      {events : List WireEvent} {notices : List Notice} {last? : Option Reply} :
      Announces reply target → Exchanged c tell d? events notices last? →
      Course c tell d?
        ([.sent Command.epsv.octets, .received reply, .dataConnected target] ++ events)
        (.reply reply.text :: notices) last?

/-- The data connection that a payload is moved on, once its command is accepted. -/
def accepting (c : Command) (s : Session ν) : Option DataLink :=
  match (s.command c).value with
  | .ok first => if first.isNegative then none else s.data
  | .error _ => none

/-- The data connection on which a transfer moves its payload, if it comes to that. -/
def carrying (c : Command) (s : Session ν) : Option DataLink :=
  match s.enterPassive with
  | ⟨.ok (.accepted ()), t⟩ => t.accepting c
  | _ => none

/-- An answer that the last reply decides, with a value that was given on `d?`. -/
def Fits {α : Type} (gives : DataLink → α → Prop) (d? : Option DataLink) (answer : Answer α)
    (last : Reply) : Prop :=
  answer.refusal? = (Answer.ofReply last).refusal? ∧
    ∀ a, answer = .accepted a → ∃ d, d? = some d ∧ gives d a

theorem refuses {last : Reply} (h : last.isNegative) (reply : Reply)
    (heq : some last = some reply) : reply.isNegative := by
  rw [← Option.some.inj heq]
  exact h

theorem fits_refused {α : Type} {gives : DataLink → α → Prop} {d? : Option DataLink}
    {reply : Reply} (h : reply.isNegative) : Fits gives d? (.refused reply) reply := by
  refine ⟨?_, fun a ha => nomatch ha⟩
  rw [Answer.ofReply, if_pos h]
  rfl

theorem fits_value {α : Type} {gives : DataLink → α → Prop} {d : DataLink} {value : α}
    (h : gives d value) (last : Reply) :
    Fits gives (some d) ((Answer.ofReply last).map fun _ => value) last := by
  unfold Fits Answer.ofReply
  by_cases hnegative : last.isNegative
  · rw [if_pos hnegative]
    exact ⟨rfl, fun a ha => nomatch ha⟩
  · rw [if_neg hnegative]
    refine ⟨rfl, fun a ha => ?_⟩
    obtain rfl : value = a := Answer.accepted.inj ha
    exact ⟨d, rfl, h⟩

/-- Once the payload is moved the data connection is closed, and one more reply is read if
the first one was preliminary. -/
theorem closing_goes {α : Type} {tell : DataLink → List Notice} {gives : DataLink → α → Prop}
    {c : Command} {first : Reply} {d : DataLink} {value : α} {sent : List (List UInt8)}
    (hnegative : first.isNegative = false) (hgives : gives d value) (hheld : u.data.isSome)
    (hmoved : Adds s ([.sent c.octets, .received first] ++ sent.map .dataSent)
      (.reply first.text :: tell d) u) :
    let o := u.closeData.andThen fun _ v =>
      (if first.isPreliminary then v.receiveReply else ⟨.ok first, v⟩).map fun last =>
        (Answer.ofReply last).map fun _ => value
    Goes s (Exchanged c tell (some d)) (Fits gives (some d))
      { o with session := o.session.releaseData } := by
  refine Outcome.ends_mapSession.2 ((closeData_adds hheld).andThen ?_ ?_)
  · intro _ v hends
    obtain ⟨hv, hnone⟩ := hends
    have hclosed := hmoved.trans hv
    refine Outcome.Ends.map ?_
    by_cases hpreliminary : first.isPreliminary
    · rw [if_pos hpreliminary]
      refine (v.receiveReply_adds.and v.receiveReply_ends).mono ?_ ?_
      · intro last w hends
        obtain ⟨hw, htalks, -⟩ := hends
        -- The data connection is closed already, so that there is none to give up.
        rw [releaseData_of_none (htalks.data.trans hnone)]
        refine ⟨_, _, last, .finished sent last hnegative hpreliminary,
          fits_value hgives last, ?_⟩
        simpa using hclosed.trans hw
      · intro e w hends
        obtain ⟨⟨hw, he⟩, htalks, -⟩ := hends
        rw [releaseData_of_none (htalks.data.trans hnone)]
        refine ⟨_, _, none, .broken sent hnegative, Or.inl he, ?_⟩
        simpa using hclosed.still hw
    · rw [if_neg hpreliminary, Outcome.ends_ok, releaseData_of_none hnone]
      refine ⟨_, _, first, .answered sent hnegative (Bool.eq_false_iff.2 hpreliminary),
        fits_value hgives first, ?_⟩
      simpa using hclosed
  · intro e v hends
    obtain ⟨he, hv, hnone⟩ := hends
    rw [releaseData_of_none hnone]
    refine ⟨_, _, none, .broken sent hnegative, Or.inl he, ?_⟩
    simpa using hmoved.trans hv

theorem exchange_goes {α : Type} {tell : DataLink → List Notice} {gives : DataLink → α → Prop}
    {payload : Session ν → Outcome ν α} (hp : Tells tell gives payload) (c : Command)
    {s : Session ν} (hs : s.data.isSome) :
    Goes s (Exchanged c tell (s.accepting c)) (Fits gives (s.accepting c))
      { s.exchange c payload with session := (s.exchange c payload).session.releaseData } := by
  refine Outcome.ends_mapSession.2 ?_
  have hsaid := (s.command_adds c).and (s.command_ends c)
  unfold exchange accepting
  generalize s.command c = o at hsaid ⊢
  obtain ⟨value, t⟩ := o
  cases value with
  | error e =>
      obtain ⟨⟨he, events, hsaid, ht⟩, hends⟩ := hsaid
      have hopen : t.data.isSome := by rw [hends.1.data]; exact hs
      exact ⟨_, _, none, .declined hsaid (fun _ h => nomatch h), Or.inl he,
        ht.trans (releaseData_adds hopen)⟩
  | ok first =>
      obtain ⟨ht, hends⟩ := hsaid
      have hdata : t.data = s.data := hends.1.data
      have hopen : t.data.isSome := by rw [hdata]; exact hs
      dsimp only [Outcome.andThen_ok]
      by_cases hnegative : first.isNegative
      · rw [if_pos hnegative, if_pos hnegative]
        exact ⟨_, _, first, .declined (.answered first) (refuses hnegative),
          fits_refused hnegative, ht.trans (releaseData_adds hopen)⟩
      · rw [if_neg hnegative, if_neg hnegative]
        obtain ⟨d, hd⟩ := Option.isSome_iff_exists.1 hopen
        rw [← hdata, hd]
        replace hnegative : first.isNegative = false := Bool.eq_false_iff.2 hnegative
        refine (hp t d hd).andThen ?_ ?_
        · intro value u hends
          obtain ⟨hgives, hheld, sent, hu⟩ := hends
          exact Outcome.ends_mapSession.1 (closing_goes hnegative hgives hheld (ht.trans hu))
        · intro e u hends
          obtain ⟨he, hheld, sent, hu⟩ := hends
          refine ⟨_, _, none, .broken sent hnegative, Or.inl he, ?_⟩
          simpa using (ht.trans hu).trans (releaseData_adds hheld)

theorem enterPassive_adds {s : Session ν} (hs : s.data = none) :
    s.enterPassive.Ends
      (fun entered t => match entered with
        | .refused reply => reply.isNegative ∧
            Adds s [.sent Command.epsv.octets, .received reply] [.reply reply.text] t
        | .accepted _ => t.data.isSome ∧ ∃ reply target, Announces reply target ∧
            Adds s [.sent Command.epsv.octets, .received reply, .dataConnected target]
              [.reply reply.text] t)
      (fun e t => e.breaksSession ∧ ∀ c tell, ∃ events notices,
        Course c tell none events notices none ∧ Adds s events notices t) := by
  refine ((s.command_adds .epsv).and (s.command_ends .epsv)).andThen ?_ ?_
  · intro reply t hends
    obtain ⟨ht, htalks, -⟩ := hends
    have hnone : t.data = none := htalks.data.trans hs
    have hfailed (c : Command) (tell : DataLink → List Notice) :
        ∃ events notices, Course c tell none events notices none ∧ Adds s events notices t :=
      ⟨_, _, .unconnected reply (Or.inl rfl), by simpa using ht⟩
    by_cases hnegative : reply.isNegative
    · rw [if_pos hnegative]
      exact ⟨hnegative, ht⟩
    · rw [if_neg hnegative]
      split
      · rename_i e _ hport
        exact ⟨Reply.dataPort_error hport, hfailed⟩
      · rename_i e _ haddress
        exact ⟨peerAddress_error haddress, hfailed⟩
      · rename_i port address hport _
        refine Outcome.Ends.map ((openData_adds ⟨address, port⟩ hnone).mono ?_ ?_)
        · intro _ u hends
          obtain ⟨hu, hopen⟩ := hends
          have hcode : reply.code < 400 := by simpa [Reply.isNegative] using hnegative
          exact ⟨hopen, reply, _, ⟨hcode, hport⟩, ht.trans hu⟩
        · intro e u hends
          obtain ⟨he, hu⟩ := hends
          refine ⟨he, fun c tell => ?_⟩
          rcases hu with hu | hu
          · exact ⟨_, _, .unconnected reply (Or.inl rfl), by simpa using ht.still hu⟩
          · exact ⟨_, _, .unconnected reply (Or.inr ⟨_, rfl⟩), by simpa using ht.trans hu⟩
  · intro e t hends
    obtain ⟨⟨he, events, hsaid, ht⟩, -⟩ := hends
    exact ⟨he, fun c tell => ⟨events, [], .unopened hsaid (fun _ h => nomatch h), ht⟩⟩

theorem transfer_goes {α : Type} {tell : DataLink → List Notice} {gives : DataLink → α → Prop}
    {payload : Session ν → Outcome ν α} (hp : Tells tell gives payload) (c : Command)
    {s : Session ν} (hs : s.data = none) :
    Goes s (Course c tell (s.carrying c)) (Fits gives (s.carrying c)) (s.transfer c payload) := by
  have hentered := enterPassive_adds hs
  unfold transfer carrying
  generalize s.enterPassive = o at hentered ⊢
  obtain ⟨value, t⟩ := o
  cases value with
  | error e =>
      obtain ⟨he, hcourse⟩ := hentered
      obtain ⟨events, notices, hcourse, ht⟩ := hcourse c tell
      exact ⟨events, notices, none, hcourse, Or.inl he, ht⟩
  | ok entered =>
      cases entered with
      | refused reply =>
          obtain ⟨hnegative, ht⟩ := hentered
          exact ⟨_, _, reply, .unopened (.answered reply) (refuses hnegative),
            fits_refused hnegative, ht⟩
      | accepted _ =>
          obtain ⟨hopen, reply, target, hannounces, ht⟩ := hentered
          refine Outcome.Ends.mono (exchange_goes hp c hopen) ?_ ?_
          · intro answer u hends
            obtain ⟨events, notices, last, hcourse, hfits, hu⟩ := hends
            exact ⟨_, _, last, .opened hannounces hcourse, hfits, ht.trans hu⟩
          · intro e u hends
            obtain ⟨events, notices, last?, hcourse, hbegun, hu⟩ := hends
            refine ⟨_, _, last?, .opened hannounces hcourse, ?_, ht.trans hu⟩
            rcases hbegun with he | hnothing | hcomplete
            · exact Or.inl he
            · subst hnothing
              exact absurd hcourse.ne_nil (fun h => h rfl)
            · exact Or.inr (Or.inr hcomplete)

end Session
end FtpClient
