import FtpClient.Proofs.Acts
import FtpClient.Session.Operations

/-
Transfers: a data connection is opened, a payload is moved on it, and it is given up.

The payload is the one part that differs between a listing and a file in either direction,
so it is described by the steps that all of them consist of.  Whatever those steps
preserve, every transfer preserves.
-/

namespace FtpClient

theorem Reply.dataPort_error {r : Reply} {e : Failure} (h : r.dataPort = .error e) :
    e.breaksSession := by
  unfold Reply.dataPort DataPort.parse at h
  split at h
  · cases h
  · obtain rfl := Except.error.inj h
    rfl

namespace Session

variable {ν : Type} [Network ν]

/-! ## The data connection -/

theorem openData_ends {s : Session ν} (target : Endpoint) (hs : s.data = none) :
    (s.openData target).Ends
      (fun _ t => Follows WireEvent.IsWithin s t ∧ t.files = s.files ∧
        t.wires = s.wires ++ [.dataConnected target] ∧
        ∃ source, t.data = some ⟨target, source⟩ ∧
          (Network.connectData target s.network).result = .established source)
      (fun e t => Follows WireEvent.IsWithin s t ∧ t.files = s.files ∧ e.breaksSession ∧
        t.data = none ∧
        (t.wires = s.wires ∨ t.wires = s.wires ++ [.dataConnected target, .dataClosed])) := by
  unfold openData
  dsimp only
  generalize hl : s.log .debug .data ("Opening data connection to " ++ target.toString) = s₁
  have hlog : Follows WireEvent.IsWithin s s₁ := hl ▸ .log s _ _ _
  have hfiles : s₁.files = s.files := by rw [← hl]; rfl
  have hwires : s₁.wires = s.wires := by simp [← hl]
  have hdata : s₁.data = none := by rw [← hl]; exact hs
  have hnetwork : s₁.network = s.network := by rw [← hl]; rfl
  rw [hnetwork]
  generalize Network.connectData target s.network = r
  have hsettle := hlog.trans (.settle r s₁)
  cases hlimits : r.result.underLimits (s₁.settle r).options with
  | error cause =>
      by_cases he : r.result.isEstablished
      · rw [if_pos he]
        have hconnected := hsettle.trans (.wire (e := .dataConnected target) _ trivial)
        have hhungUp := hconnected.trans (.settle (Network.hangUpData (s₁.settle r).network) _)
        refine ⟨hhungUp.trans (.wire _ trivial), hfiles, rfl, hdata, Or.inr ?_⟩
        simp [hwires]
      · rw [if_neg he]
        exact ⟨hsettle, hfiles, rfl, hdata, Or.inl hwires⟩
  | ok source =>
      have hnone : (s₁.settle r).data.isSome = false := by
        rw [settle_data, hdata]
        rfl
      rw [hnone]
      have hset := hsettle.trans (.setData _ (some ⟨target, source⟩))
      have hwire := hset.trans (.wire (e := .dataConnected target) _ trivial)
      refine ⟨hwire.trans (.log _ _ _ _), hfiles, ?_, source, rfl,
        Attempt.underLimits_eq_ok hlimits⟩
      show ((s₁.wire (.dataConnected target)).log .trace .data _).wires = _
      simp [hwires]

theorem dropData_spec (s : Session ν) :
    Follows WireEvent.IsExchange s s.dropData.2 ∧ s.dropData.2.files = s.files ∧
      s.dropData.2.data = none ∧ s.dropData.2.wires = s.wires ++ [.dataClosed] := by
  generalize hr : Network.hangUpData s.network = r
  have hdrop : s.dropData.2 = { s.settle r with data := none }.wire .dataClosed := by
    rw [← hr]
    rfl
  rw [hdrop]
  refine ⟨((Follows.settle r s).trans (.setData _ none)).trans (.wire _ trivial), rfl, rfl, ?_⟩
  simp
  rfl

theorem releaseData_spec (s : Session ν) :
    Follows WireEvent.IsExchange s s.releaseData ∧ s.releaseData.files = s.files ∧
      s.releaseData.data = none ∧
      s.releaseData.wires = s.wires ++ if s.data.isSome then [.dataClosed] else [] := by
  unfold releaseData
  cases hd : s.data with
  | none => exact ⟨.refl s, rfl, hd, by simp⟩
  | some d => simpa using s.dropData_spec

theorem closeData_ends (s : Session ν) :
    s.closeData.Ends
      (fun _ t => Follows WireEvent.IsExchange s t ∧ t.files = s.files ∧ t.data = none ∧
        t.wires = s.wires ++ if s.data.isSome then [.dataClosed] else [])
      (fun e t => Follows WireEvent.IsExchange s t ∧ t.files = s.files ∧ t.data = none ∧
        e.breaksSession ∧ t.wires = s.wires ++ if s.data.isSome then [.dataClosed] else []) := by
  unfold closeData
  cases hd : s.data with
  | none => exact ⟨.refl s, rfl, hd, by simp⟩
  | some d =>
      dsimp only
      generalize hl : s.log .trace .data ("Closing data connection to " ++ d.remote.toString) = s₁
      have hlog : Follows WireEvent.IsExchange s s₁ := hl ▸ .log s _ _ _
      have hfiles : s₁.files = s.files := by rw [← hl]; rfl
      have hwires : s₁.wires = s.wires := by simp [← hl]
      obtain ⟨hdrop, hdropFiles, hnone, hdropWires⟩ := s₁.dropData_spec
      rw [hwires] at hdropWires
      generalize s₁.dropData = dropped at *
      obtain ⟨value, t⟩ := dropped
      have hgood : Follows WireEvent.IsExchange s t ∧ t.files = s.files ∧ t.data = none ∧
          t.wires = s.wires ++ if (some d).isSome then [.dataClosed] else [] :=
        ⟨hlog.trans hdrop, hdropFiles.trans hfiles, hnone, hdropWires⟩
      cases value with
      | ok _ => exact hgood
      | error cause =>
          dsimp only
          by_cases hgone : cause = .notConnected
          · rw [if_pos hgone]
            exact hgood
          · rw [if_neg hgone]
            exact ⟨hgood.1, hgood.2.1, hgood.2.2.1, rfl, hgood.2.2.2⟩

/-! ## Payloads -/

/-- A session while a payload is moved on its data connection, one step after another.
What is told to the observers is a listing: all that the connection held at first. -/
inductive Carries (s : Session ν) : Session ν → Prop where
  | refl : Carries s s
  | log {t : Session ν} (level : Level) (component : Component) (text : String) :
      Carries s t → Carries s (t.log level component text)
  | tell {t : Session ν} {d : DataLink} :
      Carries s t → s.data = some d →
        Carries s (t.notify (.reply (Utf8.decode d.source.bytes)))
  | read {t : Session ν} {d : DataLink} (arrivals : List Arrival) :
      Carries s t → t.data = some d → Carries s (t.leaveData arrivals d)
  | write {t : Session ν} (bytes : List UInt8) :
      Carries s t → Carries s (t.settle (Network.sendData bytes t.network))
  | wrote {t : Session ν} (bytes : List UInt8) :
      Carries s t → Carries s (t.wire (.dataSent bytes))
  | store {t : Session ν} (files : FileTree) : Carries s t → Carries s { t with files }

namespace Carries

variable {s t : Session ν}

theorem remote (h : Carries s t) : t.data.map (·.remote) = s.data.map (·.remote) := by
  induction h with
  | refl => rfl
  | read arrivals _ hd ih => rw [← ih, hd]; rfl
  | log | tell | write | wrote | store => assumption

theorem follows (h : Carries s t) : Follows (fun e => ∃ bytes, e = .dataSent bytes) s t := by
  induction h with
  | refl => exact .refl s
  | log level component text _ ih => exact ih.trans (.log _ _ _ _)
  | tell _ _ ih => exact ih.trans (.record _ (by simp [AllWire]))
  | read arrivals _ _ ih => exact ih.trans (.setData _ _)
  | write bytes _ ih => exact ih.trans (.settle _ _)
  | wrote bytes _ ih => exact ih.trans (.wire _ ⟨bytes, rfl⟩)
  | store files _ ih => exact ih.trans (.setFiles _ files)

theorem exchanges (h : Carries s t) : Follows WireEvent.IsExchange s t := by
  refine h.follows.mono ?_
  intro _ hends
  obtain ⟨bytes, rfl⟩ := hends
  trivial

end Carries

/-- A payload moves octets on the data connection alone, and no failure of it leaves the
control connection trusted. -/
def IsPayload {α : Type} (payload : Session ν → Outcome ν α) : Prop :=
  ∀ s, (payload s).Ends (fun _ t => Carries s t) (fun e t => Carries s t ∧ e.breaksSession)

theorem receiveText_ends (s : Session ν) :
    s.receiveText.Ends
      (fun text t => Carries s t ∧ ∃ d, s.data = some d ∧ text = Utf8.decode d.source.bytes)
      (fun e t => Carries s t ∧ e.breaksSession) := by
  unfold receiveText
  cases hd : s.data with
  | none => exact ⟨.refl, rfl⟩
  | some d =>
      have hread : Carries s (s.leaveData [] d) := Carries.refl.read [] hd
      dsimp only
      cases d.source.ending.failure? with
      | some cause => exact ⟨hread, rfl⟩
      | none => exact ⟨hread.log _ _ _, d, rfl, rfl⟩

theorem receiveListing_isPayload : IsPayload (receiveListing (ν := ν)) := by
  intro s
  refine s.receiveText_ends.andThen ?_ fun _ _ h => h
  intro listing t hends
  obtain ⟨ht, d, hd, rfl⟩ := hends
  rw [Outcome.ends_ok]
  by_cases hempty : Utf8.decode d.source.bytes = ""
  · rw [if_pos hempty]
    exact ht
  · rw [if_neg hempty]
    exact ht.tell hd

theorem sendPieces_ends {s t : Session ν} (ht : Carries s t) (count : Nat)
    (pieces : List (List UInt8)) :
    (t.sendPieces count pieces).Ends (fun _ u => Carries s u)
      (fun e u => Carries s u ∧ e.breaksSession) := by
  induction pieces generalizing count t with
  | nil => exact ht
  | cons piece rest ih =>
      unfold sendPieces
      have hwrite : Carries s (t.settle (Network.sendData piece t.network)) := ht.write piece
      generalize Network.sendData piece t.network = r at hwrite ⊢
      dsimp only
      cases r.result with
      | error cause => exact ⟨hwrite, rfl⟩
      | ok _ => exact ih (hwrite.wrote piece) _

theorem sendFile_isPayload (source : Source) : IsPayload (sendFile (ν := ν) source) := by
  intro s
  unfold sendFile
  cases hd : s.data with
  | none => exact ⟨.refl, rfl⟩
  | some d =>
      refine (sendPieces_ends .refl _ _).andThen ?_ fun _ _ h => h
      intro count t ht
      cases source.ending.failure? with
      | some cause => exact ⟨ht, rfl⟩
      | none => exact ht.log _ _ _

omit [Network ν] in
theorem fileReceived_error {w : Sink.Drained} {ending : Ending} {e : Failure}
    (h : fileReceived w ending = .error e) : e.breaksSession := by
  unfold fileReceived at h
  repeat' split at h
  all_goals first | (obtain rfl := Except.error.inj h; rfl) | cases h

theorem receiveFile_ends (sink : Sink) (s : Session ν) :
    (s.receiveFile sink).1.Ends (fun _ t => Carries s t)
      (fun e t => Carries s t ∧ e.breaksSession) := by
  unfold receiveFile
  cases hd : s.data with
  | none => exact ⟨.refl, rfl⟩
  | some d =>
      dsimp only
      generalize sink.drain 0 (d.source.pieces transferBufferSize) = w
      have hread : Carries s (s.leaveData (w.rest.map .chunk) d) := Carries.refl.read _ hd
      cases hv : fileReceived w d.source.ending with
      | ok count => exact hread.log _ _ _
      | error e => exact ⟨hread, fileReceived_error hv⟩

theorem receiveInto_isPayload (place : Place) : IsPayload (receiveInto (ν := ν) place) := by
  intro s
  have h := receiveFile_ends (s.files.sinkAt place) s
  unfold receiveInto
  generalize s.receiveFile (s.files.sinkAt place) = received at h ⊢
  obtain ⟨⟨value, t⟩, sink⟩ := received
  cases value with
  | ok count => exact Carries.store _ h
  | error e => exact ⟨Carries.store _ h.1, h.2⟩

/-! ## Transfers -/

theorem enterPassive_ends {s : Session ν} (hs : s.data = none) :
    s.enterPassive.Ends
      (fun entered t => Follows WireEvent.IsWithin s t ∧
        (∀ reply, entered = .refused reply → t.data = none))
      (fun e t => Follows WireEvent.IsWithin s t ∧ e.breaksSession ∧ t.data = none) := by
  refine (s.command_ends .epsv).andThen ?_ ?_
  · intro reply t hends
    obtain ⟨ht, -, -⟩ := hends
    have hnone : t.data = none := by rw [ht.data, hs]
    by_cases hnegative : reply.isNegative
    · rw [if_pos hnegative]
      exact ⟨ht.within, fun _ _ => hnone⟩
    · rw [if_neg hnegative]
      split
      · rename_i e _ hport
        exact ⟨ht.within, Reply.dataPort_error hport, hnone⟩
      · rename_i e _ haddress
        exact ⟨ht.within, peerAddress_error haddress, hnone⟩
      · rename_i port address _ _
        refine Outcome.Ends.map ((openData_ends ⟨address, port⟩ hnone).mono ?_ ?_)
        · intro _ u hends
          obtain ⟨hu, -⟩ := hends
          exact ⟨ht.within.trans hu, fun _ h => nomatch h⟩
        · intro e u hends
          obtain ⟨hu, -, he, hclosed, -⟩ := hends
          exact ⟨ht.within.trans hu, he, hclosed⟩
  · intro e t hends
    obtain ⟨ht, he, -⟩ := hends
    exact ⟨ht.within, he, by rw [ht.data, hs]⟩

theorem exchange_ends {α : Type} {payload : Session ν → Outcome ν α} (c : Command)
    (hp : IsPayload payload) (s : Session ν) :
    (s.exchange c payload).Ends (fun _ t => Follows WireEvent.IsExchange s t)
      (fun e t => Follows WireEvent.IsExchange s t ∧ e.breaksSession) := by
  refine (s.command_ends c).andThen ?_ fun e t h => ⟨h.1.exchanges, h.2.1⟩
  intro first t hends
  obtain ⟨ht, -, -⟩ := hends
  by_cases hnegative : first.isNegative
  · rw [if_pos hnegative]
    exact ht.exchanges
  · rw [if_neg hnegative]
    refine (hp t).andThen ?_ fun e u h => ⟨ht.exchanges.trans h.1.exchanges, h.2⟩
    intro value u hu
    have hmoved := ht.exchanges.trans hu.exchanges
    refine u.closeData_ends.andThen ?_ fun e v h => ⟨hmoved.trans h.1, h.2.2.2.1⟩
    intro _ v hends
    obtain ⟨hv, -⟩ := hends
    have hclosed := hmoved.trans hv
    refine Outcome.Ends.map ?_
    by_cases hpreliminary : first.isPreliminary
    · rw [if_pos hpreliminary]
      refine v.receiveReply_ends.mono ?_ ?_
      · intro last w hends
        obtain ⟨hw, -⟩ := hends
        exact hclosed.trans hw.exchanges
      · intro e w hends
        obtain ⟨hw, he, -⟩ := hends
        exact ⟨hclosed.trans hw.exchanges, he⟩
    · rw [if_neg hpreliminary]
      exact hclosed

/-- A transfer stays within the control connection, and no data connection is left. -/
theorem transfer_ends {α : Type} {payload : Session ν → Outcome ν α} (c : Command)
    (hp : IsPayload payload) {s : Session ν} (hs : s.data = none) :
    (s.transfer c payload).Ends
      (fun _ t => Follows WireEvent.IsWithin s t ∧ t.data = none)
      (fun e t => Follows WireEvent.IsWithin s t ∧ t.data = none ∧ e.breaksSession) := by
  refine (enterPassive_ends hs).andThen ?_ fun e t h => ⟨h.1, h.2.2, h.2.1⟩
  intro entered t hends
  obtain ⟨ht, hrefused⟩ := hends
  cases entered with
  | refused reply => exact ⟨ht, hrefused reply rfl⟩
  | accepted _ =>
      have hex := exchange_ends c hp t
      dsimp only
      generalize t.exchange c payload = o at hex ⊢
      obtain ⟨value, u⟩ := o
      obtain ⟨hu, -, hnone, -⟩ := u.releaseData_spec
      have hwithin {v : Session ν} (hv : Follows WireEvent.IsExchange t v) :
          Follows WireEvent.IsWithin s v :=
        ht.trans (hv.mono fun _ => WireEvent.IsExchange.isWithin)
      cases value with
      | ok answer => exact ⟨hwithin (hex.trans hu), hnone⟩
      | error e => exact ⟨hwithin (hex.1.trans hu), hnone, hex.2⟩

end Session
end FtpClient
