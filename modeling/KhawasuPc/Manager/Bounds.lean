import KhawasuPc.Manager.Envelope

/-!
# Reads inside the packet

`mesh_packet_handler` checks that the envelope fits the received bytes and
nothing more.  The log line reads the logical header, `handle_packet` reads the
id of a reply or a subscription, and where the id is known it reads on, up to a
payload whose computed length always runs past the end.  `LengthFits` is the
exact condition on the bytes and on the tables under which all of this stays
inside.  HELLO packets are left out here.
-/

namespace KhawasuPc

open Lib

variable {L : PacketLayout} {man : PhyDeviceManager} {srcPhy : FarAddr} {mem : Memory}
  {size : UInt16} {log : LogicalPacket}

/-- The size macros are the offset of the members of the packet kind. -/
structure PacketLayout.OffsetSizes (L : PacketLayout) : Prop where
  response : L.sizeActionResponse.toNat = L.body
  callback : L.sizeSubscriptionCallback.toNat = L.body

/-! ## What is asked of the handlers -/

/-- A payload size is computed for the packet and is negative. -/
def WrapsPayloadSize (L : PacketLayout) (man : PhyDeviceManager) (log : LogicalPacket)
    (size : UInt16) : Prop :=
  match log.type L with
  | .actionResponse =>
      (∃ data, man.actionResponses.lookup (log.responseRequestId L) = some data ∧
        data.isWaiting = true) ∧ size.toNat + 1 < L.sizeActionResponse.toNat
  | .subscriptionCallback =>
      log.subscriptionId L ∈ man.subscriptions ∧ size.toNat + 1 < L.sizeSubscriptionCallback.toNat
  | _ => False

/-- Where the fixed members of a packet kind end. -/
def PacketLayout.fixedEnd (L : PacketLayout) : LogicalPacketType → Nat
  | .actionExecuteResult => max (L.executeResultRequestId + 1) (L.executeResultStatus + 1)
  | .actionResponse => L.responsePayload
  | .subscriptionDone => L.subscriptionId + 4
  | .subscriptionCallback => L.subscriptionPayload
  | _ => 0

/-- The received bytes end before the fixed members of the packet do. -/
def TooShort (L : PacketLayout) (log : LogicalPacket) (size : UInt16) : Prop :=
  size.toNat < log.off + L.fixedEnd (log.type L)

/-- Nothing was done about a packet but to pass it on. -/
structure Ignored (man : PhyDeviceManager) (o : Outcome) : Prop where
  man_eq : o.man = man
  fault_eq : o.fault = none
  effects : ∀ e ∈ o.effects, ∃ log size srcPhy, e = .dispatch log size srcPhy

/-- A packet is handled safely: every read is inside the received bytes, no payload
size is negative, and a packet that is too short is ignored. -/
structure PacketSafe (L : PacketLayout) (man : PhyDeviceManager) (log : LogicalPacket)
    (size : UInt16) (o : Outcome) : Prop where
  inside : ∀ s ∈ o.reads, s.Inside size.toNat
  no_wrap : ¬ WrapsPayloadSize L man log size
  short_ignored : TooShort L log size → Ignored man o

/-- Received bytes are handled safely. -/
structure LengthSafe (L : PacketLayout) (man : PhyDeviceManager) (mem : Memory) (size : UInt16)
    (o : Outcome) : Prop where
  inside : ∀ s ∈ o.reads, s.Inside size.toNat
  no_wrap : ∀ log, overlayData L mem size = some log → ¬ WrapsPayloadSize L man log size
  short_ignored : ∀ log, overlayData L mem size = some log → TooShort L log size → Ignored man o

/-! ## When they meet it -/

/-- What the log line reads is inside. -/
def HeaderFits (L : PacketLayout) (log : LogicalPacket) (size : UInt16) : Prop :=
  log.off + L.srcAddr + 2 ≤ size.toNat ∧ log.off + L.dstAddr + 2 ≤ size.toNat ∧
    log.off + L.type + 1 ≤ size.toNat

/-- The id of the packet is inside, and what follows the id too or the id is in no
table.  A reply with a payload must not meet a record that waits, a report no
subscription at all. -/
def KindFits (L : PacketLayout) (man : PhyDeviceManager) (log : LogicalPacket) (size : UInt16) :
    Prop :=
  match log.type L with
  | .actionExecuteResult =>
      log.off + L.executeResultRequestId + 1 ≤ size.toNat ∧
        (log.executeResultRequestId L ∈ man.actionResponses →
          log.off + L.executeResultStatus + 1 ≤ size.toNat)
  | .actionResponse =>
      log.off + L.responseRequestId + 1 ≤ size.toNat ∧
        ∀ data, man.actionResponses.lookup (log.responseRequestId L) = some data →
          data.isWaiting = false ∧ log.off + L.responsePayload ≤ size.toNat
  | .subscriptionDone => log.off + L.subscriptionId + 4 ≤ size.toNat
  | .subscriptionCallback =>
      log.off + L.subscriptionId + 4 ≤ size.toNat ∧ log.subscriptionId L ∉ man.subscriptions
  | _ => True

/-- The received bytes fit the handlers: they end before the overlay type, or the
overlay type is inside and so is what is read of the logical packet, if there is
one. -/
def LengthFits (L : PacketLayout) (man : PhyDeviceManager) (mem : Memory) (size : UInt16) : Prop :=
  size.toNat < L.ovlType ∨ (L.ovlType < size.toNat ∧
    ∀ log, overlayData L mem size = some log → HeaderFits L log size ∧ KindFits L man log size)

/-! ## Payloads run past the end -/

/-- A payload whose length is computed from all of the received bytes ends outside
of them, once it starts behind the header. -/
theorem payload_outside {w : UInt64} {off body : Nat} (hw : w.toNat = body)
    (hsize : body ≤ size.toNat) (hoff : body ≤ off) :
    ¬ vectorMaxSize < payloadSize size w ∧
      ¬ (Span.mk off (payloadSize size w).toNat).Inside size.toNat := by
  have counts : w.toNat ≤ size.toNat + 1 := by omega
  have hlen := payloadSize_toNat counts
  refine ⟨not_vectorMaxSize_lt_payloadSize counts, ?_⟩
  rintro (h | h)
  · simp only [hlen] at h
    omega
  · simp only [hlen] at h
    omega

/-! ## The bodies -/

theorem span_inside {off len : Nat} (hlen : 0 < len) :
    (log.span off len).Inside size.toNat ↔ log.off + off + len ≤ size.toNat := by
  simp only [LogicalPacket.span, Span.Inside]
  omega

theorem not_ignored {o : Outcome} {f : Fault} (h : o.fault = some f) : ¬ Ignored man o := by
  intro hi
  rw [hi.fault_eq] at h
  cases h

/-- A body that reads one member is safe if that is inside, and if the body is ignored
where the packet is too short. -/
theorem read_safe_iff {off len : Nat} (hlen : 0 < len) {o : Outcome}
    (hw : ¬ WrapsPayloadSize L man log size) (reads : o.reads = [log.span off len])
    (short : log.off + off + len ≤ size.toNat → TooShort L log size → Ignored man o) :
    PacketSafe L man log size o ↔ log.off + off + len ≤ size.toNat := by
  constructor
  · intro h
    refine (span_inside hlen).mp (h.inside _ ?_)
    rw [reads]
    exact List.mem_singleton_self _
  · intro inside
    refine ⟨fun s hs => ?_, hw, short inside⟩
    rw [reads, List.mem_singleton] at hs
    rw [hs]
    exact (span_inside hlen).mpr inside

/-- A body that reads one member and aborts is safe if all fixed members are inside. -/
theorem abort_safe_iff {off len : Nat} (hlen : 0 < len) {o : Outcome} {f : Fault}
    (hw : ¬ WrapsPayloadSize L man log size) (reads : o.reads = [log.span off len])
    (fault : o.fault = some f) :
    PacketSafe L man log size o ↔
      log.off + off + len ≤ size.toNat ∧ log.off + L.fixedEnd (log.type L) ≤ size.toNat := by
  have safe_iff := fun fits : ¬ TooShort L log size =>
    read_safe_iff hlen hw reads fun _ short => absurd short fits
  constructor
  · intro h
    have fits : ¬ TooShort L log size := fun short => not_ignored fault (h.short_ignored short)
    exact ⟨(safe_iff fits).mp h, Nat.not_lt.mp fits⟩
  · rintro ⟨inside, fits⟩
    exact (safe_iff (Nat.not_lt.mpr fits)).mpr inside

theorem handleExecuteResult_safe_iff (ht : log.type L = .actionExecuteResult) :
    PacketSafe L man log size (man.handleExecuteResult L log) ↔ KindFits L man log size := by
  have hw : ¬ WrapsPayloadSize L man log size := by simp [WrapsPayloadSize, ht]
  simp only [KindFits, ht]
  cases found : man.actionResponses.lookup (log.executeResultRequestId L) with
  | none =>
      have hmem := Finmap.lookup_eq_none.mp found
      simp only [hmem, PhyDeviceManager.handleExecuteResult, found, false_imp_iff, and_true]
      exact read_safe_iff Nat.one_pos hw rfl fun _ _ => ⟨rfl, rfl, by simp⟩
  | some data =>
      have hmem := Finmap.mem_of_lookup_eq_some found
      cases waiting : data.isWaiting with
      | false =>
          simp only [hmem, PhyDeviceManager.handleExecuteResult, found, waiting, true_imp_iff,
            Bool.false_eq_true, ↓reduceIte]
          rw [abort_safe_iff Nat.one_pos hw rfl rfl, ht]
          simp only [PacketLayout.fixedEnd]
          omega
      | true =>
          simp only [hmem, PhyDeviceManager.handleExecuteResult, found, waiting, true_imp_iff,
            ↓reduceIte]
          constructor
          · intro h
            exact ⟨(span_inside Nat.one_pos).mp (h.inside _ (by simp)),
              (span_inside Nat.one_pos).mp (h.inside _ (by simp))⟩
          · rintro ⟨hid, hstatus⟩
            refine ⟨fun s hs => ?_, hw, fun hshort => ?_⟩
            · simp only [List.mem_cons, List.not_mem_nil, or_false] at hs
              rcases hs with rfl | rfl
              · exact (span_inside Nat.one_pos).mpr hid
              · exact (span_inside Nat.one_pos).mpr hstatus
            · simp only [TooShort, PacketLayout.fixedEnd, ht] at hshort
              omega

theorem handleResponse_safe_iff (hL : L.OffsetSizes) (ht : log.type L = .actionResponse) :
    PacketSafe L man log size (man.handleResponse L log size) ↔ KindFits L man log size := by
  simp only [KindFits, ht]
  cases found : man.actionResponses.lookup (log.responseRequestId L) with
  | none =>
      have hw : ¬ WrapsPayloadSize L man log size := by simp [WrapsPayloadSize, ht, found]
      simp only [PhyDeviceManager.handleResponse, found, reduceCtorEq, false_imp_iff,
        implies_true, and_true]
      exact read_safe_iff Nat.one_pos hw rfl fun _ _ => ⟨rfl, rfl, by simp⟩
  | some data =>
      simp only [Option.some.injEq, forall_eq']
      cases waiting : data.isWaiting with
      | false =>
          have hw : ¬ WrapsPayloadSize L man log size := by
            simp [WrapsPayloadSize, ht, found, waiting]
          simp only [PhyDeviceManager.handleResponse, found, waiting, Bool.false_eq_true,
            ↓reduceIte, true_and]
          rw [abort_safe_iff Nat.one_pos hw rfl rfl, ht]
          rfl
      | true =>
          refine iff_of_false (fun h => ?_) (by simp)
          have hge := L.responseRequestId_ge
          have hlt := L.responseRequestId_lt
          have hid : log.off + L.responseRequestId + 1 ≤ size.toNat := by
            refine (span_inside Nat.one_pos).mp (h.inside _ ?_)
            by_cases hlen : vectorMaxSize < payloadSize size L.sizeActionResponse <;>
              simp [PhyDeviceManager.handleResponse, found, waiting, hlen]
          obtain ⟨hlen, hout⟩ := payload_outside hL.response
            (by omega : L.body ≤ size.toNat) (by omega : L.body ≤ log.off + L.responsePayload)
          refine hout (h.inside _ ?_)
          simp [PhyDeviceManager.handleResponse, found, waiting, hlen, LogicalPacket.span]

/-- The body for `SUBSCRIPTION_DONE` reads the id only. -/
theorem handleSubscriptionDone_reads :
    (man.handleSubscriptionDone L log).reads = [log.span L.subscriptionId 4] := by
  unfold PhyDeviceManager.handleSubscriptionDone
  split
  · rfl
  next data _ =>
    cases data.isRenew with
    | false => simp [Outcome.andThen]
    | true =>
        have hs := PhyDeviceManager.subscribeAction_subscribes man data
        simp only [Outcome.andThen, ↓reduceIte]
        generalize man.subscribeAction data = o at hs
        cases hs <;> rfl

theorem handleSubscriptionDone_safe_iff (ht : log.type L = .subscriptionDone) :
    PacketSafe L man log size (man.handleSubscriptionDone L log) ↔ KindFits L man log size := by
  have hw : ¬ WrapsPayloadSize L man log size := by simp [WrapsPayloadSize, ht]
  simp only [KindFits, ht]
  refine read_safe_iff (by decide) hw handleSubscriptionDone_reads fun inside short => ?_
  simp only [TooShort, PacketLayout.fixedEnd, ht] at short
  omega

theorem handleSubscriptionCallback_safe_iff (hL : L.OffsetSizes)
    (ht : log.type L = .subscriptionCallback) :
    PacketSafe L man log size (man.handleSubscriptionCallback L log size) ↔
      KindFits L man log size := by
  simp only [KindFits, ht]
  cases found : man.subscriptions.lookup (log.subscriptionId L) with
  | none =>
      have hmem := Finmap.lookup_eq_none.mp found
      have hw : ¬ WrapsPayloadSize L man log size := by simp [WrapsPayloadSize, ht, hmem]
      simp only [PhyDeviceManager.handleSubscriptionCallback, found, hmem, not_false_eq_true,
        and_true]
      exact read_safe_iff (by decide) hw rfl fun _ _ => ⟨rfl, rfl, by simp⟩
  | some data =>
      have hmem := Finmap.mem_of_lookup_eq_some found
      refine iff_of_false (fun h => ?_) (by simp [hmem])
      have hge := L.subscriptionId_ge
      have hlt := L.subscriptionId_lt
      have hid : log.off + L.subscriptionId + 4 ≤ size.toNat := by
        refine (span_inside (by decide)).mp (h.inside _ ?_)
        by_cases hlen : vectorMaxSize < payloadSize size L.sizeSubscriptionCallback <;>
          cases hc : data.callback <;>
          simp [PhyDeviceManager.handleSubscriptionCallback, found, hlen, hc]
      obtain ⟨hlen, hout⟩ := payload_outside hL.callback
        (by omega : L.body ≤ size.toNat) (by omega : L.body ≤ log.off + L.subscriptionPayload)
      refine hout (h.inside _ ?_)
      cases hc : data.callback <;>
        simp [PhyDeviceManager.handleSubscriptionCallback, found, hlen, hc, LogicalPacket.span]

/-- The body that runs for a packet is safe exactly when its kind fits. -/
theorem bodyOf_safe_iff (hL : L.OffsetSizes) (h₁ : log.type L ≠ .helloWorld)
    (h₂ : log.type L ≠ .helloWorldResponse) (hoff : log.off ≤ size.toNat) :
    PacketSafe L man log size (man.bodyOf L srcPhy log size (log.type L)) ↔
      KindFits L man log size := by
  have other : (∀ k, WrapsPayloadSize L man log size → k) → L.fixedEnd (log.type L) = 0 →
      (PacketSafe L man log size (.skip man) ↔ True) := by
    intro hw hfix
    refine iff_true_intro ⟨by simp, fun h => hw _ h, fun hshort => ?_⟩
    simp only [TooShort, hfix] at hshort
    omega
  unfold PhyDeviceManager.bodyOf
  cases ht : log.type L with
  | helloWorld => exact absurd ht h₁
  | helloWorldResponse => exact absurd ht h₂
  | actionExecuteResult => exact handleExecuteResult_safe_iff ht
  | actionResponse => exact handleResponse_safe_iff hL ht
  | subscriptionDone => exact handleSubscriptionDone_safe_iff ht
  | subscriptionCallback => exact handleSubscriptionCallback_safe_iff hL ht
  | _ =>
      simp only [KindFits, ht]
      exact other (by simp [WrapsPayloadSize, ht]) (by rw [ht]; rfl)

/-! ## The whole handler -/

/-- The logical packet starts inside. -/
theorem overlayData_off_le (h : overlayData L mem size = some log) : log.off ≤ size.toNat := by
  unfold overlayData at h
  split at h
  · cases h
  · split at h
    · split at h
      · cases h
      · cases h
        simpa using Nat.not_lt.mp ‹_›
    · split at h
      · cases h
      · cases h
        simpa using Nat.not_lt.mp ‹_›
    · cases h

theorem overlayReads_inside :
    (∀ s ∈ overlayReads L size, s.Inside size.toNat) ↔
      size.toNat < L.ovlType ∨ L.ovlType < size.toNat := by
  unfold overlayReads
  by_cases h : size.toNat < L.ovlType
  · simp [h]
  · simp only [h, ↓reduceIte, List.mem_singleton, forall_eq, Span.Inside, false_or]
    omega

theorem printReads_inside :
    (∀ s ∈ printReads L log, s.Inside size.toNat) ↔ HeaderFits L log size := by
  simp only [printReads, List.forall_mem_cons, List.not_mem_nil, false_imp_iff, implies_true,
    and_true, HeaderFits, span_inside (by decide : 0 < 2), span_inside Nat.one_pos]

/-- What is done safely about a packet does not depend on where it came in. -/
theorem Handles.safe_iff {o : Outcome} (h : Handles L man srcPhy log size o) :
    ((∀ s ∈ o.reads, s.Inside size.toNat) ∧ ¬ WrapsPayloadSize L man log size ∧
        (TooShort L log size → Ignored man o)) ↔
      (∀ s ∈ overlayReads L size, s.Inside size.toNat) ∧ HeaderFits L log size ∧
        PacketSafe L man log size (man.bodyOf L srcPhy log size (log.type L)) := by
  have spec := PhyDeviceManager.handlePacket_spec L man srcPhy log size
  have hignored : Ignored man o ↔
      Ignored man (man.bodyOf L srcPhy log size (log.type L)) := by
    constructor
    · rintro ⟨hm, hf, he⟩
      refine ⟨by rw [← spec.man, ← h.man_eq, hm], by rw [← spec.fault, ← h.fault_eq, hf], ?_⟩
      intro e hmem
      rw [← spec.effects] at hmem
      exact he e (h.effects e hmem)
    · rintro ⟨hm, hf, he⟩
      refine ⟨by rw [h.man_eq, spec.man, hm], by rw [h.fault_eq, spec.fault, hf], ?_⟩
      intro e hmem
      rcases h.only e hmem with hmem | rfl
      · rw [spec.effects] at hmem
        exact he e hmem
      · exact ⟨_, _, _, rfl⟩
  have hreads : (∀ s ∈ o.reads, s.Inside size.toNat) ↔
      (∀ s ∈ overlayReads L size, s.Inside size.toNat) ∧ HeaderFits L log size ∧
        ∀ s ∈ (man.bodyOf L srcPhy log size (log.type L)).reads, s.Inside size.toNat := by
    rw [← printReads_inside]
    constructor
    · intro hin
      refine ⟨fun s hs => hin s ((h.mem_reads s).mpr (Or.inl hs)),
        fun s hs => hin s ((h.mem_reads s).mpr (Or.inr (Or.inl hs))), fun s hs => ?_⟩
      exact hin s ((h.mem_reads s).mpr (Or.inr (Or.inr ((spec.mem_reads s).mpr (Or.inr hs)))))
    · rintro ⟨hovl, hprint, hbody⟩ s hs
      rcases (h.mem_reads s).mp hs with hs | hs | hs
      · exact hovl s hs
      · exact hprint s hs
      · rcases (spec.mem_reads s).mp hs with rfl | hs
        · exact hprint _ (by simp [printReads])
        · exact hbody s hs
  rw [hreads, hignored]
  constructor
  · rintro ⟨⟨hovl, hheader, hbody⟩, hw, hshort⟩
    exact ⟨hovl, hheader, hbody, hw, hshort⟩
  · rintro ⟨hovl, hheader, hbody, hw, hshort⟩
    exact ⟨⟨hovl, hheader, hbody⟩, hw, hshort⟩

/-- Received bytes that are no HELLO are handled safely exactly when they fit. -/
theorem meshPacketHandler_safe_iff (hL : L.OffsetSizes) (front : FrontEnd)
    (hkind : ∀ log, overlayData L mem size = some log →
      log.type L ≠ .helloWorld ∧ log.type L ≠ .helloWorldResponse) :
    LengthSafe L man mem size (front.meshPacketHandler L man srcPhy mem size) ↔
      LengthFits L man mem size := by
  unfold LengthFits
  cases hlog : overlayData L mem size with
  | none =>
      rw [meshPacketHandler_none front hlog]
      simp only [reduceCtorEq, false_imp_iff, implies_true, and_true, ← overlayReads_inside]
      constructor
      · exact LengthSafe.inside
      · exact fun h => ⟨h, fun log hl => by simp [hlog] at hl, fun log hl => by simp [hlog] at hl⟩
  | some log =>
      have hoff := overlayData_off_le hlog
      obtain ⟨h₁, h₂⟩ := hkind log hlog
      have hovl : ¬ size.toNat < L.ovlType := by
        intro hlt
        simp [overlayData, hlt] at hlog
      have hsafe := (meshPacketHandler_some front man srcPhy hlog).safe_iff
      rw [bodyOf_safe_iff hL h₁ h₂ hoff, overlayReads_inside] at hsafe
      simp only [hovl, false_or, Option.some.injEq, forall_eq'] at hsafe ⊢
      rw [← hsafe]
      constructor
      · intro h
        exact ⟨h.inside, h.no_wrap log hlog, h.short_ignored log hlog⟩
      · rintro ⟨hin, hw, hshort⟩
        refine ⟨hin, fun log' hl => ?_, fun log' hl => ?_⟩ <;>
          (rw [hlog] at hl; cases hl)
        · exact hw
        · exact hshort

/-- A well formed reply to a request that waits is read past its end. -/
theorem reply_read_past_end :
    ¬ LengthSafe .packed waitingMan oneByteReply 9
      (FrontEnd.cApi.meshPacketHandler .packed waitingMan 2 oneByteReply 9) := by
  intro h
  have hout : ¬ (Span.mk 8 5).Inside 9 := by decide
  exact hout (h.inside _ (by decide))

/-- The same reply is handled safely where no request waits for it. -/
theorem unexpected_reply_safe :
    LengthSafe .packed (.make ⟨1, none, none⟩) oneByteReply 9
      (FrontEnd.cApi.meshPacketHandler .packed (.make ⟨1, none, none⟩) 2 oneByteReply 9) := by
  refine (meshPacketHandler_safe_iff ⟨rfl, rfl⟩ .cApi ?_).mpr (Or.inr ⟨by decide, ?_⟩)
  · rintro log hlog
    cases hlog
    decide
  · rintro log hlog
    cases hlog
    refine ⟨⟨by decide, by decide, by decide⟩, by decide, fun data hdata => ?_⟩
    cases hdata

end KhawasuPc
