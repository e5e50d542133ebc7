import KhawasuPc.Manager.HandlePacket

/-!
# Packets in their envelopes

`mesh_packet_handler` finds the logical packet in the overlay packet that came
over the mesh.  There are two of it: the one of the C interface hands the packet
to the manager and then to the local devices, the one of the application the
other way round.  Both pass on the size of the whole overlay packet, from which
`handle_packet` computes how long the payload is.

Two things follow.  The payload a client gets is the one that was sent only in
an envelope of one length (`payload_exact_iff`).  And whether every read stays
inside the packet depends on more than its length (`meshPacketHandler_safe_iff`).
-/

namespace KhawasuPc

open Lib

/-! ## The handlers -/

/-- `log` in `mesh_packet_handler`, unless it returns before it is set. -/
def overlayData (L : PacketLayout) (mem : Memory) (size : UInt16) : Option LogicalPacket :=
  if size.toNat < L.ovlType then none
  else
    match L.ovlTypeOf (mem L.ovlType) with
    | .reliable => if size.toNat < L.reliableData then none else some ⟨mem, L.reliableData⟩
    | .unreliable => if size.toNat < L.unreliableData then none else some ⟨mem, L.unreliableData⟩
    | .other _ => none

/-- What is read of the envelope. -/
def overlayReads (L : PacketLayout) (size : UInt16) : List Span :=
  if size.toNat < L.ovlType then [] else [⟨L.ovlType, 1⟩]

/-- What the log line about a new packet reads. -/
def printReads (L : PacketLayout) (log : LogicalPacket) : List Span :=
  [log.span L.srcAddr 2, log.span L.dstAddr 2, log.span L.type 1]

/-- `LogicalDeviceManager::dispatch_packet`, on the devices of this process. -/
def dispatchPacket (log : LogicalPacket) (size : UInt16) (srcPhy : FarAddr)
    (man : PhyDeviceManager) : Outcome :=
  ⟨man, [.dispatch log size srcPhy], [], none⟩

/-- `mesh_packet_handler` of the C interface. -/
def CApi.meshPacketHandler (L : PacketLayout) (man : PhyDeviceManager) (srcPhy : FarAddr)
    (mem : Memory) (size : UInt16) : Outcome :=
  match overlayData L mem size with
  | none => ⟨man, [], overlayReads L size, none⟩
  | some log =>
      Outcome.andThen ⟨man, [], overlayReads L size ++ printReads L log, none⟩
          (fun man => man.handlePacket L srcPhy log size)
        |>.andThen (dispatchPacket log size srcPhy)

/-- `KhawasuApp::mesh_packet_handler`; `started` says that `phy_manager` is set. -/
def KhawasuApp.meshPacketHandler (L : PacketLayout) (started : Bool) (man : PhyDeviceManager)
    (srcPhy : FarAddr) (mem : Memory) (size : UInt16) : Outcome :=
  match overlayData L mem size with
  | none => ⟨man, [], overlayReads L size, none⟩
  | some log =>
      Outcome.andThen ⟨man, [], overlayReads L size ++ printReads L log, none⟩
          (dispatchPacket log size srcPhy)
        |>.andThen fun man => if started then man.handlePacket L srcPhy log size else .skip man

/-- The two programs a packet can come in through. -/
inductive FrontEnd where
  | cApi
  | app
deriving DecidableEq, Repr

/-- `mesh_packet_handler` of a program that is set up. -/
def FrontEnd.meshPacketHandler (L : PacketLayout) (man : PhyDeviceManager) (srcPhy : FarAddr)
    (mem : Memory) (size : UInt16) : FrontEnd → Outcome
  | .cApi => CApi.meshPacketHandler L man srcPhy mem size
  | .app => KhawasuApp.meshPacketHandler L true man srcPhy mem size

variable {L : PacketLayout} {man : PhyDeviceManager} {srcPhy : FarAddr} {mem : Memory}
  {size : UInt16} {log : LogicalPacket} (front : FrontEnd)

theorem meshPacketHandler_none (h : overlayData L mem size = none) :
    front.meshPacketHandler L man srcPhy mem size = ⟨man, [], overlayReads L size, none⟩ := by
  cases front with
  | cApi => simp only [FrontEnd.meshPacketHandler, CApi.meshPacketHandler, h]
  | app => simp only [FrontEnd.meshPacketHandler, KhawasuApp.meshPacketHandler, h]

/-- What both handlers do with a logical packet, up to the order. -/
structure Handles (L : PacketLayout) (man : PhyDeviceManager) (srcPhy : FarAddr)
    (log : LogicalPacket) (size : UInt16) (o : Outcome) : Prop where
  man_eq : o.man = (man.handlePacket L srcPhy log size).man
  fault_eq : o.fault = (man.handlePacket L srcPhy log size).fault
  effects : ∀ e ∈ (man.handlePacket L srcPhy log size).effects, e ∈ o.effects
  only : ∀ e ∈ o.effects, e ∈ (man.handlePacket L srcPhy log size).effects ∨
    e = .dispatch log size srcPhy
  mem_reads : ∀ s, s ∈ o.reads ↔ s ∈ overlayReads L size ∨ s ∈ printReads L log ∨
    s ∈ (man.handlePacket L srcPhy log size).reads

theorem meshPacketHandler_some (man : PhyDeviceManager) (srcPhy : FarAddr)
    (h : overlayData L mem size = some log) :
    Handles L man srcPhy log size (front.meshPacketHandler L man srcPhy mem size) := by
  cases front with
  | cApi =>
      simp only [FrontEnd.meshPacketHandler, CApi.meshPacketHandler, h, Outcome.andThen]
      cases hf : (man.handlePacket L srcPhy log size).fault with
      | none =>
          refine ⟨rfl, hf.symm, ?_, ?_, ?_⟩
          · exact fun e he => List.mem_append_left _ he
          · simp [dispatchPacket]
          · simp [dispatchPacket]
      | some f =>
          refine ⟨rfl, hf.symm, fun e he => he, fun e he => Or.inl he, ?_⟩
          simp
  | app =>
      simp only [FrontEnd.meshPacketHandler, KhawasuApp.meshPacketHandler, h, Outcome.andThen,
        dispatchPacket]
      refine ⟨rfl, rfl, ?_, ?_, ?_⟩
      · exact fun e he => List.mem_append_right _ he
      · simp [or_comm]
      · simp

/-! ## Payloads -/

/-- The envelopes a logical packet comes in. -/
inductive Envelope where
  | reliable
  | unreliable
deriving DecidableEq, Repr

/-- The overlay type of an envelope. -/
def Envelope.ovlType : Envelope → OverlayProtoType
  | .reliable => .reliable
  | .unreliable => .unreliable

/-- The size of an envelope. -/
def PacketLayout.dataOff (L : PacketLayout) : Envelope → Nat
  | .reliable => L.reliableData
  | .unreliable => L.unreliableData

/-- The packets whose payload a client gets. -/
inductive PayloadKind where
  | response
  | callback
deriving DecidableEq, Repr

/-- The packet type of a kind. -/
def PayloadKind.type : PayloadKind → LogicalPacketType
  | .response => .actionResponse
  | .callback => .subscriptionCallback

/-- Where the payload of a kind lies. -/
def PacketLayout.payloadOff (L : PacketLayout) : PayloadKind → Nat
  | .response => L.responsePayload
  | .callback => L.subscriptionPayload

/-- `LOG_PACKET_SIZE` of a kind. -/
def PacketLayout.logPacketSize (L : PacketLayout) : PayloadKind → UInt64
  | .response => L.sizeActionResponse
  | .callback => L.sizeSubscriptionCallback

/-- The received bytes are an envelope around a packet of the kind that carries the
payload, and end with it. -/
structure CarriesPayload (L : PacketLayout) (envelope : Envelope) (kind : PayloadKind)
    (payload : List UInt8) (mem : Memory) (size : UInt16) : Prop where
  ovlType_eq : L.ovlTypeOf (mem L.ovlType) = envelope.ovlType
  type_eq : LogicalPacket.type L ⟨mem, L.dataOff envelope⟩ = kind.type
  holds : mem.Holds (L.dataOff envelope + L.payloadOff kind) payload
  size_eq : size.toNat = L.dataOff envelope + L.payloadOff kind + payload.length

/-- The id of the packet is in the table its kind is about, and waits. -/
def PayloadKind.Expected (L : PacketLayout) (man : PhyDeviceManager) (log : LogicalPacket) :
    PayloadKind → Prop
  | .response => ∃ data, man.actionResponses.lookup (log.responseRequestId L) = some data ∧
      data.isWaiting = true
  | .callback => ∃ data callback, man.subscriptions.lookup (log.subscriptionId L) = some data ∧
      data.callback = some callback

/-- The payload is what is stored in the record of the request, or passed to the
callback of the subscription. -/
def PayloadKind.Received (L : PacketLayout) (log : LogicalPacket) (o : Outcome)
    (payload : List UInt8) : PayloadKind → Prop
  | .response => ∃ data, o.man.actionResponses.lookup (log.responseRequestId L) = some data ∧
      data.isWaiting = false ∧ data.payload = payload
  | .callback => ∃ callback data, Effect.subscription callback data payload ∈ o.effects

theorem dataOff_gt (envelope : Envelope) : L.ovlType < L.dataOff envelope := by
  cases envelope with
  | reliable => exact L.ovlType_lt_reliable
  | unreliable => exact L.ovlType_lt_unreliable

/-- The logical packet of a long enough envelope. -/
theorem overlayData_of_envelope {envelope : Envelope}
    (h : L.ovlTypeOf (mem L.ovlType) = envelope.ovlType) (hs : L.dataOff envelope ≤ size.toNat) :
    overlayData L mem size = some ⟨mem, L.dataOff envelope⟩ := by
  have hlt : ¬ size.toNat < L.ovlType := by
    have : L.ovlType < L.dataOff envelope := dataOff_gt envelope
    omega
  cases envelope <;>
    simp only [overlayData, hlt, h, Envelope.ovlType, ↓reduceIte] <;>
    exact if_neg (Nat.not_lt.mpr hs)

/-- The computed length is that of what follows the first `off` bytes exactly when
the macro is one more than `off`. -/
theorem payloadSize_eq_iff {n off : Nat} {w : UInt64} (h : size.toNat = off + n) :
    (payloadSize size w).toNat = n ↔ off + 1 = w.toNat := by
  have hs : size.toNat < 65536 := size.toNat_lt
  have hw : w.toNat < 18446744073709551616 := w.toNat_lt
  rw [payloadSize, UInt64.toNat_add, UInt64.toNat_sub, UInt16.toNat_toUInt64]
  simp only [UInt64.toNat_one]
  omega

/-- The client gets the payload that was sent exactly when the envelope, the offset
of the payload and one more byte are as long as the macro says. -/
theorem payload_exact_iff {envelope : Envelope} {kind : PayloadKind} {payload : List UInt8}
    (h : CarriesPayload L envelope kind payload mem size)
    (hid : kind.Expected L man ⟨mem, L.dataOff envelope⟩) :
    kind.Received L ⟨mem, L.dataOff envelope⟩ (front.meshPacketHandler L man srcPhy mem size)
        payload ↔
      L.dataOff envelope + L.payloadOff kind + 1 = (L.logPacketSize kind).toNat := by
  have hsome := overlayData_of_envelope h.ovlType_eq (by rw [h.size_eq]; omega)
  have ho := meshPacketHandler_some front man srcPhy hsome
  have spec := PhyDeviceManager.handlePacket_spec L man srcPhy ⟨mem, L.dataOff envelope⟩ size
  rw [h.type_eq] at spec
  have hsize : size.toNat < 65536 := size.toNat_lt
  rw [← payloadSize_eq_iff h.size_eq, ← h.holds.slice_eq_iff]
  generalize front.meshPacketHandler L man srcPhy mem size = o at ho
  have long : ∀ {len : UInt64}, vectorMaxSize < len →
      mem.slice (L.dataOff envelope + L.payloadOff kind) len.toNat ≠ payload := by
    intro len hlen he
    refine not_vectorMaxSize_lt ?_ hlen
    rw [h.holds.slice_eq_iff] at he
    have := h.size_eq
    omega
  cases kind with
  | response =>
      obtain ⟨data, found, waiting⟩ := hid
      by_cases hlen : vectorMaxSize < payloadSize size L.sizeActionResponse
      · refine iff_of_false ?_ (long hlen)
        rintro ⟨data', found', waiting', -⟩
        rw [ho.man_eq, spec.man] at found'
        simp only [PhyDeviceManager.bodyOf, PayloadKind.type, PhyDeviceManager.handleResponse,
          found, waiting, hlen, ↓reduceIte, Finmap.lookup_insert, Option.some.injEq] at found'
        subst found'
        cases waiting'
      · simp only [PayloadKind.Received, ho.man_eq, spec.man, PhyDeviceManager.bodyOf,
          PayloadKind.type, PhyDeviceManager.handleResponse, found, waiting, hlen, ↓reduceIte,
          Finmap.lookup_insert, Option.some.injEq, exists_eq_left', true_and]
        exact Iff.rfl
  | callback =>
      obtain ⟨data, callback, found, set⟩ := hid
      by_cases hlen : vectorMaxSize < payloadSize size L.sizeSubscriptionCallback
      · refine iff_of_false ?_ (long hlen)
        rintro ⟨callback', data', heff⟩
        rcases ho.only _ heff with heff | heff
        · rw [spec.effects] at heff
          simp only [PhyDeviceManager.bodyOf, PayloadKind.type,
            PhyDeviceManager.handleSubscriptionCallback, found, hlen, ↓reduceIte] at heff
          cases heff
        · cases heff
      · have heffects : (man.handlePacket L srcPhy ⟨mem, L.dataOff envelope⟩ size).effects =
            [.subscription callback data (mem.slice (L.dataOff envelope + L.subscriptionPayload)
              (payloadSize size L.sizeSubscriptionCallback).toNat)] := by
          rw [spec.effects]
          simp only [PhyDeviceManager.bodyOf, PayloadKind.type,
            PhyDeviceManager.handleSubscriptionCallback, found, hlen, set, ↓reduceIte]
          rfl
        constructor
        · rintro ⟨callback', data', heff⟩
          rcases ho.only _ heff with heff | heff
          · rw [heffects, List.mem_singleton] at heff
            cases heff
            rfl
          · cases heff
        · intro he
          refine ⟨callback, data, ho.effects _ ?_⟩
          rw [heffects, List.mem_singleton, ← he]
          rfl

/-! ### One byte sent -/

/-- A manager that waits for the reply to its first request. -/
def waitingMan : PhyDeviceManager :=
  ((PhyDeviceManager.make ⟨1, none, none⟩).fetchActionAsync
    ⟨0, .other 9, ⟨.other 0, .other 0⟩⟩ 2 10 3 []).man

/-- An `ACTION_RESPONSE` in an unreliable envelope, with one byte of payload. -/
def oneByteReply : Memory := Memory.ofList [1, 10, 0, 1, 0, 5, 0, 0, 42]

/-- The client gets bytes that were not sent. -/
theorem trailing_bytes_received :
    CarriesPayload .packed .unreliable .response [42] oneByteReply 9 ∧
      PayloadKind.response.Expected .packed waitingMan ⟨oneByteReply, 1⟩ ∧
      ¬ PayloadKind.response.Received .packed ⟨oneByteReply, 1⟩
        (FrontEnd.cApi.meshPacketHandler .packed waitingMan 2 oneByteReply 9) [42] := by
  refine ⟨⟨rfl, rfl, rfl, rfl⟩, ⟨_, rfl, rfl⟩, ?_⟩
  rintro ⟨data, hdata, -, hpayload⟩
  cases hdata
  cases hpayload

/-- With a larger `LOG_PACKET_SIZE` the same packet delivers its byte. -/
theorem exact_byte_received :
    PayloadKind.response.Received { PacketLayout.packed with sizeActionResponse := 9 }
      ⟨oneByteReply, 1⟩
      (FrontEnd.cApi.meshPacketHandler { PacketLayout.packed with sizeActionResponse := 9 }
        waitingMan 2 oneByteReply 9) [42] := by
  have h : CarriesPayload { PacketLayout.packed with sizeActionResponse := 9 } .unreliable
      .response [42] oneByteReply 9 := ⟨rfl, rfl, rfl, rfl⟩
  exact (payload_exact_iff .cApi h ⟨_, rfl, rfl⟩).mpr rfl

end KhawasuPc
