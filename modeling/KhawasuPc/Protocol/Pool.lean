import KhawasuPc.Lib.Stores
import KhawasuPc.Protocol.Packet

/-!
# Packets in pool memory

`alloc_logical_packet_ptr` takes the memory of a packet from a pool, with the bytes
that an earlier packet left there, and sets the addresses and the types.  The
members of the body are then stored one by one.  A member that is not stored keeps
what the memory held.

`BodyLayout` is where the members lie.  Each builder is the run of stores of one
function.  What a receiver reads of its packet is the packet of the model, where
the slot is what the memory held (`executePacket_received` and so on).
-/

namespace KhawasuPc

open Lib

/-! ## Layout -/

/-- Where the members of the packets sent lie in a logical packet, and what their
bytes mean. -/
structure BodyLayout where
  executeRequestId : Nat
  executeActionId : Nat
  executeFlags : Nat
  executePayload : Nat
  fetchRequestId : Nat
  fetchActionId : Nat
  fetchPayload : Nat
  responseRequestId : Nat
  responseStatus : Nat
  responsePayload : Nat
  startId : Nat
  startActionId : Nat
  startDuration : Nat
  startPeriod : Nat
  /-- What a byte of flags means to a receiver. -/
  flagsOf : UInt8 → ActionExecuteFlags
  /-- What a byte of a status means to a receiver. -/
  statusOf : UInt8 → ActionExecuteStatus
  /-- `ActionExecuteFlags::REQUIRE_STATUS_RESPONSE`. -/
  requireByte : UInt8
  /-- `ActionExecuteStatus::UNKNOWN`. -/
  unknownByte : UInt8
  /-- `ActionExecuteStatus::TIMEOUT`. -/
  timeoutByte : UInt8
  flagsOf_require : flagsOf requireByte = .requireStatusResponse
  statusOf_unknown : statusOf unknownByte = .unknown
  statusOf_timeout : statusOf timeoutByte = .timeout
  execute_laid :
    Laid [⟨executeRequestId, 1⟩, ⟨executeActionId, 2⟩, ⟨executeFlags, 1⟩] executePayload
  fetch_laid : Laid [⟨fetchRequestId, 1⟩, ⟨fetchActionId, 2⟩] fetchPayload
  response_laid : Laid [⟨responseRequestId, 1⟩, ⟨responseStatus, 1⟩] responsePayload
  start_apart :
    [⟨startId, 4⟩, ⟨startActionId, 2⟩, ⟨startDuration, 2⟩, ⟨startPeriod, 4⟩].Pairwise Span.Apart

instance (s t : Span) : Decidable (s.Apart t) := by
  unfold Span.Apart
  infer_instance

/-- A packed layout behind a header of five bytes. -/
def BodyLayout.packed : BodyLayout where
  executeRequestId := 5
  executeActionId := 6
  executeFlags := 8
  executePayload := 9
  fetchRequestId := 5
  fetchActionId := 6
  fetchPayload := 8
  responseRequestId := 5
  responseStatus := 6
  responsePayload := 7
  startId := 5
  startActionId := 9
  startDuration := 11
  startPeriod := 13
  flagsOf
    | 1 => .requireStatusResponse
    | c => .other c
  statusOf
    | 0 => .unknown
    | 1 => .timeout
    | 2 => .actionNotFound
    | c => .other c
  requireByte := 1
  unknownByte := 0
  timeoutByte := 1
  flagsOf_require := rfl
  statusOf_unknown := rfl
  statusOf_timeout := rfl
  execute_laid := ⟨by decide, by decide⟩
  fetch_laid := ⟨by decide, by decide⟩
  response_laid := ⟨by decide, by decide⟩
  start_apart := by decide

namespace BodyLayout

variable (L : BodyLayout)

/-- What the memory holds where members are that are not always stored. -/
def slot (mem : Memory) : PoolSlot where
  flags := L.flagsOf (mem L.executeFlags)
  status := L.statusOf (mem L.responseStatus)

/-- What a receiver reads of a body, `size` being the size of its payload. -/
def read (mem : Memory) (size : Nat) : LogicalPacketType → Option SentBody
  | .actionExecute =>
      some (.actionExecute (mem L.executeRequestId) (UInt16.ofNat (mem.read L.executeActionId 2))
        (L.flagsOf (mem L.executeFlags)) (mem.slice L.executePayload size))
  | .actionFetch =>
      some (.actionFetch (mem L.fetchRequestId) (UInt16.ofNat (mem.read L.fetchActionId 2))
        (mem.slice L.fetchPayload size))
  | .actionResponse =>
      some (.actionResponse (mem L.responseRequestId) (L.statusOf (mem L.responseStatus))
        (mem.slice L.responsePayload size))
  | .subscriptionStart =>
      some (.subscriptionStart (UInt32.ofNat (mem.read L.startId 4))
        (UInt16.ofNat (mem.read L.startActionId 2)) (UInt16.ofNat (mem.read L.startDuration 2))
        (UInt32.ofNat (mem.read L.startPeriod 4)))
  | _ => none

end BodyLayout

/-! ## Stores -/

section Stores

variable (L : BodyLayout)

/-- The stores of `execute_action_async`. -/
def executeStores (reqId : UInt8) (actionId : UInt16) (requireStatus : Bool)
    (buffer : List UInt8) : List Store :=
  [⟨L.executeRequestId, [reqId]⟩, ⟨L.executeActionId, leBytes 2 actionId.toNat⟩] ++
    (if requireStatus then [⟨L.executeFlags, [L.requireByte]⟩] else []) ++
    [⟨L.executePayload, buffer⟩]

/-- The stores of `fetch_action_async`. -/
def fetchStores (reqId : UInt8) (actionId : UInt16) (buffer : List UInt8) : List Store :=
  [⟨L.fetchRequestId, [reqId]⟩, ⟨L.fetchActionId, leBytes 2 actionId.toNat⟩,
    ⟨L.fetchPayload, buffer⟩]

/-- The stores of `subscribe_action`. -/
def startStores (id : UInt32) (actionId duration : UInt16) (period : UInt32) : List Store :=
  [⟨L.startId, leBytes 4 id.toNat⟩, ⟨L.startActionId, leBytes 2 actionId.toNat⟩,
    ⟨L.startDuration, leBytes 2 duration.toNat⟩, ⟨L.startPeriod, leBytes 4 period.toNat⟩]

/-- The stores of `on_action_get`. -/
def responseStores (requestId : UInt8) (buffer : List UInt8) : List Store :=
  [⟨L.responsePayload, buffer⟩, ⟨L.responseRequestId, [requestId]⟩]

theorem executeStores_separate (reqId : UInt8) (actionId : UInt16) (requireStatus : Bool)
    (buffer : List UInt8) : Separate (executeStores L reqId actionId requireStatus buffer) := by
  refine L.execute_laid.pairwise ?_ buffer
  cases requireStatus <;> simp [Store.span]

theorem fetchStores_separate (reqId : UInt8) (actionId : UInt16) (buffer : List UInt8) :
    Separate (fetchStores L reqId actionId buffer) :=
  L.fetch_laid.pairwise
    (l := [⟨L.fetchRequestId, [reqId]⟩, ⟨L.fetchActionId, leBytes 2 actionId.toNat⟩])
    (by simp [Store.span]) buffer

theorem startStores_separate (id : UInt32) (actionId duration : UInt16) (period : UInt32) :
    Separate (startStores L id actionId duration period) := by
  refine List.pairwise_map.mp ?_
  simpa [startStores, Store.span] using L.start_apart

theorem responseStores_separate (requestId : UInt8) (buffer : List UInt8) :
    Separate (responseStores L requestId buffer) :=
  (L.response_laid.pairwise (l := [⟨L.responseRequestId, [requestId]⟩])
    (by simp [Store.span]) buffer).perm (List.Perm.swap _ _ _)

end Stores

/-! ## Packets -/

/-- A packet handed to `finish_ptr`, in memory. -/
structure PoolPacket where
  dest : LogicalAddress
  srcPort : UInt16
  ovlType : OverlayProtoType
  type : LogicalPacketType
  /-- Addressed from the start of the logical packet. -/
  mem : Memory
  /-- The size of the payload. -/
  size : Nat

/-- What its receiver reads. -/
def PoolPacket.received (L : BodyLayout) (p : PoolPacket) : Option SentPacket :=
  (L.read p.mem p.size p.type).map fun body => ⟨p.dest, p.srcPort, p.ovlType, body⟩

variable (L : BodyLayout) (mem : Memory) (dest : LogicalAddress) (srcPort : UInt16)

/-- The packet of `execute_action_async`. -/
def executePacket (reqId : UInt8) (actionId : UInt16) (requireStatus : Bool)
    (buffer : List UInt8) : PoolPacket where
  dest := dest
  srcPort := srcPort
  ovlType := .unreliable
  type := .actionExecute
  mem := mem.stores (executeStores L reqId actionId requireStatus buffer)
  size := buffer.length

/-- The packet of `fetch_action_async`. -/
def fetchPacket (reqId : UInt8) (actionId : UInt16) (buffer : List UInt8) : PoolPacket where
  dest := dest
  srcPort := srcPort
  ovlType := .unreliable
  type := .actionFetch
  mem := mem.stores (fetchStores L reqId actionId buffer)
  size := buffer.length

/-- The packet of `subscribe_action`. -/
def startPacket (id : UInt32) (actionId duration : UInt16) (period : UInt32) : PoolPacket where
  dest := dest
  srcPort := srcPort
  ovlType := .unreliable
  type := .subscriptionStart
  mem := mem.stores (startStores L id actionId duration period)
  size := 0

/-- The packet of `on_action_get`. -/
def responsePacket (requestId : UInt8) (buffer : List UInt8) : PoolPacket where
  dest := dest
  srcPort := srcPort
  ovlType := .unreliable
  type := .actionResponse
  mem := mem.stores (responseStores L requestId buffer)
  size := buffer.length

/-! ## What is received -/

theorem read_uint16 {mem : Memory} {off : Nat} {n : UInt16}
    (h : mem.Holds off (leBytes 2 n.toNat)) : UInt16.ofNat (mem.read off 2) = n := by
  rw [h.read_eq n.toNat_lt, UInt16.ofNat_toNat]

theorem read_uint32 {mem : Memory} {off : Nat} {n : UInt32}
    (h : mem.Holds off (leBytes 4 n.toNat)) : UInt32.ofNat (mem.read off 4) = n := by
  rw [h.read_eq n.toNat_lt, UInt32.ofNat_toNat]

/-- The flags after the stores: those the memory held, unless a status is required.  Only then is
there a store of them. -/
theorem flags_executeStores (reqId : UInt8) (actionId : UInt16) (requireStatus : Bool)
    (buffer : List UInt8) :
    L.flagsOf (mem.stores (executeStores L reqId actionId requireStatus buffer) L.executeFlags) =
      if requireStatus then .requireStatusResponse else (L.slot mem).flags := by
  cases requireStatus with
  | true =>
      have held := mem.stores_holds (executeStores_separate L reqId actionId true buffer)
        (s := ⟨L.executeFlags, [L.requireByte]⟩) (by simp [executeStores])
      rw [held.byte_eq, L.flagsOf_require]
      rfl
  | false =>
      have separate : Separate
          (⟨L.executeFlags, [L.requireByte]⟩ :: executeStores L reqId actionId false buffer) :=
        (executeStores_separate L reqId actionId true buffer).perm
          (((List.perm_append_singleton _ [_, _]).append_right [_]))
      rw [mem.stores_left_out separate]
      rfl

/-- The status after the stores is the one the memory held: a store of it would share no byte with
them. -/
theorem status_responseStores (requestId : UInt8) (buffer : List UInt8) :
    L.statusOf (mem.stores (responseStores L requestId buffer) L.responseStatus) =
      (L.slot mem).status := by
  have separate : Separate
      (⟨L.responseStatus, [L.unknownByte]⟩ :: responseStores L requestId buffer) :=
    (L.response_laid.pairwise
      (l := [⟨L.responseRequestId, [requestId]⟩, ⟨L.responseStatus, [L.unknownByte]⟩])
      (by simp [Store.span]) buffer).perm (List.perm_append_singleton _ [_, _]).symm
  rw [mem.stores_left_out separate]
  rfl

/-- The flags of an `ACTION_EXECUTE` are those the memory held, unless a status is required. -/
theorem executePacket_received (reqId : UInt8) (actionId : UInt16) (requireStatus : Bool)
    (buffer : List UInt8) :
    (executePacket L mem dest srcPort reqId actionId requireStatus buffer).received L =
      some
        { dest := dest
          srcPort := srcPort
          ovlType := .unreliable
          body := .actionExecute reqId actionId
            (if requireStatus then .requireStatusResponse else (L.slot mem).flags) buffer } := by
  have holds := fun s => mem.stores_holds (s := s)
    (executeStores_separate L reqId actionId requireStatus buffer)
  have id := (holds ⟨L.executeRequestId, [reqId]⟩ (by simp [executeStores])).byte_eq
  have action := read_uint16
    (holds ⟨L.executeActionId, leBytes 2 actionId.toNat⟩ (by simp [executeStores]))
  have payload := (holds ⟨L.executePayload, buffer⟩ (by simp [executeStores])).slice_eq rfl
  simp only [PoolPacket.received, executePacket, BodyLayout.read, Option.map_some]
  rw [id, action, payload, flags_executeStores]

/-- An `ACTION_FETCH` is what was passed. -/
theorem fetchPacket_received (reqId : UInt8) (actionId : UInt16) (buffer : List UInt8) :
    (fetchPacket L mem dest srcPort reqId actionId buffer).received L =
      some
        { dest := dest
          srcPort := srcPort
          ovlType := .unreliable
          body := .actionFetch reqId actionId buffer } := by
  have holds := fun s => mem.stores_holds (s := s) (fetchStores_separate L reqId actionId buffer)
  have id := (holds ⟨L.fetchRequestId, [reqId]⟩ (by simp [fetchStores])).byte_eq
  have action := read_uint16
    (holds ⟨L.fetchActionId, leBytes 2 actionId.toNat⟩ (by simp [fetchStores]))
  have payload := (holds ⟨L.fetchPayload, buffer⟩ (by simp [fetchStores])).slice_eq rfl
  simp only [PoolPacket.received, fetchPacket, BodyLayout.read, Option.map_some]
  rw [id, action, payload]

/-- A `SUBSCRIPTION_START` is what was passed. -/
theorem startPacket_received (id : UInt32) (actionId duration : UInt16) (period : UInt32) :
    (startPacket L mem dest srcPort id actionId duration period).received L =
      some
        { dest := dest
          srcPort := srcPort
          ovlType := .unreliable
          body := .subscriptionStart id actionId duration period } := by
  have holds := fun s =>
    mem.stores_holds (s := s) (startStores_separate L id actionId duration period)
  have sub := read_uint32 (holds ⟨L.startId, leBytes 4 id.toNat⟩ (by simp [startStores]))
  have action := read_uint16
    (holds ⟨L.startActionId, leBytes 2 actionId.toNat⟩ (by simp [startStores]))
  have lasts := read_uint16
    (holds ⟨L.startDuration, leBytes 2 duration.toNat⟩ (by simp [startStores]))
  have every := read_uint32 (holds ⟨L.startPeriod, leBytes 4 period.toNat⟩ (by simp [startStores]))
  simp only [PoolPacket.received, startPacket, BodyLayout.read, Option.map_some]
  rw [sub, action, lasts, every]

/-- The status of an `ACTION_RESPONSE` is the one the memory held. -/
theorem responsePacket_received (requestId : UInt8) (buffer : List UInt8) :
    (responsePacket L mem dest srcPort requestId buffer).received L =
      some
        { dest := dest
          srcPort := srcPort
          ovlType := .unreliable
          body := .actionResponse requestId (L.slot mem).status buffer } := by
  have holds := fun s => mem.stores_holds (s := s) (responseStores_separate L requestId buffer)
  have id := (holds ⟨L.responseRequestId, [requestId]⟩ (by simp [responseStores])).byte_eq
  have payload := (holds ⟨L.responsePayload, buffer⟩ (by simp [responseStores])).slice_eq rfl
  simp only [PoolPacket.received, responsePacket, BodyLayout.read, Option.map_some]
  rw [id, payload, status_responseStores]

end KhawasuPc
