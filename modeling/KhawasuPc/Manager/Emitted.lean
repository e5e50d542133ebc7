import KhawasuPc.Protocol.Pool
import KhawasuPc.Device.Callback
import KhawasuPc.Manager.Request

/-!
# What a packet depends on

Four functions build a packet in pool memory.  `PacketCall` is one call of one of
them, with its arguments and the state it is made in, and `PacketCall.emits` is its
packets as bytes over what the memory held; `emits_received` says that a receiver
reads the packets of the model.

`execute_action_async` stores the flags only where a status is required, and
`on_action_get` stores no status at all.
-/

namespace KhawasuPc

open Lib

/-- A call that builds a packet. -/
inductive PacketCall where
  | execute (man : PhyDeviceManager) (addr : FarAddr) (port actionId : UInt16)
      (buffer : List UInt8) (requireStatus : Bool)
  | fetch (man : PhyDeviceManager) (addr : FarAddr) (port actionId : UInt16)
      (buffer : List UInt8)
  | subscribe (man : PhyDeviceManager) (data : ActionSubscriptionData)
  | get (dev : LogicalCallbackDevice) (F : Enumeration CString DeviceCallbackApiAction)
      (actionId : Int) (data : List UInt8) (addr : LogicalAddress) (requestId : UInt8)
      (respond : HandlerCall → List UInt8)

/-- The packet an effect sends. -/
def Effect.packet : Effect → Option SentPacket
  | .send packet => some packet
  | _ => none

/-- The packet an effect of a device sends. -/
def DeviceEffect.packet : DeviceEffect → Option SentPacket
  | .send packet => some packet
  | .call _ => none

namespace PacketCall

/-- The packets sent, `env.slot` being what the members not stored hold, unless the call
fails. -/
def sends (env : Ambient) : PacketCall → Option (List SentPacket)
  | .execute man addr port actionId buffer requireStatus =>
      some ((man.executeActionAsync env addr port actionId buffer requireStatus).effects.filterMap
        Effect.packet)
  | .fetch man addr port actionId buffer =>
      some ((man.fetchActionAsync env addr port actionId buffer).effects.filterMap Effect.packet)
  | .subscribe man data =>
      match (man.subscribeAction data).fault with
      | none => some ((man.subscribeAction data).effects.filterMap Effect.packet)
      | some _ => none
  | .get dev F actionId data addr requestId respond =>
      (dev.onActionGet F actionId data addr requestId env.slot respond).map fun effects =>
        effects.filterMap DeviceEffect.packet

/-- The packets sent, in memory that held `mem`, unless the call fails. -/
def emits (L : BodyLayout) (mem : Memory) : PacketCall → Option (List PoolPacket)
  | .execute man addr port actionId buffer requireStatus =>
      some [executePacket L mem ⟨addr, port⟩ man.selfPort man.actionResponsesCounter actionId
        requireStatus buffer]
  | .fetch man addr port actionId buffer =>
      some [fetchPacket L mem ⟨addr, port⟩ man.selfPort man.actionResponsesCounter actionId
        buffer]
  | .subscribe man data =>
      (data.device.bind man.deref).map fun device =>
        [startPacket L mem ⟨device.phy, device.log⟩ man.selfPort data.id data.actionId
          data.duration data.period]
  | .get dev F actionId data addr requestId respond =>
      (findCallback (dev.apiAction actionId) (F.entries dev.apiCallbacks)).map fun
        | none => []
        | some (action, actionName, callbacks) =>
            let buffer := respond
              { handler := callbacks.handlerGet
                name := actionName
                type := action.type
                data := data
                addr := addr
                requestId := some requestId
                customData := callbacks.customData }
            [responsePacket L mem addr dev.selfPort requestId buffer]

/-- What is read of the packets sent, in memory that held `mem`, unless the call fails. -/
def received (L : BodyLayout) (mem : Memory) (call : PacketCall) :
    Option (List (Option SentPacket)) :=
  (call.emits L mem).map fun packets => packets.map (·.received L)

/-- A receiver reads the packets of the model, where the slot is what the memory held. -/
theorem emits_received (L : BodyLayout) (mem : Memory) (env : Ambient) (call : PacketCall) :
    call.received L mem =
      (call.sends { env with slot := L.slot mem }).map fun packets => packets.map some := by
  cases call with
  | execute man addr port actionId buffer requireStatus =>
      rw [received, emits, Option.map_some, List.map_singleton, executePacket_received]
      cases requireStatus <;> rfl
  | fetch man addr port actionId buffer =>
      rw [received, emits, Option.map_some, List.map_singleton, fetchPacket_received]
      rfl
  | subscribe man data =>
      cases hdev : data.device with
      | none => simp [received, emits, sends, PhyDeviceManager.subscribeAction, hdev]
      | some place =>
          cases found : man.deref place with
          | none =>
              have same : PhyDeviceManager.deref
                  { man with subscriptions := man.subscriptions.emplace data.id data } place =
                none := found
              simp [received, emits, sends, PhyDeviceManager.subscribeAction, hdev, found, same]
          | some device =>
              have same : PhyDeviceManager.deref
                  { man with subscriptions := man.subscriptions.emplace data.id data } place =
                some device := found
              simp [received, emits, sends, PhyDeviceManager.subscribeAction, hdev, found, same,
                startPacket_received, Effect.packet]
  | get dev F actionId data addr requestId respond =>
      simp only [received, emits, sends, LogicalCallbackDevice.onActionGet]
      cases findCallback (dev.apiAction actionId) (F.entries dev.apiCallbacks) with
      | none => rfl
      | some found =>
          cases found with
          | none => rfl
          | some entry =>
              obtain ⟨action, actionName, callbacks⟩ := entry
              simp only [Option.map_some, List.map_singleton, responsePacket_received]
              rfl

/-! ## Two memories -/

/-- `require_status`, which only `execute_action_async` has. -/
def requiresStatus : PacketCall → Bool
  | .execute _ _ _ _ _ requireStatus => requireStatus
  | _ => false

/-- Every member a receiver reads is stored: a status is required, the device to subscribe
to is known, or no handler is found without a read outside the vector of actions. -/
def Complete : PacketCall → Prop
  | .execute _ _ _ _ _ requireStatus => requireStatus = true
  | .fetch .. => True
  | .subscribe man data => (data.device.bind man.deref).isSome
  | .get dev _ actionId .. =>
      dev.apiCallbacks = ∅ ∨
        ∃ action, dev.apiAction actionId = some action ∧ action.name ∉ dev.apiCallbacks

/-- The call does not fail, a receiver reads the same whatever the memory held, and
`REQUIRE_STATUS_RESPONSE` exactly where a status is required. -/
structure DependsOnArguments (L : BodyLayout) (call : PacketCall) : Prop where
  succeeds : ∀ mem, (call.emits L mem).isSome
  same : ∀ mem₁ mem₂, call.received L mem₁ = call.received L mem₂
  flagged : ∀ mem packets, call.emits L mem = some packets → ∀ p ∈ packets,
    ∀ dest srcPort ovlType reqId actionId flags payload,
      p.received L = some ⟨dest, srcPort, ovlType, .actionExecute reqId actionId flags payload⟩ →
        (flags = .requireStatusResponse ↔ call.requiresStatus = true)

/-! ## What it takes -/

section Iff

variable (L : BodyLayout)

/-- What is read of an `execute_action_async` depends on the arguments alone exactly if a
status is required. -/
theorem execute_iff (man : PhyDeviceManager) (addr : FarAddr) (port actionId : UInt16)
    (buffer : List UInt8) (requireStatus : Bool) :
    (execute man addr port actionId buffer requireStatus).DependsOnArguments L ↔
      requireStatus = true := by
  have env : Ambient := ⟨0, .unknown, L.slot fun _ => 0⟩
  cases requireStatus with
  | true =>
      refine iff_of_true ⟨fun _ => rfl, fun mem₁ mem₂ => ?_, ?_⟩ rfl
      · rw [emits_received L mem₁ env, emits_received L mem₂ env]
        rfl
      · intro mem packets emitted p hp dest srcPort ovlType reqId action flags payload h
        cases emitted
        rw [List.mem_singleton.mp hp, executePacket_received] at h
        cases h
        exact iff_of_true rfl rfl
  | false =>
      refine iff_of_false (fun depends => ?_) Bool.false_ne_true
      have recycled := executePacket_received L (fun _ => L.requireByte) ⟨addr, port⟩
        man.selfPort man.actionResponsesCounter actionId false buffer
      have flagged := depends.flagged _ _ rfl _ List.mem_cons_self _ _ _ _ _ _ _ recycled
      exact Bool.false_ne_true (flagged.mp L.flagsOf_require)

theorem fetch_dependsOnArguments (man : PhyDeviceManager) (addr : FarAddr)
    (port actionId : UInt16) (buffer : List UInt8) :
    (fetch man addr port actionId buffer).DependsOnArguments L := by
  have env : Ambient := ⟨0, .unknown, L.slot fun _ => 0⟩
  refine ⟨fun _ => rfl, fun mem₁ mem₂ => ?_, ?_⟩
  · rw [emits_received L mem₁ env, emits_received L mem₂ env]
    rfl
  · intro mem packets emitted p hp dest srcPort ovlType reqId action flags payload h
    cases emitted
    rw [List.mem_singleton.mp hp, fetchPacket_received] at h
    cases h

/-- What is read of a `subscribe_action` depends on the arguments alone exactly if the
device is known, without which the call fails. -/
theorem subscribe_iff (man : PhyDeviceManager) (data : ActionSubscriptionData) :
    (subscribe man data).DependsOnArguments L ↔ (data.device.bind man.deref).isSome := by
  refine ⟨fun depends => ?_, fun known => ⟨fun _ => ?_, fun mem₁ mem₂ => ?_, ?_⟩⟩
  · have succeeds := depends.succeeds fun _ => 0
    rwa [emits, Option.isSome_map] at succeeds
  · rwa [emits, Option.isSome_map]
  · obtain ⟨device, found⟩ := Option.isSome_iff_exists.mp known
    simp only [received, emits, found, Option.map_some, List.map_singleton,
      startPacket_received]
  · intro mem packets emitted p hp dest srcPort ovlType reqId action flags payload h
    obtain ⟨device, found⟩ := Option.isSome_iff_exists.mp known
    rw [emits, found, Option.map_some] at emitted
    cases emitted
    rw [List.mem_singleton.mp hp, startPacket_received] at h
    cases h

/-- What is read of an `on_action_get` depends on the arguments alone exactly if nothing is
sent: the status of an answer is not stored. -/
theorem get_iff (dev : LogicalCallbackDevice) (F : Enumeration CString DeviceCallbackApiAction)
    (actionId : Int) (data : List UInt8) (addr : LogicalAddress) (requestId : UInt8)
    (respond : HandlerCall → List UInt8) :
    (get dev F actionId data addr requestId respond).DependsOnArguments L ↔
      findCallback (dev.apiAction actionId) (F.entries dev.apiCallbacks) = some none := by
  cases search : findCallback (dev.apiAction actionId) (F.entries dev.apiCallbacks) with
  | none =>
      refine iff_of_false (fun depends => ?_) (by simp)
      have succeeds := depends.succeeds fun _ => 0
      rw [emits, search] at succeeds
      cases succeeds
  | some found =>
      cases found with
      | none =>
          have silent : ∀ mem, (get dev F actionId data addr requestId respond).emits L mem =
              some [] := by
            intro mem
            rw [emits, search]
            rfl
          refine iff_of_true ⟨fun mem => ?_, fun mem₁ mem₂ => ?_, ?_⟩ rfl
          · rw [silent, Option.isSome_some]
          · rw [received, received, silent, silent]
          · intro mem packets emitted p hp
            rw [silent] at emitted
            cases emitted
            cases hp
      | some entry =>
          refine iff_of_false (fun depends => ?_) (by simp)
          have same := depends.same (fun _ => L.unknownByte) fun _ => L.timeoutByte
          simp only [received, emits, search, Option.map_some, List.map_singleton,
            responsePacket_received, BodyLayout.slot, L.statusOf_unknown,
            L.statusOf_timeout] at same
          cases same

/-- For every call: it does not fail and what a receiver reads depends on the arguments
alone, exactly if every member is stored. -/
theorem dependsOnArguments_iff (call : PacketCall) :
    call.DependsOnArguments L ↔ call.Complete := by
  cases call with
  | execute man addr port actionId buffer requireStatus =>
      exact execute_iff L man addr port actionId buffer requireStatus
  | fetch man addr port actionId buffer =>
      exact iff_of_true (fetch_dependsOnArguments L man addr port actionId buffer) trivial
  | subscribe man data => exact subscribe_iff L man data
  | get dev F actionId data addr requestId respond =>
      rw [get_iff]
      exact LogicalCallbackDevice.findCallback_eq_nothing_iff dev F actionId

end Iff

/-! ### A recycled packet -/

/-- A call of `execute_action_async` by a new manager. -/
def switchLamp (requireStatus : Bool) : PacketCall :=
  .execute (.make ⟨1, none, none⟩) 7 20 3 [1] requireStatus

/-- The memory of a packet that required a status. -/
def recycled : Memory := (executePacket .packed (fun _ => 0) ⟨7, 20⟩ 1 0 3 true [1]).mem

/-- No status is required, and the packet in recycled memory requires one. -/
theorem switchLamp_recycled :
    (switchLamp false).received .packed (fun _ => 0) =
        some [some ⟨⟨7, 20⟩, 1, .unreliable, .actionExecute 0 3 (.other 0) [1]⟩] ∧
      (switchLamp false).received .packed recycled =
        some [some ⟨⟨7, 20⟩, 1, .unreliable, .actionExecute 0 3 .requireStatusResponse [1]⟩] := by
  decide

end PacketCall

end KhawasuPc
