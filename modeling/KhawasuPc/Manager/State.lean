import KhawasuPc.Device.Info

/-!
# The device manager

`PhyDeviceManager` keeps three tables: the devices that announced themselves,
the requests that wait for a reply, and the subscriptions.  What it does to the
outside (packets sent, callbacks called) is recorded as a list of effects in
order, and a callback is known only by the function it was set to.  What a
callback does in turn to the manager is a later event.

A pointer to a device is the place of the device in the table.  The table only
grows and `emplace` never replaces an entry, so a place stays good.
-/

namespace KhawasuPc

open Lib

/-! ## State -/

/-- `ActionSubscriptionData`. -/
structure ActionSubscriptionData where
  /-- The device, by its place in the table of devices. -/
  device : Option LogicalAddress
  id : UInt32
  actionId : UInt16
  duration : UInt16
  period : UInt32
  /-- Subscribe again when done. -/
  isRenew : Bool
  callback : Option FnRef
  doneCallback : Option FnRef
deriving DecidableEq, Repr

/-- `PhyDeviceManager`. -/
structure PhyDeviceManager where
  knownDevices : UMap FarAddr PhyDeviceInfo
  subscriptions : UMap UInt32 ActionSubscriptionData
  /-- `controller.self_port`. -/
  selfPort : UInt16
  /-- The requests, by id. -/
  actionResponses : UMap UInt8 ActionResponse
  /-- The next request id. -/
  actionResponsesCounter : UInt8
  /-- The next subscription id. -/
  subscriptionCounter : UInt32
  newDeviceCallback : Option FnRef
  actionCallback : Option FnRef

/-- What differs between new managers. -/
structure Setup where
  selfPort : UInt16
  newDeviceCallback : Option FnRef
  actionCallback : Option FnRef
deriving DecidableEq, Repr

/-- `PhyDeviceManager::PhyDeviceManager`, after the client has set its callbacks. -/
def PhyDeviceManager.make (setup : Setup) : PhyDeviceManager where
  knownDevices := ∅
  subscriptions := ∅
  selfPort := setup.selfPort
  actionResponses := ∅
  actionResponsesCounter := 0
  subscriptionCounter := 0
  newDeviceCallback := setup.newDeviceCallback
  actionCallback := setup.actionCallback

/-! ## Outcomes -/

/-- What the manager does to the outside. -/
inductive Effect where
  /-- A packet is handed to the mesh. -/
  | send (packet : SentPacket)
  | newDevice (callback : FnRef) (info : LogDeviceInfo)
  /-- `action_callback` is called, possibly with a null pointer. -/
  | action (callback : FnRef) (response : Option ActionResponse)
  /-- The `callback` of a subscription is called. -/
  | subscription (callback : FnRef) (data : ActionSubscriptionData) (payload : List UInt8)
  /-- The `done_callback` of a subscription is called. -/
  | subscriptionDone (callback : FnRef) (data : ActionSubscriptionData)
  /-- `LogicalDeviceManager::dispatch_packet` is called. -/
  | dispatch (log : LogicalPacket) (size : UInt16) (srcPhy : FarAddr)

/-- Why the process ends. -/
inductive Fault where
  /-- `assert(data->second.is_waiting)` failed. -/
  | assertIsWaiting
  /-- `assert(data.device)` failed. -/
  | assertDevice
  /-- `std::length_error`, out of the constructor of a vector. -/
  | lengthError
  /-- `std::bad_function_call`, out of an empty `std::function`. -/
  | badFunctionCall
  | danglingDevice
deriving DecidableEq, Repr

/-- What a function of the manager leaves behind. -/
structure Outcome where
  man : PhyDeviceManager
  /-- What was done to the outside, in order. -/
  effects : List Effect
  /-- What was read of the packet, in order. -/
  reads : List Span
  fault : Option Fault

namespace Outcome

/-- Nothing happened. -/
def skip (man : PhyDeviceManager) : Outcome := ⟨man, [], [], none⟩

/-- Go on from an outcome, unless it ended in a fault. -/
def andThen (o : Outcome) (next : PhyDeviceManager → Outcome) : Outcome :=
  match o.fault with
  | some _ => o
  | none =>
      let o' := next o.man
      ⟨o'.man, o.effects ++ o'.effects, o.reads ++ o'.reads, o'.fault⟩

/-- An `if` without an `else` whose condition reads `reads`. -/
def ifThen (reads : List Span) (c : Prop) [Decidable c] (body : PhyDeviceManager → Outcome)
    (man : PhyDeviceManager) : Outcome :=
  let o := if c then body man else skip man
  { o with reads := reads ++ o.reads }

@[simp] theorem skip_man (m : PhyDeviceManager) : (skip m).man = m := rfl
@[simp] theorem skip_effects (m : PhyDeviceManager) : (skip m).effects = [] := rfl
@[simp] theorem skip_reads (m : PhyDeviceManager) : (skip m).reads = [] := rfl
@[simp] theorem skip_fault (m : PhyDeviceManager) : (skip m).fault = none := rfl

/-- Two outcomes differ at most in that the first also reads `extra`. -/
structure Agree (extra : Span) (o o' : Outcome) : Prop where
  man : o.man = o'.man
  effects : o.effects = o'.effects
  mem_reads : ∀ s, s ∈ o.reads ↔ s = extra ∨ s ∈ o'.reads
  fault : o.fault = o'.fault

variable {x : Span} {o o' : Outcome} {m : PhyDeviceManager} {c : Prop} [Decidable c]
  {body next : PhyDeviceManager → Outcome}

theorem agree_ifThen_pos (h : c) : Agree x (ifThen [x] c body m) (body m) := by
  constructor <;> simp [ifThen, h]

theorem agree_ifThen_neg (h : ¬ c) : Agree x (ifThen [x] c body m) (skip m) := by
  constructor <;> simp [ifThen, h]

theorem Agree.andThen_neg (h : Agree x o o') (hc : ¬ c) :
    Agree x (o.andThen (ifThen [x] c body)) o' := by
  cases hf : o.fault with
  | some f => simpa [andThen, hf] using h
  | none =>
      have hi : o.andThen (ifThen [x] c body) = ⟨o.man, o.effects, o.reads ++ [x], none⟩ := by
        simp [andThen, hf, ifThen, hc]
      rw [hi]
      refine ⟨h.man, h.effects, fun s => ?_, hf ▸ h.fault⟩
      rw [List.mem_append, List.mem_singleton, h.mem_reads]
      tauto

theorem Agree.andThen_pos (h : Agree x o (skip m)) (hc : c) :
    Agree x (o.andThen (ifThen [x] c body)) (body m) := by
  have hf : o.fault = none := h.fault
  have hm : o.man = m := h.man
  constructor
  · simp [andThen, hf, hm, ifThen, hc]
  · simp [andThen, hf, hm, ifThen, hc, h.effects]
  · intro s
    simp [andThen, hf, hm, ifThen, hc, h.mem_reads]
  · simp [andThen, hf, hm, ifThen, hc]

end Outcome

/-! ## Lookups -/

namespace PhyDeviceManager

variable (man : PhyDeviceManager)

/-- `PhyDeviceManager::lookup`. -/
def lookup (addr : FarAddr) : Option PhyDeviceInfo := man.knownDevices.lookup addr

/-- `PhyDeviceManager::lookup_log`. -/
def lookupLog (addr : FarAddr) (port : UInt16) : Option LogDeviceInfo :=
  (man.lookup addr).bind fun phy => phy.logDevices.lookup port

/-- `PhyDeviceManager::lookup_action`: the first action of that name in the order
the loop meets them. -/
def lookupAction (E : Enumeration Nat DeviceApiAction) (addr : FarAddr) (port : UInt16)
    (name : CString) : Option (Nat × DeviceApiAction) :=
  (man.lookupLog addr port).bind fun dev =>
    (E.entries dev.actionsMap).find? fun pair => pair.2.name = name

end PhyDeviceManager

end KhawasuPc
