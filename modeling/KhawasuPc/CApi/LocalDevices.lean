import KhawasuPc.Device.Dispatch
import KhawasuPc.Lib.Machine

/-!
# Local devices of a context

`create_device` makes a device whose actions all have the same two handlers,
`action_handler_get` and `action_handler_set`.  Which callback of the client these call is decided
when a request comes, by what is registered in the context then.

`LocalSpec` says what local devices are for: a table of ports and actions, and two callbacks that
are called with what the table says.  A context does in every run what the table does, however its
maps are iterated (`run_refines`).
-/

namespace KhawasuPc

open Lib

/-! ## Callbacks of the client -/

/-- A call of the `ACTION_FETCH_CALLBACK`. -/
structure FetchCall where
  callback : FnRef
  senderPhy : FarAddr
  senderLog : UInt16
  selfLog : UInt16
  actionName : CString
  actionType : ActionType
  data : List UInt8
  /-- What `out_size` points to. -/
  outSize : Nat
deriving DecidableEq, Repr

/-- A call of the `ACTION_EXECUTE_CALLBACK`, which is not told how long the data is. -/
structure ExecuteCall where
  callback : FnRef
  senderPhy : FarAddr
  senderLog : UInt16
  selfLog : UInt16
  actionName : CString
  actionType : ActionType
  data : List UInt8
deriving DecidableEq, Repr

/-- What the client does in the call of a fetch callback. -/
structure FetchReply where
  /-- The memory from the pointer it returns on. -/
  result : Memory
  /-- What it stores through `out_size`, if it does. -/
  stored : Option Nat

/-- The bytes that `action_handler_get` takes. -/
def FetchReply.payload (reply : FetchReply) (call : FetchCall) : List UInt8 :=
  reply.result.slice 0 (reply.stored.getD call.outSize)

/-- What the client does in the calls of its callbacks. -/
structure LocalReplies where
  fetch : FetchCall → FetchReply
  execute : ExecuteCall → ActionExecuteStatus

/-- What `action_handler_get` returns, the call it makes being what it is. -/
def LocalReplies.fetched (replies : LocalReplies) : Option FetchCall → List UInt8
  | none => []
  | some call => (replies.fetch call).payload call

/-- What `action_handler_set` returns, the call it makes being what it is. -/
def LocalReplies.executed (replies : LocalReplies) : Option ExecuteCall → ActionExecuteStatus
  | none => .unknown
  | some call => replies.execute call

/-- What local devices do to the outside. -/
inductive LocalEffect where
  | fetch (call : FetchCall)
  | execute (call : ExecuteCall)
  | send (packet : SentPacket)
  /-- `on_action_set` returns. -/
  | returns (status : ActionExecuteStatus)
deriving DecidableEq, Repr

/-- Something that happens to the local devices of a context. -/
inductive LocalEvent where
  | registerCallbackActionExecute (callback : Option FnRef)
  | registerCallbackActionFetch (callback : Option FnRef)
  | createDevice (logAddr : UInt16) (actions : List DeviceApiAction)
  /-- `on_action_get` of the `dev`-th device is called. -/
  | onActionGet (dev : Nat) (actionId : Int) (data : List UInt8) (addr : LogicalAddress)
      (requestId : UInt8) (slot : PoolSlot) (replies : LocalReplies)
  /-- `on_action_set` of the `dev`-th device is called. -/
  | onActionSet (dev : Nat) (actionId : Int) (data : List UInt8) (addr : LogicalAddress)
      (replies : LocalReplies)

/-! ## The context -/

/-- `ActionHandlerData`, with the number of the device. -/
structure ActionHandlerData where
  dev : Nat
deriving DecidableEq, Repr

/-- What a `CONTEXT` has to do with its local devices. -/
structure LocalContext where
  actionExecuteCallback : Option FnRef
  actionFetchCallback : Option FnRef
  /-- The devices that were created. -/
  devices : List LogicalCallbackDevice
  /-- What was allocated for them. -/
  handlerData : List ActionHandlerData

namespace LocalContext

/-- `action_handler_get`, as the devices refer to it. -/
def getRef : FnRef := ⟨0⟩

/-- `action_handler_set`, as the devices refer to it. -/
def setRef : FnRef := ⟨1⟩

/-- A new context. -/
def init : LocalContext := ⟨none, none, [], []⟩

variable (F : Enumeration CString DeviceCallbackApiAction) (ctx : LocalContext)

/-- `create_device`. -/
def createDevice (logAddr : UInt16) (actions : List DeviceApiAction) : LocalContext :=
  { ctx with
    devices := ctx.devices ++
      [.createDevice logAddr ⟨getRef, setRef, ctx.handlerData.length⟩ actions]
    handlerData := ctx.handlerData ++ [⟨ctx.devices.length⟩] }

/-- `handler_data->dev`. -/
def handlerDevice (customData : Nat) : Option LogicalCallbackDevice :=
  (ctx.handlerData[customData]?).bind fun data => ctx.devices[data.dev]?

/-- The call that `action_handler_get` makes, if a callback is registered. -/
def fetchCall (call : HandlerCall) : Option FetchCall :=
  ctx.actionFetchCallback.bind fun callback =>
    (ctx.handlerDevice call.customData).map fun dev =>
      { callback := callback
        senderPhy := call.addr.phy
        senderLog := call.addr.log
        selfLog := dev.selfPort
        actionName := call.name
        actionType := call.type
        data := call.data
        outSize := call.data.length }

/-- The call that `action_handler_set` makes, if a callback is registered. -/
def executeCall (call : HandlerCall) : Option ExecuteCall :=
  ctx.actionExecuteCallback.bind fun callback =>
    (ctx.handlerDevice call.customData).map fun dev =>
      { callback := callback
        senderPhy := call.addr.phy
        senderLog := call.addr.log
        selfLog := dev.selfPort
        actionName := call.name
        actionType := call.type
        data := call.data }

/-- `action_handler_get`. -/
def actionHandlerGet (replies : LocalReplies) (call : HandlerCall) : List UInt8 :=
  replies.fetched (ctx.fetchCall call)

/-- `action_handler_set`. -/
def actionHandlerSet (replies : LocalReplies) (call : HandlerCall) : ActionExecuteStatus :=
  replies.executed (ctx.executeCall call)

/-- What comes of something a device does. -/
def onEffect : DeviceEffect → List LocalEffect
  | .call call =>
      if call.handler = getRef then (ctx.fetchCall call).toList.map .fetch
      else (ctx.executeCall call).toList.map .execute
  | .send packet => [.send packet]

/-- What an event does to the outside.  It is not defined where a device that does not exist is
asked, or one reads its vector out of bounds. -/
def effects : LocalEvent → Option (List LocalEffect)
  | .registerCallbackActionExecute _ | .registerCallbackActionFetch _ | .createDevice .. => some []
  | .onActionGet dev actionId data addr requestId slot replies =>
      (ctx.devices[dev]?).bind fun dev =>
        (dev.onActionGet F actionId data addr requestId slot (ctx.actionHandlerGet replies)).map
          fun done => done.flatMap ctx.onEffect
  | .onActionSet dev actionId data addr replies =>
      (ctx.devices[dev]?).bind fun dev =>
        (dev.onActionSet F actionId data addr (ctx.actionHandlerSet replies)).map
          fun done => done.1.flatMap ctx.onEffect ++ [.returns done.2]

/-- What an event leaves behind. -/
def next : LocalEvent → LocalContext
  | .registerCallbackActionExecute callback => { ctx with actionExecuteCallback := callback }
  | .registerCallbackActionFetch callback => { ctx with actionFetchCallback := callback }
  | .createDevice logAddr actions => ctx.createDevice logAddr actions
  | .onActionGet .. | .onActionSet .. => ctx

/-- The machine of the local devices. -/
def machine : Lib.Machine LocalContext LocalEvent :=
  ⟨fun ctx e => (ctx.effects F e).map fun _ => ctx.next e⟩

/-- What an event puts out. -/
def puts (e : LocalEvent) : List LocalEffect := (ctx.effects F e).getD []

end LocalContext

/-! ## What it is for -/

/-- A table of devices, each with its port and actions, and two callbacks. -/
structure LocalSpec where
  executeCallback : Option FnRef
  fetchCallback : Option FnRef
  devices : List (UInt16 × List DeviceApiAction)

namespace LocalSpec

/-- Nothing is registered or created. -/
def init : LocalSpec := ⟨none, none, []⟩

variable (s : LocalSpec)

/-- The port of a device and its action with the id. -/
def action (dev : Nat) (actionId : Int) : Option (UInt16 × DeviceApiAction) :=
  (s.devices[dev]?).bind fun device =>
    if 0 ≤ actionId then (device.2[actionId.toNat]?).map (device.1, ·) else none

/-- The device has no actions. -/
def bare (dev : Nat) : Bool := (s.devices[dev]?).any fun device => device.2.isEmpty

/-- The call of the fetch callback for an action, if one is set. -/
def fetchCall (port : UInt16) (action : DeviceApiAction) (data : List UInt8)
    (addr : LogicalAddress) : Option FetchCall :=
  s.fetchCallback.map fun callback =>
    { callback := callback
      senderPhy := addr.phy
      senderLog := addr.log
      selfLog := port
      actionName := action.name
      actionType := action.type
      data := data
      outSize := data.length }

/-- The call of the execute callback for an action, if one is set. -/
def executeCall (port : UInt16) (action : DeviceApiAction) (data : List UInt8)
    (addr : LogicalAddress) : Option ExecuteCall :=
  s.executeCallback.map fun callback =>
    { callback := callback
      senderPhy := addr.phy
      senderLog := addr.log
      selfLog := port
      actionName := action.name
      actionType := action.type
      data := data }

/-- The fetch callback is called, and what it returns is sent. -/
def fetched (port : UInt16) (action : DeviceApiAction) (data : List UInt8) (addr : LogicalAddress)
    (requestId : UInt8) (slot : PoolSlot) (replies : LocalReplies) : List LocalEffect :=
  let call := s.fetchCall port action data addr
  call.toList.map .fetch ++
    [.send ⟨addr, port, .unreliable,
      .actionResponse requestId slot.status (replies.fetched call)⟩]

/-- The execute callback is called, and what it returns is returned. -/
def executed (port : UInt16) (action : DeviceApiAction) (data : List UInt8) (addr : LogicalAddress)
    (replies : LocalReplies) : List LocalEffect :=
  let call := s.executeCall port action data addr
  call.toList.map .execute ++ [.returns (replies.executed call)]

/-- What an event does to the outside.  An id that is none of an action is refused by a device
without actions, and may not be asked of another. -/
def effects : LocalEvent → Option (List LocalEffect)
  | .registerCallbackActionExecute _ | .registerCallbackActionFetch _ | .createDevice .. => some []
  | .onActionGet dev actionId data addr requestId slot replies =>
      match s.action dev actionId with
      | some (port, action) => some (s.fetched port action data addr requestId slot replies)
      | none => if s.bare dev then some [] else none
  | .onActionSet dev actionId data addr replies =>
      match s.action dev actionId with
      | some (port, action) => some (s.executed port action data addr replies)
      | none => if s.bare dev then some [.returns .actionNotFound] else none

/-- What an event leaves behind. -/
def next : LocalEvent → LocalSpec
  | .registerCallbackActionExecute callback => { s with executeCallback := callback }
  | .registerCallbackActionFetch callback => { s with fetchCallback := callback }
  | .createDevice logAddr actions => { s with devices := s.devices ++ [(logAddr, actions)] }
  | .onActionGet .. | .onActionSet .. => s

/-- The machine of the table. -/
def machine : Lib.Machine LocalSpec LocalEvent :=
  ⟨fun s e => (s.effects e).map fun _ => s.next e⟩

/-- What an event puts out. -/
def puts (e : LocalEvent) : List LocalEffect := (s.effects e).getD []

end LocalSpec

/-! ## The context does what the table does -/

/-- The device listens on the port it was made for. -/
theorem LogicalCallbackDevice.build_selfPort (port : UInt16) (regs : List Registration) :
    (build port regs).selfPort = port := by
  induction regs using List.reverseRecOn with
  | nil => rfl
  | append_singleton regs reg ih =>
      unfold build at ih ⊢
      rw [List.foldl_append]
      exact ih

theorem mem_of_lastNamed {regs : List Registration} {name : CString} {last : Registration}
    (h : lastNamed regs name = some last) : last ∈ regs :=
  List.mem_reverse.mp (List.mem_of_find?_eq_some h)

namespace LocalContext

variable {F : Enumeration CString DeviceCallbackApiAction} {ctx ctx' : LocalContext}
  {e : LocalEvent} {es : List LocalEvent} {i : Nat} {dev : LogicalCallbackDevice}

/-- The handlers of the `i`-th device. -/
def handlers (i : Nat) : DeviceCallbackApiAction := ⟨getRef, setRef, i⟩

/-- Every action of a device leads to the same two handlers, and these to the device. -/
structure Wired (ctx : LocalContext) : Prop where
  data : ctx.handlerData = (List.range ctx.devices.length).map ActionHandlerData.mk
  built : ∀ (i : Nat) (dev : LogicalCallbackDevice), ctx.devices[i]? = some dev →
    dev = .build dev.selfPort (dev.apiActions.map (⟨·, handlers i⟩))

theorem build_apiActions (port : UInt16) (actions : List DeviceApiAction) (i : Nat) :
    (LogicalCallbackDevice.build port (actions.map (⟨·, handlers i⟩))).apiActions = actions := by
  rw [(LogicalCallbackDevice.build_registered ..).actions, List.map_map]
  exact List.map_id' actions

theorem Wired.init : Wired init where
  data := rfl
  built _ _ found := by cases found

theorem Wired.next (h : Wired ctx) (e : LocalEvent) : Wired (ctx.next e) := by
  cases e with
  | createDevice logAddr actions =>
      have number : ctx.handlerData.length = ctx.devices.length := by
        rw [h.data, List.length_map, List.length_range]
      constructor
      · show ctx.handlerData ++ [⟨ctx.devices.length⟩] = List.map _ (List.range (_ ++ [_]).length)
        rw [List.length_append, List.length_singleton, List.range_succ, List.map_append, ← h.data]
        rfl
      · intro i dev found
        replace found : (ctx.devices ++ [.createDevice logAddr (handlers ctx.handlerData.length)
          actions])[i]? = some dev := found
        rw [LogicalCallbackDevice.createDevice_eq_build, List.getElem?_append] at found
        split at found
        · exact h.built i dev found
        · obtain ⟨last, rfl⟩ := List.getElem?_eq_some_iff.mp found
          have same : i = ctx.handlerData.length := by
            rw [List.length_singleton] at last
            omega
          rw [List.getElem_singleton, LogicalCallbackDevice.build_selfPort, build_apiActions, same]
  | registerCallbackActionExecute | registerCallbackActionFetch | onActionGet | onActionSet =>
      exact ⟨h.data, h.built⟩

/-- A device holds what was added to it. -/
theorem Wired.registered (h : Wired ctx) (found : ctx.devices[i]? = some dev) :
    dev.Registered (dev.apiActions.map (⟨·, handlers i⟩)) := by
  have registered := LogicalCallbackDevice.build_registered dev.selfPort
    (dev.apiActions.map (⟨·, handlers i⟩))
  rwa [← h.built i dev found] at registered

/-- The handlers of a device lead to it. -/
theorem Wired.handlerDevice (h : Wired ctx) (found : ctx.devices[i]? = some dev) :
    ctx.handlerDevice i = some dev := by
  have inside : i < ctx.devices.length := (List.getElem?_eq_some_iff.mp found).1
  rw [LocalContext.handlerDevice, h.data, List.getElem?_map, List.getElem?_range inside,
    Option.map_some, Option.bind_some, found]

/-- What a context shows of itself. -/
def spec (ctx : LocalContext) : LocalSpec :=
  ⟨ctx.actionExecuteCallback, ctx.actionFetchCallback,
    ctx.devices.map fun dev => (dev.selfPort, dev.apiActions)⟩

theorem spec_next (ctx : LocalContext) (e : LocalEvent) :
    (ctx.next e).spec = ctx.spec.next e := by
  cases e with
  | createDevice logAddr actions =>
      have shown : (ctx.createDevice logAddr actions).spec.devices =
          ctx.spec.devices ++ [(logAddr, actions)] := by
        show List.map _ (_ ++ [LogicalCallbackDevice.createDevice logAddr
          (handlers ctx.handlerData.length) actions]) = _
        rw [List.map_append, List.map_singleton, LogicalCallbackDevice.createDevice_eq_build,
          LogicalCallbackDevice.build_selfPort, build_apiActions]
        rfl
      exact congrArg (LocalSpec.mk _ _) shown
  | registerCallbackActionExecute | registerCallbackActionFetch | onActionGet | onActionSet => rfl

/-- What the table has under an id is what was added to the device under it. -/
theorem spec_action (found : ctx.devices[i]? = some dev) (actionId : Int) :
    ctx.spec.action i actionId =
      (registrationAt (dev.apiActions.map (⟨·, handlers i⟩)) actionId).map
        fun reg => (dev.selfPort, reg.action) := by
  rw [LocalSpec.action, spec, List.getElem?_map, found, Option.map_some, Option.bind_some,
    registrationAt]
  split
  · rw [List.getElem?_map, Option.map_map]
    rfl
  · rfl

/-- Whatever is registered has the handlers of the device. -/
theorem callbacks_eq {actions : List DeviceApiAction} {reg : Registration}
    (h : reg ∈ actions.map (⟨·, handlers i⟩)) : reg.callbacks = handlers i := by
  obtain ⟨action, -, rfl⟩ := List.mem_map.mp h
  rfl

/-- The handler of an action calls the fetch callback for it. -/
theorem Wired.fetchCall (h : Wired ctx) (found : ctx.devices[i]? = some dev)
    (action : DeviceApiAction) (data : List UInt8) (addr : LogicalAddress) (requestId : UInt8) :
    ctx.fetchCall (Registration.getCall ⟨action, handlers i⟩ data addr requestId) =
      ctx.spec.fetchCall dev.selfPort action data addr := by
  have own : ctx.handlerDevice (Registration.getCall ⟨action, handlers i⟩ data addr
      requestId).customData = some dev := h.handlerDevice found
  rw [LocalContext.fetchCall, own]
  show ctx.actionFetchCallback.bind _ = ctx.actionFetchCallback.map _
  cases ctx.actionFetchCallback <;> rfl

/-- The handler of an action calls the execute callback for it. -/
theorem Wired.executeCall (h : Wired ctx) (found : ctx.devices[i]? = some dev)
    (action : DeviceApiAction) (data : List UInt8) (addr : LogicalAddress) :
    ctx.executeCall (Registration.setCall ⟨action, handlers i⟩ data addr) =
      ctx.spec.executeCall dev.selfPort action data addr := by
  have own : ctx.handlerDevice (Registration.setCall ⟨action, handlers i⟩ data addr).customData =
      some dev := h.handlerDevice found
  rw [LocalContext.executeCall, own]
  show ctx.actionExecuteCallback.bind _ = ctx.actionExecuteCallback.map _
  cases ctx.actionExecuteCallback <;> rfl

theorem onEffect_get {c : HandlerCall} (h : c.handler = getRef) :
    ctx.onEffect (.call c) = (ctx.fetchCall c).toList.map .fetch := by
  rw [onEffect, if_pos h]

theorem onEffect_set {c : HandlerCall} (h : c.handler = setRef) :
    ctx.onEffect (.call c) = (ctx.executeCall c).toList.map .execute := by
  rw [onEffect, if_neg]
  rw [h]
  decide

/-- A device without actions is bare. -/
theorem spec_bare (found : ctx.devices[i]? = some dev) :
    ctx.spec.bare i = dev.apiActions.isEmpty := by
  rw [LocalSpec.bare, spec, List.getElem?_map, found]
  rfl

/-- A request to read a value is served as the table says. -/
theorem Wired.onActionGet (h : Wired ctx) (found : ctx.devices[i]? = some dev) (actionId : Int)
    (data : List UInt8) (addr : LogicalAddress) (requestId : UInt8) (slot : PoolSlot)
    (replies : LocalReplies) :
    (dev.onActionGet F actionId data addr requestId slot (ctx.actionHandlerGet replies)).map
        (fun done => done.flatMap ctx.onEffect) =
      ctx.spec.effects (.onActionGet i actionId data addr requestId slot replies) := by
  have registered := h.registered found
  rw [LocalSpec.effects, spec_action found, spec_bare found]
  cases at_id : registrationAt (dev.apiActions.map (⟨·, handlers i⟩)) actionId with
  | some reg =>
      obtain ⟨last, last_eq, dispatches⟩ := registered.dispatchesTo (F := F) at_id
      rw [dispatches.get, callbacks_eq (mem_of_lastNamed last_eq), Option.map_some, Option.map_some]
      rw [List.flatMap_cons, List.flatMap_singleton, onEffect_get rfl, actionHandlerGet,
        h.fetchCall found]
      rfl
  | none =>
      by_cases empty : dev.apiActions = []
      · have refuses := (registered.refuses_iff (F := F) at_id).mpr (by rw [empty]; rfl)
        rw [refuses.get, empty]
        rfl
      · rcases registered.outside at_id F with ⟨none_left, -⟩ | reads
        · exact absurd (List.map_eq_nil_iff.mp none_left) empty
        · rw [LogicalCallbackDevice.onActionGet, reads]
          simp [empty]

/-- A request to change a value is served as the table says. -/
theorem Wired.onActionSet (h : Wired ctx) (found : ctx.devices[i]? = some dev) (actionId : Int)
    (data : List UInt8) (addr : LogicalAddress) (replies : LocalReplies) :
    (dev.onActionSet F actionId data addr (ctx.actionHandlerSet replies)).map
        (fun done => done.1.flatMap ctx.onEffect ++ [.returns done.2]) =
      ctx.spec.effects (.onActionSet i actionId data addr replies) := by
  have registered := h.registered found
  rw [LocalSpec.effects, spec_action found, spec_bare found]
  cases at_id : registrationAt (dev.apiActions.map (⟨·, handlers i⟩)) actionId with
  | some reg =>
      obtain ⟨last, last_eq, dispatches⟩ := registered.dispatchesTo (F := F) at_id
      rw [dispatches.set, callbacks_eq (mem_of_lastNamed last_eq), Option.map_some, Option.map_some]
      rw [List.flatMap_singleton, onEffect_set rfl, actionHandlerSet, h.executeCall found]
      rfl
  | none =>
      by_cases empty : dev.apiActions = []
      · have refuses := (registered.refuses_iff (F := F) at_id).mpr (by rw [empty]; rfl)
        rw [refuses.set, empty]
        rfl
      · rcases registered.outside at_id F with ⟨none_left, -⟩ | reads
        · exact absurd (List.map_eq_nil_iff.mp none_left) empty
        · rw [LogicalCallbackDevice.onActionSet, reads]
          simp [empty]

/-- An event does what it does to the table. -/
theorem Wired.effects (h : Wired ctx) (e : LocalEvent) :
    ctx.effects F e = ctx.spec.effects e := by
  have none_there : ∀ {i : Nat}, ctx.devices[i]? = none →
      (∀ actionId, ctx.spec.action i actionId = none) ∧ ctx.spec.bare i = false := by
    intro i missing
    have missing' : ctx.spec.devices[i]? = none := by
      rw [spec, List.getElem?_map, missing]
      rfl
    constructor
    · intro actionId
      rw [LocalSpec.action, missing']
      rfl
    · rw [LocalSpec.bare, missing']
      rfl
  cases e with
  | onActionGet i actionId data addr requestId slot replies =>
      rw [LocalContext.effects]
      cases found : ctx.devices[i]? with
      | some dev => exact h.onActionGet found actionId data addr requestId slot replies
      | none => simp [LocalSpec.effects, none_there found]
  | onActionSet i actionId data addr replies =>
      rw [LocalContext.effects]
      cases found : ctx.devices[i]? with
      | some dev => exact h.onActionSet found actionId data addr replies
      | none => simp [LocalSpec.effects, none_there found]
  | registerCallbackActionExecute | registerCallbackActionFetch | createDevice => rfl

/-- The table is what is left of a context. -/
def table (F : Enumeration CString DeviceCallbackApiAction) :
    Abstraction (machine F) LocalSpec.machine where
  inv := Wired
  abs := spec
  keep ctx e ctx' h step := by
    obtain ⟨done, -, rfl⟩ := Option.map_eq_some_iff.mp step
    exact h.next e
  same ctx e h := by
    show ((ctx.effects F e).map fun _ => ctx.next e).map spec = (ctx.spec.effects e).map _
    rw [h.effects, Option.map_map]
    exact congrArg (fun s => (ctx.spec.effects e).map fun _ => s) (spec_next ctx e)

theorem Wired.puts (h : Wired ctx) (e : LocalEvent) : ctx.puts F e = ctx.spec.puts e := by
  rw [LocalContext.puts, LocalSpec.puts, h.effects]

/-- In every run, a context does with its local devices what the table does: it goes on where the
table does, ends where that does, and puts out the same. -/
theorem run_refines (F : Enumeration CString DeviceCallbackApiAction) (es : List LocalEvent) :
    ((machine F).run LocalContext.init es).map spec = LocalSpec.machine.run LocalSpec.init es ∧
      (machine F).outputs (puts F) LocalContext.init es =
        LocalSpec.machine.outputs LocalSpec.puts LocalSpec.init es :=
  ⟨(table F).run Wired.init es, (table F).outputs (fun _ e h => h.puts e) Wired.init es⟩

end LocalContext

end KhawasuPc
