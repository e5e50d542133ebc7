import KhawasuPc.Device.ActionIds
import KhawasuPc.Manager.Envelope
import KhawasuPc.Manager.Reports

/-!
# The C interface

A `CONTEXT` is a manager with two callbacks of its own, which pass on to what the
client registered, and a handful of functions that call the manager by action name.
Two places read through an `ActionResponse*` without a look at whether there is one:
the `action_callback` that `init_ctx` sets, and `fetch_action`.  The model records it
as `nullRead`, after which nothing happens any more.

The member `length` of `DeviceApiAction`, by which `init_ctx` copies names, is set by its
constructor, which is not part of the repository.  It is the parameter `lengthOf`.

`run_nullFree_iff` says which runs get there: those in which a wait loop ends without
a record, or `fetch_action` is called with a name that is not known.  In all others a
call that fails comes back with an error value.
-/

namespace KhawasuPc

open Lib

/-- What the client of a context is told. -/
inductive ClientEffect where
  | newDevice (callback : FnRef) (phy : FarAddr) (log : UInt16) (name : CString)
      (devClass : DeviceClassEnum) (actions : List DeviceApiAction)
  | executeResult (callback : FnRef) (reqId : UInt32) (status : ActionExecuteStatus)
  | fetchResult (callback : FnRef) (reqId : UInt32) (payload : List UInt8)
  /-- `execute_action_async` or `fetch_action_async` returns. -/
  | asyncReturns (value : UInt8)
  /-- `execute_action` returns. -/
  | executeReturns (call : Nat) (status : ActionExecuteStatus)
  /-- `fetch_action` returns. -/
  | fetchReturns (call : Nat) (payload : List UInt8)

/-- The `ACTION` that `init_ctx` makes of an action: `length` bytes of its name, which the client
reads up to the first zero, and its type. -/
def DeviceApiAction.copied (lengthOf : DeviceApiAction → Int) (action : DeviceApiAction) :
    DeviceApiAction :=
  ⟨.ofBytes (action.name.bytes.take (lengthOf action).toNat), action.type⟩

/-- Where the length is that of the name, the whole name is copied. -/
theorem DeviceApiAction.copied_eq {lengthOf : DeviceApiAction → Int} {action : DeviceApiAction}
    (measured : lengthOf action = action.name.bytes.length) : action.copied lengthOf = action := by
  rw [copied, measured, Int.toNat_natCast, List.take_length, CString.ofBytes_bytes]

/-- `CONTEXT`, and what happened to it so far. -/
structure Context where
  /-- `phy_device_manager`, and the calls made on it. -/
  sys : Sys
  newDeviceCallback : Option FnRef
  actionExecuteResultCallback : Option FnRef
  actionFetchResultCallback : Option FnRef
  told : List ClientEffect
  /-- A null `ActionResponse*` was read through. -/
  nullRead : Bool

/-- Something that happens to a context. -/
inductive ContextEvent where
  | registerCallbackNewDevice (callback : Option FnRef)
  | registerCallbackActionExecuteResult (callback : Option FnRef)
  | registerCallbackActionFetchResult (callback : Option FnRef)
  /-- `controller->callbacks.on_data_packet` is called. -/
  | dataPacket (srcPhy : FarAddr) (mem : Memory) (size : UInt16)
  | executeActionAsync (env : Ambient) (destPhy : UInt32) (destLog : UInt16) (name : CString)
      (data : List UInt8) (requireResult : Bool)
  | executeAction (env : Ambient) (startTime : UInt64) (destPhy : UInt32) (destLog : UInt16)
      (name : CString) (data : List UInt8) (requireResult : Bool)
  | fetchActionAsync (env : Ambient) (destPhy : UInt32) (destLog : UInt16) (name : CString)
      (data : List UInt8)
  | fetchAction (env : Ambient) (startTime : UInt64) (destPhy : UInt32) (destLog : UInt16)
      (name : CString) (data : List UInt8)
  /-- A wait loop that one of these is in goes round once. -/
  | poll (call : Nat) (now received : UInt64)

/-! ## Which reports are null -/

section Null

variable {L : PacketLayout} {E : Enumeration Nat DeviceApiAction} {man : PhyDeviceManager}
  {s s' : Sys} {e : Event} {o : Outcome}

theorem mem_reportsOf {effects : List Effect} {response : Option ActionResponse} :
    response ∈ reportsOf effects ↔ ∃ callback, Effect.action callback response ∈ effects := by
  constructor
  · intro h
    obtain ⟨eff, hm, heq⟩ := List.mem_filterMap.mp h
    cases eff with
    | action callback response' => cases heq; exact ⟨callback, hm⟩
    | _ => cases heq
  · rintro ⟨callback, hm⟩
    exact List.mem_filterMap.mpr ⟨_, hm, rfl⟩

theorem callAction_notNull (r : ActionResponse) : none ∉ reportsOf (man.callAction (some r)) := by
  rw [reportsOf_callAction]
  cases man.actionCallback <;> simp

/-- The handler of packets reports records. -/
theorem handlePacket_notNull (srcPhy : FarAddr) (log : LogicalPacket) (size : UInt16) :
    none ∉ reportsOf (man.handlePacket L srcPhy log size).effects := by
  rw [(PhyDeviceManager.handlePacket_spec L man srcPhy log size).effects]
  rcases (PhyDeviceManager.bodyOf_handled L man srcPhy log size).reports with
    ⟨_, _, handles⟩ | ⟨-, silent⟩
  · cases handles with
    | unexpected _ _ effects_eq => rw [effects_eq]; exact List.not_mem_nil
    | repeated _ _ _ _ effects_eq => rw [effects_eq]; exact List.not_mem_nil
    | tooLong _ _ _ _ effects_eq => rw [effects_eq]; exact List.not_mem_nil
    | answered _ _ _ _ effects_eq => rw [effects_eq]; exact callAction_notNull _
  · rw [silent]
    exact List.not_mem_nil

/-- Only the end of a wait loop reports a null pointer. -/
theorem Sys.Acts.notNull (acts : Sys.Acts L E s e o)
    (other : ∀ call now received, e ≠ .poll call now received) : none ∉ reportsOf o.effects := by
  cases acts with
  | packet srcPhy log size event => exact handlePacket_notNull srcPhy log size
  | asks | counts | nothing | collects | countsSubscription => exact List.not_mem_nil
  | misses env addr port r ops drawn made owns => exact callAction_notNull r
  | returns call now received c event found stop => exact absurd event (other call now received)
  | subscribes args action actionId dev event found made =>
      rw [(PhyDeviceManager.subscribeAction_subscribes _ _).reports]
      exact List.not_mem_nil
  | readyMade data event =>
      rw [(PhyDeviceManager.subscribeAction_subscribes _ _).reports]
      exact List.not_mem_nil

/-- A round of a wait loop reports a null pointer where it ends without a record. -/
theorem SyncCall.poll_notNull (c : SyncCall) (now received : UInt64) {callback : FnRef}
    (watched : man.actionCallback = some callback) :
    none ∉ reportsOf (c.poll man now received).effects ↔
      (c.goesOn now = false → c.result.isSome = true) := by
  have polls := c.poll_polls man now received
  generalize c.poll man now received = called at polls
  cases polls with
  | returns stop =>
      rw [reportsOf_callAction, watched]
      cases c.result <;> simp [stop]
  | waits go none_found => exact iff_of_true List.not_mem_nil fun stop => by simp [go] at stop
  | collects received man' r go found eq =>
      exact iff_of_true List.not_mem_nil fun stop => by simp [go] at stop

end Null

namespace Context

open LogicalCallbackDevice (nameLength)

/-- The callbacks that `init_ctx` sets on the manager. -/
def managerSetup (selfPort : UInt16) : Setup := ⟨selfPort, some ⟨0⟩, some ⟨1⟩⟩

/-- `init_ctx`, where the controller drew the port `selfPort`. -/
def init (selfPort : UInt16) : Context where
  sys := .start (managerSetup selfPort)
  newDeviceCallback := none
  actionExecuteResultCallback := none
  actionFetchResultCallback := none
  told := []
  nullRead := false

variable (E : Enumeration Nat DeviceApiAction) (lengthOf : DeviceApiAction → Int)
  (ctx : Context)

def tell (effects : List ClientEffect) : Context := { ctx with told := ctx.told ++ effects }

/-- The `action_callback` of `init_ctx`, passed the pointer `ar`. -/
def actionCallback (ar : Option ActionResponse) : Context :=
  match ar with
  | none => { ctx with nullRead := true }
  | some ar =>
      ctx.tell
        ((if ar.type = .execute then
            (ctx.actionExecuteResultCallback.map fun callback =>
              ClientEffect.executeResult callback ar.reqId ar.status).toList
          else []) ++
        if ar.type = .fetch then
          (ctx.actionFetchResultCallback.map fun callback =>
            ClientEffect.fetchResult callback ar.reqId ar.payload).toList
        else [])

/-- The `new_device_callback` of `init_ctx`. -/
def newDevice (dev : LogDeviceInfo) : Context :=
  ctx.tell (ctx.newDeviceCallback.map fun callback =>
    ClientEffect.newDevice callback dev.phy dev.log (.ofBytes dev.name) dev.devClass
      ((E.entries dev.actionsMap).map fun kv => kv.2.copied lengthOf)).toList

/-- The callback of `init_ctx` for one thing the manager did, if it has one. -/
def notice : Effect → Context
  | .action _ response => ctx.actionCallback response
  | .newDevice _ info => ctx.newDevice E lengthOf info
  | _ => ctx

/-- The callbacks of `init_ctx` for what the manager did, in order. -/
def notify : List Effect → Context → Context
  | [], ctx => ctx
  | eff :: effects, ctx => if ctx.nullRead then ctx else notify effects (ctx.notice E lengthOf eff)

/-- What a C function does with what the function of the manager returned, if that
returned.  It reads `resp->payload` also where `resp` is null. -/
def finish (call : Nat) (sync : Option Sync) (ctx : Context) : Context :=
  if ctx.nullRead then ctx
  else
    match sync with
    | some (.returned (.status status)) => ctx.tell [.executeReturns call status]
    | some (.returned (.response (some resp))) => ctx.tell [.fetchReturns call resp.payload]
    | some (.returned (.response none)) => { ctx with nullRead := true }
    | _ => ctx

/-- The context after the manager went from one system to another. -/
def moved (sys : Sys) : Context :=
  notify E lengthOf (sys.trace.drop ctx.sys.trace.length) { ctx with sys := sys }

/-- An asynchronous call. -/
def async (L : PacketLayout) (event : Event) (value : UInt8) : Option Context :=
  (ctx.sys.step L E event).map fun sys => (ctx.moved E lengthOf sys).tell [.asyncReturns value]

/-- A step of the synchronous call `call`. -/
def sync (L : PacketLayout) (event : Event) (call : Nat) : Option Context :=
  (ctx.sys.step L E event).map fun sys =>
    (ctx.moved E lengthOf sys).finish call (sys.calls.lookup call)

/-- What an event does to a context that has not crashed. -/
def next (L : PacketLayout) : ContextEvent → Option Context
  | .registerCallbackNewDevice callback => some { ctx with newDeviceCallback := callback }
  | .registerCallbackActionExecuteResult callback =>
      some { ctx with actionExecuteResultCallback := callback }
  | .registerCallbackActionFetchResult callback =>
      some { ctx with actionFetchResultCallback := callback }
  | .dataPacket srcPhy mem size =>
      match ctx.sys.fault with
      | none => some (ctx.moved E lengthOf
          (ctx.sys.after (CApi.meshPacketHandler L ctx.sys.man srcPhy mem size)))
      | some _ => none
  | .executeActionAsync env destPhy destLog name data requireResult =>
      ctx.async E lengthOf L
        (.executeActionAsync env destPhy.toNat destLog (.name name) data requireResult)
        (ctx.sys.man.executeActionAsyncByName env destPhy.toNat destLog E name data
          requireResult).value
  | .executeAction env startTime destPhy destLog name data requireResult =>
      ctx.sync E lengthOf L
        (.executeAction env startTime destPhy.toNat destLog (.name name) data requireResult)
        ctx.sys.nextCall
  | .fetchActionAsync env destPhy destLog name data =>
      ctx.async E lengthOf L (.fetchActionAsync env destPhy.toNat destLog (.name name) data)
        (ctx.sys.man.fetchActionAsyncByName env destPhy.toNat destLog E name data).value
  | .fetchAction env startTime destPhy destLog name data =>
      ctx.sync E lengthOf L (.fetchAction env startTime destPhy.toNat destLog (.name name) data)
        ctx.sys.nextCall
  | .poll call now received => ctx.sync E lengthOf L (.poll call now received) call

/-- One event. -/
def step (L : PacketLayout) (e : ContextEvent) : Option Context :=
  if ctx.nullRead then none else ctx.next E lengthOf L e

/-- The machine of a context. -/
def machine (L : PacketLayout) : Lib.Machine Context ContextEvent :=
  ⟨fun ctx e => ctx.step E lengthOf L e⟩

/-! ## The condition and the property -/

/-- The name of an action is known for a device. -/
def Knows (destPhy : UInt32) (destLog : UInt16) (name : CString) : Prop :=
  (ctx.sys.man.lookupAction E destPhy.toNat destLog name).isSome = true

/-- The event ends no wait without a record, and fetches no unknown action and waits. -/
def Answered : ContextEvent → Prop
  | .fetchAction _ _ destPhy destLog name _ => ctx.Knows E destPhy destLog name
  | .poll call now _ => ∀ c, ctx.sys.calls.lookup call = some (.polling c) →
      c.goesOn now = false → c.result.isSome = true
  | _ => True

/-- Where the event is a call with an unknown name, or the end of a wait without a record,
an error value comes back.  Of `execute_action_async` it is a record, which goes to the callback
for results. -/
def ReturnsError (ctx' : Context) : ContextEvent → Prop
  | .executeActionAsync _ destPhy destLog name _ _ => ¬ ctx.Knows E destPhy destLog name →
      ctx'.told = ctx.told ++
        ((ctx.actionExecuteResultCallback.map fun callback =>
          ClientEffect.executeResult callback ctx.sys.man.actionResponsesCounter.toUInt32
            .unknown).toList ++ [.asyncReturns ctx.sys.man.actionResponsesCounter])
  | .executeAction _ _ destPhy destLog name _ _ => ¬ ctx.Knows E destPhy destLog name →
      ctx'.told = ctx.told ++ [.executeReturns ctx.sys.nextCall .actionNotFound]
  | .fetchActionAsync _ destPhy destLog name _ => ¬ ctx.Knows E destPhy destLog name →
      ctx'.told = ctx.told ++ [.asyncReturns PhyDeviceManager.error]
  | .fetchAction _ _ destPhy destLog name _ => ¬ ctx.Knows E destPhy destLog name →
      ∃ payload, ctx'.told = ctx.told ++ [.fetchReturns ctx.sys.nextCall payload]
  | .poll call now _ => ∀ c, ctx.sys.calls.lookup call = some (.polling c) →
      c.goesOn now = false → c.result = none → ∃ error, ctx'.told = ctx.told ++ [error]
  | _ => True

/-- `ReturnsError` of the context the event leads to, if it leads anywhere. -/
def ErrorsReturned (L : PacketLayout) (ctx : Context) (e : ContextEvent) : Prop :=
  ∀ ctx', ctx.step E lengthOf L e = some ctx' → ctx.ReturnsError E ctx' e

/-! ## Null pointers -/

variable {E lengthOf ctx} {ctx' : Context} {L : PacketLayout} {sys : Sys} {effects : List Effect}

@[simp] theorem tell_nullRead (effects : List ClientEffect) :
    (ctx.tell effects).nullRead = ctx.nullRead := rfl

theorem actionCallback_nullRead (h : ctx.nullRead = false) (ar : Option ActionResponse) :
    (ctx.actionCallback ar).nullRead = false ↔ ar ≠ none := by
  cases ar with
  | none => exact iff_of_false Bool.noConfusion fun h => h rfl
  | some ar => exact iff_of_true h nofun

/-- After a crash no callback is called. -/
theorem notify_of_nullRead (effects : List Effect) (h : ctx.nullRead = true) :
    notify E lengthOf effects ctx = ctx := by
  cases effects with
  | nil => rfl
  | cons eff effects => rw [notify, if_pos h]

/-- The callbacks read through a null pointer exactly if one is passed. -/
theorem notify_nullRead (effects : List Effect) (ctx : Context) (h : ctx.nullRead = false) :
    (notify E lengthOf effects ctx).nullRead = false ↔ none ∉ reportsOf effects := by
  induction effects generalizing ctx with
  | nil => exact iff_of_true h List.not_mem_nil
  | cons eff effects ih =>
      rw [notify, if_neg (by rw [h]; exact Bool.false_ne_true)]
      cases eff with
      | action callback response =>
          show (notify E lengthOf effects (ctx.actionCallback response)).nullRead = false ↔
            none ∉ response :: reportsOf effects
          have called := actionCallback_nullRead h response
          cases response with
          | none =>
              rw [notify_of_nullRead effects rfl, called]
              exact iff_of_false (fun h => h rfl) fun h => h (List.mem_cons_self ..)
          | some response =>
              rw [ih _ (called.mpr nofun), List.mem_cons, not_or]
              exact (and_iff_right nofun).symm
      | newDevice callback info => exact ih _ h
      | _ => exact ih ctx h

theorem moved_eq (trace : sys.trace = ctx.sys.trace ++ effects) :
    ctx.moved E lengthOf sys = notify E lengthOf effects { ctx with sys := sys } := by
  rw [moved, trace, List.drop_left]

theorem moved_nullRead (h : ctx.nullRead = false) (trace : sys.trace = ctx.sys.trace ++ effects) :
    (ctx.moved E lengthOf sys).nullRead = false ↔ none ∉ reportsOf effects := by
  rw [moved_eq trace]
  exact notify_nullRead effects _ h

/-- A function of the C interface crashes on a missing record alone. -/
theorem finish_nullRead (call : Nat) (sync : Option Sync) :
    (finish call sync ctx).nullRead = false ↔
      ctx.nullRead = false ∧ sync ≠ some (.returned (.response none)) := by
  unfold finish
  cases h : ctx.nullRead with
  | true => simp [h]
  | false =>
      rcases sync with _ | ⟨c⟩ | ⟨status | _ | resp⟩ <;> simp [h]

/-! ## What an event leads to -/

variable {e : ContextEvent} {event : Event} {value : UInt8} {call : Nat} {callback : FnRef}
  {selfPort : UInt16}

theorem next_of_step (h : ctx.step E lengthOf L e = some ctx') :
    ctx.nullRead = false ∧ ctx.next E lengthOf L e = some ctx' := by
  unfold step at h
  cases hn : ctx.nullRead with
  | true => simp [hn] at h
  | false => exact ⟨rfl, by simpa [hn] using h⟩

theorem async_some (h : ctx.async E lengthOf L event value = some ctx') :
    ∃ sys, ctx.sys.step L E event = some sys ∧
      ctx' = (ctx.moved E lengthOf sys).tell [.asyncReturns value] := by
  obtain ⟨sys, hstep, rfl⟩ := Option.map_eq_some_iff.mp h
  exact ⟨sys, hstep, rfl⟩

theorem sync_some (h : ctx.sync E lengthOf L event call = some ctx') :
    ∃ sys, ctx.sys.step L E event = some sys ∧
      ctx' = (ctx.moved E lengthOf sys).finish call (sys.calls.lookup call) := by
  obtain ⟨sys, hstep, rfl⟩ := Option.map_eq_some_iff.mp h
  exact ⟨sys, hstep, rfl⟩

theorem dataPacket_some {srcPhy : FarAddr} {mem : Memory} {size : UInt16}
    (h : ctx.next E lengthOf L (.dataPacket srcPhy mem size) = some ctx') :
    ctx' = ctx.moved E lengthOf
      (ctx.sys.after (CApi.meshPacketHandler L ctx.sys.man srcPhy mem size)) := by
  unfold next at h
  cases hf : ctx.sys.fault with
  | none => simpa [hf] using h.symm
  | some f => simp [hf] at h

/-! ### The manager of the context -/

@[simp] theorem notice_sys (eff : Effect) : (ctx.notice E lengthOf eff).sys = ctx.sys := by
  cases eff with
  | action callback response => cases response <;> rfl
  | _ => rfl

theorem notify_sys (effects : List Effect) (ctx : Context) :
    (notify E lengthOf effects ctx).sys = ctx.sys := by
  induction effects generalizing ctx with
  | nil => rfl
  | cons eff effects ih =>
      rw [notify]
      split
      · rfl
      · rw [ih, notice_sys]

@[simp] theorem moved_sys : (ctx.moved E lengthOf sys).sys = sys := notify_sys _ _

@[simp] theorem finish_sys (sync : Option Sync) : (finish call sync ctx).sys = ctx.sys := by
  unfold finish
  split
  · rfl
  · split <;> rfl

/-- `handle_packet` is all that the handler of the C interface does to the manager. -/
theorem meshPacketHandler_setup (man : PhyDeviceManager) (srcPhy : FarAddr) (mem : Memory)
    (size : UInt16) : (CApi.meshPacketHandler L man srcPhy mem size).man.setup = man.setup := by
  cases found : overlayData L mem size with
  | none =>
      have skips : CApi.meshPacketHandler L man srcPhy mem size =
          ⟨man, [], overlayReads L size, none⟩ := meshPacketHandler_none .cApi found
      rw [skips]
  | some log =>
      have handles : Handles L man srcPhy log size (CApi.meshPacketHandler L man srcPhy mem size) :=
        meshPacketHandler_some .cApi man srcPhy found
      rw [handles.man_eq, (PhyDeviceManager.handlePacket_spec L man srcPhy log size).man]
      exact (PhyDeviceManager.bodyOf_handled L man srcPhy log size).setup

/-- A packet that comes in is reported by a record. -/
theorem meshPacketHandler_notNull (man : PhyDeviceManager) (srcPhy : FarAddr) (mem : Memory)
    (size : UInt16) : none ∉ reportsOf (CApi.meshPacketHandler L man srcPhy mem size).effects := by
  cases found : overlayData L mem size with
  | none =>
      have skips : CApi.meshPacketHandler L man srcPhy mem size =
          ⟨man, [], overlayReads L size, none⟩ := meshPacketHandler_none .cApi found
      rw [skips]
      exact List.not_mem_nil
  | some log =>
      have handles : Handles L man srcPhy log size (CApi.meshPacketHandler L man srcPhy mem size) :=
        meshPacketHandler_some .cApi man srcPhy found
      intro h
      obtain ⟨callback, hm⟩ := mem_reportsOf.mp h
      rcases handles.only _ hm with hm | hm
      · exact handlePacket_notNull srcPhy log size (mem_reportsOf.mpr ⟨callback, hm⟩)
      · cases hm

/-- The manager of a context keeps its callbacks. -/
theorem step_setup (h : ctx.step E lengthOf L e = some ctx') :
    ctx'.sys.man.setup = ctx.sys.man.setup := by
  obtain ⟨-, h⟩ := next_of_step h
  cases e with
  | registerCallbackNewDevice | registerCallbackActionExecuteResult
  | registerCallbackActionFetchResult => cases h; rfl
  | dataPacket srcPhy mem size =>
      rw [dataPacket_some h, moved_sys]
      exact meshPacketHandler_setup ctx.sys.man srcPhy mem size
  | executeActionAsync | fetchActionAsync =>
      obtain ⟨sys, hstep, rfl⟩ := async_some h
      exact (congrArg (fun sys => sys.man.setup) moved_sys).trans (Sys.step_setup hstep)
  | executeAction | fetchAction | poll =>
      obtain ⟨sys, hstep, rfl⟩ := sync_some h
      rw [finish_sys, moved_sys]
      exact Sys.step_setup hstep

/-! ### Where a null pointer is read -/

/-- A call of the manager that is no round of a wait loop passes no null pointer on. -/
theorem moved_nullRead_of_call (h : ctx.nullRead = false)
    (hstep : ctx.sys.step L E event = some sys)
    (other : ∀ call now received, event ≠ .poll call now received) :
    (ctx.moved E lengthOf sys).nullRead = false := by
  obtain ⟨o, acts, leads⟩ := Sys.step_acts hstep
  exact (moved_nullRead h leads.trace_eq).mpr (acts.notNull other)

/-- What `execute_action` returns is no record. -/
theorem executeActionByName_ne (man : PhyDeviceManager) (env : Ambient) (addr : FarAddr)
    (port : UInt16) (startTime : UInt64) (name : CString) (data : List UInt8)
    (requireResult : Bool) :
    (man.executeActionByName env addr port startTime E name data requireResult).value ≠
      .returned (.response none) := by
  rw [PhyDeviceManager.executeActionByName]
  cases man.lookupAction E addr port name with
  | none =>
      intro h
      cases h
  | some action =>
      intro h
      cases requireResult <;> cases h

/-- `fetch_action` returns no record at once where the name is unknown. -/
theorem fetchActionByName_ne_iff (man : PhyDeviceManager) (env : Ambient) (addr : FarAddr)
    (port : UInt16) (startTime : UInt64) (name : CString) (data : List UInt8) :
    (man.fetchActionByName env addr port startTime E name data).value ≠
      .returned (.response none) ↔ (man.lookupAction E addr port name).isSome = true := by
  rw [PhyDeviceManager.fetchActionByName]
  cases man.lookupAction E addr port name with
  | none => exact iff_of_false (fun h => h rfl) Bool.false_ne_true
  | some action =>
      refine iff_of_true ?_ rfl
      intro h
      cases h

/-- A step crashes exactly if a wait ends without a record or an unknown action is fetched. -/
theorem step_nullRead (watched : ctx.sys.man.actionCallback = some callback)
    (h : ctx.step E lengthOf L e = some ctx') : ctx'.nullRead = false ↔ ctx.Answered E e := by
  obtain ⟨hn, h⟩ := next_of_step h
  cases e with
  | registerCallbackNewDevice | registerCallbackActionExecuteResult
  | registerCallbackActionFetchResult => cases h; exact iff_of_true hn trivial
  | dataPacket srcPhy mem size =>
      rw [dataPacket_some h, moved_nullRead hn rfl]
      exact iff_of_true (meshPacketHandler_notNull ctx.sys.man srcPhy mem size) trivial
  | executeActionAsync | fetchActionAsync =>
      obtain ⟨sys, hstep, rfl⟩ := async_some h
      exact iff_of_true (moved_nullRead_of_call hn hstep nofun) trivial
  | executeAction env startTime destPhy destLog name data requireResult =>
      obtain ⟨sys, hstep, rfl⟩ := sync_some h
      have called : (ctx.moved E lengthOf sys).nullRead = false :=
        moved_nullRead_of_call hn hstep nofun
      obtain ⟨-, opened⟩ := Sys.next_of_step hstep
      cases opened
      rw [Sys.opened_calls, Finmap.lookup_insert]
      exact iff_of_true ((finish_nullRead ..).mpr ⟨called, fun heq =>
        executeActionByName_ne _ _ _ _ _ _ _ _ (Option.some.inj heq)⟩) trivial
  | fetchAction env startTime destPhy destLog name data =>
      obtain ⟨sys, hstep, rfl⟩ := sync_some h
      have called : (ctx.moved E lengthOf sys).nullRead = false :=
        moved_nullRead_of_call hn hstep nofun
      obtain ⟨-, opened⟩ := Sys.next_of_step hstep
      cases opened
      rw [Sys.opened_calls, Finmap.lookup_insert, finish_nullRead, Ne, Option.some.injEq]
      exact (and_iff_right called).trans (fetchActionByName_ne_iff ..)
  | poll call now received =>
      obtain ⟨sys, hstep, rfl⟩ := sync_some h
      obtain ⟨-, polled⟩ := Sys.next_of_step hstep
      obtain ⟨c, found, rfl⟩ := Sys.next_poll polled
      have reports := c.poll_notNull now received watched
      have answered : ctx.Answered E (.poll call now received) ↔
          (c.goesOn now = false → c.result.isSome = true) := by
        constructor
        · exact fun h => h c found
        · intro h d hd
          cases found.symm.trans hd
          exact h
      rw [Sys.polled_calls, Finmap.lookup_insert, finish_nullRead, moved_nullRead hn rfl, reports,
        answered]
      refine and_iff_left_of_imp fun answer => ?_
      have polls := c.poll_polls ctx.sys.man now received
      generalize c.poll ctx.sys.man now received = called at polls
      cases polls with
      | waits | collects => nofun
      | returns stop =>
          intro heq
          cases hr : c.result with
          | none => simp [hr, stop] at answer
          | some r => cases hk : c.kind <;> simp [SyncCall.value, hk, hr] at heq

/-! ### Error values -/

theorem not_knows {destPhy : UInt32} {destLog : UInt16} {name : CString} :
    ¬ ctx.Knows E destPhy destLog name ↔
      ctx.sys.man.lookupAction E destPhy.toNat destLog name = none := by
  unfold Knows
  cases ctx.sys.man.lookupAction E destPhy.toNat destLog name <;> simp

/-- Without effects no callback is called. -/
theorem moved_of_quiet (trace : sys.trace = ctx.sys.trace ++ []) :
    ctx.moved E lengthOf sys = { ctx with sys := sys } := moved_eq trace

/-- An action that is not found is reported as a record, to the callback for results. -/
theorem moved_told_of_unknown (h : ctx.nullRead = false) {r : ActionResponse}
    (execute : r.type = .execute)
    (trace : sys.trace = ctx.sys.trace ++ [.action callback (some r)]) :
    (ctx.moved E lengthOf sys).told = ctx.told ++
      (ctx.actionExecuteResultCallback.map fun callback =>
        ClientEffect.executeResult callback r.reqId r.status).toList := by
  rw [moved_eq trace, notify, h]
  simp [notify, notice, actionCallback, tell, execute]

/-- The calls that do not crash come back with an error value. -/
theorem step_returnsError (watched : ctx.sys.man.actionCallback = some callback)
    (answered : ctx.Answered E e) (h : ctx.step E lengthOf L e = some ctx') :
    ctx.ReturnsError E ctx' e := by
  obtain ⟨hn, h⟩ := next_of_step h
  cases e with
  | registerCallbackNewDevice | registerCallbackActionExecuteResult
  | registerCallbackActionFetchResult | dataPacket => trivial
  | executeActionAsync env destPhy destLog name data requireResult =>
      intro unknown
      obtain ⟨sys, hstep, rfl⟩ := async_some h
      obtain ⟨-, called⟩ := Sys.next_of_step hstep
      obtain ⟨r, execute, reqId, -, -, -, status, reports⟩ :=
        PhyDeviceManager.executeActionAsyncByName_unknown (not_knows.mp unknown) env data
          requireResult
      have trace : ctx.sys.man.callAction (some r) = [.action callback (some r)] := by
        rw [PhyDeviceManager.callAction, watched]
      cases called
      rw [reports, trace, tell, moved_told_of_unknown hn execute rfl, reqId, status,
        List.append_assoc]
  | executeAction env startTime destPhy destLog name data requireResult =>
      intro unknown
      obtain ⟨sys, hstep, rfl⟩ := sync_some h
      obtain ⟨-, opened⟩ := Sys.next_of_step hstep
      have missing := not_knows.mp unknown
      cases opened
      rw [PhyDeviceManager.executeActionByName, missing, moved_of_quiet rfl, Sys.opened_calls,
        Finmap.lookup_insert]
      simp [finish, hn, tell]
  | fetchActionAsync env destPhy destLog name data =>
      intro unknown
      obtain ⟨sys, hstep, rfl⟩ := async_some h
      obtain ⟨-, called⟩ := Sys.next_of_step hstep
      have missing := not_knows.mp unknown
      cases called
      rw [PhyDeviceManager.fetchActionAsyncByName, missing, moved_of_quiet rfl]
      rfl
  | fetchAction env startTime destPhy destLog name data =>
      exact fun unknown => absurd answered unknown
  | poll call now received =>
      intro c found stop unanswered
      have answer := answered c found stop
      rw [unanswered] at answer
      cases answer

/-- A run from `init_ctx` reads through no null pointer, and gives error values back, exactly
if no wait ends without a record and no unknown action is fetched with a wait. -/
theorem run_nullFree_iff {es : List ContextEvent}
    (h : (machine E lengthOf L).run (init selfPort) es = some ctx) :
    (ctx.nullRead = false ∧
        (machine E lengthOf L).Meets (ErrorsReturned E lengthOf L) (init selfPort) es) ↔
      (machine E lengthOf L).Meets (Answered E) (init selfPort) es := by
  have keep : ∀ ctx e ctx', ctx.sys.man.setup = managerSetup selfPort →
      (machine E lengthOf L).step ctx e = some ctx' → ctx'.sys.man.setup = managerSetup selfPort :=
    fun ctx e ctx' hs hstep => (step_setup hstep).trans hs
  have watched : ∀ {ctx : Context}, ctx.sys.man.setup = managerSetup selfPort →
      ctx.sys.man.actionCallback = some ⟨1⟩ := fun hs => congrArg Setup.actionCallback hs
  have crash := Machine.good_iff_meets (M := machine E lengthOf L)
    (G := fun ctx => ctx.nullRead = false) (fun ctx e ctx' hstep => (next_of_step hstep).1) keep
    (fun ctx e ctx' hs hstep => step_nullRead (watched hs) hstep) h rfl rfl
  constructor
  · exact fun safe => crash.mp safe.1
  · intro answered
    refine ⟨crash.mpr answered, answered.imp_of_invariant keep ?_ rfl⟩
    exact fun ctx e hs here ctx' hstep => step_returnsError (watched hs) here hstep

/-- The calls for an action of a device that is not known. -/
def unknownCalls : List ContextEvent :=
  [.registerCallbackActionExecuteResult (some ⟨9⟩),
    .executeActionAsync Sys.anyEnv 2 10 (.ofBytes [97]) [] true,
    .executeAction Sys.anyEnv 0 2 10 (.ofBytes [97]) [] true,
    .fetchActionAsync Sys.anyEnv 2 10 (.ofBytes [97]) []]

theorem unknown_errors :
    ∃ ctx, (machine (.stored ..) nameLength .packed).run (init 1) unknownCalls = some ctx ∧
      ctx.nullRead = false ∧ (machine (.stored ..) nameLength .packed).Meets
        (ErrorsReturned (.stored ..) nameLength .packed) (init 1) unknownCalls := by
  refine ⟨_, rfl, (run_nullFree_iff (L := .packed) (E := .stored ..) rfl).mpr ?_⟩
  refine Machine.meets_of_forall (fun e he ctx => ?_) _
  simp only [unknownCalls, List.mem_cons, List.not_mem_nil, or_false] at he
  rcases he with rfl | rfl | rfl | rfl <;> trivial

/-- A fetch of an action of a device that is not known reads through a null pointer. -/
theorem unknown_fetch_crashes :
    ∃ ctx, (machine (.stored ..) nameLength .packed).run (init 1)
        [.fetchAction Sys.anyEnv 0 2 10 (.ofBytes [97]) []] = some ctx ∧ ctx.nullRead = true :=
  ⟨_, rfl, rfl⟩

end Context

end KhawasuPc
