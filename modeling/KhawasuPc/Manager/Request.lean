import KhawasuPc.Manager.State

/-!
# Requests and subscriptions

The calls of the manager that send packets.  An asynchronous call returns once
its packet is sent.  A synchronous call sends its packet and then waits in a
loop; `SyncCall.poll` is one round of that loop, so that other calls and
incoming packets can come between the rounds.
-/

namespace KhawasuPc

open Lib

/-- What a call finds in its environment. -/
structure Ambient where
  now : UInt64
  /-- What the memory of a new record's `status` held. -/
  rawStatus : ActionExecuteStatus
  /-- What the memory of a new packet held. -/
  slot : PoolSlot
deriving DecidableEq, Repr

/-- What a call leaves behind. -/
structure Called (α : Type) where
  man : PhyDeviceManager
  effects : List Effect
  value : α

namespace PhyDeviceManager

/-- `DEV_MAN_RESPONSE_TIMEOUT`, in microseconds. -/
def responseTimeout : UInt64 := 5000000

/-- `PhyDeviceManager::ERROR`. -/
def error : UInt8 := 0

variable (man : PhyDeviceManager) (env : Ambient) (addr : FarAddr) (port : UInt16)

/-- `action_callback(response)`, where the callback is set. -/
def callAction (response : Option ActionResponse) : List Effect :=
  match man.actionCallback with
  | none => []
  | some callback => [.action callback response]

/-! ## Asynchronous calls -/

/-- `action_responses_counter++`. -/
def bump : PhyDeviceManager :=
  { man with actionResponsesCounter := man.actionResponsesCounter + 1 }

/-- `action_responses.emplace` of a new record under a request id. -/
def install (reqId : UInt8) (type : ActionResponseType) : PhyDeviceManager :=
  { man with
    actionResponses := man.actionResponses.emplace reqId
      (ActionResponse.make reqId.toUInt32 type addr port env.now env.rawStatus) }

/-- `PhyDeviceManager::execute_action_async`, by action id. -/
def executeActionAsync (actionId : UInt16) (buffer : List UInt8) (requireStatus : Bool) :
    Called UInt8 :=
  let reqId := man.actionResponsesCounter
  let man := man.bump
  let man := if requireStatus then man.install env addr port reqId .execute else man
  let flags := if requireStatus then .requireStatusResponse else env.slot.flags
  { man := man
    effects :=
      [.send
        { dest := ⟨addr, port⟩
          srcPort := man.selfPort
          ovlType := .unreliable
          body := .actionExecute reqId actionId flags buffer }]
    value := reqId }

/-- `PhyDeviceManager::execute_action_async`, by action name.  Where the name is
unknown it uses up an id and reports a record that is in no table. -/
def executeActionAsyncByName (E : Enumeration Nat DeviceApiAction) (name : CString)
    (buffer : List UInt8) (requireStatus : Bool) : Called UInt8 :=
  match man.lookupAction E addr port name with
  | none =>
      let reqId := man.actionResponsesCounter
      let resp :=
        { ActionResponse.make reqId.toUInt32 .execute addr port env.now env.rawStatus with
          isWaiting := false
          status := .unknown }
      { man := man.bump
        effects := man.callAction (some resp)
        value := reqId }
  | some action =>
      man.executeActionAsync env addr port (UInt16.ofNat action.1) buffer requireStatus

theorem executeActionAsyncByName_known {man : PhyDeviceManager} {addr : FarAddr} {port : UInt16}
    {E : Enumeration Nat DeviceApiAction} {name : CString} {action : Nat × DeviceApiAction}
    (known : man.lookupAction E addr port name = some action) (env : Ambient)
    (buffer : List UInt8) (requireStatus : Bool) :
    man.executeActionAsyncByName env addr port E name buffer requireStatus =
      man.executeActionAsync env addr port (UInt16.ofNat action.1) buffer requireStatus := by
  rw [executeActionAsyncByName, known]

/-- An unknown action is reported, with a record that says so. -/
theorem executeActionAsyncByName_unknown {man : PhyDeviceManager} {addr : FarAddr} {port : UInt16}
    {E : Enumeration Nat DeviceApiAction} {name : CString}
    (unknown : man.lookupAction E addr port name = none) (env : Ambient) (buffer : List UInt8)
    (requireStatus : Bool) :
    ∃ r : ActionResponse, r.type = .execute ∧ r.reqId = man.actionResponsesCounter.toUInt32 ∧
      r.srcPhy = addr ∧ r.srcPort = port ∧ r.timeSent = env.now ∧ r.status = .unknown ∧
      man.executeActionAsyncByName env addr port E name buffer requireStatus =
        ⟨man.bump, man.callAction (some r), man.actionResponsesCounter⟩ := by
  rw [executeActionAsyncByName, unknown]
  exact ⟨_, rfl, rfl, rfl, rfl, rfl, rfl, rfl⟩

/-- `PhyDeviceManager::fetch_action_async`, by action id. -/
def fetchActionAsync (actionId : UInt16) (buffer : List UInt8) : Called UInt8 :=
  let reqId := man.actionResponsesCounter
  let man := man.bump.install env addr port reqId .fetch
  { man := man
    effects :=
      [.send
        { dest := ⟨addr, port⟩
          srcPort := man.selfPort
          ovlType := .unreliable
          body := .actionFetch reqId actionId buffer }]
    value := reqId }

/-- `PhyDeviceManager::fetch_action_async`, by action name. -/
def fetchActionAsyncByName (E : Enumeration Nat DeviceApiAction) (name : CString)
    (buffer : List UInt8) : Called UInt8 :=
  match man.lookupAction E addr port name with
  | none => ⟨man, [], error⟩
  | some action => man.fetchActionAsync env addr port (UInt16.ofNat action.1) buffer

end PhyDeviceManager

/-! ## Synchronous calls -/

/-- Which function waits. -/
inductive SyncKind where
  | execute
  | fetch
deriving DecidableEq, Repr

/-- The local variables of a call that waits. -/
structure SyncCall where
  /-- Which function waits. -/
  kind : SyncKind
  reqId : UInt8
  startTime : UInt64
  result : Option ActionResponse
deriving DecidableEq, Repr

/-- What a synchronous call returns. -/
inductive Returned where
  | status (status : ActionExecuteStatus)
  | response (response : Option ActionResponse)
deriving DecidableEq, Repr

/-- Where a synchronous call stands. -/
inductive Sync where
  | polling (call : SyncCall)
  | returned (value : Returned)
deriving DecidableEq, Repr

namespace SyncCall

variable (call : SyncCall)

/-- The local `status` of `execute_action`: set with every `result`, a timeout
before that. -/
def status : ActionExecuteStatus :=
  match call.result with
  | none => .timeout
  | some result => result.status

/-- The condition of the loop, at the time `now`. -/
def goesOn (now : UInt64) : Bool :=
  (match call.kind with
    | .execute => call.status == .timeout
    | .fetch => call.result.isNone) && now - call.startTime < PhyDeviceManager.responseTimeout

/-- What the call returns after the loop. -/
def value : Returned :=
  match call.kind with
  | .execute => .status call.status
  | .fetch => .response call.result

end SyncCall

namespace PhyDeviceManager

/-- The body of both loops: copy the record if it was answered, and erase it. -/
def collect (man : PhyDeviceManager) (reqId : UInt8) (received : UInt64) :
    Option (PhyDeviceManager × ActionResponse) :=
  match man.actionResponses.lookup reqId with
  | none => none
  | some data =>
      if data.isWaiting then none
      else
        some ({ man with actionResponses := man.actionResponses.erase reqId },
          { data with timeReceived := received })

/-- What is collected is a record that was answered. -/
theorem collect_eq_some {man man' : PhyDeviceManager} {reqId : UInt8} {received : UInt64}
    {r : ActionResponse} (h : man.collect reqId received = some (man', r)) :
    ∃ data, man.actionResponses.lookup reqId = some data ∧ data.isWaiting = false ∧
      man' = { man with actionResponses := man.actionResponses.erase reqId } ∧
      r = { data with timeReceived := received } := by
  unfold collect at h
  cases found : man.actionResponses.lookup reqId with
  | none => rw [found] at h; cases h
  | some data =>
      rw [found] at h
      cases waiting : data.isWaiting with
      | true => simp [waiting] at h
      | false =>
          simp only [waiting, Bool.false_eq_true, ↓reduceIte, Option.some.injEq,
            Prod.mk.injEq] at h
          exact ⟨data, rfl, waiting, h.1.symm, by rw [← h.2, waiting]⟩

variable (man : PhyDeviceManager) (env : Ambient) (addr : FarAddr) (port : UInt16)
  (startTime : UInt64)

/-- `PhyDeviceManager::execute_action`, by action id, up to its loop, which starts
at the time `startTime`. -/
def executeAction (actionId : UInt16) (buffer : List UInt8) (requireStatus : Bool) :
    Called Sync :=
  let sent := man.executeActionAsync env addr port actionId buffer requireStatus
  { man := sent.man
    effects := sent.effects
    value :=
      if requireStatus then .polling ⟨.execute, sent.value, startTime, none⟩
      else .returned (.status .unknown) }

/-- `PhyDeviceManager::execute_action`, by action name, up to its loop. -/
def executeActionByName (E : Enumeration Nat DeviceApiAction) (name : CString)
    (buffer : List UInt8) (requireStatus : Bool) : Called Sync :=
  match man.lookupAction E addr port name with
  | none => ⟨man, [], .returned (.status .actionNotFound)⟩
  | some action =>
      man.executeAction env addr port startTime (UInt16.ofNat action.1) buffer requireStatus

/-- `PhyDeviceManager::fetch_action`, by action id, up to its loop. -/
def fetchAction (actionId : UInt16) (buffer : List UInt8) : Called Sync :=
  let sent := man.fetchActionAsync env addr port actionId buffer
  { man := sent.man
    effects := sent.effects
    value := .polling ⟨.fetch, sent.value, startTime, none⟩ }

/-- `PhyDeviceManager::fetch_action`, by action name, up to its loop. -/
def fetchActionByName (E : Enumeration Nat DeviceApiAction) (name : CString)
    (buffer : List UInt8) : Called Sync :=
  match man.lookupAction E addr port name with
  | none => ⟨man, [], .returned (.response none)⟩
  | some action => man.fetchAction env addr port startTime (UInt16.ofNat action.1) buffer

end PhyDeviceManager

/-- One round of the wait loop: the clock reads `now` in the condition and
`received` in the body.  Where the condition fails the call reports its result,
possibly none, and returns. -/
def SyncCall.poll (call : SyncCall) (man : PhyDeviceManager) (now received : UInt64) :
    Called Sync :=
  if call.goesOn now then
    match man.collect call.reqId received with
    | none => ⟨man, [], .polling call⟩
    | some (man, result) => ⟨man, [], .polling { call with result := some result }⟩
  else
    ⟨man, man.callAction call.result, .returned call.value⟩

/-- The round of the loop at the time `now` collects a record. -/
def SyncCall.collects (call : SyncCall) (man : PhyDeviceManager) (now : UInt64) : Bool :=
  call.goesOn now && (man.actionResponses.lookup call.reqId).any fun data => !data.isWaiting

/-- What a round of a wait loop does: the call returns, finds nothing, or
collects its record. -/
inductive SyncCall.Polls (call : SyncCall) (man : PhyDeviceManager) (now : UInt64) :
    Called Sync → Prop
  | returns (stop : call.goesOn now = false) :
      Polls call man now ⟨man, man.callAction call.result, .returned call.value⟩
  | waits (go : call.goesOn now = true) (none_found : call.collects man now = false) :
      Polls call man now ⟨man, [], .polling call⟩
  | collects (received : UInt64) (man' : PhyDeviceManager) (r : ActionResponse)
      (go : call.goesOn now = true) (found : call.collects man now = true)
      (eq : man.collect call.reqId received = some (man', r)) :
      Polls call man now ⟨man', [], .polling { call with result := some r }⟩

theorem SyncCall.poll_polls (call : SyncCall) (man : PhyDeviceManager) (now received : UInt64) :
    call.Polls man now (call.poll man now received) := by
  unfold SyncCall.poll
  cases go : call.goesOn now with
  | false => exact .returns go
  | true =>
      simp only [↓reduceIte]
      cases hc : man.collect call.reqId received with
      | none =>
          refine .waits go ?_
          unfold PhyDeviceManager.collect at hc
          unfold SyncCall.collects
          cases hl : man.actionResponses.lookup call.reqId with
          | none => simp
          | some data => cases hw : data.isWaiting <;> simp_all
      | some p =>
          obtain ⟨man', r⟩ := p
          refine .collects received man' r go ?_ hc
          unfold PhyDeviceManager.collect at hc
          unfold SyncCall.collects
          cases hl : man.actionResponses.lookup call.reqId with
          | none => simp [hl] at hc
          | some data => cases hw : data.isWaiting <;> simp_all

/-! ## Subscriptions -/

namespace PhyDeviceManager

/-- The device a pointer points to. -/
def deref (man : PhyDeviceManager) (place : LogicalAddress) : Option LogDeviceInfo :=
  man.lookupLog place.phy place.log

/-- `PhyDeviceManager::subscribe_action`, with the subscription ready made. -/
def subscribeAction (man : PhyDeviceManager) (data : ActionSubscriptionData) : Outcome :=
  match data.device with
  | none => ⟨man, [], [], some .assertDevice⟩
  | some place =>
      let man := { man with subscriptions := man.subscriptions.emplace data.id data }
      match man.deref place with
      | none => ⟨man, [], [], some .danglingDevice⟩
      | some device =>
          { man := man
            effects :=
              [.send
                { dest := ⟨device.phy, device.log⟩
                  srcPort := man.selfPort
                  ovlType := .unreliable
                  body := .subscriptionStart data.id data.actionId data.duration data.period }]
            reads := []
            fault := none }

/-- The arguments of `subscribe_action` beside the action. -/
structure SubscribeArgs where
  addr : FarAddr
  port : UInt16
  duration : UInt16
  period : UInt32
  callback : Option FnRef
  /-- `done_callback`, which neither overload reads. -/
  doneCallback : Option FnRef
  isRenew : Bool
deriving DecidableEq, Repr

/-- The subscription made from the arguments. -/
def SubscribeArgs.data (args : SubscribeArgs) (subId : UInt32) (actionId : UInt16) :
    ActionSubscriptionData where
  device := some ⟨args.addr, args.port⟩
  id := subId
  actionId := actionId
  duration := args.duration
  period := args.period
  isRenew := args.isRenew
  callback := args.callback
  doneCallback := none

/-- `subscription_counter++`. -/
def bumpSubscription (man : PhyDeviceManager) : PhyDeviceManager :=
  { man with subscriptionCounter := man.subscriptionCounter + 1 }

/-- `PhyDeviceManager::subscribe_action`, by action id.  An unknown device uses up
a subscription id. -/
def subscribeActionById (man : PhyDeviceManager) (args : SubscribeArgs) (actionId : UInt16) :
    Outcome :=
  let subId := man.subscriptionCounter
  let man := man.bumpSubscription
  match man.lookupLog args.addr args.port with
  | none => .skip man
  | some _ => man.subscribeAction (args.data subId actionId)

/-- `PhyDeviceManager::subscribe_action`, by action name. -/
def subscribeActionByName (man : PhyDeviceManager) (E : Enumeration Nat DeviceApiAction)
    (args : SubscribeArgs) (name : CString) : Outcome :=
  match man.lookupAction E args.addr args.port name with
  | none => .skip man
  | some action => man.subscribeActionById args (UInt16.ofNat action.1)

end PhyDeviceManager

end KhawasuPc
