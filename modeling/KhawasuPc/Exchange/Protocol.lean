import KhawasuPc.Device.ActionIds
import KhawasuPc.Device.Dispatch
import KhawasuPc.Manager.Envelope
import KhawasuPc.Manager.Numbering

/-!
# Requests and the devices that answer them

A manager and the devices its requests are for, as one system.  A packet reaches its device at
any time, more than once, or never, and so does an answer the manager.  In between come the
calls of clients, in any order, and packets that are no answers.

What is between them is `LogicalDeviceManager` of the library.  It is a parameter, and its fields
say what the code relies on: `dispatch_packet` calls `on_action_get` or `on_action_set` of the
device once, with what the packet carries, and where an `ACTION_EXECUTE` asks for its status sends
it back.  The answers are kept beside the state, each with the call of a handler it came from.
-/

namespace KhawasuPc

open Lib

/-! ## The library -/

/-- A call of a function of a device. -/
inductive DeviceCall where
  | onActionGet (actionId : Int) (data : List UInt8) (addr : LogicalAddress) (requestId : UInt8)
  | onActionSet (actionId : Int) (data : List UInt8) (addr : LogicalAddress)
deriving DecidableEq, Repr

/-- `LogicalDeviceManager` of the library, as far as requests go, with what the code relies on. -/
structure LogicalDeviceManager where
  /-- The calls that `dispatch_packet` makes of the device a packet is for, when the packet came
  from a mesh address. -/
  dispatchPacket : FarAddr → SentPacket → List DeviceCall
  /-- The id and status of each `ACTION_EXECUTE_RESULT` that it sends, when `on_action_set`
  returned a status. -/
  executeResults : SentPacket → ActionExecuteStatus → List (UInt8 × ActionExecuteStatus)
  /-- A request to read a value is one call, with the data and the id that it carries. -/
  fetch_passedOn : ∀ (src : FarAddr) (request : SentPacket) (requestId : UInt8)
    (actionId : UInt16) (payload : List UInt8),
    request.body = .actionFetch requestId actionId payload →
      dispatchPacket src request =
        [.onActionGet actionId.toNat payload ⟨src, request.srcPort⟩ requestId]
  /-- A request to change a value is one call, with the data that it carries. -/
  execute_passedOn : ∀ (src : FarAddr) (request : SentPacket) (requestId : UInt8)
    (actionId : UInt16) (flags : ActionExecuteFlags) (payload : List UInt8),
    request.body = .actionExecute requestId actionId flags payload →
      dispatchPacket src request =
        [.onActionSet actionId.toNat payload ⟨src, request.srcPort⟩]
  /-- A status that is asked for is sent back once, under the id of the request. -/
  status_sentBack : ∀ (request : SentPacket) (requestId : UInt8) (actionId : UInt16)
    (payload : List UInt8) (status : ActionExecuteStatus),
    request.body = .actionExecute requestId actionId .requireStatusResponse payload →
      executeResults request status = [(requestId, status)]
  /-- A status that is not asked for is not sent. -/
  status_kept : ∀ (request : SentPacket) (requestId : UInt8) (actionId : UInt16)
    (flags : ActionExecuteFlags) (payload : List UInt8) (status : ActionExecuteStatus),
    request.body = .actionExecute requestId actionId flags payload →
      flags ≠ .requireStatusResponse → executeResults request status = []

/-- A device manager that does nothing else. -/
def LogicalDeviceManager.plain : LogicalDeviceManager where
  dispatchPacket src request :=
    match request.body with
    | .actionFetch requestId actionId payload =>
        [.onActionGet actionId.toNat payload ⟨src, request.srcPort⟩ requestId]
    | .actionExecute _ actionId _ payload =>
        [.onActionSet actionId.toNat payload ⟨src, request.srcPort⟩]
    | .actionResponse .. | .subscriptionStart .. => []
  executeResults request status :=
    match request.body with
    | .actionExecute requestId _ flags _ =>
        if flags = .requireStatusResponse then [(requestId, status)] else []
    | .actionFetch .. | .actionResponse .. | .subscriptionStart .. => []
  fetch_passedOn _ _ _ _ _ asks := by rw [asks]
  execute_passedOn _ _ _ _ _ _ asks := by rw [asks]
  status_sentBack _ _ _ _ _ asks := by rw [asks]; rfl
  status_kept _ _ _ _ _ _ asks unasked := by rw [asks]; exact if_neg unasked

/-- What a system has beside its manager. -/
structure Site where
  L : PacketLayout
  E : Enumeration Nat DeviceApiAction
  F : Enumeration CString DeviceCallbackApiAction
  /-- The member `length` of an action. -/
  lengthOf : DeviceApiAction → Int
  /-- What passes requests on to the devices. -/
  deviceManager : LogicalDeviceManager
  /-- The mesh address of the manager. -/
  self : FarAddr
  /-- What was registered with the device at an address. -/
  registrations : LogicalAddress → List Registration

/-- What the handlers of the devices return. -/
structure Handlers where
  get : HandlerCall → List UInt8
  set : HandlerCall → ActionExecuteStatus

/-! ## Answers -/

/-- What an answer says. -/
inductive AnswerBody where
  /-- An `ACTION_RESPONSE`. -/
  | response (status : ActionExecuteStatus) (payload : List UInt8)
  /-- An `ACTION_EXECUTE_RESULT`. -/
  | result (status : ActionExecuteStatus)
deriving DecidableEq, Repr

/-- An answer on its way to the manager. -/
structure Answer where
  request : SentPacket
  /-- The call of a handler it came from, if one was called. -/
  call : Option HandlerCall
  requestId : UInt8
  body : AnswerBody
deriving DecidableEq, Repr

/-- The handler an effect of a device calls. -/
def DeviceEffect.handlerCall : DeviceEffect → Option HandlerCall
  | .call handlerCall => some handlerCall
  | .send _ => none

/-- What the device sends back for a request to read a value. -/
def Answer.ofGet (request : SentPacket) (effects : List DeviceEffect) : List Answer :=
  (effects.filterMap DeviceEffect.packet).filterMap fun packet =>
    match packet.body with
    | .actionResponse requestId status payload =>
        some ⟨request, effects.findSome? DeviceEffect.handlerCall, requestId,
          .response status payload⟩
    | .actionExecute .. | .actionFetch .. | .subscriptionStart .. => none

/-- What is sent back for a request to change a value. -/
def Answer.ofSet (request : SentPacket) (effects : List DeviceEffect)
    (results : List (UInt8 × ActionExecuteStatus)) : List Answer :=
  results.map fun result =>
    ⟨request, effects.findSome? DeviceEffect.handlerCall, result.1, .result result.2⟩

namespace LogicalDeviceManager

variable (manager : LogicalDeviceManager) (dev : LogicalCallbackDevice)
  (F : Enumeration CString DeviceCallbackApiAction) (src : FarAddr) (request : SentPacket)
  (slot : PoolSlot) (handlers : Handlers)

/-- The answers to a request that a call of a device leads to.  There are none where the device
reads its vector out of bounds. -/
def answer : DeviceCall → Option (List Answer)
  | .onActionGet actionId data addr requestId =>
      (dev.onActionGet F actionId data addr requestId slot handlers.get).map
        (Answer.ofGet request)
  | .onActionSet actionId data addr =>
      (dev.onActionSet F actionId data addr handlers.set).map fun done =>
        Answer.ofSet request done.1 (manager.executeResults request done.2)

/-- The answers of a device to a request from a mesh address. -/
def serve : Option (List Answer) :=
  ((manager.dispatchPacket src request).mapM
    (manager.answer dev F request slot handlers)).map List.flatten

variable {manager dev F src request slot handlers} {call : DeviceCall} {requestId : UInt8}
  {actionId : UInt16} {flags : ActionExecuteFlags} {payload : List UInt8}

theorem serve_of_call (one : manager.dispatchPacket src request = [call]) :
    manager.serve dev F src request slot handlers =
      manager.answer dev F request slot handlers call := by
  rw [serve, one, List.mapM_cons, List.mapM_nil]
  cases manager.answer dev F request slot handlers call with
  | none => rfl
  | some answers => exact congrArg some (List.append_nil answers)

/-- A request to read a value is a call of `on_action_get`. -/
theorem serve_fetch (asks : request.body = .actionFetch requestId actionId payload) :
    manager.serve dev F src request slot handlers =
      (dev.onActionGet F actionId.toNat payload ⟨src, request.srcPort⟩ requestId slot
        handlers.get).map (Answer.ofGet request) :=
  serve_of_call (manager.fetch_passedOn _ _ _ _ _ asks)

/-- A request to change a value is a call of `on_action_set`. -/
theorem serve_execute (asks : request.body = .actionExecute requestId actionId flags payload) :
    manager.serve dev F src request slot handlers =
      (dev.onActionSet F actionId.toNat payload ⟨src, request.srcPort⟩ handlers.set).map
        fun done => Answer.ofSet request done.1 (manager.executeResults request done.2) :=
  serve_of_call (manager.execute_passedOn _ _ _ _ _ _ asks)

end LogicalDeviceManager

namespace Site

variable (W : Site)

/-- The device at an address. -/
def device (place : LogicalAddress) : LogicalCallbackDevice :=
  .build place.log (W.registrations place)

/-- The answers of the device at the address to a request. -/
def serve (request : SentPacket) (slot : PoolSlot) (handlers : Handlers) : Option (List Answer) :=
  W.deviceManager.serve (W.device request.dest) W.F W.self request slot handlers

/-- The registration a request is dispatched to: the action asked for, with the handlers last
registered under its name. -/
def dispatched (place : LogicalAddress) (actionId : UInt16) : Option Registration :=
  (registrationAt (W.registrations place) actionId.toNat).bind fun reg =>
    (lastNamed (W.registrations place) reg.action.name).map fun last =>
      ⟨reg.action, last.callbacks⟩

end Site

/-- The answer is what the handler of the action asked for returned, when it was called with
the data of the request.  A device with no action answers that there is none. -/
inductive Answer.From (W : Site) (slot : PoolSlot) (handlers : Handlers) (answer : Answer) : Prop
  | fetched (actionId : UInt16) (payload : List UInt8) (reg : Registration) (call : HandlerCall)
      (asks : answer.request.body = .actionFetch answer.requestId actionId payload)
      (dispatched : W.dispatched answer.request.dest actionId = some reg)
      (call_eq : call = reg.getCall payload ⟨W.self, answer.request.srcPort⟩ answer.requestId)
      (called : answer.call = some call)
      (body : answer.body = .response slot.status (handlers.get call))
  | executed (actionId : UInt16) (payload : List UInt8) (reg : Registration) (call : HandlerCall)
      (asks : answer.request.body =
        .actionExecute answer.requestId actionId .requireStatusResponse payload)
      (dispatched : W.dispatched answer.request.dest actionId = some reg)
      (call_eq : call = reg.setCall payload ⟨W.self, answer.request.srcPort⟩)
      (called : answer.call = some call) (body : answer.body = .result (handlers.set call))
  | unknown (actionId : UInt16) (payload : List UInt8)
      (asks : answer.request.body =
        .actionExecute answer.requestId actionId .requireStatusResponse payload)
      (none_registered : W.registrations answer.request.dest = [])
      (called : answer.call = none) (body : answer.body = .result .actionNotFound)

/-- Whatever the device sends back to a request comes from the handler it asks for. -/
theorem Site.serve_from {W : Site} {request : SentPacket} {slot : PoolSlot} {handlers : Handlers}
    {answers : List Answer} {q : Request} (sentAs : q.SentAs request)
    (h : W.serve request slot handlers = some answers) {answer : Answer}
    (hmem : answer ∈ answers) : answer.request = request ∧ answer.From W slot handlers := by
  have registered := LogicalCallbackDevice.build_registered request.dest.log
    (W.registrations request.dest)
  unfold serve at h
  cases sentAs with
  | fetch actionId payload _ _ asks =>
      rw [LogicalDeviceManager.serve_fetch asks] at h
      obtain ⟨effects, got, rfl⟩ := Option.map_eq_some_iff.mp h
      cases at_id : registrationAt (W.registrations request.dest) actionId.toNat with
      | some reg =>
          obtain ⟨last, last_eq, dispatches⟩ := registered.dispatchesTo (F := W.F) at_id
          rw [device, dispatches.get] at got
          cases got
          cases List.mem_singleton.mp hmem
          refine ⟨rfl, .fetched actionId payload ⟨reg.action, last.callbacks⟩ _ asks ?_ rfl rfl rfl⟩
          rw [dispatched, at_id, Option.bind_some, last_eq, Option.map_some]
      | none =>
          rcases registered.outside at_id W.F with ⟨-, refuses⟩ | reads
          · rw [device, refuses.get] at got
            cases got
            cases hmem
          · simp [device, LogicalCallbackDevice.onActionGet, reads] at got
  | execute actionId flags payload _ _ asks =>
      rw [LogicalDeviceManager.serve_execute asks] at h
      obtain ⟨done, set, rfl⟩ := Option.map_eq_some_iff.mp h
      by_cases required : flags = .requireStatusResponse
      · subst required
        rw [W.deviceManager.status_sentBack _ _ _ _ _ asks] at hmem
        cases List.mem_singleton.mp hmem
        cases at_id : registrationAt (W.registrations request.dest) actionId.toNat with
        | some reg =>
            obtain ⟨last, last_eq, dispatches⟩ := registered.dispatchesTo (F := W.F) at_id
            rw [device, dispatches.set] at set
            cases set
            refine ⟨rfl, .executed actionId payload ⟨reg.action, last.callbacks⟩ _ asks ?_ rfl rfl
              rfl⟩
            rw [dispatched, at_id, Option.bind_some, last_eq, Option.map_some]
        | none =>
            rcases registered.outside at_id W.F with ⟨empty, refuses⟩ | reads
            · rw [device, refuses.set] at set
              cases set
              exact ⟨rfl, .unknown actionId payload asks empty rfl rfl⟩
            · simp [device, LogicalCallbackDevice.onActionSet, reads] at set
      · rw [W.deviceManager.status_kept _ _ _ _ _ _ asks required] at hmem
        cases hmem

/-! ## Packets -/

/-- The packet says what the answer with the id does. -/
def AnswerBody.CarriedBy (L : PacketLayout) (log : LogicalPacket) (size : UInt16)
    (requestId : UInt8) : AnswerBody → Prop
  | .response status payload =>
      log.type L = .actionResponse ∧ log.responseRequestId L = requestId ∧
        log.responseStatus L = status ∧ log.mem.Holds (log.off + L.responsePayload) payload ∧
        size.toNat = log.off + L.responsePayload + payload.length
  | .result status =>
      log.type L = .actionExecuteResult ∧ log.executeResultRequestId L = requestId ∧
        log.executeResultStatus L = status

instance (L : PacketLayout) (log : LogicalPacket) (size : UInt16) (requestId : UInt8) :
    (body : AnswerBody) → Decidable (body.CarriedBy L log size requestId)
  | .response _ payload => inferInstanceAs (Decidable (_ ∧ _ ∧ _ ∧
      log.mem.slice (log.off + L.responsePayload) payload.length = payload ∧ _))
  | .result _ => inferInstanceAs (Decidable (_ ∧ _ ∧ _))

/-- The bytes are an unreliable envelope around the packet of the answer. -/
def Answer.InPacket (L : PacketLayout) (answer : Answer) (mem : Memory) (size : UInt16) : Prop :=
  L.ovlTypeOf (mem L.ovlType) = .unreliable ∧ L.dataOff .unreliable ≤ size.toNat ∧
    answer.body.CarriedBy L ⟨mem, L.dataOff .unreliable⟩ size answer.requestId

instance (L : PacketLayout) (answer : Answer) (mem : Memory) (size : UInt16) :
    Decidable (answer.InPacket L mem size) :=
  inferInstanceAs (Decidable (_ ∧ _ ∧ _))

/-- `mesh_packet_handler` finds the packet. -/
theorem Answer.InPacket.overlayData {L : PacketLayout} {answer : Answer} {mem : Memory}
    {size : UInt16} (h : answer.InPacket L mem size) :
    KhawasuPc.overlayData L mem size = some ⟨mem, L.dataOff .unreliable⟩ :=
  overlayData_of_envelope h.1 h.2.1

/-- The event is a packet that answers a request. -/
def Event.isReply (L : PacketLayout) : Event → Bool
  | .packet _ log size => (log.reply L size).isSome
  | .executeActionAsync .. | .fetchActionAsync .. | .executeAction .. | .fetchAction ..
  | .poll .. | .subscribeAction .. | .subscribeActionData .. => false

/-! ## The system -/

/-- A manager, the answers sent to it, and which of them arrived, by number. -/
structure Exchange where
  sys : Sys
  answers : List Answer
  delivered : List Nat

namespace Exchange

/-- Something that happens in the system. -/
inductive Event where
  /-- A client calls or waits, or a packet comes that is no answer. -/
  | client (e : KhawasuPc.Event)
  /-- A request reaches its device. -/
  | serve (request : SentPacket) (slot : PoolSlot) (handlers : Handlers)
  /-- The `i`-th answer reaches the manager. -/
  | deliver (i : Nat) (srcPhy : FarAddr) (mem : Memory) (size : UInt16)

/-- The system around a new manager. -/
def start (setup : Setup) : Exchange := ⟨.start setup, [], []⟩

variable (W : Site) (s : Exchange)

/-- What an event does. -/
def step : Event → Option Exchange
  | .client e =>
      if e.isReply W.L then none
      else (s.sys.step W.L W.E e).map fun sys => { s with sys := sys }
  | .serve request slot handlers =>
      if request ∈ requestPackets s.sys.trace then
        (W.serve request slot handlers).map fun answers =>
          { s with answers := s.answers ++ answers }
      else none
  | .deliver i srcPhy mem size =>
      match s.answers[i]? with
      | none => none
      | some answer =>
          if answer.InPacket W.L mem size then
            (overlayData W.L mem size).bind fun log =>
              (s.sys.step W.L W.E (.packet srcPhy log size)).map fun sys =>
                { s with sys := sys, delivered := s.delivered ++ [i] }
          else none

/-- The machine of the system. -/
def machine : Lib.Machine Exchange Event := ⟨fun s e => s.step W e⟩

/-- The requests an event draws ids for. -/
def requests : Event → List Request
  | .client e => s.sys.requests W.E e
  | .serve .. | .deliver .. => []

/-- The requests made along a run. -/
def requestsMade (setup : Setup) (es : List Event) : List Request :=
  (machine W).outputs (requests W) (start setup) es

/-- What a step does. -/
inductive Steps : Event → Exchange → Prop
  | client (e : KhawasuPc.Event) (sys : Sys) (silent : e.isReply W.L = false)
      (step : s.sys.step W.L W.E e = some sys) : Steps (.client e) { s with sys := sys }
  | serve (request : SentPacket) (slot : PoolSlot) (handlers : Handlers) (answers : List Answer)
      (sent : request ∈ requestPackets s.sys.trace)
      (served : W.serve request slot handlers = some answers) :
      Steps (.serve request slot handlers) { s with answers := s.answers ++ answers }
  | deliver (i : Nat) (srcPhy : FarAddr) (mem : Memory) (size : UInt16) (answer : Answer)
      (sys : Sys) (found : s.answers[i]? = some answer) (packet : answer.InPacket W.L mem size)
      (step : s.sys.step W.L W.E (.packet srcPhy ⟨mem, W.L.dataOff .unreliable⟩ size) =
        some sys) :
      Steps (.deliver i srcPhy mem size) { s with sys := sys, delivered := s.delivered ++ [i] }

variable {W s} {t : Exchange} {e : Event}

theorem step_steps (h : s.step W e = some t) : Steps W s e t := by
  cases e with
  | client e =>
      simp only [step, Option.ite_none_left_eq_some] at h
      obtain ⟨silent, h⟩ := h
      obtain ⟨sys, hstep, rfl⟩ := Option.map_eq_some_iff.mp h
      exact .client e sys (Bool.eq_false_iff.mpr silent) hstep
  | serve request slot handlers =>
      simp only [step, Option.ite_none_right_eq_some] at h
      obtain ⟨answers, served, rfl⟩ := Option.map_eq_some_iff.mp h.2
      exact .serve request slot handlers answers h.1 served
  | deliver i srcPhy mem size =>
      unfold step at h
      dsimp only at h
      split at h
      next => cases h
      next answer found =>
        rw [Option.ite_none_right_eq_some] at h
        obtain ⟨packet, h⟩ := h
        rw [packet.overlayData, Option.bind_some] at h
        obtain ⟨sys, hstep, rfl⟩ := Option.map_eq_some_iff.mp h
        exact .deliver i srcPhy mem size answer sys found packet hstep

end Exchange

end KhawasuPc
