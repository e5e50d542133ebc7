import KhawasuPc.Lib.Slots
import KhawasuPc.Manager.Run

/-!
# What events do

Later results follow three things along a run: the operations on the table of
requests, the requests that draw an id, and the subscriptions that are made.
`requestOps`, `requests` and `subscribes` read them off an event and the state it
meets.  `Sys.Acts` is the inversion of a step: it lists what an event can do to the
manager and to the outside, with these three beside it, and every invariant of
runs is proved by cases on it.
-/

namespace KhawasuPc

open Lib

/-- What a collected record says. -/
structure Result where
  status : ActionExecuteStatus
  payload : List UInt8
deriving DecidableEq, Repr

/-- What a record says. -/
def ActionResponse.result (data : ActionResponse) : Result := ⟨data.status, data.payload⟩

/-- What a reply makes of a record that waits. -/
def Reply.result (reply : Reply) : Result := ⟨reply.status, reply.payload.getD []⟩

/-- A request that drew an id. -/
structure Request where
  reqId : UInt8
  type : ActionResponseType
  addr : FarAddr
  port : UInt16
  timeSent : UInt64
deriving DecidableEq, Repr

/-- The record is one of the request. -/
structure Request.Owns (q : Request) (r : ActionResponse) : Prop where
  reqId : r.reqId = q.reqId.toUInt32
  type : r.type = q.type
  srcPhy : r.srcPhy = q.addr
  srcPort : r.srcPort = q.port
  timeSent : r.timeSent = q.timeSent

/-- A subscription made by a call with an action: the id it was assigned and what
the call was given. -/
structure Subscription where
  id : UInt32
  args : PhyDeviceManager.SubscribeArgs
  actionId : UInt16
deriving DecidableEq, Repr

/-! ## Reading events -/

namespace PhyDeviceManager

variable (man : PhyDeviceManager)

/-- The action of an overloaded call is known: an id always is, a name if the
device announced it. -/
def resolves (man : PhyDeviceManager) (E : Enumeration Nat DeviceApiAction) (addr : FarAddr)
    (port : UInt16) : ActionRef → Bool
  | .id _ => true
  | .name name => (man.lookupAction E addr port name).isSome

@[simp] theorem resolves_name (E : Enumeration Nat DeviceApiAction) (addr : FarAddr)
    (port : UInt16) (name : CString) :
    man.resolves E addr port (.name name) = (man.lookupAction E addr port name).isSome := rfl

@[simp] theorem resolves_id (E : Enumeration Nat DeviceApiAction) (addr : FarAddr)
    (port actionId : UInt16) : man.resolves E addr port (.id actionId) = true := rfl

/-- What a call that asks for a reply does to the table of requests. -/
def issueOps (man : PhyDeviceManager) (asks : Bool) : List (Slots.Op UInt8 Result) :=
  if asks then [.issue man.actionResponsesCounter] else []

/-- The request with the next id. -/
def request (env : Ambient) (addr : FarAddr) (port : UInt16) (type : ActionResponseType) :
    Request :=
  ⟨man.actionResponsesCounter, type, addr, port, env.now⟩

/-- The subscription with the next id, if the device is known. -/
def subscription (args : SubscribeArgs) (actionId : UInt16) : List Subscription :=
  match man.lookupLog args.addr args.port with
  | none => []
  | some _ => [⟨man.subscriptionCounter, args, actionId⟩]

end PhyDeviceManager

/-- What a call that cannot fault leaves behind, as an outcome. -/
def Called.outcome {α : Type} (c : Called α) : Outcome := ⟨c.man, c.effects, [], none⟩

namespace Sys

variable {L : PacketLayout} {E : Enumeration Nat DeviceApiAction}

/-- What an event does to the table of requests. -/
def requestOps (L : PacketLayout) (E : Enumeration Nat DeviceApiAction) (s : Sys) :
    Event → List (Slots.Op UInt8 Result)
  | .packet srcPhy log size =>
      match log.reply L size with
      | none => []
      | some (reqId, reply) =>
          if (s.man.handlePacket L srcPhy log size).fault = none then
            [.reply reqId reply.result]
          else []
  | .executeActionAsync _ addr port action _ requireStatus =>
      s.man.issueOps (requireStatus && s.man.resolves E addr port action)
  | .executeAction _ _ addr port action _ requireStatus =>
      s.man.issueOps (requireStatus && s.man.resolves E addr port action)
  | .fetchActionAsync _ addr port action _ => s.man.issueOps (s.man.resolves E addr port action)
  | .fetchAction _ _ addr port action _ => s.man.issueOps (s.man.resolves E addr port action)
  | .poll call now _ =>
      match s.calls.lookup call with
      | some (.polling c) => if c.collects s.man now then [.take c.reqId] else []
      | _ => []
  | .subscribeAction .. | .subscribeActionData .. => []

/-- The request an event draws an id for.  Only the asynchronous `execute_action_async`
draws one for an unknown action. -/
def requests (E : Enumeration Nat DeviceApiAction) (s : Sys) : Event → List Request
  | .executeActionAsync env addr port _ _ _ => [s.man.request env addr port .execute]
  | .executeAction env _ addr port action _ _ =>
      if s.man.resolves E addr port action then [s.man.request env addr port .execute] else []
  | .fetchActionAsync env addr port action _ =>
      if s.man.resolves E addr port action then [s.man.request env addr port .fetch] else []
  | .fetchAction env _ addr port action _ =>
      if s.man.resolves E addr port action then [s.man.request env addr port .fetch] else []
  | _ => []

/-- The subscription a call with an action makes. -/
def subscribes (E : Enumeration Nat DeviceApiAction) (s : Sys) : Event → List Subscription
  | .subscribeAction args (.id actionId) => s.man.subscription args actionId
  | .subscribeAction args (.name name) =>
      match s.man.lookupAction E args.addr args.port name with
      | none => []
      | some action => s.man.subscription args (UInt16.ofNat action.1)
  | _ => []

/-! ## The inversion -/

/-- What an event can do: the outcome, by what happened. -/
inductive Acts (L : PacketLayout) (E : Enumeration Nat DeviceApiAction) (s : Sys) (e : Event) :
    Outcome → Prop
  /-- A packet is handled. -/
  | packet (srcPhy : FarAddr) (log : LogicalPacket) (size : UInt16)
      (event : e = .packet srcPhy log size) : Acts L E s e (s.man.handlePacket L srcPhy log size)
  /-- A request is sent, and a record installed for it. -/
  | asks (env : Ambient) (addr : FarAddr) (port : UInt16) (type : ActionResponseType)
      (packet : SentPacket) (ops : s.requestOps L E e = [.issue s.man.actionResponsesCounter])
      (drawn : s.requests E e = [s.man.request env addr port type])
      (made : s.subscribes E e = [])
      (carries : packet.body.requestId = some s.man.actionResponsesCounter) :
      Acts L E s e
        ⟨s.man.bump.install env addr port s.man.actionResponsesCounter type, [.send packet], [],
          none⟩
  /-- A request is sent that asks for no status. -/
  | counts (env : Ambient) (addr : FarAddr) (port : UInt16) (packet : SentPacket)
      (ops : s.requestOps L E e = [])
      (drawn : s.requests E e = [s.man.request env addr port .execute])
      (made : s.subscribes E e = [])
      (carries : packet.body.requestId = some s.man.actionResponsesCounter) :
      Acts L E s e ⟨s.man.bump, [.send packet], [], none⟩
  /-- A request for an unknown action draws an id and is reported. -/
  | misses (env : Ambient) (addr : FarAddr) (port : UInt16) (r : ActionResponse)
      (ops : s.requestOps L E e = [])
      (drawn : s.requests E e = [s.man.request env addr port .execute])
      (made : s.subscribes E e = []) (owns : (s.man.request env addr port .execute).Owns r) :
      Acts L E s e ⟨s.man.bump, s.man.callAction (some r), [], none⟩
  | nothing (ops : s.requestOps L E e = []) (drawn : s.requests E e = [])
      (made : s.subscribes E e = []) : Acts L E s e ⟨s.man, [], [], none⟩
  /-- An answered record is collected. -/
  | collects (reqId : UInt8) (received : UInt64) (man' : PhyDeviceManager) (r : ActionResponse)
      (ops : s.requestOps L E e = [.take reqId]) (drawn : s.requests E e = [])
      (made : s.subscribes E e = [])
      (eq : s.man.collect reqId received = some (man', r)) : Acts L E s e ⟨man', [], [], none⟩
  /-- A wait loop ends. -/
  | returns (call : Nat) (now received : UInt64) (c : SyncCall)
      (event : e = .poll call now received) (found : s.calls.lookup call = some (.polling c))
      (stop : c.goesOn now = false) :
      Acts L E s e ⟨s.man, s.man.callAction c.result, [], none⟩
  /-- A subscription of an unknown device draws an id. -/
  | countsSubscription (args : PhyDeviceManager.SubscribeArgs) (action : ActionRef)
      (event : e = .subscribeAction args action) (made : s.subscribes E e = []) :
      Acts L E s e ⟨s.man.bumpSubscription, [], [], none⟩
  /-- A subscription is made. -/
  | subscribes (args : PhyDeviceManager.SubscribeArgs) (action : ActionRef) (actionId : UInt16)
      (dev : LogDeviceInfo) (event : e = .subscribeAction args action)
      (found : s.man.lookupLog args.addr args.port = some dev)
      (made : s.subscribes E e = [⟨s.man.subscriptionCounter, args, actionId⟩]) :
      Acts L E s e
        (s.man.bumpSubscription.subscribeAction (args.data s.man.subscriptionCounter actionId))
  /-- A subscription ready made is asked for. -/
  | readyMade (data : ActionSubscriptionData) (event : e = .subscribeActionData data) :
      Acts L E s e (s.man.subscribeAction data)

variable {s s' : Sys} {e : Event}

/-- The outcome of an event is where it leads. -/
structure LeadsTo (s s' : Sys) (o : Outcome) : Prop where
  man_eq : s'.man = o.man
  trace_eq : s'.trace = s.trace ++ o.effects
  fault_eq : s'.fault = o.fault

theorem subscribeActionById_acts {args : PhyDeviceManager.SubscribeArgs} {action : ActionRef}
    (actionId : UInt16) (event : e = .subscribeAction args action)
    (made : s.subscribes E e = s.man.subscription args actionId) :
    Acts L E s e (s.man.subscribeActionById args actionId) := by
  have same : s.man.bumpSubscription.lookupLog args.addr args.port =
      s.man.lookupLog args.addr args.port := rfl
  unfold PhyDeviceManager.subscribeActionById
  rw [PhyDeviceManager.subscription] at made
  dsimp only
  rw [same]
  cases found : s.man.lookupLog args.addr args.port with
  | none =>
      rw [found] at made
      exact .countsSubscription args action event made
  | some dev =>
      rw [found] at made
      exact .subscribes args action actionId dev event found made

variable {env : Ambient} {addr : FarAddr} {port : UInt16}

theorem executeActionAsync_acts (actionId : UInt16) (buffer : List UInt8) {requireStatus : Bool}
    (ops : s.requestOps L E e = s.man.issueOps requireStatus)
    (drawn : s.requests E e = [s.man.request env addr port .execute])
    (made : s.subscribes E e = []) :
    Acts L E s e
      (s.man.executeActionAsync env addr port actionId buffer requireStatus).outcome := by
  cases requireStatus with
  | false => exact .counts env addr port _ ops drawn made rfl
  | true => exact .asks env addr port .execute _ ops drawn made rfl

theorem fetchActionAsync_acts (actionId : UInt16) (buffer : List UInt8)
    (ops : s.requestOps L E e = [.issue s.man.actionResponsesCounter])
    (drawn : s.requests E e = [s.man.request env addr port .fetch])
    (made : s.subscribes E e = []) :
    Acts L E s e (s.man.fetchActionAsync env addr port actionId buffer).outcome :=
  .asks env addr port .fetch _ ops drawn made rfl

theorem poll_acts {call : Nat} {now received : UInt64} {c : SyncCall}
    (hc : s.calls.lookup call = some (.polling c)) (event : e = .poll call now received) :
    Acts L E s e (c.poll s.man now received).outcome := by
  have hp := c.poll_polls s.man now received
  generalize c.poll s.man now received = called at hp
  subst event
  cases hp with
  | returns stop => exact .returns call now received c rfl hc stop
  | waits go none_found => exact .nothing (by simp [requestOps, hc, none_found]) rfl rfl
  | collects received man' r go found eq =>
      exact .collects c.reqId received man' r (by simp [requestOps, hc, found]) rfl rfl eq

/-- Every step is one of these. -/
theorem step_acts (h : s.step L E e = some s') : ∃ o, Acts L E s e o ∧ LeadsTo s s' o := by
  obtain ⟨hf, h⟩ := next_of_step h
  cases e with
  | packet srcPhy log size => cases h; exact ⟨_, .packet srcPhy log size rfl, rfl, rfl, rfl⟩
  | executeActionAsync env addr port action buffer requireStatus =>
      cases action with
      | id actionId =>
          cases h
          exact ⟨_, executeActionAsync_acts actionId buffer (by simp [requestOps]) rfl rfl,
            rfl, rfl, hf⟩
      | name name =>
          cases h
          cases found : s.man.lookupAction E addr port name with
          | none =>
              obtain ⟨r, type, reqId, srcPhy, srcPort, timeSent, -, reports⟩ :=
                PhyDeviceManager.executeActionAsyncByName_unknown found env buffer requireStatus
              rw [reports]
              exact ⟨_, .misses env addr port r
                (by simp [requestOps, PhyDeviceManager.issueOps, found]) rfl rfl
                ⟨reqId, type, srcPhy, srcPort, timeSent⟩, rfl, rfl, hf⟩
          | some action =>
              rw [PhyDeviceManager.executeActionAsyncByName_known found]
              exact ⟨_, executeActionAsync_acts (UInt16.ofNat action.1) buffer
                (by simp [requestOps, found]) rfl rfl, rfl, rfl, hf⟩
  | fetchActionAsync env addr port action buffer =>
      cases action with
      | id actionId =>
          cases h
          exact ⟨_, fetchActionAsync_acts actionId buffer rfl rfl rfl, rfl, rfl, hf⟩
      | name name =>
          cases h
          cases found : s.man.lookupAction E addr port name with
          | none =>
              rw [PhyDeviceManager.fetchActionAsyncByName, found]
              exact ⟨_, .nothing (by simp [requestOps, PhyDeviceManager.issueOps, found])
                (by simp [requests, found]) rfl, rfl, rfl, hf⟩
          | some action =>
              rw [PhyDeviceManager.fetchActionAsyncByName, found]
              exact ⟨_, fetchActionAsync_acts (UInt16.ofNat action.1) buffer
                (by simp [requestOps, PhyDeviceManager.issueOps, found])
                (by simp [requests, found]) rfl, rfl, rfl, hf⟩
  | executeAction env startTime addr port action buffer requireStatus =>
      cases action with
      | id actionId =>
          cases h
          exact ⟨_, executeActionAsync_acts actionId buffer (by simp [requestOps]) rfl rfl,
            rfl, rfl, hf⟩
      | name name =>
          cases h
          cases found : s.man.lookupAction E addr port name with
          | none =>
              rw [PhyDeviceManager.executeActionByName, found]
              exact ⟨_, .nothing (by simp [requestOps, PhyDeviceManager.issueOps, found])
                (by simp [requests, found]) rfl, rfl, rfl, hf⟩
          | some action =>
              rw [PhyDeviceManager.executeActionByName, found]
              exact ⟨_, executeActionAsync_acts (UInt16.ofNat action.1) buffer
                (by simp [requestOps, found]) (by simp [requests, found]) rfl,
                rfl, rfl, hf⟩
  | fetchAction env startTime addr port action buffer =>
      cases action with
      | id actionId =>
          cases h
          exact ⟨_, fetchActionAsync_acts actionId buffer rfl rfl rfl, rfl, rfl, hf⟩
      | name name =>
          cases h
          cases found : s.man.lookupAction E addr port name with
          | none =>
              rw [PhyDeviceManager.fetchActionByName, found]
              exact ⟨_, .nothing (by simp [requestOps, PhyDeviceManager.issueOps, found])
                (by simp [requests, found]) rfl, rfl, rfl, hf⟩
          | some action =>
              rw [PhyDeviceManager.fetchActionByName, found]
              exact ⟨_, fetchActionAsync_acts (UInt16.ofNat action.1) buffer
                (by simp [requestOps, PhyDeviceManager.issueOps, found])
                (by simp [requests, found]) rfl, rfl, rfl, hf⟩
  | poll call now received =>
      obtain ⟨c, hc, rfl⟩ := next_poll h
      exact ⟨_, poll_acts hc rfl, rfl, rfl, hf⟩
  | subscribeAction args action =>
      cases action with
      | id actionId => cases h; exact ⟨_, subscribeActionById_acts actionId rfl rfl, rfl, rfl, rfl⟩
      | name name =>
          cases h
          cases found : s.man.lookupAction E args.addr args.port name with
          | none =>
              rw [PhyDeviceManager.subscribeActionByName, found]
              exact ⟨_, .nothing rfl rfl (by simp [subscribes, found]), rfl, rfl, rfl⟩
          | some action =>
              rw [PhyDeviceManager.subscribeActionByName, found]
              exact ⟨_, subscribeActionById_acts (UInt16.ofNat action.1) rfl
                (by simp [subscribes, found]), rfl, rfl, rfl⟩
  | subscribeActionData data => cases h; exact ⟨_, .readyMade data rfl, rfl, rfl, rfl⟩

end Sys

end KhawasuPc
