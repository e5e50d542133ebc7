import KhawasuPc.Manager.Request

/-!
# Incoming packets

`PhyDeviceManager::handle_packet` is five `if`s on the type of the packet, one
after the other.  The body of each is a definition of its own here.  No body
writes to the packet, so at most one of them runs: `handlePacket_spec` says
which, and every later result about a packet starts from it.
-/

namespace KhawasuPc

open Lib

/-- `size - LOG_PACKET_SIZE(x) + 1`, in the unsigned type of the macro. -/
def payloadSize (size : UInt16) (logPacketSize : UInt64) : UInt64 :=
  size.toUInt64 - logPacketSize + 1

/-- `std::vector<ubyte>::max_size()`. -/
def vectorMaxSize : UInt64 := 0x7fffffffffffffff

theorem not_vectorMaxSize_lt {len : UInt64} (h : len.toNat < 65536) : ¬ vectorMaxSize < len := by
  rw [UInt64.lt_iff_toNat_lt]
  have : vectorMaxSize.toNat = 9223372036854775807 := rfl
  omega

/-- The size is not negative where the macro counts one byte more than was received at most. -/
theorem payloadSize_toNat {size : UInt16} {w : UInt64} (h : w.toNat ≤ size.toNat + 1) :
    (payloadSize size w).toNat = size.toNat + 1 - w.toNat := by
  have hs : size.toNat < 65536 := size.toNat_lt
  rw [payloadSize, UInt64.toNat_add, UInt64.toNat_sub, UInt16.toNat_toUInt64]
  simp only [UInt64.toNat_one]
  omega

theorem not_vectorMaxSize_lt_payloadSize {size : UInt16} {w : UInt64}
    (h : w.toNat ≤ size.toNat + 1) : ¬ vectorMaxSize < payloadSize size w := by
  rw [UInt64.lt_iff_toNat_lt, payloadSize_toNat h]
  have hs : size.toNat < 65536 := size.toNat_lt
  have : vectorMaxSize.toNat = 9223372036854775807 := rfl
  omega

namespace PhyDeviceManager

variable (L : PacketLayout) (man : PhyDeviceManager) (srcPhy : FarAddr) (log : LogicalPacket)
  (size : UInt16)

/-! ## The bodies -/

/-- The body for `HELLO_WORLD` and `HELLO_WORLD_RESPONSE`. -/
def handleHello : Outcome :=
  let known := man.knownDevices.emplace srcPhy ⟨∅⟩
  let deviceInfo := LogDeviceInfo.ofPacket L srcPhy log
  let phy := (known.lookup srcPhy).getD ⟨∅⟩
  let isNewDevice := log.srcAddr L ∉ phy.logDevices
  let phy := ⟨phy.logDevices.emplace (log.srcAddr L) deviceInfo⟩
  { man := { man with knownDevices := known.insert srcPhy phy }
    effects :=
      if isNewDevice then
        match man.newDeviceCallback with
        | none => []
        | some callback => [.newDevice callback deviceInfo]
      else []
    reads := LogDeviceInfo.ofPacketReads L log ++ [log.span L.srcAddr 2]
    fault := none }

/-- The body for `ACTION_EXECUTE_RESULT`. -/
def handleExecuteResult : Outcome :=
  let reqId := log.executeResultRequestId L
  let idRead := log.span L.executeResultRequestId 1
  match man.actionResponses.lookup reqId with
  | none => ⟨man, [], [idRead], none⟩
  | some data =>
      if data.isWaiting then
        let data := { data with status := log.executeResultStatus L, isWaiting := false }
        { man := { man with actionResponses := man.actionResponses.insert reqId data }
          effects := man.callAction (some data)
          reads := [idRead, log.span L.executeResultStatus 1]
          fault := none }
      else ⟨man, [], [idRead], some .assertIsWaiting⟩

/-- The body for `ACTION_RESPONSE`.  The status is stored before the vector for
the payload is made, which throws if the size is out of range. -/
def handleResponse : Outcome :=
  let reqId := log.responseRequestId L
  let idRead := log.span L.responseRequestId 1
  let statusRead := log.span L.responseStatus 1
  match man.actionResponses.lookup reqId with
  | none => ⟨man, [], [idRead], none⟩
  | some data =>
      if data.isWaiting then
        let len := payloadSize size L.sizeActionResponse
        let data := { data with status := log.responseStatus L }
        if vectorMaxSize < len then
          { man := { man with actionResponses := man.actionResponses.insert reqId data }
            effects := []
            reads := [idRead, statusRead]
            fault := some .lengthError }
        else
          let data :=
            { data with payload := log.responsePayload L len.toNat, isWaiting := false }
          { man := { man with actionResponses := man.actionResponses.insert reqId data }
            effects := man.callAction (some data)
            reads := [idRead, statusRead, log.span L.responsePayload len.toNat]
            fault := none }
      else ⟨man, [], [idRead], some .assertIsWaiting⟩

/-- The body for `SUBSCRIPTION_DONE`. -/
def handleSubscriptionDone : Outcome :=
  let idRead := log.span L.subscriptionId 4
  match man.subscriptions.lookup (log.subscriptionId L) with
  | none => ⟨man, [], [idRead], none⟩
  | some data =>
      let effects :=
        match data.doneCallback with
        | none => []
        | some callback => [.subscriptionDone callback data]
      Outcome.andThen ⟨man, effects, [idRead], none⟩ fun man =>
        if data.isRenew then man.subscribeAction data else .skip man

/-- The body for `SUBSCRIPTION_CALLBACK`. -/
def handleSubscriptionCallback : Outcome :=
  let idRead := log.span L.subscriptionId 4
  match man.subscriptions.lookup (log.subscriptionId L) with
  | none => ⟨man, [], [idRead], none⟩
  | some data =>
      let len := payloadSize size L.sizeSubscriptionCallback
      if vectorMaxSize < len then ⟨man, [], [idRead], some .lengthError⟩
      else
        let reads := [idRead, log.span L.subscriptionPayload len.toNat]
        match data.callback with
        | none => ⟨man, [], reads, some .badFunctionCall⟩
        | some callback =>
            let result := log.subscriptionPayload L len.toNat
            ⟨man, [.subscription callback data result], reads, none⟩

/-! ## The function -/

/-- `PhyDeviceManager::handle_packet`. -/
def handlePacket : Outcome :=
  let typeRead := [log.span L.type 1]
  let type := log.type L
  Outcome.ifThen typeRead (type = .helloWorld ∨ type = .helloWorldResponse)
      (fun man => man.handleHello L srcPhy log) man
    |>.andThen (.ifThen typeRead (type = .actionExecuteResult)
      fun man => man.handleExecuteResult L log)
    |>.andThen (.ifThen typeRead (type = .actionResponse)
      fun man => man.handleResponse L log size)
    |>.andThen (.ifThen typeRead (type = .subscriptionDone)
      fun man => man.handleSubscriptionDone L log)
    |>.andThen (.ifThen typeRead (type = .subscriptionCallback)
      fun man => man.handleSubscriptionCallback L log size)

/-- The body that runs for a packet type. -/
def bodyOf : LogicalPacketType → Outcome
  | .helloWorld | .helloWorldResponse => man.handleHello L srcPhy log
  | .actionExecuteResult => man.handleExecuteResult L log
  | .actionResponse => man.handleResponse L log size
  | .subscriptionDone => man.handleSubscriptionDone L log
  | .subscriptionCallback => man.handleSubscriptionCallback L log size
  | _ => .skip man

/-- Handling a packet is running the body of its type. -/
theorem handlePacket_spec :
    (man.handlePacket L srcPhy log size).Agree (log.span L.type 1)
      (man.bodyOf L srcPhy log size (log.type L)) := by
  unfold handlePacket bodyOf
  cases log.type L with
  | helloWorld | helloWorldResponse =>
      exact Outcome.agree_ifThen_pos (by simp)
        |>.andThen_neg (by simp) |>.andThen_neg (by simp)
        |>.andThen_neg (by simp) |>.andThen_neg (by simp)
  | actionExecuteResult =>
      exact Outcome.agree_ifThen_neg (by simp)
        |>.andThen_pos rfl |>.andThen_neg (by simp)
        |>.andThen_neg (by simp) |>.andThen_neg (by simp)
  | actionResponse =>
      exact Outcome.agree_ifThen_neg (by simp)
        |>.andThen_neg (by simp) |>.andThen_pos rfl
        |>.andThen_neg (by simp) |>.andThen_neg (by simp)
  | subscriptionDone =>
      exact Outcome.agree_ifThen_neg (by simp)
        |>.andThen_neg (by simp) |>.andThen_neg (by simp)
        |>.andThen_pos rfl |>.andThen_neg (by simp)
  | subscriptionCallback =>
      exact Outcome.agree_ifThen_neg (by simp)
        |>.andThen_neg (by simp) |>.andThen_neg (by simp)
        |>.andThen_neg (by simp) |>.andThen_pos rfl
  | actionExecute | actionFetch | subscriptionStart | other =>
      exact Outcome.agree_ifThen_neg (by simp)
        |>.andThen_neg (by simp) |>.andThen_neg (by simp)
        |>.andThen_neg (by simp) |>.andThen_neg (by simp)

end PhyDeviceManager

/-! ## Replies -/

/-- What a packet says about a request. -/
structure Reply where
  status : ActionExecuteStatus
  /-- The payload, which an `ACTION_EXECUTE_RESULT` has not. -/
  payload : Option (List UInt8)
deriving DecidableEq, Repr

/-- The request a packet answers and what it says about it, as `handle_packet`
reads them. -/
def LogicalPacket.reply (L : PacketLayout) (log : LogicalPacket) (size : UInt16) :
    Option (UInt8 × Reply) :=
  match log.type L with
  | .actionExecuteResult => some (log.executeResultRequestId L, ⟨log.executeResultStatus L, none⟩)
  | .actionResponse =>
      some (log.responseRequestId L,
        ⟨log.responseStatus L,
          some (log.responsePayload L (payloadSize size L.sizeActionResponse).toNat)⟩)
  | _ => none

/-- A record after its reply. -/
def ActionResponse.answer (data : ActionResponse) (reply : Reply) : ActionResponse :=
  { data with
    isWaiting := false
    status := reply.status
    payload := reply.payload.getD data.payload }

namespace PhyDeviceManager

variable {L : PacketLayout} {man : PhyDeviceManager} {srcPhy : FarAddr} {log : LogicalPacket}
  {size : UInt16}

/-- The manager with a record replaced. -/
def setResponse (man : PhyDeviceManager) (reqId : UInt8) (data : ActionResponse) :
    PhyDeviceManager :=
  { man with actionResponses := man.actionResponses.insert reqId data }

/-- What a reply does, by the record under its id: there is none, it was answered
before, or it waits.  A record that waits is answered unless the payload is out
of range, which leaves the new status behind. -/
inductive HandlesReply (man : PhyDeviceManager) (reqId : UInt8) (reply : Reply) : Outcome → Prop
  | unexpected {o : Outcome} (found : man.actionResponses.lookup reqId = none)
      (man_eq : o.man = man) (effects_eq : o.effects = []) (fault_eq : o.fault = none) :
      HandlesReply man reqId reply o
  | repeated {o : Outcome} (data : ActionResponse)
      (found : man.actionResponses.lookup reqId = some data) (waiting : data.isWaiting = false)
      (man_eq : o.man = man) (effects_eq : o.effects = [])
      (fault_eq : o.fault = some .assertIsWaiting) : HandlesReply man reqId reply o
  | tooLong {o : Outcome} (data : ActionResponse)
      (found : man.actionResponses.lookup reqId = some data) (waiting : data.isWaiting = true)
      (man_eq : o.man = man.setResponse reqId { data with status := reply.status })
      (effects_eq : o.effects = []) (fault_eq : o.fault = some .lengthError) :
      HandlesReply man reqId reply o
  | answered {o : Outcome} (data : ActionResponse)
      (found : man.actionResponses.lookup reqId = some data) (waiting : data.isWaiting = true)
      (man_eq : o.man = man.setResponse reqId (data.answer reply))
      (effects_eq : o.effects = man.callAction (some (data.answer reply)))
      (fault_eq : o.fault = none) : HandlesReply man reqId reply o

/-- `HandlesReply` does not look at what was read. -/
theorem HandlesReply.congr {reqId : UInt8} {reply : Reply} {x : Span} {o o' : Outcome}
    (h : HandlesReply man reqId reply o') (ha : o.Agree x o') : HandlesReply man reqId reply o := by
  obtain ⟨hman, heff, -, hfault⟩ := ha
  cases h with
  | unexpected found h₁ h₂ h₃ => exact .unexpected found (hman ▸ h₁) (heff ▸ h₂) (hfault ▸ h₃)
  | repeated data found w h₁ h₂ h₃ =>
      exact .repeated data found w (hman ▸ h₁) (heff ▸ h₂) (hfault ▸ h₃)
  | tooLong data found w h₁ h₂ h₃ =>
      exact .tooLong data found w (hman ▸ h₁) (heff ▸ h₂) (hfault ▸ h₃)
  | answered data found w h₁ h₂ h₃ =>
      exact .answered data found w (hman ▸ h₁) (heff ▸ h₂) (hfault ▸ h₃)

theorem handleExecuteResult_reply (L : PacketLayout) (man : PhyDeviceManager)
    (log : LogicalPacket) :
    HandlesReply man (log.executeResultRequestId L) ⟨log.executeResultStatus L, none⟩
      (man.handleExecuteResult L log) := by
  cases found : man.actionResponses.lookup (log.executeResultRequestId L) with
  | none =>
      simp only [handleExecuteResult, found]
      exact .unexpected found rfl rfl rfl
  | some data =>
      cases waiting : data.isWaiting with
      | false =>
          simp only [handleExecuteResult, found, waiting, Bool.false_eq_true, ↓reduceIte]
          exact .repeated data found waiting rfl rfl rfl
      | true =>
          simp only [handleExecuteResult, found, waiting, ↓reduceIte]
          exact .answered data found waiting rfl rfl rfl

theorem handleResponse_reply (L : PacketLayout) (man : PhyDeviceManager) (log : LogicalPacket)
    (size : UInt16) :
    HandlesReply man (log.responseRequestId L)
      ⟨log.responseStatus L,
        some (log.responsePayload L (payloadSize size L.sizeActionResponse).toNat)⟩
      (man.handleResponse L log size) := by
  cases found : man.actionResponses.lookup (log.responseRequestId L) with
  | none =>
      simp only [handleResponse, found]
      exact .unexpected found rfl rfl rfl
  | some data =>
      cases waiting : data.isWaiting with
      | false =>
          simp only [handleResponse, found, waiting, Bool.false_eq_true, ↓reduceIte]
          exact .repeated data found waiting rfl rfl rfl
      | true =>
          by_cases hlen : vectorMaxSize < payloadSize size L.sizeActionResponse
          · simp only [handleResponse, found, waiting, hlen, ↓reduceIte]
            exact .tooLong data found waiting (by simp [setResponse, waiting]) rfl rfl
          · simp only [handleResponse, found, waiting, hlen, ↓reduceIte]
            exact .answered data found waiting rfl rfl rfl

/-- What a reply does. -/
theorem handlePacket_reply {reqId : UInt8} {reply : Reply}
    (h : log.reply L size = some (reqId, reply)) :
    HandlesReply man reqId reply (man.handlePacket L srcPhy log size) := by
  have spec := handlePacket_spec L man srcPhy log size
  unfold LogicalPacket.reply at h
  cases ht : log.type L with
  | actionExecuteResult =>
      rw [ht] at h spec
      cases h
      exact (handleExecuteResult_reply L man log).congr spec
  | actionResponse =>
      rw [ht] at h spec
      cases h
      exact (handleResponse_reply L man log size).congr spec
  | _ => rw [ht] at h; cases h

/-! ## Subscriptions -/

/-- The `SUBSCRIPTION_START` for a subscription of a device. -/
def startPacket (man : PhyDeviceManager) (device : LogDeviceInfo) (data : ActionSubscriptionData) :
    SentPacket where
  dest := ⟨device.phy, device.log⟩
  srcPort := man.selfPort
  ovlType := .unreliable
  body := .subscriptionStart data.id data.actionId data.duration data.period

/-- What asking for a subscription does: it stops at a null pointer, at a pointer to
no device, or sends one packet. -/
inductive Subscribes (man : PhyDeviceManager) (data : ActionSubscriptionData) : Outcome → Prop
  | null (device : data.device = none) :
      Subscribes man data ⟨man, [], [], some .assertDevice⟩
  | dangling (man' : PhyDeviceManager)
      (man_eq : man' = { man with subscriptions := man.subscriptions.emplace data.id data }) :
      Subscribes man data ⟨man', [], [], some .danglingDevice⟩
  | sends (man' : PhyDeviceManager) (place : LogicalAddress) (device : LogDeviceInfo)
      (man_eq : man' = { man with subscriptions := man.subscriptions.emplace data.id data })
      (place_eq : data.device = some place) (found : man.deref place = some device) :
      Subscribes man data ⟨man', [.send (man.startPacket device data)], [], none⟩

theorem subscribeAction_subscribes (man : PhyDeviceManager) (data : ActionSubscriptionData) :
    Subscribes man data (man.subscribeAction data) := by
  unfold subscribeAction
  cases place_eq : data.device with
  | none => exact .null place_eq
  | some place =>
      dsimp only
      split
      · exact .dangling _ rfl
      next device found => exact .sends _ place device rfl place_eq found

/-- Calling the `done_callback` of a subscription, where it is set. -/
def callDone (data : ActionSubscriptionData) : List Effect :=
  match data.doneCallback with
  | none => []
  | some callback => [.subscriptionDone callback data]

/-- What a `SUBSCRIPTION_DONE` does, by the subscription under its id. -/
inductive HandlesDone (man : PhyDeviceManager) (id : UInt32) : Outcome → Prop
  | unexpected {o : Outcome} (found : man.subscriptions.lookup id = none) (man_eq : o.man = man)
      (effects_eq : o.effects = []) (fault_eq : o.fault = none) : HandlesDone man id o
  | finished {o : Outcome} (data : ActionSubscriptionData)
      (found : man.subscriptions.lookup id = some data) (renew : data.isRenew = false)
      (man_eq : o.man = man) (effects_eq : o.effects = callDone data) (fault_eq : o.fault = none) :
      HandlesDone man id o
  | renewed {o o' : Outcome} (data : ActionSubscriptionData)
      (found : man.subscriptions.lookup id = some data) (renew : data.isRenew = true)
      (again : Subscribes man data o') (man_eq : o.man = o'.man)
      (effects_eq : o.effects = callDone data ++ o'.effects) (fault_eq : o.fault = o'.fault) :
      HandlesDone man id o

theorem handleSubscriptionDone_done (L : PacketLayout) (man : PhyDeviceManager)
    (log : LogicalPacket) :
    HandlesDone man (log.subscriptionId L) (man.handleSubscriptionDone L log) := by
  cases found : man.subscriptions.lookup (log.subscriptionId L) with
  | none =>
      simp only [handleSubscriptionDone, found]
      exact .unexpected found rfl rfl rfl
  | some data =>
      cases renew : data.isRenew with
      | false =>
          simp only [handleSubscriptionDone, found, Outcome.andThen, renew, Bool.false_eq_true,
            ↓reduceIte]
          exact .finished data found renew rfl (List.append_nil _) rfl
      | true =>
          simp only [handleSubscriptionDone, found, Outcome.andThen, renew, ↓reduceIte]
          exact .renewed data found renew (subscribeAction_subscribes man data) rfl rfl rfl

/-- What a `SUBSCRIPTION_CALLBACK` does, by the subscription under its id.  It
changes no table. -/
inductive HandlesCallback (man : PhyDeviceManager) (id : UInt32) (payload : List UInt8) :
    Outcome → Prop
  | unexpected {o : Outcome} (found : man.subscriptions.lookup id = none) (man_eq : o.man = man)
      (effects_eq : o.effects = []) (fault_eq : o.fault = none) : HandlesCallback man id payload o
  | faults {o : Outcome} (fault : Fault) (man_eq : o.man = man) (effects_eq : o.effects = [])
      (fault_eq : o.fault = some fault) (other : fault ≠ .assertIsWaiting) :
      HandlesCallback man id payload o
  | reported {o : Outcome} (data : ActionSubscriptionData) (callback : FnRef)
      (found : man.subscriptions.lookup id = some data) (set : data.callback = some callback)
      (man_eq : o.man = man) (effects_eq : o.effects = [.subscription callback data payload])
      (fault_eq : o.fault = none) : HandlesCallback man id payload o

theorem handleSubscriptionCallback_callback (L : PacketLayout) (man : PhyDeviceManager)
    (log : LogicalPacket) (size : UInt16) :
    HandlesCallback man (log.subscriptionId L)
      (log.subscriptionPayload L (payloadSize size L.sizeSubscriptionCallback).toNat)
      (man.handleSubscriptionCallback L log size) := by
  cases found : man.subscriptions.lookup (log.subscriptionId L) with
  | none =>
      simp only [handleSubscriptionCallback, found]
      exact .unexpected found rfl rfl rfl
  | some data =>
      by_cases hlen : vectorMaxSize < payloadSize size L.sizeSubscriptionCallback
      · simp only [handleSubscriptionCallback, found, hlen, ↓reduceIte]
        exact .faults .lengthError rfl rfl rfl (by simp)
      · cases set : data.callback with
        | none =>
            simp only [handleSubscriptionCallback, found, hlen, set, ↓reduceIte]
            exact .faults .badFunctionCall rfl rfl rfl (by simp)
        | some callback =>
            simp only [handleSubscriptionCallback, found, hlen, set, ↓reduceIte]
            exact .reported data callback found set rfl rfl rfl

/-! ## Packets that are no reply -/

/-- Asking for a subscription leaves the requests alone and checks none. -/
theorem Subscribes.actionResponses {data : ActionSubscriptionData} {o : Outcome}
    (h : Subscribes man data o) :
    o.man.actionResponses = man.actionResponses ∧ o.fault ≠ some .assertIsWaiting := by
  cases h with
  | null device => exact ⟨rfl, by simp⟩
  | dangling man' man_eq => exact ⟨by rw [man_eq], by simp⟩
  | sends man' place device man_eq place_eq found => exact ⟨by rw [man_eq], by simp⟩

theorem HandlesDone.actionResponses {id : UInt32} {o : Outcome} (h : HandlesDone man id o) :
    o.man.actionResponses = man.actionResponses ∧ o.fault ≠ some .assertIsWaiting := by
  cases h with
  | unexpected found man_eq effects_eq fault_eq => exact ⟨by rw [man_eq], by simp [fault_eq]⟩
  | finished data found renew man_eq effects_eq fault_eq =>
      exact ⟨by rw [man_eq], by simp [fault_eq]⟩
  | renewed data found renew again man_eq effects_eq fault_eq =>
      rw [man_eq, fault_eq]
      exact again.actionResponses

theorem HandlesCallback.actionResponses {id : UInt32} {payload : List UInt8} {o : Outcome}
    (h : HandlesCallback man id payload o) : o.man = man ∧ o.fault ≠ some .assertIsWaiting := by
  cases h with
  | unexpected found man_eq effects_eq fault_eq => exact ⟨man_eq, by simp [fault_eq]⟩
  | faults fault man_eq effects_eq fault_eq other =>
      exact ⟨man_eq, by rw [fault_eq]; simpa using other⟩
  | reported data callback found set man_eq effects_eq fault_eq =>
      exact ⟨man_eq, by simp [fault_eq]⟩

/-- A packet that is no reply leaves the requests alone and checks none. -/
theorem handlePacket_no_reply (h : log.reply L size = none) :
    (man.handlePacket L srcPhy log size).man.actionResponses = man.actionResponses ∧
      (man.handlePacket L srcPhy log size).fault ≠ some .assertIsWaiting := by
  have spec := handlePacket_spec L man srcPhy log size
  rw [spec.man, spec.fault]
  unfold LogicalPacket.reply at h
  unfold bodyOf
  cases ht : log.type L with
  | actionExecuteResult => rw [ht] at h; cases h
  | actionResponse => rw [ht] at h; cases h
  | subscriptionDone => exact (handleSubscriptionDone_done L man log).actionResponses
  | subscriptionCallback =>
      have hc := handleSubscriptionCallback_callback L man log size
      exact ⟨congrArg _ hc.actionResponses.1, hc.actionResponses.2⟩
  | helloWorld | helloWorldResponse => exact ⟨rfl, by simp [handleHello]⟩
  | _ => exact ⟨rfl, by simp⟩

end PhyDeviceManager

end KhawasuPc
