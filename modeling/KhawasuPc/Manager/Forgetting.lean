import KhawasuPc.Manager.Replies

/-!
# A manager without one record

`forget` takes the record of one request away.  What the manager does for any other
request, for a subscription or for a packet that does not answer the request is the same
with the record and without it, and what it leaves behind differs in the record alone.
-/

namespace KhawasuPc

open Lib

variable {L : PacketLayout} {E : Enumeration Nat DeviceApiAction}

/-! ## Forgetting -/

/-- Change the manager of an outcome. -/
def Outcome.mapMan (f : PhyDeviceManager → PhyDeviceManager) (o : Outcome) : Outcome :=
  { o with man := f o.man }

/-- Change the manager a call leaves behind. -/
def Called.mapMan {α : Type} (f : PhyDeviceManager → PhyDeviceManager) (c : Called α) : Called α :=
  { c with man := f c.man }

namespace PhyDeviceManager

variable {man : PhyDeviceManager} {id : UInt8}

/-- The manager without the record of a request. -/
def forget (man : PhyDeviceManager) (id : UInt8) : PhyDeviceManager :=
  { man with actionResponses := man.actionResponses.erase id }

theorem forget_setResponse (man : PhyDeviceManager) (id : UInt8) (data : ActionResponse) :
    (man.setResponse id data).forget id = man.forget id := by
  rw [forget, setResponse, UMap.erase_insert, forget]

theorem forget_setResponse_ne (man : PhyDeviceManager) {k : UInt8} (h : k ≠ id)
    (data : ActionResponse) :
    (man.setResponse k data).forget id = (man.forget id).setResponse k data := by
  rw [forget, setResponse, UMap.erase_insert_ne h, forget, setResponse]

theorem forget_install_ne (man : PhyDeviceManager) {k : UInt8} (h : k ≠ id) (env : Ambient)
    (addr : FarAddr) (port : UInt16) (type : ActionResponseType) :
    (man.install env addr port k type).forget id =
      (man.forget id).install env addr port k type := by
  rw [forget, install, UMap.erase_emplace_ne h, forget, install]

theorem lookup_forget_ne {k : UInt8} (h : k ≠ id) :
    (man.forget id).actionResponses.lookup k = man.actionResponses.lookup k :=
  Finmap.lookup_erase_ne h

theorem lookup_forget (man : PhyDeviceManager) (id : UInt8) :
    (man.forget id).actionResponses.lookup id = none :=
  Finmap.lookup_erase ..

/-! ### Calls -/

variable (env : Ambient) (addr : FarAddr) (port : UInt16) (buffer : List UInt8)

/-- A call that installs no record under the id works without the record as with it. -/
theorem executeActionAsync_forget (actionId : UInt16) {requireStatus : Bool}
    (h : requireStatus = true → man.actionResponsesCounter ≠ id) :
    (man.forget id).executeActionAsync env addr port actionId buffer requireStatus =
      (man.executeActionAsync env addr port actionId buffer requireStatus).mapMan
        (·.forget id) := by
  cases requireStatus with
  | false => rfl
  | true =>
      have same := man.bump.forget_install_ne (h rfl) env addr port .execute
      simp only [executeActionAsync, Called.mapMan, ↓reduceIte, same]
      rfl

theorem fetchActionAsync_forget (actionId : UInt16) (h : man.actionResponsesCounter ≠ id) :
    (man.forget id).fetchActionAsync env addr port actionId buffer =
      (man.fetchActionAsync env addr port actionId buffer).mapMan (·.forget id) := by
  have same := man.bump.forget_install_ne h env addr port .fetch
  simp only [fetchActionAsync, Called.mapMan, same]
  rfl

theorem executeAction_forget (startTime : UInt64) (actionId : UInt16) {requireStatus : Bool}
    (h : requireStatus = true → man.actionResponsesCounter ≠ id) :
    (man.forget id).executeAction env addr port startTime actionId buffer requireStatus =
      (man.executeAction env addr port startTime actionId buffer requireStatus).mapMan
        (·.forget id) := by
  dsimp only [executeAction]
  rw [executeActionAsync_forget env addr port buffer actionId h]
  rfl

theorem fetchAction_forget (startTime : UInt64) (actionId : UInt16)
    (h : man.actionResponsesCounter ≠ id) :
    (man.forget id).fetchAction env addr port startTime actionId buffer =
      (man.fetchAction env addr port startTime actionId buffer).mapMan (·.forget id) := by
  dsimp only [fetchAction]
  rw [fetchActionAsync_forget env addr port buffer actionId h]
  rfl

/-- Nor is the record seen by the lookup of an action. -/
theorem lookupAction_forget (man : PhyDeviceManager) (id : UInt8) (name : CString) :
    (man.forget id).lookupAction E addr port name = man.lookupAction E addr port name := rfl

variable (name : CString)

theorem executeActionAsyncByName_forget {requireStatus : Bool}
    (h : (requireStatus && man.resolves E addr port (.name name)) = true →
      man.actionResponsesCounter ≠ id) :
    (man.forget id).executeActionAsyncByName env addr port E name buffer requireStatus =
      (man.executeActionAsyncByName env addr port E name buffer requireStatus).mapMan
        (·.forget id) := by
  unfold executeActionAsyncByName
  rw [lookupAction_forget]
  rw [resolves_name] at h
  cases found : man.lookupAction E addr port name with
  | none => rfl
  | some action =>
      rw [found, Option.isSome_some, Bool.and_true] at h
      exact executeActionAsync_forget env addr port buffer (UInt16.ofNat action.1) h

theorem fetchActionAsyncByName_forget
    (h : man.resolves E addr port (.name name) = true → man.actionResponsesCounter ≠ id) :
    (man.forget id).fetchActionAsyncByName env addr port E name buffer =
      (man.fetchActionAsyncByName env addr port E name buffer).mapMan (·.forget id) := by
  unfold fetchActionAsyncByName
  rw [lookupAction_forget]
  rw [resolves_name] at h
  cases found : man.lookupAction E addr port name with
  | none => rfl
  | some action =>
      rw [found] at h
      exact fetchActionAsync_forget env addr port buffer (UInt16.ofNat action.1) (h rfl)

theorem executeActionByName_forget (startTime : UInt64) {requireStatus : Bool}
    (h : (requireStatus && man.resolves E addr port (.name name)) = true →
      man.actionResponsesCounter ≠ id) :
    (man.forget id).executeActionByName env addr port startTime E name buffer requireStatus =
      (man.executeActionByName env addr port startTime E name buffer requireStatus).mapMan
        (·.forget id) := by
  unfold executeActionByName
  rw [lookupAction_forget]
  rw [resolves_name] at h
  cases found : man.lookupAction E addr port name with
  | none => rfl
  | some action =>
      rw [found, Option.isSome_some, Bool.and_true] at h
      exact executeAction_forget env addr port buffer startTime (UInt16.ofNat action.1) h

theorem fetchActionByName_forget (startTime : UInt64)
    (h : man.resolves E addr port (.name name) = true → man.actionResponsesCounter ≠ id) :
    (man.forget id).fetchActionByName env addr port startTime E name buffer =
      (man.fetchActionByName env addr port startTime E name buffer).mapMan (·.forget id) := by
  unfold fetchActionByName
  rw [lookupAction_forget]
  rw [resolves_name] at h
  cases found : man.lookupAction E addr port name with
  | none => rfl
  | some action =>
      rw [found] at h
      exact fetchAction_forget env addr port buffer startTime (UInt16.ofNat action.1) (h rfl)

theorem collect_forget {k : UInt8} (h : k ≠ id) (received : UInt64) :
    (man.forget id).collect k received =
      (man.collect k received).map fun p => (p.1.forget id, p.2) := by
  unfold collect
  rw [lookup_forget_ne h]
  cases man.actionResponses.lookup k with
  | none => rfl
  | some data =>
      cases waiting : data.isWaiting with
      | true => simp [waiting]
      | false =>
          have swap : (man.actionResponses.erase id).erase k =
              (man.actionResponses.erase k).erase id := Finmap.erase_erase ..
          simp [waiting, forget, swap]

/-- Nor does a round of another wait loop see the record. -/
theorem poll_forget {c : SyncCall} (h : c.reqId ≠ id) (now received : UInt64) :
    c.poll (man.forget id) now received = (c.poll man now received).mapMan (·.forget id) := by
  unfold SyncCall.poll
  cases c.goesOn now with
  | false => rfl
  | true =>
      simp only [↓reduceIte]
      rw [collect_forget h]
      cases man.collect c.reqId received <;> rfl

/-! ### Packets -/

theorem subscribeAction_forget (man : PhyDeviceManager) (id : UInt8)
    (data : ActionSubscriptionData) :
    (man.forget id).subscribeAction data = (man.subscribeAction data).mapMan (·.forget id) := by
  unfold subscribeAction
  cases data.device with
  | none => rfl
  | some place =>
      simp only [deref, lookupLog, lookup, forget]
      cases (man.knownDevices.lookup place.phy).bind fun phy => phy.logDevices.lookup place.log <;>
        rfl

theorem handleSubscriptionDone_forget (man : PhyDeviceManager) (id : UInt8) (log : LogicalPacket) :
    (man.forget id).handleSubscriptionDone L log =
      (man.handleSubscriptionDone L log).mapMan (·.forget id) := by
  unfold handleSubscriptionDone
  have same : (man.forget id).subscriptions = man.subscriptions := rfl
  rw [same]
  cases man.subscriptions.lookup (log.subscriptionId L) with
  | none => rfl
  | some data =>
      cases renew : data.isRenew with
      | false => simp [Outcome.andThen, Outcome.mapMan, renew]
      | true => simp [Outcome.andThen, Outcome.mapMan, renew, subscribeAction_forget]

theorem handleSubscriptionCallback_forget (man : PhyDeviceManager) (id : UInt8)
    (log : LogicalPacket) (size : UInt16) :
    (man.forget id).handleSubscriptionCallback L log size =
      (man.handleSubscriptionCallback L log size).mapMan (·.forget id) := by
  unfold handleSubscriptionCallback
  have same : (man.forget id).subscriptions = man.subscriptions := rfl
  rw [same]
  cases man.subscriptions.lookup (log.subscriptionId L) with
  | none => rfl
  | some data =>
      dsimp only
      split
      · rfl
      · cases data.callback <;> rfl

theorem handleExecuteResult_forget {log : LogicalPacket} (h : log.executeResultRequestId L ≠ id) :
    (man.forget id).handleExecuteResult L log =
      (man.handleExecuteResult L log).mapMan (·.forget id) := by
  dsimp only [handleExecuteResult]
  rw [lookup_forget_ne h]
  cases man.actionResponses.lookup (log.executeResultRequestId L) with
  | none => rfl
  | some data =>
      have same := man.forget_setResponse_ne h
        { data with status := log.executeResultStatus L, isWaiting := false }
      cases waiting : data.isWaiting with
      | false => simp [Outcome.mapMan, waiting]
      | true =>
          simp only [waiting, ↓reduceIte]
          exact congrArg (fun m => Outcome.mk m _ _ _) same.symm

theorem handleResponse_forget {log : LogicalPacket} (h : log.responseRequestId L ≠ id)
    (size : UInt16) :
    (man.forget id).handleResponse L log size =
      (man.handleResponse L log size).mapMan (·.forget id) := by
  dsimp only [handleResponse]
  rw [lookup_forget_ne h]
  cases man.actionResponses.lookup (log.responseRequestId L) with
  | none => rfl
  | some data =>
      cases waiting : data.isWaiting with
      | false => simp [Outcome.mapMan, waiting]
      | true =>
          simp only [waiting, ↓reduceIte]
          split
          · exact congrArg (fun m => Outcome.mk m _ _ _) (man.forget_setResponse_ne h _).symm
          · exact congrArg (fun m => Outcome.mk m _ _ _) (man.forget_setResponse_ne h _).symm

variable {srcPhy : FarAddr} {log : LogicalPacket} {size : UInt16}

/-- A packet that is no reply to the request works without the record as with it. -/
theorem bodyOf_forget (h : ∀ reply, log.reply L size ≠ some (id, reply)) :
    (man.forget id).bodyOf L srcPhy log size (log.type L) =
      (man.bodyOf L srcPhy log size (log.type L)).mapMan (·.forget id) := by
  unfold LogicalPacket.reply at h
  unfold bodyOf
  cases type : log.type L with
  | helloWorld | helloWorldResponse => rfl
  | actionExecuteResult =>
      refine handleExecuteResult_forget fun hid => ?_
      rw [type, hid] at h
      exact h _ rfl
  | actionResponse =>
      refine handleResponse_forget (fun hid => ?_) size
      rw [type, hid] at h
      exact h _ rfl
  | subscriptionDone => exact handleSubscriptionDone_forget man id log
  | subscriptionCallback => exact handleSubscriptionCallback_forget man id log size
  | _ => rfl

/-- Without the record a packet does to the rest what it does with it, unless it aborts. -/
theorem handlePacket_forget (id : UInt8)
    (alive : (man.handlePacket L srcPhy log size).fault = none) :
    ((man.forget id).handlePacket L srcPhy log size).man =
        (man.handlePacket L srcPhy log size).man.forget id ∧
      ((man.forget id).handlePacket L srcPhy log size).fault = none := by
  by_cases answers : ∃ reply, log.reply L size = some (id, reply)
  · obtain ⟨reply, answers⟩ := answers
    have without : ((man.forget id).handlePacket L srcPhy log size).man = man.forget id ∧
        ((man.forget id).handlePacket L srcPhy log size).fault = none := by
      have found := lookup_forget man id
      have handled : (man.forget id).HandlesReply id reply
          ((man.forget id).handlePacket L srcPhy log size) := handlePacket_reply answers
      cases handled with
      | unexpected _ man_eq _ fault_eq => exact ⟨man_eq, fault_eq⟩
      | repeated _ found' => rw [found] at found'; cases found'
      | tooLong _ found' => rw [found] at found'; cases found'
      | answered _ found' => rw [found] at found'; cases found'
    refine ⟨without.1.trans ?_, without.2⟩
    have handled : man.HandlesReply id reply (man.handlePacket L srcPhy log size) :=
      handlePacket_reply answers
    cases handled with
    | unexpected _ man_eq => rw [man_eq]
    | repeated _ _ _ _ _ fault_eq => rw [fault_eq] at alive; cases alive
    | tooLong _ _ _ _ _ fault_eq => rw [fault_eq] at alive; cases alive
    | answered _ _ _ man_eq => rw [man_eq, forget_setResponse]
  · have spec := handlePacket_spec L man srcPhy log size
    have spec' := handlePacket_spec L (man.forget id) srcPhy log size
    rw [spec.fault] at alive
    rw [spec'.man, spec'.fault, spec.man, bodyOf_forget (not_exists.mp answers)]
    exact ⟨rfl, alive⟩

/-- Asking for a subscription does not look at the requests. -/
theorem subscribeActionById_forget (man : PhyDeviceManager) (id : UInt8) (args : SubscribeArgs)
    (actionId : UInt16) :
    (man.forget id).subscribeActionById args actionId =
      (man.subscribeActionById args actionId).mapMan (·.forget id) := by
  dsimp only [subscribeActionById]
  have same : (man.forget id).bumpSubscription.lookupLog args.addr args.port =
      man.bumpSubscription.lookupLog args.addr args.port := rfl
  rw [same]
  cases man.bumpSubscription.lookupLog args.addr args.port with
  | none => rfl
  | some dev => exact subscribeAction_forget man.bumpSubscription id _

theorem subscribeActionByName_forget (man : PhyDeviceManager) (id : UInt8) (args : SubscribeArgs)
    (name : CString) :
    (man.forget id).subscribeActionByName E args name =
      (man.subscribeActionByName E args name).mapMan (·.forget id) := by
  unfold subscribeActionByName
  rw [lookupAction_forget]
  cases man.lookupAction E args.addr args.port name with
  | none => rfl
  | some action => exact subscribeActionById_forget man id args (UInt16.ofNat action.1)

end PhyDeviceManager

end KhawasuPc
