import KhawasuPc.Manager.Correlation

/-!
# The tables a request leaves alone

Requests come and go, but a subscription stays under its id and a device stays as
its first HELLO described it.  Both follow from `PhyDeviceManager.Frame`, which
says what one event can do to the other two tables of the manager.
-/

namespace KhawasuPc

open Lib

/-- The device a HELLO comes from. -/
def LogicalPacket.announces (L : PacketLayout) (log : LogicalPacket) (srcPhy : FarAddr) :
    Option LogicalAddress :=
  match log.type L with
  | .helloWorld | .helloWorldResponse => some ⟨srcPhy, log.srcAddr L⟩
  | _ => none

/-- The device that announces itself by an event. -/
def Event.announces (L : PacketLayout) : Event → Option LogicalAddress
  | .packet srcPhy log _ => log.announces L srcPhy
  | _ => none

namespace PhyDeviceManager

variable {L : PacketLayout} {man man' : PhyDeviceManager} {srcPhy addr : FarAddr} {port : UInt16}
  {log : LogicalPacket} {size : UInt16} {data : ActionSubscriptionData} {o : Outcome}
  {who : Option LogicalAddress}

/-! ## What a packet does -/

/-- What handling a packet does, by its kind. -/
inductive Handled (L : PacketLayout) (man : PhyDeviceManager) (srcPhy : FarAddr)
    (log : LogicalPacket) (size : UInt16) : Outcome → Prop
  | hello (sender : log.announces L srcPhy = some ⟨srcPhy, log.srcAddr L⟩) :
      Handled L man srcPhy log size (man.handleHello L srcPhy log)
  | reply (o : Outcome) (reqId : UInt8) (reply : Reply) (silent : log.announces L srcPhy = none)
      (answers : log.reply L size = some (reqId, reply))
      (handles : HandlesReply man reqId reply o) :
      Handled L man srcPhy log size o
  | done (o : Outcome) (type : log.type L = .subscriptionDone)
      (silent : log.announces L srcPhy = none)
      (handles : HandlesDone man (log.subscriptionId L) o) :
      Handled L man srcPhy log size o
  | callback (o : Outcome) (type : log.type L = .subscriptionCallback)
      (silent : log.announces L srcPhy = none)
      (handles : HandlesCallback man (log.subscriptionId L)
        (log.subscriptionPayload L (payloadSize size L.sizeSubscriptionCallback).toNat) o) :
      Handled L man srcPhy log size o
  /-- The packet is of no kind a manager knows. -/
  | other (silent : log.announces L srcPhy = none) : Handled L man srcPhy log size (.skip man)

theorem bodyOf_handled (L : PacketLayout) (man : PhyDeviceManager) (srcPhy : FarAddr)
    (log : LogicalPacket) (size : UInt16) :
    Handled L man srcPhy log size (man.bodyOf L srcPhy log size (log.type L)) := by
  unfold bodyOf
  cases type : log.type L with
  | helloWorld | helloWorldResponse => exact .hello (by rw [LogicalPacket.announces, type])
  | actionExecuteResult =>
      exact .reply _ _ _ (by rw [LogicalPacket.announces, type])
        (by rw [LogicalPacket.reply, type]) (handleExecuteResult_reply L man log)
  | actionResponse =>
      exact .reply _ _ _ (by rw [LogicalPacket.announces, type])
        (by rw [LogicalPacket.reply, type]) (handleResponse_reply L man log size)
  | subscriptionDone =>
      exact .done _ type (by rw [LogicalPacket.announces, type])
        (handleSubscriptionDone_done L man log)
  | subscriptionCallback =>
      exact .callback _ type (by rw [LogicalPacket.announces, type])
        (handleSubscriptionCallback_callback L man log size)
  | _ => exact .other (by rw [LogicalPacket.announces, type])

/-- What a function of the manager does to the tables of devices and subscriptions,
where `who` announces itself. -/
inductive Frame (L : PacketLayout) (who : Option LogicalAddress) (man man' : PhyDeviceManager) :
    Prop
  /-- It leaves both alone. -/
  | same (devices : man'.knownDevices = man.knownDevices)
      (subscriptions : man'.subscriptions = man.subscriptions)
  /-- It stores a subscription under the id of the subscription. -/
  | subscribed (data : ActionSubscriptionData) (devices : man'.knownDevices = man.knownDevices)
      (subscriptions : man'.subscriptions = man.subscriptions.emplace data.id data)
  /-- It takes a HELLO in. -/
  | hello (srcPhy : FarAddr) (log : LogicalPacket) (sender : who = some ⟨srcPhy, log.srcAddr L⟩)
      (devices : man'.knownDevices = (man.handleHello L srcPhy log).man.knownDevices)
      (subscriptions : man'.subscriptions = man.subscriptions)

theorem Frame.refl : Frame L who man man := .same rfl rfl

theorem Frame.of_bumpSubscription (h : Frame L who man.bumpSubscription man') :
    Frame L who man man' := by
  cases h with
  | same devices subscriptions => exact .same devices subscriptions
  | subscribed data devices subscriptions => exact .subscribed data devices subscriptions
  | hello srcPhy log sender devices subscriptions =>
      exact .hello srcPhy log sender devices subscriptions

/-! ## Packets -/

theorem Subscribes.frame (h : Subscribes man data o) : Frame L who man o.man := by
  cases h with
  | null device => exact .refl
  | dangling man' man_eq => exact .subscribed data (by rw [man_eq]) (by rw [man_eq])
  | sends man' place device man_eq place_eq found =>
      exact .subscribed data (by rw [man_eq]) (by rw [man_eq])

theorem HandlesReply.frame {reqId : UInt8} {reply : Reply} (h : HandlesReply man reqId reply o) :
    Frame L who man o.man := by
  cases h with
  | unexpected _ man_eq => rw [man_eq]; exact .refl
  | repeated _ _ _ man_eq => rw [man_eq]; exact .refl
  | tooLong _ _ _ man_eq => rw [man_eq]; exact .same rfl rfl
  | answered _ _ _ man_eq => rw [man_eq]; exact .same rfl rfl

theorem HandlesDone.frame {id : UInt32} (h : HandlesDone man id o) : Frame L who man o.man := by
  cases h with
  | unexpected _ man_eq => rw [man_eq]; exact .refl
  | finished _ _ _ man_eq => rw [man_eq]; exact .refl
  | renewed data found renew again man_eq => rw [man_eq]; exact again.frame

/-- The body that runs for a HELLO. -/
theorem bodyOf_announces {place : LogicalAddress} (h : log.announces L srcPhy = some place) :
    man.bodyOf L srcPhy log size (log.type L) = man.handleHello L srcPhy log := by
  unfold LogicalPacket.announces at h
  unfold bodyOf
  cases type : log.type L with
  | helloWorld | helloWorldResponse => rfl
  | _ => rw [type] at h; cases h

theorem Handled.frame (h : Handled L man srcPhy log size o) :
    Frame L (log.announces L srcPhy) man o.man := by
  cases h with
  | hello sender => exact .hello srcPhy log sender rfl rfl
  | reply _ reqId reply silent answers handles => exact handles.frame
  | done _ type silent handles => exact handles.frame
  | callback _ type silent handles => rw [handles.actionResponses.1]; exact .refl
  | other silent => exact .refl

theorem handlePacket_frame :
    Frame L (log.announces L srcPhy) man (man.handlePacket L srcPhy log size).man := by
  rw [(handlePacket_spec L man srcPhy log size).man]
  exact (bodyOf_handled L man srcPhy log size).frame

theorem collect_frame {reqId : UInt8} {received : UInt64} {r : ActionResponse}
    (h : man.collect reqId received = some (man', r)) : Frame L who man man' := by
  obtain ⟨data, -, -, rfl, -⟩ := collect_eq_some h
  exact .same rfl rfl

end PhyDeviceManager

namespace Sys

open PhyDeviceManager

/-- What an event does to the tables of devices and subscriptions. -/
theorem step_frame {L : PacketLayout} {E : Enumeration Nat DeviceApiAction} {s s' : Sys}
    {e : Event} (h : s.step L E e = some s') : Frame L (e.announces L) s.man s'.man := by
  have hd := step_does h
  generalize s'.man = man' at hd
  cases hd with
  | packet srcPhy log size event => subst event; exact handlePacket_frame
  | asks env addr port type ops => exact .same rfl rfl
  | counts ops => exact .same rfl rfl
  | nothing ops => exact .refl
  | collects reqId received man' r ops eq => exact collect_frame eq
  | countsSubscription ops => exact .same rfl rfl
  | subscribes man data ops drawn =>
      have hs : Frame L (e.announces L) man (man.subscribeAction data).man :=
        (subscribeAction_subscribes man data).frame
      rcases drawn with rfl | rfl
      · exact hs
      · exact hs.of_bumpSubscription

end Sys

/-! ## What a manager was made with -/

namespace PhyDeviceManager

variable {L : PacketLayout} {man man' : PhyDeviceManager} {srcPhy : FarAddr}
  {log : LogicalPacket} {size : UInt16} {data : ActionSubscriptionData} {o : Outcome}

/-- What a new manager would be made with to be like this one. -/
def setup (man : PhyDeviceManager) : Setup :=
  ⟨man.selfPort, man.newDeviceCallback, man.actionCallback⟩

/-- What storing a subscription leaves alone, asking for one does. -/
theorem Subscribes.keeps {α : Type*} (f : PhyDeviceManager → α) (h : Subscribes man data o)
    (stored : f { man with subscriptions := man.subscriptions.emplace data.id data } = f man) :
    f o.man = f man := by
  cases h with
  | null device => rfl
  | dangling _ man_eq => rw [man_eq, stored]
  | sends _ place device man_eq => rw [man_eq, stored]

/-- What taking a HELLO in, answering a request and storing a subscription leave alone, every
packet does. -/
theorem Handled.keeps {α : Type*} (f : PhyDeviceManager → α) (h : Handled L man srcPhy log size o)
    (hello : f (man.handleHello L srcPhy log).man = f man)
    (answered : ∀ reqId response, f (man.setResponse reqId response) = f man)
    (stored : ∀ data : ActionSubscriptionData,
      f { man with subscriptions := man.subscriptions.emplace data.id data } = f man) :
    f o.man = f man := by
  cases h with
  | hello sender => exact hello
  | reply _ reqId reply silent answers handles =>
      cases handles with
      | unexpected _ man_eq => rw [man_eq]
      | repeated _ _ _ man_eq => rw [man_eq]
      | tooLong _ _ _ man_eq => rw [man_eq, answered]
      | answered _ _ _ man_eq => rw [man_eq, answered]
  | done _ type silent handles =>
      cases handles with
      | unexpected _ man_eq => rw [man_eq]
      | finished _ _ _ man_eq => rw [man_eq]
      | renewed data found renew again man_eq => rw [man_eq, again.keeps f (stored data)]
  | callback _ type silent handles => rw [handles.actionResponses.1]
  | other silent => rfl

theorem Subscribes.setup (h : Subscribes man data o) : o.man.setup = man.setup :=
  h.keeps PhyDeviceManager.setup rfl

theorem Handled.setup (h : Handled L man srcPhy log size o) : o.man.setup = man.setup :=
  h.keeps PhyDeviceManager.setup rfl (fun _ _ => rfl) fun _ => rfl

end PhyDeviceManager

namespace Sys

open PhyDeviceManager

variable {L : PacketLayout} {E : Enumeration Nat DeviceApiAction} {s s' : Sys} {e : Event}

/-- No event changes what the manager was made with. -/
theorem step_setup (h : s.step L E e = some s') : s'.man.setup = s.man.setup := by
  have hd := step_does h
  generalize s'.man = man' at hd
  cases hd with
  | packet srcPhy log size event =>
      rw [(handlePacket_spec L s.man srcPhy log size).man]
      exact (bodyOf_handled L s.man srcPhy log size).setup
  | asks env addr port type ops => rfl
  | counts ops => rfl
  | nothing ops => rfl
  | collects reqId received man' r ops eq =>
      obtain ⟨data, -, -, rfl, -⟩ := collect_eq_some eq
      rfl
  | countsSubscription ops => rfl
  | subscribes man data ops drawn =>
      rw [(subscribeAction_subscribes man data).setup]
      rcases drawn with rfl | rfl <;> rfl

end Sys

/-! ## Subscriptions stay under their ids -/

/-- A subscription is stored under its own id. -/
def PhyDeviceManager.SubscriptionsKept (man : PhyDeviceManager) : Prop :=
  ∀ id data, man.subscriptions.lookup id = some data → data.id = id

namespace PhyDeviceManager

variable {L : PacketLayout} {man man' : PhyDeviceManager} {who : Option LogicalAddress}

theorem SubscriptionsKept.emplace {data : ActionSubscriptionData} (h : man.SubscriptionsKept)
    (heq : man'.subscriptions = man.subscriptions.emplace data.id data) :
    man'.SubscriptionsKept := by
  intro id d hd
  rw [heq] at hd
  rcases UMap.lookup_emplace_some hd with hd | ⟨rfl, rfl⟩
  · exact h id d hd
  · rfl

theorem SubscriptionsKept.frame (h : man.SubscriptionsKept) (hf : Frame L who man man') :
    man'.SubscriptionsKept := by
  cases hf with
  | same devices subscriptions => exact fun id data hd => h id data (subscriptions ▸ hd)
  | subscribed data devices subscriptions => exact h.emplace subscriptions
  | hello srcPhy log sender devices subscriptions =>
      exact fun id data hd => h id data (subscriptions ▸ hd)

/-- A subscription in the table stays as it is. -/
theorem Frame.lookupSubscription {id : UInt32} {data : ActionSubscriptionData}
    (hf : Frame L who man man') (h : man.subscriptions.lookup id = some data) :
    man'.subscriptions.lookup id = some data := by
  cases hf with
  | same devices subscriptions => rw [subscriptions, h]
  | subscribed other devices subscriptions =>
      rw [subscriptions]
      exact UMap.lookup_emplace_of_lookup h
  | hello srcPhy log sender devices subscriptions => rw [subscriptions, h]

end PhyDeviceManager

namespace Sys

variable {L : PacketLayout} {E : Enumeration Nat DeviceApiAction} {setup : Setup} {s s' : Sys}
  {es : List Event}

/-- In every run each subscription is stored under its own id. -/
theorem run_subscriptionsKept (h : (machine L E).run (start setup) es = some s) :
    s.man.SubscriptionsKept :=
  Machine.run_invariant (M := machine L E) (P := fun s => s.man.SubscriptionsKept)
    (fun _ _ _ ht hstep => ht.frame (step_frame hstep)) h
    (fun _ _ hd => by cases hd)

/-- Over a run a subscription in the table stays as it is. -/
theorem run_lookupSubscription {id : UInt32} {data : ActionSubscriptionData}
    (h : (machine L E).run s es = some s') (hs : s.man.subscriptions.lookup id = some data) :
    s'.man.subscriptions.lookup id = some data :=
  Machine.run_invariant (M := machine L E)
    (P := fun s => s.man.subscriptions.lookup id = some data)
    (fun _ _ _ ht hstep => (step_frame hstep).lookupSubscription ht) h hs

end Sys

/-! ## Devices stay as they were described -/

namespace PhyDeviceManager

variable {L : PacketLayout} {man man' : PhyDeviceManager} {srcPhy addr : FarAddr} {port : UInt16}
  {log : LogicalPacket} {dev : LogDeviceInfo} {who : Option LogicalAddress}

/-- A HELLO describes its sender, unless the sender is known. -/
theorem handleHello_lookupLog_self :
    (man.handleHello L srcPhy log).man.lookupLog srcPhy (log.srcAddr L) =
      some ((man.lookupLog srcPhy (log.srcAddr L)).getD (.ofPacket L srcPhy log)) := by
  unfold lookupLog lookup
  dsimp only [handleHello]
  rw [Finmap.lookup_insert, UMap.lookup_emplace_self]
  cases man.knownDevices.lookup srcPhy with
  | none => simp [UMap.lookup_emplace_self]
  | some phy => simp [UMap.lookup_emplace_self]

/-- A HELLO describes nobody else. -/
theorem handleHello_lookupLog_ne (h : (⟨srcPhy, log.srcAddr L⟩ : LogicalAddress) ≠ ⟨addr, port⟩) :
    (man.handleHello L srcPhy log).man.lookupLog addr port = man.lookupLog addr port := by
  unfold lookupLog lookup
  dsimp only [handleHello]
  by_cases haddr : addr = srcPhy
  · subst haddr
    have hport : port ≠ log.srcAddr L := by
      rintro rfl
      exact h rfl
    rw [Finmap.lookup_insert, UMap.lookup_emplace_self]
    cases man.knownDevices.lookup addr <;> simp [UMap.lookup_emplace_ne hport]
  · rw [Finmap.lookup_insert_of_ne _ haddr, UMap.lookup_emplace_ne haddr]

theorem lookupLog_congr (h : man'.knownDevices = man.knownDevices) :
    man'.lookupLog addr port = man.lookupLog addr port := by
  unfold lookupLog lookup
  rw [h]

/-- A device that does not announce itself is known as before. -/
theorem Frame.lookupLog_ne (hf : Frame L who man man') (h : who ≠ some ⟨addr, port⟩) :
    man'.lookupLog addr port = man.lookupLog addr port := by
  cases hf with
  | same devices subscriptions => exact lookupLog_congr devices
  | subscribed data devices subscriptions => exact lookupLog_congr devices
  | hello srcPhy log sender devices subscriptions =>
      rw [lookupLog_congr devices]
      exact handleHello_lookupLog_ne fun he => h (sender.trans (congrArg some he))

/-- A known device stays as it is. -/
theorem Frame.lookupLog (hf : Frame L who man man') (h : man.lookupLog addr port = some dev) :
    man'.lookupLog addr port = some dev := by
  by_cases hwho : who = some ⟨addr, port⟩
  · cases hf with
    | same devices subscriptions => rw [lookupLog_congr devices, h]
    | subscribed data devices subscriptions => rw [lookupLog_congr devices, h]
    | hello srcPhy log sender devices subscriptions =>
        cases sender.symm.trans hwho
        rw [lookupLog_congr devices, handleHello_lookupLog_self, h, Option.getD_some]
  · rw [hf.lookupLog_ne hwho, h]

end PhyDeviceManager

namespace Sys

variable {L : PacketLayout} {E : Enumeration Nat DeviceApiAction} {setup : Setup} {s s' : Sys}
  {es : List Event} {addr : FarAddr} {port : UInt16} {dev : LogDeviceInfo}

/-- Over a run a known device stays as it is. -/
theorem run_lookupLog (h : (machine L E).run s es = some s')
    (hs : s.man.lookupLog addr port = some dev) : s'.man.lookupLog addr port = some dev :=
  Machine.run_invariant (M := machine L E) (P := fun s => s.man.lookupLog addr port = some dev)
    (fun _ _ _ ht hstep => (step_frame hstep).lookupLog ht) h hs

/-- A device that never announced itself is not known. -/
theorem run_unannounced (h : (machine L E).run (start setup) es = some s)
    (hes : ∀ e ∈ es, e.announces L ≠ some ⟨addr, port⟩) : s.man.lookupLog addr port = none :=
  Machine.run_meets (M := machine L E) (P := fun s => s.man.lookupLog addr port = none)
    (C := fun _ e => e.announces L ≠ some ⟨addr, port⟩)
    (fun _ _ _ he ht hstep => ((step_frame hstep).lookupLog_ne he).trans ht)
    h (Machine.meets_of_forall (fun e he _ => hes e he) _) rfl

end Sys

end KhawasuPc
