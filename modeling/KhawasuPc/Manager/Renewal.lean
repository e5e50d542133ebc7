import KhawasuPc.Manager.Subscriptions

/-!
# The end of a subscription

A `SUBSCRIPTION_DONE` ends a subscription.  One made with `is_renew` is asked for
again, from the record in the table: `run_renewsOriginal` says that this sends the
packet the call sent and that the device the record points to is still there.  The
`done_callback` is another matter.  Both overloads take one and neither stores it, so
no subscriber that asked to be told ever is (`run_tellsEnd_iff`).  Nor does the end take
a subscription out of the table: one that is not renewed goes on being reported to
(`finished_neverGone`).
-/

namespace KhawasuPc

open Lib

variable {L : PacketLayout} {E : Enumeration Nat DeviceApiAction} {setup : Setup} {s s' : Sys}
  {e : Event} {es : List Event} {man : PhyDeviceManager} {srcPhy : FarAddr}
  {log : LogicalPacket} {size : UInt16} {o : Outcome}

/-- The `SUBSCRIPTION_START`s among what was done to the outside. -/
def startsOf (effects : List Effect) : List SentPacket :=
  effects.filterMap fun
    | .send packet => if packet.body.type = .subscriptionStart then some packet else none
    | _ => none

/-- The fault is about the device of a subscription. -/
def Fault.aboutDevice : Fault → Bool
  | .assertDevice | .danglingDevice => true
  | _ => false

/-! ## Packets -/

namespace PhyDeviceManager

/-- Only a `SUBSCRIPTION_DONE` makes the manager send. -/
theorem startsOf_eq_nil (type : log.type L ≠ .subscriptionDone) :
    startsOf (man.handlePacket L srcPhy log size).effects = [] := by
  unfold startsOf
  refine List.filterMap_eq_nil_iff.mpr fun eff hm => ?_
  cases handlePacket_effect hm with
  | send device data done => exact absurd done type
  | _ => rfl

theorem HandlesReply.aboutDevice {reqId : UInt8} {reply : Reply}
    (h : HandlesReply man reqId reply o) {f : Fault} (hf : o.fault = some f) :
    f.aboutDevice = false := by
  cases h with
  | unexpected _ _ _ fault_eq => rw [fault_eq] at hf; cases hf
  | repeated _ _ _ _ _ fault_eq => rw [fault_eq] at hf; cases hf; rfl
  | tooLong _ _ _ _ _ fault_eq => rw [fault_eq] at hf; cases hf; rfl
  | answered _ _ _ _ _ fault_eq => rw [fault_eq] at hf; cases hf

/-- The faults of a packet that is no `SUBSCRIPTION_DONE` are not about a device. -/
theorem handlePacket_fault (type : log.type L ≠ .subscriptionDone) {f : Fault}
    (h : (man.handlePacket L srcPhy log size).fault = some f) : f.aboutDevice = false := by
  rw [(handlePacket_spec L man srcPhy log size).fault] at h
  unfold bodyOf at h
  cases kind : log.type L with
  | helloWorld | helloWorldResponse => rw [kind] at h; cases h
  | actionExecuteResult =>
      rw [kind] at h
      exact (handleExecuteResult_reply L man log).aboutDevice h
  | actionResponse =>
      rw [kind] at h
      exact (handleResponse_reply L man log size).aboutDevice h
  | subscriptionDone => exact absurd kind type
  | subscriptionCallback =>
      rw [kind] at h
      dsimp only [handleSubscriptionCallback] at h
      split at h
      · cases h
      · split at h
        · cases h; rfl
        · split at h <;> cases h
          rfl
  | _ => rw [kind] at h; cases h

/-- What the end of a subscription of a known device does. -/
theorem handlePacket_done {r : Subscription} (type : log.type L = .subscriptionDone)
    (found : man.subscriptions.lookup (log.subscriptionId L) = some r.record)
    (keys : man.KeysKept) (known : (man.lookupLog r.args.addr r.args.port).isSome) :
    (man.handlePacket L srcPhy log size).effects =
        (if r.args.isRenew then [.send (r.start man.selfPort)] else []) ∧
      (man.handlePacket L srcPhy log size).fault = none := by
  have spec := handlePacket_spec L man srcPhy log size
  rw [type] at spec
  rw [spec.effects, spec.fault]
  show (man.handleSubscriptionDone L log).effects = _ ∧ (man.handleSubscriptionDone L log).fault = _
  unfold handleSubscriptionDone
  rw [found]
  cases renew : r.args.isRenew with
  | false => simp [Outcome.andThen, renew]
  | true => simp [Outcome.andThen, renew, subscribeAction_record man r keys known]

/-- A `SUBSCRIPTION_DONE` for no subscription does nothing. -/
theorem handlePacket_done_unknown (type : log.type L = .subscriptionDone)
    (found : man.subscriptions.lookup (log.subscriptionId L) = none) :
    (man.handlePacket L srcPhy log size).effects = [] ∧
      (man.handlePacket L srcPhy log size).fault = none := by
  have spec := handlePacket_spec L man srcPhy log size
  rw [type] at spec
  rw [spec.effects, spec.fault]
  show (man.handleSubscriptionDone L log).effects = _ ∧ (man.handleSubscriptionDone L log).fault = _
  unfold handleSubscriptionDone
  rw [found]
  exact ⟨rfl, rfl⟩

end PhyDeviceManager

/-! ## Renewal -/

/-- The subscriptions made are renewed as they were made, and nothing else is. -/
structure RenewsOriginal (L : PacketLayout) (E : Enumeration Nat DeviceApiAction) (setup : Setup)
    (es : List Event) (s : Sys) : Prop where
  /-- A subscription was made by sending its `SUBSCRIPTION_START`, -/
  first : ∀ r ∈ Sys.subscriptionsMade L E setup es, ∃ pre e post t t', es = pre ++ e :: post ∧
    (Sys.machine L E).run (Sys.start setup) pre = some t ∧ t.step L E e = some t' ∧
    t.subscribes E e = [r] ∧ t'.trace = t.trace ++ [.send (r.start setup.selfPort)]
  /-- and a `SUBSCRIPTION_DONE` with its id sends the same if it is to be renewed, -/
  renewed : ∀ r ∈ Sys.subscriptionsMade L E setup es, ∀ srcPhy log size,
    log.type L = .subscriptionDone → log.subscriptionId L = r.id →
      startsOf (s.man.handlePacket L srcPhy log size).effects =
        if r.args.isRenew then [r.start setup.selfPort] else []
  /-- one with another id nothing, -/
  unknown : ∀ srcPhy log size, log.type L = .subscriptionDone →
    (∀ r ∈ Sys.subscriptionsMade L E setup es, log.subscriptionId L ≠ r.id) →
      startsOf (s.man.handlePacket L srcPhy log size).effects = []
  /-- and no other packet anything. -/
  others : ∀ srcPhy log size, log.type L ≠ .subscriptionDone →
    startsOf (s.man.handlePacket L srcPhy log size).effects = []
  /-- No assertion about a device failed. -/
  asserted : ∀ f, s.fault = some f → f.aboutDevice = false
  /-- The device of a subscription is still known under the address it was subscribed
  at. -/
  devices : ∀ r ∈ Sys.subscriptionsMade L E setup es, ∃ data dev,
    s.man.subscriptions.lookup r.id = some data ∧
      data.device = some ⟨r.args.addr, r.args.port⟩ ∧
      s.man.lookupLog r.args.addr r.args.port = some dev ∧
      dev.phy = r.args.addr ∧ dev.log = r.args.port

namespace Sys

theorem run_setup (h : (machine L E).run (start setup) es = some s) : s.man.setup = setup :=
  Machine.run_invariant (M := machine L E) (P := fun s => s.man.setup = setup)
    (fun _ _ _ ht hstep => (step_setup hstep).trans ht) h rfl

/-- A packet does not fault about a device: the subscriptions in the table have one. -/
theorem handlePacket_aboutDevice {calls : Nat} {made : List Subscription}
    (registry : Registry calls made man) (keys : man.KeysKept) {f : Fault}
    (hf : (man.handlePacket L srcPhy log size).fault = some f) : f.aboutDevice = false := by
  by_cases type : log.type L = .subscriptionDone
  · cases found : man.subscriptions.lookup (log.subscriptionId L) with
    | none =>
        rw [(PhyDeviceManager.handlePacket_done_unknown type found).2] at hf
        cases hf
    | some data =>
        obtain ⟨r, hr, -, rfl⟩ := (registry.table _ _).mp found
        rw [(PhyDeviceManager.handlePacket_done type found keys (registry.devices r hr)).2] at hf
        cases hf
  · exact PhyDeviceManager.handlePacket_fault type hf

/-- No event faults about a device. -/
theorem run_aboutDevice (h : (machine L E).run (start setup) es = some s) :
    OrdinaryCalls es → ∀ f, s.fault = some f → f.aboutDevice = false := by
  refine Machine.run_history (M := machine L E)
    (P := fun es s => OrdinaryCalls es → ∀ f, s.fault = some f → f.aboutDevice = false)
    (s := start setup) (fun _ _ hf => by cases hf) ?_ h
  intro es t e w hes _ hstep ordinary f hf
  have keys := run_keysKept hes
  obtain ⟨o, acts, leads⟩ := step_acts hstep
  rw [leads.fault_eq] at hf
  cases acts with
  | packet srcPhy log size event =>
      exact handlePacket_aboutDevice (run_registry hes ordinary.init) keys hf
  | subscribes args action actionId dev event found made =>
      rw [subscribeAction_drawn actionId keys found] at hf
      cases hf
  | readyMade data event => exact absurd event (ordinary.last data)
  | _ => cases hf

/-- In every run, renewal repeats the original subscription and nothing else. -/
theorem run_renewsOriginal (h : (machine L E).run (start setup) es = some s)
    (ordinary : OrdinaryCalls es) : RenewsOriginal L E setup es s := by
  have registry := run_registry h ordinary
  have keys := run_keysKept h
  have port : s.man.selfPort = setup.selfPort := congrArg Setup.selfPort (run_setup h)
  refine ⟨?first, ?renewed, ?unknown, fun _ _ _ => PhyDeviceManager.startsOf_eq_nil,
    run_aboutDevice h ordinary, ?devices⟩
  case first =>
    intro r hr
    obtain ⟨pre, e, post, t, t', rfl, hpre, hstep, -, hout⟩ := Machine.mem_outputs h hr
    obtain ⟨o, registers, leads⟩ := step_registers hpre hstep
      (ordinary.mem (List.mem_append_right _ (List.mem_cons_self ..)))
    cases registers with
    | keeps _ made => rw [made] at hout; cases hout
    | counts call made => rw [made] at hout; cases hout
    | makes r' _ call made id known table counter effects fault =>
        rw [made, List.mem_singleton] at hout
        subst hout
        have sent : t.man.selfPort = setup.selfPort := congrArg Setup.selfPort (run_setup hpre)
        exact ⟨pre, e, post, t, t', rfl, hpre, hstep, made, by rw [leads.trace_eq, effects, sent]⟩
  case renewed =>
    intro r hr srcPhy log size type hid
    have found := (registry.table _ _).mpr ⟨r, hr, rfl, rfl⟩
    rw [← hid] at found
    rw [(PhyDeviceManager.handlePacket_done type found keys (registry.devices r hr)).1, port]
    cases r.args.isRenew <;> rfl
  case unknown =>
    intro srcPhy log size type hnone
    have found : s.man.subscriptions.lookup (log.subscriptionId L) = none := by
      rw [← Option.not_isSome_iff_eq_none, Option.isSome_iff_exists]
      rintro ⟨data, found⟩
      obtain ⟨r, hr, hid, -⟩ := (registry.table _ _).mp found
      exact hnone r hr hid.symm
    rw [(PhyDeviceManager.handlePacket_done_unknown type found).1]
    rfl
  case devices =>
    intro r hr
    obtain ⟨dev, found⟩ := Option.isSome_iff_exists.mp (registry.devices r hr)
    obtain ⟨hphy, hlog⟩ := keys _ _ _ found
    exact ⟨r.record, dev, (registry.table _ _).mpr ⟨r, hr, rfl, rfl⟩, rfl, found, hphy, hlog⟩

/-- The lamp is renewed as it was subscribed to. -/
theorem lamp_renewed :
    RenewsOriginal .packed (.stored ..) ⟨5, none, none⟩ lampEvents lampSubscribed :=
  run_renewsOriginal lamp_run lamp_ordinary

end Sys

/-! ## The `done_callback` -/

/-- The end of the subscription is told to whoever asked for it, once and before
anything else is done, and to nobody else. -/
def TellsEnd (man : PhyDeviceManager) (r : Subscription) (effects : List Effect) : Prop :=
  ∃ data rest, man.subscriptions.lookup r.id = some data ∧
    effects = (r.args.doneCallback.map fun callback =>
      Effect.subscriptionDone callback data).toList ++ rest ∧
    ∀ callback data, Effect.subscriptionDone callback data ∉ rest

/-- Every record with a `done_callback` was passed ready made. -/
def DoneCallbacksPassed (es : List Event) (man : PhyDeviceManager) : Prop :=
  ∀ id data, man.subscriptions.lookup id = some data →
    data.doneCallback = none ∨ Event.subscribeActionData data ∈ es

namespace PhyDeviceManager

/-- The end of a subscription whose record has no `done_callback` is not told. -/
theorem handlePacket_no_done {data : ActionSubscriptionData} (type : log.type L = .subscriptionDone)
    (found : man.subscriptions.lookup (log.subscriptionId L) = some data)
    (unset : data.doneCallback = none) (callback : FnRef) (told : ActionSubscriptionData) :
    Effect.subscriptionDone callback told ∉ (man.handlePacket L srcPhy log size).effects := by
  rw [(handlePacket_spec L man srcPhy log size).effects, type]
  show _ ∉ (man.handleSubscriptionDone L log).effects
  have untold : callDone data = [] := by rw [callDone, unset]
  cases handleSubscriptionDone_done L man log with
  | unexpected found' => rw [found] at found'; cases found'
  | finished data' found' renew man_eq effects_eq =>
      cases found.symm.trans found'
      rw [effects_eq, untold]
      exact List.not_mem_nil
  | renewed data' found' renew again man_eq effects_eq =>
      cases found.symm.trans found'
      rw [effects_eq, untold, List.nil_append]
      cases again <;> simp

theorem Subscribes.doneCallbacksPassed {data : ActionSubscriptionData}
    (h : Subscribes man data o) (hman : DoneCallbacksPassed es man)
    (hdata : data.doneCallback = none ∨ Event.subscribeActionData data ∈ es) :
    DoneCallbacksPassed es o.man := by
  have emplaced : ∀ man' : PhyDeviceManager,
      man'.subscriptions = man.subscriptions.emplace data.id data →
        DoneCallbacksPassed es man' := by
    intro man' heq id d found
    rw [heq] at found
    rcases UMap.lookup_emplace_some found with found | ⟨-, rfl⟩
    · exact hman id d found
    · exact hdata
  cases h with
  | null device => exact hman
  | dangling man' man_eq => exact emplaced man' (by rw [man_eq])
  | sends man' place device man_eq => exact emplaced man' (by rw [man_eq])

end PhyDeviceManager

namespace Sys

/-- In every run, no call with an action puts a `done_callback` in the table. -/
theorem run_doneCallbacksPassed (h : (machine L E).run (start setup) es = some s) :
    DoneCallbacksPassed es s.man := by
  refine Machine.run_history (M := machine L E) (P := fun es s => DoneCallbacksPassed es s.man)
    (s := start setup) (fun _ _ found => by cases found) ?_ h
  intro es t e w hes passed hstep
  have before : DoneCallbacksPassed (es ++ [e]) t.man := fun id data found =>
    (passed id data found).imp_right (List.mem_append_left _)
  obtain ⟨o, acts, leads⟩ := step_acts hstep
  rw [leads.man_eq]
  cases acts with
  | packet srcPhy log size event =>
      have touches := PhyDeviceManager.touches_of_kept (L := L) (run_subscriptionsKept hes)
        srcPhy log size
      exact fun id data found => before id data (touches.subscriptions ▸ found)
  | collects reqId received man' r ops drawn made eq =>
      obtain ⟨data, -, -, rfl, -⟩ := PhyDeviceManager.collect_eq_some eq
      exact before
  | subscribes args action actionId dev event found made =>
      exact (PhyDeviceManager.subscribeAction_subscribes _ _).doneCallbacksPassed before
        (Or.inl rfl)
  | readyMade data event =>
      exact (PhyDeviceManager.subscribeAction_subscribes _ _).doneCallbacksPassed before
        (Or.inr (List.mem_append_right _ (event ▸ List.mem_singleton_self e)))
  | _ => exact before

/-- In every run, the end of a subscription made by a call with an action is told as it
should exactly if the call gave no `done_callback`. -/
theorem run_tellsEnd_iff (h : (machine L E).run (start setup) es = some s) :
    ∀ r ∈ subscriptionsMade L E setup es, ∀ srcPhy log size, log.type L = .subscriptionDone →
      log.subscriptionId L = r.id →
      (∃ data, s.man.subscriptions.lookup r.id = some data ∧
        Event.subscribeActionData data ∉ es) →
      (TellsEnd s.man r (s.man.handlePacket L srcPhy log size).effects ↔
        r.args.doneCallback = none) := by
  rintro r - srcPhy log size type hid ⟨data, found, drawn⟩
  have unset := (run_doneCallbacksPassed h _ _ found).resolve_right drawn
  have quiet : ∀ callback told, Effect.subscriptionDone callback told ∉
      (s.man.handlePacket L srcPhy log size).effects := by
    rw [← hid] at found
    exact PhyDeviceManager.handlePacket_no_done type found unset
  constructor
  · rintro ⟨data', rest, -, heff, -⟩
    cases given : r.args.doneCallback with
    | none => rfl
    | some callback =>
        refine absurd ?_ (quiet callback data')
        rw [heff, given]
        exact List.mem_cons_self ..
  · intro none_given
    refine ⟨data, _, found, ?_, quiet⟩
    rw [none_given]
    rfl

/-- The end of the subscription to the lamp. -/
def lampDone : LogicalPacket := ⟨.ofList [1, 20, 0, 0, 0, 8, 0, 0, 0, 0], 1⟩

/-- The same subscription by someone who does not ask to be told of the end. -/
def quietArgs : PhyDeviceManager.SubscribeArgs := { lampArgs with doneCallback := none }

/-- The lamp announces itself and is subscribed to. -/
def quietEvents : List Event := [.packet 1 lampPacket 21, .subscribeAction quietArgs (.id 0)]

/-- The system after that. -/
def quietSubscribed : Sys :=
  let s := (start ⟨5, none, none⟩).after
    ((start ⟨5, none, none⟩).man.handlePacket .packed 1 lampPacket 21)
  s.after (s.man.subscribeActionById quietArgs 0)

theorem quiet_run : (machine .packed (.stored ..)).run (start ⟨5, none, none⟩) quietEvents =
    some quietSubscribed := rfl

/-- Nobody asked to be told of the end, and nobody is. -/
theorem quiet_tellsEnd :
    TellsEnd quietSubscribed.man ⟨0, quietArgs, 0⟩
      (quietSubscribed.man.handlePacket .packed 1 lampDone 10).effects :=
  (run_tellsEnd_iff quiet_run ⟨0, quietArgs, 0⟩ (by decide) 1 lampDone 10 rfl rfl
    ⟨_, rfl, by simp [quietEvents]⟩).mpr rfl

/-- The subscriber of the lamp asked to be told of the end, and is not. -/
theorem lamp_end_untold :
    (machine .packed (.stored ..)).run (start ⟨5, none, none⟩) lampEvents = some lampSubscribed ∧
      lampArgs.doneCallback = some ⟨4⟩ ∧ lampDone.type .packed = .subscriptionDone ∧
      lampDone.subscriptionId .packed = 0 ∧
      ¬ TellsEnd lampSubscribed.man ⟨0, lampArgs, 0⟩
        (lampSubscribed.man.handlePacket .packed 1 lampDone 10).effects := by
  refine ⟨rfl, rfl, rfl, rfl, ?_⟩
  rintro ⟨data, rest, -, heff, -⟩
  cases heff

end Sys

/-! ## After the end -/

variable {id : UInt32} {data : ActionSubscriptionData}

/-- The packet is about the subscription with this id. -/
def LogicalPacket.about (L : PacketLayout) (log : LogicalPacket) (id : UInt32) : Prop :=
  (log.type L = .subscriptionDone ∨ log.type L = .subscriptionCallback) ∧
    log.subscriptionId L = id

/-- The subscription is over: it is not in the table, and whatever happens, packets
with its id call nobody. -/
structure Gone (L : PacketLayout) (E : Enumeration Nat DeviceApiAction) (s : Sys) (id : UInt32) :
    Prop where
  removed : s.man.subscriptions.lookup id = none
  silent : ∀ es' s', (Sys.machine L E).run s es' = some s' → ∀ srcPhy log size,
    log.about L id → (s'.man.handlePacket L srcPhy log size).effects = []

/-- The subscription goes on: whatever happens, it is in the table, its reports are passed
on where the size of their payload is possible, and its end can come again. -/
structure Lingers (L : PacketLayout) (E : Enumeration Nat DeviceApiAction) (s : Sys)
    (id : UInt32) (data : ActionSubscriptionData) : Prop where
  kept : ∀ es' s', (Sys.machine L E).run s es' = some s' →
    s'.man.subscriptions.lookup id = some data
  reported : ∀ es' s', (Sys.machine L E).run s es' = some s' → ∀ srcPhy log size callback,
    log.type L = .subscriptionCallback → log.subscriptionId L = id →
      data.callback = some callback →
      ¬ vectorMaxSize < payloadSize size L.sizeSubscriptionCallback →
        (s'.man.handlePacket L srcPhy log size).effects = [.subscription callback data
          (log.subscriptionPayload L (payloadSize size L.sizeSubscriptionCallback).toNat)]
  endsAgain : ∀ es' s', (Sys.machine L E).run s es' = some s' → ∀ srcPhy log size,
    log.type L = .subscriptionDone → log.subscriptionId L = id →
      (s'.man.handlePacket L srcPhy log size).effects = PhyDeviceManager.callDone data

/-- A `SUBSCRIPTION_DONE` for a subscription that is not to be renewed tells the end, and
that is all. -/
theorem PhyDeviceManager.handlePacket_finished (type : log.type L = .subscriptionDone)
    (found : man.subscriptions.lookup (log.subscriptionId L) = some data)
    (once : data.isRenew = false) :
    (man.handlePacket L srcPhy log size).man = man ∧
      (man.handlePacket L srcPhy log size).effects = callDone data := by
  have spec := handlePacket_spec L man srcPhy log size
  rw [type] at spec
  rw [spec.man, spec.effects]
  show (man.handleSubscriptionDone L log).man = _ ∧ (man.handleSubscriptionDone L log).effects = _
  cases handleSubscriptionDone_done L man log with
  | unexpected found' => rw [found] at found'; cases found'
  | finished data' found' renew man_eq effects_eq =>
      cases found.symm.trans found'
      exact ⟨man_eq, effects_eq⟩
  | renewed data' found' renew =>
      cases found.symm.trans found'
      rw [once] at renew
      cases renew

namespace Sys

/-- Whatever is in the table and not to be renewed goes on for good. -/
theorem lingers_of_lookup (found : s.man.subscriptions.lookup id = some data)
    (once : data.isRenew = false) : Lingers L E s id data where
  kept es' s' hrun := run_lookupSubscription hrun found
  reported es' s' hrun srcPhy log size callback type hid set fits := by
    have stays := run_lookupSubscription hrun found
    rw [← hid] at stays
    rw [PhyDeviceManager.handlePacket_report type, stays]
    simp [fits, set]
  endsAgain es' s' hrun srcPhy log size type hid := by
    have stays := run_lookupSubscription hrun found
    rw [← hid] at stays
    exact (PhyDeviceManager.handlePacket_finished type stays once).2

/-- However a state is reached, the end of a subscription that is not to be renewed never
makes it go away: it goes on as before. -/
theorem finished_neverGone (found : s.man.subscriptions.lookup id = some data)
    (once : data.isRenew = false) (type : log.type L = .subscriptionDone)
    (hid : log.subscriptionId L = id)
    (hstep : s.step L E (.packet srcPhy log size) = some s') :
    ¬ Gone L E s' id ∧ Lingers L E s' id data := by
  have stays : s'.man.subscriptions.lookup id = some data := by
    obtain ⟨-, h⟩ := next_of_step hstep
    cases h
    rw [← hid] at found ⊢
    rw [after_man, (PhyDeviceManager.handlePacket_finished type found once).1, found]
  refine ⟨fun gone => ?_, lingers_of_lookup stays once⟩
  rw [gone.removed] at stays
  cases stays

/-- The lamp, subscribed to once. -/
def lampOnce : Sys :=
  let s := (start ⟨5, none, none⟩).after
    ((start ⟨5, none, none⟩).man.handlePacket .packed 1 lampPacket 21)
  s.after (s.man.subscribeActionById { lampArgs with isRenew := false } 0)

/-- The lamp after the end of the subscription. -/
def lampFinished : Sys := lampOnce.after (lampOnce.man.handlePacket .packed 1 lampDone 10)

theorem lamp_lingers :
    ¬ Gone .packed (.stored ..) lampFinished 0 ∧
      Lingers .packed (.stored ..) lampFinished 0
        (PhyDeviceManager.SubscribeArgs.data { lampArgs with isRenew := false } 0 0) :=
  have ends : lampOnce.step .packed (.stored ..) (.packet 1 lampDone 10) = some lampFinished := rfl
  finished_neverGone (s := lampOnce) rfl rfl rfl rfl ends

/-- The subscription to the lamp is over, still in the table, and reports are passed on. -/
theorem lamp_not_gone :
    (machine .packed (.stored ..)).run (start ⟨5, none, none⟩)
        [.packet 1 lampPacket 21, .subscribeAction { lampArgs with isRenew := false } (.id 0),
          .packet 1 lampDone 10] = some lampFinished ∧
      (lampFinished.man.subscriptions.lookup 0).isSome ∧
      (lampFinished.man.handlePacket .packed 1 lampReport 11).effects ≠ [] := by
  refine ⟨rfl, rfl, fun h => ?_⟩
  cases h

end Sys

end KhawasuPc
