import KhawasuPc.Device.Hello
import KhawasuPc.Manager.Announcements

/-!
# Subscriptions

A call of `subscribe_action` with an action draws the next id and, if the device is
known, files a record under it.  `Registry` is the invariant of runs made of such
calls and anything else: the table is exactly the log of the calls that were
successful, and their ids are distinct.  It needs that the counter has not wrapped,
so fewer than 2^32 calls.

From it come where reports go (`run_reportsToSubscriber`), what renewal sends
(`run_renews`) and that the end of a subscription is never told (`run_done_iff`).
-/

namespace KhawasuPc

open Lib

variable {L : PacketLayout} {E : Enumeration Nat DeviceApiAction} {setup : Setup} {s s' : Sys}
  {e : Event} {es : List Event} {man : PhyDeviceManager} {o : Outcome}

/-! ## What was asked for -/

/-- The event is a call of `subscribe_action` with an action. -/
def Event.isSubscribe : Event → Bool
  | .subscribeAction .. => true
  | _ => false

/-- Subscriptions are asked for with an action, and fewer often than there are ids. -/
structure OrdinaryCalls (es : List Event) : Prop where
  byAction : ∀ data, Event.subscribeActionData data ∉ es
  fewer : es.countP Event.isSubscribe < 2 ^ 32

theorem OrdinaryCalls.init (h : OrdinaryCalls (es ++ [e])) : OrdinaryCalls es where
  byAction data hm := h.byAction data (List.mem_append_left _ hm)
  fewer := by
    have := h.fewer
    rw [List.countP_append] at this
    omega

theorem OrdinaryCalls.mem (h : OrdinaryCalls es) (hm : e ∈ es) (data : ActionSubscriptionData) :
    e ≠ .subscribeActionData data := by
  rintro rfl
  exact h.byAction data hm

theorem OrdinaryCalls.last (h : OrdinaryCalls (es ++ [e])) (data : ActionSubscriptionData) :
    e ≠ .subscribeActionData data :=
  h.mem (List.mem_append_right _ (List.mem_singleton_self e)) data

namespace Subscription

variable (r : Subscription)

/-- The record of a subscription. -/
def record : ActionSubscriptionData := r.args.data r.id r.actionId

/-- The `SUBSCRIPTION_START` for it. -/
def start (selfPort : UInt16) : SentPacket where
  dest := ⟨r.args.addr, r.args.port⟩
  srcPort := selfPort
  ovlType := .unreliable
  body := .subscriptionStart r.id r.actionId r.args.duration r.args.period

@[simp] theorem record_id : r.record.id = r.id := rfl
@[simp] theorem record_device : r.record.device = some ⟨r.args.addr, r.args.port⟩ := rfl
@[simp] theorem record_isRenew : r.record.isRenew = r.args.isRenew := rfl
@[simp] theorem record_callback : r.record.callback = r.args.callback := rfl
@[simp] theorem record_doneCallback : r.record.doneCallback = none := rfl

end Subscription

/-- The subscriptions made along a run. -/
def Sys.subscriptionsMade (L : PacketLayout) (E : Enumeration Nat DeviceApiAction) (setup : Setup)
    (es : List Event) : List Subscription :=
  (Sys.machine L E).outputs (Sys.subscribes E) (Sys.start setup) es

/-! ## The registry -/

/-- The table of subscriptions after `calls` calls of which `made` were successful. -/
structure Registry (calls : Nat) (made : List Subscription) (man : PhyDeviceManager) : Prop where
  nodup : (made.map (·.id)).Nodup
  below : ∀ r ∈ made, r.id.toNat < man.subscriptionCounter.toNat
  counter : man.subscriptionCounter.toNat ≤ calls
  table : ∀ id data, man.subscriptions.lookup id = some data ↔
    ∃ r ∈ made, r.id = id ∧ r.record = data
  devices : ∀ r ∈ made, (man.lookupLog r.args.addr r.args.port).isSome

/-- What an event does to the subscriptions. -/
inductive Registers (E : Enumeration Nat DeviceApiAction) (s : Sys) (e : Event) : Outcome → Prop
  | keeps (o : Outcome) (made : s.subscribes E e = [])
      (table : o.man.subscriptions = s.man.subscriptions)
      (counter : o.man.subscriptionCounter = s.man.subscriptionCounter) : Registers E s e o
  /-- An id is drawn for an unknown device. -/
  | counts (call : e.isSubscribe = true) (made : s.subscribes E e = []) :
      Registers E s e ⟨s.man.bumpSubscription, [], [], none⟩
  | makes (r : Subscription) (o : Outcome) (call : e.isSubscribe = true)
      (made : s.subscribes E e = [r]) (id : r.id = s.man.subscriptionCounter)
      (known : (s.man.lookupLog r.args.addr r.args.port).isSome)
      (table : o.man.subscriptions = s.man.subscriptions.emplace r.id r.record)
      (counter : o.man.subscriptionCounter = s.man.subscriptionCounter + 1)
      (effects : o.effects = [.send (r.start s.man.selfPort)]) (fault : o.fault = none) :
      Registers E s e o

/-- Asking for a subscription of a known device sends its `SUBSCRIPTION_START`. -/
theorem subscribeAction_record (man : PhyDeviceManager) (r : Subscription) (keys : man.KeysKept)
    (known : (man.lookupLog r.args.addr r.args.port).isSome) :
    man.subscribeAction r.record =
      ⟨{ man with subscriptions := man.subscriptions.emplace r.id r.record },
        [.send (r.start man.selfPort)], [], none⟩ := by
  obtain ⟨dev, found⟩ := Option.isSome_iff_exists.mp known
  obtain ⟨hphy, hlog⟩ := keys _ _ _ found
  have deref : PhyDeviceManager.deref
      { man with subscriptions := man.subscriptions.emplace r.record.id r.record }
      ⟨r.args.addr, r.args.port⟩ = some dev := found
  simp only [PhyDeviceManager.subscribeAction, Subscription.record_device, deref, hphy, hlog]
  rfl

/-- The same for the call that draws the id. -/
theorem subscribeAction_drawn {args : PhyDeviceManager.SubscribeArgs} {dev : LogDeviceInfo}
    (actionId : UInt16) (keys : man.KeysKept)
    (found : man.lookupLog args.addr args.port = some dev) :
    man.bumpSubscription.subscribeAction (args.data man.subscriptionCounter actionId) =
      ⟨{ man.bumpSubscription with
          subscriptions := man.subscriptions.emplace man.subscriptionCounter
            (args.data man.subscriptionCounter actionId) },
        [.send (Subscription.start ⟨man.subscriptionCounter, args, actionId⟩ man.selfPort)], [],
        none⟩ := by
  refine subscribeAction_record man.bumpSubscription ⟨man.subscriptionCounter, args, actionId⟩
    keys ?_
  rw [show man.bumpSubscription.lookupLog args.addr args.port = some dev from found]
  rfl

theorem Sys.Acts.registers (h : Sys.Acts L E s e o)
    (byAction : ∀ data, e ≠ .subscribeActionData data)
    (kept : s.man.SubscriptionsKept) (keys : s.man.KeysKept) : Registers E s e o := by
  cases h with
  | packet srcPhy log size event =>
      have touches := PhyDeviceManager.touches_of_kept (L := L) kept srcPhy log size
      exact .keeps _ (by rw [event]; rfl) touches.subscriptions touches.subscriptionCounter
  | asks env addr port type packet ops drawn made => exact .keeps _ made rfl rfl
  | counts env addr port packet ops drawn made => exact .keeps _ made rfl rfl
  | misses env addr port r ops drawn made => exact .keeps _ made rfl rfl
  | nothing ops drawn made => exact .keeps _ made rfl rfl
  | collects reqId received man' r ops drawn made eq =>
      obtain ⟨data, -, -, rfl, -⟩ := PhyDeviceManager.collect_eq_some eq
      exact .keeps _ made rfl rfl
  | returns call now received c event => exact .keeps _ (by rw [event]; rfl) rfl rfl
  | countsSubscription args action event made => exact .counts (by rw [event]; rfl) made
  | subscribes args action actionId dev event found made =>
      rw [subscribeAction_drawn actionId keys found]
      exact .makes ⟨s.man.subscriptionCounter, args, actionId⟩ _ (by rw [event]; rfl) made rfl
        (by rw [found]; rfl) rfl rfl rfl rfl
  | readyMade data event => exact absurd event (byAction data)

/-! ## The invariant -/

/-- The calls an event adds. -/
def Event.subscribeCalls (e : Event) : Nat := if e.isSubscribe then 1 else 0

theorem Event.subscribeCalls_of_isSubscribe (call : e.isSubscribe = true) : e.subscribeCalls = 1 :=
  if_pos call

/-- A counter that has not wrapped counts up. -/
theorem toNat_add_one {c : UInt32} {calls : Nat} (h : c.toNat ≤ calls)
    (fewer : calls + 1 < 2 ^ 32) :
    (c + 1).toNat = c.toNat + 1 := by
  rw [UInt32.toNat_add, UInt32.toNat_one]
  exact Nat.mod_eq_of_lt (by omega)

namespace Registry

variable {calls : Nat} {made : List Subscription}

theorem start (setup : Setup) : Registry 0 [] (PhyDeviceManager.make setup) where
  nodup := List.nodup_nil
  below _ h := by cases h
  counter := Nat.le_refl _
  table id data := by simp [PhyDeviceManager.make]
  devices _ h := by cases h

/-- An id that was not drawn is not in the table. -/
theorem fresh (h : Registry calls made man) : ∀ r ∈ made, r.id ≠ man.subscriptionCounter := by
  intro r hr he
  have := h.below r hr
  rw [he] at this
  exact Nat.lt_irrefl _ this

/-- Nothing happens to the subscriptions. -/
theorem keep {man' : PhyDeviceManager} (h : Registry calls made man) (more : Nat)
    (table : man'.subscriptions = man.subscriptions)
    (counter : man.subscriptionCounter.toNat ≤ man'.subscriptionCounter.toNat)
    (counted : man'.subscriptionCounter.toNat ≤ calls + more)
    (known : ∀ addr port, (man.lookupLog addr port).isSome → (man'.lookupLog addr port).isSome) :
    Registry (calls + more) made man' where
  nodup := h.nodup
  below r hr := Nat.lt_of_lt_of_le (h.below r hr) counter
  counter := counted
  table := by rw [table]; exact h.table
  devices r hr := known _ _ (h.devices r hr)

/-- A subscription is made. -/
theorem make {man' : PhyDeviceManager} (h : Registry calls made man) (r : Subscription)
    (id : r.id = man.subscriptionCounter)
    (known : (man.lookupLog r.args.addr r.args.port).isSome)
    (table : man'.subscriptions = man.subscriptions.emplace r.id r.record)
    (counter : man'.subscriptionCounter.toNat = man.subscriptionCounter.toNat + 1)
    (keeps : ∀ addr port, (man.lookupLog addr port).isSome → (man'.lookupLog addr port).isSome) :
    Registry (calls + 1) (made ++ [r]) man' where
  nodup := by
    rw [List.map_append, List.nodup_append]
    refine ⟨h.nodup, List.nodup_singleton _, fun a ha b hb => ?_⟩
    obtain ⟨q, hq, rfl⟩ := List.mem_map.mp ha
    rw [List.map_singleton, List.mem_singleton] at hb
    rw [hb, id]
    exact h.fresh q hq
  below q hq := by
    rw [counter]
    rcases List.mem_append.mp hq with hq | hq
    · exact Nat.lt_succ_of_lt (h.below q hq)
    · rw [List.mem_singleton.mp hq, id]
      exact Nat.lt_succ_self _
  counter := by
    rw [counter]
    exact Nat.succ_le_succ h.counter
  table k data := by
    have hnone : man.subscriptions.lookup r.id = none := by
      rw [← Option.not_isSome_iff_eq_none, Option.isSome_iff_exists]
      rintro ⟨old, hold⟩
      obtain ⟨q, hq, hid, -⟩ := (h.table _ _).mp hold
      exact h.fresh q hq (hid.trans id)
    rw [table]
    by_cases hk : k = r.id
    · subst hk
      rw [UMap.lookup_emplace_self, hnone, Option.getD_none, Option.some.injEq]
      constructor
      · rintro rfl
        exact ⟨r, List.mem_append_right _ (List.mem_singleton_self r), rfl, rfl⟩
      · rintro ⟨q, hq, hid, rfl⟩
        rcases List.mem_append.mp hq with hq | hq
        · exact absurd (hid.trans id) (h.fresh q hq)
        · rw [List.mem_singleton.mp hq]
    · rw [UMap.lookup_emplace_ne hk, h.table]
      constructor
      · rintro ⟨q, hq, hid, hrec⟩
        exact ⟨q, List.mem_append_left _ hq, hid, hrec⟩
      · rintro ⟨q, hq, hid, hrec⟩
        rcases List.mem_append.mp hq with hq | hq
        · exact ⟨q, hq, hid, hrec⟩
        · rw [List.mem_singleton.mp hq] at hid
          exact absurd hid.symm hk
  devices q hq := by
    rcases List.mem_append.mp hq with hq | hq
    · exact keeps _ _ (h.devices q hq)
    · rw [List.mem_singleton.mp hq]
      exact keeps _ _ known

theorem step (h : Registry calls made s.man) (hr : Registers E s e o)
    (fewer : calls + e.subscribeCalls < 2 ^ 32)
    (known : ∀ addr port, (s.man.lookupLog addr port).isSome →
      (o.man.lookupLog addr port).isSome) :
    Registry (calls + e.subscribeCalls) (made ++ s.subscribes E e) o.man := by
  have counted := h.counter
  cases hr with
  | keeps _ none_made table counter =>
      rw [none_made, List.append_nil]
      refine h.keep _ table ?_ ?_ known <;> rw [counter]
      exact Nat.le_add_right_of_le counted
  | counts call none_made =>
      rw [none_made, List.append_nil]
      rw [Event.subscribeCalls_of_isSubscribe call] at fewer ⊢
      have next := toNat_add_one counted fewer
      refine h.keep _ rfl ?_ ?_ known <;>
        rw [show (s.man.bumpSubscription.subscriptionCounter).toNat = _ from next] <;> omega
  | makes r _ call one_made id was_known table counter effects fault =>
      rw [one_made]
      rw [Event.subscribeCalls_of_isSubscribe call] at fewer ⊢
      exact h.make r id was_known table (by rw [counter, toNat_add_one counted fewer]) known

end Registry

namespace Sys

/-- The last step of a run does one of these to the subscriptions. -/
theorem step_registers {t : Sys} (hes : (machine L E).run (start setup) es = some t)
    (hstep : t.step L E e = some s) (byAction : ∀ data, e ≠ .subscribeActionData data) :
    ∃ o, Registers E t e o ∧ LeadsTo t s o := by
  obtain ⟨o, acts, leads⟩ := step_acts hstep
  exact ⟨o, acts.registers byAction (run_subscriptionsKept hes) (run_keysKept hes), leads⟩

/-- In every run the table of subscriptions is the log of the successful calls. -/
theorem run_registry (h : (machine L E).run (start setup) es = some s)
    (ordinary : OrdinaryCalls es) :
    Registry (es.countP Event.isSubscribe) (subscriptionsMade L E setup es) s.man := by
  refine Machine.run_history (M := machine L E)
    (P := fun es s => OrdinaryCalls es →
      Registry (es.countP Event.isSubscribe) (subscriptionsMade L E setup es) s.man)
    (s := start setup) (fun _ => Registry.start setup) ?_ h ordinary
  intro es t e w hes registry hstep ordinary
  obtain ⟨o, registers, leads⟩ := step_registers hes hstep ordinary.last
  have counted : (es ++ [e]).countP Event.isSubscribe =
      es.countP Event.isSubscribe + e.subscribeCalls := by
    rw [List.countP_append, List.countP_singleton]
    rfl
  rw [counted, leads.man_eq, subscriptionsMade, Machine.outputs_snoc hes]
  refine (registry ordinary.init).step registers (counted ▸ ordinary.fewer) fun addr port => ?_
  rw [Option.isSome_iff_exists, Option.isSome_iff_exists, ← leads.man_eq]
  rintro ⟨dev, found⟩
  exact ⟨dev, (step_frame hstep).lookupLog found⟩

end Sys

/-! ## Reports -/

/-- The record says what was asked for. -/
structure Subscription.FiledAs (r : Subscription) (data : ActionSubscriptionData) : Prop where
  device : data.device = some ⟨r.args.addr, r.args.port⟩
  id : data.id = r.id
  actionId : data.actionId = r.actionId
  duration : data.duration = r.args.duration
  period : data.period = r.args.period
  callback : data.callback = r.args.callback
  isRenew : data.isRenew = r.args.isRenew

theorem Subscription.filedAs_record (r : Subscription) : r.FiledAs r.record :=
  ⟨rfl, rfl, rfl, rfl, rfl, rfl, rfl⟩

/-- The ids of the subscriptions made are distinct, and the table has a record for each
and for no other id. -/
structure EachAssignedOnce (made : List Subscription) (man : PhyDeviceManager) : Prop where
  distinct : (made.map (·.id)).Nodup
  filed : ∀ r ∈ made, ∃ data, man.subscriptions.lookup r.id = some data ∧ r.FiledAs data
  assigned : ∀ id data, man.subscriptions.lookup id = some data →
    ∃ r ∈ made, r.id = id ∧ r.FiledAs data

/-- A report with the given id goes to who was assigned the id, and to nobody if
nobody was. -/
structure ReportsToSubscriber (made : List Subscription) (man : PhyDeviceManager) (id : UInt32)
    (effects : List Effect) : Prop where
  subscriber : ∀ r ∈ made, r.id = id → ∃ data payload,
    man.subscriptions.lookup id = some data ∧
      effects = (r.args.callback.map fun callback =>
        Effect.subscription callback data payload).toList
  nobody : (∀ r ∈ made, r.id ≠ id) → effects = []

theorem Registry.eachAssignedOnce {calls : Nat} {made : List Subscription}
    (h : Registry calls made man) : EachAssignedOnce made man where
  distinct := h.nodup
  filed r hr := ⟨r.record, (h.table _ _).mpr ⟨r, hr, rfl, rfl⟩, r.filedAs_record⟩
  assigned id data found := by
    obtain ⟨r, hr, hid, rfl⟩ := (h.table _ _).mp found
    exact ⟨r, hr, hid, r.filedAs_record⟩

namespace PhyDeviceManager

variable {srcPhy : FarAddr} {log : LogicalPacket} {size : UInt16}

/-- What a report does. -/
theorem handlePacket_report (type : log.type L = .subscriptionCallback) :
    (man.handlePacket L srcPhy log size).effects =
      match man.subscriptions.lookup (log.subscriptionId L) with
      | none => []
      | some data =>
          if vectorMaxSize < payloadSize size L.sizeSubscriptionCallback then []
          else (data.callback.map fun callback => Effect.subscription callback data
            (log.subscriptionPayload L
              (payloadSize size L.sizeSubscriptionCallback).toNat)).toList := by
  rw [(handlePacket_spec L man srcPhy log size).effects, type]
  show (man.handleSubscriptionCallback L log size).effects = _
  unfold handleSubscriptionCallback
  cases man.subscriptions.lookup (log.subscriptionId L) with
  | none => rfl
  | some data =>
      dsimp only
      split
      · rfl
      · cases data.callback <;> rfl

end PhyDeviceManager

namespace Sys

/-- With subscriptions that are all on file, a report goes to its subscriber exactly if
the size computed for its payload is not negative. -/
theorem reportsToSubscriber_iff {calls : Nat} {made : List Subscription}
    (registry : Registry calls made man) (srcPhy : FarAddr) {log : LogicalPacket} (size : UInt16)
    (type : log.type L = .subscriptionCallback) :
    ReportsToSubscriber made man (log.subscriptionId L)
        (man.handlePacket L srcPhy log size).effects ↔
      ∀ r ∈ made, r.id = log.subscriptionId L → r.args.callback.isSome →
        ¬ vectorMaxSize < payloadSize size L.sizeSubscriptionCallback := by
  rw [PhyDeviceManager.handlePacket_report type]
  constructor
  · rintro reports r hr hid set wraps
    obtain ⟨data, payload, found, heff⟩ := reports.subscriber r hr hid
    obtain ⟨callback, hcallback⟩ := Option.isSome_iff_exists.mp set
    simp [found, wraps, hcallback] at heff
  · intro fits
    refine ⟨fun r hr hid => ?_, fun hnone => ?_⟩
    · have found := (registry.table _ _).mpr ⟨r, hr, hid, rfl⟩
      refine ⟨r.record,
        log.subscriptionPayload L (payloadSize size L.sizeSubscriptionCallback).toNat, found, ?_⟩
      rw [found]
      cases set : r.args.callback with
      | none => simp [set]
      | some callback =>
          dsimp only
          rw [if_neg (fits r hr hid (by simp [set])), Subscription.record_callback, set]
    · cases found : man.subscriptions.lookup (log.subscriptionId L) with
      | none => rfl
      | some data =>
          obtain ⟨r, hr, hid, -⟩ := (registry.table _ _).mp found
          exact absurd hid (hnone r hr)

/-- In every run each subscription keeps its id and its record, and a report whose id lies
inside the received bytes goes to its subscriber, where `LOG_PACKET_SIZE` counts what is before
the payload and one byte more at most. -/
theorem run_reportsToSubscriber (h : (machine L E).run (start setup) es = some s)
    (ordinary : OrdinaryCalls es) :
    EachAssignedOnce (subscriptionsMade L E setup es) s.man ∧
      ∀ srcPhy log size, log.type L = .subscriptionCallback →
        log.off + L.subscriptionId + 4 ≤ size.toNat →
        L.sizeSubscriptionCallback.toNat ≤ log.off + L.subscriptionId + 4 + 1 →
          ReportsToSubscriber (subscriptionsMade L E setup es) s.man (log.subscriptionId L)
            (s.man.handlePacket L srcPhy log size).effects := by
  have registry := run_registry h ordinary
  refine ⟨registry.eachAssignedOnce, fun srcPhy log size type inside counts => ?_⟩
  refine (reportsToSubscriber_iff registry srcPhy size type).mpr fun _ _ _ _ => ?_
  exact not_vectorMaxSize_lt_payloadSize (by omega)

/-- A subscription of the first action of the lamp. -/
def lampArgs : PhyDeviceManager.SubscribeArgs where
  addr := 1
  port := lampPacket.srcAddr .packed
  duration := 60
  period := 1000
  callback := some ⟨3⟩
  doneCallback := some ⟨4⟩
  isRenew := true

/-- The lamp announces itself and is subscribed to. -/
def lampEvents : List Event := [.packet 1 lampPacket 21, .subscribeAction lampArgs (.id 0)]

/-- The system after that. -/
def lampSubscribed : Sys :=
  let s := (start ⟨5, none, none⟩).after
    ((start ⟨5, none, none⟩).man.handlePacket .packed 1 lampPacket 21)
  s.after (s.man.subscribeActionById lampArgs 0)

theorem lamp_run : (machine .packed (.stored ..)).run (start ⟨5, none, none⟩) lampEvents =
    some lampSubscribed := rfl

theorem lamp_ordinary : OrdinaryCalls lampEvents := ⟨by simp [lampEvents], by decide⟩

/-- A report on the lamp of 11 bytes, its payload the byte 42. -/
def lampReport : LogicalPacket :=
  ⟨.ofList [1, 20, 0, 0, 0, 7, 0, 0, 0, 0, 42], 1⟩

theorem lamp_reported :
    ReportsToSubscriber (subscriptionsMade .packed (.stored ..) ⟨5, none, none⟩ lampEvents)
      lampSubscribed.man 0 (lampSubscribed.man.handlePacket .packed 1 lampReport 11).effects :=
  (run_reportsToSubscriber lamp_run lamp_ordinary).2 1 lampReport 11 rfl (by decide) (by decide)

end Sys

end KhawasuPc
