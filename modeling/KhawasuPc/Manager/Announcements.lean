import KhawasuPc.Device.Hello
import KhawasuPc.Manager.Scope

/-!
# The devices that announced themselves

The device table is filled by HELLO packets alone and never emptied.  So after any
run it is a function of the packets received: it has the sender of every HELLO, as
its first one described it (`firstDescription`).  Where a `new_device_callback` is set
its calls tell the same story.
-/

namespace KhawasuPc

open Lib

variable {L : PacketLayout} {E : Enumeration Nat DeviceApiAction} {setup : Setup} {s s' : Sys}
  {e : Event} {es : List Event} {addr srcPhy : FarAddr} {port : UInt16} {log : LogicalPacket}
  {size : UInt16}

/-! ## The first announcement -/

/-- How an event describes a device. -/
def Event.describes (L : PacketLayout) (addr : FarAddr) (port : UInt16) :
    Event → Option LogDeviceInfo
  | .packet srcPhy log _ =>
      if log.announces L srcPhy = some ⟨addr, port⟩ then some (.ofPacket L srcPhy log) else none
  | _ => none

/-- How the first HELLO of a device describes it. -/
def firstDescription (L : PacketLayout) (addr : FarAddr) (port : UInt16) (es : List Event) :
    Option LogDeviceInfo :=
  es.findSome? (Event.describes L addr port)

/-- The effect reports the device as new. -/
def Effect.reportsNew (addr : FarAddr) (port : UInt16) : Effect → Bool
  | .newDevice _ info => info.phy = addr && info.log = port
  | _ => false

/-- The calls of `new_device_callback` for a device. -/
def newDeviceCalls (addr : FarAddr) (port : UInt16) (effects : List Effect) : List Effect :=
  effects.filter (Effect.reportsNew addr port)

/-- The table, the lookups and the notifications about a device after the events
`es`. -/
structure MirrorsAnnouncements (L : PacketLayout) (E : Enumeration Nat DeviceApiAction)
    (setup : Setup) (es : List Event) (s : Sys) (addr : FarAddr) (port : UInt16) : Prop where
  /-- The device is known exactly if it announced itself, -/
  known_iff : (s.man.lookupLog addr port).isSome ↔
    ∃ e ∈ es, e.announces L = some ⟨addr, port⟩
  /-- as its first HELLO described it, -/
  stored : s.man.lookupLog addr port = firstDescription L addr port es
  /-- under its own address and port, -/
  keys : ∀ info, s.man.lookupLog addr port = some info → info.phy = addr ∧ info.log = port
  /-- and for good. -/
  kept : ∀ es' s' info, (Sys.machine L E).run s es' = some s' →
    s.man.lookupLog addr port = some info → s'.man.lookupLog addr port = some info
  /-- It was reported once, as it is stored, and not at all if it is not known. -/
  notified : ∀ callback, setup.newDeviceCallback = some callback →
    newDeviceCalls addr port s.trace =
      ((s.man.lookupLog addr port).map (Effect.newDevice callback)).toList

/-! ## Descriptions -/

theorem announces_eq_some {who : LogicalAddress} (h : log.announces L srcPhy = some who) :
    who = ⟨srcPhy, log.srcAddr L⟩ := by
  unfold LogicalPacket.announces at h
  split at h <;> cases h <;> rfl

theorem describes_packet : (Event.packet srcPhy log size).describes L addr port =
    if log.announces L srcPhy = some ⟨addr, port⟩ then some (.ofPacket L srcPhy log) else none :=
  rfl

/-- An event describes a device exactly if the device announces itself by it. -/
theorem describes_isSome :
    (e.describes L addr port).isSome ↔ e.announces L = some ⟨addr, port⟩ := by
  cases e with
  | packet srcPhy log size =>
      show _ ↔ log.announces L srcPhy = some ⟨addr, port⟩
      rw [describes_packet]
      split <;> simp [*]
  | _ => simp [Event.describes, Event.announces]

/-- A device is described by its own HELLO. -/
theorem describes_eq_some {info : LogDeviceInfo} (h : e.describes L addr port = some info) :
    ∃ log size, e = .packet addr log size ∧ log.announces L addr = some ⟨addr, port⟩ ∧
      port = log.srcAddr L ∧ info = .ofPacket L addr log := by
  cases e with
  | packet srcPhy log size =>
      rw [describes_packet] at h
      split at h
      next hello =>
        cases h
        cases announces_eq_some hello
        exact ⟨log, size, rfl, hello, rfl, rfl⟩
      · cases h
  | _ => cases h

theorem firstDescription_snoc :
    firstDescription L addr port (es ++ [e]) =
      (firstDescription L addr port es).or (e.describes L addr port) := by
  unfold firstDescription
  rw [List.findSome?_append, List.findSome?_singleton]

/-! ## One event -/

/-- A device is stored under its own address and port. -/
def PhyDeviceManager.KeysKept (man : PhyDeviceManager) : Prop :=
  ∀ addr port info, man.lookupLog addr port = some info → info.phy = addr ∧ info.log = port

namespace PhyDeviceManager

variable {man : PhyDeviceManager} {o : Outcome} {callback : FnRef} {info : LogDeviceInfo}

/-- The test for a new device, made on the table with the sender's address in it. -/
theorem isNewDevice_iff :
    log.srcAddr L ∉ (((man.knownDevices.emplace srcPhy ⟨∅⟩).lookup srcPhy).getD ⟨∅⟩).logDevices ↔
      man.lookupLog srcPhy (log.srcAddr L) = none := by
  unfold lookupLog lookup
  rw [UMap.lookup_emplace_self, Option.getD_some, ← Finmap.lookup_eq_none]
  cases man.knownDevices.lookup srcPhy <;> simp

/-- A HELLO reports its sender if the sender is not known. -/
theorem handleHello_effects :
    (man.handleHello L srcPhy log).effects =
      match man.lookupLog srcPhy (log.srcAddr L) with
      | some _ => []
      | none => (man.newDeviceCallback.map fun callback =>
          Effect.newDevice callback (.ofPacket L srcPhy log)).toList := by
  dsimp only [handleHello]
  simp only [isNewDevice_iff]
  cases man.lookupLog srcPhy (log.srcAddr L) with
  | some dev => rfl
  | none => cases man.newDeviceCallback <;> rfl

theorem Subscribes.no_newDevice {data : ActionSubscriptionData} (h : Subscribes man data o) :
    Effect.newDevice callback info ∉ o.effects := by
  cases h <;> simp

theorem callAction_no_newDevice {r : Option ActionResponse} :
    Effect.newDevice callback info ∉ man.callAction r := by
  unfold callAction
  split <;> simp

/-- Only a HELLO reports a device, its sender. -/
theorem Handled.newDevice (h : Handled L man srcPhy log size o)
    (hm : Effect.newDevice callback info ∈ o.effects) :
    log.announces L srcPhy = some ⟨srcPhy, log.srcAddr L⟩ ∧ info = .ofPacket L srcPhy log := by
  cases h with
  | hello sender =>
      refine ⟨sender, ?_⟩
      rw [handleHello_effects] at hm
      cases found : man.lookupLog srcPhy (log.srcAddr L) with
      | some dev => rw [found] at hm; cases hm
      | none =>
          rw [found] at hm
          cases set : man.newDeviceCallback with
          | none => rw [set] at hm; cases hm
          | some callback =>
              rw [set, Option.map_some, Option.toList_some, List.mem_singleton] at hm
              cases hm
              rfl
  | reply _ reqId reply silent answers handles =>
      cases handles with
      | unexpected _ _ effects_eq => rw [effects_eq] at hm; cases hm
      | repeated _ _ _ _ effects_eq => rw [effects_eq] at hm; cases hm
      | tooLong _ _ _ _ effects_eq => rw [effects_eq] at hm; cases hm
      | answered _ _ _ _ effects_eq =>
          rw [effects_eq] at hm
          exact absurd hm callAction_no_newDevice
  | done _ type silent handles =>
      have quiet : ∀ data, Effect.newDevice callback info ∉ callDone data := by
        intro data
        unfold callDone
        split <;> simp
      cases handles with
      | unexpected _ _ effects_eq => rw [effects_eq] at hm; cases hm
      | finished data _ _ _ effects_eq =>
          rw [effects_eq] at hm
          exact absurd hm (quiet data)
      | renewed data _ _ again _ effects_eq =>
          rw [effects_eq] at hm
          rcases List.mem_append.mp hm with hm | hm
          · exact absurd hm (quiet data)
          · exact absurd hm again.no_newDevice
  | callback _ type silent handles =>
      cases handles with
      | unexpected _ _ effects_eq => rw [effects_eq] at hm; cases hm
      | faults _ _ effects_eq => rw [effects_eq] at hm; cases hm
      | reported _ _ _ _ _ effects_eq => rw [effects_eq] at hm; simp at hm
  | other silent => cases hm

end PhyDeviceManager

namespace Sys

open PhyDeviceManager

/-- Where a device is reported, the event describes it so. -/
theorem Acts.newDevice {o : Outcome} {callback : FnRef} {info : LogDeviceInfo}
    (h : Acts L E s e o) (hm : Effect.newDevice callback info ∈ o.effects) :
    e.describes L info.phy info.log = some info := by
  cases h with
  | packet srcPhy log size event =>
      rw [(handlePacket_spec L s.man srcPhy log size).effects] at hm
      obtain ⟨sender, rfl⟩ := (bodyOf_handled L s.man srcPhy log size).newDevice hm
      rw [event, describes_packet]
      exact if_pos sender
  | asks env addr port type packet => simp at hm
  | counts env addr port packet => simp at hm
  | misses env addr port r => exact absurd hm callAction_no_newDevice
  | nothing => cases hm
  | collects => cases hm
  | returns call now received c => exact absurd hm callAction_no_newDevice
  | countsSubscription => cases hm
  | subscribes args action actionId dev =>
      exact absurd hm (subscribeAction_subscribes _ _).no_newDevice
  | readyMade data => exact absurd hm (subscribeAction_subscribes _ _).no_newDevice

theorem newDeviceCalls_append (as bs : List Effect) :
    newDeviceCalls addr port (as ++ bs) =
      newDeviceCalls addr port as ++ newDeviceCalls addr port bs :=
  List.filter_append ..

/-- An event that does not describe a device does not report it. -/
theorem Acts.newDeviceCalls_eq_nil {o : Outcome} (h : Acts L E s e o)
    (described : e.describes L addr port = none) : newDeviceCalls addr port o.effects = [] := by
  refine List.filter_eq_nil_iff.mpr fun eff hm => ?_
  cases eff with
  | newDevice callback info =>
      intro hkeys
      obtain ⟨rfl, rfl⟩ : info.phy = addr ∧ info.log = port := by
        simpa [Effect.reportsNew] using hkeys
      rw [h.newDevice hm] at described
      cases described
  | _ => simp [Effect.reportsNew]

/-- What is reported of a device over an event: it is, if it was not known and the
event describes it. -/
theorem step_newDeviceCalls (h : s.step L E e = some s') :
    newDeviceCalls addr port s'.trace = newDeviceCalls addr port s.trace ++
      match s.man.lookupLog addr port with
      | some _ => []
      | none => (s.man.newDeviceCallback.bind fun callback =>
          (e.describes L addr port).map (Effect.newDevice callback)).toList := by
  obtain ⟨o, acts, leads⟩ := step_acts h
  rw [leads.trace_eq, newDeviceCalls_append]
  congr 1
  cases described : e.describes L addr port with
  | none =>
      rw [acts.newDeviceCalls_eq_nil described]
      cases s.man.lookupLog addr port <;> cases s.man.newDeviceCallback <;> rfl
  | some info =>
      obtain ⟨log, size, rfl, hello, rfl, rfl⟩ := describes_eq_some described
      have effects_eq : o.effects = (s.man.handleHello L addr log).effects := by
        cases (next_of_step h).2
        have same := List.append_cancel_left leads.trace_eq
        rw [← same, (handlePacket_spec L s.man addr log size).effects, bodyOf_announces hello]
      rw [effects_eq, handleHello_effects]
      cases s.man.lookupLog addr (log.srcAddr L) with
      | some dev => rfl
      | none =>
          cases s.man.newDeviceCallback with
          | none => rfl
          | some callback => simp [newDeviceCalls, Effect.reportsNew, LogDeviceInfo.ofPacket]

/-- The table after an event. -/
theorem step_stored (h : s.step L E e = some s') :
    s'.man.lookupLog addr port = (s.man.lookupLog addr port).or (e.describes L addr port) := by
  cases described : e.describes L addr port with
  | none =>
      have hello : e.announces L ≠ some ⟨addr, port⟩ := by
        rw [ne_eq, ← describes_isSome, described]
        simp
      rw [(step_frame h).lookupLog_ne hello, Option.or_none]
  | some info =>
      obtain ⟨log, size, rfl, hello, rfl, rfl⟩ := describes_eq_some described
      cases (next_of_step h).2
      rw [after_man, (handlePacket_spec L s.man addr log size).man, bodyOf_announces hello,
        handleHello_lookupLog_self]
      cases s.man.lookupLog addr (log.srcAddr L) <;> rfl

/-! ## Whole runs -/

/-- What an event keeps about a device: the table has the first description, and the
callback was called for what the table has. -/
structure Told (L : PacketLayout) (setup : Setup) (addr : FarAddr) (port : UInt16)
    (es : List Event) (s : Sys) : Prop where
  stored : s.man.lookupLog addr port = firstDescription L addr port es
  made : s.man.newDeviceCallback = setup.newDeviceCallback
  notified : newDeviceCalls addr port s.trace = (setup.newDeviceCallback.bind fun callback =>
    (s.man.lookupLog addr port).map (Effect.newDevice callback)).toList

theorem told_start : Told L setup addr port [] (start setup) where
  stored := rfl
  made := rfl
  notified := by cases setup.newDeviceCallback <;> rfl

theorem Told.step (h : Told L setup addr port es s) (hstep : s.step L E e = some s') :
    Told L setup addr port (es ++ [e]) s' where
  stored := by rw [step_stored hstep, h.stored, firstDescription_snoc]
  made := (congrArg Setup.newDeviceCallback (step_setup hstep)).trans h.made
  notified := by
    rw [step_newDeviceCalls hstep, h.notified, step_stored hstep, h.made]
    cases s.man.lookupLog addr port <;> simp

theorem run_told (h : (machine L E).run (start setup) es = some s) (addr : FarAddr)
    (port : UInt16) : Told L setup addr port es s :=
  Machine.run_history (M := machine L E) told_start (fun _ _ _ _ _ ht => ht.step) h

/-- In every run each device is stored under its own address and port. -/
theorem run_keysKept (h : (machine L E).run (start setup) es = some s) : s.man.KeysKept := by
  intro addr port info hinfo
  rw [(run_told h addr port).stored] at hinfo
  obtain ⟨e, -, described⟩ := List.exists_of_findSome?_eq_some hinfo
  obtain ⟨log, size, -, -, rfl, rfl⟩ := describes_eq_some described
  exact ⟨rfl, rfl⟩

/-- After any run, the device table mirrors who announced itself. -/
theorem run_mirrorsAnnouncements (h : (machine L E).run (start setup) es = some s)
    (addr : FarAddr) (port : UInt16) : MirrorsAnnouncements L E setup es s addr port := by
  have told := run_told h addr port
  refine ⟨?known_iff, told.stored, run_keysKept h addr port,
    fun es' s' info hrun => run_lookupLog hrun, ?notified⟩
  case known_iff =>
    rw [told.stored, firstDescription, List.isSome_findSome?, List.any_eq_true]
    simp only [describes_isSome]
  case notified =>
    intro callback set
    rw [told.notified, set, Option.bind_some]

/-- The lamp, known and reported. -/
theorem lamp_mirrored :
    MirrorsAnnouncements .packed (.stored ..) ⟨5, some ⟨9⟩, none⟩ [.packet 1 lampPacket 21]
      ((start ⟨5, some ⟨9⟩, none⟩).after
        ((start ⟨5, some ⟨9⟩, none⟩).man.handlePacket .packed 1 lampPacket 21)) 1
      (lampPacket.srcAddr .packed) :=
  run_mirrorsAnnouncements rfl 1 (lampPacket.srcAddr .packed)

end Sys

end KhawasuPc
