import KhawasuPc.CApi.Manager
import KhawasuPc.Manager.Announcements

/-!
# New devices

What a client is told of a device is the description that `LogDeviceInfo` makes of its first HELLO
(`discovery`), the name as a C string and the names of the actions as far as their `length` goes.
It is told once, however often the device announces itself, by the callback that is registered
when the first HELLO comes.  A client that registers its callback later is never told.
-/

namespace KhawasuPc

open Lib

variable {L : PacketLayout} {E : Enumeration Nat DeviceApiAction}
  {lengthOf : DeviceApiAction → Int} {addr : FarAddr} {port : UInt16}

/-! ## What a client is told -/

/-- The callback is told of the device. -/
def ClientEffect.ofInfo (E : Enumeration Nat DeviceApiAction)
    (lengthOf : DeviceApiAction → Int) (info : LogDeviceInfo) (callback : FnRef) : ClientEffect :=
  .newDevice callback info.phy info.log (.ofBytes info.name) info.devClass
    ((E.entries info.actionsMap).map fun kv => kv.2.copied lengthOf)

/-- The client is told of a device. -/
def ClientEffect.reportsNew (addr : FarAddr) (port : UInt16) : ClientEffect → Bool
  | .newDevice _ phy log .. => phy = addr && log = port
  | _ => false

/-- What a client is told of a device. -/
def newDevicesTold (addr : FarAddr) (port : UInt16) (told : List ClientEffect) :
    List ClientEffect :=
  told.filter (ClientEffect.reportsNew addr port)

/-- How an event describes a device. -/
def ContextEvent.describes (L : PacketLayout) (addr : FarAddr) (port : UInt16)
    (e : ContextEvent) : Option LogDeviceInfo :=
  firstDescription L addr port (e.events L)

/-- The callback for new devices after an event. -/
def ContextEvent.registers (callback : Option FnRef) : ContextEvent → Option FnRef
  | .registerCallbackNewDevice callback' => callback'
  | _ => callback

/-- What a client is told of a device that it does not know, with `callback` registered at first. -/
def discovery (L : PacketLayout) (E : Enumeration Nat DeviceApiAction)
    (lengthOf : DeviceApiAction → Int) (addr : FarAddr) (port : UInt16) :
    Option FnRef → List ContextEvent → List ClientEffect
  | _, [] => []
  | callback, e :: es =>
      match e.describes L addr port with
      | some info => (callback.map (.ofInfo E lengthOf info)).toList
      | none => discovery L E lengthOf addr port (e.registers callback) es

theorem newDevicesTold_append (as bs : List ClientEffect) :
    newDevicesTold addr port (as ++ bs) =
      newDevicesTold addr port as ++ newDevicesTold addr port bs := List.filter_append ..

/-- A packet describes a device if it is a HELLO of the device. -/
theorem describes_dataPacket {srcPhy : FarAddr} {mem : Memory} {size : UInt16} :
    (ContextEvent.dataPacket srcPhy mem size).describes L addr port =
      (overlayData L mem size).bind fun log =>
        if log.announces L srcPhy = some ⟨addr, port⟩ then some (.ofPacket L srcPhy log)
        else none := by
  rw [ContextEvent.describes, ContextEvent.events]
  cases overlayData L mem size with
  | none => rfl
  | some log => exact List.findSome?_singleton ..

/-! ## The manager -/

theorem newDeviceCalls_managerEffects (effects : List Effect) :
    newDeviceCalls addr port (managerEffects effects) = newDeviceCalls addr port effects := by
  rw [newDeviceCalls, managerEffects, List.filter_filter, newDeviceCalls]
  refine List.filter_congr fun eff _ => ?_
  cases eff <;> simp [Effect.reportsNew, Effect.isDispatch]

namespace Sys

variable {s s' : Sys} {events : List Event}

/-- The table after a run. -/
theorem run_stored (h : (machine L E).run s events = some s') :
    s'.man.lookupLog addr port =
      (s.man.lookupLog addr port).or (firstDescription L addr port events) := by
  refine Machine.run_history (M := machine L E) (P := fun events t => t.man.lookupLog addr port =
    (s.man.lookupLog addr port).or (firstDescription L addr port events)) ?_ ?_ h
  · exact (Option.or_none ..).symm
  · intro events t e u hrun stored hstep
    rw [step_stored hstep, stored, firstDescription_snoc, Option.or_assoc]

/-- What is reported of a device where it is described so: nothing, if it is known. -/
def reportOf (s : Sys) (addr : FarAddr) (port : UInt16) (described : Option LogDeviceInfo) :
    List Effect :=
  match s.man.lookupLog addr port with
  | some _ => []
  | none => (s.man.newDeviceCallback.bind fun callback =>
      described.map (Effect.newDevice callback)).toList

@[simp] theorem reportOf_none : s.reportOf addr port none = [] := by
  unfold reportOf
  cases s.man.lookupLog addr port with
  | some dev => rfl
  | none => cases s.man.newDeviceCallback <;> rfl

/-- What is reported of a device over a run. -/
theorem run_newDeviceCalls (h : (machine L E).run s events = some s') :
    newDeviceCalls addr port s'.trace = newDeviceCalls addr port s.trace ++
      s.reportOf addr port (firstDescription L addr port events) := by
  suffices whole : s'.man.setup = s.man.setup ∧ newDeviceCalls addr port s'.trace =
      newDeviceCalls addr port s.trace ++
        s.reportOf addr port (firstDescription L addr port events) from whole.2
  refine Machine.run_history (M := machine L E) (P := fun events t =>
    t.man.setup = s.man.setup ∧ newDeviceCalls addr port t.trace =
      newDeviceCalls addr port s.trace ++
        s.reportOf addr port (firstDescription L addr port events)) ?_ ?_ h
  · refine ⟨rfl, ?_⟩
    rw [firstDescription, List.findSome?_nil, reportOf_none, List.append_nil]
  · rintro events t e u hrun ⟨made, calls⟩ hstep
    have same : t.man.newDeviceCallback = s.man.newDeviceCallback :=
      congrArg Setup.newDeviceCallback made
    refine ⟨(step_setup hstep).trans made, ?_⟩
    rw [step_newDeviceCalls hstep, calls, run_stored hrun, same, firstDescription_snoc]
    unfold reportOf
    cases s.man.lookupLog addr port with
    | some dev => exact List.append_nil _
    | none =>
        cases s.man.newDeviceCallback <;> cases firstDescription L addr port events <;> simp

end Sys

/-! ## One event -/

namespace Context

open LogicalCallbackDevice (nameLength)

variable {ctx ctx' : Context} {e : ContextEvent} {es : List ContextEvent} {sys : Sys}
  {effects : List Effect} {selfPort : UInt16} {call : Nat} {callback : FnRef}
  {event : Event}

/-- What the client is told where the manager reports a device. -/
def heard (E : Enumeration Nat DeviceApiAction) (lengthOf : DeviceApiAction → Int)
    (callback : Option FnRef) : Effect → List ClientEffect
  | .newDevice _ info => (callback.map (.ofInfo E lengthOf info)).toList
  | _ => []

/-- A callback for results tells nothing of devices. -/
theorem actionCallback_newDevicesTold (ar : Option ActionResponse) :
    newDevicesTold addr port (ctx.actionCallback ar).told = newDevicesTold addr port ctx.told := by
  cases ar with
  | none => rfl
  | some ar =>
      rw [actionCallback, tell, newDevicesTold_append]
      refine (congrArg _ (List.filter_eq_nil_iff.mpr fun told hmem => ?_)).trans (List.append_nil _)
      rcases List.mem_append.mp hmem with now | now <;> split at now
      · obtain ⟨callback, -, rfl⟩ := Option.map_eq_some_iff.mp (Option.mem_toList.mp now)
        exact Bool.false_ne_true
      · cases now
      · obtain ⟨callback, -, rfl⟩ := Option.map_eq_some_iff.mp (Option.mem_toList.mp now)
        exact Bool.false_ne_true
      · cases now

/-- What a callback of `init_ctx` tells of a device. -/
theorem notice_newDevicesTold (eff : Effect) :
    newDevicesTold addr port (ctx.notice E lengthOf eff).told = newDevicesTold addr port ctx.told ++
      if eff.reportsNew addr port then heard E lengthOf ctx.newDeviceCallback eff else [] := by
  cases eff with
  | action callback response =>
      exact (actionCallback_newDevicesTold response).trans (List.append_nil _).symm
  | newDevice callback info =>
      rw [notice, newDevice, tell, newDevicesTold_append, Effect.reportsNew]
      congr 1
      cases ctx.newDeviceCallback with
      | none => simp [newDevicesTold, heard]
      | some callback =>
          by_cases own : (info.phy = addr && info.log = port) = true
          · rw [if_pos own]
            exact List.filter_cons_of_pos own
          · rw [if_neg own]
            exact List.filter_cons_of_neg own
  | _ => exact (List.append_nil _).symm

@[simp] theorem notice_newDeviceCallback (eff : Effect) :
    (ctx.notice E lengthOf eff).newDeviceCallback = ctx.newDeviceCallback := by
  cases eff with
  | action callback response => cases response <;> rfl
  | _ => rfl

@[simp] theorem notify_newDeviceCallback (effects : List Effect) (ctx : Context) :
    (notify E lengthOf effects ctx).newDeviceCallback = ctx.newDeviceCallback := by
  induction effects generalizing ctx with
  | nil => rfl
  | cons eff effects ih =>
      rw [notify]
      split
      · rfl
      · rw [ih, notice_newDeviceCallback]

/-- Where no pointer is null, the callbacks tell of each device that is reported. -/
theorem notify_newDevicesTold (effects : List Effect) (ctx : Context) (alive : ctx.nullRead = false)
    (notNull : none ∉ reportsOf effects) :
    newDevicesTold addr port (notify E lengthOf effects ctx).told =
      newDevicesTold addr port ctx.told ++
        (newDeviceCalls addr port effects).flatMap (heard E lengthOf ctx.newDeviceCallback) := by
  induction effects generalizing ctx with
  | nil => exact (List.append_nil _).symm
  | cons eff effects ih =>
      rw [← List.singleton_append, reportsOf_append, List.mem_append, not_or] at notNull
      obtain ⟨first, rest⟩ := notNull
      have still : (ctx.notice E lengthOf eff).nullRead = false := by
        have one : (notify E lengthOf [eff] ctx).nullRead = false :=
          (notify_nullRead [eff] ctx alive).mpr first
        rwa [notify, if_neg (by rw [alive]; exact Bool.false_ne_true)] at one
      rw [notify, if_neg (by rw [alive]; exact Bool.false_ne_true), ih _ still rest,
        notice_newDevicesTold, notice_newDeviceCallback, List.append_assoc]
      congr 1
      by_cases own : eff.reportsNew addr port = true
      · rw [if_pos own, newDeviceCalls, newDeviceCalls, List.filter_cons_of_pos own,
          List.flatMap_cons]
      · rw [if_neg own, newDeviceCalls, newDeviceCalls, List.filter_cons_of_neg own,
          List.nil_append]

/-- Where no device is reported, the callbacks tell of none. -/
theorem notify_newDevicesTold_of_quiet (effects : List Effect) (ctx : Context)
    (quiet : newDeviceCalls addr port effects = []) :
    newDevicesTold addr port (notify E lengthOf effects ctx).told =
      newDevicesTold addr port ctx.told := by
  induction effects generalizing ctx with
  | nil => rfl
  | cons eff effects ih =>
      rw [newDeviceCalls, List.filter_eq_nil_iff] at quiet
      obtain ⟨first, rest⟩ := List.forall_mem_cons.mp quiet
      rw [notify]
      split
      · rfl
      · rw [ih _ (List.filter_eq_nil_iff.mpr rest), notice_newDevicesTold, if_neg first,
          List.append_nil]

/-- A function of the C interface that returns tells nothing of devices. -/
theorem finish_newDevicesTold (sync : Option Sync) :
    newDevicesTold addr port (finish call sync ctx).told = newDevicesTold addr port ctx.told := by
  unfold finish
  split
  · rfl
  · split
    · exact (newDevicesTold_append ..).trans (List.append_nil _)
    · exact (newDevicesTold_append ..).trans (List.append_nil _)
    · rfl
    · rfl

@[simp] theorem finish_newDeviceCallback (sync : Option Sync) :
    (finish call sync ctx).newDeviceCallback = ctx.newDeviceCallback := by
  unfold finish
  split
  · rfl
  · split <;> rfl

/-- A call of the manager that describes no device. -/
theorem moved_newDevicesTold (h : ctx.sys.step L E event = some sys)
    (silent : event.describes L addr port = none) :
    newDevicesTold addr port (ctx.moved E lengthOf sys).told =
      newDevicesTold addr port ctx.told := by
  obtain ⟨o, acts, leads⟩ := Sys.step_acts h
  rw [moved_eq leads.trace_eq]
  exact notify_newDevicesTold_of_quiet _ _ (acts.newDeviceCalls_eq_nil silent)

/-- What is reported of a device in a step of the context. -/
theorem step_newDeviceCalls (h : ctx.step E lengthOf L e = some ctx')
    (trace : ctx'.sys.trace = ctx.sys.trace ++ effects) :
    newDeviceCalls addr port effects = ctx.sys.reportOf addr port (e.describes L addr port) := by
  have calls : newDeviceCalls addr port ctx'.sys.managed.trace =
      newDeviceCalls addr port ctx.sys.managed.trace ++
        ctx.sys.managed.reportOf addr port (e.describes L addr port) :=
    Sys.run_newDeviceCalls (step_events h)
  rw [Sys.managed, Sys.managed, newDeviceCalls_managerEffects, newDeviceCalls_managerEffects, trace,
    Sys.newDeviceCalls_append] at calls
  exact List.append_cancel_left calls

/-- What the client is told of a device in a step. -/
theorem step_newDevicesTold (h : ctx.step E lengthOf L e = some ctx') :
    newDevicesTold addr port ctx'.told = newDevicesTold addr port ctx.told ++
      (ctx.sys.reportOf addr port (e.describes L addr port)).flatMap
        (heard E lengthOf ctx.newDeviceCallback) := by
  obtain ⟨alive, hnext⟩ := next_of_step h
  have silent : e.describes L addr port = none →
      newDevicesTold addr port ctx'.told = newDevicesTold addr port ctx.told →
      newDevicesTold addr port ctx'.told = newDevicesTold addr port ctx.told ++
        (ctx.sys.reportOf addr port (e.describes L addr port)).flatMap
          (heard E lengthOf ctx.newDeviceCallback) := by
    intro described same
    rw [described, Sys.reportOf_none, List.flatMap_nil, List.append_nil, same]
  cases e with
  | registerCallbackNewDevice | registerCallbackActionExecuteResult
  | registerCallbackActionFetchResult => cases hnext; exact silent rfl rfl
  | dataPacket srcPhy mem size =>
      have moved := dataPacket_some hnext
      rw [← step_newDeviceCalls h (by rw [moved, moved_sys]; rfl), moved, moved_eq rfl]
      exact notify_newDevicesTold _ _ alive (meshPacketHandler_notNull ctx.sys.man srcPhy mem size)
  | executeActionAsync | fetchActionAsync =>
      obtain ⟨sys, hsys, rfl⟩ := async_some hnext
      refine silent rfl ?_
      rw [tell, newDevicesTold_append, moved_newDevicesTold hsys rfl]
      exact List.append_nil _
  | executeAction | fetchAction | poll =>
      obtain ⟨sys, hsys, rfl⟩ := sync_some hnext
      refine silent rfl ?_
      rw [finish_newDevicesTold, moved_newDevicesTold hsys rfl]

/-- The table after a step. -/
theorem step_stored (h : ctx.step E lengthOf L e = some ctx') : ctx'.sys.man.lookupLog addr port =
    (ctx.sys.man.lookupLog addr port).or (e.describes L addr port) := by
  have stored : ctx'.sys.managed.man.lookupLog addr port =
      (ctx.sys.managed.man.lookupLog addr port).or (e.describes L addr port) :=
    Sys.run_stored (step_events h)
  exact stored

/-- The callback for new devices after a step. -/
theorem step_newDeviceCallback (h : ctx.step E lengthOf L e = some ctx') :
    ctx'.newDeviceCallback = e.registers ctx.newDeviceCallback := by
  obtain ⟨-, hnext⟩ := next_of_step h
  cases e with
  | registerCallbackNewDevice | registerCallbackActionExecuteResult
  | registerCallbackActionFetchResult => cases hnext; rfl
  | dataPacket srcPhy mem size =>
      rw [dataPacket_some hnext]
      exact notify_newDeviceCallback ..
  | executeActionAsync | fetchActionAsync =>
      obtain ⟨sys, hsys, rfl⟩ := async_some hnext
      exact notify_newDeviceCallback ..
  | executeAction | fetchAction | poll =>
      obtain ⟨sys, hsys, rfl⟩ := sync_some hnext
      exact (finish_newDeviceCallback _).trans (notify_newDeviceCallback ..)

/-! ## Whole runs -/

/-- What a context whose manager reports new devices tells of one, from the state on. -/
theorem run_newDevicesTold (called : ctx.sys.man.newDeviceCallback = some callback)
    (h : (machine E lengthOf L).run ctx es = some ctx') :
    newDevicesTold addr port ctx'.told = newDevicesTold addr port ctx.told ++
      if (ctx.sys.man.lookupLog addr port).isSome then []
      else discovery L E lengthOf addr port ctx.newDeviceCallback es := by
  induction es generalizing ctx with
  | nil =>
      cases h
      split <;> exact (List.append_nil _).symm
  | cons e es ih =>
      obtain ⟨ctx₁, hstep, hes⟩ := Option.bind_eq_some_iff.mp h
      have moved : ctx.step E lengthOf L e = some ctx₁ := hstep
      have called₁ : ctx₁.sys.man.newDeviceCallback = some callback :=
        (congrArg Setup.newDeviceCallback (step_setup moved)).trans called
      rw [ih called₁ hes, step_newDevicesTold moved, step_newDeviceCallback moved,
        step_stored moved, List.append_assoc, discovery, Sys.reportOf, called]
      congr 1
      cases ctx.sys.man.lookupLog addr port with
      | some dev => rfl
      | none =>
          cases e.describes L addr port with
          | none => rfl
          | some info =>
              show heard E lengthOf ctx.newDeviceCallback (.newDevice callback info) ++ [] ++ [] = _
              rw [List.append_nil, List.append_nil]
              rfl

/-- Where a device is not described, it stays unknown and the client is told nothing of it. -/
theorem run_undescribed (h : (machine E lengthOf L).run ctx es = some ctx')
    (silent : ∀ e ∈ es, e.describes L addr port = none) :
    ctx'.sys.man.lookupLog addr port = ctx.sys.man.lookupLog addr port ∧
      newDevicesTold addr port ctx'.told = newDevicesTold addr port ctx.told := by
  refine Machine.run_meets (M := machine E lengthOf L)
    (C := fun _ e => e.describes L addr port = none)
    (P := fun t => t.sys.man.lookupLog addr port = ctx.sys.man.lookupLog addr port ∧
      newDevicesTold addr port t.told = newDevicesTold addr port ctx.told) ?_ h
    (Machine.meets_of_forall (fun e he _ => silent e he) _) ⟨rfl, rfl⟩
  rintro t e u described ⟨stored, told⟩ hstep
  constructor
  · rw [step_stored hstep, described, Option.or_none, stored]
  · rw [step_newDevicesTold hstep, described, Sys.reportOf_none, List.flatMap_nil, List.append_nil,
      told]

/-- From the first HELLO of a device on, the client was told what this says. -/
theorem run_described {pre : List ContextEvent} {ctx₀ : Context} {info : LogDeviceInfo}
    (hpre : (machine E lengthOf L).run (init selfPort) pre = some ctx₀)
    (silent : ∀ e ∈ pre, e.describes L addr port = none)
    (described : e.describes L addr port = some info)
    (h : (machine E lengthOf L).run ctx₀ (e :: es) = some ctx) :
    newDevicesTold addr port ctx.told =
      (ctx₀.newDeviceCallback.map (ClientEffect.ofInfo E lengthOf info)).toList := by
  obtain ⟨unknown, untold⟩ := run_undescribed hpre silent
  have made : ctx₀.sys.man.setup = managerSetup selfPort :=
    Machine.run_invariant (M := machine E lengthOf L) (P := fun ctx => ctx.sys.man.setup =
      managerSetup selfPort) (fun _ _ _ same hstep => (step_setup hstep).trans same) hpre rfl
  have called : ctx₀.sys.man.newDeviceCallback = some ⟨0⟩ :=
    congrArg Setup.newDeviceCallback made
  rw [run_newDevicesTold called h, untold, unknown, discovery, described]
  rfl

/-- In every run from `init_ctx`, the client is told of a device the description made of its first
HELLO, once, by the callback that is registered at that moment, and nothing if there is none. -/
theorem run_discovers (h : (machine E lengthOf L).run (init selfPort) es = some ctx)
    (addr : FarAddr) (port : UInt16) :
    newDevicesTold addr port ctx.told = discovery L E lengthOf addr port none es :=
  run_newDevicesTold rfl h

/-- The packet of a HELLO, from a lamp without actions. -/
def lampGreeting : Memory := .ofList [1, 10, 0, 1, 0, 0, 2, 1, 0, 0, 76]

/-- The lamp announces itself twice, and the client changes its callback between. -/
def lampGreets : List ContextEvent :=
  [.registerCallbackNewDevice (some ⟨9⟩), .dataPacket 2 lampGreeting 11,
    .registerCallbackNewDevice (some ⟨8⟩), .dataPacket 2 lampGreeting 11]

/-- The client is told once, by the first callback. -/
theorem lampGreets_discovered :
    ∃ ctx, (machine (.stored ..) nameLength .packed).run (init 1) lampGreets = some ctx ∧
      newDevicesTold 2 10 ctx.told =
        [.ofInfo (.stored ..) nameLength (.ofPacket .packed 2 ⟨lampGreeting, 1⟩) ⟨9⟩] := by
  have first : discovery .packed (.stored ..) nameLength 2 10 none lampGreets =
      [.ofInfo (.stored ..) nameLength (.ofPacket .packed 2 ⟨lampGreeting, 1⟩) ⟨9⟩] := rfl
  exact ⟨_, rfl, (run_discovers (L := .packed) (E := .stored ..) rfl 2 10).trans first⟩

end Context

end KhawasuPc
