import KhawasuPc.CApi.Context
import KhawasuPc.Manager.Results

/-!
# A context is a manager

Every step of a context is what at most one event does to the manager in it
(`Context.manager`), up to the packets the handler of the C interface passes on to the local
devices.  So what is known of the runs of a manager is known of those of a context.  And the
callbacks for results are told nothing that the manager does not report.
-/

namespace KhawasuPc

open Lib

variable {L : PacketLayout} {E : Enumeration Nat DeviceApiAction}
  {lengthOf : DeviceApiAction → Int}

/-! ## Traces without local devices -/

/-- A packet is passed on to the local devices. -/
def Effect.isDispatch : Effect → Bool
  | .dispatch .. => true
  | _ => false

/-- What the manager itself did. -/
def managerEffects (effects : List Effect) : List Effect :=
  effects.filter fun eff => !eff.isDispatch

theorem managerEffects_append (as bs : List Effect) :
    managerEffects (as ++ bs) = managerEffects as ++ managerEffects bs := List.filter_append ..

theorem managerEffects_eq {effects : List Effect}
    (none_dispatched : ∀ eff ∈ effects, eff.isDispatch = false) :
    managerEffects effects = effects := by
  rw [managerEffects, List.filter_eq_self]
  intro eff heff
  rw [none_dispatched eff heff]
  rfl

theorem reportsOf_managerEffects (effects : List Effect) :
    reportsOf (managerEffects effects) = reportsOf effects := by
  induction effects with
  | nil => rfl
  | cons eff effects ih =>
      cases eff with
      | action callback response => exact congrArg (response :: ·) ih
      | _ => exact ih

theorem requestPackets_managerEffects (effects : List Effect) :
    requestPackets (managerEffects effects) = requestPackets effects := by
  have packets : (managerEffects effects).filterMap Effect.packet =
      effects.filterMap Effect.packet := by
    induction effects with
    | nil => rfl
    | cons eff effects ih =>
        cases eff with
        | send packet => exact congrArg (packet :: ·) ih
        | _ => exact ih
  rw [requestPackets, packets, requestPackets]

namespace Sys

variable {s s' : Sys} {e : Event} {o : Outcome}

/-- The system as the manager alone leaves it. -/
def managed (s : Sys) : Sys := { s with trace := managerEffects s.trace }

theorem callAction_isDispatch {man : PhyDeviceManager} {response : Option ActionResponse}
    {eff : Effect} (h : eff ∈ man.callAction response) : eff.isDispatch = false := by
  unfold PhyDeviceManager.callAction at h
  split at h
  · cases h
  · rw [List.mem_singleton.mp h]
    rfl

theorem subscribes_isDispatch {man : PhyDeviceManager} {data : ActionSubscriptionData}
    (h : PhyDeviceManager.Subscribes man data o) {eff : Effect} (heff : eff ∈ o.effects) :
    eff.isDispatch = false := by
  cases h with
  | null => cases heff
  | dangling => cases heff
  | sends => rw [List.mem_singleton.mp heff]; rfl

/-- The manager passes nothing on to local devices. -/
theorem Acts.isDispatch (acts : Acts L E s e o) {eff : Effect} (heff : eff ∈ o.effects) :
    eff.isDispatch = false := by
  cases acts with
  | packet srcPhy log size event =>
      cases PhyDeviceManager.handlePacket_effect heff <;> rfl
  | asks | counts => rw [List.mem_singleton.mp heff]; rfl
  | misses | returns => exact callAction_isDispatch heff
  | nothing | collects | countsSubscription => cases heff
  | subscribes | readyMade =>
      exact subscribes_isDispatch (PhyDeviceManager.subscribeAction_subscribes _ _) heff

/-- What a system does does not depend on what was done before. -/
theorem step_retrace (h : s.step L E e = some s') (trace : List Effect) :
    ∃ effects, s'.trace = s.trace ++ effects ∧
      ({ s with trace := trace } : Sys).step L E e =
        some { s' with trace := trace ++ effects } := by
  obtain ⟨alive, hnext⟩ := next_of_step h
  have step_eq : ({ s with trace := trace } : Sys).step L E e =
      ({ s with trace := trace } : Sys).next L E e := by
    rw [step]
    dsimp only
    rw [alive]
  rw [step_eq]
  cases e with
  | packet | subscribeActionData => cases hnext; exact ⟨_, rfl, rfl⟩
  | executeActionAsync _ _ _ action | fetchActionAsync _ _ _ action | executeAction _ _ _ _ action
  | fetchAction _ _ _ _ action | subscribeAction _ action =>
      cases action <;> cases hnext <;> exact ⟨_, rfl, rfl⟩
  | poll call now received =>
      obtain ⟨c, found, rfl⟩ := next_poll hnext
      refine ⟨_, rfl, ?_⟩
      rw [next, found]
      rfl

/-- A step of a system is one of the manager. -/
theorem step_managed (h : s.step L E e = some s') : s.managed.step L E e = some s'.managed := by
  obtain ⟨o, acts, leads⟩ := step_acts h
  obtain ⟨effects, trace_eq, step⟩ := step_retrace h (managerEffects s.trace)
  cases List.append_cancel_left (trace_eq.symm.trans leads.trace_eq)
  have kept : managerEffects s'.trace = managerEffects s.trace ++ o.effects := by
    rw [trace_eq, managerEffects_append, managerEffects_eq fun eff => acts.isDispatch]
  rw [managed, managed, kept]
  exact step

end Sys

/-! ## The simulation -/

/-- What a step of a context is for the manager. -/
def ContextEvent.events (L : PacketLayout) : ContextEvent → List Event
  | .registerCallbackNewDevice _ | .registerCallbackActionExecuteResult _
  | .registerCallbackActionFetchResult _ => []
  | .dataPacket srcPhy mem size =>
      ((overlayData L mem size).map fun log => Event.packet srcPhy log size).toList
  | .executeActionAsync env destPhy destLog name data requireResult =>
      [.executeActionAsync env destPhy.toNat destLog (.name name) data requireResult]
  | .executeAction env startTime destPhy destLog name data requireResult =>
      [.executeAction env startTime destPhy.toNat destLog (.name name) data requireResult]
  | .fetchActionAsync env destPhy destLog name data =>
      [.fetchActionAsync env destPhy.toNat destLog (.name name) data]
  | .fetchAction env startTime destPhy destLog name data =>
      [.fetchAction env startTime destPhy.toNat destLog (.name name) data]
  | .poll call now received => [.poll call now received]

/-- There is one at most. -/
theorem ContextEvent.events_cases (L : PacketLayout) (e : ContextEvent) :
    e.events L = [] ∨ ∃ event, e.events L = [event] := by
  cases e with
  | registerCallbackNewDevice | registerCallbackActionExecuteResult
  | registerCallbackActionFetchResult => exact Or.inl rfl
  | dataPacket srcPhy mem size =>
      rw [events]
      cases overlayData L mem size with
      | none => exact Or.inl rfl
      | some log => exact Or.inr ⟨_, rfl⟩
  | executeActionAsync | executeAction | fetchActionAsync | fetchAction | poll =>
      exact Or.inr ⟨_, rfl⟩

namespace Context

variable {ctx ctx' : Context} {e : ContextEvent} {sys : Sys} {effects : List Effect}

/-- The handler of the C interface does to the manager what its packet does. -/
theorem run_meshPacketHandler (s : Sys) (alive : s.fault = none) (srcPhy : FarAddr)
    (mem : Memory) (size : UInt16) :
    (Sys.machine L E).run s.managed (ContextEvent.events L (.dataPacket srcPhy mem size)) =
      some (s.after (CApi.meshPacketHandler L s.man srcPhy mem size)).managed := by
  rw [ContextEvent.events]
  cases found : overlayData L mem size with
  | none =>
      have skips : CApi.meshPacketHandler L s.man srcPhy mem size =
          ⟨s.man, [], overlayReads L size, none⟩ := meshPacketHandler_none .cApi found
      rw [skips, Sys.after, List.append_nil, ← alive]
      rfl
  | some log =>
      have handled : s.step L E (.packet srcPhy log size) =
          some (s.after (s.man.handlePacket L srcPhy log size)) := by
        rw [Sys.step, alive]
        rfl
      have same : (s.after (CApi.meshPacketHandler L s.man srcPhy mem size)).managed =
          (s.after (s.man.handlePacket L srcPhy log size)).managed := by
        have handles : Handles L s.man srcPhy log size
            (CApi.meshPacketHandler L s.man srcPhy mem size) :=
          meshPacketHandler_some .cApi s.man srcPhy found
        have effects_eq : managerEffects (CApi.meshPacketHandler L s.man srcPhy mem size).effects =
            managerEffects (s.man.handlePacket L srcPhy log size).effects := by
          simp only [CApi.meshPacketHandler, found, Outcome.andThen, List.nil_append]
          cases (s.man.handlePacket L srcPhy log size).fault with
          | none => rw [managerEffects_append]; exact List.append_nil _
          | some f => rfl
        rw [Sys.managed, Sys.managed, Sys.after, Sys.after, managerEffects_append,
          managerEffects_append, effects_eq, handles.man_eq, handles.fault_eq]
      rw [same]
      exact Machine.run_singleton (Sys.step_managed handled)

theorem step_events (h : ctx.step E lengthOf L e = some ctx') :
    (Sys.machine L E).run ctx.sys.managed (e.events L) = some ctx'.sys.managed := by
  obtain ⟨-, hnext⟩ := next_of_step h
  have one : ∀ {event : Event} {sys : Sys}, ctx.sys.step L E event = some sys →
      (Sys.machine L E).run ctx.sys.managed [event] = some sys.managed := by
    intro event sys hstep
    exact Machine.run_singleton (Sys.step_managed hstep)
  cases e with
  | registerCallbackNewDevice | registerCallbackActionExecuteResult
  | registerCallbackActionFetchResult => cases hnext; rfl
  | dataPacket srcPhy mem size =>
      have alive : ctx.sys.fault = none := by
        unfold next at hnext
        cases fault : ctx.sys.fault with
        | none => rfl
        | some f => rw [fault] at hnext; cases hnext
      rw [dataPacket_some hnext, moved_sys]
      exact run_meshPacketHandler ctx.sys alive srcPhy mem size
  | executeActionAsync | fetchActionAsync =>
      obtain ⟨sys, hstep, rfl⟩ := async_some hnext
      rw [tell, moved_sys]
      exact one hstep
  | executeAction | fetchAction | poll =>
      obtain ⟨sys, hstep, rfl⟩ := sync_some hnext
      rw [finish_sys, moved_sys]
      exact one hstep

/-- A context is a manager. -/
def manager (L : PacketLayout) (E : Enumeration Nat DeviceApiAction) :
    Simulation (machine E lengthOf L) (Sys.machine L E) where
  inv _ := True
  abs ctx := ctx.sys.managed
  label _ e := e.events L
  keep _ _ _ _ _ := trivial
  sim _ _ _ _ h := step_events h

end Context

/-! ## What clients are told -/

namespace Sys

variable {s s' : Sys} {e : Event} {n : Nat} {v : Returned}

/-- The calls made so far have the numbers below the next. -/
def CallsNumbered (s : Sys) : Prop := ∀ n sync, s.calls.lookup n = some sync → n < s.nextCall

theorem CallsNumbered.next (h : s.CallsNumbered) (hnext : s.next L E e = some s') :
    s'.CallsNumbered := by
  rcases next_cases hnext with ⟨o, rfl⟩ | ⟨c, rfl⟩ | ⟨c, rfl⟩ | ⟨call, _, _, c, -, waits, rfl⟩
  · exact h
  · exact h
  · intro n sync found
    show n < s.nextCall + 1
    by_cases hn : n = s.nextCall
    · omega
    · rw [opened_calls, Finmap.lookup_insert_of_ne _ hn] at found
      have before : n < s.nextCall := h n sync found
      omega
  · intro n sync found
    show n < s.nextCall
    by_cases hn : n = call
    · rw [hn]
      exact h call _ waits
    · rw [polled_calls, Finmap.lookup_insert_of_ne _ hn] at found
      exact h n sync found

/-- A call that returned stays so. -/
theorem CallsNumbered.returned (h : s.CallsNumbered) (hnext : s.next L E e = some s')
    (returned : s.calls.lookup n = some (.returned v)) :
    s'.calls.lookup n = some (.returned v) := by
  rw [next_calls hnext (h n _ returned), returned]
  rintro now received rfl
  obtain ⟨c, waits, -⟩ := next_poll hnext
  cases returned.symm.trans waits

end Sys

/-- What a client is told is what the manager reports, or what a call returned. -/
def ClientEffect.ComesFrom (E : Enumeration Nat DeviceApiAction)
    (lengthOf : DeviceApiAction → Int) (sys : Sys) : ClientEffect → Prop
  | .newDevice _ phy log name devClass actions =>
      ∃ callback info, Effect.newDevice callback info ∈ sys.trace ∧ phy = info.phy ∧
        log = info.log ∧ name = .ofBytes info.name ∧ devClass = info.devClass ∧
        actions = (E.entries info.actionsMap).map fun kv => kv.2.copied lengthOf
  | .executeResult _ reqId status =>
      ∃ r, some r ∈ reportsOf sys.trace ∧ r.type = .execute ∧ reqId = r.reqId ∧ status = r.status
  | .fetchResult _ reqId payload =>
      ∃ r, some r ∈ reportsOf sys.trace ∧ r.type = .fetch ∧ reqId = r.reqId ∧ payload = r.payload
  | .asyncReturns _ => True
  | .executeReturns call status => sys.calls.lookup call = some (.returned (.status status))
  | .fetchReturns call payload =>
      ∃ r, sys.calls.lookup call = some (.returned (.response (some r))) ∧ payload = r.payload

/-- More reports and more calls that returned take nothing away. -/
theorem ClientEffect.ComesFrom.mono {sys sys' : Sys} {told : ClientEffect}
    (h : told.ComesFrom E lengthOf sys) (trace : sys.trace ⊆ sys'.trace)
    (returned : ∀ n v, sys.calls.lookup n = some (.returned v) →
      sys'.calls.lookup n = some (.returned v)) : told.ComesFrom E lengthOf sys' := by
  have reports : ∀ {r}, r ∈ reportsOf sys.trace → r ∈ reportsOf sys'.trace := by
    intro r hr
    obtain ⟨callback, done⟩ := mem_reportsOf.mp hr
    exact mem_reportsOf.mpr ⟨callback, trace done⟩
  cases told with
  | newDevice =>
      obtain ⟨callback, info, done, rest⟩ := h
      exact ⟨callback, info, trace done, rest⟩
  | executeResult | fetchResult =>
      obtain ⟨r, reported, rest⟩ := h
      exact ⟨r, reports reported, rest⟩
  | asyncReturns => trivial
  | executeReturns => exact returned _ _ h
  | fetchReturns =>
      obtain ⟨r, found, payload⟩ := h
      exact ⟨r, returned _ _ found, payload⟩

namespace Context

variable {ctx ctx' : Context} {e : ContextEvent} {es : List ContextEvent} {sys : Sys}
  {effects : List Effect} {told : ClientEffect} {selfPort : UInt16} {call : Nat}

/-- A callback of `init_ctx` tells what it was called for. -/
theorem notice_told {done : Effect} (hmem : done ∈ sys.trace)
    (h : told ∈ (ctx.notice E lengthOf done).told) :
    told ∈ ctx.told ∨ told.ComesFrom E lengthOf sys := by
  cases done with
  | action callback response =>
      cases response with
      | none => exact Or.inl h
      | some r =>
          have reported : some r ∈ reportsOf sys.trace := mem_reportsOf.mpr ⟨callback, hmem⟩
          rw [notice, actionCallback, tell, List.mem_append, List.mem_append] at h
          rcases h with before | executed | fetched
          · exact Or.inl before
          · split at executed
            next execute =>
              obtain ⟨callback', -, rfl⟩ :=
                Option.map_eq_some_iff.mp (Option.mem_toList.mp executed)
              exact Or.inr ⟨r, reported, execute, rfl, rfl⟩
            next => cases executed
          · split at fetched
            next fetch =>
              obtain ⟨callback', -, rfl⟩ := Option.map_eq_some_iff.mp (Option.mem_toList.mp fetched)
              exact Or.inr ⟨r, reported, fetch, rfl, rfl⟩
            next => cases fetched
  | newDevice callback info =>
      rw [notice, newDevice, tell, List.mem_append] at h
      refine h.imp_right fun now => ?_
      obtain ⟨callback', -, rfl⟩ := Option.map_eq_some_iff.mp (Option.mem_toList.mp now)
      exact ⟨callback, info, hmem, rfl, rfl, rfl, rfl, rfl⟩
  | _ => exact Or.inl h

theorem notify_told (done : effects ⊆ sys.trace) (ctx : Context)
    (h : told ∈ (notify E lengthOf effects ctx).told) :
    told ∈ ctx.told ∨ told.ComesFrom E lengthOf sys := by
  induction effects generalizing ctx with
  | nil => exact Or.inl h
  | cons eff effects ih =>
      obtain ⟨first, rest⟩ := List.cons_subset.mp done
      rw [notify] at h
      split at h
      · exact Or.inl h
      · rcases ih rest _ h with before | now
        · exact notice_told first before
        · exact Or.inr now

/-- A function of the C interface returns what the function of the manager did. -/
theorem finish_told (h : told ∈ (finish call (sys.calls.lookup call) ctx).told) :
    told ∈ ctx.told ∨ told.ComesFrom E lengthOf sys := by
  unfold finish at h
  split at h
  · exact Or.inl h
  · split at h
    next status found =>
      rw [tell, List.mem_append, List.mem_singleton] at h
      refine h.imp_right ?_
      rintro rfl
      exact found
    next resp found =>
      rw [tell, List.mem_append, List.mem_singleton] at h
      refine h.imp_right ?_
      rintro rfl
      exact ⟨resp, found, rfl⟩
    next => exact Or.inl h
    next => exact Or.inl h

/-- The client was told what the manager did. -/
structure Grounded (E : Enumeration Nat DeviceApiAction) (lengthOf : DeviceApiAction → Int)
    (ctx : Context) : Prop where
  calls : ctx.sys.CallsNumbered
  told : ∀ told ∈ ctx.told, told.ComesFrom E lengthOf ctx.sys

theorem Grounded.init (E : Enumeration Nat DeviceApiAction) (lengthOf : DeviceApiAction → Int)
    (selfPort : UInt16) : Grounded E lengthOf (init selfPort) where
  calls _ _ found := by cases found
  told _ h := by cases h

/-- Where the manager moves on, the callbacks tell what it did. -/
theorem Grounded.moved (h : Grounded E lengthOf ctx) (trace : sys.trace = ctx.sys.trace ++ effects)
    (returned : ∀ n v, ctx.sys.calls.lookup n = some (.returned v) →
      sys.calls.lookup n = some (.returned v)) (now : told ∈ (ctx.moved E lengthOf sys).told) :
    told.ComesFrom E lengthOf sys := by
  rw [moved_eq trace] at now
  have done : effects ⊆ sys.trace := by
    rw [trace]
    exact List.subset_append_right ..
  rcases notify_told done _ now with before | now
  · refine (h.told told before).mono ?_ returned
    rw [trace]
    exact List.subset_append_left ..
  · exact now

theorem Grounded.step (h : Grounded E lengthOf ctx) (hstep : ctx.step E lengthOf L e = some ctx') :
    Grounded E lengthOf ctx' := by
  obtain ⟨-, hnext⟩ := next_of_step hstep
  have moves : ∀ {event : Event} {sys : Sys}, ctx.sys.step L E event = some sys →
      sys.CallsNumbered ∧
        ∀ told ∈ (ctx.moved E lengthOf sys).told, told.ComesFrom E lengthOf sys := by
    intro event sys hsys
    obtain ⟨o, -, leads⟩ := Sys.step_acts hsys
    obtain ⟨-, next⟩ := Sys.next_of_step hsys
    exact ⟨h.calls.next next, fun told => h.moved leads.trace_eq fun n v => h.calls.returned next⟩
  cases e with
  | registerCallbackNewDevice | registerCallbackActionExecuteResult
  | registerCallbackActionFetchResult => cases hnext; exact ⟨h.calls, h.told⟩
  | dataPacket srcPhy mem size =>
      rw [dataPacket_some hnext]
      refine ⟨by rw [moved_sys]; exact h.calls, fun told now => ?_⟩
      rw [moved_sys]
      exact h.moved rfl (fun _ _ returned => returned) now
  | executeActionAsync | fetchActionAsync =>
      obtain ⟨sys, hsys, rfl⟩ := async_some hnext
      obtain ⟨numbered, tells⟩ := moves hsys
      rw [tell, moved_sys]
      refine ⟨numbered, fun told now => ?_⟩
      rcases List.mem_append.mp now with before | now
      · exact tells told before
      · cases List.mem_singleton.mp now
        trivial
  | executeAction | fetchAction | poll =>
      obtain ⟨sys, hsys, rfl⟩ := sync_some hnext
      obtain ⟨numbered, tells⟩ := moves hsys
      refine ⟨by rw [finish_sys, moved_sys]; exact numbered, fun told now => ?_⟩
      rw [finish_sys, moved_sys]
      rcases finish_told now with before | now
      · exact tells told before
      · exact now

/-- In every run, a client is told what the manager did. -/
theorem run_grounded (h : (machine E lengthOf L).run (init selfPort) es = some ctx) :
    Grounded E lengthOf ctx :=
  Machine.run_invariant (M := machine E lengthOf L) (fun _ _ _ h hstep => h.step hstep) h
    (.init E lengthOf selfPort)

end Context

end KhawasuPc
