import KhawasuPc.Manager.Forgetting

/-!
# A run without one call

A synchronous call draws a request id, installs a record and waits.  `skipCall` only draws
the id.  `LeftOut` relates a run with the call to the run without it: they differ in the
record under the id and in the call that waits.  A round of that call is left out
(`LeftOut.leave`), every other step is followed (`LeftOut.follow`), and making the call
relates the two (`leftOut_of_call`).
-/

namespace KhawasuPc

open Lib

variable {L : PacketLayout} {E : Enumeration Nat DeviceApiAction}

/-! ## The relation -/

/-- The event is a round of the loop of the `n`-th synchronous call. -/
def Event.polls (n : Nat) : Event → Bool
  | .poll call _ _ => call = n
  | _ => false

namespace Sys

variable {n : Nat} {id : UInt8} {s s' t : Sys} {e : Event}

/-- The system in which a synchronous call is not made: its number and its request id are
used up, and nothing else is done. -/
def skipCall (s : Sys) : Sys := { s with man := s.man.bump, nextCall := s.nextCall + 1 }

/-- `t` is `s` without the `n`-th synchronous call and the record under its id, which no
other call waits for. -/
structure LeftOut (n : Nat) (id : UInt8) (s t : Sys) : Prop where
  man : t.man = s.man.forget id
  calls : ∀ k, k ≠ n → t.calls.lookup k = s.calls.lookup k
  nextCall : t.nextCall = s.nextCall
  made : n < s.nextCall
  own : ∀ c, s.calls.lookup n = some (.polling c) → c.reqId = id
  others : ∀ k c, k ≠ n → s.calls.lookup k = some (.polling c) → c.reqId ≠ id

theorem LeftOut.after {o o' : Outcome} (h : LeftOut n id s t) (man : o'.man = o.man.forget id) :
    LeftOut n id (s.after o) (t.after o') where
  man := man
  calls := h.calls
  nextCall := h.nextCall
  made := h.made
  own := h.own
  others := h.others

theorem LeftOut.called {α : Type} (h : LeftOut n id s t) (c : Called α) :
    LeftOut n id (s.called c) (t.called (c.mapMan (·.forget id))) where
  man := rfl
  calls := h.calls
  nextCall := h.nextCall
  made := h.made
  own := h.own
  others := h.others

/-- Another synchronous call is made, under another id. -/
theorem LeftOut.opened (h : LeftOut n id s t) (c : Called Sync)
    (apart : ∀ call, c.value = .polling call → call.reqId ≠ id) :
    LeftOut n id (s.opened c) (t.opened (c.mapMan (·.forget id))) where
  man := rfl
  calls k hk := by
    rw [opened_calls, opened_calls, h.nextCall]
    by_cases hn : k = s.nextCall
    · rw [hn, Finmap.lookup_insert, Finmap.lookup_insert]
      rfl
    · rw [Finmap.lookup_insert_of_ne _ hn, Finmap.lookup_insert_of_ne _ hn, h.calls k hk]
  nextCall := congrArg (· + 1) h.nextCall
  made := Nat.lt_succ_of_lt h.made
  own call found := by
    rw [opened_calls, Finmap.lookup_insert_of_ne _ (Nat.ne_of_lt h.made)] at found
    exact h.own call found
  others k call hk found := by
    rw [opened_calls] at found
    by_cases hn : k = s.nextCall
    · rw [hn, Finmap.lookup_insert, Option.some.injEq] at found
      exact apart call found
    · rw [Finmap.lookup_insert_of_ne _ hn] at found
      exact h.others k call hk found

/-- A round of the loop of another call. -/
theorem LeftOut.polled {k : Nat} (h : LeftOut n id s t) (hn : k ≠ n) (c : Called Sync)
    (apart : ∀ call, c.value = .polling call → call.reqId ≠ id) :
    LeftOut n id (s.polled k c) (t.polled k (c.mapMan (·.forget id))) where
  man := rfl
  calls j hj := by
    rw [polled_calls, polled_calls]
    by_cases hk : j = k
    · rw [hk, Finmap.lookup_insert, Finmap.lookup_insert]
      rfl
    · rw [Finmap.lookup_insert_of_ne _ hk, Finmap.lookup_insert_of_ne _ hk, h.calls j hj]
  nextCall := h.nextCall
  made := h.made
  own call found := by
    rw [polled_calls, Finmap.lookup_insert_of_ne _ (Ne.symm hn)] at found
    exact h.own call found
  others j call hj found := by
    rw [polled_calls] at found
    by_cases hk : j = k
    · rw [hk, Finmap.lookup_insert, Option.some.injEq] at found
      exact apart call found
    · rw [Finmap.lookup_insert_of_ne _ hk] at found
      exact h.others j call hj found

/-- What a round of a wait loop leaves is about the same request. -/
theorem reqId_of_poll {c c' : SyncCall} {man : PhyDeviceManager} {now received : UInt64}
    (h : (c.poll man now received).value = .polling c') : c'.reqId = c.reqId := by
  have polls := c.poll_polls man now received
  generalize c.poll man now received = called at polls h
  cases polls with
  | returns => cases h
  | waits => cases h; rfl
  | collects => cases h; rfl

/-- A round of the loop of the call itself does nothing but erase its record. -/
theorem LeftOut.leave {now received : UInt64} (h : LeftOut n id s t)
    (hstep : s.step L E (.poll n now received) = some s') : LeftOut n id s' t := by
  obtain ⟨c, found, rfl⟩ := next_poll (next_of_step hstep).2
  have hid := h.own c found
  refine ⟨?man, ?calls, h.nextCall, h.made, ?own, ?others⟩
  case man =>
    rw [h.man, polled_man]
    have polls := c.poll_polls s.man now received
    generalize c.poll s.man now received = called at polls
    cases polls with
    | returns => rfl
    | waits => rfl
    | collects received' man' r _ _ eq =>
        obtain ⟨data, -, -, rfl, -⟩ := PhyDeviceManager.collect_eq_some eq
        rw [PhyDeviceManager.forget, PhyDeviceManager.forget, hid, UMap.erase_erase]
  case calls =>
    intro k hk
    rw [polled_calls, Finmap.lookup_insert_of_ne _ hk, h.calls k hk]
  case own =>
    intro call hcall
    rw [polled_calls, Finmap.lookup_insert, Option.some.injEq] at hcall
    exact (reqId_of_poll hcall).trans hid
  case others =>
    intro k call hk hcall
    rw [polled_calls, Finmap.lookup_insert_of_ne _ hk] at hcall
    exact h.others k call hk hcall

/-- The events that install no record under the id of the call. -/
def NotReissued (L : PacketLayout) (E : Enumeration Nat DeviceApiAction) (id : UInt8) (s : Sys)
    (e : Event) : Prop :=
  Slots.Op.issue id ∉ s.requestOps L E e

theorem ne_of_notReissued {asks : Bool} {man : PhyDeviceManager}
    (h : Slots.Op.issue id ∉ man.issueOps asks) (ha : asks = true) :
    man.actionResponsesCounter ≠ id := by
  rintro rfl
  rw [ha] at h
  exact h (List.mem_singleton_self _)

/-- A synchronous call that waits drew the next id, and asked for a record under it. -/
theorem reqId_of_executeAction {man : PhyDeviceManager} {env : Ambient} {addr : FarAddr}
    {port : UInt16} {startTime : UInt64} {actionId : UInt16} {buffer : List UInt8}
    {requireStatus : Bool} {c : SyncCall}
    (h : (man.executeAction env addr port startTime actionId buffer requireStatus).value =
      .polling c) : requireStatus = true ∧ c.reqId = man.actionResponsesCounter := by
  cases requireStatus with
  | false => cases h
  | true => cases h; exact ⟨rfl, rfl⟩

theorem reqId_of_executeActionByName {man : PhyDeviceManager} {env : Ambient} {addr : FarAddr}
    {port : UInt16} {startTime : UInt64} {name : CString} {buffer : List UInt8}
    {requireStatus : Bool} {c : SyncCall}
    (h : (man.executeActionByName env addr port startTime E name buffer requireStatus).value =
      .polling c) :
    (requireStatus && man.resolves E addr port (.name name)) = true ∧
      c.reqId = man.actionResponsesCounter := by
  rw [PhyDeviceManager.executeActionByName] at h
  cases found : man.lookupAction E addr port name with
  | none => rw [found] at h; cases h
  | some action =>
      rw [found] at h
      obtain ⟨asks, drawn⟩ := reqId_of_executeAction h
      rw [asks, PhyDeviceManager.resolves_name, found]
      exact ⟨rfl, drawn⟩

theorem reqId_of_fetchActionByName {man : PhyDeviceManager} {env : Ambient} {addr : FarAddr}
    {port : UInt16} {startTime : UInt64} {name : CString} {buffer : List UInt8} {c : SyncCall}
    (h : (man.fetchActionByName env addr port startTime E name buffer).value = .polling c) :
    man.resolves E addr port (.name name) = true ∧ c.reqId = man.actionResponsesCounter := by
  rw [PhyDeviceManager.fetchActionByName] at h
  cases found : man.lookupAction E addr port name with
  | none => rw [found] at h; cases h
  | some action =>
      rw [found] at h
      cases h
      rw [PhyDeviceManager.resolves_name, found]
      exact ⟨rfl, rfl⟩

/-! ### Other events -/

theorem LeftOut.follow_after {o o' : Outcome} (h : LeftOut n id s t)
    (same : o.fault = none → o'.man = o.man.forget id ∧ o'.fault = none) :
    ∃ t', some (t.after o') = some t' ∧
      ((s.after o).fault = none → t'.fault = none ∧ LeftOut n id (s.after o) t') := by
  refine ⟨_, rfl, fun alive => ?_⟩
  obtain ⟨man, quiet⟩ := same alive
  exact ⟨quiet, h.after man⟩

theorem LeftOut.follow_called {c c' : Called UInt8} (h : LeftOut n id s t) (fault : t.fault = none)
    (same : c' = c.mapMan (·.forget id)) :
    ∃ t', some (t.called c') = some t' ∧
      ((s.called c).fault = none → t'.fault = none ∧ LeftOut n id (s.called c) t') := by
  refine ⟨_, rfl, fun _ => ⟨fault, ?_⟩⟩
  rw [same]
  exact h.called c

theorem LeftOut.follow_opened {c c' : Called Sync} (h : LeftOut n id s t) (fault : t.fault = none)
    (same : c' = c.mapMan (·.forget id))
    (apart : ∀ call, c.value = .polling call → call.reqId ≠ id) :
    ∃ t', some (t.opened c') = some t' ∧
      ((s.opened c).fault = none → t'.fault = none ∧ LeftOut n id (s.opened c) t') := by
  refine ⟨_, rfl, fun _ => ⟨fault, ?_⟩⟩
  rw [same]
  exact h.opened c apart

/-- Any other event does the same without the call as with it. -/
theorem LeftOut.follow (h : LeftOut n id s t) (fault : t.fault = none)
    (other : e.polls n = false) (fresh : NotReissued L E id s e)
    (hstep : s.step L E e = some s') :
    ∃ t', t.step L E e = some t' ∧ (s'.fault = none → t'.fault = none ∧ LeftOut n id s' t') := by
  obtain ⟨hs, hnext⟩ := next_of_step hstep
  have enabled : t.step L E e = t.next L E e := by
    unfold step
    rw [fault]
  rw [enabled]
  unfold NotReissued at fresh
  cases e with
  | packet srcPhy log size =>
      cases hnext
      refine h.follow_after fun alive => ?_
      rw [h.man]
      exact PhyDeviceManager.handlePacket_forget id alive
  | executeActionAsync env addr port action buffer requireStatus =>
      have apart := fun ha => ne_of_notReissued fresh ha
      cases action with
      | id actionId =>
          cases hnext
          rw [PhyDeviceManager.resolves_id, Bool.and_true] at apart
          refine h.follow_called fault ?_
          rw [h.man, PhyDeviceManager.executeActionAsync_forget env addr port buffer actionId apart]
      | name name =>
          cases hnext
          refine h.follow_called fault ?_
          rw [h.man,
            PhyDeviceManager.executeActionAsyncByName_forget env addr port buffer name apart]
  | fetchActionAsync env addr port action buffer =>
      have apart := fun ha => ne_of_notReissued fresh ha
      cases action with
      | id actionId =>
          cases hnext
          refine h.follow_called fault ?_
          rw [h.man, PhyDeviceManager.fetchActionAsync_forget env addr port buffer actionId
            (apart rfl)]
      | name name =>
          cases hnext
          refine h.follow_called fault ?_
          rw [h.man, PhyDeviceManager.fetchActionAsyncByName_forget env addr port buffer name apart]
  | executeAction env startTime addr port action buffer requireStatus =>
      have apart := fun ha => ne_of_notReissued fresh ha
      cases action with
      | id actionId =>
          cases hnext
          rw [PhyDeviceManager.resolves_id, Bool.and_true] at apart
          refine h.follow_opened fault ?_ fun c hc => ?_
          · rw [h.man, PhyDeviceManager.executeAction_forget env addr port buffer startTime actionId
              apart]
          · obtain ⟨asks, drawn⟩ := reqId_of_executeAction hc
            rw [drawn]
            exact apart asks
      | name name =>
          cases hnext
          refine h.follow_opened fault ?_ fun c hc => ?_
          · rw [h.man, PhyDeviceManager.executeActionByName_forget env addr port buffer name
              startTime apart]
          · obtain ⟨asks, drawn⟩ := reqId_of_executeActionByName hc
            rw [drawn]
            exact apart asks
  | fetchAction env startTime addr port action buffer =>
      have apart := fun ha => ne_of_notReissued fresh ha
      cases action with
      | id actionId =>
          cases hnext
          refine h.follow_opened fault ?_ fun c hc => ?_
          · rw [h.man, PhyDeviceManager.fetchAction_forget env addr port buffer startTime actionId
              (apart rfl)]
          · cases hc
            exact apart rfl
      | name name =>
          cases hnext
          refine h.follow_opened fault ?_ fun c hc => ?_
          · rw [h.man, PhyDeviceManager.fetchActionByName_forget env addr port buffer name startTime
              apart]
          · obtain ⟨asks, drawn⟩ := reqId_of_fetchActionByName hc
            rw [drawn]
            exact apart asks
  | poll call now received =>
      have hn : call ≠ n := by simpa [Event.polls] using other
      obtain ⟨c, found, rfl⟩ := next_poll hnext
      have hid := h.others call c hn found
      have found' : t.calls.lookup call = some (.polling c) := (h.calls call hn).trans found
      refine ⟨t.polled call (c.poll t.man now received), ?_, fun _ => ⟨fault, ?_⟩⟩
      · rw [next, found']
      · rw [h.man, PhyDeviceManager.poll_forget hid]
        refine h.polled hn _ fun c' hc' => ?_
        rw [reqId_of_poll hc']
        exact hid
  | subscribeAction args action =>
      cases action with
      | id actionId =>
          cases hnext
          refine h.follow_after fun alive => ?_
          rw [h.man, PhyDeviceManager.subscribeActionById_forget]
          exact ⟨rfl, alive⟩
      | name name =>
          cases hnext
          refine h.follow_after fun alive => ?_
          rw [h.man, PhyDeviceManager.subscribeActionByName_forget]
          exact ⟨rfl, alive⟩
  | subscribeActionData data =>
      cases hnext
      refine h.follow_after fun alive => ?_
      rw [h.man, PhyDeviceManager.subscribeAction_forget]
      exact ⟨rfl, alive⟩

/-! ## Making the call -/

/-- A synchronous call that waits installed a record under the next id. -/
theorem opens_of_call {call : SyncCall} (hcall : e.isSyncCall = true)
    (h : s.next L E e = some s') (hc : s'.calls.lookup s.nextCall = some (.polling call)) :
    ∃ c env addr port type, s' = s.opened c ∧
      c.man = s.man.bump.install env addr port s.man.actionResponsesCounter type := by
  cases e with
  | executeAction env startTime addr port action buffer requireStatus =>
      cases action with
      | id actionId =>
          cases h
          rw [opened_calls, Finmap.lookup_insert] at hc
          cases requireStatus with
          | false => cases hc
          | true => exact ⟨_, env, addr, port, .execute, rfl, rfl⟩
      | name name =>
          cases h
          rw [opened_calls, Finmap.lookup_insert] at hc
          cases found : s.man.lookupAction E addr port name with
          | none => rw [PhyDeviceManager.executeActionByName, found] at hc; cases hc
          | some action =>
              refine ⟨_, env, addr, port, .execute, rfl, ?_⟩
              rw [PhyDeviceManager.executeActionByName, found] at hc ⊢
              cases requireStatus with
              | false => cases hc
              | true => rfl
  | fetchAction env startTime addr port action buffer =>
      cases action with
      | id actionId => cases h; exact ⟨_, env, addr, port, .fetch, rfl, rfl⟩
      | name name =>
          cases h
          rw [opened_calls, Finmap.lookup_insert] at hc
          cases found : s.man.lookupAction E addr port name with
          | none => rw [PhyDeviceManager.fetchActionByName, found] at hc; cases hc
          | some action =>
              refine ⟨_, env, addr, port, .fetch, rfl, ?_⟩
              rw [PhyDeviceManager.fetchActionByName, found]
              rfl
  | _ => cases hcall

/-- The next request id is unused: there is no record under it, and no call waits for
one. -/
structure IdUnused (s : Sys) : Prop where
  noEntry : s.man.actionResponses.lookup s.man.actionResponsesCounter = none
  noCall : ∀ k c, s.calls.lookup k = some (.polling c) →
    c.reqId ≠ s.man.actionResponsesCounter

/-- A call with an unused id differs from none in the record it installs, which waits. -/
theorem leftOut_of_call {call : SyncCall} (hunused : s.IdUnused) (hcall : e.isSyncCall = true)
    (h : s.next L E e = some s') (hc : s'.calls.lookup s.nextCall = some (.polling call)) :
    LeftOut s.nextCall call.reqId s' s.skipCall ∧ s'.man.table call.reqId = .waiting := by
  obtain ⟨c, env, addr, port, type, rfl, installs⟩ := opens_of_call hcall h hc
  obtain ⟨hid, -, -⟩ := polling_of_call hcall h hc
  have free : s.man.bump.actionResponses.lookup s.man.actionResponsesCounter = none :=
    hunused.noEntry
  rw [PhyDeviceManager.install_of_lookup free] at installs
  refine ⟨⟨?man, ?calls, rfl, Nat.lt_succ_self _, ?own, ?others⟩, ?waits⟩
  case man =>
    rw [opened_man, installs, hid, PhyDeviceManager.forget_setResponse, PhyDeviceManager.forget,
      UMap.erase_of_lookup free]
    rfl
  case calls =>
    intro k hk
    rw [opened_calls, Finmap.lookup_insert_of_ne _ hk]
    rfl
  case own =>
    intro d hd
    rw [hd, Option.some.injEq, Sync.polling.injEq] at hc
    rw [hc]
  case others =>
    intro k d hk hd
    rw [opened_calls, Finmap.lookup_insert_of_ne _ hk] at hd
    rw [hid]
    exact hunused.noCall k d hd
  case waits =>
    rw [opened_man, installs, hid, PhyDeviceManager.table_setResponse, Function.update_self]
    rfl

end Sys

end KhawasuPc
