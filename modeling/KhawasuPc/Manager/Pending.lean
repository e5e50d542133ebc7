import KhawasuPc.Manager.Numbering
import KhawasuPc.Manager.WaitLoop

/-!
# Calls that wait

As long as no id comes up twice, every call that waits has an id of its own, and until it
collects its record, the record is there (`Pending.step`).  So an answer that was stored is
collected by the next round of the loop, and returned by the one after it (`Collects.next`).
-/

namespace KhawasuPc

open Lib

variable {L : PacketLayout} {E : Enumeration Nat DeviceApiAction} {setup : Setup} {s s' : Sys}
  {e : Event} {made : List Request} {n : Nat} {c : SyncCall}

namespace Sys

open PhyDeviceManager

/-! ## Drawing an id -/

/-- The next id was not drawn before. -/
theorem Numbered.fresh (h : Numbered made s) (few : made.length < 256) :
    s.man.actionResponsesCounter ∉ made.map (·.reqId) := by
  rw [h.ids, h.counter, List.mem_map]
  rintro ⟨i, hi, same⟩
  rw [List.mem_range] at hi
  have eq := congrArg UInt8.toNat same
  rw [UInt8.toNat_ofNat', UInt8.toNat_ofNat'] at eq
  omega

/-- An event that asks for a record under an id draws the id. -/
theorem requests_of_issue {k : UInt8} (h : Slots.Op.issue k ∈ s.requestOps L E e) :
    k = s.man.actionResponsesCounter ∧ ∃ q, s.requests E e = [q] ∧ q.reqId = k := by
  have asked : ∀ {asks : Bool}, Slots.Op.issue k ∈ s.man.issueOps asks →
      k = s.man.actionResponsesCounter ∧ asks = true := by
    intro asks h
    rw [issueOps] at h
    split at h
    next asks => exact ⟨Slots.Op.issue.inj (List.mem_singleton.mp h), asks⟩
    next => cases h
  cases e with
  | packet srcPhy log size =>
      rw [requestOps] at h
      split at h
      · cases h
      · split at h
        · cases List.mem_singleton.mp h
        · cases h
  | executeActionAsync env addr port action buffer requireStatus =>
      obtain ⟨rfl, -⟩ := asked h
      exact ⟨rfl, _, rfl, rfl⟩
  | executeAction env startTime addr port action buffer requireStatus =>
      obtain ⟨rfl, asks⟩ := asked h
      exact ⟨rfl, _, if_pos (Bool.and_eq_true_iff.mp asks).2, rfl⟩
  | fetchActionAsync env addr port action buffer | fetchAction env startTime addr port action =>
      obtain ⟨rfl, asks⟩ := asked h
      exact ⟨rfl, _, if_pos asks, rfl⟩
  | poll call now received =>
      rw [requestOps] at h
      split at h
      · split at h
        · cases List.mem_singleton.mp h
        · cases h
      · cases h
  | subscribeAction | subscribeActionData => cases h

/-- A call that waits has drawn an id. -/
theorem requests_of_call (hcall : e.isSyncCall = true) (hstep : s.step L E e = some s')
    (waits : s'.calls.lookup s.nextCall = some (.polling c)) :
    ∃ q, s.requests E e = [q] ∧ q.reqId = s.man.actionResponsesCounter := by
  rcases requests_cases E s e with none_drawn | drawn
  · obtain ⟨o, acts, leads⟩ := step_acts hstep
    obtain ⟨opened, env, addr, port, type, rfl, installs⟩ :=
      opens_of_call hcall (next_of_step hstep).2 waits
    have counted := acts.counter
    rw [none_drawn, ← leads.man_eq, opened_man, installs] at counted
    have up : s.man.actionResponsesCounter + 1 = s.man.actionResponsesCounter + 0 := counted
    rw [UInt8.add_right_inj] at up
    cases up
  · exact drawn

theorem table_install (man : PhyDeviceManager) (env : Ambient) (addr : FarAddr) (port : UInt16)
    (reqId : UInt8) (type : ActionResponseType) :
    (man.install env addr port reqId type).table reqId ≠ .free := by
  rw [Ne, table_eq_free_iff]
  cases found : man.actionResponses.lookup reqId with
  | none =>
      rw [install_of_lookup found, lookup_setResponse]
      exact Option.some_ne_none _
  | some data =>
      rw [install, UMap.emplace_of_mem (Finmap.mem_of_lookup_eq_some found), found]
      exact Option.some_ne_none _

/-! ## The invariant -/

/-- The calls that wait do so for records of their own, which are there until they are
collected. -/
structure Pending (made : List Request) (s : Sys) : Prop where
  drawn : ∀ n c, s.calls.lookup n = some (.polling c) → c.reqId ∈ made.map (·.reqId)
  apart : ∀ n m c d, s.calls.lookup n = some (.polling c) →
    s.calls.lookup m = some (.polling d) → c.reqId = d.reqId → n = m
  kept : ∀ n c, s.calls.lookup n = some (.polling c) → c.result = none →
    s.man.table c.reqId ≠ .free

theorem Pending.start (setup : Setup) : Pending [] (start setup) where
  drawn _ _ found := by cases found
  apart _ _ _ _ found := by cases found
  kept _ _ found := by cases found

/-- A call that waits did so before, under the same id, or was just made. -/
theorem waits_cases (hnext : s.next L E e = some s')
    (found : s'.calls.lookup n = some (.polling c)) :
    (∃ c₀, s.calls.lookup n = some (.polling c₀) ∧ c₀.reqId = c.reqId ∧
        (c.result = none → c₀ = c)) ∨
      n = s.nextCall ∧ e.isSyncCall = true ∧ c.reqId = s.man.actionResponsesCounter := by
  cases next_standsAfter hnext found with
  | before found => exact Or.inl ⟨c, found, rfl, fun _ => rfl⟩
  | made new hcall id fresh => exact Or.inr ⟨new, hcall, id⟩
  | collected before eq => exact Or.inl ⟨_, before, rfl, fun h => by cases h⟩

/-- A round that takes a record leaves its call with a result. -/
theorem result_of_take {m : Nat} {now received : UInt64} {k : UInt8} {d : SyncCall}
    (take : Slots.Op.take k ∈ s.requestOps L E (.poll m now received))
    (hnext : s.next L E (.poll m now received) = some s')
    (found : s'.calls.lookup m = some (.polling d)) : d.result ≠ none := by
  obtain ⟨c, waits, rfl⟩ := next_poll hnext
  rw [requestOps, waits] at take
  dsimp only at take
  split at take
  next collects =>
    rw [polled_calls, Finmap.lookup_insert, Option.some.injEq] at found
    have polls := c.poll_polls s.man now received
    generalize c.poll s.man now received = called at polls found
    cases polls with
    | returns stop => cases found
    | waits go none_found => rw [none_found] at collects; cases collects
    | collects => cases found; exact Option.some_ne_none _
  next => cases take

theorem Pending.step (h : Pending made s) (numbered : Numbered made s) (kept : s.man.RecordsKept)
    (few : (made ++ s.requests E e).length ≤ 256) (hstep : s.step L E e = some s') :
    Pending (made ++ s.requests E e) s' := by
  obtain ⟨-, hnext⟩ := next_of_step hstep
  rw [List.length_append] at few
  have new_id : ∀ {c : SyncCall}, e.isSyncCall = true →
      s'.calls.lookup s.nextCall = some (.polling c) →
        s.man.actionResponsesCounter ∉ made.map (·.reqId) ∧
          s.man.actionResponsesCounter ∈ (made ++ s.requests E e).map (·.reqId) := by
    intro c hcall waits
    obtain ⟨q, drawn, id⟩ := requests_of_call hcall hstep waits
    rw [drawn, List.length_singleton] at few
    rw [drawn, List.map_append, ← id]
    refine ⟨?_, List.mem_append_right _ (List.mem_singleton_self _)⟩
    rw [id]
    exact numbered.fresh (by omega)
  refine ⟨fun n c found => ?drawn, fun n m c d found found' same => ?apart,
    fun n c found missing => ?kept⟩
  case drawn =>
    rcases waits_cases hnext found with ⟨c₀, before, id, -⟩ | ⟨rfl, hcall, id⟩
    · rw [← id, List.map_append]
      exact List.mem_append_left _ (h.drawn n c₀ before)
    · rw [id]
      exact (new_id hcall found).2
  case apart =>
    rcases waits_cases hnext found with ⟨c₀, before, id, -⟩ | ⟨rfl, hcall, id⟩
    · rcases waits_cases hnext found' with ⟨d₀, before', id', -⟩ | ⟨rfl, hcall, id'⟩
      · exact h.apart n m c₀ d₀ before before' (by rw [id, id', same])
      · refine absurd (h.drawn n c₀ before) ?_
        rw [id, same, id']
        exact (new_id hcall found').1
    · rcases waits_cases hnext found' with ⟨d₀, before', id', -⟩ | ⟨rfl, -, -⟩
      · refine absurd (h.drawn m d₀ before') ?_
        rw [id', ← same, id]
        exact (new_id hcall found).1
      · rfl
  case kept =>
    rcases waits_cases hnext found with ⟨c₀, before, -, unchanged⟩ | ⟨rfl, hcall, id⟩
    · cases unchanged missing
      intro free
      have take := Slots.take_mem_of_run (step_performs hstep kept).2 (h.kept n c before missing)
        free
      rcases mem_requestOps_cases take with
        issue | ⟨k, r, reply, -⟩ | ⟨m, now, received, d, rfl, waits, same⟩
      · cases issue
      · cases reply
      · cases h.apart n m c d before waits (Slots.Op.take.inj same)
        exact result_of_take take hnext found missing
    · obtain ⟨opened, env, addr, port, type, rfl, installs⟩ := opens_of_call hcall hnext found
      rw [id, opened_man, installs]
      exact table_install s.man.bump env addr port _ type

/-! ## Collecting -/

theorem step_poll {now received : UInt64} (alive : s.fault = none)
    (waits : s.calls.lookup n = some (.polling c)) :
    s.step L E (.poll n now received) = some (s.polled n (c.poll s.man now received)) := by
  rw [step, alive]
  dsimp only
  rw [next, waits]

/-- With a result the loop ends, unless the device said `TIMEOUT` to an `execute_action`. -/
theorem goesOn_of_result {r : ActionResponse} (result : c.result = some r)
    (ends : c.kind = .fetch ∨ r.status ≠ .timeout) (now : UInt64) : c.goesOn now = false := by
  rw [SyncCall.goesOn, Bool.and_eq_false_iff]
  left
  cases kind : c.kind with
  | fetch => rw [result]; rfl
  | execute =>
      rw [kind] at ends
      rw [SyncCall.status, result]
      exact beq_eq_false_iff_ne.mpr (ends.resolve_left fun h => by cases h)

/-- A round before the deadline collects a record that was answered, and the round after it
returns what was collected. -/
theorem next_collects {data : ActionResponse} {now : UInt64} (received : UInt64)
    (alive : s.fault = none) (waits : s.calls.lookup n = some (.polling c))
    (go : c.goesOn now = true) (found : s.man.actionResponses.lookup c.reqId = some data)
    (answered : data.isWaiting = false) :
    let result : ActionResponse := { data with timeReceived := received }
    let collected : SyncCall := { c with result := some result }
    ∃ t, s.step L E (.poll n now received) = some t ∧
      t.calls.lookup n = some (.polling collected) ∧
      (c.kind = .fetch ∨ data.status ≠ .timeout → ∀ now' received', ∃ u,
        t.step L E (.poll n now' received') = some u ∧
        u.calls.lookup n = some (.returned collected.value)) := by
  intro result collected
  have eq : s.man.collect c.reqId received =
      some ({ s.man with actionResponses := s.man.actionResponses.erase c.reqId }, result) := by
    rw [collect, found]
    exact if_neg (Bool.eq_false_iff.mp answered)
  have round : c.poll s.man now received =
      ⟨{ s.man with actionResponses := s.man.actionResponses.erase c.reqId }, [],
        .polling collected⟩ := by
    rw [SyncCall.poll, if_pos go, eq]
  have waits' : (s.polled n (c.poll s.man now received)).calls.lookup n =
      some (.polling collected) := by
    rw [polled_calls, Finmap.lookup_insert, round]
  refine ⟨_, step_poll alive waits, waits', fun ends now' received' => ?_⟩
  refine ⟨_, step_poll alive waits', ?_⟩
  have stop : collected.goesOn now' = false :=
    goesOn_of_result (c := collected) (r := result) rfl ends now'
  rw [polled_calls, Finmap.lookup_insert, SyncCall.poll, stop]
  rfl

end Sys

end KhawasuPc
