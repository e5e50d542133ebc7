import KhawasuPc.Manager.LeftOut

/-!
# What a synchronous call leaves behind

A synchronous call installs a record and erases it when it collects the answer.  If the
answer does not come in time the record stays, and a late reply still finds it.

To say what a call leaves behind the run is compared with the one without the call.
`sync_cleansUp_iff` says that at the end of the call they do not differ exactly if the
answer came in time.
-/

namespace KhawasuPc

open Lib

variable {L : PacketLayout} {E : Enumeration Nat DeviceApiAction}

namespace Sys

variable {n : Nat} {id : UInt8} {s s' t : Sys} {e : Event}

/-! ## While the call waits -/

/-- The event is a packet with a reply to the request. -/
def Replies (L : PacketLayout) (id : UInt8) (e : Event) : Prop :=
  ∃ srcPhy log size reply, e = .packet srcPhy log size ∧ log.reply L size = some (id, reply)

/-- The reply comes in time for the `n`-th call, which waits since `startTime`: the call
goes through its loop after it, before its deadline. -/
def AnsweredInTime (L : PacketLayout) (n : Nat) (id : UInt8) (startTime : UInt64)
    (es : List Event) : Prop :=
  ∃ pre now received post, es = pre ++ .poll n now received :: post ∧
    now - startTime < PhyDeviceManager.responseTimeout ∧ ∃ e ∈ pre, Replies L id e

/-- What an event does to the table of requests, and why. -/
theorem mem_requestOps_cases {o : Slots.Op UInt8 Result} (h : o ∈ s.requestOps L E e) :
    o = .issue s.man.actionResponsesCounter ∨
      (∃ k r, o = .reply k r ∧ Replies L k e) ∨
      ∃ call now received c, e = .poll call now received ∧
        s.calls.lookup call = some (.polling c) ∧ o = .take c.reqId := by
  cases e with
  | packet srcPhy log size =>
      rw [requestOps] at h
      cases hr : log.reply L size with
      | none => rw [hr] at h; cases h
      | some p =>
          rw [hr] at h
          dsimp only at h
          split at h
          · rw [List.mem_singleton] at h
            exact Or.inr (Or.inl ⟨p.1, _, h, srcPhy, log, size, p.2, rfl, hr⟩)
          · cases h
  | executeActionAsync | executeAction | fetchActionAsync | fetchAction =>
      rw [requestOps, PhyDeviceManager.issueOps] at h
      split at h
      · exact Or.inl (List.mem_singleton.mp h)
      · cases h
  | poll call now received =>
      rw [requestOps] at h
      split at h
      next c found =>
        split at h
        · exact Or.inr (Or.inr ⟨call, now, received, c, rfl, found, List.mem_singleton.mp h⟩)
        · cases h
      next => cases h
  | subscribeAction | subscribeActionData => cases h

/-- A reply to the request is told by the table of requests, unless it aborts. -/
theorem requestOps_of_replies (hstep : s.step L E e = some s') (alive : s'.fault = none)
    (h : Replies L id e) : ∃ r, s.requestOps L E e = [.reply id r] := by
  obtain ⟨srcPhy, log, size, reply, rfl, hr⟩ := h
  obtain ⟨-, hnext⟩ := next_of_step hstep
  cases hnext
  rw [after_fault] at alive
  refine ⟨reply.result, ?_⟩
  rw [requestOps, hr]
  exact if_pos alive

/-- What becomes of the slot of the call while others act: a reply answers it, and nothing
else touches it. -/
theorem LeftOut.slot (h : LeftOut n id s t) (kept : s.man.RecordsKept)
    (other : e.polls n = false) (fresh : NotReissued L E id s e)
    (hstep : s.step L E e = some s') (alive : s'.fault = none) :
    (Replies L id e ∧ ((s.man.table id = .free ∧ s'.man.table id = .free) ∨
        (s.man.table id = .waiting ∧ ∃ r, s'.man.table id = .answered r))) ∨
      (¬ Replies L id e ∧ s'.man.table id = s.man.table id) := by
  have hrun := (step_performs hstep kept).2
  by_cases replies : Replies L id e
  · obtain ⟨r, ops⟩ := requestOps_of_replies (E := E) hstep alive replies
    rw [ops] at hrun
    obtain ⟨w, hw, hrest⟩ := Option.bind_eq_some_iff.mp hrun
    rw [Machine.run_nil, Option.some.injEq] at hrest
    rw [hrest] at hw
    rcases Slots.step_reply_self hw with stays | ⟨waits, answered⟩
    · exact Or.inl ⟨replies, Or.inl stays⟩
    · exact Or.inl ⟨replies, Or.inr ⟨waits, r, answered⟩⟩
  · refine Or.inr ⟨replies, Slots.stays_of_run hrun fun o ho => ?_⟩
    rcases mem_requestOps_cases ho with
      rfl | ⟨k, r, rfl, hk⟩ | ⟨call, now, received, c, rfl, found, rfl⟩
    · rintro rfl
      exact fresh ho
    · rintro rfl
      exact replies hk
    · have hn : call ≠ n := by simpa [Event.polls] using other
      exact Ne.symm (h.others call c hn found)

variable {startTime now received : UInt64} {c c' : SyncCall}

theorem replies_snoc :
    (∃ f ∈ es ++ [e], Replies L id f) ↔ (∃ f ∈ es, Replies L id f) ∨ Replies L id e := by
  simp only [List.mem_append, List.mem_singleton, or_and_right, exists_or, exists_eq_left]

theorem answeredInTime_snoc :
    AnsweredInTime L n id startTime (es ++ [e]) ↔ AnsweredInTime L n id startTime es ∨
      (∃ now received, e = .poll n now received ∧
        now - startTime < PhyDeviceManager.responseTimeout) ∧ ∃ f ∈ es, Replies L id f := by
  constructor
  · rintro ⟨pre, now, received, post, split, inTime, replied⟩
    rcases Slots.snoc_eq_append_cons.mp split with ⟨-, rfl, rfl⟩ | ⟨rest, -, rfl⟩
    · exact Or.inr ⟨⟨now, received, rfl, inTime⟩, replied⟩
    · exact Or.inl ⟨pre, now, received, rest, rfl, inTime, replied⟩
  · rintro
      (⟨pre, now, received, post, rfl, inTime, replied⟩ | ⟨⟨now, received, rfl, inTime⟩, replied⟩)
    · exact ⟨pre, now, received, post ++ [e], by simp, inTime, replied⟩
    · exact ⟨es, now, received, [], rfl, inTime, replied⟩

/-- Where a call that waits stands after the events since it was made: its record waits,
or was answered and is not collected yet, or was collected. -/
inductive Awaits (L : PacketLayout) (n : Nat) (id : UInt8) (startTime : UInt64) (es : List Event)
    (s : Sys) : Prop
  | waiting (slot : s.man.table id = .waiting) (silent : ¬ ∃ f ∈ es, Replies L id f)
  | answered (slot : ∃ r, s.man.table id = .answered r) (replied : ∃ f ∈ es, Replies L id f)
      (late : ¬ AnsweredInTime L n id startTime es)
  | collected (slot : s.man.table id = .free) (inTime : AnsweredInTime L n id startTime es)

/-- A loop that goes on has not reached its deadline. -/
theorem inTime_of_goesOn (h : c.goesOn now = true) :
    now - c.startTime < PhyDeviceManager.responseTimeout := by
  rw [SyncCall.goesOn, Bool.and_eq_true, decide_eq_true_eq] at h
  exact h.2

theorem Awaits.not_inTime (h : Awaits L n id startTime es s) (taken : s.man.table id ≠ .free) :
    ¬ AnsweredInTime L n id startTime es := by
  cases h with
  | waiting slot silent =>
      rintro ⟨pre, now, received, post, rfl, -, f, hf, replies⟩
      exact silent ⟨f, List.mem_append_left _ hf, replies⟩
  | answered slot replied late => exact late
  | collected slot inTime => exact absurd slot taken

/-- Others act while the call waits. -/
theorem Awaits.follow (h : Awaits L n id startTime es s) (left : LeftOut n id s t)
    (kept : s.man.RecordsKept) (other : e.polls n = false) (fresh : NotReissued L E id s e)
    (hstep : s.step L E e = some s') (alive : s'.fault = none) :
    Awaits L n id startTime (es ++ [e]) s' := by
  have same : AnsweredInTime L n id startTime (es ++ [e]) ↔ AnsweredInTime L n id startTime es := by
    rw [answeredInTime_snoc, or_iff_left]
    rintro ⟨⟨now, received, rfl, -⟩, -⟩
    simp [Event.polls] at other
  have slot := left.slot kept other fresh hstep alive
  cases h with
  | waiting waits silent =>
      rw [waits] at slot
      rcases slot with ⟨replies, ⟨free, -⟩ | ⟨-, answered⟩⟩ | ⟨quiet, stays⟩
      · cases free
      · have before : Awaits L n id startTime es s := .waiting waits silent
        have taken : s.man.table id ≠ .free := by
          rw [waits]
          intro h
          cases h
        refine .answered answered (replies_snoc.mpr (Or.inr replies)) ?_
        rw [same]
        exact before.not_inTime taken
      · exact .waiting stays fun replied => (replies_snoc.mp replied).elim silent quiet
  | answered answered replied late =>
      obtain ⟨r, answered⟩ := answered
      rw [answered] at slot
      rcases slot with ⟨-, ⟨free, -⟩ | ⟨waits, -⟩⟩ | ⟨-, stays⟩
      · cases free
      · cases waits
      · exact .answered ⟨r, stays⟩ (replies_snoc.mpr (Or.inl replied)) (same.not.mpr late)
  | collected free inTime =>
      rw [free] at slot
      rcases slot with ⟨-, ⟨-, stays⟩ | ⟨waits, -⟩⟩ | ⟨-, stays⟩
      · exact .collected stays (same.mpr inTime)
      · cases waits
      · exact .collected stays (same.mpr inTime)

/-- The call goes through its loop once, and waits still. -/
theorem Awaits.poll (h : Awaits L n id startTime es s) (hid : c.reqId = id)
    (hstart : c.startTime = startTime)
    (hpoll : (c.poll s.man now received).value = .polling c') :
    c'.startTime = startTime ∧
      Awaits L n id startTime (es ++ [.poll n now received])
        (s.polled n (c.poll s.man now received)) := by
  have silent : ¬ Replies L id (.poll n now received) := by
    rintro ⟨srcPhy, log, size, reply, h, -⟩
    cases h
  have polls := c.poll_polls s.man now received
  generalize c.poll s.man now received = called at polls hpoll
  cases polls with
  | returns stop => cases hpoll
  | waits go none_found =>
      cases hpoll
      refine ⟨hstart, ?_⟩
      cases h with
      | waiting slot quiet =>
          exact .waiting slot fun replied => (replies_snoc.mp replied).elim quiet silent
      | answered slot replied late =>
          obtain ⟨r, slot⟩ := slot
          obtain ⟨data, found, waiting, -⟩ := PhyDeviceManager.table_eq_answered_iff.mp slot
          rw [SyncCall.collects, go, hid, found] at none_found
          simp [waiting] at none_found
      | collected slot inTime => exact .collected slot (answeredInTime_snoc.mpr (Or.inl inTime))
  | collects received' man' r go found eq =>
      cases hpoll
      refine ⟨hstart, ?_⟩
      obtain ⟨data, found, waiting, rfl, -⟩ := PhyDeviceManager.collect_eq_some eq
      rw [hid] at found
      have slot : s.man.table id = .answered data.result :=
        PhyDeviceManager.table_eq_answered_iff.mpr ⟨data, found, waiting, rfl⟩
      have replied : ∃ f ∈ es, Replies L id f := by
        cases h with
        | waiting waits => rw [waits] at slot; cases slot
        | answered _ replied => exact replied
        | collected free => rw [free] at slot; cases slot
      refine .collected (PhyDeviceManager.table_eq_free_iff.mpr ?_) (answeredInTime_snoc.mpr
        (Or.inr ⟨⟨now, received, rfl, hstart ▸ inTime_of_goesOn go⟩, replied⟩))
      rw [← hid]
      exact Finmap.lookup_erase ..

/-- How things stand with the `n`-th call after the events since it was made. -/
structure Stands (L : PacketLayout) (n : Nat) (id : UInt8) (startTime : UInt64)
    (es : List Event) (s : Sys) : Prop where
  kept : s.man.RecordsKept
  left : ∃ t, t.fault = none ∧ LeftOut n id s t
  awaits : ∀ c, s.calls.lookup n = some (.polling c) →
    c.startTime = startTime ∧ Awaits L n id startTime es s

/-- While the call waits it is known how things stand. -/
theorem run_stands (start : Stands L n id startTime [] s) (h : (machine L E).run s es = some s')
    (hm : (machine L E).Meets (NotReissued L E id) s es) (alive : s'.fault = none) :
    Stands L n id startTime es s' := by
  revert alive
  refine Machine.run_history_meets (P := fun es s => s.fault = none →
    Stands L n id startTime es s) (fun _ => start) ?_ h hm
  intro es u f w hrun fresh ih hstep alive
  have hstep : u.step L E f = some w := hstep
  obtain ⟨before, hnext⟩ := next_of_step hstep
  obtain ⟨kept, ⟨t, quiet, left⟩, awaits⟩ := ih before
  have kept' := (step_performs hstep kept).1
  cases other : f.polls n with
  | false =>
      obtain ⟨t', -, follows⟩ := left.follow quiet other fresh hstep
      refine ⟨kept', ⟨t', follows alive⟩, fun c found => ?_⟩
      have mine : ∀ now received, f ≠ .poll n now received := by
        rintro now received rfl
        simp [Event.polls] at other
      rw [next_calls hnext left.made mine] at found
      obtain ⟨hstart, awaits⟩ := awaits c found
      exact ⟨hstart, awaits.follow left kept other fresh hstep alive⟩
  | true =>
      cases f with
      | poll call now received =>
          obtain rfl : call = n := by simpa [Event.polls] using other
          refine ⟨kept', ⟨t, quiet, left.leave hstep⟩, fun c found => ?_⟩
          obtain ⟨c', found', rfl⟩ := next_poll hnext
          rw [polled_calls, Finmap.lookup_insert, Option.some.injEq] at found
          obtain ⟨hstart, awaits⟩ := awaits c' found'
          exact awaits.poll (left.own c' found') hstart found
      | _ => cases other

/-! ## At the end -/

/-- The call left nothing behind: the table of requests is that of the run without it, it
has no entry under the id of the call, and as long as no other request draws that id a
reply to it does nothing. -/
structure CleanedUp (L : PacketLayout) (E : Enumeration Nat DeviceApiAction) (id : UInt8)
    (s t : Sys) : Prop where
  same : s.man.actionResponses = t.man.actionResponses
  noEntry : s.man.actionResponses.lookup id = none
  ignored : ∀ es s', (machine L E).run s es = some s' →
    (machine L E).Meets (NotReissued L E id) s es → ∀ srcPhy log size reply,
      log.reply L size = some (id, reply) →
        (s'.man.handlePacket L srcPhy log size).man = s'.man ∧
          (s'.man.handlePacket L srcPhy log size).effects = []

/-- An id that no request draws stays free. -/
theorem run_free (kept : s.man.RecordsKept) (free : s.man.table id = .free)
    (h : (machine L E).run s es = some s')
    (hm : (machine L E).Meets (NotReissued L E id) s es) : s'.man.table id = .free := by
  have both : s'.man.RecordsKept ∧ s'.man.table id = .free := by
    refine Machine.run_meets (P := fun s => s.man.RecordsKept ∧ s.man.table id = .free) ?_ h hm
      ⟨kept, free⟩
    rintro u f w fresh ⟨kept, free⟩ hstep
    obtain ⟨kept', hrun⟩ := step_performs hstep kept
    exact ⟨kept', Slots.free_of_run hrun free fresh⟩
  exact both.2

theorem LeftOut.cleanedUp (h : LeftOut n id s t) (kept : s.man.RecordsKept)
    (free : s.man.table id = .free) : CleanedUp L E id s t where
  same := by
    rw [h.man, PhyDeviceManager.forget,
      UMap.erase_of_lookup (PhyDeviceManager.table_eq_free_iff.mp free)]
  noEntry := PhyDeviceManager.table_eq_free_iff.mp free
  ignored es s' hrun hm srcPhy log size reply hr := by
    have found := PhyDeviceManager.table_eq_free_iff.mp (run_free kept free hrun hm)
    have handled : s'.man.HandlesReply id reply (s'.man.handlePacket L srcPhy log size) :=
      PhyDeviceManager.handlePacket_reply hr
    cases handled with
    | unexpected _ man_eq effects_eq => exact ⟨man_eq, effects_eq⟩
    | repeated _ found' => rw [found] at found'; cases found'
    | tooLong _ found' => rw [found] at found'; cases found'
    | answered _ found' => rw [found] at found'; cases found'

/-- The run without the call, as long as no other request draws its id. -/
theorem run_without (h : (machine L E).run s es = some s')
    (hm : (machine L E).Meets (NotReissued L E id) s es)
    (start : t.fault = none ∧ LeftOut n id s t) :
    ∃ t', (machine L E).run t (es.filter fun f => !f.polls n) = some t' ∧
      (s'.fault = none → t'.fault = none ∧ LeftOut n id s' t') := by
  refine Machine.run_leftOut (R := fun s t => s.fault = none → t.fault = none ∧ LeftOut n id s t)
    ?_ ?_ h hm fun _ => start
  · intro u f w t own related hstep _
    obtain ⟨alive, -⟩ := next_of_step hstep
    obtain ⟨quiet, left⟩ := related alive
    cases f with
    | poll call now received =>
        obtain rfl : call = n := by simpa [Event.polls] using own
        exact ⟨quiet, left.leave hstep⟩
    | _ => cases own
  · intro u f w t other fresh related hstep
    obtain ⟨alive, -⟩ := next_of_step hstep
    obtain ⟨quiet, left⟩ := related alive
    exact left.follow quiet other fresh hstep

/-- In every run, a synchronous call with an unused id cleans up after itself exactly if a
reply to it is handled before one of the rounds of its loop that come before the deadline.
The other events of the run are those of a run without the call. -/
theorem sync_cleansUp_iff {pre mid : List Event} {s₀ s₁ s₂ s₃ : Sys} {call : SyncCall}
    {v : Returned} (hpre : (machine L E).run (start setup) pre = some s₀)
    (hunused : s₀.IdUnused) (hcall : e.isSyncCall = true) (hstep : s₀.step L E e = some s₁)
    (hc : s₁.calls.lookup s₀.nextCall = some (.polling call))
    (hmid : (machine L E).run s₁ mid = some s₂)
    (hfresh : (machine L E).Meets (NotReissued L E call.reqId) s₁ mid)
    (hpoll : s₂.step L E (.poll s₀.nextCall now received) = some s₃)
    (hv : s₃.calls.lookup s₀.nextCall = some (.returned v)) :
    ∃ t₃, (machine L E).run s₀.skipCall (mid.filter fun f => !f.polls s₀.nextCall) = some t₃ ∧
      (CleanedUp L E call.reqId s₃ t₃ ↔
        AnsweredInTime L s₀.nextCall call.reqId call.startTime mid) := by
  obtain ⟨alive₀, hnext⟩ := next_of_step hstep
  obtain ⟨left₁, waits₁⟩ := leftOut_of_call hunused hcall hnext hc
  have kept₁ : s₁.man.RecordsKept := (step_performs hstep (run_requestLog hpre).1).1
  obtain ⟨alive₂, hnext₃⟩ := next_of_step hpoll
  obtain ⟨t₃, hrun, follows⟩ := run_without (t := s₀.skipCall) hmid hfresh ⟨alive₀, left₁⟩
  refine ⟨t₃, hrun, ?_⟩
  obtain ⟨-, left₂⟩ := follows alive₂
  have left₃ := left₂.leave hpoll
  have stands : Stands L s₀.nextCall call.reqId call.startTime mid s₂ := by
    refine run_stands ⟨kept₁, ⟨s₀.skipCall, alive₀, left₁⟩, fun c found => ?_⟩ hmid hfresh alive₂
    cases hc.symm.trans found
    exact ⟨rfl, .waiting waits₁ fun replied => by simp at replied⟩
  obtain ⟨c, found, rfl⟩ := next_poll hnext₃
  have awaits := (stands.awaits c found).2
  have polls := c.poll_polls s₂.man now received
  rw [polled_calls, Finmap.lookup_insert] at hv
  generalize c.poll s₂.man now received = called at polls hv left₃
  cases polls with
  | waits => cases hv
  | collects => cases hv
  | returns =>
      constructor
      · intro clean
        cases awaits with
        | waiting slot =>
            have free := PhyDeviceManager.table_eq_free_iff.mpr clean.noEntry
            rw [polled_man, slot] at free
            cases free
        | answered slot =>
            obtain ⟨r, slot⟩ := slot
            have free := PhyDeviceManager.table_eq_free_iff.mpr clean.noEntry
            rw [polled_man, slot] at free
            cases free
        | collected slot inTime => exact inTime
      · intro inTime
        refine left₃.cleanedUp stands.kept ?_
        by_contra taken
        exact awaits.not_inTime taken inTime

/-! ### A fetch with and without an answer -/

/-- A fetch from the device of `replyTo0`. -/
def fetchEvent : Event := .fetchAction anyEnv 0 2 10 (.id 3) []

/-- The system after the fetch is made. -/
def fetchingSys : Sys :=
  (start quiet).opened ((start quiet).man.fetchAction anyEnv 2 10 0 3 [])

/-- The system after its deadline, when no answer came. -/
def timedOutSys : Sys :=
  fetchingSys.polled 0 (SyncCall.poll ⟨.fetch, 0, 0, none⟩ fetchingSys.man 5000000 0)

/-- The system after the answer came and was collected. -/
def collectedSys : Sys :=
  let s := fetchingSys.after (fetchingSys.man.handlePacket .packed 2 replyTo0 9)
  s.polled 0 (SyncCall.poll ⟨.fetch, 0, 0, none⟩ s.man 0 1)

/-- What was collected. -/
def collectedRecord : ActionResponse :=
  ⟨false, 0, .fetch, 2, 10, .unknown, [42, 0, 0, 0, 0], 0, 1⟩

theorem start_idUnused : (start quiet).IdUnused where
  noEntry := rfl
  noCall k c h := by cases h

/-- A fetch whose answer is handled before a round of its loop cleans up. -/
theorem answered_fetch_cleansUp :
    ∃ t₃, (machine .packed (.stored ..)).run (start quiet).skipCall
        ([.packet 2 replyTo0 9, .poll 0 0 1].filter fun f => !f.polls 0) = some t₃ ∧
      (CleanedUp .packed (.stored ..) 0 (collectedSys.polled 0
          (SyncCall.poll ⟨.fetch, 0, 0, some collectedRecord⟩ collectedSys.man 2 2)) t₃ ↔
        AnsweredInTime .packed 0 0 0 [.packet 2 replyTo0 9, .poll 0 0 1]) := by
  let E : Enumeration Nat DeviceApiAction := .stored ..
  have hpre : (machine .packed E).run (start quiet) [] = some (start quiet) := rfl
  have hstep : (start quiet).step .packed E fetchEvent = some fetchingSys := rfl
  have hmid : (machine .packed E).run fetchingSys [.packet 2 replyTo0 9, .poll 0 0 1] =
      some collectedSys := rfl
  have hfresh : (machine .packed E).Meets (NotReissued .packed E 0) fetchingSys
      [.packet 2 replyTo0 9, .poll 0 0 1] := by
    have packetOps : fetchingSys.requestOps .packed E (.packet 2 replyTo0 9) = [.reply 0 _] := rfl
    have pollOps : Sys.requestOps .packed E
        (fetchingSys.after (fetchingSys.man.handlePacket .packed 2 replyTo0 9)) (.poll 0 0 1) =
          [.take 0] := rfl
    refine ⟨?_, fun t ht => ⟨?_, fun _ _ => trivial⟩⟩
    · rw [NotReissued, packetOps, List.mem_singleton]
      intro h
      cases h
    · cases ht
      rw [NotReissued, pollOps, List.mem_singleton]
      intro h
      cases h
  exact sync_cleansUp_iff hpre start_idUnused rfl hstep rfl hmid hfresh
    (rfl : Sys.step _ _ _ (.poll 0 2 2) = _) rfl

/-- A fetch that gets no answer leaves its record, which a late reply still finds. -/
theorem unanswered_fetch_leaves_record :
    (start quiet).IdUnused ∧ (start quiet).step .packed (.stored ..) fetchEvent = some fetchingSys ∧
      fetchingSys.step .packed (.stored ..) (.poll 0 5000000 0) = some timedOutSys ∧
      timedOutSys.calls.lookup 0 = some (.returned (.response none)) ∧
      timedOutSys.man.actionResponses ≠ (start quiet).skipCall.man.actionResponses ∧
      (timedOutSys.man.actionResponses.lookup 0).isSome ∧
      (timedOutSys.man.handlePacket .packed 2 replyTo0 9).man ≠ timedOutSys.man := by
  refine ⟨start_idUnused, rfl, rfl, rfl, fun same => ?_, rfl, fun same => ?_⟩
  · have found : timedOutSys.man.actionResponses.lookup 0 = none := by
      rw [same]
      rfl
    cases found
  · have waiting : (timedOutSys.man.actionResponses.lookup 0).map (·.isWaiting) = some false := by
      rw [← same]
      rfl
    cases waiting

end Sys

end KhawasuPc
