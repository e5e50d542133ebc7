import KhawasuPc.Exchange.Agreement
import KhawasuPc.Manager.Pending

/-!
# An answer that arrives is returned

As long as no id comes up twice, an answer that arrives while a call waits for it is not lost:
the next round of the loop before the deadline collects it, and the round after that returns it
(`run_collects`).
-/

namespace KhawasuPc

open Lib

namespace Exchange

variable {W : Site} {s t : Exchange} {e : Event} {es : List Event} {setup : Setup}
  {made : List Request}

/-! ## The invariant -/

/-- No record waits for an answer that arrived. -/
def Landed (s : Exchange) : Prop :=
  ∀ i ∈ s.delivered, ∃ answer, s.answers[i]? = some answer ∧
    s.sys.man.table answer.requestId ≠ .waiting

/-- The calls that wait have records, and no answer that arrived is lost. -/
structure Live (W : Site) (made : List Request) (s : Exchange) : Prop where
  sound : Sound W made s
  pending : made.length ≤ 256 → s.sys.Pending made
  landed : made.length ≤ 256 → s.sys.fault = none → s.Landed

theorem Live.start (W : Site) (setup : Setup) : Live W [] (start setup) where
  sound := .start W setup
  pending _ := .start setup
  landed _ _ _ h := by cases h

/-- The id of an answer was drawn. -/
theorem Sound.drawn (h : Sound W made s) {answer : Answer} (hmem : answer ∈ s.answers) :
    answer.requestId ∈ made.map (·.reqId) := by
  obtain ⟨fits, asked⟩ := h.asked answer hmem
  obtain ⟨q, hq, sentAs⟩ := h.numbered.sent _ asked
  exact List.mem_map.mpr ⟨q, hq, Option.some.inj (sentAs.requestId.symm.trans fits.requestId)⟩

/-- No event makes a record wait for an answer that was made. -/
theorem Sound.stays (h : Sound W made s) {f : KhawasuPc.Event} {sys : Sys}
    (few : (made ++ s.sys.requests W.E f).length ≤ 256)
    (hstep : s.sys.step W.L W.E f = some sys) {answer : Answer} (hmem : answer ∈ s.answers)
    (before : s.sys.man.table answer.requestId ≠ .waiting) :
    sys.man.table answer.requestId ≠ .waiting := by
  intro waits
  have issue := Slots.issue_mem_of_run (Sys.step_performs hstep h.kept).2 before waits
  obtain ⟨next, q, drawn, -⟩ := Sys.requests_of_issue issue
  rw [drawn, List.length_append, List.length_singleton] at few
  exact h.numbered.fresh (by omega) (next ▸ h.drawn hmem)

/-- An answer that arrives leaves no record waiting for it. -/
theorem landed_of_packet {L : PacketLayout} {man : PhyDeviceManager} {srcPhy : FarAddr}
    {log : LogicalPacket} {size : UInt16} {reqId : UInt8} {reply : Reply}
    (hr : log.reply L size = some (reqId, reply))
    (alive : (man.handlePacket L srcPhy log size).fault = none) :
    (man.handlePacket L srcPhy log size).man.table reqId ≠ .waiting := by
  have handles : man.HandlesReply reqId reply (man.handlePacket L srcPhy log size) :=
    PhyDeviceManager.handlePacket_reply hr
  intro waits
  obtain ⟨data, found, waiting⟩ := PhyDeviceManager.table_eq_waiting_iff.mp waits
  cases handles with
  | unexpected found' man_eq => rw [man_eq, found'] at found; cases found
  | repeated data' _ _ _ _ fault_eq => rw [fault_eq] at alive; cases alive
  | tooLong data' _ _ _ _ fault_eq => rw [fault_eq] at alive; cases alive
  | answered data' found' waiting' man_eq =>
      rw [man_eq, PhyDeviceManager.lookup_setResponse] at found
      cases found
      cases waiting

theorem Live.step (h : Live W made s) (hstep : s.step W e = some t) :
    Live W (made ++ s.requests W e) t := by
  have none_drawn : ∀ {srcPhy log size}, made.length ≤ 256 →
      (made ++ s.sys.requests W.E (.packet srcPhy log size)).length ≤ 256 := by
    intro srcPhy log size few
    show (made ++ []).length ≤ 256
    rwa [List.append_nil]
  refine ⟨h.sound.step hstep, fun few => ?pending, fun few alive => ?landed⟩
  case pending =>
    have before := h.pending (by rw [List.length_append] at few; omega)
    cases step_steps hstep with
    | client f sys silent step => exact before.step h.sound.numbered h.sound.kept few step
    | serve => rw [requests, List.append_nil]; exact before
    | deliver i srcPhy mem size answer sys found packet step =>
        rw [requests, List.append_nil] at few ⊢
        exact List.append_nil made ▸ before.step h.sound.numbered h.sound.kept (none_drawn few) step
  case landed =>
    have few' : made.length ≤ 256 := by rw [List.length_append] at few; omega
    cases step_steps hstep with
    | client f sys silent step =>
        intro i hi
        obtain ⟨answer, found, before⟩ := h.landed few' (Sys.next_of_step step).1 i hi
        exact ⟨answer, found, h.sound.stays few step (List.mem_of_getElem? found) before⟩
    | serve request slot handlers answers sent served =>
        intro i hi
        obtain ⟨answer, found, before⟩ := h.landed few' alive i hi
        refine ⟨answer, ?_, before⟩
        rw [List.getElem?_append_left (List.getElem?_eq_some_iff.mp found).1, found]
    | deliver i srcPhy mem size answer sys found packet step =>
        intro j hj
        rcases List.mem_append.mp hj with hj | hj
        · obtain ⟨answer, found, before⟩ := h.landed few' (Sys.next_of_step step).1 j hj
          exact ⟨answer, found,
            h.sound.stays (none_drawn few') step (List.mem_of_getElem? found) before⟩
        · cases List.mem_singleton.mp hj
          obtain ⟨reply, hr, -⟩ := packet.reply
          obtain ⟨-, hnext⟩ := Sys.next_of_step step
          cases hnext
          exact ⟨answer, found, landed_of_packet hr alive⟩

/-- In every run, no answer that arrives is lost. -/
theorem run_live (h : (machine W).run (Exchange.start setup) es = some s) :
    Live W (requestsMade W setup es) s :=
  Machine.run_outputs (M := machine W) (C := fun _ _ => True) (P := Live W)
    (fun _ _ _ _ _ ht hstep => ht.step hstep) h (Machine.meets_of_forall (fun _ _ _ => trivial) _)
    (.start W setup)

/-! ## One call -/

variable {pre mid : List Event} {s₀ s₁ : Exchange} {f : KhawasuPc.Event} {call c : SyncCall}

/-- An answer to the packet has arrived. -/
def AnswerArrived (s : Exchange) (packet : SentPacket) : Prop :=
  ∃ i ∈ s.delivered, ∃ answer, s.answers[i]? = some answer ∧ answer.request = packet

theorem step_poll {n : Nat} {now received : UInt64} {sys : Sys}
    (h : s.sys.step W.L W.E (.poll n now received) = some sys) :
    s.step W (.client (.poll n now received)) = some { s with sys := sys } := by
  have silent : ¬ (KhawasuPc.Event.poll n now received).isReply W.L = true := Bool.false_ne_true
  rw [step, if_neg silent, h]
  rfl

/-- In every run of up to 256 requests: once an answer to the packet of a call has arrived, the
next round of its loop before the deadline collects what the handler returned, and the round
after that returns it, unless the handler said `TIMEOUT` to an `execute_action`. -/
theorem run_collects (hpre : (machine W).run (Exchange.start setup) pre = some s₀)
    (hcall : f.isSyncCall = true) (hstep : s₀.step W (.client f) = some s₁)
    (waits : s₁.sys.calls.lookup s₀.sys.nextCall = some (.polling call))
    (hmid : (machine W).run s₁ mid = some s)
    (few : (requestsMade W setup (pre ++ .client f :: mid)).length ≤ 256)
    (alive : s.sys.fault = none)
    (still : s.sys.calls.lookup s₀.sys.nextCall = some (.polling c)) (missing : c.result = none)
    {packet : SentPacket}
    (sent : requestPackets s₁.sys.trace = requestPackets s₀.sys.trace ++ [packet])
    (arrived : s.AnswerArrived packet) {now : UInt64} (received : UInt64)
    (go : c.goesOn now = true) :
    ∃ r, HandledFor W (pre ++ .client f :: mid) packet r ∧
      let collected : SyncCall := { c with result := some r }
      ∃ t, s.step W (.client (.poll s₀.sys.nextCall now received)) = some t ∧
        t.sys.calls.lookup s₀.sys.nextCall = some (.polling collected) ∧
        (c.kind = .fetch ∨ r.status ≠ .timeout → ∀ now' received', ∃ u,
          t.step W (.client (.poll s₀.sys.nextCall now' received')) = some u ∧
          u.sys.calls.lookup s₀.sys.nextCall = some (.returned collected.value)) := by
  have whole : (machine W).run (Exchange.start setup) (pre ++ .client f :: mid) = some s :=
    Machine.run_through hpre hstep hmid
  have live := run_live whole
  have own : c.reqId = s₀.sys.man.actionResponsesCounter :=
    (run_call hpre hcall hstep waits hmid few _ still).1
  have packet_id : packet.body.requestId = some c.reqId := by
    cases step_steps hstep with
    | client f sys silent step =>
        obtain ⟨packet', sent', id⟩ := Sys.sends_of_call hcall (Sys.next_of_step step).2 waits
        cases List.append_cancel_left (sent.symm.trans sent')
        rw [id, own]
  obtain ⟨i, hi, answer, found, rfl⟩ := arrived
  have hmem := List.mem_of_getElem? found
  obtain ⟨fits, asked⟩ := live.sound.asked answer hmem
  have answer_id : answer.requestId = c.reqId :=
    Option.some.inj (fits.requestId.symm.trans packet_id)
  obtain ⟨data, hold, answered⟩ : ∃ data,
      s.sys.man.actionResponses.lookup c.reqId = some data ∧ data.isWaiting = false := by
    obtain ⟨answer', found', landed⟩ := live.landed few alive i hi
    cases found.symm.trans found'
    rw [answer_id] at landed
    cases slot : s.sys.man.table c.reqId with
    | free => exact absurd slot ((live.pending few).kept _ c still missing)
    | waiting => exact absurd slot landed
    | answered v =>
        obtain ⟨data, hold, answered, -⟩ := PhyDeviceManager.table_eq_answered_iff.mp slot
        exact ⟨data, hold, answered⟩
  obtain ⟨answer', hmem', explains⟩ := (live.sound.backed few).table _ data hold answered
  obtain ⟨asked', handled⟩ := run_handledFor whole (explains.closed received) hmem'
  have same : answer'.request = answer.request := by
    refine live.sound.numbered.same_packet few asked' asked ?_
    rw [(live.sound.asked answer' hmem').1.requestId, packet_id, Option.some.injEq,
      ← UInt8.toUInt32_inj, ← explains.reqId]
    exact (live.sound.kept _ data hold).1
  obtain ⟨sys, step, collected, returns⟩ :=
    Sys.next_collects (L := W.L) (E := W.E) received alive still go hold answered
  refine ⟨_, same ▸ handled, _, step_poll step, collected, fun ends now' received' => ?_⟩
  obtain ⟨sys', step', returned⟩ := returns ends now' received'
  exact ⟨_, step_poll step', returned⟩

/-- The answer to the fetch is collected, and the call returns it. -/
theorem lampFetch_collects :
    ∃ r t u, lampDelivered.step (lampSite (.stored ..) (.stored ..)) (.client (.poll 0 1 1)) =
        some t ∧
      t.step (lampSite (.stored ..) (.stored ..)) (.client (.poll 0 2 2)) = some u ∧
      u.sys.calls.lookup 0 = some (.returned (.response (some r))) ∧
      HandledFor (lampSite (.stored ..) (.stored ..)) (.client lampFetch :: lampArrives) lampPacket
        r := by
  let W := lampSite (.stored ..) (.stored ..)
  have new : (machine W).run (start Sys.watched) [] = some (start Sys.watched) := rfl
  have asked : (start Sys.watched).step W (.client lampFetch) = some lampFetched := rfl
  have few : (requestsMade W Sys.watched ([] ++ .client lampFetch :: lampArrives)).length ≤ 256 :=
    (length_requestsMade_le ..).trans (by decide)
  have arrived : lampDelivered.AnswerArrived lampPacket :=
    ⟨0, List.mem_singleton_self 0, lampAnswer, rfl, rfl⟩
  have go : (⟨.fetch, 0, 0, none⟩ : SyncCall).goesOn 1 = true := rfl
  obtain ⟨r, handled, t, collects, -, returns⟩ := run_collects new rfl asked rfl
    (run_lampArrives _ _) few rfl rfl rfl rfl arrived 1 go
  obtain ⟨u, next, returned⟩ := returns (Or.inl rfl) 2 2
  exact ⟨r, t, u, collects, next, returned, handled⟩

end Exchange

end KhawasuPc
