import KhawasuPc.Manager.Correlation

/-!
# Which reply a request gets

Request ids are one byte.  Records that were answered stay in the table until a
synchronous call collects them, and `emplace` does not replace them, so after
256 requests an id can come up again while its old record is still there.  Three
things follow.

A reply to a request that was answered before, and whose answer was not
collected since, trips the assertion of `handle_packet`; no other reply does.
A request installs a record of its own unless the slot of its id holds an
answered record or the record of another kind of request or of another device.
A synchronous call returns what a packet carried after the call was made, as an
answer to its own request or a later one, unless the slot of its id held a record
when it was made.
-/

namespace KhawasuPc

open Lib

variable {L : PacketLayout} {E : Enumeration Nat DeviceApiAction} {setup : Setup}
  {s s' : Sys} {e : Event} {es : List Event}

namespace Sys

/-! ## The log of requests -/

/-- The requests made, answered and collected along a run from `s`. -/
def requestLog (L : PacketLayout) (E : Enumeration Nat DeviceApiAction) (s : Sys)
    (es : List Event) : List (Slots.Op UInt8 Result) :=
  (correlation L E).labels s es

theorem start_recordsKept : (start setup).man.RecordsKept := by
  intro k data h
  cases h

theorem start_table (setup : Setup) :
    (start setup).man.table = Slots.Table.empty := by
  funext k
  exact PhyDeviceManager.table_eq_free_iff.mpr (Finmap.lookup_empty k)

/-- The table after a run is what its log makes of the empty table. -/
theorem run_requestLog
    (h : (machine L E).run (start setup) es = some s) :
    s.man.RecordsKept ∧ Slots.machine.run Slots.Table.empty
      (requestLog L E (start setup) es) =
        some s.man.table := by
  have hr := (correlation L E).run h start_recordsKept
  exact ⟨hr.1, start_table setup ▸ hr.2⟩

/-! ## The assertion -/

/-- The assertion fails where the record under the packet's id was answered. -/
theorem handlesReply_assert_iff {man : PhyDeviceManager} {reqId : UInt8} {reply : Reply}
    {o : Outcome} (h : man.HandlesReply reqId reply o) :
    o.fault = some .assertIsWaiting ↔ ∃ r, man.table reqId = .answered r := by
  simp only [PhyDeviceManager.table_eq_answered_iff]
  cases h with
  | unexpected found _ _ fault_eq => simp [found, fault_eq]
  | repeated data found waiting _ _ fault_eq => simp [found, fault_eq, waiting]
  | tooLong data found waiting _ _ fault_eq => simp [found, fault_eq, waiting]
  | answered data found waiting _ _ fault_eq => simp [found, fault_eq, waiting]

/-- After any run, a packet keeps the assertion exactly when it is no reply to a
request that was answered before and whose answer was not collected since. -/
theorem assert_holds_iff
    (h : (machine L E).run (start setup) es = some s)
    (srcPhy : FarAddr) (log : LogicalPacket) (size : UInt16) :
    (s.man.handlePacket L srcPhy log size).fault ≠ some .assertIsWaiting ↔
      ∀ reqId reply, log.reply L size = some (reqId, reply) →
        ¬ Slots.Answered reqId (requestLog L E (start setup) es) := by
  cases hr : log.reply L size with
  | none => simp [(PhyDeviceManager.handlePacket_no_reply hr).2]
  | some p =>
      obtain ⟨reqId, reply⟩ := p
      rw [Ne, handlesReply_assert_iff (PhyDeviceManager.handlePacket_reply hr),
        (Slots.slot_of_run reqId (run_requestLog h).2).2]
      simp

/-! ## A run that uses up all ids

One fetch from a device, its reply, and then so many requests without a status
that the id of the fetch is drawn next. -/

/-- A manager without callbacks. -/
def quiet : Setup := ⟨1, none, none⟩

/-- Some environment. -/
def anyEnv : Ambient := ⟨0, .other 9, ⟨.other 0, .other 0⟩⟩

/-- An `ACTION_RESPONSE` to the request 0, in an unreliable envelope. -/
def replyTo0 : LogicalPacket := ⟨Memory.ofList [1, 10, 0, 1, 0, 5, 0, 0, 42], 1⟩

/-- A fetch and its reply. -/
def answered : List Event :=
  [.fetchActionAsync anyEnv 2 10 (.id 3) [], .packet 2 replyTo0 9]

/-- A fetch, its reply, and 255 requests without a status. -/
def wrapped : List Event :=
  answered ++ List.replicate 255 (.executeActionAsync anyEnv 2 10 (.id 3) [] false)

/-- The system after the fetch. -/
def fetchedSys : Sys :=
  (start quiet).called ((start quiet).man.fetchActionAsync anyEnv 2 10 3 [])

/-- The system after the fetch and its reply. -/
def answeredSys : Sys := fetchedSys.after (fetchedSys.man.handlePacket .packed 2 replyTo0 9)

/-- A second reply to a request that nobody collects ends the process. -/
theorem second_reply_aborts :
    (machine .packed (.stored ..)).run (start quiet) answered = some answeredSys ∧
      (answeredSys.man.handlePacket .packed 2 replyTo0 9).fault = some .assertIsWaiting :=
  ⟨rfl, rfl⟩

/-- The first reply keeps the assertion: its request was not answered before. -/
theorem first_reply_holds :
    (fetchedSys.man.handlePacket .packed 2 replyTo0 9).fault ≠ some .assertIsWaiting ∧
      ¬ Slots.Answered 0 (requestLog .packed (.stored ..) (start quiet)
        [.fetchActionAsync anyEnv 2 10 (.id 3) []]) := by
  have hrun : (machine .packed (.stored ..)).run (start quiet)
      [.fetchActionAsync anyEnv 2 10 (.id 3) []] = some fetchedSys := rfl
  have hfault : (fetchedSys.man.handlePacket .packed 2 replyTo0 9).fault ≠
      some .assertIsWaiting := by decide
  exact ⟨hfault, (assert_holds_iff hrun 2 replyTo0 9).mp hfault 0 _ rfl⟩

/-- Requests that ask for no status use up ids and change no table. -/
theorem run_executes (n : Nat) (s : Sys) (hf : s.fault = none) (env : Ambient) (addr : FarAddr)
    (port actionId : UInt16) (buffer : List UInt8) :
    ∃ trace, (machine L E).run s
      (List.replicate n (.executeActionAsync env addr port (.id actionId) buffer false)) =
        some { s with
          man := { s.man with
            actionResponsesCounter := s.man.actionResponsesCounter + UInt8.ofNat n }
          trace := trace } := by
  induction n generalizing s with
  | zero => exact ⟨s.trace, by simp⟩
  | succ n ih =>
      have hstep : (machine L E).step s
          (.executeActionAsync env addr port (.id actionId) buffer false) =
            some (s.called (s.man.executeActionAsync env addr port actionId buffer false)) := by
        simp [machine, step, hf, next]
      obtain ⟨trace, ih⟩ := ih
        (s.called (s.man.executeActionAsync env addr port actionId buffer false)) hf
      have hc : s.man.actionResponsesCounter + 1 + UInt8.ofNat n =
          s.man.actionResponsesCounter + UInt8.ofNat (n + 1) := by
        rw [UInt8.ofNat_add, UInt8.add_assoc, UInt8.add_comm 1]
        rfl
      refine ⟨trace, ?_⟩
      rw [List.replicate_succ, Machine.run_cons, hstep, Option.bind_some, ih, ← hc]
      rfl

/-- The system after all of it: the record of the fetch is still there, and its id
is the next one. -/
def wrappedSys (trace : List Effect) : Sys :=
  { answeredSys with
    man := { answeredSys.man with actionResponsesCounter := 0 }
    trace := trace }

theorem run_wrapped :
    ∃ trace, (machine .packed E).run (start quiet) wrapped = some (wrappedSys trace) := by
  have hs : (machine .packed E).run (start quiet) answered = some answeredSys := rfl
  obtain ⟨trace, h⟩ := run_executes (L := .packed) (E := E) 255 answeredSys rfl anyEnv 2 10 3 []
  exact ⟨trace, Machine.run_trans hs h⟩

/-! ## Own records -/

end Sys

/-- The record under a request id is one for this type and destination, with the
id of its own, and waits. -/
def PhyDeviceManager.OwnRecord (man : PhyDeviceManager) (reqId : UInt8)
    (type : ActionResponseType) (addr : FarAddr) (port : UInt16) : Prop :=
  ∃ data, man.actionResponses.lookup reqId = some data ∧ data.reqId = reqId.toUInt32 ∧
    data.type = type ∧ data.srcPhy = addr ∧ data.srcPort = port ∧ data.isWaiting = true

/-- A call leaves its own record under the id it returns, and sends one packet, to
its destination, with that id. -/
def Called.Installs (c : Called UInt8) (type : ActionResponseType) (addr : FarAddr)
    (port : UInt16) : Prop :=
  c.man.OwnRecord c.value type addr port ∧
    ∃ packet, c.effects = [.send packet] ∧ packet.dest = ⟨addr, port⟩ ∧
      packet.body.requestId = some c.value

/-- The slot of the next request id is free, or holds a record that waits and is of
this type and destination. -/
def PhyDeviceManager.SlotFits (man : PhyDeviceManager) (type : ActionResponseType)
    (addr : FarAddr) (port : UInt16) : Prop :=
  ∀ data, man.actionResponses.lookup man.actionResponsesCounter = some data →
    data.isWaiting = true ∧ data.type = type ∧ data.srcPhy = addr ∧ data.srcPort = port

namespace Sys

theorem install_ownRecord_iff {man : PhyDeviceManager} (hk : man.RecordsKept) (env : Ambient)
    (addr : FarAddr) (port : UInt16) (type : ActionResponseType) :
    (man.bump.install env addr port man.actionResponsesCounter type).OwnRecord
      man.actionResponsesCounter type addr port ↔ man.SlotFits type addr port := by
  unfold PhyDeviceManager.OwnRecord PhyDeviceManager.SlotFits PhyDeviceManager.install
    PhyDeviceManager.bump
  simp only [UMap.lookup_emplace_self]
  cases found : man.actionResponses.lookup man.actionResponsesCounter with
  | none => simp [ActionResponse.make]
  | some data =>
      have := (hk _ data found).1
      simp only [Option.getD_some, Option.some.injEq, forall_eq']
      constructor
      · rintro ⟨d, rfl, -, ht, ha, hp, hw⟩
        exact ⟨hw, ht, ha, hp⟩
      · rintro ⟨hw, ht, ha, hp⟩
        exact ⟨data, rfl, this, ht, ha, hp, hw⟩

/-- After any run, a request by action id installs a record of its own exactly when
the slot of its id is free or holds a waiting record of the same type and
destination. -/
theorem installs_iff (h : (machine L E).run (start setup) es = some s) (env : Ambient)
    (addr : FarAddr) (port actionId : UInt16) (buffer : List UInt8) :
    ((s.man.fetchActionAsync env addr port actionId buffer).Installs .fetch addr port ↔
      s.man.SlotFits .fetch addr port) ∧
    ((s.man.executeActionAsync env addr port actionId buffer true).Installs .execute addr port ↔
      s.man.SlotFits .execute addr port) := by
  have hk := (run_requestLog h).1
  constructor
  · rw [← install_ownRecord_iff hk env]
    exact and_iff_left ⟨_, rfl, rfl, rfl⟩
  · rw [← install_ownRecord_iff hk env]
    exact and_iff_left ⟨_, rfl, rfl, rfl⟩

/-- A fetch whose id comes up again finds the record of the earlier one, and leaves
it. -/
theorem wrapped_keeps_record :
    ∃ s, (machine .packed (.stored ..)).run (start quiet) wrapped = some s ∧
      ¬ (s.man.fetchActionAsync anyEnv 3 20 3 []).Installs .fetch 3 20 := by
  obtain ⟨trace, hrun⟩ := run_wrapped (E := .stored ..)
  refine ⟨_, hrun, ?_⟩
  rintro ⟨⟨data, hdata, -, -, haddr, -⟩, -⟩
  cases hdata
  cases haddr

/-- A second fetch installs its own record, though that of the first is still there. -/
theorem second_installs :
    (answeredSys.man.fetchActionAsync anyEnv 3 20 3 []).Installs .fetch 3 20 := by
  have hrun : (machine .packed (.stored ..)).run (start quiet) answered = some answeredSys := rfl
  have fits : answeredSys.man.SlotFits .fetch 3 20 := by
    intro data found
    cases found
  exact (installs_iff hrun anyEnv 3 20 3 []).1.mpr fits

/-! ## Fresh results -/

/-- One of the events is a packet that says this about the request. -/
def ReplyIn (L : PacketLayout) (es : List Event) (reqId : UInt8) (r : Result) : Prop :=
  ∃ srcPhy log size reply, Event.packet srcPhy log size ∈ es ∧
    log.reply L size = some (reqId, reply) ∧ reply.result = r

/-- What the record says was carried by a packet after the event, and the record is one
that the event or a later one asked for under this id. -/
structure AnsweredSince (L : PacketLayout) (E : Enumeration Nat DeviceApiAction) (s : Sys)
    (e : Event) (es : List Event) (reqId : UInt8) (r : ActionResponse) : Prop where
  carried : ReplyIn L es reqId r.result
  asked : ∃ q ∈ (machine L E).outputs (requests E) s (e :: es), q.reqId = reqId ∧ q.Owns r

end Sys

/-- What a call that waited returned is a timeout, or what such a record says. -/
def Returned.Tells (P : ActionResponse → Prop) : Returned → Prop
  | .status st => st = .timeout ∨ ∃ r, P r ∧ r.status = st
  | .response result => ∀ r, result = some r → P r

theorem Returned.Tells.imp {P Q : ActionResponse → Prop} {v : Returned} (h : v.Tells P)
    (himp : ∀ r, P r → Q r) : v.Tells Q := by
  cases v with
  | status st => exact Or.imp_right (fun ⟨r, hr, eq⟩ => ⟨r, himp r hr, eq⟩) h
  | response result => exact fun r eq => himp r (h r eq)

/-- A call returns what it has collected. -/
theorem SyncCall.value_tells {P : ActionResponse → Prop} {c : SyncCall}
    (h : ∀ r, c.result = some r → P r) : c.value.Tells P := by
  cases kind : c.kind with
  | fetch =>
      rw [value, kind]
      exact h
  | execute =>
      rw [value, kind]
      cases result : c.result with
      | none => exact Or.inl (by rw [status, result])
      | some r => exact Or.inr ⟨r, h r result, by rw [status, result]⟩

namespace Sys

theorem ReplyIn.mono {es fs : List Event} {reqId : UInt8} {r : Result}
    (h : ReplyIn L es reqId r) (hsub : es ⊆ fs) : ReplyIn L fs reqId r := by
  obtain ⟨srcPhy, log, size, reply, hmem, hr⟩ := h
  exact ⟨srcPhy, log, size, reply, hsub hmem, hr⟩

/-- One more event takes nothing back. -/
theorem AnsweredSince.snoc {s t : Sys} {e : Event} {es : List Event} {reqId : UInt8}
    {r : ActionResponse} (h : AnsweredSince L E s e es reqId r)
    (hrun : (machine L E).run s (e :: es) = some t) (f : Event) :
    AnsweredSince L E s e (es ++ [f]) reqId r := by
  obtain ⟨q, hq, owned⟩ := h.asked
  refine ⟨h.carried.mono (List.subset_append_left ..), q, ?_, owned⟩
  rw [← List.cons_append, Machine.outputs_append hrun]
  exact List.mem_append_left _ hq

/-- A synchronous call that waits drew the next id and has no result yet. -/
theorem polling_of_call {call : SyncCall} (hcall : e.isSyncCall = true)
    (h : s.next L E e = some s') (hc : s'.calls.lookup s.nextCall = some (.polling call)) :
    call.reqId = s.man.actionResponsesCounter ∧ call.result = none ∧
      s'.nextCall = s.nextCall + 1 := by
  cases e with
  | executeAction env startTime addr port action buffer requireStatus =>
      cases action with
      | id actionId =>
          cases h
          rw [opened_calls, Finmap.lookup_insert] at hc
          cases requireStatus with
          | false => cases hc
          | true => cases hc; exact ⟨rfl, rfl, rfl⟩
      | name name =>
          cases h
          rw [opened_calls, Finmap.lookup_insert, PhyDeviceManager.executeActionByName] at hc
          split at hc
          · cases hc
          · cases requireStatus with
            | false => cases hc
            | true => cases hc; exact ⟨rfl, rfl, rfl⟩
  | fetchAction env startTime addr port action buffer =>
      cases action with
      | id actionId =>
          cases h
          rw [opened_calls, Finmap.lookup_insert] at hc
          cases hc
          exact ⟨rfl, rfl, rfl⟩
      | name name =>
          cases h
          rw [opened_calls, Finmap.lookup_insert, PhyDeviceManager.fetchActionByName] at hc
          split at hc
          · cases hc
          · cases hc; exact ⟨rfl, rfl, rfl⟩
  | _ => cases hcall

/-- A record after the event is one of a request made, before it or by it. -/
theorem Acts.record_owned {made : List Request} {k : UInt8} {o : Outcome}
    (acts : Acts L E s e o)
    (owned : ∀ data, s.man.actionResponses.lookup k = some data →
      ∃ q ∈ made, q.reqId = k ∧ q.Owns data) {data : ActionResponse}
    (found : o.man.actionResponses.lookup k = some data) :
    ∃ q ∈ made ++ s.requests E e, q.reqId = k ∧ q.Owns data := by
  have before : ∀ {data}, s.man.actionResponses.lookup k = some data →
      ∃ q ∈ made ++ s.requests E e, q.reqId = k ∧ q.Owns data := by
    intro data found
    obtain ⟨q, hq, own⟩ := owned data found
    exact ⟨q, List.mem_append_left _ hq, own⟩
  cases acts with
  | packet srcPhy log size event =>
      cases hr : log.reply L size with
      | none => exact before ((PhyDeviceManager.handlePacket_no_reply hr).1 ▸ found)
      | some p =>
          obtain ⟨reqId, reply⟩ := p
          have handles : PhyDeviceManager.HandlesReply s.man reqId reply
            (s.man.handlePacket L srcPhy log size) := PhyDeviceManager.handlePacket_reply hr
          cases handles with
          | unexpected _ man_eq => exact before (man_eq ▸ found)
          | repeated _ _ _ man_eq => exact before (man_eq ▸ found)
          | tooLong old hold waiting man_eq | answered old hold waiting man_eq =>
              rw [man_eq, PhyDeviceManager.setResponse] at found
              by_cases hk : k = reqId
              · subst hk
                rw [Finmap.lookup_insert] at found
                cases found
                obtain ⟨q, hq, id, owns⟩ := before hold
                exact ⟨q, hq, id, owns.reqId, owns.type, owns.srcPhy, owns.srcPort, owns.timeSent⟩
              · rw [Finmap.lookup_insert_of_ne _ hk] at found
                exact before found
  | asks env addr port type packet ops drawn =>
      rcases UMap.lookup_emplace_some found with found | ⟨rfl, rfl⟩
      · exact before found
      · rw [drawn]
        exact ⟨_, List.mem_append_right _ (List.mem_singleton_self _), rfl, rfl, rfl, rfl, rfl, rfl⟩
  | collects reqId received man' r ops drawn _ eq =>
      obtain ⟨old, -, -, rfl, -⟩ := PhyDeviceManager.collect_eq_some eq
      by_cases hk : k = reqId
      · rw [hk, Finmap.lookup_erase] at found
        cases found
      · rw [Finmap.lookup_erase_ne hk] at found
        exact before found
  | subscribes args action actionId dev event =>
      have subscribes := PhyDeviceManager.subscribeAction_subscribes s.man.bumpSubscription
        (args.data s.man.subscriptionCounter actionId)
      exact before (subscribes.actionResponses.1 ▸ found)
  | readyMade data event =>
      exact before
        ((PhyDeviceManager.subscribeAction_subscribes s.man data).actionResponses.1 ▸ found)
  | counts | misses | nothing | returns | countsSubscription => exact before found

end Sys

end KhawasuPc
