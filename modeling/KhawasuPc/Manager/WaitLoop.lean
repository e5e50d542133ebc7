import KhawasuPc.Manager.Cleanup
import KhawasuPc.Manager.Sender

/-!
# The two wait loops

`execute_action` and `fetch_action` wait in loops of the same shape, which go on under
different conditions: one until its status is no `TIMEOUT`, the other until it has a
result.  `Called.await` runs either to its end over a schedule: between two rounds packets
arrive, and the clock is read.  `await_run` is the link to the runs of a system.

`await_stopsAtFirst_iff` compares the two loops over one schedule with one reply.  The loop
of `fetch_action` always ends at the first round that sees the reply.  That of
`execute_action` does unless the device says `TIMEOUT` itself and there is time left.  Where
no round sees the reply before the deadline, they make as many rounds.
-/

namespace KhawasuPc

open Lib

variable {L : PacketLayout} {E : Enumeration Nat DeviceApiAction}

/-! ## Schedules -/

/-- A packet that arrives. -/
structure Arrival where
  srcPhy : FarAddr
  log : LogicalPacket
  size : UInt16

/-- What happens from one round of a wait loop to the next: packets arrive, then the clock
reads `now` in the condition and `received` in the body. -/
structure Tick where
  arrivals : List Arrival
  now : UInt64
  received : UInt64

/-- The arrival as an event of a system. -/
def Arrival.event (a : Arrival) : Event := .packet a.srcPhy a.log a.size

/-- The events of a round of the loop of the `n`-th call. -/
def Tick.events (n : Nat) (t : Tick) : List Event :=
  t.arrivals.map Arrival.event ++ [.poll n t.now t.received]

/-- The manager after the packets, unless one of them ends the process. -/
def PhyDeviceManager.receive (L : PacketLayout) (man : PhyDeviceManager) :
    List Arrival → Option PhyDeviceManager
  | [] => some man
  | a :: as =>
      let o := man.handlePacket L a.srcPhy a.log a.size
      match o.fault with
      | none => o.man.receive L as
      | some _ => none

/-- What a synchronous call did in the end. -/
structure Waited where
  /-- How often it looked for its answer. -/
  rounds : Nat
  man : PhyDeviceManager
  value : Returned

/-- The same after some more rounds. -/
def Waited.after (k : Nat) (w : Waited) : Waited := { w with rounds := w.rounds + k }

theorem Waited.map_after_zero (o : Option Waited) : o.map (Waited.after 0) = o := by
  cases o <;> rfl

theorem Waited.map_after_after (o : Option Waited) (j k : Nat) :
    (o.map (Waited.after j)).map (Waited.after k) = o.map (Waited.after (j + k)) := by
  cases o with
  | none => rfl
  | some w =>
      show some (Waited.after k (Waited.after j w)) = some (Waited.after (j + k) w)
      rw [after, after, after, Nat.add_assoc]

/-- The wait loop of a synchronous call. -/
def SyncCall.wait (L : PacketLayout) (call : SyncCall) (man : PhyDeviceManager) :
    List Tick → Option Waited
  | [] => none
  | t :: ts =>
      match man.receive L t.arrivals with
      | none => none
      | some man =>
          let round := call.poll man t.now t.received
          match round.value with
          | .polling call => (call.wait L round.man ts).map (Waited.after 1)
          | .returned value => some ⟨0, round.man, value⟩

/-- A synchronous call from beginning to end. -/
def Called.await (L : PacketLayout) (c : Called Sync) (ts : List Tick) : Option Waited :=
  match c.value with
  | .polling call => call.wait L c.man ts
  | .returned value => some ⟨0, c.man, value⟩

/-! ## Schedules and runs -/

namespace Sys

variable {s : Sys} {n : Nat} {call : SyncCall}

/-- Packets that end nothing are a run. -/
theorem run_receive {man : PhyDeviceManager} {as : List Arrival} (alive : s.fault = none)
    (h : s.man.receive L as = some man) :
    ∃ s', (machine L E).run s (as.map Arrival.event) = some s' ∧ s'.man = man ∧
      s'.calls = s.calls ∧ s'.fault = none := by
  induction as generalizing s with
  | nil => cases h; exact ⟨s, rfl, rfl, rfl, alive⟩
  | cons a as ih =>
      rw [PhyDeviceManager.receive] at h
      cases fault : (s.man.handlePacket L a.srcPhy a.log a.size).fault with
      | some f => rw [fault] at h; cases h
      | none =>
          rw [fault] at h
          have hstep : (machine L E).step s a.event =
              some (s.after (s.man.handlePacket L a.srcPhy a.log a.size)) := by
            show s.step L E a.event = _
            rw [step, alive]
            rfl
          obtain ⟨s', hrun, man_eq, calls_eq, quiet⟩ :=
            ih (s := s.after (s.man.handlePacket L a.srcPhy a.log a.size)) fault h
          refine ⟨s', ?_, man_eq, calls_eq, quiet⟩
          rw [List.map_cons, Machine.run_cons, hstep]
          exact hrun

/-- A call that returns over a schedule does so in a run of the system: after the rounds it
makes and the one that ends the loop. -/
theorem await_run {ts : List Tick} {w : Waited} (alive : s.fault = none)
    (waits : s.calls.lookup n = some (.polling call)) (h : call.wait L s.man ts = some w) :
    ∃ s', (machine L E).run s ((ts.take (w.rounds + 1)).flatMap (Tick.events n)) = some s' ∧
      s'.man = w.man ∧ s'.calls.lookup n = some (.returned w.value) ∧ s'.fault = none := by
  induction ts generalizing s call w with
  | nil => cases h
  | cons t ts ih =>
      rw [SyncCall.wait] at h
      cases received : s.man.receive L t.arrivals with
      | none => rw [received] at h; cases h
      | some man =>
          rw [received] at h
          dsimp only at h
          obtain ⟨u, hu, rfl, calls_eq, quiet⟩ := run_receive (E := E) alive received
          have found : u.calls.lookup n = some (.polling call) := by rw [calls_eq, waits]
          have hstep : (machine L E).run u [.poll n t.now t.received] =
              some (u.polled n (call.poll u.man t.now t.received)) := by
            rw [Machine.run_cons]
            show (u.step L E (.poll n t.now t.received)).bind _ = _
            rw [step, quiet]
            dsimp only
            rw [next, found]
            rfl
          have hround := Machine.run_trans hu hstep
          cases value : (call.poll u.man t.now t.received).value with
          | returned v =>
              rw [value] at h
              cases h
              refine ⟨u.polled n (call.poll u.man t.now t.received), ?_, rfl, ?_, quiet⟩
              · rw [List.take_one, List.head?_cons]
                simpa [Tick.events] using hround
              · rw [polled_calls, Finmap.lookup_insert, value]
          | polling call' =>
              rw [value] at h
              obtain ⟨w', hrest, rfl⟩ := Option.map_eq_some_iff.mp h
              have waits' : (u.polled n (call.poll u.man t.now t.received)).calls.lookup n =
                  some (.polling call') := by
                rw [polled_calls, Finmap.lookup_insert, value]
              obtain ⟨s', hrun, man_eq, value_eq, quiet'⟩ :=
                ih (s := u.polled n (call.poll u.man t.now t.received)) quiet waits' hrest
              refine ⟨s', ?_, man_eq, value_eq, quiet'⟩
              show (machine L E).run s (((t :: ts).take (w'.rounds + 1 + 1)).flatMap _) = _
              rw [List.take_succ_cons, List.flatMap_cons]
              exact Machine.run_trans hround hrun

end Sys

/-! ## Packets beside the record -/

/-- The payload of a reply has a size a vector can have. -/
def LogicalPacket.Fits (L : PacketLayout) (log : LogicalPacket) (size : UInt16) : Prop :=
  log.type L = .actionResponse → ¬ vectorMaxSize < payloadSize size L.sizeActionResponse

/-- The packet is a reply to the request. -/
def Arrival.repliesTo (L : PacketLayout) (id : UInt8) (a : Arrival) : Prop :=
  ∃ reply, a.log.reply L a.size = some (id, reply)

namespace PhyDeviceManager

variable {man man' : PhyDeviceManager} {id : UInt8} {data : ActionResponse} {srcPhy : FarAddr}
  {log : LogicalPacket} {size : UInt16}

theorem lookup_setResponse (man : PhyDeviceManager) (id : UInt8) (data : ActionResponse) :
    (man.setResponse id data).actionResponses.lookup id = some data :=
  Finmap.lookup_insert ..

theorem setResponse_setResponse (man : PhyDeviceManager) (id : UInt8)
    (data data' : ActionResponse) :
    (man.setResponse id data).setResponse id data' = man.setResponse id data' := by
  rw [setResponse, setResponse, Finmap.insert_insert, setResponse]

/-- A manager is what it is without a record, and the record. -/
theorem setResponse_forget (found : man.actionResponses.lookup id = some data) :
    (man.forget id).setResponse id data = man := by
  have same : (man.actionResponses.erase id).insert id data = man.actionResponses := by
    refine Finmap.ext_lookup fun k => ?_
    by_cases hk : k = id
    · rw [hk, Finmap.lookup_insert, found]
    · rw [Finmap.lookup_insert_of_ne _ hk, Finmap.lookup_erase_ne hk]
  rw [setResponse, forget, same]

theorem forget_of_lookup (free : man.actionResponses.lookup id = none) : man.forget id = man := by
  rw [forget, UMap.erase_of_lookup free]

/-- A packet that is no reply to a request leaves its record alone. -/
theorem handlePacket_lookup (other : ∀ reply, log.reply L size ≠ some (id, reply)) :
    (man.handlePacket L srcPhy log size).man.actionResponses.lookup id =
      man.actionResponses.lookup id := by
  cases hr : log.reply L size with
  | none => rw [(handlePacket_no_reply hr).1]
  | some p =>
      have hne : id ≠ p.1 := by
        rintro rfl
        exact other p.2 hr
      exact (handlePacket_reply hr).lookup_ne hne

/-- A packet that is no reply to a request does the same beside its record as without. -/
theorem handlePacket_beside (data : ActionResponse) (srcPhy : FarAddr)
    (free : man.actionResponses.lookup id = none)
    (other : ∀ reply, log.reply L size ≠ some (id, reply)) :
    ((man.setResponse id data).handlePacket L srcPhy log size).man =
        (man.handlePacket L srcPhy log size).man.setResponse id data ∧
      ((man.setResponse id data).handlePacket L srcPhy log size).fault =
        (man.handlePacket L srcPhy log size).fault := by
  have spec := handlePacket_spec L man srcPhy log size
  have spec' := handlePacket_spec L (man.setResponse id data) srcPhy log size
  have without : ((man.setResponse id data).forget id).bodyOf L srcPhy log size (log.type L) =
      ((man.setResponse id data).bodyOf L srcPhy log size (log.type L)).mapMan (·.forget id) :=
    bodyOf_forget other
  rw [forget_setResponse, forget_of_lookup free] at without
  have stays : ((man.setResponse id data).handlePacket L srcPhy log size).man.actionResponses.lookup
      id = some data := (handlePacket_lookup other).trans (lookup_setResponse man id data)
  constructor
  · rw [← setResponse_forget stays, spec.man, spec'.man, without]
    rfl
  · rw [spec.fault, spec'.fault, without]
    rfl

/-- The vector for a payload that fits is made. -/
theorem handlePacket_fits {reply : Reply} (hreply : log.reply L size = some (id, reply))
    (fits : log.Fits L size) : (man.handlePacket L srcPhy log size).fault ≠ some .lengthError := by
  rw [(handlePacket_spec L man srcPhy log size).fault]
  rw [LogicalPacket.reply] at hreply
  cases type : log.type L with
  | actionExecuteResult =>
      rw [bodyOf, handleExecuteResult]
      cases man.actionResponses.lookup (log.executeResultRequestId L) with
      | none => simp
      | some data => cases waiting : data.isWaiting <;> simp [waiting]
  | actionResponse =>
      rw [bodyOf, handleResponse]
      cases man.actionResponses.lookup (log.responseRequestId L) with
      | none => simp
      | some data => cases waiting : data.isWaiting <;> simp [waiting, fits type]
  | _ => rw [type] at hreply; cases hreply

/-- A reply to a request that waits is stored in its record. -/
theorem handlePacket_answer (man : PhyDeviceManager) (srcPhy : FarAddr) {reply : Reply}
    (hreply : log.reply L size = some (id, reply))
    (fits : log.Fits L size) (waiting : data.isWaiting = true) :
    ((man.setResponse id data).handlePacket L srcPhy log size).man =
        man.setResponse id (data.answer reply) ∧
      ((man.setResponse id data).handlePacket L srcPhy log size).fault = none := by
  have handled : (man.setResponse id data).HandlesReply id reply
      ((man.setResponse id data).handlePacket L srcPhy log size) := handlePacket_reply hreply
  have found := lookup_setResponse man id data
  cases handled with
  | unexpected found' => rw [found] at found'; cases found'
  | repeated data' found' waiting' =>
      cases found.symm.trans found'
      rw [waiting] at waiting'
      cases waiting'
  | tooLong _ _ _ _ _ fault_eq => exact absurd fault_eq (handlePacket_fits hreply fits)
  | answered data' found' waiting' man_eq effects_eq fault_eq =>
      cases found.symm.trans found'
      exact ⟨man_eq.trans (setResponse_setResponse ..), fault_eq⟩

theorem receive_append (man : PhyDeviceManager) (as bs : List Arrival) :
    man.receive L (as ++ bs) = (man.receive L as).bind fun man => man.receive L bs := by
  induction as generalizing man with
  | nil => rfl
  | cons a as ih =>
      rw [List.cons_append, receive, receive]
      cases (man.handlePacket L a.srcPhy a.log a.size).fault with
      | none => exact ih _
      | some f => rfl

/-- Packets that are no replies to a request do the same beside its record as without. -/
theorem receive_beside (data : ActionResponse) {as : List Arrival}
    (free : man.actionResponses.lookup id = none)
    (others : ∀ a ∈ as, ¬ a.repliesTo L id) (h : man.receive L as = some man') :
    (man.setResponse id data).receive L as = some (man'.setResponse id data) ∧
      man'.actionResponses.lookup id = none := by
  induction as generalizing man with
  | nil => cases h; exact ⟨rfl, free⟩
  | cons a as ih =>
      have other : ∀ reply, a.log.reply L a.size ≠ some (id, reply) :=
        fun reply hr => others a (List.mem_cons_self ..) ⟨reply, hr⟩
      obtain ⟨man_eq, fault_eq⟩ := handlePacket_beside data a.srcPhy free other
      rw [receive] at h ⊢
      cases fault : (man.handlePacket L a.srcPhy a.log a.size).fault with
      | some f => rw [fault] at h; cases h
      | none =>
          rw [fault] at h fault_eq
          rw [fault_eq, man_eq]
          exact ih ((handlePacket_lookup other).trans free)
            (fun b hb => others b (List.mem_cons_of_mem _ hb)) h

/-- One reply among the packets answers the request. -/
theorem receive_answer {pre post : List Arrival} {a : Arrival} {reply : Reply}
    {man'' : PhyDeviceManager} (free : man.actionResponses.lookup id = none)
    (single : ∀ b ∈ pre ++ post, ¬ b.repliesTo L id)
    (hreply : a.log.reply L a.size = some (id, reply)) (fits : a.log.Fits L a.size)
    (waiting : data.isWaiting = true) (hpre : man.receive L pre = some man')
    (hpost : man'.receive L post = some man'') :
    (man.setResponse id data).receive L (pre ++ a :: post) =
      some (man''.setResponse id (data.answer reply)) ∧ man''.actionResponses.lookup id = none := by
  obtain ⟨before, free'⟩ := receive_beside data free
    (fun b hb => single b (List.mem_append_left _ hb)) hpre
  obtain ⟨behind, free''⟩ := receive_beside (data.answer reply) free'
    (fun b hb => single b (List.mem_append_right _ hb)) hpost
  obtain ⟨man_eq, fault_eq⟩ := handlePacket_answer man' a.srcPhy hreply fits waiting
  refine ⟨?_, free''⟩
  rw [receive_append, before, Option.bind_some, receive, fault_eq]
  dsimp only
  rw [man_eq, behind]

end PhyDeviceManager

/-! ## Rounds -/

namespace SyncCall

variable {call : SyncCall} {man man' : PhyDeviceManager} {data : ActionResponse}
  {now received : UInt64} {ts : List Tick} {t : Tick}

/-- While there is no result both loops look at the deadline alone. -/
theorem goesOn_of_none (h : call.result = none) :
    call.goesOn now = decide (now - call.startTime < PhyDeviceManager.responseTimeout) := by
  rw [goesOn, status, h]
  cases call.kind <;> rfl

theorem poll_waiting (go : call.goesOn now = true)
    (found : man.actionResponses.lookup call.reqId = some data) (waiting : data.isWaiting = true) :
    call.poll man now received = ⟨man, [], .polling call⟩ := by
  rw [poll, go, PhyDeviceManager.collect, found]
  simp [waiting]

theorem poll_answered (go : call.goesOn now = true)
    (free : man.actionResponses.lookup call.reqId = none) (answered : data.isWaiting = false) :
    call.poll (man.setResponse call.reqId data) now received =
      ⟨man, [], .polling { call with result := some { data with timeReceived := received } }⟩ := by
  have erased : { man.setResponse call.reqId data with
      actionResponses := (man.setResponse call.reqId data).actionResponses.erase call.reqId } =
        man :=
    (man.forget_setResponse call.reqId data).trans (PhyDeviceManager.forget_of_lookup free)
  rw [poll, go, PhyDeviceManager.collect, PhyDeviceManager.lookup_setResponse]
  simp only [answered, Bool.false_eq_true, ↓reduceIte]
  rw [erased]

/-- A round that finds the record waiting changes nothing. -/
theorem wait_waiting (received : man.receive L t.arrivals = some man')
    (go : call.goesOn t.now = true)
    (found : man'.actionResponses.lookup call.reqId = some data) (waiting : data.isWaiting = true) :
    call.wait L man (t :: ts) = (call.wait L man' ts).map (Waited.after 1) := by
  rw [wait, received]
  dsimp only
  rw [poll_waiting go found waiting]

/-- The rounds before the reply. -/
theorem wait_before {before : List Tick} (ts : List Tick) (fresh : call.result = none)
    (waiting : data.isWaiting = true) (free : man.actionResponses.lookup call.reqId = none)
    (early : ∀ t ∈ before, t.now - call.startTime < PhyDeviceManager.responseTimeout)
    (others : ∀ a ∈ before.flatMap Tick.arrivals, ¬ a.repliesTo L call.reqId)
    (h : man.receive L (before.flatMap Tick.arrivals) = some man') :
    call.wait L (man.setResponse call.reqId data) (before ++ ts) =
        (call.wait L (man'.setResponse call.reqId data) ts).map (Waited.after before.length) ∧
      man'.actionResponses.lookup call.reqId = none := by
  induction before generalizing man with
  | nil =>
      cases h
      exact ⟨(Waited.map_after_zero _).symm, free⟩
  | cons t before ih =>
      rw [List.flatMap_cons, PhyDeviceManager.receive_append] at h
      obtain ⟨m, hm, h⟩ := Option.bind_eq_some_iff.mp h
      obtain ⟨here, free'⟩ := PhyDeviceManager.receive_beside data free
        (fun a ha => others a (List.mem_append_left _ ha)) hm
      have go : call.goesOn t.now = true := by
        rw [goesOn_of_none fresh, decide_eq_true_eq]
        exact early t (List.mem_cons_self ..)
      obtain ⟨rest, free''⟩ := ih free' (fun t ht => early t (List.mem_cons_of_mem _ ht))
        (fun a ha => others a (List.mem_append_right _ ha)) h
      refine ⟨?_, free''⟩
      rw [List.cons_append,
        wait_waiting here go (PhyDeviceManager.lookup_setResponse ..) waiting, rest,
        Waited.map_after_after, List.length_cons]

/-- The round that finds the record answered takes it, and leaves the manager without it. -/
theorem wait_answered
    (received : man.receive L t.arrivals = some (man'.setResponse call.reqId data))
    (go : call.goesOn t.now = true) (free : man'.actionResponses.lookup call.reqId = none)
    (answered : data.isWaiting = false) :
    call.wait L man (t :: ts) =
      (wait L { call with result := some { data with timeReceived := t.received } } man' ts).map
        (Waited.after 1) := by
  rw [wait, received]
  dsimp only
  rw [poll_answered go free answered]

/-- A loop that does not go on returns. -/
theorem wait_returns (received : man.receive L t.arrivals = some man')
    (stop : call.goesOn t.now = false) :
    call.wait L man (t :: ts) = some ⟨0, man', call.value⟩ := by
  rw [wait, received]
  dsimp only
  rw [poll, stop]
  rfl

/-- A loop that goes on makes another round. -/
theorem wait_goesOn (ts : List Tick) (received : man.receive L t.arrivals = some man')
    (go : call.goesOn t.now = true) :
    ∃ o : Option Waited, call.wait L man (t :: ts) = o.map (Waited.after 1) := by
  have polls := call.poll_polls man' t.now t.received
  rw [wait, received]
  dsimp only
  generalize call.poll man' t.now t.received = round at polls
  cases polls with
  | returns stop => rw [go] at stop; cases stop
  | waits => exact ⟨_, rfl⟩
  | collects => exact ⟨_, rfl⟩

end SyncCall

/-! ## The two loops -/

/-- A schedule for a request with a free id: the rounds `before` and the round `t₀` come
before the deadline, one reply arrives, before the round `t₀`, and the other packets up to
the round `t₁` make `man'` of the manager without the call. -/
structure OneReply (L : PacketLayout) (man : PhyDeviceManager) (startTime : UInt64)
    (before : List Tick) (t₀ t₁ : Tick) (reply : Reply) (man' : PhyDeviceManager) : Prop where
  free : man.actionResponses.lookup man.actionResponsesCounter = none
  early : ∀ t ∈ before, t.now - startTime < PhyDeviceManager.responseTimeout
  inTime : t₀.now - startTime < PhyDeviceManager.responseTimeout
  arrives : ∃ pre a post, t₀.arrivals = pre ++ a :: post ∧
    a.log.reply L a.size = some (man.actionResponsesCounter, reply) ∧ a.log.Fits L a.size ∧
    (∀ b ∈ before.flatMap Tick.arrivals ++ (pre ++ post) ++ t₁.arrivals,
      ¬ b.repliesTo L man.actionResponsesCounter) ∧
    man.bump.receive L (before.flatMap Tick.arrivals ++ (pre ++ post) ++ t₁.arrivals) = some man'

variable {man man' : PhyDeviceManager} {startTime : UInt64} {before : List Tick} {t₀ t₁ : Tick}
  {reply : Reply} {data : ActionResponse}

/-- Both loops see the reply in the round `t₀`, and take the record. -/
theorem OneReply.wait (h : OneReply L man startTime before t₀ t₁ reply man')
    (waiting : data.isWaiting = true) (kind : SyncKind) (ts : List Tick) :
    ∃ m, m.receive L t₁.arrivals = some man' ∧
      SyncCall.wait L ⟨kind, man.actionResponsesCounter, startTime, none⟩
          (man.bump.setResponse man.actionResponsesCounter data) (before ++ t₀ :: ts) =
        (SyncCall.wait L ⟨kind, man.actionResponsesCounter, startTime,
            some { data.answer reply with timeReceived := t₀.received }⟩ m ts).map
          (Waited.after (before.length + 1)) := by
  obtain ⟨pre, a, post, arrivals, hreply, fits, others, received⟩ := h.arrives
  rw [PhyDeviceManager.receive_append, PhyDeviceManager.receive_append] at received
  obtain ⟨m, received, last⟩ := Option.bind_eq_some_iff.mp received
  obtain ⟨m₀, first, received⟩ := Option.bind_eq_some_iff.mp received
  rw [PhyDeviceManager.receive_append] at received
  obtain ⟨m₁, hpre, hpost⟩ := Option.bind_eq_some_iff.mp received
  refine ⟨m, last, ?_⟩
  have free : man.bump.actionResponses.lookup man.actionResponsesCounter = none := h.free
  let call : SyncCall := ⟨kind, man.actionResponsesCounter, startTime, none⟩
  have fresh : call.result = none := rfl
  obtain ⟨early, free₀⟩ := call.wait_before (t₀ :: ts) fresh waiting free h.early
    (fun b hb => others b (List.mem_append_left _ (List.mem_append_left _ hb))) first
  obtain ⟨answered, free₂⟩ := PhyDeviceManager.receive_answer free₀
    (fun b hb => others b (List.mem_append_left _ (List.mem_append_right _ hb))) hreply fits
    waiting hpre hpost
  rw [← arrivals] at answered
  have go : SyncCall.goesOn ⟨kind, man.actionResponsesCounter, startTime, none⟩ t₀.now = true := by
    rw [SyncCall.goesOn_of_none rfl, decide_eq_true_eq]
    exact h.inTime
  rw [early, SyncCall.wait_answered answered go free₂ rfl, Waited.map_after_after, Nat.add_comm]

/-- The copy of its record a call gets: with what the reply says, and when it was taken. -/
def PhyDeviceManager.recordCopy (man : PhyDeviceManager) (env : Ambient) (addr : FarAddr)
    (port : UInt16) (type : ActionResponseType) (reply : Reply) (received : UInt64) :
    ActionResponse :=
  { (ActionResponse.make man.actionResponsesCounter.toUInt32 type addr port env.now
      env.rawStatus).answer reply with timeReceived := received }

/-- Either function, up to the round after the one that sees the reply. -/
theorem OneReply.await (h : OneReply L man startTime before t₀ t₁ reply man') {c : Called Sync}
    {env : Ambient} {addr : FarAddr} {port : UInt16} {type : ActionResponseType} {kind : SyncKind}
    (man_eq : c.man = man.bump.install env addr port man.actionResponsesCounter type)
    (value_eq : c.value = .polling ⟨kind, man.actionResponsesCounter, startTime, none⟩)
    (ts : List Tick) :
    ∃ m, m.receive L t₁.arrivals = some man' ∧
      c.await L (before ++ t₀ :: ts) =
        (SyncCall.wait L ⟨kind, man.actionResponsesCounter, startTime,
            some (man.recordCopy env addr port type reply t₀.received)⟩ m ts).map
          (Waited.after (before.length + 1)) := by
  have free : man.bump.actionResponses.lookup man.actionResponsesCounter = none := h.free
  rw [PhyDeviceManager.install_of_lookup free] at man_eq
  rw [Called.await, man_eq, value_eq]
  exact h.wait rfl kind ts

variable {env : Ambient} {addr : FarAddr} {port : UInt16}

/-- The loop of `fetch_action` ends at the first round that sees the reply. -/
theorem OneReply.fetchAction (h : OneReply L man startTime before t₀ t₁ reply man')
    (actionId : UInt16) (buffer : List UInt8) (after : List Tick) :
    (man.fetchAction env addr port startTime actionId buffer).await L
        (before ++ t₀ :: t₁ :: after) =
      some ⟨before.length + 1, man',
        .response (some (man.recordCopy env addr port .fetch reply t₀.received))⟩ := by
  obtain ⟨m, last, waited⟩ := h.await
    (c := man.fetchAction env addr port startTime actionId buffer) rfl rfl (t₁ :: after)
  rw [waited, SyncCall.wait_returns last rfl, Option.map_some, Waited.after, Nat.zero_add]
  rfl

/-- The loop of `execute_action` ends there too, if its condition lets it. -/
theorem OneReply.executeAction (h : OneReply L man startTime before t₀ t₁ reply man')
    (actionId : UInt16) (buffer : List UInt8) (after : List Tick)
    (stops : reply.status ≠ .timeout ∨ ¬ t₁.now - startTime < PhyDeviceManager.responseTimeout) :
    (man.executeAction env addr port startTime actionId buffer true).await L
        (before ++ t₀ :: t₁ :: after) =
      some ⟨before.length + 1, man', .status reply.status⟩ := by
  obtain ⟨m, last, waited⟩ := h.await
    (c := man.executeAction env addr port startTime actionId buffer true) rfl rfl (t₁ :: after)
  have stop : SyncCall.goesOn ⟨.execute, man.actionResponsesCounter, startTime,
      some (man.recordCopy env addr port .execute reply t₀.received)⟩ t₁.now = false := by
    show (reply.status == .timeout && decide (t₁.now - startTime < _)) = false
    rcases stops with stops | stops
    · rw [beq_eq_false_iff_ne.mpr stops, Bool.false_and]
    · rw [decide_eq_false stops, Bool.and_false]
  rw [waited, SyncCall.wait_returns last stop, Option.map_some, Waited.after, Nat.zero_add]
  rfl

/-- Otherwise it goes on, and makes more rounds or does not return. -/
theorem OneReply.executeAction_goesOn (h : OneReply L man startTime before t₀ t₁ reply man')
    (actionId : UInt16) (buffer : List UInt8) (after : List Tick) (said : reply.status = .timeout)
    (left : t₁.now - startTime < PhyDeviceManager.responseTimeout) :
    ((man.executeAction env addr port startTime actionId buffer true).await L
        (before ++ t₀ :: t₁ :: after)).map Waited.rounds ≠ some (before.length + 1) := by
  obtain ⟨m, last, waited⟩ := h.await
    (c := man.executeAction env addr port startTime actionId buffer true) rfl rfl (t₁ :: after)
  have go : SyncCall.goesOn ⟨.execute, man.actionResponsesCounter, startTime,
      some (man.recordCopy env addr port .execute reply t₀.received)⟩ t₁.now = true := by
    show (reply.status == .timeout && decide (t₁.now - startTime < _)) = true
    rw [said, decide_eq_true left]
    rfl
  obtain ⟨o, more⟩ := SyncCall.wait_goesOn after last go
  rw [waited, more, Waited.map_after_after]
  cases o with
  | none => intro same; cases same
  | some w =>
      intro same
      have count : w.rounds + (1 + (before.length + 1)) = before.length + 1 :=
        Option.some.inj same
      omega

/-- A schedule for a request with a free id over which no round sees a reply: the rounds
`before` come before the deadline and no reply arrives for them, and the round `t₁` comes
after it.  The reply may arrive for that one. -/
structure Unseen (L : PacketLayout) (man : PhyDeviceManager) (startTime : UInt64)
    (before : List Tick) (t₁ : Tick) (man' : PhyDeviceManager) : Prop where
  free : man.actionResponses.lookup man.actionResponsesCounter = none
  early : ∀ t ∈ before, t.now - startTime < PhyDeviceManager.responseTimeout
  late : ¬ t₁.now - startTime < PhyDeviceManager.responseTimeout
  others : ∀ b ∈ before.flatMap Tick.arrivals, ¬ b.repliesTo L man.actionResponsesCounter
  received : man.bump.receive L (before.flatMap Tick.arrivals) = some man'
  last : ((∀ b ∈ t₁.arrivals, ¬ b.repliesTo L man.actionResponsesCounter) ∧
      (man'.receive L t₁.arrivals).isSome) ∨
    ∃ pre a post reply, t₁.arrivals = pre ++ a :: post ∧
      a.log.reply L a.size = some (man.actionResponsesCounter, reply) ∧ a.log.Fits L a.size ∧
      (∀ b ∈ pre ++ post, ¬ b.repliesTo L man.actionResponsesCounter) ∧
      (man'.receive L (pre ++ post)).isSome

/-- The packets of the last round end nothing beside the record either. -/
theorem Unseen.receive (h : Unseen L man startTime before t₁ man') (waiting : data.isWaiting = true)
    (free : man'.actionResponses.lookup man.actionResponsesCounter = none) :
    ∃ m, (man'.setResponse man.actionResponsesCounter data).receive L t₁.arrivals = some m := by
  rcases h.last with ⟨others, ends⟩ |
    ⟨pre, a, post, reply, arrivals, hreply, fits, others, ends⟩
  · obtain ⟨m, received⟩ := Option.isSome_iff_exists.mp ends
    exact ⟨_, (PhyDeviceManager.receive_beside data free others received).1⟩
  · obtain ⟨m, received⟩ := Option.isSome_iff_exists.mp ends
    rw [PhyDeviceManager.receive_append] at received
    obtain ⟨m₁, hpre, hpost⟩ := Option.bind_eq_some_iff.mp received
    rw [arrivals]
    exact ⟨_, (PhyDeviceManager.receive_answer free others hreply fits waiting hpre hpost).1⟩

/-- Either function makes the rounds before the deadline. -/
theorem Unseen.await (h : Unseen L man startTime before t₁ man') {c : Called Sync}
    {env : Ambient} {addr : FarAddr} {port : UInt16} {type : ActionResponseType} {kind : SyncKind}
    (man_eq : c.man = man.bump.install env addr port man.actionResponsesCounter type)
    (value_eq : c.value = .polling ⟨kind, man.actionResponsesCounter, startTime, none⟩)
    (after : List Tick) :
    (c.await L (before ++ t₁ :: after)).map Waited.rounds = some before.length := by
  have free : man.bump.actionResponses.lookup man.actionResponsesCounter = none := h.free
  let call : SyncCall := ⟨kind, man.actionResponsesCounter, startTime, none⟩
  let data := ActionResponse.make man.actionResponsesCounter.toUInt32 type addr port env.now
    env.rawStatus
  have fresh : call.result = none := rfl
  have waiting : data.isWaiting = true := rfl
  obtain ⟨early, free'⟩ :=
    call.wait_before (t₁ :: after) fresh waiting free h.early h.others h.received
  obtain ⟨m, received⟩ := h.receive waiting free'
  have stop : call.goesOn t₁.now = false := by
    rw [SyncCall.goesOn_of_none fresh, decide_eq_false_iff_not]
    exact h.late
  rw [PhyDeviceManager.install_of_lookup free] at man_eq
  rw [Called.await, man_eq, value_eq]
  dsimp only
  rw [early, SyncCall.wait_returns received stop, Option.map_some, Option.map_some, Waited.after,
    Nat.zero_add]

/-- Over a schedule with one reply the loop of `fetch_action` ends at the first round that
sees it.  That of `execute_action` does, and makes as many rounds, exactly if the device
did not say `TIMEOUT` or there is no time left.  Over a schedule in which no round sees the
reply before the deadline, both make as many rounds. -/
theorem await_stopsAtFirst_iff (man : PhyDeviceManager) (startTime : UInt64) (env : Ambient)
    (addr : FarAddr) (port actionId : UInt16) (buffer : List UInt8) :
    let executed := (man.executeAction env addr port startTime actionId buffer true).await L
    let fetched := (man.fetchAction env addr port startTime actionId buffer).await L
    (∀ before t₀ t₁ reply man' after, OneReply L man startTime before t₀ t₁ reply man' →
      let ticks := before ++ t₀ :: t₁ :: after
      fetched ticks = some ⟨before.length + 1, man',
          .response (some (man.recordCopy env addr port .fetch reply t₀.received))⟩ ∧
        (executed ticks = some ⟨before.length + 1, man', .status reply.status⟩ ∧
            (executed ticks).map Waited.rounds = (fetched ticks).map Waited.rounds ↔
          reply.status ≠ .timeout ∨ ¬ t₁.now - startTime < PhyDeviceManager.responseTimeout)) ∧
      ∀ before t₁ man' after, Unseen L man startTime before t₁ man' →
        (executed (before ++ t₁ :: after)).map Waited.rounds =
          (fetched (before ++ t₁ :: after)).map Waited.rounds := by
  dsimp only
  refine ⟨fun before t₀ t₁ reply man' after h => ?_, fun before t₁ man' after h => ?_⟩
  · refine ⟨h.fetchAction actionId buffer after, ?_⟩
    rw [h.fetchAction]
    constructor
    · rintro ⟨-, same⟩
      by_contra goesOn
      rw [not_or, not_not, not_not] at goesOn
      exact h.executeAction_goesOn actionId buffer after goesOn.1 goesOn.2 same
    · intro stops
      rw [h.executeAction actionId buffer after stops]
      exact ⟨rfl, rfl⟩
  · rw [h.await (c := man.executeAction env addr port startTime actionId buffer true) rfl rfl,
      h.await (c := man.fetchAction env addr port startTime actionId buffer) rfl rfl]

/-! ### A device that says `TIMEOUT` -/

/-- The manager before the calls. -/
def quietMan : PhyDeviceManager := (Sys.start Sys.quiet).man

/-- An `ACTION_EXECUTE_RESULT` to the request 0 with the status `TIMEOUT`. -/
def timeoutReply : LogicalPacket := ⟨Memory.ofList [1, 10, 0, 1, 0, 3, 0, 1], 1⟩

/-- A round before the reply, and the reply before the next one. -/
theorem oneReply_answered :
    OneReply .packed quietMan 0 [⟨[], 0, 0⟩] ⟨[⟨2, Sys.replyTo0, 9⟩], 1, 2⟩ ⟨[], 3, 4⟩
      ⟨.unknown, some [42, 0, 0, 0, 0]⟩ quietMan.bump where
  free := rfl
  early t ht := by
    rw [List.mem_singleton] at ht
    rw [ht]
    decide
  inTime := by decide
  arrives :=
    ⟨[], ⟨2, Sys.replyTo0, 9⟩, [], rfl, rfl, fun _ => by decide, (by intro b hb; cases hb), rfl⟩

/-- Two rounds, and the reply after the deadline. -/
theorem unseen_reply :
    Unseen .packed quietMan 0 [⟨[], 0, 0⟩, ⟨[], 1, 0⟩] ⟨[⟨2, Sys.replyTo0, 9⟩], 5000000, 0⟩
      quietMan.bump where
  free := rfl
  early t ht := by
    rcases List.mem_pair.mp ht with rfl | rfl <;> decide
  late := by decide
  others b hb := by cases hb
  received := rfl
  last := Or.inr ⟨[], ⟨2, Sys.replyTo0, 9⟩, [], _, rfl, rfl, fun _ => by decide,
    (by intro b hb; cases hb), rfl⟩

/-- Both loops end at the round that sees a reply with another status, and at the deadline
where none does. -/
theorem answered_stopsAtFirst :
    let executed := (quietMan.executeAction Sys.anyEnv 2 10 0 3 [] true).await .packed
    let fetched := (quietMan.fetchAction Sys.anyEnv 2 10 0 3 []).await .packed
    let seen : List Tick := [⟨[], 0, 0⟩, ⟨[⟨2, Sys.replyTo0, 9⟩], 1, 2⟩, ⟨[], 3, 4⟩]
    let unseen : List Tick := [⟨[], 0, 0⟩, ⟨[], 1, 0⟩, ⟨[⟨2, Sys.replyTo0, 9⟩], 5000000, 0⟩]
    fetched seen = some ⟨2, quietMan.bump, .response (some (quietMan.recordCopy Sys.anyEnv 2 10
        .fetch ⟨.unknown, some [42, 0, 0, 0, 0]⟩ 2))⟩ ∧
      executed seen = some ⟨2, quietMan.bump, .status .unknown⟩ ∧
      (executed unseen).map Waited.rounds = (fetched unseen).map Waited.rounds := by
  obtain ⟨stops, late⟩ :=
    await_stopsAtFirst_iff (L := .packed) quietMan 0 Sys.anyEnv 2 10 3 []
  obtain ⟨fetched, executed⟩ := stops _ _ _ _ _ [] oneReply_answered
  exact ⟨fetched, (executed.mpr (Or.inl nofun)).1, late _ _ _ [] unseen_reply⟩

/-- A device says `TIMEOUT` at once: one loop ends, and the other waits for the deadline. -/
theorem timeout_goesOn :
    let ticks : List Tick := [⟨[⟨2, timeoutReply, 8⟩], 0, 1⟩, ⟨[], 2, 3⟩, ⟨[], 5000000, 0⟩]
    let executed := (quietMan.executeAction Sys.anyEnv 2 10 0 3 [] true).await .packed ticks
    let fetched := (quietMan.fetchAction Sys.anyEnv 2 10 0 3 []).await .packed ticks
    executed.map (fun w => (w.rounds, w.value)) = some (2, .status .timeout) ∧
      fetched.map Waited.rounds = some 1 :=
  ⟨rfl, rfl⟩

end KhawasuPc
