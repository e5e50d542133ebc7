import KhawasuPc.Manager.Emitted
import KhawasuPc.Manager.RequestIds

/-!
# Where results come from

What a client is told of a request, by `action_callback` or by a call that waits, is a record
that a packet answered, or one made up on the spot for a name that is not known (`MadeUp`).
`Backed P` says so of a property `P` of records: it holds of what calls collect, and of what is
told, once it holds of every record at the moment it is answered (`Backed.step`,
`Backed.reports`).

`step_sends` is about the other end: a request that draws an id sends one packet, which carries
the id, the destination and the kind of the request.
-/

namespace KhawasuPc

open Lib

variable {L : PacketLayout} {E : Enumeration Nat DeviceApiAction} {setup : Setup} {s s' : Sys}
  {e : Event} {es : List Event} {P : ActionResponse → Prop} {n : Nat}

namespace Sys

open PhyDeviceManager

/-! ## Synchronous calls -/

/-- Where a synchronous call stands after an event. -/
inductive StandsAfter (s : Sys) (e : Event) (n : Nat) : Sync → Prop
  | before {sync : Sync} (found : s.calls.lookup n = some sync) : StandsAfter s e n sync
  | made {c : SyncCall} (new : n = s.nextCall) (hcall : e.isSyncCall = true)
      (id : c.reqId = s.man.actionResponsesCounter) (fresh : c.result = none) :
      StandsAfter s e n (.polling c)
  /-- It was made and returned at once. -/
  | refused {v : Returned} (new : n = s.nextCall) : StandsAfter s e n (.returned v)
  | collected {c : SyncCall} {received : UInt64} {man' : PhyDeviceManager} {r : ActionResponse}
      (found : s.calls.lookup n = some (.polling c))
      (eq : s.man.collect c.reqId received = some (man', r)) :
      StandsAfter s e n (.polling { c with result := some r })
  | ended {c : SyncCall} (found : s.calls.lookup n = some (.polling c)) :
      StandsAfter s e n (.returned c.value)

/-- A call that is made waits with the next id, or has returned. -/
theorem executeAction_standsAfter (hcall : e.isSyncCall = true) (s : Sys) (env : Ambient)
    (addr : FarAddr) (port : UInt16) (startTime : UInt64) (actionId : UInt16)
    (buffer : List UInt8) (requireStatus : Bool) :
    StandsAfter s e s.nextCall
      (s.man.executeAction env addr port startTime actionId buffer requireStatus).value := by
  cases requireStatus with
  | false => exact .refused rfl
  | true => exact .made rfl hcall rfl rfl

theorem next_standsAfter {sync : Sync} (h : s.next L E e = some s')
    (found : s'.calls.lookup n = some sync) : StandsAfter s e n sync := by
  have opened : ∀ c : Called Sync, s' = s.opened c → StandsAfter s e s.nextCall c.value →
      StandsAfter s e n sync := by
    rintro c rfl stands
    rw [opened_calls] at found
    by_cases hn : n = s.nextCall
    · rw [hn, Finmap.lookup_insert] at found
      cases found
      exact hn ▸ stands
    · rw [Finmap.lookup_insert_of_ne _ hn] at found
      exact .before found
  cases e with
  | packet | subscribeActionData => cases h; exact .before found
  | executeActionAsync _ _ _ action | fetchActionAsync _ _ _ action | subscribeAction _ action =>
      cases action <;> cases h <;> exact .before found
  | executeAction env startTime addr port action buffer requireStatus =>
      cases action with
      | id actionId => exact opened _ (Option.some.inj h).symm (executeAction_standsAfter rfl ..)
      | name name =>
          refine opened _ (Option.some.inj h).symm ?_
          unfold executeActionByName
          split
          · exact .refused rfl
          · exact executeAction_standsAfter rfl ..
  | fetchAction env startTime addr port action buffer =>
      cases action with
      | id actionId => exact opened _ (Option.some.inj h).symm (.made rfl rfl rfl rfl)
      | name name =>
          refine opened _ (Option.some.inj h).symm ?_
          unfold fetchActionByName
          split
          · exact .refused rfl
          · exact .made rfl rfl rfl rfl
  | poll call now received =>
      obtain ⟨c, hc, rfl⟩ := next_poll h
      rw [polled_calls] at found
      by_cases hn : n = call
      · subst hn
        rw [Finmap.lookup_insert, Option.some.injEq] at found
        have polls := c.poll_polls s.man now received
        generalize c.poll s.man now received = called at polls found
        cases polls with
        | returns stop => cases found; exact .ended hc
        | waits go none_found => cases found; exact .before hc
        | collects received' man' r go has eq => cases found; exact .collected hc eq
      · rw [Finmap.lookup_insert_of_ne _ hn] at found
        exact .before found

end Sys

/-! ## What clients are told -/

/-- The call waits under the id, and what it has collected or returned is such a record. -/
def Sync.Tells (P : ActionResponse → Prop) (id : UInt8) : Sync → Prop
  | .polling c => c.reqId = id ∧ ∀ r, c.result = some r → P r
  | .returned v => v.Tells P

namespace Sys

open PhyDeviceManager

/-- The event asks to execute an action by a name that is not known, and this is the record that
is made up for it.  No packet is sent. -/
structure MadeUp (E : Enumeration Nat DeviceApiAction) (s : Sys) (e : Event)
    (r : ActionResponse) : Prop where
  asks : ∃ env name buffer requireStatus,
    e = .executeActionAsync env r.srcPhy r.srcPort (.name name) buffer requireStatus ∧
      s.man.lookupAction E r.srcPhy r.srcPort name = none
  reqId : r.reqId = s.man.actionResponsesCounter.toUInt32
  type : r.type = .execute
  status : r.status = .unknown
  payload : r.payload = []

/-- What was answered has the property, and so has what calls have collected. -/
structure Backed (P : ActionResponse → Prop) (s : Sys) : Prop where
  table : ∀ k data, s.man.actionResponses.lookup k = some data → data.isWaiting = false → P data
  waiting : ∀ n c r, s.calls.lookup n = some (.polling c) → c.result = some r → P r

/-- Where the event is a reply to a record that waits, the record it makes has the property. -/
def Answers (L : PacketLayout) (P : ActionResponse → Prop) (s : Sys) : Event → Prop
  | .packet _ log size => ∀ reqId reply data, log.reply L size = some (reqId, reply) →
      s.man.actionResponses.lookup reqId = some data → data.isWaiting = true →
        P (data.answer reply)
  | _ => True

/-- A packet that answers no request reports none. -/
theorem handlePacket_quiet {man : PhyDeviceManager} {srcPhy : FarAddr} {log : LogicalPacket}
    {size : UInt16} (h : log.reply L size = none) :
    reportsOf (man.handlePacket L srcPhy log size).effects = [] := by
  rw [(handlePacket_spec L man srcPhy log size).effects]
  have handled := bodyOf_handled L man srcPhy log size
  generalize man.bodyOf L srcPhy log size (log.type L) = o at handled
  cases handled with
  | hello sender =>
      rw [handleHello_effects]
      cases man.lookupLog srcPhy (log.srcAddr L) <;> cases man.newDeviceCallback <;> rfl
  | reply _ reqId reply silent answers => rw [h] at answers; cases answers
  | done _ type silent handles =>
      cases handles with
      | unexpected _ _ effects_eq => rw [effects_eq]; rfl
      | finished _ _ _ _ effects_eq => rw [effects_eq, reportsOf_callDone]
      | renewed _ _ _ again _ effects_eq =>
          rw [effects_eq, reportsOf_append, reportsOf_callDone, again.reports]
          rfl
  | callback _ type silent handles =>
      cases handles with
      | unexpected _ _ effects_eq => rw [effects_eq]; rfl
      | faults _ _ effects_eq => rw [effects_eq]; rfl
      | reported _ _ _ _ _ effects_eq => rw [effects_eq]; rfl
  | other silent => rfl

theorem mem_reportsOf_callAction {man : PhyDeviceManager} {r : ActionResponse}
    {response : Option ActionResponse} (h : some r ∈ reportsOf (man.callAction response)) :
    response = some r := by
  rw [reportsOf_callAction] at h
  cases set : man.actionCallback with
  | none => rw [set] at h; cases h
  | some callback =>
      rw [set, Option.map_some, Option.toList_some, List.mem_singleton] at h
      exact h.symm

/-- An unknown action is reported as such. -/
theorem executeActionAsyncByName_reports {env : Ambient} {addr : FarAddr} {port : UInt16}
    {name : CString} {buffer : List UInt8} {requireStatus : Bool} {r : ActionResponse}
    (h : some r ∈ reportsOf
      (s.man.executeActionAsyncByName env addr port E name buffer requireStatus).effects) :
    MadeUp E s (.executeActionAsync env addr port (.name name) buffer requireStatus) r := by
  unfold executeActionAsyncByName at h
  split at h
  next missing =>
    cases mem_reportsOf_callAction h
    exact ⟨⟨env, name, buffer, requireStatus, rfl, missing⟩, rfl, rfl, rfl, rfl⟩
  next => cases h

/-- What an event reports: an unknown action, what a call has collected, or a reply. -/
theorem next_reports {r : ActionResponse} (h : s.next L E e = some s')
    (told : some r ∈ reportsOf s'.trace) :
    some r ∈ reportsOf s.trace ∨ MadeUp E s e r ∨
      (∃ n c, s.calls.lookup n = some (.polling c) ∧ c.result = some r) ∨
      ∃ srcPhy log size reqId reply data, e = .packet srcPhy log size ∧
        log.reply L size = some (reqId, reply) ∧
        s.man.actionResponses.lookup reqId = some data ∧ data.isWaiting = true ∧
        r = data.answer reply := by
  have split : ∀ effects, s'.trace = s.trace ++ effects → some r ∈ reportsOf s.trace ∨
      some r ∈ reportsOf effects := by
    intro effects trace_eq
    rwa [trace_eq, reportsOf_append, List.mem_append] at told
  have quiet : ∀ effects, s'.trace = s.trace ++ effects → reportsOf effects = [] →
      some r ∈ reportsOf s.trace := by
    intro effects trace_eq none_reported
    rcases split effects trace_eq with before | now
    · exact before
    · rw [none_reported] at now
      cases now
  cases e with
  | packet srcPhy log size =>
      cases h
      rcases split _ rfl with before | now
      · exact Or.inl before
      cases hr : log.reply L size with
      | none => rw [handlePacket_quiet hr] at now; cases now
      | some p =>
          obtain ⟨reqId, reply⟩ := p
          have handles : HandlesReply s.man reqId reply (s.man.handlePacket L srcPhy log size) :=
            handlePacket_reply hr
          cases handles with
          | unexpected _ _ effects_eq => rw [effects_eq] at now; cases now
          | repeated _ _ _ _ effects_eq => rw [effects_eq] at now; cases now
          | tooLong _ _ _ _ effects_eq => rw [effects_eq] at now; cases now
          | answered data found waiting _ effects_eq =>
              rw [effects_eq] at now
              have eq := mem_reportsOf_callAction now
              exact Or.inr (Or.inr (Or.inr ⟨srcPhy, log, size, reqId, reply, data, rfl, hr, found,
                waiting, (Option.some.inj eq).symm⟩))
  | executeActionAsync env addr port action buffer requireStatus =>
      cases action with
      | id actionId => cases h; exact Or.inl (quiet _ rfl rfl)
      | name name =>
          cases h
          rcases split _ rfl with before | now
          · exact Or.inl before
          · exact Or.inr (Or.inl (executeActionAsyncByName_reports now))
  | fetchActionAsync env addr port action buffer =>
      cases action with
      | id actionId => cases h; exact Or.inl (quiet _ rfl rfl)
      | name name =>
          cases h
          refine Or.inl (quiet _ rfl ?_)
          unfold fetchActionAsyncByName
          split <;> rfl
  | executeAction env startTime addr port action buffer requireStatus =>
      cases action with
      | id actionId => cases h; exact Or.inl (quiet _ rfl rfl)
      | name name =>
          cases h
          refine Or.inl (quiet _ rfl ?_)
          unfold executeActionByName
          split <;> rfl
  | fetchAction env startTime addr port action buffer =>
      cases action with
      | id actionId => cases h; exact Or.inl (quiet _ rfl rfl)
      | name name =>
          cases h
          refine Or.inl (quiet _ rfl ?_)
          unfold fetchActionByName
          split <;> rfl
  | poll call now received =>
      obtain ⟨c, found, rfl⟩ := next_poll h
      have polls := c.poll_polls s.man now received
      generalize c.poll s.man now received = called at polls split quiet
      cases polls with
      | returns stop =>
          rcases split _ rfl with before | now
          · exact Or.inl before
          · exact Or.inr (Or.inr (Or.inl ⟨call, c, found, mem_reportsOf_callAction now⟩))
      | waits => exact Or.inl (quiet _ rfl rfl)
      | collects => exact Or.inl (quiet _ rfl rfl)
  | subscribeAction args action =>
      cases action with
      | id actionId =>
          cases h
          refine Or.inl (quiet _ rfl ?_)
          unfold subscribeActionById
          dsimp only
          split
          · rfl
          · exact (subscribeAction_subscribes _ _).reports
      | name name =>
          cases h
          refine Or.inl (quiet _ rfl ?_)
          unfold subscribeActionByName subscribeActionById
          dsimp only
          split
          · rfl
          · split
            · rfl
            · exact (subscribeAction_subscribes _ _).reports
  | subscribeActionData data =>
      cases h
      exact Or.inl (quiet _ rfl (subscribeAction_subscribes _ _).reports)

/-- A record that is answered was so before the event, or is answered by it. -/
theorem Acts.answered {o : Outcome} (acts : Acts L E s e o) (answers : s.Answers L P e)
    (table : ∀ k data, s.man.actionResponses.lookup k = some data → data.isWaiting = false →
      P data) {k : UInt8} {data : ActionResponse}
    (found : o.man.actionResponses.lookup k = some data) (answered : data.isWaiting = false) :
    P data := by
  have before : s.man.actionResponses.lookup k = some data → P data :=
    fun found => table k data found answered
  cases acts with
  | packet srcPhy log size event =>
      subst event
      cases hr : log.reply L size with
      | none => exact before ((handlePacket_no_reply hr).1 ▸ found)
      | some p =>
          obtain ⟨reqId, reply⟩ := p
          have handles : HandlesReply s.man reqId reply (s.man.handlePacket L srcPhy log size) :=
            handlePacket_reply hr
          cases handles with
          | unexpected _ man_eq => exact before (man_eq ▸ found)
          | repeated _ _ _ man_eq => exact before (man_eq ▸ found)
          | tooLong old hold waiting man_eq =>
              rw [man_eq, PhyDeviceManager.setResponse] at found
              by_cases hk : k = reqId
              · rw [hk, Finmap.lookup_insert] at found
                cases found
                rw [waiting] at answered
                cases answered
              · rw [Finmap.lookup_insert_of_ne _ hk] at found
                exact before found
          | answered old hold waiting man_eq =>
              rw [man_eq, PhyDeviceManager.setResponse] at found
              by_cases hk : k = reqId
              · rw [hk, Finmap.lookup_insert] at found
                cases found
                exact answers reqId reply old hr hold waiting
              · rw [Finmap.lookup_insert_of_ne _ hk] at found
                exact before found
  | asks env addr port type packet ops drawn =>
      rcases UMap.lookup_emplace_some found with found | ⟨-, rfl⟩
      · exact before found
      · cases answered
  | collects reqId received man' r ops drawn _ eq =>
      obtain ⟨old, -, -, rfl, -⟩ := collect_eq_some eq
      by_cases hk : k = reqId
      · rw [hk, Finmap.lookup_erase] at found
        cases found
      · rw [Finmap.lookup_erase_ne hk] at found
        exact before found
  | subscribes args action actionId dev event =>
      have subscribes := subscribeAction_subscribes s.man.bumpSubscription
        (args.data s.man.subscriptionCounter actionId)
      exact before (subscribes.actionResponses.1 ▸ found)
  | readyMade data event =>
      exact before ((subscribeAction_subscribes s.man data).actionResponses.1 ▸ found)
  | counts | misses | nothing | returns | countsSubscription => exact before found

/-- A property of every answer is one of everything told. -/
theorem Backed.step (h : Backed P s)
    (closed : ∀ r received, P r → P { r with timeReceived := received })
    (answers : s.Answers L P e) (hstep : s.step L E e = some s') : Backed P s' := by
  have hnext := (next_of_step hstep).2
  constructor
  · intro k data found answered
    obtain ⟨o, acts, leads⟩ := step_acts hstep
    exact acts.answered answers h.table (leads.man_eq ▸ found) answered
  · intro n c r found result
    cases next_standsAfter hnext found with
    | before found => exact h.waiting n c r found result
    | made new hcall id fresh => rw [fresh] at result; cases result
    | collected found' eq =>
        cases result
        obtain ⟨data, hdata, answered, -, rfl⟩ := collect_eq_some eq
        exact closed data _ (h.table _ data hdata answered)

/-- What is newly told has the property too, or is made up. -/
theorem Backed.reports (h : Backed P s) (answers : s.Answers L P e)
    (hstep : s.step L E e = some s') {r : ActionResponse} (new : some r ∉ reportsOf s.trace)
    (told : some r ∈ reportsOf s'.trace) : MadeUp E s e r ∨ P r := by
  rcases next_reports (next_of_step hstep).2 told with before | unknown | ⟨n, c, found, result⟩ |
    ⟨srcPhy, log, size, reqId, reply, data, rfl, hr, found, waiting, rfl⟩
  · exact absurd before new
  · exact Or.inl unknown
  · exact Or.inr (h.waiting n c r found result)
  · exact Or.inr (answers reqId reply data hr found waiting)

theorem Backed.start (P : ActionResponse → Prop) (setup : Setup) : Backed P (start setup) where
  table _ _ found := by cases found
  waiting _ _ _ found := by cases found

theorem Backed.imp {Q : ActionResponse → Prop} (h : Backed P s) (himp : ∀ r, P r → Q r) :
    Backed Q s where
  table k data found answered := himp data (h.table k data found answered)
  waiting n c r found result := himp r (h.waiting n c r found result)

/-! ## One call -/

/-- The call that is made next waits under the next id. -/
theorem tells_of_call {call : SyncCall} (hcall : e.isSyncCall = true)
    (h : s.next L E e = some s') (made : s'.calls.lookup s.nextCall = some (.polling call)) :
    Sync.Tells P s.man.actionResponsesCounter (.polling call) := by
  obtain ⟨id, fresh, -⟩ := polling_of_call hcall h made
  refine ⟨id, fun r result => ?_⟩
  rw [fresh] at result
  cases result

/-- What a call has collected or returned was answered under its id. -/
theorem next_tells {id : UInt8} (kept : s.man.RecordsKept)
    (table : ∀ k data, s.man.actionResponses.lookup k = some data → data.isWaiting = false →
      P data)
    (closed : ∀ r received, P r → P { r with timeReceived := received })
    (hnext : s.next L E e = some s') (old : n < s.nextCall)
    (h : ∀ sync, s.calls.lookup n = some sync →
      sync.Tells (fun r => P r ∧ r.reqId = id.toUInt32) id)
    {sync : Sync} (found : s'.calls.lookup n = some sync) :
    sync.Tells (fun r => P r ∧ r.reqId = id.toUInt32) id := by
  cases next_standsAfter hnext found with
  | before found => exact h sync found
  | made new => exact absurd new (Nat.ne_of_lt old)
  | refused new => exact absurd new (Nat.ne_of_lt old)
  | ended found' => exact SyncCall.value_tells (h _ found').2
  | collected found' eq =>
      obtain ⟨own, -⟩ := h _ found'
      refine ⟨own, fun r result => ?_⟩
      cases result
      obtain ⟨data, hdata, answered, -, rfl⟩ := collect_eq_some eq
      refine ⟨closed data _ (table _ data hdata answered), ?_⟩
      rw [← own]
      exact (kept _ data hdata).1

end Sys

theorem Sync.Tells.imp {P Q : ActionResponse → Prop} {id : UInt8} {sync : Sync}
    (h : sync.Tells P id) (himp : ∀ r, P r → Q r) : sync.Tells Q id := by
  cases sync with
  | polling c => exact ⟨h.1, fun r result => himp r (h.2 r result)⟩
  | returned v => exact Returned.Tells.imp h himp

/-! ## Requests and their packets -/

/-- The packet is the one of the request. -/
inductive Request.SentAs (q : Request) (packet : SentPacket) : Prop
  | execute (actionId : UInt16) (flags : ActionExecuteFlags) (payload : List UInt8)
      (type : q.type = .execute) (dest : packet.dest = ⟨q.addr, q.port⟩)
      (body : packet.body = .actionExecute q.reqId actionId flags payload)
  | fetch (actionId : UInt16) (payload : List UInt8) (type : q.type = .fetch)
      (dest : packet.dest = ⟨q.addr, q.port⟩)
      (body : packet.body = .actionFetch q.reqId actionId payload)

theorem Request.SentAs.requestId {q : Request} {packet : SentPacket} (h : q.SentAs packet) :
    packet.body.requestId = some q.reqId := by
  cases h with
  | execute _ _ _ _ _ body => rw [body]; rfl
  | fetch _ _ _ _ body => rw [body]; rfl

theorem Request.SentAs.dest {q : Request} {packet : SentPacket} (h : q.SentAs packet) :
    packet.dest = ⟨q.addr, q.port⟩ := by
  cases h with
  | execute _ _ _ _ dest => exact dest
  | fetch _ _ _ dest => exact dest

/-- The packets sent that carry a request id. -/
def requestPackets (effects : List Effect) : List SentPacket :=
  (effects.filterMap Effect.packet).filter fun packet => packet.body.requestId.isSome

theorem requestPackets_append (as bs : List Effect) :
    requestPackets (as ++ bs) = requestPackets as ++ requestPackets bs := by
  rw [requestPackets, List.filterMap_append, List.filter_append]
  rfl

theorem requestPackets_eq_nil {effects : List Effect}
    (h : ∀ packet, Effect.send packet ∈ effects → packet.body.requestId = none) :
    requestPackets effects = [] := by
  rw [requestPackets, List.filter_eq_nil_iff]
  intro packet hmem
  obtain ⟨effect, heffect, sends⟩ := List.mem_filterMap.mp hmem
  cases effect with
  | send other =>
      cases sends
      rw [h packet heffect]
      exact Bool.false_ne_true
  | newDevice | action | subscription | subscriptionDone | dispatch => cases sends

namespace Sys

open PhyDeviceManager

/-- The packets are those of the requests the event draws ids for. -/
def SendsFor (E : Enumeration Nat DeviceApiAction) (s : Sys) (e : Event)
    (packets : List SentPacket) : Prop :=
  packets = [] ∨ ∃ packet q, packets = [packet] ∧ s.requests E e = [q] ∧ q.SentAs packet

theorem callAction_sendsFor (response : Option ActionResponse) :
    SendsFor E s e (requestPackets (s.man.callAction response)) := by
  refine Or.inl (requestPackets_eq_nil fun packet hmem => ?_)
  unfold callAction at hmem
  split at hmem
  · cases hmem
  · cases List.mem_singleton.mp hmem

theorem subscribes_sendsFor {man : PhyDeviceManager} {data : ActionSubscriptionData} {o : Outcome}
    (h : Subscribes man data o) : SendsFor E s e (requestPackets o.effects) := by
  refine Or.inl (requestPackets_eq_nil fun packet hmem => ?_)
  cases h with
  | null | dangling => cases hmem
  | sends => cases List.mem_singleton.mp hmem; rfl

theorem executeActionAsync_sendsFor {env : Ambient} {addr : FarAddr} {port : UInt16}
    (actionId : UInt16) (buffer : List UInt8) (requireStatus : Bool)
    (drawn : s.requests E e = [s.man.request env addr port .execute]) :
    SendsFor E s e (requestPackets
      (s.man.executeActionAsync env addr port actionId buffer requireStatus).effects) :=
  Or.inr ⟨_, _, rfl, drawn, .execute _ _ _ rfl rfl rfl⟩

theorem fetchActionAsync_sendsFor {env : Ambient} {addr : FarAddr} {port : UInt16}
    (actionId : UInt16) (buffer : List UInt8)
    (drawn : s.requests E e = [s.man.request env addr port .fetch]) :
    SendsFor E s e (requestPackets
      (s.man.fetchActionAsync env addr port actionId buffer).effects) :=
  Or.inr ⟨_, _, rfl, drawn, .fetch _ _ rfl rfl rfl⟩

/-- An event sends one packet at most that carries a request id, for the request it draws the
id for. -/
theorem step_sends (h : s.step L E e = some s') :
    ∃ packets, requestPackets s'.trace = requestPackets s.trace ++ packets ∧
      SendsFor E s e packets := by
  have hnext := (next_of_step h).2
  have more : ∀ effects, s'.trace = s.trace ++ effects → SendsFor E s e (requestPackets effects) →
      ∃ packets, requestPackets s'.trace = requestPackets s.trace ++ packets ∧
        SendsFor E s e packets :=
    fun effects trace_eq sends => ⟨_, by rw [trace_eq, requestPackets_append], sends⟩
  cases e with
  | packet srcPhy log size =>
      cases hnext
      refine more _ rfl (Or.inl (requestPackets_eq_nil fun packet hmem => ?_))
      cases handlePacket_effect hmem
      rfl
  | executeActionAsync env addr port action buffer requireStatus =>
      cases action with
      | id actionId =>
          cases hnext
          exact more _ rfl (executeActionAsync_sendsFor actionId buffer requireStatus rfl)
      | name name =>
          cases hnext
          refine more _ rfl ?_
          unfold executeActionAsyncByName
          split
          · exact callAction_sendsFor _
          · exact executeActionAsync_sendsFor _ buffer requireStatus rfl
  | fetchActionAsync env addr port action buffer =>
      cases action with
      | id actionId =>
          cases hnext
          exact more _ rfl (fetchActionAsync_sendsFor actionId buffer rfl)
      | name name =>
          cases hnext
          refine more _ rfl ?_
          unfold fetchActionAsyncByName
          split
          next => exact Or.inl rfl
          next action found => exact fetchActionAsync_sendsFor _ buffer (by simp [requests, found])
  | executeAction env startTime addr port action buffer requireStatus =>
      cases action with
      | id actionId =>
          cases hnext
          exact more _ rfl (executeActionAsync_sendsFor actionId buffer requireStatus rfl)
      | name name =>
          cases hnext
          refine more _ rfl ?_
          unfold executeActionByName
          split
          next => exact Or.inl rfl
          next action found =>
            exact executeActionAsync_sendsFor _ buffer requireStatus (by simp [requests, found])
  | fetchAction env startTime addr port action buffer =>
      cases action with
      | id actionId =>
          cases hnext
          exact more _ rfl (fetchActionAsync_sendsFor actionId buffer rfl)
      | name name =>
          cases hnext
          refine more _ rfl ?_
          unfold fetchActionByName
          split
          next => exact Or.inl rfl
          next action found => exact fetchActionAsync_sendsFor _ buffer (by simp [requests, found])
  | poll call now received =>
      obtain ⟨c, found, rfl⟩ := next_poll hnext
      have polls := c.poll_polls s.man now received
      generalize c.poll s.man now received = called at polls more
      refine more _ rfl ?_
      cases polls with
      | returns stop => exact callAction_sendsFor _
      | waits | collects => exact Or.inl rfl
  | subscribeAction args action =>
      cases action with
      | id actionId =>
          cases hnext
          refine more _ rfl ?_
          unfold subscribeActionById
          dsimp only
          split
          · exact Or.inl rfl
          · exact subscribes_sendsFor (subscribeAction_subscribes _ _)
      | name name =>
          cases hnext
          refine more _ rfl ?_
          unfold subscribeActionByName subscribeActionById
          dsimp only
          split
          · exact Or.inl rfl
          · split
            · exact Or.inl rfl
            · exact subscribes_sendsFor (subscribeAction_subscribes _ _)
  | subscribeActionData data =>
      cases hnext
      exact more _ rfl (subscribes_sendsFor (subscribeAction_subscribes _ _))

/-- A call that waits has sent its packet, with the id it waits for. -/
theorem sends_of_call {call : SyncCall} (hcall : e.isSyncCall = true)
    (h : s.next L E e = some s') (made : s'.calls.lookup s.nextCall = some (.polling call)) :
    ∃ packet, requestPackets s'.trace = requestPackets s.trace ++ [packet] ∧
      packet.body.requestId = some s.man.actionResponsesCounter := by
  cases e with
  | executeAction env startTime addr port action buffer requireStatus =>
      cases action with
      | id actionId =>
          cases h
          exact ⟨_, requestPackets_append .., rfl⟩
      | name name =>
          cases h
          cases found : s.man.lookupAction E addr port name with
          | none =>
              rw [opened_calls, Finmap.lookup_insert, executeActionByName, found] at made
              cases made
          | some action =>
              have sent : (s.man.executeActionByName env addr port startTime E name buffer
                  requireStatus).effects = (s.man.executeAction env addr port startTime
                    (UInt16.ofNat action.1) buffer requireStatus).effects := by
                rw [executeActionByName, found]
              exact ⟨_, (requestPackets_append ..).trans
                (congrArg (fun effects => requestPackets s.trace ++ requestPackets effects) sent),
                rfl⟩
  | fetchAction env startTime addr port action buffer =>
      cases action with
      | id actionId =>
          cases h
          exact ⟨_, requestPackets_append .., rfl⟩
      | name name =>
          cases h
          cases found : s.man.lookupAction E addr port name with
          | none =>
              rw [opened_calls, Finmap.lookup_insert, fetchActionByName, found] at made
              cases made
          | some action =>
              have sent : (s.man.fetchActionByName env addr port startTime E name buffer).effects =
                  (s.man.fetchAction env addr port startTime (UInt16.ofNat action.1)
                    buffer).effects := by
                rw [fetchActionByName, found]
              exact ⟨_, (requestPackets_append ..).trans
                (congrArg (fun effects => requestPackets s.trace ++ requestPackets effects) sent),
                rfl⟩
  | _ => cases hcall

end Sys

end KhawasuPc
