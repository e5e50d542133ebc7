import KhawasuPc.Manager.Announcements
import KhawasuPc.Manager.Replies

/-!
# What `action_callback` is told

Three places call `action_callback`: the handler of a reply, the asynchronous
`execute_action_async` for an unknown name, and the end of each wait loop.  The first
two report a request once.  The third reports a result that the handler reported
when it came in, or a null pointer.  So requests are reported at most once in exactly
the runs in which no wait loop ends (`run_reportedOnce_iff`).

Two invariants carry this.  `Tracked`: a record that waits is one of a request made, and
was not reported.  `Heard`: a record that is answered was.
-/

namespace KhawasuPc

open Lib

variable {L : PacketLayout} {E : Enumeration Nat DeviceApiAction} {setup : Setup} {s s' : Sys}
  {e : Event} {es : List Event} {man : PhyDeviceManager} {o : Outcome}

/-- What `action_callback` was passed, in order. -/
def reportsOf (effects : List Effect) : List (Option ActionResponse) :=
  effects.filterMap fun
    | .action _ response => some response
    | _ => none

/-- The id a report names. -/
def reportId (response : Option ActionResponse) : Option UInt32 := response.map (·.reqId)

/-- The requests made along a run. -/
def Sys.requestsMade (L : PacketLayout) (E : Enumeration Nat DeviceApiAction) (setup : Setup)
    (es : List Event) : List Request :=
  (Sys.machine L E).outputs (Sys.requests E) (Sys.start setup) es

/-- Every report is a record of a request made, and no request is reported twice. -/
structure ReportedOnce (made : List Request) (effects : List Effect) : Prop where
  owned : ∀ response ∈ reportsOf effects, ∃ r q, response = some r ∧ q ∈ made ∧ q.Owns r
  once : ((reportsOf effects).map reportId).Nodup

/-- The event ends no wait loop whose end would be reported. -/
def Sys.WaitsOn (s : Sys) (e : Event) : Prop :=
  s.man.actionCallback = none ∨ ∀ call now received c, e = .poll call now received →
    s.calls.lookup call = some (.polling c) → c.goesOn now = true

/-! ## Reports of an event -/

theorem reportsOf_append (as bs : List Effect) :
    reportsOf (as ++ bs) = reportsOf as ++ reportsOf bs :=
  List.filterMap_append

theorem reportsOf_callAction (response : Option ActionResponse) :
    reportsOf (man.callAction response) = (man.actionCallback.map fun _ => response).toList := by
  unfold PhyDeviceManager.callAction
  cases man.actionCallback <;> rfl

theorem reportsOf_callDone (data : ActionSubscriptionData) :
    reportsOf (PhyDeviceManager.callDone data) = [] := by
  unfold PhyDeviceManager.callDone
  split <;> rfl

theorem PhyDeviceManager.Subscribes.reports {data : ActionSubscriptionData}
    (h : Subscribes man data o) : reportsOf o.effects = [] := by
  cases h <;> rfl

/-- A packet that answers no request reports none. -/
theorem PhyDeviceManager.Handled.reports {srcPhy : FarAddr} {log : LogicalPacket} {size : UInt16}
    (h : Handled L man srcPhy log size o) :
    (∃ reqId reply, HandlesReply man reqId reply o) ∨
      (o.man.actionResponses = man.actionResponses ∧ reportsOf o.effects = []) := by
  cases h with
  | hello sender =>
      refine Or.inr ⟨rfl, ?_⟩
      rw [handleHello_effects]
      cases man.lookupLog srcPhy (log.srcAddr L) <;> cases man.newDeviceCallback <;> rfl
  | reply _ reqId reply silent answers handles => exact Or.inl ⟨reqId, reply, handles⟩
  | done _ type silent handles =>
      refine Or.inr ⟨handles.actionResponses.1, ?_⟩
      cases handles with
      | unexpected _ _ effects_eq => rw [effects_eq]; rfl
      | finished _ _ _ _ effects_eq => rw [effects_eq, reportsOf_callDone]
      | renewed _ _ _ again _ effects_eq =>
          rw [effects_eq, reportsOf_append, reportsOf_callDone, again.reports]
          rfl
  | callback _ type silent handles =>
      refine Or.inr ⟨by rw [handles.actionResponses.1], ?_⟩
      cases handles with
      | unexpected _ _ effects_eq => rw [effects_eq]; rfl
      | faults _ _ effects_eq => rw [effects_eq]; rfl
      | reported _ _ _ _ _ effects_eq => rw [effects_eq]; rfl
  | other silent => exact Or.inr ⟨rfl, rfl⟩

/-! ## The invariant -/

/-- A record stays one of its request. -/
theorem ActionResponse.SameRequest.owns {data data' : ActionResponse} {q : Request}
    (same : data.SameRequest data') (h : q.Owns data) : q.Owns data' where
  reqId := same.reqId.trans h.reqId
  type := same.type.trans h.type
  srcPhy := same.srcPhy.trans h.srcPhy
  srcPort := same.srcPort.trans h.srcPort
  timeSent := same.timeSent.trans h.timeSent

/-- The records in the table are of requests made, those that wait were not reported,
and what was reported was reported once. -/
structure Tracked (made : List Request) (man : PhyDeviceManager)
    (reports : List (Option ActionResponse)) : Prop where
  table : ∀ k data, man.actionResponses.lookup k = some data →
    ∃ q ∈ made, q.reqId = k ∧ q.Owns data
  unreported : ∀ k data, man.actionResponses.lookup k = some data → data.isWaiting = true →
    some data.reqId ∉ reports.map reportId
  owned : ∀ response ∈ reports, ∃ r q, response = some r ∧ q ∈ made ∧ q.Owns r
  once : (reports.map reportId).Nodup

namespace Tracked

variable {made : List Request} {reports : List (Option ActionResponse)}

theorem start (setup : Setup) : Tracked [] (.make setup) [] where
  table _ _ found := by cases found
  unreported _ _ found := by cases found
  owned _ h := by cases h
  once := List.nodup_nil

/-- Nothing happens to the table. -/
theorem keep {man' : PhyDeviceManager} (h : Tracked made man reports)
    (table : man'.actionResponses = man.actionResponses) : Tracked made man' reports where
  table := by rw [table]; exact h.table
  unreported := by rw [table]; exact h.unreported
  owned := h.owned
  once := h.once

/-- A record carries the id it is stored under. -/
theorem reqId_eq (h : Tracked made man reports) {k : UInt8} {data : ActionResponse}
    (found : man.actionResponses.lookup k = some data) : data.reqId = k.toUInt32 := by
  obtain ⟨q, -, rfl, howns⟩ := h.table k data found
  exact howns.reqId

/-- An id that was not drawn is neither in the table nor reported. -/
theorem fresh (h : Tracked made man reports) {id : UInt8} (new : id ∉ made.map (·.reqId)) :
    man.actionResponses.lookup id = none ∧ some id.toUInt32 ∉ reports.map reportId := by
  constructor
  · rw [← Option.not_isSome_iff_eq_none, Option.isSome_iff_exists]
    rintro ⟨data, found⟩
    obtain ⟨q, hq, rfl, -⟩ := h.table id data found
    exact new (List.mem_map_of_mem hq)
  · intro hm
    obtain ⟨response, hresponse, hid⟩ := List.mem_map.mp hm
    obtain ⟨r, q, rfl, hq, howns⟩ := h.owned response hresponse
    rw [reportId, Option.map_some, Option.some.injEq, howns.reqId, UInt8.toUInt32_inj] at hid
    exact new (hid ▸ List.mem_map_of_mem hq)

/-- A request draws an id. -/
theorem draw (h : Tracked made man reports) (q : Request) : Tracked (made ++ [q]) man reports where
  table k data found := by
    obtain ⟨p, hp, hid, howns⟩ := h.table k data found
    exact ⟨p, List.mem_append_left _ hp, hid, howns⟩
  unreported := h.unreported
  owned response hm := by
    obtain ⟨r, p, heq, hp, howns⟩ := h.owned response hm
    exact ⟨r, p, heq, List.mem_append_left _ hp, howns⟩
  once := h.once

/-- The record of a request is installed. -/
theorem install {man' : PhyDeviceManager} (h : Tracked made man reports) {q : Request}
    {data : ActionResponse} (hq : q ∈ made) (howns : q.Owns data)
    (new : some data.reqId ∉ reports.map reportId)
    (table : man'.actionResponses = man.actionResponses.emplace q.reqId data) :
    Tracked made man' reports where
  table k d found := by
    rw [table] at found
    rcases UMap.lookup_emplace_some found with found | ⟨rfl, rfl⟩
    · exact h.table k d found
    · exact ⟨q, hq, rfl, howns⟩
  unreported k d found waiting := by
    rw [table] at found
    rcases UMap.lookup_emplace_some found with found | ⟨rfl, rfl⟩
    · exact h.unreported k d found waiting
    · exact new
  owned := h.owned
  once := h.once

/-- A reply comes in, or a record changes as if one did. -/
theorem rewrite (h : Tracked made man reports) {k : UInt8} {data data' : ActionResponse}
    (found : man.actionResponses.lookup k = some data) (same : data.SameRequest data')
    (waits : data'.isWaiting = true → data.isWaiting = true) :
    Tracked made (man.setResponse k data') reports where
  table j d hd := by
    by_cases hj : j = k
    · subst hj
      rw [PhyDeviceManager.setResponse, Finmap.lookup_insert] at hd
      cases hd
      obtain ⟨q, hq, hid, howns⟩ := h.table j data found
      exact ⟨q, hq, hid, same.owns howns⟩
    · rw [PhyDeviceManager.setResponse, Finmap.lookup_insert_of_ne _ hj] at hd
      exact h.table j d hd
  unreported j d hd waiting := by
    by_cases hj : j = k
    · subst hj
      rw [PhyDeviceManager.setResponse, Finmap.lookup_insert] at hd
      cases hd
      rw [same.reqId]
      exact h.unreported j data found (waits waiting)
    · rw [PhyDeviceManager.setResponse, Finmap.lookup_insert_of_ne _ hj] at hd
      exact h.unreported j d hd waiting
  owned := h.owned
  once := h.once

/-- An answer is collected. -/
theorem take (h : Tracked made man reports) (k : UInt8) :
    Tracked made { man with actionResponses := man.actionResponses.erase k } reports where
  table j d found := by
    by_cases hj : j = k
    · rw [hj, Finmap.lookup_erase] at found
      cases found
    · rw [Finmap.lookup_erase_ne hj] at found
      exact h.table j d found
  unreported j d found waiting := by
    by_cases hj : j = k
    · rw [hj, Finmap.lookup_erase] at found
      cases found
    · rw [Finmap.lookup_erase_ne hj] at found
      exact h.unreported j d found waiting
  owned := h.owned
  once := h.once

/-- A record of a request that was not reported is. -/
theorem report (h : Tracked made man reports) {q : Request} {r : ActionResponse} (hq : q ∈ made)
    (howns : q.Owns r) (new : some r.reqId ∉ reports.map reportId)
    (settled : ∀ k data, man.actionResponses.lookup k = some data → data.isWaiting = true →
      data.reqId ≠ r.reqId) : Tracked made man (reports ++ [some r]) where
  table := h.table
  unreported k data found waiting := by
    rw [List.map_append, List.mem_append, List.map_singleton, List.mem_singleton]
    rintro (hm | hm)
    · exact h.unreported k data found waiting hm
    · exact settled k data found waiting (Option.some.inj hm)
  owned response hm := by
    rcases List.mem_append.mp hm with hm | hm
    · exact h.owned response hm
    · exact ⟨r, q, List.mem_singleton.mp hm, hq, howns⟩
  once := by
    rw [List.map_append, List.nodup_append]
    refine ⟨h.once, List.nodup_singleton _, fun a ha b hb => ?_⟩
    rw [List.mem_singleton.mp hb]
    rintro rfl
    exact new ha

/-- Nothing is reported. -/
theorem quiet (h : Tracked made man reports) {more : List (Option ActionResponse)}
    (none_more : more = []) : Tracked made man (reports ++ more) := by
  rw [none_more, List.append_nil]
  exact h

/-- A reply is reported by the handler. -/
theorem reply (h : Tracked made man reports) {reqId : UInt8} {reply : Reply}
    (handles : PhyDeviceManager.HandlesReply man reqId reply o) :
    Tracked made o.man (reports ++ reportsOf o.effects) := by
  cases handles with
  | unexpected found man_eq effects_eq =>
      rw [man_eq, effects_eq]
      exact h.quiet rfl
  | repeated data found waiting man_eq effects_eq =>
      rw [man_eq, effects_eq]
      exact h.quiet rfl
  | tooLong data found waiting man_eq effects_eq =>
      rw [man_eq, effects_eq]
      have same : data.SameRequest { data with status := reply.status } :=
        ⟨rfl, rfl, rfl, rfl, rfl, rfl⟩
      exact (h.rewrite found same fun _ => waiting).quiet rfl
  | answered data found waiting man_eq effects_eq =>
      have same : data.SameRequest (data.answer reply) := ⟨rfl, rfl, rfl, rfl, rfl, rfl⟩
      have answered := h.rewrite found same fun hw => by cases hw
      obtain ⟨q, hq, -, howns⟩ := h.table reqId data found
      rw [man_eq, effects_eq, reportsOf_callAction]
      cases man.actionCallback with
      | none => exact answered.quiet rfl
      | some callback =>
          refine answered.report hq (same.owns howns) (h.unreported reqId data found waiting)
            fun k d found' waiting' hid => ?_
          have hk : k = reqId := by
            rw [answered.reqId_eq found', same.reqId, h.reqId_eq found] at hid
            exact UInt8.toUInt32_inj.mp hid
          subst hk
          rw [PhyDeviceManager.setResponse, Finmap.lookup_insert] at found'
          cases found'
          cases waiting'

end Tracked

namespace Sys

open PhyDeviceManager

variable {made : List Request}

theorem Acts.tracked (acts : Acts L E s e o) (h : Tracked made s.man (reportsOf s.trace))
    (waits : s.WaitsOn e) (unique : ((made ++ s.requests E e).map (·.reqId)).Nodup) :
    Tracked (made ++ s.requests E e) o.man (reportsOf s.trace ++ reportsOf o.effects) := by
  have new : ∀ q, s.requests E e = [q] → q.reqId ∉ made.map (·.reqId) := by
    intro q hq hm
    rw [hq, List.map_append, List.nodup_append] at unique
    exact unique.2.2 _ hm _ (List.mem_singleton_self _) rfl
  have mem_last : ∀ q, q ∈ made ++ [q] := fun q =>
    List.mem_append_right _ (List.mem_singleton_self q)
  cases acts with
  | packet srcPhy log size event =>
      have spec := handlePacket_spec L s.man srcPhy log size
      rw [show s.requests E e = [] by rw [event]; rfl, List.append_nil, spec.man, spec.effects]
      rcases (bodyOf_handled L s.man srcPhy log size).reports with ⟨_, _, handles⟩ | ⟨same, none⟩
      · exact h.reply handles
      · exact (h.keep same).quiet none
  | asks env addr port type packet ops drawn =>
      rw [drawn]
      exact ((h.draw _).install (mem_last _) ⟨rfl, rfl, rfl, rfl, rfl⟩
        (h.fresh (new _ drawn)).2 rfl).quiet rfl
  | counts env addr port packet ops drawn =>
      have drew : Tracked _ s.man.bump _ := (h.draw (s.man.request env addr port .execute)).keep rfl
      rw [drawn]
      exact drew.quiet rfl
  | misses env addr port r ops drawn _ owns =>
      obtain ⟨free, unreported⟩ := h.fresh (new _ drawn)
      have drew : Tracked _ s.man.bump _ := (h.draw (s.man.request env addr port .execute)).keep rfl
      rw [drawn, reportsOf_callAction]
      cases s.man.actionCallback with
      | none => exact drew.quiet rfl
      | some callback =>
          refine drew.report (mem_last _) owns (owns.reqId ▸ unreported) fun k d found _ hid => ?_
          rw [drew.reqId_eq found, owns.reqId, UInt8.toUInt32_inj] at hid
          subst hid
          rw [show s.man.bump.actionResponses = s.man.actionResponses from rfl, free] at found
          cases found
  | nothing ops drawn =>
      rw [drawn, List.append_nil]
      exact h.quiet rfl
  | collects reqId received man' r ops drawn _ eq =>
      obtain ⟨data, -, -, rfl, -⟩ := collect_eq_some eq
      rw [drawn, List.append_nil]
      exact (h.take reqId).quiet rfl
  | returns call now received c event found stop =>
      rw [show s.requests E e = [] by rw [event]; rfl, List.append_nil]
      refine h.quiet ?_
      rcases waits with unset | waits
      · rw [reportsOf_callAction, unset]
        rfl
      · rw [waits call now received c event found] at stop
        cases stop
  | countsSubscription args action event =>
      rw [show s.requests E e = [] by rw [event]; rfl, List.append_nil]
      have kept : Tracked made s.man.bumpSubscription _ := h.keep rfl
      exact kept.quiet rfl
  | subscribes args action actionId dev event =>
      have subscribes := subscribeAction_subscribes s.man.bumpSubscription
        (args.data s.man.subscriptionCounter actionId)
      rw [show s.requests E e = [] by rw [event]; rfl, List.append_nil]
      exact (h.keep subscribes.actionResponses.1).quiet subscribes.reports
  | readyMade data event =>
      have subscribes := subscribeAction_subscribes s.man data
      rw [show s.requests E e = [] by rw [event]; rfl, List.append_nil]
      exact (h.keep subscribes.actionResponses.1).quiet subscribes.reports

/-- In every run that draws no id twice and ends no wait loop, each request is reported at
most once, by a record of its own. -/
theorem reportedOnce_of_waitsOn (h : (machine L E).run (start setup) es = some s)
    (unique : ((requestsMade L E setup es).map (·.reqId)).Nodup)
    (waits : (machine L E).Meets WaitsOn (start setup) es) :
    ReportedOnce (requestsMade L E setup es) s.trace := by
  have tracked : Tracked (requestsMade L E setup es) s.man (reportsOf s.trace) := by
    refine Machine.run_outputs (M := machine L E) (C := WaitsOn)
      (P := fun made s => (made.map (·.reqId)).Nodup → Tracked made s.man (reportsOf s.trace))
      ?_ h waits (fun _ => Tracked.start setup) unique
    intro made t e w waits tracked hstep unique
    have prefix_unique : (made.map (·.reqId)).Nodup := by
      rw [List.map_append] at unique
      exact (List.nodup_append.mp unique).1
    obtain ⟨o, acts, leads⟩ := step_acts hstep
    rw [leads.man_eq, leads.trace_eq, reportsOf_append]
    exact acts.tracked (tracked prefix_unique) waits unique
  exact ⟨tracked.owned, tracked.once⟩

/-! ## The end of a wait loop -/

/-- Every answer that came in was reported: those in the table, and those that a call
collected. -/
structure Heard (s : Sys) : Prop where
  table : ∀ k data, s.man.actionResponses.lookup k = some data → data.isWaiting = false →
    some data.reqId ∈ (reportsOf s.trace).map reportId
  calls : ∀ n c r, s.calls.lookup n = some (.polling c) → c.result = some r →
    some r.reqId ∈ (reportsOf s.trace).map reportId

/-- A call that waits did so before, or has no result yet, or has just collected it. -/
theorem polling_cases {n : Nat} {c : SyncCall} (h : s.next L E e = some s')
    (found : s'.calls.lookup n = some (.polling c)) :
    s.calls.lookup n = some (.polling c) ∨ c.result = none ∨
      ∃ reqId received man' r, s.man.collect reqId received = some (man', r) ∧
        c.result = some r := by
  cases e with
  | packet | subscribeActionData => cases h; exact Or.inl found
  | executeActionAsync _ _ _ action | fetchActionAsync _ _ _ action | subscribeAction _ action =>
      cases action <;> cases h <;> exact Or.inl found
  | executeAction _ _ _ _ action | fetchAction _ _ _ _ action =>
      by_cases hn : n = s.nextCall
      · subst hn
        exact Or.inr (Or.inl (polling_of_call rfl h found).2.1)
      · cases action <;> cases h <;> rw [opened_calls, Finmap.lookup_insert_of_ne _ hn] at found <;>
          exact Or.inl found
  | poll call now received =>
      obtain ⟨c₀, hc, rfl⟩ := next_poll h
      rw [polled_calls] at found
      by_cases hn : n = call
      · subst hn
        rw [Finmap.lookup_insert, Option.some.injEq] at found
        have polls := c₀.poll_polls s.man now received
        generalize c₀.poll s.man now received = called at polls found
        cases polls with
        | returns stop => cases found
        | waits go none_found => cases found; exact Or.inl hc
        | collects received man' r go has eq =>
            cases found
            exact Or.inr (Or.inr ⟨_, received, man', r, eq, rfl⟩)
      · rw [Finmap.lookup_insert_of_ne _ hn] at found
        exact Or.inl found

theorem start_heard (setup : Setup) : Heard (start setup) where
  table _ _ found := by cases found
  calls _ _ _ found := by cases found

/-- A record that is answered was reported, before the event or by it. -/
theorem Acts.heard {callback : FnRef} (acts : Acts L E s e o)
    (watched : s.man.actionCallback = some callback)
    (table : ∀ k data, s.man.actionResponses.lookup k = some data → data.isWaiting = false →
      some data.reqId ∈ (reportsOf s.trace).map reportId) {k : UInt8} {data : ActionResponse}
    (found : o.man.actionResponses.lookup k = some data) (answered : data.isWaiting = false) :
    some data.reqId ∈ (reportsOf s.trace).map reportId ∨
      some data.reqId ∈ (reportsOf o.effects).map reportId := by
  have before : s.man.actionResponses.lookup k = some data →
      some data.reqId ∈ (reportsOf s.trace).map reportId ∨
        some data.reqId ∈ (reportsOf o.effects).map reportId :=
    fun found => Or.inl (table k data found answered)
  cases acts with
  | packet srcPhy log size event =>
      have spec := handlePacket_spec L s.man srcPhy log size
      rw [spec.man] at found
      rw [spec.effects] at before ⊢
      rcases (bodyOf_handled L s.man srcPhy log size).reports with
        ⟨reqId, reply, handles⟩ | ⟨same, -⟩
      · cases handles with
        | unexpected _ man_eq => exact before (man_eq ▸ found)
        | repeated _ _ _ man_eq => exact before (man_eq ▸ found)
        | tooLong old hold waiting man_eq =>
            rw [man_eq, PhyDeviceManager.setResponse] at found
            by_cases hk : k = reqId
            · rw [hk, Finmap.lookup_insert] at found
              cases found
              rw [waiting] at answered
              cases answered
            · rw [Finmap.lookup_insert_of_ne _ hk] at found
              exact before found
        | answered old hold waiting man_eq effects_eq =>
            rw [man_eq, PhyDeviceManager.setResponse] at found
            by_cases hk : k = reqId
            · rw [hk, Finmap.lookup_insert] at found
              cases found
              refine Or.inr ?_
              rw [effects_eq, reportsOf_callAction, watched]
              exact List.mem_singleton_self _
            · rw [Finmap.lookup_insert_of_ne _ hk] at found
              exact before found
      · exact before (same ▸ found)
  | asks env addr port type packet ops drawn =>
      rcases UMap.lookup_emplace_some found with found | ⟨-, rfl⟩
      · exact before found
      · cases answered
  | collects reqId received man' r ops drawn _ eq =>
      obtain ⟨old, -, -, rfl, -⟩ := collect_eq_some eq
      by_cases hk : k = reqId
      · rw [hk, Finmap.lookup_erase] at found
        cases found
      · rw [Finmap.lookup_erase_ne hk] at found
        exact before found
  | subscribes args action actionId dev event =>
      have subscribes := subscribeAction_subscribes s.man.bumpSubscription
        (args.data s.man.subscriptionCounter actionId)
      exact before (subscribes.actionResponses.1 ▸ found)
  | readyMade data event =>
      exact before ((subscribeAction_subscribes s.man data).actionResponses.1 ▸ found)
  | counts | misses | nothing | returns | countsSubscription => exact before found

/-- Where there is an `action_callback`, every event keeps answers reported. -/
theorem Heard.step {callback : FnRef} (h : Heard s)
    (watched : s.man.actionCallback = some callback) (hstep : s.step L E e = some s') :
    Heard s' := by
  obtain ⟨o, acts, leads⟩ := step_acts hstep
  have reports_eq : (reportsOf s'.trace).map reportId =
      (reportsOf s.trace).map reportId ++ (reportsOf o.effects).map reportId := by
    rw [leads.trace_eq, reportsOf_append, List.map_append]
  constructor
  · intro k data found answered
    rw [leads.man_eq] at found
    rw [reports_eq, List.mem_append]
    exact acts.heard watched h.table found answered
  · intro n c r found result
    rw [reports_eq]
    refine List.mem_append_left _ ?_
    rcases polling_cases (next_of_step hstep).2 found with before | none | ⟨_, _, _, r', eq, some⟩
    · exact h.calls n c r before result
    · rw [none] at result
      cases result
    · rw [some] at result
      cases result
      obtain ⟨data, hdata, answered, -, rfl⟩ := collect_eq_some eq
      exact h.table _ data hdata answered

/-- The end of a wait loop reports a null pointer, or what was reported. -/
theorem Heard.waitsOn (h : s.man.actionCallback.isSome = true → Heard s)
    (hstep : s.step L E e = some s') (real : none ∉ reportsOf s'.trace)
    (once : ((reportsOf s'.trace).map reportId).Nodup) : s.WaitsOn e := by
  cases watched : s.man.actionCallback with
  | none => exact Or.inl watched
  | some callback =>
      have heard := h (by rw [watched]; rfl)
      refine Or.inr ?_
      rintro call now received c rfl found
      by_contra stop
      obtain ⟨c', found', rfl⟩ := next_poll (next_of_step hstep).2
      cases found.symm.trans found'
      have ends : c.poll s.man now received =
          ⟨s.man, [.action callback c.result], .returned c.value⟩ := by
        rw [SyncCall.poll, if_neg stop, callAction, watched]
      have reports_eq : reportsOf (s.polled call (c.poll s.man now received)).trace =
          reportsOf s.trace ++ [c.result] := by
        rw [ends]
        exact reportsOf_append s.trace [.action callback c.result]
      rw [reports_eq] at real once
      cases result : c.result with
      | none =>
          rw [result] at real
          exact real (List.mem_append_right _ (List.mem_singleton_self _))
      | some r =>
          rw [result, List.map_append, List.nodup_append] at once
          exact once.2.2 _ (heard.calls call c r found result) _ (List.mem_singleton_self _) rfl

/-- In every run that draws no id twice, each request is reported at most once, by a record
of its own, exactly if no wait loop ends. -/
theorem run_reportedOnce_iff (h : (machine L E).run (start setup) es = some s)
    (unique : ((requestsMade L E setup es).map (·.reqId)).Nodup) :
    ReportedOnce (requestsMade L E setup es) s.trace ↔
      (machine L E).Meets WaitsOn (start setup) es := by
  refine ⟨fun reported => ?_, reportedOnce_of_waitsOn h unique⟩
  have real : none ∉ reportsOf s.trace := by
    intro hm
    obtain ⟨r, q, heq, -⟩ := reported.owned none hm
    cases heq
  have keep : ∀ s e t, (s.man.actionCallback.isSome = true → Heard s) →
      (machine L E).step s e = some t → t.man.actionCallback.isSome = true → Heard t := by
    intro s e t heard hstep set
    have same : t.man.actionCallback = s.man.actionCallback :=
      congrArg Setup.actionCallback (step_setup hstep)
    rw [same] at set
    obtain ⟨callback, watched⟩ := Option.isSome_iff_exists.mp set
    exact (heard set).step watched hstep
  refine (Machine.meets_of_end (M := machine L E) (C := WaitsOn)
    (G := fun s => none ∉ reportsOf s.trace ∧ ((reportsOf s.trace).map reportId).Nodup)
    keep ?_ h (fun _ => start_heard setup) ⟨real, reported.once⟩).2
  intro s e t heard hstep good
  obtain ⟨o, -, leads⟩ := step_acts hstep
  have waits := Heard.waitsOn heard hstep good.1 good.2
  rw [leads.trace_eq, reportsOf_append, List.map_append] at good
  exact ⟨⟨fun hm => good.1 (List.mem_append_left _ hm), (List.nodup_append.mp good.2).1⟩, waits⟩

/-- A manager with an `action_callback`. -/
def watched : Setup := ⟨1, none, some ⟨7⟩⟩

theorem async_fetch_reported :
    ∃ s, (machine .packed (.stored ..)).run (start watched) answered = some s ∧
      ReportedOnce (requestsMade .packed (.stored ..) watched answered) s.trace := by
  have waits : (machine .packed (.stored ..)).Meets WaitsOn (start watched) answered := by
    refine Machine.meets_of_forall (fun e he s => Or.inr ?_) _
    rintro call now received c rfl
    simp [answered] at he
  exact ⟨_, rfl, (run_reportedOnce_iff rfl (by decide)).mpr waits⟩

/-- A synchronous fetch, its reply, and two rounds of the wait loop. -/
def fetchedOnce : List Event :=
  [.fetchAction anyEnv 0 2 10 (.id 3) [], .packet 2 replyTo0 9, .poll 0 1 1, .poll 0 2 2]

/-- One request with one reply is reported twice. -/
theorem sync_fetch_reported_twice :
    ∃ s, (machine .packed (.stored ..)).run (start watched) fetchedOnce = some s ∧
      ((requestsMade .packed (.stored ..) watched fetchedOnce).map (·.reqId)).Nodup ∧
      ¬ ReportedOnce (requestsMade .packed (.stored ..) watched fetchedOnce) s.trace := by
  refine ⟨_, rfl, by decide, fun h => ?_⟩
  have twice : ¬ [some (0 : UInt32), some 0].Nodup := by decide
  exact twice h.once

end Sys

end KhawasuPc
