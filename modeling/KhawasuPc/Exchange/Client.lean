import KhawasuPc.CApi.Manager
import KhawasuPc.Exchange.Agreement

/-!
# Clients of the C interface

The system of a manager and its devices, with the manager in a context of the C interface.  Seen
from the devices it is the same system (`ClientExchange.exchange`), and a context tells its client
what its manager reports.  So what the callbacks for results are told is what the handlers of the
devices returned (`run_results`).
-/

namespace KhawasuPc

open Lib

/-- A context, the answers sent to it, and which of them arrived, by number. -/
structure ClientExchange where
  ctx : Context
  answers : List Answer
  delivered : List Nat

namespace ClientExchange

/-- Something that happens in the system. -/
inductive Event where
  /-- The client calls or waits, or a packet comes that is no answer. -/
  | client (e : ContextEvent)
  /-- A request reaches its device. -/
  | serve (request : SentPacket) (slot : PoolSlot) (handlers : Handlers)
  /-- The `i`-th answer reaches the context. -/
  | deliver (i : Nat) (srcPhy : FarAddr) (mem : Memory) (size : UInt16)

/-- The system around a context from `init_ctx`. -/
def start (selfPort : UInt16) : ClientExchange := ⟨.init selfPort, [], []⟩

variable (W : Site) (s : ClientExchange)

/-- What an event does. -/
def step : Event → Option ClientExchange
  | .client e =>
      if (e.events W.L).any fun event => event.isReply W.L then none
      else (s.ctx.step W.E W.lengthOf W.L e).map fun ctx => { s with ctx := ctx }
  | .serve request slot handlers =>
      if request ∈ requestPackets s.ctx.sys.trace then
        (W.serve request slot handlers).map fun answers =>
          { s with answers := s.answers ++ answers }
      else none
  | .deliver i srcPhy mem size =>
      match s.answers[i]? with
      | none => none
      | some answer =>
          if answer.InPacket W.L mem size then
            (s.ctx.step W.E W.lengthOf W.L (.dataPacket srcPhy mem size)).map fun ctx =>
              { s with ctx := ctx, delivered := s.delivered ++ [i] }
          else none

/-- The machine of the system. -/
def machine : Lib.Machine ClientExchange Event := ⟨fun s e => s.step W e⟩

/-- The requests an event draws ids for. -/
def requests : Event → List Request
  | .client e => (e.events W.L).flatMap (s.ctx.sys.requests W.E)
  | .serve .. | .deliver .. => []

/-- The requests made along a run. -/
def requestsMade (selfPort : UInt16) (es : List Event) : List Request :=
  (machine W).outputs (requests W) (start selfPort) es

/-- What a step does. -/
inductive Steps : Event → ClientExchange → Prop
  | client (e : ContextEvent) (ctx : Context)
      (silent : ∀ event ∈ e.events W.L, event.isReply W.L = false)
      (step : s.ctx.step W.E W.lengthOf W.L e = some ctx) : Steps (.client e) { s with ctx := ctx }
  | serve (request : SentPacket) (slot : PoolSlot) (handlers : Handlers) (answers : List Answer)
      (sent : request ∈ requestPackets s.ctx.sys.trace)
      (served : W.serve request slot handlers = some answers) :
      Steps (.serve request slot handlers) { s with answers := s.answers ++ answers }
  | deliver (i : Nat) (srcPhy : FarAddr) (mem : Memory) (size : UInt16) (answer : Answer)
      (ctx : Context) (found : s.answers[i]? = some answer) (packet : answer.InPacket W.L mem size)
      (step : s.ctx.step W.E W.lengthOf W.L (.dataPacket srcPhy mem size) = some ctx) :
      Steps (.deliver i srcPhy mem size) { s with ctx := ctx, delivered := s.delivered ++ [i] }

variable {W s} {t : ClientExchange} {e : Event} {es : List Event} {selfPort : UInt16}

theorem step_steps (h : s.step W e = some t) : Steps W s e t := by
  cases e with
  | client e =>
      simp only [step, Option.ite_none_left_eq_some] at h
      obtain ⟨silent, h⟩ := h
      obtain ⟨ctx, hstep, rfl⟩ := Option.map_eq_some_iff.mp h
      refine .client e ctx (fun event hmem => ?_) hstep
      rw [List.any_eq_true] at silent
      exact Bool.eq_false_iff.mpr fun reply => silent ⟨event, hmem, reply⟩
  | serve request slot handlers =>
      simp only [step, Option.ite_none_right_eq_some] at h
      obtain ⟨answers, served, rfl⟩ := Option.map_eq_some_iff.mp h.2
      exact .serve request slot handlers answers h.1 served
  | deliver i srcPhy mem size =>
      unfold step at h
      dsimp only at h
      split at h
      next => cases h
      next answer found =>
        rw [Option.ite_none_right_eq_some] at h
        obtain ⟨packet, h⟩ := h
        obtain ⟨ctx, hstep, rfl⟩ := Option.map_eq_some_iff.mp h
        exact .deliver i srcPhy mem size answer ctx found packet hstep

/-- A request that was sent can reach its device. -/
theorem step_serve {r : SentPacket} {slot : PoolSlot} {handlers : Handlers}
    {answers : List Answer} (sent : r ∈ requestPackets s.ctx.sys.trace)
    (served : W.serve r slot handlers = some answers) :
    s.step W (.serve r slot handlers) = some { s with answers := s.answers ++ answers } := by
  rw [step, if_pos sent, served]
  rfl

/-- An answer that was made can reach the context. -/
theorem step_deliver {i : Nat} {srcPhy : FarAddr} {mem : Memory} {size : UInt16} {a : Answer}
    {ctx : Context} (found : s.answers[i]? = some a) (packet : a.InPacket W.L mem size)
    (h : s.ctx.step W.E W.lengthOf W.L (.dataPacket srcPhy mem size) = some ctx) :
    s.step W (.deliver i srcPhy mem size) =
      some { s with ctx := ctx, delivered := s.delivered ++ [i] } := by
  rw [step, found]
  dsimp only
  rw [if_pos packet, h]
  rfl

/-- A function of the C interface that calls a synchronous one of the manager. -/
theorem step_sync {e : ContextEvent} {event : KhawasuPc.Event} {n : Nat} {sys : Sys}
    (silent : ((e.events W.L).any fun event => event.isReply W.L) = false)
    (alive : s.ctx.nullRead = false)
    (calls : s.ctx.next W.E W.lengthOf W.L e = s.ctx.sync W.E W.lengthOf W.L event n)
    (h : s.ctx.sys.step W.L W.E event = some sys) :
    s.step W (.client e) = some { s with
      ctx := (s.ctx.moved W.E W.lengthOf sys).finish n (sys.calls.lookup n) } := by
  rw [step, if_neg (Bool.eq_false_iff.mp silent), Context.step,
    if_neg (Bool.eq_false_iff.mp alive), calls, Context.sync, h]
  rfl

/-! ## The context -/

/-- What an event is to the context. -/
def contextEvents : Event → List ContextEvent
  | .client e => [e]
  | .serve .. => []
  | .deliver _ srcPhy mem size => [.dataPacket srcPhy mem size]

/-- A step of the system is one of the context at most. -/
theorem step_contextEvents (h : s.step W e = some t) :
    (Context.machine W.E W.lengthOf W.L).run s.ctx (contextEvents e) = some t.ctx := by
  cases step_steps h with
  | client e ctx silent step =>
      exact Machine.run_singleton (M := Context.machine W.E W.lengthOf W.L) step
  | serve => rfl
  | deliver i srcPhy mem size answer ctx found packet step =>
      exact Machine.run_singleton (M := Context.machine W.E W.lengthOf W.L) step

/-- The system has a context in it. -/
def context (W : Site) : Simulation (machine W) (Context.machine W.E W.lengthOf W.L) where
  inv _ := True
  abs s := s.ctx
  label _ e := contextEvents e
  keep _ _ _ _ _ := trivial
  sim _ _ _ _ h := step_contextEvents h

/-- A client is told what its manager did. -/
theorem run_grounded (h : (machine W).run (start selfPort) es = some s) :
    s.ctx.Grounded W.E W.lengthOf := Context.run_grounded ((context W).run h trivial).2

/-! ## The manager and its devices -/

/-- What the devices see of the system. -/
def seen (s : ClientExchange) : Exchange := ⟨s.ctx.sys.managed, s.answers, s.delivered⟩

/-- What an event is to them. -/
def seenEvents (L : PacketLayout) : Event → List Exchange.Event
  | .client e => (e.events L).map .client
  | .serve request slot handlers => [.serve request slot handlers]
  | .deliver i srcPhy mem size => [.deliver i srcPhy mem size]

/-- Calls of clients are calls of the manager. -/
theorem run_clients {x : Exchange} {sys : Sys} {events : List KhawasuPc.Event}
    (silent : ∀ event ∈ events, event.isReply W.L = false)
    (h : (Sys.machine W.L W.E).run x.sys events = some sys) :
    (Exchange.machine W).run x (events.map .client) = some { x with sys := sys } := by
  induction events generalizing x with
  | nil => cases h; rfl
  | cons event events ih =>
      obtain ⟨sys', hstep, hrest⟩ := Option.bind_eq_some_iff.mp h
      have quiet : ¬ event.isReply W.L = true :=
        Bool.eq_false_iff.mp (silent event (List.mem_cons_self ..))
      have first : x.step W (.client event) = some { x with sys := sys' } := by
        rw [Exchange.step, if_neg quiet]
        exact congrArg (Option.map _) hstep
      rw [List.map_cons, Machine.run_cons]
      refine Option.bind_eq_some_iff.mpr ⟨_, first, ?_⟩
      exact ih (x := { x with sys := sys' })
        (fun event hmem => silent event (List.mem_cons_of_mem _ hmem)) hrest

theorem step_seenEvents (h : s.step W e = some t) :
    (Exchange.machine W).run s.seen (seenEvents W.L e) = some t.seen := by
  cases step_steps h with
  | client e ctx silent step => exact run_clients silent (Context.step_events step)
  | serve request slot handlers answers sent served =>
      refine Machine.run_singleton (M := Exchange.machine W) ?_
      have sent' : request ∈ requestPackets s.seen.sys.trace := by
        show request ∈ requestPackets (managerEffects s.ctx.sys.trace)
        rwa [requestPackets_managerEffects]
      show s.seen.step W (.serve request slot handlers) = _
      rw [Exchange.step, if_pos sent', served]
      rfl
  | deliver i srcPhy mem size answer ctx found packet step =>
      have events : (ContextEvent.dataPacket srcPhy mem size).events W.L =
          [.packet srcPhy ⟨mem, W.L.dataOff .unreliable⟩ size] := by
        rw [ContextEvent.events, packet.overlayData]
        rfl
      have hrun := Context.step_events step
      rw [events] at hrun
      obtain ⟨sys, hsys, done⟩ := Option.bind_eq_some_iff.mp hrun
      cases done
      refine Machine.run_singleton (M := Exchange.machine W) ?_
      show s.seen.step W (.deliver i srcPhy mem size) = _
      rw [Exchange.step]
      show (match s.answers[i]? with | none => none | some answer => _) = _
      rw [found]
      dsimp only
      rw [if_pos packet, packet.overlayData, Option.bind_some]
      exact congrArg (Option.map _) hsys

/-- Seen from the devices, the context is a manager. -/
def exchange (W : Site) : Simulation (machine W) (Exchange.machine W) where
  inv _ := True
  abs := seen
  label _ e := seenEvents W.L e
  keep _ _ _ _ _ := trivial
  sim _ _ _ _ h := step_seenEvents h

/-- The manager makes the requests of its clients. -/
theorem outputs_seenEvents (W : Site) (s : ClientExchange) (e : Event) :
    (Exchange.machine W).outputs (Exchange.requests W) s.seen (seenEvents W.L e) =
      s.requests W e := by
  have same : ∀ event : KhawasuPc.Event,
      s.ctx.sys.managed.requests W.E event = s.ctx.sys.requests W.E event := by
    intro event
    cases event <;> rfl
  have one : ∀ event : KhawasuPc.Event,
      (Exchange.machine W).outputs (Exchange.requests W) s.seen [.client event] =
        [event].flatMap (s.ctx.sys.requests W.E) := by
    intro event
    rw [Machine.outputs_singleton, List.flatMap_singleton]
    exact same event
  cases e with
  | client e =>
      rw [seenEvents, requests]
      rcases e.events_cases W.L with none_seen | ⟨event, one_seen⟩
      · rw [none_seen]
        rfl
      · rw [one_seen]
        exact one event
  | serve | deliver => exact Machine.outputs_singleton ..

/-- What the devices see of a run. -/
theorem run_seen (h : (machine W).run (start selfPort) es = some s) :
    (Exchange.machine W).run (Exchange.start (Context.managerSetup selfPort))
        ((exchange W).labels (start selfPort) es) = some s.seen ∧
      Exchange.requestsMade W (Context.managerSetup selfPort)
        ((exchange W).labels (start selfPort) es) = requestsMade W selfPort es :=
  ⟨((exchange W).run h trivial).2,
    (exchange W).outputs_labels (fun s e => outputs_seenEvents W s e) h trivial⟩

/-- A request that reached its device did so in the system. -/
theorem serve_mem_of_labels {request : SentPacket} {slot : PoolSlot} {handlers : Handlers}
    (h : Exchange.Event.serve request slot handlers ∈ (exchange W).labels s es) :
    Event.serve request slot handlers ∈ es := by
  obtain ⟨pre, e, post, t, rfl, -, hmem⟩ := (exchange W).mem_labels h
  refine List.mem_append_right _ (List.mem_cons.mpr (Or.inl ?_))
  replace hmem : Exchange.Event.serve request slot handlers ∈ seenEvents W.L e := hmem
  cases e with
  | client e =>
      obtain ⟨event, -, client⟩ := List.mem_map.mp hmem
      cases client
  | serve => cases List.mem_singleton.mp hmem; rfl
  | deliver => cases List.mem_singleton.mp hmem

/-! ## Results -/

/-- The packet asked for a value, and reached its device, where the handler of the action was
called with it and returned what `payload` shows. -/
def Fetched (W : Site) (es : List Event) (packet : SentPacket) (payload : List UInt8) : Prop :=
  ∃ slot handlers reqId actionId data reg, Event.serve packet slot handlers ∈ es ∧
    packet.body = .actionFetch reqId actionId data ∧
    W.dispatched packet.dest actionId = some reg ∧
    ShownAs W.L (handlers.get (reg.getCall data ⟨W.self, packet.srcPort⟩ reqId)) payload

/-- The packet asked for a change and its status, and reached its device, where the handler of the
action was called with it and returned the status.  A device with no action says that there is
none. -/
def Executed (W : Site) (es : List Event) (packet : SentPacket) (status : ActionExecuteStatus) :
    Prop :=
  ∃ slot handlers reqId actionId data, Event.serve packet slot handlers ∈ es ∧
    packet.body = .actionExecute reqId actionId .requireStatusResponse data ∧
    ((∃ reg, W.dispatched packet.dest actionId = some reg ∧
        status = handlers.set (reg.setCall data ⟨W.self, packet.srcPort⟩)) ∨
      W.registrations packet.dest = [] ∧ status = .actionNotFound)

/-- The client asked to execute an action by a name that its manager did not know then, and the
call drew the id. -/
def NotKnown (W : Site) (selfPort : UInt16) (es : List Event) (reqId : UInt32) : Prop :=
  ∃ pre env destPhy destLog name data requireResult post u,
    es = pre ++
      .client (.executeActionAsync env destPhy destLog name data requireResult) :: post ∧
    (machine W).run (start selfPort) pre = some u ∧ ¬ u.ctx.Knows W.E destPhy destLog name ∧
    reqId = u.ctx.sys.man.actionResponsesCounter.toUInt32

/-- The packet is the one with the id. -/
def CarriesId (packet : SentPacket) (reqId : UInt32) : Prop :=
  packet.body.requestId.map UInt8.toUInt32 = some reqId

variable {packet : SentPacket} {r : ActionResponse}

theorem carriesId_of_handled {xs : List Exchange.Event}
    (h : Exchange.HandledFor W xs packet r) : CarriesId packet r.reqId := by
  obtain ⟨answer, slot, handlers, rfl, -, made, explains⟩ := h
  rw [CarriesId, made.fits.requestId, explains.reqId]
  rfl

/-- The record of a packet is of the kind of the packet. -/
theorem type_of_handled {xs : List Exchange.Event} (h : Exchange.HandledFor W xs packet r) :
    r.type = if packet.body.type = .actionFetch then .fetch else .execute := by
  obtain ⟨answer, slot, handlers, rfl, -, made, explains⟩ := h
  have content := explains.content
  cases made with
  | fetched _ _ _ _ asks _ _ _ body =>
      rw [body] at content
      rw [asks]
      exact content.1
  | executed _ _ _ _ asks _ _ _ body | unknown _ _ asks _ _ body =>
      rw [body] at content
      rw [asks]
      exact content.1

theorem fetched_of_handled (type : r.type = .fetch)
    (h : Exchange.HandledFor W ((exchange W).labels s es) packet r) :
    Fetched W es packet r.payload := by
  obtain ⟨answer, slot, handlers, rfl, served, made, explains⟩ := h
  have content := explains.content
  cases made with
  | fetched actionId data reg call asks dispatched call_eq called body =>
      rw [body] at content
      obtain ⟨-, -, shown⟩ := content
      exact ⟨slot, handlers, _, actionId, data, reg, serve_mem_of_labels served, asks, dispatched,
        call_eq ▸ shown⟩
  | executed _ _ _ _ _ _ _ _ body | unknown _ _ _ _ _ body =>
      rw [body] at content
      cases type.symm.trans content.1

theorem executed_of_handled (type : r.type = .execute)
    (h : Exchange.HandledFor W ((exchange W).labels s es) packet r) :
    Executed W es packet r.status := by
  obtain ⟨answer, slot, handlers, rfl, served, made, explains⟩ := h
  have content := explains.content
  cases made with
  | fetched _ _ _ _ _ _ _ _ body =>
      rw [body] at content
      cases type.symm.trans content.1
  | executed actionId data reg call asks dispatched call_eq called body =>
      rw [body] at content
      obtain ⟨-, status, -⟩ := content
      exact ⟨slot, handlers, _, actionId, data, serve_mem_of_labels served, asks,
        Or.inl ⟨reg, dispatched, by rw [status, call_eq]⟩⟩
  | unknown actionId data asks none_registered called body =>
      rw [body] at content
      obtain ⟨-, status, -⟩ := content
      exact ⟨slot, handlers, _, actionId, data, serve_mem_of_labels served, asks,
        Or.inr ⟨none_registered, status⟩⟩

/-- What is one event of the client is one of its manager at most. -/
theorem length_seenEvents_le (L : PacketLayout) (e : Event) : (seenEvents L e).length ≤ 1 := by
  cases e with
  | client e =>
      rw [seenEvents, List.length_map]
      rcases e.events_cases L with none_seen | ⟨event, one_seen⟩
      · rw [none_seen]
        exact Nat.zero_le 1
      · rw [one_seen, List.length_singleton]
  | serve | deliver => exact Nat.le_refl 1

/-- A record is made up for a call of the client. -/
theorem notKnown_of_madeUp (h : (machine W).run (start selfPort) es = some s)
    (made : Exchange.MadeUp W (Context.managerSetup selfPort)
      ((exchange W).labels (start selfPort) es) r) : NotKnown W selfPort es r.reqId := by
  obtain ⟨before, f, after, x, labels_eq, hbefore, made⟩ := made
  obtain ⟨pre, e, post, u, rfl, hpre, rfl, label_eq⟩ :=
    (exchange W).labels_split (fun _ e => length_seenEvents_le W.L e) h labels_eq
  cases hbefore.symm.trans (run_seen hpre).1
  replace label_eq : seenEvents W.L e = [.client f] := label_eq
  obtain ⟨env, name, buffer, requireStatus, rfl, missing⟩ := made.asks
  have reqId := made.reqId
  generalize r.srcPhy = addr, r.srcPort = port at missing label_eq
  cases e with
  | serve | deliver => cases label_eq
  | client e =>
      cases e with
      | dataPacket srcPhy mem size =>
          rw [seenEvents, ContextEvent.events] at label_eq
          cases found : overlayData W.L mem size with
          | none => rw [found] at label_eq; cases label_eq
          | some log => rw [found] at label_eq; cases label_eq
      | executeActionAsync _ destPhy =>
          cases label_eq
          exact ⟨pre, env, destPhy, port, name, buffer, requireStatus, post, u, rfl, hpre,
            Context.not_knows.mpr missing, reqId⟩
      | _ => cases label_eq

/-- What a callback for results is told comes from the handlers of the devices, unless the name of
the action was not known. -/
def FromDevices (W : Site) (selfPort : UInt16) (es : List Event) (sent : List SentPacket) :
    ClientEffect → Prop
  | .fetchResult _ reqId payload =>
      ∃ packet ∈ sent, CarriesId packet reqId ∧ Fetched W es packet payload
  | .executeResult _ reqId status =>
      status = .unknown ∧ NotKnown W selfPort es reqId ∨
        ∃ packet ∈ sent, CarriesId packet reqId ∧ Executed W es packet status
  | .newDevice .. | .asyncReturns _ | .executeReturns .. | .fetchReturns .. => True

/-- In every run of up to 256 requests, what the callbacks for results are told comes from the
handlers of the devices, unless the name of the action was not known. -/
theorem run_results (h : (machine W).run (start selfPort) es = some s)
    (few : (requestsMade W selfPort es).length ≤ 256) :
    ∀ told ∈ s.ctx.told, FromDevices W selfPort es (requestPackets s.ctx.sys.trace) told := by
  obtain ⟨hrun, made⟩ := run_seen h
  have reported : ∀ {r}, some r ∈ reportsOf s.ctx.sys.trace →
      Exchange.MadeUp W (Context.managerSetup selfPort)
        ((exchange W).labels (start selfPort) es) r ∨
      ∃ packet ∈ requestPackets s.ctx.sys.trace,
        Exchange.HandledFor W ((exchange W).labels (start selfPort) es) packet r := by
    intro r told
    have told' : some r ∈ reportsOf s.seen.sys.trace := by
      show some r ∈ reportsOf (managerEffects s.ctx.sys.trace)
      rwa [reportsOf_managerEffects]
    have sent : requestPackets s.seen.sys.trace = requestPackets s.ctx.sys.trace :=
      requestPackets_managerEffects _
    exact sent ▸ Exchange.run_reportedFor hrun (made ▸ few) told'
  intro told hmem
  have source := (run_grounded h).told told hmem
  cases told with
  | newDevice | asyncReturns | executeReturns | fetchReturns => trivial
  | fetchResult callback reqId payload =>
      obtain ⟨r, told, type, rfl, rfl⟩ := source
      rcases reported told with ⟨_, _, _, _, _, _, made⟩ | ⟨packet, sent, handled⟩
      · cases type.symm.trans made.type
      · exact ⟨packet, sent, carriesId_of_handled handled, fetched_of_handled type handled⟩
  | executeResult callback reqId status =>
      obtain ⟨r, told, type, rfl, rfl⟩ := source
      rcases reported told with unknown | ⟨packet, sent, handled⟩
      · have notKnown := notKnown_of_madeUp h unknown
        obtain ⟨_, _, _, _, _, _, made⟩ := unknown
        exact Or.inl ⟨made.status, notKnown⟩
      · exact Or.inr ⟨packet, sent, carriesId_of_handled handled, executed_of_handled type handled⟩

/-- No event makes more than one request. -/
theorem length_requests_le (W : Site) (s : ClientExchange) (e : Event) :
    (s.requests W e).length ≤ 1 := by
  have one : ∀ event : KhawasuPc.Event,
      ([event].flatMap (s.ctx.sys.requests W.E)).length ≤ 1 := by
    intro event
    rw [List.flatMap_singleton]
    rcases Sys.requests_cases W.E s.ctx.sys event with none_made | ⟨q, made, -⟩
    · rw [none_made]
      exact Nat.zero_le 1
    · rw [made, List.length_singleton]
  cases e with
  | client e =>
      rw [requests]
      rcases e.events_cases W.L with none_seen | ⟨event, one_seen⟩
      · rw [none_seen]
        exact Nat.zero_le 1
      · rw [one_seen]
        exact one event
  | serve | deliver => exact Nat.zero_le 1

theorem length_requestsMade_le (W : Site) (selfPort : UInt16) (es : List Event) :
    (requestsMade W selfPort es).length ≤ es.length :=
  Machine.length_outputs_le (length_requests_le W) _ es

/-! ## A run

A fetch by name from a device that announced itself. -/

/-- The HELLO of the lamp. -/
def lampHello : Hello := ⟨⟨2⟩, [], [], [⟨[111, 110], ⟨1⟩⟩]⟩

/-- The packet of the HELLO. -/
def lampHelloPacket : Memory :=
  .ofList ([1, 10, 0, 1, 0, 0, 2, 0, 0, 1] ++ lampHello.encode PacketLayout.packed.hello)

/-- The client asks for results, and the lamp announces itself. -/
def lampAnnounced : List Event :=
  [.client (.registerCallbackActionFetchResult (some ⟨9⟩)),
    .client (.dataPacket 2 lampHelloPacket 14)]

/-- The fetch, by name. -/
def lampFetch : Event := .client (.fetchAction Sys.anyEnv 0 2 10 (.ofBytes [111, 110]) [])

/-- The fetch is answered. -/
def lampArrives : List Event :=
  [.serve Exchange.lampPacket ⟨.other 0, .unknown⟩ Exchange.lampHandlers,
    .deliver 0 2 Exchange.lampResponse 9]

/-- The fetch is answered, and the answer collected. -/
def lampCollects : List Event :=
  lampArrives ++ [.client (.poll 0 1 1), .client (.poll 0 2 2)]

/-- The manager after the HELLO. -/
def lampHeardSys : Sys :=
  let s : Sys := .start (Context.managerSetup 1)
  s.after (CApi.meshPacketHandler PacketLayout.packed s.man 2 lampHelloPacket 14)

/-- The system after the HELLO. -/
def lampHeard : ClientExchange :=
  ⟨{ Context.init 1 with sys := lampHeardSys, actionFetchResultCallback := some ⟨9⟩ }, [], []⟩

/-- The system after the fetch. -/
def lampFetched : ClientExchange :=
  { lampHeard with
    ctx := { lampHeard.ctx with
      sys := lampHeardSys.opened (lampHeardSys.man.fetchAction Sys.anyEnv 2 10 0 0 []) } }

variable (E : Enumeration Nat DeviceApiAction) (F : Enumeration CString DeviceCallbackApiAction)

theorem run_lampAnnounced :
    (machine (Exchange.lampSite E F)).run (start 1) lampAnnounced = some lampHeard := rfl

theorem lampHello_laidOut :
    lampHello.LaidOut PacketLayout.packed ⟨lampHelloPacket, 1⟩ where
  devClass := rfl
  nameLen := rfl
  attribCount := rfl
  actionCount := rfl
  records := rfl
  attribFits := by unfold AttribFits; decide
  actionFits := by unfold HelloAction.Fits; decide

/-- The manager knows the action of the lamp. -/
theorem lampHeard_knows : lampHeardSys.man.lookupAction E 2 10 (.ofBytes [111, 110]) =
    some (0, ⟨.ofBytes [111, 110], ⟨1⟩⟩) := by
  have known : lampHeardSys.man.lookupLog 2 10 =
      some (.ofPacket PacketLayout.packed 2 ⟨lampHelloPacket, 1⟩) := rfl
  rw [PhyDeviceManager.lookupAction, known, Option.bind_some]
  refine Enumeration.find?_eq_some rfl (by decide) ?_
  intro id action found _
  rw [lampHello_laidOut.lookup_actionsMap] at found
  cases id with
  | zero => rfl
  | succ id => cases found

theorem step_lampFetch :
    lampHeard.step (Exchange.lampSite E F) lampFetch = some lampFetched := by
  have opens : lampHeardSys.step PacketLayout.packed E
      (.fetchAction Sys.anyEnv 0 2 10 (.name (.ofBytes [111, 110])) []) =
        some (lampHeardSys.opened (lampHeardSys.man.fetchAction Sys.anyEnv 2 10 0 0 [])) := by
    show some (lampHeardSys.opened (lampHeardSys.man.fetchActionByName ..)) = _
    rw [PhyDeviceManager.fetchActionByName, lampHeard_knows]
    rfl
  exact step_sync (W := Exchange.lampSite E F) (s := lampHeard) (n := 0)
    (e := .fetchAction Sys.anyEnv 0 2 10 (.ofBytes [111, 110]) []) rfl rfl rfl opens

/-- The record of the answer. -/
def lampRecord : ActionResponse := { Exchange.lampRecord with timeReceived := 0 }

/-- The manager after the answer arrived. -/
def lampDeliveredSys : Sys :=
  lampFetched.ctx.sys.after
    (CApi.meshPacketHandler PacketLayout.packed lampFetched.ctx.sys.man 2 Exchange.lampResponse 9)

/-- The system after the answer arrived. -/
def lampDelivered : ClientExchange :=
  ⟨{ lampFetched.ctx with sys := lampDeliveredSys, told := [.fetchResult ⟨9⟩ 0 [42, 0, 0, 0, 0]] },
    [Exchange.lampAnswer], [0]⟩

/-- What the manager does with the answer. -/
theorem lampResponse_effects :
    (CApi.meshPacketHandler PacketLayout.packed lampFetched.ctx.sys.man 2 Exchange.lampResponse
      9).effects =
      [.action ⟨1⟩ (some lampRecord), .dispatch ⟨Exchange.lampResponse, 1⟩ 9 2] := rfl

/-- The context hears the answer. -/
theorem lampFetched_hears : lampFetched.ctx.step E LogicalCallbackDevice.nameLength .packed
    (.dataPacket 2 Exchange.lampResponse 9) = some lampDelivered.ctx := by
  have handled : lampFetched.ctx.moved E LogicalCallbackDevice.nameLength lampDeliveredSys =
      lampDelivered.ctx := by
    rw [Context.moved_eq rfl, lampResponse_effects]
    rfl
  rw [← handled]
  rfl

theorem run_lampArrives :
    (machine (Exchange.lampSite E F)).run lampFetched lampArrives = some lampDelivered := by
  have served := step_serve (W := Exchange.lampSite E F) (s := lampFetched)
    (r := Exchange.lampPacket) (by decide) (Exchange.lampSite_serve E F)
  have packet : Exchange.lampAnswer.InPacket PacketLayout.packed Exchange.lampResponse 9 := by
    decide
  have delivered : step (Exchange.lampSite E F)
      { lampFetched with answers := lampFetched.answers ++ [Exchange.lampAnswer] }
      (.deliver 0 2 Exchange.lampResponse 9) = some lampDelivered :=
    step_deliver (a := Exchange.lampAnswer) rfl packet (lampFetched_hears E)
  refine (Machine.run_cons ..).trans (Option.bind_eq_some_iff.mpr ⟨_, served, ?_⟩)
  exact Machine.run_singleton (M := machine (Exchange.lampSite E F)) delivered

/-- The answer is told to the callback, and returned. -/
theorem run_lampCollects :
    ∃ s, (machine (Exchange.lampSite E F)).run lampFetched lampCollects = some s ∧
      s.ctx.told = [.fetchResult ⟨9⟩ 0 [42, 0, 0, 0, 0], .fetchResult ⟨9⟩ 0 [42, 0, 0, 0, 0],
        .fetchReturns 0 [42, 0, 0, 0, 0]] := by
  refine ⟨_, Machine.run_trans (run_lampArrives E F) rfl, ?_⟩
  rfl

/-- The fetch, and what happens before and after it. -/
theorem run_lampFetch : ∃ s, (machine (Exchange.lampSite E F)).run (start 1)
      (lampAnnounced ++ lampFetch :: lampCollects) = some s ∧
    .fetchResult ⟨9⟩ 0 [42, 0, 0, 0, 0] ∈ s.ctx.told := by
  obtain ⟨s, hrun, told⟩ := run_lampCollects E F
  refine ⟨s, Machine.run_through (run_lampAnnounced E F) (step_lampFetch E F) hrun, ?_⟩
  rw [told]
  exact List.mem_cons_self ..

/-- The callback for results is told what the handler returned. -/
theorem lampFetch_results :
    ∃ packet, CarriesId packet 0 ∧ Fetched (Exchange.lampSite (.stored ..) (.stored ..))
      (lampAnnounced ++ lampFetch :: lampCollects) packet [42, 0, 0, 0, 0] := by
  obtain ⟨s, hrun, told⟩ := run_lampFetch (.stored ..) (.stored ..)
  obtain ⟨packet, -, result⟩ :=
    run_results hrun ((length_requestsMade_le ..).trans (by decide)) _ told
  exact ⟨packet, result⟩

end ClientExchange

end KhawasuPc
