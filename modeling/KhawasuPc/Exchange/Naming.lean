import KhawasuPc.Exchange.Client
import KhawasuPc.Manager.Announcements
import KhawasuPc.Manager.Discovery

/-!
# Calls by name, from end to end

A client names a device and an action, and its manager knows the number of the action from the
HELLO packets of the device.  Where these list what is registered at the device, what
`fetch_action` and `execute_action` return is what the handler registered under that name returned
for this very call, or an error (`run_fetchReturns`, `run_executeReturns`).
-/

namespace KhawasuPc

open Lib

/-! ## Names -/

/-- The actions registered at an address fit in a HELLO, each under a name of its own. -/
structure Site.Named (W : Site) (place : LogicalAddress) : Prop where
  few : (W.registrations place).length ≤ 255
  nodup : ((W.registrations place).map (·.action.name)).Nodup
  nonempty : ∀ reg ∈ W.registrations place, reg.action.name.bytes ≠ []

/-- The description of a device lists what is registered there. -/
def Site.Lists (W : Site) (place : LogicalAddress) (info : LogDeviceInfo) : Prop :=
  ∃ (log : LogicalPacket) (content : Hello), content.LaidOut W.L log ∧
    content.actions = (W.device place).announced ∧ info = .ofPacket W.L place.phy log

variable {W : Site} {place : LogicalAddress} {name : CString} {reg : Registration}

/-- The number of a registration fits in a packet. -/
theorem Site.Named.registrationAt_eq (h : W.Named place) {id : Nat}
    (found : (W.registrations place)[id]? = some reg) :
    registrationAt (W.registrations place) (UInt16.ofNat id).toNat = some reg := by
  have inside : id < (W.registrations place).length := (List.getElem?_eq_some_iff.mp found).1
  have same : (UInt16.ofNat id).toNat = id := by
    have few := h.few
    rw [UInt16.toNat_ofNat']
    exact Nat.mod_eq_of_lt (by omega)
  rw [registrationAt, if_pos (Int.natCast_nonneg _), Int.toNat_natCast, same, found]

/-- By its number, a registration is dispatched to. -/
theorem Site.Named.dispatched_eq (h : W.Named place) {id : Nat}
    (found : (W.registrations place)[id]? = some reg) :
    W.dispatched place (UInt16.ofNat id) = some reg := by
  rw [dispatched, h.registrationAt_eq found, Option.bind_some,
    lastNamed_of_mem h.nodup (List.mem_of_getElem? found), Option.map_some]

/-- What a manager finds under a name is the number of what is registered under it. -/
theorem Site.Named.lookupAction (h : W.Named place) {man : PhyDeviceManager}
    (lists : ∀ info, man.lookupLog place.phy place.log = some info → W.Lists place info)
    {id : Nat} {action : DeviceApiAction}
    (found : man.lookupAction W.E place.phy place.log name = some (id, action)) :
    ∃ reg, (W.registrations place)[id]? = some reg ∧ reg.action.name = name := by
  obtain ⟨info, known, found⟩ := Option.bind_eq_some_iff.mp found
  obtain ⟨log, content, laidOut, actions, rfl⟩ := lists info known
  rw [Site.device, LogicalCallbackDevice.announced_build h.few] at actions
  obtain ⟨reg, at_id, rfl, named⟩ :=
    (find_registered (laidOut.lookup_registered place.phy actions h.nonempty) h.nodup).mp found
  exact ⟨reg, at_id, named⟩

namespace Sys

variable {L : PacketLayout} {E : Enumeration Nat DeviceApiAction} {s s' : Sys}
  {events : List Event} {addr : FarAddr} {port : UInt16} {D : LogDeviceInfo → Prop}

/-- A device is known as it was, or as one of the events describes it. -/
theorem run_describes (h : (machine L E).run s events = some s')
    (before : ∀ info, s.man.lookupLog addr port = some info → D info)
    (described : ∀ e ∈ events, ∀ info, e.describes L addr port = some info → D info) :
    ∀ info, s'.man.lookupLog addr port = some info → D info := by
  refine Machine.run_meets (M := machine L E)
    (C := fun _ e => ∀ info, e.describes L addr port = some info → D info)
    (P := fun s => ∀ info, s.man.lookupLog addr port = some info → D info) ?_ h
    (Machine.meets_of_forall (fun e he _ => described e he) _) before
  intro s e t described before hstep info known
  rw [step_stored hstep, Option.or_eq_some_iff] at known
  rcases known with old | ⟨-, new⟩
  · exact before info old
  · exact described info new

end Sys

/-- A packet that answers a request is no HELLO. -/
theorem Answer.InPacket.announces {L : PacketLayout} {answer : Answer} {mem : Memory}
    {size : UInt16} (h : answer.InPacket L mem size) (srcPhy : FarAddr) :
    LogicalPacket.announces L ⟨mem, L.dataOff .unreliable⟩ srcPhy = none := by
  obtain ⟨-, -, carries⟩ := h
  unfold LogicalPacket.announces
  cases body : answer.body with
  | response =>
      rw [body] at carries
      rw [carries.1]
  | result =>
      rw [body] at carries
      rw [carries.1]

namespace ClientExchange

variable {s t s₀ s₁ : ClientExchange} {e : Event} {es pre mid : List Event} {selfPort : UInt16}

/-- Where the event is a HELLO of the device at the address, it lists what is registered there. -/
def Truthful (W : Site) (place : LogicalAddress) : Event → Prop
  | .client (.dataPacket srcPhy mem size) => ∀ log, overlayData W.L mem size = some log →
      log.announces W.L srcPhy = some place → ∃ content : Hello, content.LaidOut W.L log ∧
        content.actions = (W.device place).announced
  | _ => True

/-- What the manager knows of the device lists what is registered there. -/
def Knows (W : Site) (place : LogicalAddress) (s : ClientExchange) : Prop :=
  ∀ info, s.ctx.sys.man.lookupLog place.phy place.log = some info → W.Lists place info

/-- The events of the manager keep what it knows, if they describe the device so. -/
theorem Knows.moves (h : Knows W place s) {ctx : Context} {events : List KhawasuPc.Event}
    (hrun : (Sys.machine W.L W.E).run s.ctx.sys.managed events = some ctx.sys.managed)
    (described : ∀ event ∈ events, ∀ info, event.describes W.L place.phy place.log = some info →
      W.Lists place info) :
    ∀ info, ctx.sys.man.lookupLog place.phy place.log = some info → W.Lists place info := by
  have moved : ∀ info, ctx.sys.managed.man.lookupLog place.phy place.log = some info →
      W.Lists place info := Sys.run_describes hrun h described
  exact moved

theorem Knows.step (h : Knows W place s) (truthful : Truthful W place e)
    (hstep : s.step W e = some t) : Knows W place t := by
  cases step_steps hstep with
  | client e ctx silent step =>
      refine h.moves (Context.step_events step) fun event hmem info described => ?_
      obtain ⟨log, size, rfl, hello, -, rfl⟩ := describes_eq_some described
      cases e with
      | dataPacket srcPhy mem size' =>
          obtain ⟨log', found, same⟩ := Option.map_eq_some_iff.mp (Option.mem_toList.mp hmem)
          cases same
          obtain ⟨content, laidOut, actions⟩ := truthful log found hello
          exact ⟨log, content, laidOut, actions, rfl⟩
      | registerCallbackNewDevice | registerCallbackActionExecuteResult
      | registerCallbackActionFetchResult => cases hmem
      | _ => cases List.mem_singleton.mp hmem
  | serve => exact h
  | deliver i srcPhy mem size answer ctx found packet step =>
      refine h.moves (Context.step_events step) fun event hmem info described => ?_
      rw [ContextEvent.events, packet.overlayData] at hmem
      cases List.mem_singleton.mp hmem
      rw [describes_packet, packet.announces, if_neg (Option.some_ne_none _).symm] at described
      cases described

/-- Truthful HELLO packets are all that a manager knows of a device. -/
theorem run_knows (h : (machine W).run (start selfPort) es = some s)
    (truthful : ∀ e ∈ es, Truthful W place e) : Knows W place s :=
  Machine.run_meets (M := machine W) (C := fun _ e => Truthful W place e)
    (fun _ _ _ truthful h hstep => h.step truthful hstep) h
    (Machine.meets_of_forall (fun e he _ => truthful e he) _) fun _ found => by cases found

/-! ## Calls -/

/-- A call that returned at once stays so. -/
theorem run_returnedStays {n : Nat} {v : Returned}
    (hpre : (machine W).run (start selfPort) pre = some s₀) (hstep : s₀.step W e = some s₁)
    (hmid : (machine W).run s₁ mid = some s)
    (returned : s₁.ctx.sys.calls.lookup n = some (.returned v)) :
    s.ctx.sys.calls.lookup n = some (.returned v) := by
  have reached : (machine W).run (start selfPort) (pre ++ [e]) = some s₁ := by
    rw [Machine.run_snoc, hpre]
    exact hstep
  have numbered : s₁.ctx.sys.managed.CallsNumbered := (run_grounded reached).calls
  have moved : s.ctx.sys.managed.CallsNumbered ∧
      s.ctx.sys.managed.calls.lookup n = some (.returned v) := by
    refine Machine.run_invariant (M := Sys.machine W.L W.E)
      (P := fun sys => sys.CallsNumbered ∧ sys.calls.lookup n = some (.returned v)) ?_
      ((Context.manager W.L W.E).run ((context W).run hmid trivial).2 trivial).2
      ⟨numbered, returned⟩
    intro sys e sys' before hstep
    obtain ⟨-, hnext⟩ := Sys.next_of_step hstep
    exact ⟨before.1.next hnext, before.1.returned hnext before.2⟩
  exact moved.2

/-- The manager of the context keeps its port. -/
theorem run_selfPort (h : (machine W).run (start selfPort) es = some s) :
    s.ctx.sys.man.selfPort = selfPort := by
  have setup : s.ctx.sys.man.setup = Context.managerSetup selfPort := by
    refine Machine.run_invariant (M := Context.machine W.E W.lengthOf W.L)
      (P := fun ctx => ctx.sys.man.setup = Context.managerSetup selfPort)
      (fun _ _ _ before hstep => (Context.step_setup hstep).trans before)
      ((context W).run h trivial).2 rfl
  exact congrArg Setup.selfPort setup

/-- What a function of the C interface that waits returned was handled for the packet it sent. -/
theorem run_callHandled {e : ContextEvent} {f : KhawasuPc.Event} {call : SyncCall} {v : Returned}
    {packet : SentPacket} (hpre : (machine W).run (start selfPort) pre = some s₀)
    (hstep : s₀.step W (.client e) = some s₁) (events : e.events W.L = [f])
    (hcall : f.isSyncCall = true)
    (waits : s₁.ctx.sys.calls.lookup s₀.ctx.sys.nextCall = some (.polling call))
    (sent : requestPackets s₁.ctx.sys.trace = requestPackets s₀.ctx.sys.trace ++ [packet])
    (hmid : (machine W).run s₁ mid = some s)
    (few : (requestsMade W selfPort (pre ++ .client e :: mid)).length ≤ 256)
    (returned : s.ctx.sys.calls.lookup s₀.ctx.sys.nextCall = some (.returned v)) :
    v.Tells (Exchange.HandledFor W
      ((exchange W).labels (start selfPort) (pre ++ .client e :: mid)) packet) := by
  have labels : (exchange W).labels (start selfPort) (pre ++ .client e :: mid) =
      (exchange W).labels (start selfPort) pre ++ .client f :: (exchange W).labels s₁ mid := by
    have moved : (machine W).step s₀ (.client e) = some s₁ := hstep
    rw [(exchange W).labels_through hpre moved]
    show _ ++ ((e.events W.L).map Exchange.Event.client ++ _) = _
    rw [events]
    rfl
  have step_seen : s₀.seen.step W (.client f) = some s₁.seen := by
    have hrun := step_seenEvents hstep
    rw [seenEvents, events] at hrun
    obtain ⟨x, hx, done⟩ := Option.bind_eq_some_iff.mp hrun
    cases done
    exact hx
  have sent' : requestPackets s₁.seen.sys.trace = requestPackets s₀.seen.sys.trace ++ [packet] := by
    show requestPackets (managerEffects s₁.ctx.sys.trace) =
      requestPackets (managerEffects s₀.ctx.sys.trace) ++ [packet]
    rw [requestPackets_managerEffects, requestPackets_managerEffects, sent]
  have hrun : (machine W).run (start selfPort) (pre ++ .client e :: mid) = some s :=
    Machine.run_through hpre hstep hmid
  rw [← (run_seen hrun).2, labels] at few
  rw [labels]
  exact Exchange.run_callHandled (run_seen hpre).1 hcall step_seen waits
    ((exchange W).run hmid trivial).2 few returned sent'

/-- The call of a function of the C interface is one of the manager. -/
theorem step_opens {event : KhawasuPc.Event} {n : Nat} {c : Called Sync} {e : ContextEvent}
    (hstep : s₀.step W (.client e) = some s₁)
    (calls : s₀.ctx.next W.E W.lengthOf W.L e = s₀.ctx.sync W.E W.lengthOf W.L event n)
    (opens : s₀.ctx.sys.next W.L W.E event = some (s₀.ctx.sys.opened c)) :
    s₁.ctx.sys = s₀.ctx.sys.opened c := by
  cases step_steps hstep with
  | client e ctx silent step =>
      obtain ⟨-, hnext⟩ := Context.next_of_step step
      rw [calls] at hnext
      obtain ⟨sys, hsys, rfl⟩ := Context.sync_some hnext
      obtain ⟨-, opened⟩ := Sys.next_of_step hsys
      cases opens.symm.trans opened
      rw [Context.finish_sys, Context.moved_sys]

/-- The handlers of a device were called with a packet. -/
def Served (es : List Event) (packet : SentPacket) (handlers : Handlers) : Prop :=
  ∃ slot, Event.serve packet slot handlers ∈ es

variable {env : Ambient} {startTime : UInt64} {destPhy : UInt32} {destLog : UInt16}
  {data : List UInt8} {requireResult : Bool}

/-- What `fetch_action` returns comes from the handler of the action with the number that the
manager has for the name. -/
theorem run_fetchedByName (named : W.Named ⟨destPhy.toNat, destLog⟩)
    (hpre : (machine W).run (start selfPort) pre = some s₀)
    (truthful : ∀ e ∈ pre, Truthful W ⟨destPhy.toNat, destLog⟩ e)
    (hstep : s₀.step W (.client (.fetchAction env startTime destPhy destLog name data)) = some s₁)
    (hmid : (machine W).run s₁ mid = some s)
    (few : (requestsMade W selfPort (pre ++
      .client (.fetchAction env startTime destPhy destLog name data) :: mid)).length ≤ 256)
    {payload : List UInt8} (told : .fetchReturns s₀.ctx.sys.nextCall payload ∈ s.ctx.told) :
    ∃ reg : Registration, reg.action.name = name ∧ ∃ reqId actionId handlers,
      let packet : SentPacket := ⟨⟨destPhy.toNat, destLog⟩, selfPort, .unreliable,
        .actionFetch reqId actionId data⟩
      registrationAt (W.registrations packet.dest) actionId.toNat = some reg ∧
      requestPackets s₁.ctx.sys.trace = requestPackets s₀.ctx.sys.trace ++ [packet] ∧
      Served (pre ++ .client (.fetchAction env startTime destPhy destLog name data) :: mid)
        packet handlers ∧
      ShownAs W.L (handlers.get (reg.getCall data ⟨W.self, selfPort⟩ reqId)) payload := by
  have hrun : (machine W).run (start selfPort) (pre ++
      .client (.fetchAction env startTime destPhy destLog name data) :: mid) = some s :=
    Machine.run_through hpre hstep hmid
  obtain ⟨r, returned, rfl⟩ := (run_grounded hrun).told _ told
  have sys_eq := step_opens hstep (n := s₀.ctx.sys.nextCall) rfl rfl
  cases found : s₀.ctx.sys.man.lookupAction W.E destPhy.toNat destLog name with
  | none =>
      have at_once : s₁.ctx.sys.calls.lookup s₀.ctx.sys.nextCall =
          some (.returned (.response none)) := by
        rw [sys_eq, Sys.opened_calls, Finmap.lookup_insert, PhyDeviceManager.fetchActionByName,
          found]
      cases (run_returnedStays hpre hstep hmid at_once).symm.trans returned
  | some action =>
      obtain ⟨reg, at_id, name_eq⟩ := named.lookupAction (run_knows hpre truthful) found
      refine ⟨reg, name_eq, ?_⟩
      rw [PhyDeviceManager.fetchActionByName, found] at sys_eq
      have waits : s₁.ctx.sys.calls.lookup s₀.ctx.sys.nextCall = some (.polling
          ⟨.fetch, s₀.ctx.sys.man.actionResponsesCounter, startTime, none⟩) := by
        rw [sys_eq, Sys.opened_calls, Finmap.lookup_insert]
        rfl
      have sent : requestPackets s₁.ctx.sys.trace = requestPackets s₀.ctx.sys.trace ++
          [⟨⟨destPhy.toNat, destLog⟩, selfPort, .unreliable,
            .actionFetch s₀.ctx.sys.man.actionResponsesCounter (UInt16.ofNat action.1) data⟩] := by
        rw [sys_eq, ← run_selfPort hpre]
        exact requestPackets_append ..
      have handled := run_callHandled hpre hstep rfl rfl waits sent hmid few returned r rfl
      obtain ⟨slot, handlers, reqId, actionId, data', reg', served, asks, dispatched, shown⟩ :=
        fetched_of_handled (type_of_handled handled) handled
      cases asks
      cases dispatched.symm.trans (named.dispatched_eq at_id)
      exact ⟨_, _, handlers, named.registrationAt_eq at_id, sent, ⟨slot, served⟩, shown⟩

/-- In every run of up to 256 requests in which the HELLO packets of a device were truthful: what
`fetch_action` returns is what the handler registered there under the name returned when it was
called with the data for this call, as the record of the request shows it. -/
theorem run_fetchReturns (named : W.Named ⟨destPhy.toNat, destLog⟩)
    (hpre : (machine W).run (start selfPort) pre = some s₀)
    (truthful : ∀ e ∈ pre, Truthful W ⟨destPhy.toNat, destLog⟩ e)
    (hstep : s₀.step W (.client (.fetchAction env startTime destPhy destLog name data)) = some s₁)
    (hmid : (machine W).run s₁ mid = some s)
    (few : (requestsMade W selfPort (pre ++
      .client (.fetchAction env startTime destPhy destLog name data) :: mid)).length ≤ 256)
    {payload : List UInt8} (told : .fetchReturns s₀.ctx.sys.nextCall payload ∈ s.ctx.told) :
    ∃ reg ∈ W.registrations ⟨destPhy.toNat, destLog⟩, reg.action.name = name ∧
      ∃ reqId actionId handlers,
      let packet : SentPacket := ⟨⟨destPhy.toNat, destLog⟩, selfPort, .unreliable,
        .actionFetch reqId actionId data⟩
      let returned := handlers.get (reg.getCall data ⟨W.self, selfPort⟩ reqId)
      requestPackets s₁.ctx.sys.trace = requestPackets s₀.ctx.sys.trace ++ [packet] ∧
      Served (pre ++ .client (.fetchAction env startTime destPhy destLog name data) :: mid)
        packet handlers ∧
      ShownAs W.L returned payload ∧ (payload = returned ↔
        W.L.dataOff .unreliable + W.L.responsePayload + 1 = W.L.sizeActionResponse.toNat) := by
  obtain ⟨reg, name_eq, reqId, actionId, handlers, at_id, sent, served, shown⟩ :=
    run_fetchedByName named hpre truthful hstep hmid few told
  exact ⟨reg, mem_of_registrationAt at_id, name_eq, reqId, actionId, handlers, sent, served, shown,
    shown.eq_iff⟩

/-- What `execute_action` returns comes from there too, or says why it does not. -/
theorem run_executedByName (named : W.Named ⟨destPhy.toNat, destLog⟩)
    (hpre : (machine W).run (start selfPort) pre = some s₀)
    (truthful : ∀ e ∈ pre, Truthful W ⟨destPhy.toNat, destLog⟩ e)
    (hstep : s₀.step W (.client
      (.executeAction env startTime destPhy destLog name data requireResult)) = some s₁)
    (hmid : (machine W).run s₁ mid = some s)
    (few : (requestsMade W selfPort (pre ++ .client
      (.executeAction env startTime destPhy destLog name data requireResult) :: mid)).length ≤ 256)
    {status : ActionExecuteStatus}
    (told : .executeReturns s₀.ctx.sys.nextCall status ∈ s.ctx.told) :
    status = .timeout ∨
      (status = .actionNotFound ∧ ¬ s₀.ctx.Knows W.E destPhy destLog name) ∨
      (status = .unknown ∧ requireResult = false) ∨
      ∃ reg : Registration, reg.action.name = name ∧ ∃ reqId actionId handlers,
          let packet : SentPacket := ⟨⟨destPhy.toNat, destLog⟩, selfPort, .unreliable,
            .actionExecute reqId actionId .requireStatusResponse data⟩
          registrationAt (W.registrations packet.dest) actionId.toNat = some reg ∧
          requestPackets s₁.ctx.sys.trace = requestPackets s₀.ctx.sys.trace ++ [packet] ∧
          Served (pre ++ .client
            (.executeAction env startTime destPhy destLog name data requireResult) :: mid)
            packet handlers ∧
          status = handlers.set (reg.setCall data ⟨W.self, selfPort⟩) := by
  have hrun : (machine W).run (start selfPort) (pre ++ .client
      (.executeAction env startTime destPhy destLog name data requireResult) :: mid) = some s :=
    Machine.run_through hpre hstep hmid
  have returned : s.ctx.sys.calls.lookup s₀.ctx.sys.nextCall = some (.returned (.status status)) :=
    (run_grounded hrun).told _ told
  have sys_eq := step_opens hstep (n := s₀.ctx.sys.nextCall) rfl rfl
  cases found : s₀.ctx.sys.man.lookupAction W.E destPhy.toNat destLog name with
  | none =>
      have at_once : s₁.ctx.sys.calls.lookup s₀.ctx.sys.nextCall =
          some (.returned (.status .actionNotFound)) := by
        rw [sys_eq, Sys.opened_calls, Finmap.lookup_insert, PhyDeviceManager.executeActionByName,
          found]
      cases (run_returnedStays hpre hstep hmid at_once).symm.trans returned
      exact Or.inr (Or.inl ⟨rfl, Context.not_knows.mpr found⟩)
  | some action =>
      rw [PhyDeviceManager.executeActionByName, found] at sys_eq
      cases requireResult with
      | false =>
          have at_once : s₁.ctx.sys.calls.lookup s₀.ctx.sys.nextCall =
              some (.returned (.status .unknown)) := by
            rw [sys_eq, Sys.opened_calls, Finmap.lookup_insert]
            rfl
          cases (run_returnedStays hpre hstep hmid at_once).symm.trans returned
          exact Or.inr (Or.inr (Or.inl ⟨rfl, rfl⟩))
      | true =>
          obtain ⟨reg, at_id, name_eq⟩ := named.lookupAction (run_knows hpre truthful) found
          have waits : s₁.ctx.sys.calls.lookup s₀.ctx.sys.nextCall = some (.polling
              ⟨.execute, s₀.ctx.sys.man.actionResponsesCounter, startTime, none⟩) := by
            rw [sys_eq, Sys.opened_calls, Finmap.lookup_insert]
            rfl
          have sent : requestPackets s₁.ctx.sys.trace = requestPackets s₀.ctx.sys.trace ++
              [⟨⟨destPhy.toNat, destLog⟩, selfPort, .unreliable,
                .actionExecute s₀.ctx.sys.man.actionResponsesCounter (UInt16.ofNat action.1)
                  .requireStatusResponse data⟩] := by
            rw [sys_eq, ← run_selfPort hpre]
            exact requestPackets_append ..
          rcases run_callHandled hpre hstep rfl rfl waits sent hmid few returned with
            late | ⟨r, handled, rfl⟩
          · exact Or.inl late
          refine Or.inr (Or.inr (Or.inr ⟨reg, name_eq, ?_⟩))
          obtain ⟨slot, handlers, reqId, actionId, data', served, asks, answered⟩ :=
            executed_of_handled (type_of_handled handled) handled
          cases asks
          rcases answered with ⟨reg', dispatched, status_eq⟩ | ⟨none_registered, -⟩
          · cases dispatched.symm.trans (named.dispatched_eq at_id)
            exact ⟨_, _, handlers, named.registrationAt_eq at_id, sent, ⟨slot, served⟩, status_eq⟩
          · rw [none_registered] at at_id
            cases at_id

/-- In every such run, what `execute_action` returns is what the handler registered under the name
returned when it was called with the data for this call, or says that there was no answer, that
the name was not known, or that none was asked for. -/
theorem run_executeReturns (named : W.Named ⟨destPhy.toNat, destLog⟩)
    (hpre : (machine W).run (start selfPort) pre = some s₀)
    (truthful : ∀ e ∈ pre, Truthful W ⟨destPhy.toNat, destLog⟩ e)
    (hstep : s₀.step W (.client
      (.executeAction env startTime destPhy destLog name data requireResult)) = some s₁)
    (hmid : (machine W).run s₁ mid = some s)
    (few : (requestsMade W selfPort (pre ++ .client
      (.executeAction env startTime destPhy destLog name data requireResult) :: mid)).length ≤ 256)
    {status : ActionExecuteStatus}
    (told : .executeReturns s₀.ctx.sys.nextCall status ∈ s.ctx.told) :
    status = .timeout ∨
      (status = .actionNotFound ∧ ¬ s₀.ctx.Knows W.E destPhy destLog name) ∨
      (status = .unknown ∧ requireResult = false) ∨
      ∃ reg ∈ W.registrations ⟨destPhy.toNat, destLog⟩, reg.action.name = name ∧
        ∃ reqId actionId handlers,
          let packet : SentPacket := ⟨⟨destPhy.toNat, destLog⟩, selfPort, .unreliable,
            .actionExecute reqId actionId .requireStatusResponse data⟩
          requestPackets s₁.ctx.sys.trace = requestPackets s₀.ctx.sys.trace ++ [packet] ∧
          Served (pre ++ .client
            (.executeAction env startTime destPhy destLog name data requireResult) :: mid)
            packet handlers ∧
          status = handlers.set (reg.setCall data ⟨W.self, selfPort⟩) := by
  rcases run_executedByName named hpre truthful hstep hmid few told with
    late | missing | unasked | ⟨reg, name_eq, reqId, actionId, handlers, at_id, handled⟩
  · exact Or.inl late
  · exact Or.inr (Or.inl missing)
  · exact Or.inr (Or.inr (Or.inl unasked))
  · exact Or.inr (Or.inr (Or.inr
      ⟨reg, mem_of_registrationAt at_id, name_eq, reqId, actionId, handlers, handled⟩))

/-! ## A run -/

/-- The HELLO of the lamp is truthful. -/
theorem lampAnnounced_truthful (E : Enumeration Nat DeviceApiAction)
    (F : Enumeration CString DeviceCallbackApiAction) :
    ∀ e ∈ lampAnnounced, Truthful (Exchange.lampSite E F) ⟨(2 : UInt32).toNat, 10⟩ e := by
  intro e he
  rcases List.mem_cons.mp he with rfl | he
  · trivial
  · cases List.mem_singleton.mp he
    intro log found hello
    cases found
    exact ⟨lampHello, lampHello_laidOut, rfl⟩

theorem lampSite_named (E : Enumeration Nat DeviceApiAction)
    (F : Enumeration CString DeviceCallbackApiAction) :
    (Exchange.lampSite E F).Named ⟨(2 : UInt32).toNat, 10⟩ where
  few := by
    show 1 ≤ 255
    decide
  nodup := List.nodup_singleton _
  nonempty := by
    intro reg hreg
    cases List.mem_singleton.mp hreg
    decide

/-- The fetch returns what the handler of the lamp returned. -/
theorem lampFetch_fetchReturns :
    ∃ reg ∈ (Exchange.lampSite (.stored ..) (.stored ..)).registrations ⟨2, 10⟩,
      reg.action.name = .ofBytes [111, 110] ∧ ∃ packet handlers reqId,
        Served (lampAnnounced ++ lampFetch :: lampCollects) packet handlers ∧
        ShownAs .packed (handlers.get (reg.getCall [] ⟨1, 1⟩ reqId)) [42, 0, 0, 0, 0] := by
  obtain ⟨s, hrun, told⟩ := run_lampCollects (.stored ..) (.stored ..)
  have last : .fetchReturns 0 [42, 0, 0, 0, 0] ∈ s.ctx.told := by
    rw [told]
    exact List.mem_cons_of_mem _ (List.mem_cons_of_mem _ (List.mem_singleton_self _))
  obtain ⟨reg, hreg, name, reqId, actionId, handlers, -, served, shown, -⟩ :=
    run_fetchReturns (lampSite_named ..) (run_lampAnnounced (.stored ..) (.stored ..))
      (lampAnnounced_truthful (.stored ..) (.stored ..)) (step_lampFetch ..) hrun
      ((length_requestsMade_le ..).trans (by decide)) last
  exact ⟨reg, hreg, name, _, handlers, reqId, served, shown⟩

/-- The lamp is turned on, by name. -/
def lampExecute : Event := .client (.executeAction Sys.anyEnv 0 2 10 (.ofBytes [111, 110]) [] true)

/-- The packet of the call. -/
def lampExecutePacket : SentPacket :=
  ⟨⟨2, 10⟩, 1, .unreliable, .actionExecute 0 0 .requireStatusResponse []⟩

/-- Handlers that return 7. -/
def lampSwitch : Handlers := ⟨fun _ => [], fun _ => .other 7⟩

/-- The answer of the lamp. -/
def lampResult : Answer :=
  ⟨lampExecutePacket, some ⟨⟨2⟩, .ofBytes [111, 110], ⟨1⟩, [], ⟨1, 1⟩, none, 0⟩, 0,
    .result (.other 7)⟩

/-- The packet of the answer. -/
def lampResultPacket : Memory := .ofList [1, 10, 0, 1, 0, 3, 0, 7]

/-- The call is answered. -/
def lampSwitches : List Event :=
  [.serve lampExecutePacket ⟨.other 0, .unknown⟩ lampSwitch,
    .deliver 0 2 lampResultPacket 8]

/-- The system after the call. -/
def lampExecuted : ClientExchange :=
  { lampHeard with
    ctx := { lampHeard.ctx with
      sys := lampHeardSys.opened
        (lampHeardSys.man.executeAction Sys.anyEnv 2 10 0 0 [] true) } }

/-- The manager after the answer arrived. -/
def lampSwitchedSys : Sys :=
  lampExecuted.ctx.sys.after
    (CApi.meshPacketHandler PacketLayout.packed lampExecuted.ctx.sys.man 2 lampResultPacket 8)

/-- The system after the answer arrived. -/
def lampSwitched : ClientExchange :=
  ⟨{ lampExecuted.ctx with sys := lampSwitchedSys }, [lampResult], [0]⟩

variable (E : Enumeration Nat DeviceApiAction) (F : Enumeration CString DeviceCallbackApiAction)

theorem step_lampExecute :
    lampHeard.step (Exchange.lampSite E F) lampExecute = some lampExecuted := by
  have opens : lampHeardSys.step PacketLayout.packed E
      (.executeAction Sys.anyEnv 0 2 10 (.name (.ofBytes [111, 110])) [] true) =
        some (lampHeardSys.opened
          (lampHeardSys.man.executeAction Sys.anyEnv 2 10 0 0 [] true)) := by
    show some (lampHeardSys.opened (lampHeardSys.man.executeActionByName ..)) = _
    rw [PhyDeviceManager.executeActionByName, lampHeard_knows]
    rfl
  exact step_sync (W := Exchange.lampSite E F) (s := lampHeard) (n := 0)
    (e := .executeAction Sys.anyEnv 0 2 10 (.ofBytes [111, 110]) [] true) rfl rfl rfl opens

/-- The lamp answers the call. -/
theorem lampSite_switches : (Exchange.lampSite E F).serve lampExecutePacket ⟨.other 0, .unknown⟩
    lampSwitch = some [lampResult] := by
  have registered := LogicalCallbackDevice.build_registered 10
    ((Exchange.lampSite E F).registrations ⟨2, 10⟩)
  have first : registrationAt ((Exchange.lampSite E F).registrations ⟨2, 10⟩) 0 = some _ := rfl
  obtain ⟨last, last_eq, dispatches⟩ := registered.dispatchesTo (F := F) first
  cases last_eq
  have asks : lampExecutePacket.body = .actionExecute 0 0 .requireStatusResponse [] := rfl
  exact (LogicalDeviceManager.serve_execute asks).trans
    (congrArg (Option.map _) (dispatches.set ..))

/-- The context hears the answer. -/
theorem lampExecuted_hears :
    lampExecuted.ctx.step E LogicalCallbackDevice.nameLength .packed
      (.dataPacket 2 lampResultPacket 8) =
        some { lampExecuted.ctx with sys := lampSwitchedSys } := by
  have effects : (CApi.meshPacketHandler PacketLayout.packed lampExecuted.ctx.sys.man 2
      lampResultPacket 8).effects =
        [.action ⟨1⟩ (some ⟨false, 0, .execute, 2, 10, .other 7, [], 0, 0⟩),
          .dispatch ⟨lampResultPacket, 1⟩ 8 2] := rfl
  have handled : lampExecuted.ctx.moved E LogicalCallbackDevice.nameLength lampSwitchedSys =
      { lampExecuted.ctx with sys := lampSwitchedSys } := by
    rw [Context.moved_eq rfl, effects]
    rfl
  rw [← handled]
  rfl

/-- The answer arrives, and the call returns it. -/
theorem run_lampSwitches :
    ∃ s, (machine (Exchange.lampSite E F)).run lampExecuted
        (lampSwitches ++ [.client (.poll 0 1 1), .client (.poll 0 2 2)]) = some s ∧
      s.ctx.told = [.executeReturns 0 (.other 7)] := by
  have served := step_serve (W := Exchange.lampSite E F) (s := lampExecuted)
    (r := lampExecutePacket) (by decide) (lampSite_switches E F)
  have packet : lampResult.InPacket PacketLayout.packed lampResultPacket 8 := by decide
  have delivered : step (Exchange.lampSite E F)
      { lampExecuted with answers := lampExecuted.answers ++ [lampResult] }
      (.deliver 0 2 lampResultPacket 8) = some lampSwitched :=
    step_deliver (a := lampResult) rfl packet (lampExecuted_hears E)
  have switches : (machine (Exchange.lampSite E F)).run lampExecuted lampSwitches =
      some lampSwitched :=
    (Machine.run_cons ..).trans (Option.bind_eq_some_iff.mpr ⟨_, served,
      Machine.run_singleton (M := machine (Exchange.lampSite E F)) delivered⟩)
  exact ⟨_, Machine.run_trans switches rfl, rfl⟩

/-- The call returns what the handler of the lamp returned. -/
theorem lampExecute_executeReturns :
    ∃ reg ∈ (Exchange.lampSite (.stored ..) (.stored ..)).registrations ⟨2, 10⟩,
      reg.action.name = .ofBytes [111, 110] ∧ ∃ packet handlers,
        Served (lampAnnounced ++ lampExecute :: (lampSwitches ++
          [.client (.poll 0 1 1), .client (.poll 0 2 2)])) packet handlers ∧
        .other 7 = handlers.set (reg.setCall [] ⟨1, 1⟩) := by
  obtain ⟨s, hrun, told⟩ := run_lampSwitches (.stored ..) (.stored ..)
  have last : .executeReturns 0 (.other 7) ∈ s.ctx.told := by
    rw [told]
    exact List.mem_singleton_self _
  rcases run_executeReturns (lampSite_named ..) (run_lampAnnounced (.stored ..) (.stored ..))
      (lampAnnounced_truthful (.stored ..) (.stored ..)) (step_lampExecute ..) hrun
      ((length_requestsMade_le ..).trans (by decide)) last with
    late | ⟨missing, -⟩ | ⟨unasked, -⟩ | ⟨reg, hreg, name, reqId, actionId, handlers, -, served, eq⟩
  · cases late
  · cases missing
  · cases unasked
  · exact ⟨reg, hreg, name, _, handlers, served, eq⟩

end ClientExchange

end KhawasuPc
