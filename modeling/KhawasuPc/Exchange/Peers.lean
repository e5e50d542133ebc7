import KhawasuPc.CApi.LocalDevices
import KhawasuPc.Exchange.Naming

/-!
# Clients on both sides

A client that asks, and clients on other PCs that create devices.  A request of the one is a call
of a callback that another registered, and what this returns comes back to it.

A host creates devices and registers callbacks at any time.  Where in the end its devices listen on
ports of their own, it was all the time part of the site that has them (`run_labels`): a device
that is there does not change.
-/

namespace KhawasuPc

open Lib

/-- What a system of PCs has beside them. -/
structure Mesh where
  L : PacketLayout
  E : Enumeration Nat DeviceApiAction
  F : Enumeration CString DeviceCallbackApiAction
  /-- The member `length` of an action. -/
  lengthOf : DeviceApiAction → Int
  /-- What passes requests on to the devices of a PC. -/
  deviceManager : LogicalDeviceManager
  /-- The address of the PC that asks. -/
  self : FarAddr

/-- The site with these registrations. -/
def Mesh.site (M : Mesh) (registrations : LogicalAddress → List Registration) : Site :=
  ⟨M.L, M.E, M.F, M.lengthOf, M.deviceManager, M.self, registrations⟩

namespace LocalContext

/-- What was registered with the `i`-th device. -/
def registrationsOf (ctx : LocalContext) (i : Nat) : List Registration :=
  (ctx.devices[i]?).elim [] fun dev => dev.apiActions.map (⟨·, handlers i⟩)

/-- What was registered with the first device on a port. -/
def registrations (ctx : LocalContext) (port : UInt16) : List Registration :=
  (ctx.devices.findIdx? fun dev => dev.selfPort = port).elim [] ctx.registrationsOf

/-- The handlers of the devices, with what the client does in its callbacks. -/
def answering (ctx : LocalContext) (replies : LocalReplies) : Handlers :=
  ⟨ctx.actionHandlerGet replies, ctx.actionHandlerSet replies⟩

/-- The answers of the `dev`-th device to a request.  It must listen on the port asked for. -/
def serve (ctx : LocalContext) (manager : LogicalDeviceManager)
    (F : Enumeration CString DeviceCallbackApiAction) (src : FarAddr) (request : SentPacket)
    (slot : PoolSlot) (dev : Nat) (replies : LocalReplies) : Option (List Answer) :=
  (ctx.devices[dev]?).bind fun device =>
    if device.selfPort = request.dest.log then
      manager.serve device F src request slot (ctx.answering replies)
    else none

variable {ctx : LocalContext} {i : Nat} {dev : LogicalCallbackDevice}

/-- A device that was created stays as it is. -/
theorem next_devices (found : ctx.devices[i]? = some dev) (e : LocalEvent) :
    (ctx.next e).devices[i]? = some dev := by
  cases e with
  | createDevice logAddr actions =>
      have inside : i < ctx.devices.length := (List.getElem?_eq_some_iff.mp found).1
      exact (List.getElem?_append_left inside).trans found
  | registerCallbackActionExecute | registerCallbackActionFetch | onActionGet | onActionSet =>
      exact found

/-- On a port of its own, a device is the first. -/
theorem registrations_eq (alone : (ctx.devices.map LogicalCallbackDevice.selfPort).Nodup)
    (found : ctx.devices[i]? = some dev) :
    ctx.registrations dev.selfPort = dev.apiActions.map (⟨·, handlers i⟩) := by
  have first : (ctx.devices.findIdx? fun other => other.selfPort = dev.selfPort) = some i := by
    obtain ⟨inside, rfl⟩ := List.getElem?_eq_some_iff.mp found
    refine List.findIdx?_eq_some_iff_getElem.mpr ⟨inside, decide_eq_true rfl, fun j before => ?_⟩
    rw [decide_eq_true_iff]
    intro same
    have at_both : (ctx.devices.map LogicalCallbackDevice.selfPort)[j]? =
        (ctx.devices.map LogicalCallbackDevice.selfPort)[i]? := by
      simp [inside, before.trans inside, same]
    refine Nat.ne_of_lt before ((List.getElem?_inj ?_ alone).mp at_both)
    rw [List.length_map]
    exact before.trans inside
  rw [registrations, first, Option.elim_some, registrationsOf, found, Option.elim_some]

end LocalContext

/-- A client that asks, and the contexts of the other PCs. -/
structure Peers where
  client : ClientExchange
  hosts : FarAddr → LocalContext

namespace Peers

/-- Something that happens on one of the PCs, or between them. -/
inductive Event where
  /-- The client calls or waits, or a packet comes that is no answer. -/
  | client (e : ContextEvent)
  /-- Something happens to the local devices of a host. -/
  | host (phy : FarAddr) (e : LocalEvent)
  /-- A request reaches the `dev`-th device of the host it is for. -/
  | serve (request : SentPacket) (slot : PoolSlot) (dev : Nat) (replies : LocalReplies)
  /-- The `i`-th answer reaches the client. -/
  | deliver (i : Nat) (srcPhy : FarAddr) (mem : Memory) (size : UInt16)

/-- New contexts everywhere. -/
def start (selfPort : UInt16) : Peers := ⟨.start selfPort, fun _ => .init⟩

variable (M : Mesh) (s : Peers)

/-- The site with the devices that there are. -/
def site : Site := M.site fun place => (s.hosts place.phy).registrations place.log

/-- What an event does. -/
def step : Event → Option Peers
  | .client e =>
      (s.client.step (s.site M) (.client e)).map fun client => { s with client := client }
  | .host phy e =>
      ((LocalContext.machine M.F).step (s.hosts phy) e).map fun ctx =>
        { s with hosts := Function.update s.hosts phy ctx }
  | .serve request slot dev replies =>
      if request ∈ requestPackets s.client.ctx.sys.trace then
        ((s.hosts request.dest.phy).serve M.deviceManager M.F M.self request slot dev replies).map
          fun answers =>
            { s with client := { s.client with answers := s.client.answers ++ answers } }
      else none
  | .deliver i srcPhy mem size =>
      (s.client.step (s.site M) (.deliver i srcPhy mem size)).map fun client =>
        { s with client := client }

/-- The machine of the PCs. -/
def machine : Lib.Machine Peers Event := ⟨fun s e => s.step M e⟩

/-- What an event is to the client that asks and the devices. -/
def label : Event → List ClientExchange.Event
  | .client e => [.client e]
  | .host .. => []
  | .serve request slot _ replies =>
      [.serve request slot ((s.hosts request.dest.phy).answering replies)]
  | .deliver i srcPhy mem size => [.deliver i srcPhy mem size]

/-- What a run is to them. -/
def labels (es : List Event) : List ClientExchange.Event := (machine M).outputs label s es

/-- The requests an event draws ids for. -/
def requests : Event → List Request
  | .client e => s.client.requests (s.site M) (.client e)
  | .host .. | .serve .. | .deliver .. => []

/-- The requests made along a run. -/
def requestsMade (selfPort : UInt16) (es : List Event) : List Request :=
  (machine M).outputs (requests M) (start selfPort) es

/-- What a step does. -/
inductive Steps : Event → Peers → Prop
  | client (e : ContextEvent) (client : ClientExchange)
      (step : s.client.step (s.site M) (.client e) = some client) :
      Steps (.client e) { s with client := client }
  | host (phy : FarAddr) (e : LocalEvent) :
      Steps (.host phy e)
        { s with hosts := Function.update s.hosts phy ((s.hosts phy).next e) }
  | serve (request : SentPacket) (slot : PoolSlot) (dev : Nat) (replies : LocalReplies)
      (device : LogicalCallbackDevice) (answers : List Answer)
      (sent : request ∈ requestPackets s.client.ctx.sys.trace)
      (found : (s.hosts request.dest.phy).devices[dev]? = some device)
      (port : device.selfPort = request.dest.log)
      (served : M.deviceManager.serve device M.F M.self request slot
        ((s.hosts request.dest.phy).answering replies) = some answers) :
      Steps (.serve request slot dev replies)
        { s with client := { s.client with answers := s.client.answers ++ answers } }
  | deliver (i : Nat) (srcPhy : FarAddr) (mem : Memory) (size : UInt16) (client : ClientExchange)
      (step : s.client.step (s.site M) (.deliver i srcPhy mem size) = some client) :
      Steps (.deliver i srcPhy mem size) { s with client := client }

variable {M s} {t s₀ s₁ : Peers} {e : Event} {es pre mid : List Event} {selfPort : UInt16}
  {phy : FarAddr} {i : Nat} {dev : LogicalCallbackDevice}
  {registrations : LogicalAddress → List Registration}

theorem step_steps (h : s.step M e = some t) : Steps M s e t := by
  cases e with
  | client e =>
      obtain ⟨client, step, rfl⟩ := Option.map_eq_some_iff.mp h
      exact .client e client step
  | host phy e =>
      obtain ⟨ctx, step, rfl⟩ := Option.map_eq_some_iff.mp h
      obtain ⟨done, -, rfl⟩ := Option.map_eq_some_iff.mp step
      exact .host phy e
  | serve request slot dev replies =>
      simp only [step, Option.ite_none_right_eq_some] at h
      obtain ⟨answers, served, rfl⟩ := Option.map_eq_some_iff.mp h.2
      obtain ⟨device, found, served⟩ := Option.bind_eq_some_iff.mp served
      rw [Option.ite_none_right_eq_some] at served
      exact .serve request slot dev replies device answers h.1 found served.1 served.2
  | deliver i srcPhy mem size =>
      obtain ⟨client, step, rfl⟩ := Option.map_eq_some_iff.mp h
      exact .deliver i srcPhy mem size client step

/-! ## Hosts -/

/-- A step is one of each host at most. -/
theorem step_host (h : s.step M e = some t) (phy : FarAddr) :
    t.hosts phy = s.hosts phy ∨ ∃ e, t.hosts phy = (s.hosts phy).next e := by
  cases step_steps h with
  | client | serve | deliver => exact Or.inl rfl
  | host phy' e =>
      by_cases own : phy = phy'
      · subst own
        exact Or.inr ⟨e, Function.update_self ..⟩
      · exact Or.inl (Function.update_of_ne own ..)

/-- The devices of every host lead to its callbacks. -/
def Wired (s : Peers) : Prop := ∀ phy, (s.hosts phy).Wired

theorem Wired.step (wired : Wired s) (h : s.step M e = some t) : Wired t := by
  intro phy
  rcases step_host h phy with same | ⟨e, next⟩
  · exact same ▸ wired phy
  · exact next ▸ (wired phy).next e

theorem Wired.run (wired : Wired s) (h : (machine M).run s es = some t) : Wired t :=
  Machine.run_invariant (M := machine M) (fun _ _ _ before hstep => before.step hstep) h wired

theorem wired_start : Wired (start selfPort) := fun _ => .init

/-- A device that was created stays as it is. -/
theorem run_devices (h : (machine M).run s es = some t)
    (found : (s.hosts phy).devices[i]? = some dev) : (t.hosts phy).devices[i]? = some dev := by
  refine Machine.run_invariant (M := machine M)
    (P := fun s => (s.hosts phy).devices[i]? = some dev) ?_ h found
  intro s e t before hstep
  rcases step_host hstep phy with same | ⟨e, next⟩
  · rw [same, before]
  · rw [next, LocalContext.next_devices before]

/-! ## What the client sees -/

/-- The site has the devices there are. -/
def Fits (registrations : LogicalAddress → List Registration) (s : Peers) : Prop :=
  ∀ (phy : FarAddr) (i : Nat) (dev : LogicalCallbackDevice), (s.hosts phy).devices[i]? = some dev →
    registrations ⟨phy, dev.selfPort⟩ = dev.apiActions.map (⟨·, LocalContext.handlers i⟩)

theorem Fits.back (h : (machine M).run s es = some t) (fits : Fits registrations t) :
    Fits registrations s :=
  fun phy i dev found => fits phy i dev (run_devices h found)

theorem step_label (wired : Wired s) (fits : Fits registrations s) (h : s.step M e = some t) :
    (ClientExchange.machine (M.site registrations)).run s.client (s.label e) = some t.client := by
  cases step_steps h with
  | client e client step =>
      exact Machine.run_singleton (M := ClientExchange.machine (M.site registrations)) step
  | host => rfl
  | serve request slot dev replies device answers sent found port served =>
      have same : (M.site registrations).device request.dest = device := by
        have held := fits request.dest.phy dev device found
        rw [wired request.dest.phy |>.built dev device found, ← held, port]
        rfl
      refine Machine.run_singleton (M := ClientExchange.machine (M.site registrations)) ?_
      refine ClientExchange.step_serve sent ?_
      rw [Site.serve, same]
      exact served
  | deliver i srcPhy mem size client step =>
      exact Machine.run_singleton (M := ClientExchange.machine (M.site registrations)) step

theorem outputs_label (registrations : LogicalAddress → List Registration) (s : Peers)
    (e : Event) : (ClientExchange.machine (M.site registrations)).outputs
      (ClientExchange.requests (M.site registrations)) s.client (s.label e) = s.requests M e := by
  cases e with
  | host => rfl
  | client | serve | deliver => exact Machine.outputs_singleton ..

/-- To the client, a run is one with the devices that there are in the end. -/
theorem run_labels (wired : Wired s) (h : (machine M).run s es = some t)
    (fits : Fits registrations t) :
    (ClientExchange.machine (M.site registrations)).run s.client (s.labels M es) =
        some t.client ∧
      (ClientExchange.machine (M.site registrations)).outputs
        (ClientExchange.requests (M.site registrations)) s.client (s.labels M es) =
          (machine M).outputs (requests M) s es := by
  induction es generalizing s with
  | nil =>
      cases h
      exact ⟨rfl, rfl⟩
  | cons e es ih =>
      have whole := h
      obtain ⟨u, hstep, hes⟩ := Option.bind_eq_some_iff.mp h
      have first := step_label wired (fits.back whole) hstep
      obtain ⟨rest, made⟩ := ih (wired.step hstep) hes
      rw [labels, Machine.outputs_cons hstep, Machine.outputs_cons hstep]
      refine ⟨Machine.run_trans first rest, ?_⟩
      rw [Machine.outputs_append first, outputs_label]
      exact congrArg (s.requests M e ++ ·) made

/-- The devices of each host listen on ports of their own. -/
def Alone (s : Peers) : Prop :=
  ∀ phy, ((s.hosts phy).devices.map LogicalCallbackDevice.selfPort).Nodup

theorem Alone.fits (h : Alone s) :
    Fits (fun place => (s.hosts place.phy).registrations place.log) s :=
  fun phy _ _ found => LocalContext.registrations_eq (h phy) found

/-! ## Calls -/

/-- Where the event is a HELLO of the device at the address, it lists what is registered there. -/
def Truthful (W : Site) (place : LogicalAddress) : Event → Prop
  | .client e => ClientExchange.Truthful W place (.client e)
  | .host .. | .serve .. | .deliver .. => True

/-- In the state `u` of the run, the packet reached the `dev`-th device of its host, which has this
action under the id. -/
structure Reached (M : Mesh) (selfPort : UInt16) (es : List Event) (packet : SentPacket)
    (actionId : UInt16) (action : DeviceApiAction) (dev : Nat) (replies : LocalReplies)
    (u : Peers) : Prop where
  served : ∃ before slot after, es = before ++ .serve packet slot dev replies :: after ∧
    (machine M).run (start selfPort) before = some u
  action : (u.hosts packet.dest.phy).spec.action dev actionId.toNat =
    some (packet.dest.log, action)

theorem labels_truthful {W : Site} {place : LogicalAddress}
    (h : (machine M).run s es = some t) (truthful : ∀ e ∈ es, Truthful W place e) :
    ∀ e ∈ s.labels M es, ClientExchange.Truthful W place e := by
  intro x hx
  obtain ⟨before, e, after, u, v, rfl, -, -, -, hmem⟩ := Machine.mem_outputs h hx
  have here := truthful e (List.mem_append_right _ (List.mem_cons_self ..))
  cases e with
  | client => cases List.mem_singleton.mp hmem; exact here
  | host => cases hmem
  | serve | deliver => cases List.mem_singleton.mp hmem; trivial

/-- What was served was served by a device of the host, with the handlers it had then. -/
theorem reached_of_served (h : (machine M).run (start selfPort) es = some t)
    (fits : Fits registrations t) {packet : SentPacket} {handlers : Handlers}
    (served : ClientExchange.Served ((start selfPort).labels M es) packet handlers)
    {actionId : UInt16} {reg : Registration}
    (at_id : registrationAt (registrations packet.dest) actionId.toNat = some reg) :
    ∃ dev replies u device, Reached M selfPort es packet actionId reg.action dev replies u ∧
      (u.hosts packet.dest.phy).Wired ∧
      (u.hosts packet.dest.phy).devices[dev]? = some device ∧
      device.selfPort = packet.dest.log ∧
      handlers = (u.hosts packet.dest.phy).answering replies ∧
      reg = ⟨reg.action, LocalContext.handlers dev⟩ := by
  obtain ⟨slot, hmem⟩ := served
  obtain ⟨before, e, after, u, v, rfl, hbefore, hstep, hafter, hmem⟩ := Machine.mem_outputs h hmem
  cases e with
  | client | deliver => cases List.mem_singleton.mp hmem
  | host => cases hmem
  | serve request slot' dev replies =>
      cases List.mem_singleton.mp hmem
      have moved : u.step M (.serve packet slot dev replies) = some v := hstep
      cases step_steps moved with
      | serve _ _ _ _ device answers sent found port served =>
          have wired := (wired_start.run hbefore) packet.dest.phy
          have here : Machine.run (machine M) u (.serve packet slot dev replies :: after) =
              some t := by
            rw [Machine.run_cons, hstep]
            exact hafter
          have held := (fits.back here) packet.dest.phy dev device found
          rw [port] at held
          replace at_id : registrationAt (device.apiActions.map
              (⟨·, LocalContext.handlers dev⟩)) actionId.toNat = some reg := held ▸ at_id
          have own := LocalContext.callbacks_eq (mem_of_registrationAt at_id)
          refine ⟨dev, replies, u, device, ⟨⟨before, slot, after, rfl, hbefore⟩, ?_⟩, wired, found,
            port, rfl, ?_⟩
          · rw [LocalContext.spec_action found, at_id, Option.map_some, port]
          · rw [← own]

/-- A call in a run of the PCs is one in a run of the client. -/
theorem run_call {e : ContextEvent} (hpre : (machine M).run (start selfPort) pre = some s₀)
    (hstep : s₀.step M (.client e) = some s₁) (hmid : (machine M).run s₁ mid = some s)
    (alone : Alone s) :
    (start selfPort).labels M (pre ++ .client e :: mid) =
        (start selfPort).labels M pre ++ .client e :: s₁.labels M mid ∧
      (ClientExchange.machine (s.site M)).run (.start selfPort) ((start selfPort).labels M pre) =
        some s₀.client ∧
      s₀.client.step (s.site M) (.client e) = some s₁.client ∧
      (ClientExchange.machine (s.site M)).run s₁.client (s₁.labels M mid) = some s.client ∧
      ClientExchange.requestsMade (s.site M) selfPort
        ((start selfPort).labels M pre ++ .client e :: s₁.labels M mid) =
          requestsMade M selfPort (pre ++ .client e :: mid) := by
  have hrun : (machine M).run (start selfPort) (pre ++ .client e :: mid) = some s :=
    Machine.run_through hpre hstep hmid
  have moved : (machine M).step s₀ (.client e) = some s₁ := hstep
  have through : (start selfPort).labels M (pre ++ .client e :: mid) =
      (start selfPort).labels M pre ++ .client e :: s₁.labels M mid := by
    rw [labels, Machine.outputs_append hpre, Machine.outputs_cons moved]
    rfl
  have fits := alone.fits
  have fits₁ := fits.back hmid
  have fits₀ := fits₁.back (Machine.run_singleton (M := machine M) moved)
  have stepped : s₀.client.step (s.site M) (.client e) = some s₁.client := by
    cases step_steps hstep with
    | client _ client step => exact step
  have wired₁ := (wired_start.run hpre).step hstep
  refine ⟨through, (run_labels wired_start hpre fits₀).1, stepped, (run_labels wired₁ hmid fits).1,
    ?_⟩
  rw [← through]
  exact (run_labels wired_start hrun fits).2

variable {env : Ambient} {startTime : UInt64} {destPhy : UInt32} {destLog : UInt16}
  {name : CString} {data : List UInt8} {requireResult : Bool}

/-- In every run of up to 256 requests in which the HELLO packets of a device were truthful: what
`fetch_action` returns on one PC is what the fetch callback returned that was registered on the
other when the request came, called with who asks, the port, the name and type of the action, and
the data, as the record of the request shows it.  Where none was registered, this is empty. -/
theorem run_fetchCallback (hpre : (machine M).run (start selfPort) pre = some s₀)
    (hstep : s₀.step M (.client (.fetchAction env startTime destPhy destLog name data)) = some s₁)
    (hmid : (machine M).run s₁ mid = some s) (alone : Alone s)
    (named : (s.site M).Named ⟨destPhy.toNat, destLog⟩)
    (truthful : ∀ e ∈ pre, Truthful (s.site M) ⟨destPhy.toNat, destLog⟩ e)
    (few : (requestsMade M selfPort (pre ++
      .client (.fetchAction env startTime destPhy destLog name data) :: mid)).length ≤ 256)
    {payload : List UInt8}
    (told : .fetchReturns s₀.client.ctx.sys.nextCall payload ∈ s.client.ctx.told) :
    ∃ reqId actionId action dev replies u,
      let packet : SentPacket := ⟨⟨destPhy.toNat, destLog⟩, selfPort, .unreliable,
        .actionFetch reqId actionId data⟩
      requestPackets s₁.client.ctx.sys.trace =
        requestPackets s₀.client.ctx.sys.trace ++ [packet] ∧
      Reached M selfPort (pre ++
        .client (.fetchAction env startTime destPhy destLog name data) :: mid)
        packet actionId action dev replies u ∧ action.name = name ∧
      let returned := replies.fetched ((u.hosts destPhy.toNat).spec.fetchCall destLog action data
        ⟨M.self, selfPort⟩)
      ShownAs M.L returned payload ∧ (payload = returned ↔
        M.L.dataOff .unreliable + M.L.responsePayload + 1 = M.L.sizeActionResponse.toNat) := by
  have hrun : (machine M).run (start selfPort) (pre ++
      .client (.fetchAction env startTime destPhy destLog name data) :: mid) = some s :=
    Machine.run_through hpre hstep hmid
  obtain ⟨through, hpre', hstep', hmid', made⟩ := run_call hpre hstep hmid alone
  obtain ⟨reg, rfl, reqId, actionId, handlers, at_id, sent, served, shown⟩ :=
    ClientExchange.run_fetchedByName named hpre' (labels_truthful hpre truthful) hstep' hmid'
      (made ▸ few) told
  rw [← through] at served
  obtain ⟨dev, replies, u, device, reached, wired, found, port, rfl, own⟩ :=
    reached_of_served hrun alone.fits served at_id
  refine ⟨reqId, actionId, reg.action, dev, replies, u, sent, reached, rfl, ?_⟩
  rw [own] at shown
  have call := wired.fetchCall found reg.action data ⟨M.self, selfPort⟩ reqId
  rw [port] at call
  have told_of : ShownAs M.L (replies.fetched ((u.hosts destPhy.toNat).spec.fetchCall destLog
      reg.action data ⟨M.self, selfPort⟩)) payload := by
    rw [← call]
    exact shown
  exact ⟨told_of, told_of.eq_iff⟩

/-- In every such run, what `execute_action` returns on one PC is what the execute callback returned
on the other, or `UNKNOWN` where none was registered, or says that there was no answer, that the
name was not known, or that none was asked for. -/
theorem run_executeCallback (hpre : (machine M).run (start selfPort) pre = some s₀)
    (hstep : s₀.step M (.client
      (.executeAction env startTime destPhy destLog name data requireResult)) = some s₁)
    (hmid : (machine M).run s₁ mid = some s) (alone : Alone s)
    (named : (s.site M).Named ⟨destPhy.toNat, destLog⟩)
    (truthful : ∀ e ∈ pre, Truthful (s.site M) ⟨destPhy.toNat, destLog⟩ e)
    (few : (requestsMade M selfPort (pre ++ .client
      (.executeAction env startTime destPhy destLog name data requireResult) :: mid)).length ≤ 256)
    {status : ActionExecuteStatus}
    (told : .executeReturns s₀.client.ctx.sys.nextCall status ∈ s.client.ctx.told) :
    status = .timeout ∨
      (status = .actionNotFound ∧ ¬ s₀.client.ctx.Knows M.E destPhy destLog name) ∨
      (status = .unknown ∧ requireResult = false) ∨
      ∃ reqId actionId action dev replies u,
        let packet : SentPacket := ⟨⟨destPhy.toNat, destLog⟩, selfPort, .unreliable,
          .actionExecute reqId actionId .requireStatusResponse data⟩
        requestPackets s₁.client.ctx.sys.trace =
          requestPackets s₀.client.ctx.sys.trace ++ [packet] ∧
        Reached M selfPort (pre ++ .client
          (.executeAction env startTime destPhy destLog name data requireResult) :: mid)
          packet actionId action dev replies u ∧ action.name = name ∧
        status = replies.executed ((u.hosts destPhy.toNat).spec.executeCall destLog action data
          ⟨M.self, selfPort⟩) := by
  have hrun : (machine M).run (start selfPort) (pre ++ .client
      (.executeAction env startTime destPhy destLog name data requireResult) :: mid) = some s :=
    Machine.run_through hpre hstep hmid
  obtain ⟨through, hpre', hstep', hmid', made⟩ := run_call hpre hstep hmid alone
  rcases ClientExchange.run_executedByName named hpre' (labels_truthful hpre truthful) hstep' hmid'
      (made ▸ few) told with
    late | missing | unasked | ⟨reg, rfl, reqId, actionId, handlers, at_id, sent, served, status_eq⟩
  · exact Or.inl late
  · exact Or.inr (Or.inl missing)
  · exact Or.inr (Or.inr (Or.inl unasked))
  · rw [← through] at served
    obtain ⟨dev, replies, u, device, reached, wired, found, port, rfl, own⟩ :=
      reached_of_served hrun alone.fits served at_id
    refine Or.inr (Or.inr (Or.inr
      ⟨reqId, actionId, reg.action, dev, replies, u, sent, reached, rfl, ?_⟩))
    rw [own] at status_eq
    have call := wired.executeCall found reg.action data ⟨M.self, selfPort⟩
    rw [port] at call
    rw [status_eq, ← call]
    rfl

/-- No event makes more than one request. -/
theorem length_requestsMade_le (M : Mesh) (selfPort : UInt16) (es : List Event) :
    (requestsMade M selfPort es).length ≤ es.length := by
  refine Machine.length_outputs_le (fun s e => ?_) _ es
  cases e with
  | client e => exact ClientExchange.length_requests_le (s.site M) s.client (.client e)
  | host | serve | deliver => exact Nat.zero_le 1

/-! ## A run

The lamp is a device that the client on another PC made. -/

/-- What the PC with the lamp is made of. -/
def lampMesh (E : Enumeration Nat DeviceApiAction)
    (F : Enumeration CString DeviceCallbackApiAction) : Mesh :=
  ⟨.packed, E, F, LogicalCallbackDevice.nameLength, .plain, 1⟩

/-- The action of the lamp. -/
def lampAction : DeviceApiAction := ⟨.ofBytes [111, 110], ⟨1⟩⟩

/-- The client makes the lamp and registers its callbacks. -/
def lampMade : List Event :=
  [.host 2 (.createDevice 10 [lampAction]), .host 2 (.registerCallbackActionFetch (some ⟨5⟩)),
    .host 2 (.registerCallbackActionExecute (some ⟨6⟩))]

/-- The other client asks for results, and the lamp announces itself. -/
def lampAnnounced : List Event :=
  [.client (.registerCallbackActionFetchResult (some ⟨9⟩)),
    .client (.dataPacket 2 ClientExchange.lampHelloPacket 14)]

/-- The lamp. -/
def lamp : LogicalCallbackDevice := .createDevice 10 (LocalContext.handlers 0) [lampAction]

/-- The PC with the lamp. -/
def lampHost : LocalContext := ⟨some ⟨6⟩, some ⟨5⟩, [lamp], [⟨0⟩]⟩

/-- The PCs with the lamp. -/
def lampHosts : FarAddr → LocalContext := Function.update (fun _ => .init) 2 lampHost

/-- The fetch callback returns 42, and the execute callback 7. -/
def lampReplies : LocalReplies := ⟨fun _ => ⟨.ofList [42], some 1⟩, fun _ => .other 7⟩

/-- The fetch, by name. -/
def lampFetch : Event := .client (.fetchAction Sys.anyEnv 0 2 10 lampAction.name [])

/-- The call of the handler. -/
def lampCall : HandlerCall := ⟨⟨0⟩, .ofBytes [111, 110], ⟨1⟩, [], ⟨1, 1⟩, some 0, 0⟩

/-- The answer of the lamp. -/
def lampAnswer : Answer := ⟨Exchange.lampPacket, some lampCall, 0, .response .unknown [42]⟩

/-- The client that fetches, once the lamp answered. -/
def lampServed : ClientExchange := ⟨ClientExchange.lampFetched.ctx, [lampAnswer], []⟩

/-- The client that fetches, once the answer arrived. -/
def lampTold : ClientExchange := ⟨ClientExchange.lampDelivered.ctx, [lampAnswer], [0]⟩

/-- The fetch is answered, and the answer collected. -/
def lampCollects : List Event :=
  [.serve Exchange.lampPacket ⟨.other 0, .unknown⟩ 0 lampReplies,
    .deliver 0 2 Exchange.lampResponse 9, .client (.poll 0 1 1), .client (.poll 0 2 2)]

section Lamp

variable (E : Enumeration Nat DeviceApiAction) (F : Enumeration CString DeviceCallbackApiAction)

theorem run_lampMade :
    (machine (lampMesh E F)).run (start 1) lampMade = some ⟨.start 1, lampHosts⟩ := by
  have last : lampHosts = Function.update (Function.update (Function.update (fun _ => .init) 2
      ((LocalContext.init).next (.createDevice 10 [lampAction]))) 2
        ⟨none, some ⟨5⟩, [lamp], [⟨0⟩]⟩) 2 lampHost := by
    rw [Function.update_idem, Function.update_idem]
    rfl
  rw [last]
  rfl

theorem run_lampAnnounced :
    (machine (lampMesh E F)).run (start 1) (lampMade ++ lampAnnounced) =
      some ⟨ClientExchange.lampHeard, lampHosts⟩ :=
  Machine.run_trans (run_lampMade E F) rfl

theorem step_lampFetch : (⟨ClientExchange.lampHeard, lampHosts⟩ : Peers).step (lampMesh E F)
    lampFetch = some ⟨ClientExchange.lampFetched, lampHosts⟩ :=
  congrArg (Option.map fun client => (⟨client, lampHosts⟩ : Peers))
    (ClientExchange.step_lampFetch E F)

theorem lampHost_wired : lampHost.Wired := ((LocalContext.Wired.init.next
  (.createDevice 10 [lampAction])).next (.registerCallbackActionFetch (some ⟨5⟩))).next
    (.registerCallbackActionExecute (some ⟨6⟩))

/-- The callback answers the fetch. -/
theorem lampHost_serve : lampHost.serve .plain F 1 Exchange.lampPacket ⟨.other 0, .unknown⟩ 0
    lampReplies = some [lampAnswer] := by
  have found : lampHost.devices[0]? = some lamp := rfl
  have registered : lamp.Registered [⟨lampAction, LocalContext.handlers 0⟩] :=
    lampHost_wired.registered found
  have first : registrationAt [⟨lampAction, LocalContext.handlers 0⟩] 0 = some _ := rfl
  obtain ⟨last, last_eq, dispatches⟩ := registered.dispatchesTo (F := F) first
  cases last_eq
  have asks : Exchange.lampPacket.body = .actionFetch 0 0 [] := rfl
  exact (LogicalDeviceManager.serve_fetch asks).trans
    (congrArg (Option.map (Answer.ofGet Exchange.lampPacket)) (dispatches.get ..))

theorem run_lampCollects : ∃ s, (machine (lampMesh E F)).run
    ⟨ClientExchange.lampFetched, lampHosts⟩ lampCollects = some s ∧ s.hosts = lampHosts ∧
      s.client.ctx.told =
        [.fetchResult ⟨9⟩ 0 [42, 0, 0, 0, 0], .fetchResult ⟨9⟩ 0 [42, 0, 0, 0, 0],
          .fetchReturns 0 [42, 0, 0, 0, 0]] := by
  have served : (⟨ClientExchange.lampFetched, lampHosts⟩ : Peers).step (lampMesh E F)
      (.serve Exchange.lampPacket ⟨.other 0, .unknown⟩ 0 lampReplies) =
        some ⟨lampServed, lampHosts⟩ := by
    have answers : (lampHosts 2).serve .plain F 1 Exchange.lampPacket ⟨.other 0, .unknown⟩ 0
        lampReplies = some [lampAnswer] := lampHost_serve F
    rw [step, if_pos (by decide)]
    exact congrArg (Option.map _) answers
  have packet : lampAnswer.InPacket PacketLayout.packed Exchange.lampResponse 9 := by decide
  have heard : lampServed.step (Exchange.lampSite E F) (.deliver 0 2 Exchange.lampResponse 9) =
      some lampTold :=
    ClientExchange.step_deliver (a := lampAnswer) rfl packet (ClientExchange.lampFetched_hears E)
  have delivered : (⟨lampServed, lampHosts⟩ : Peers).step (lampMesh E F)
      (.deliver 0 2 Exchange.lampResponse 9) = some ⟨lampTold, lampHosts⟩ :=
    congrArg (Option.map fun client => (⟨client, lampHosts⟩ : Peers)) heard
  refine ⟨_, (Machine.run_cons ..).trans (Option.bind_eq_some_iff.mpr ⟨_, served,
    (Machine.run_cons ..).trans (Option.bind_eq_some_iff.mpr ⟨_, delivered, rfl⟩)⟩), rfl, rfl⟩

variable {E F} {s : Peers}

theorem lampHosts_alone (h : s.hosts = lampHosts) : Alone s := by
  intro phy
  rw [h]
  by_cases lamps : phy = 2
  · rw [lamps, lampHosts, Function.update_self]
    exact List.nodup_singleton _
  · rw [lampHosts, Function.update_of_ne lamps]
    exact List.nodup_nil

theorem lampHosts_registrations (h : s.hosts = lampHosts) :
    (s.site (lampMesh E F)).registrations ⟨2, 10⟩ =
      [⟨lampAction, LocalContext.handlers 0⟩] := by
  have found : (s.hosts 2).devices[0]? = some lamp := by
    rw [h]
    rfl
  exact LocalContext.registrations_eq (lampHosts_alone h 2) found

theorem lampHosts_named (h : s.hosts = lampHosts) :
    (s.site (lampMesh E F)).Named ⟨(2 : UInt32).toNat, 10⟩ := by
  have held := lampHosts_registrations (E := E) (F := F) h
  constructor
  · exact held ▸ (by decide)
  · exact held ▸ List.nodup_singleton _
  · intro reg hreg
    cases List.mem_singleton.mp (held ▸ hreg)
    decide

/-- The HELLO of the lamp is truthful. -/
theorem lampHosts_truthful (h : s.hosts = lampHosts) : ∀ e ∈ lampMade ++ lampAnnounced,
    Truthful (s.site (lampMesh E F)) ⟨(2 : UInt32).toNat, 10⟩ e := by
  intro e he
  have held := lampHosts_registrations (E := E) (F := F) h
  simp only [lampMade, lampAnnounced, List.cons_append, List.nil_append, List.mem_cons,
    List.not_mem_nil, or_false] at he
  rcases he with rfl | rfl | rfl | rfl | rfl
  case inr.inr.inr.inr =>
    intro log found hello
    cases found
    refine ⟨ClientExchange.lampHello, ClientExchange.lampHello_laidOut, ?_⟩
    have device : (s.site (lampMesh E F)).device ⟨(2 : UInt32).toNat, 10⟩ =
        .build 10 [⟨lampAction, LocalContext.handlers 0⟩] := congrArg _ held
    rw [device]
    rfl
  all_goals trivial

end Lamp

/-- The fetch returns what the callback on the other PC returned. -/
theorem lampFetch_fetchCallback :
    ∃ packet actionId action dev replies u,
      Reached (lampMesh (.stored ..) (.stored ..)) 1
        ((lampMade ++ lampAnnounced) ++ lampFetch :: lampCollects) packet actionId action dev
        replies u ∧ action.name = lampAction.name ∧
      ShownAs .packed (replies.fetched ((u.hosts 2).spec.fetchCall 10 action [] ⟨1, 1⟩))
        [42, 0, 0, 0, 0] := by
  obtain ⟨s, hrun, hosts, told⟩ := run_lampCollects (.stored ..) (.stored ..)
  have last : .fetchReturns 0 [42, 0, 0, 0, 0] ∈ s.client.ctx.told := by
    rw [told]
    exact List.mem_cons_of_mem _ (List.mem_cons_of_mem _ (List.mem_singleton_self _))
  obtain ⟨reqId, actionId, action, dev, replies, u, -, reached, name, shown, -⟩ :=
    run_fetchCallback (run_lampAnnounced ..) (step_lampFetch ..) hrun (lampHosts_alone hosts)
      (lampHosts_named hosts) (lampHosts_truthful hosts)
      ((length_requestsMade_le ..).trans (by decide)) last
  exact ⟨_, actionId, action, dev, replies, u, reached, name, shown⟩

/-- The lamp is turned on, by name. -/
def lampExecute : Event :=
  .client (.executeAction Sys.anyEnv 0 2 10 lampAction.name [] true)

/-- The answer of the lamp. -/
def lampResult : Answer :=
  ⟨ClientExchange.lampExecutePacket, some ⟨⟨1⟩, .ofBytes [111, 110], ⟨1⟩, [], ⟨1, 1⟩, none, 0⟩, 0,
    .result (.other 7)⟩

/-- The client that turns it on, once the lamp answered. -/
def lampDone : ClientExchange := ⟨ClientExchange.lampExecuted.ctx, [lampResult], []⟩

/-- The client that turns it on, once the answer arrived. -/
def lampSwitched : ClientExchange := { ClientExchange.lampSwitched with answers := [lampResult] }

/-- The call is answered, and the answer collected. -/
def lampSwitches : List Event :=
  [.serve ClientExchange.lampExecutePacket ⟨.other 0, .unknown⟩ 0 lampReplies,
    .deliver 0 2 ClientExchange.lampResultPacket 8, .client (.poll 0 1 1), .client (.poll 0 2 2)]

section Lamp

variable (E : Enumeration Nat DeviceApiAction) (F : Enumeration CString DeviceCallbackApiAction)

theorem step_lampExecute : (⟨ClientExchange.lampHeard, lampHosts⟩ : Peers).step (lampMesh E F)
    lampExecute = some ⟨ClientExchange.lampExecuted, lampHosts⟩ :=
  congrArg (Option.map fun client => (⟨client, lampHosts⟩ : Peers))
    (ClientExchange.step_lampExecute E F)

/-- The callback answers the call. -/
theorem lampHost_switches : lampHost.serve .plain F 1 ClientExchange.lampExecutePacket
    ⟨.other 0, .unknown⟩ 0 lampReplies = some [lampResult] := by
  have found : lampHost.devices[0]? = some lamp := rfl
  have registered : lamp.Registered [⟨lampAction, LocalContext.handlers 0⟩] :=
    lampHost_wired.registered found
  have first : registrationAt [⟨lampAction, LocalContext.handlers 0⟩] 0 = some _ := rfl
  obtain ⟨last, last_eq, dispatches⟩ := registered.dispatchesTo (F := F) first
  cases last_eq
  have asks : ClientExchange.lampExecutePacket.body =
    .actionExecute 0 0 .requireStatusResponse [] := rfl
  exact (LogicalDeviceManager.serve_execute asks).trans
    (congrArg (Option.map _) (dispatches.set ..))

theorem run_lampSwitches : ∃ s, (machine (lampMesh E F)).run
    ⟨ClientExchange.lampExecuted, lampHosts⟩ lampSwitches = some s ∧ s.hosts = lampHosts ∧
      s.client.ctx.told = [.executeReturns 0 (.other 7)] := by
  have served : (⟨ClientExchange.lampExecuted, lampHosts⟩ : Peers).step (lampMesh E F)
      (.serve ClientExchange.lampExecutePacket ⟨.other 0, .unknown⟩ 0 lampReplies) =
        some ⟨lampDone, lampHosts⟩ := by
    have answers : (lampHosts 2).serve .plain F 1 ClientExchange.lampExecutePacket
        ⟨.other 0, .unknown⟩ 0 lampReplies = some [lampResult] := lampHost_switches F
    rw [step, if_pos (by decide)]
    exact congrArg (Option.map _) answers
  have packet : lampResult.InPacket PacketLayout.packed ClientExchange.lampResultPacket 8 := by
    decide
  have heard : lampDone.step (Exchange.lampSite E F)
      (.deliver 0 2 ClientExchange.lampResultPacket 8) = some lampSwitched :=
    ClientExchange.step_deliver (a := lampResult) rfl packet (ClientExchange.lampExecuted_hears E)
  have delivered : (⟨lampDone, lampHosts⟩ : Peers).step (lampMesh E F)
      (.deliver 0 2 ClientExchange.lampResultPacket 8) = some ⟨lampSwitched, lampHosts⟩ :=
    congrArg (Option.map fun client => (⟨client, lampHosts⟩ : Peers)) heard
  refine ⟨_, (Machine.run_cons ..).trans (Option.bind_eq_some_iff.mpr ⟨_, served,
    (Machine.run_cons ..).trans (Option.bind_eq_some_iff.mpr ⟨_, delivered, rfl⟩)⟩), rfl, rfl⟩

end Lamp

/-- The call returns what the callback on the other PC returned. -/
theorem lampExecute_executeCallback :
    ∃ packet actionId action dev replies u,
      Reached (lampMesh (.stored ..) (.stored ..)) 1
        ((lampMade ++ lampAnnounced) ++ lampExecute :: lampSwitches) packet actionId action dev
        replies u ∧ action.name = lampAction.name ∧
      .other 7 = replies.executed ((u.hosts 2).spec.executeCall 10 action [] ⟨1, 1⟩) := by
  obtain ⟨s, hrun, hosts, told⟩ := run_lampSwitches (.stored ..) (.stored ..)
  have last : .executeReturns 0 (.other 7) ∈ s.client.ctx.told := by
    rw [told]
    exact List.mem_singleton_self _
  rcases run_executeCallback (run_lampAnnounced ..) (step_lampExecute ..) hrun
      (lampHosts_alone hosts) (lampHosts_named hosts) (lampHosts_truthful hosts)
      ((length_requestsMade_le ..).trans (by decide)) last with
    late | ⟨missing, -⟩ | ⟨unasked, -⟩ |
      ⟨reqId, actionId, action, dev, replies, u, -, reached, name, status⟩
  · cases late
  · cases missing
  · cases unasked
  · exact ⟨_, actionId, action, dev, replies, u, reached, name, status⟩

end Peers

end KhawasuPc
