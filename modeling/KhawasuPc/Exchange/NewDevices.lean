import KhawasuPc.CApi.NewDevices
import KhawasuPc.Exchange.Peers

/-!
# New devices between clients

One client creates a device, and another is told of it.  The class, the name as a C string and the
actions it is told are those that were announced, the actions in any order.
-/

namespace KhawasuPc

open Lib

namespace Peers

variable {M : Mesh} {s t s₀ s₁ : Peers} {e : Event} {es pre mid : List Event} {selfPort : UInt16}
  {phy addr : FarAddr} {port size : UInt16} {i : Nat} {dev : LogicalCallbackDevice} {mem : Memory}
  {log : LogicalPacket} {content : Hello}

/-! ## The context of the client -/

/-- What an event is to the context of the client that asks. -/
def contextEvents : Event → List ContextEvent
  | .client e => [e]
  | .host .. | .serve .. => []
  | .deliver _ srcPhy mem size => [.dataPacket srcPhy mem size]

/-- How an event describes a device. -/
def Event.describes (L : PacketLayout) (addr : FarAddr) (port : UInt16) :
    Event → Option LogDeviceInfo
  | .client e => e.describes L addr port
  | .host .. | .serve .. | .deliver .. => none

/-- A step of the system is one of the context at most. -/
theorem step_contextEvents (h : s.step M e = some t) :
    (Context.machine M.E M.lengthOf M.L).run s.client.ctx (contextEvents e) =
      some t.client.ctx := by
  cases step_steps h with
  | client e client step => exact ClientExchange.step_contextEvents step
  | host | serve => rfl
  | deliver i srcPhy mem size client step => exact ClientExchange.step_contextEvents step

/-- It describes what the event does. -/
theorem step_describes (h : s.step M e = some t) {x : ContextEvent} (hx : x ∈ contextEvents e) :
    x.describes M.L addr port = e.describes M.L addr port := by
  cases step_steps h with
  | client e client step => cases List.mem_singleton.mp hx; rfl
  | host | serve => cases hx
  | deliver i srcPhy mem size client step =>
      cases List.mem_singleton.mp hx
      cases ClientExchange.step_steps step with
      | deliver _ _ _ _ answer ctx found packet =>
          replace packet : answer.InPacket M.L mem size := packet
          rw [describes_dataPacket, packet.overlayData, Option.bind_some, packet.announces]
          rfl

/-- The system has a context in it. -/
def context (M : Mesh) : Simulation (machine M) (Context.machine M.E M.lengthOf M.L) where
  inv _ := True
  abs s := s.client.ctx
  label _ e := contextEvents e
  keep _ _ _ _ _ := trivial
  sim _ _ _ _ h := step_contextEvents h

/-- Where no event describes a device, none of those of the context does. -/
theorem labels_undescribed (h : (machine M).run s es = some t)
    (silent : ∀ e ∈ es, e.describes M.L addr port = none) :
    ∀ x ∈ (context M).labels s es, x.describes M.L addr port = none := by
  intro x hx
  obtain ⟨before, e, after, u, rfl, hbefore, hmem⟩ := (context M).mem_labels hx
  obtain ⟨w, hw, hafter⟩ := Machine.run_append_some h
  cases hbefore.symm.trans hw
  obtain ⟨v, hstep, -⟩ := Option.bind_eq_some_iff.mp hafter
  have moved : u.step M e = some v := hstep
  rw [step_describes moved hmem]
  exact silent e (List.mem_append_right _ (List.mem_cons_self ..))

/-! ## What is announced -/

/-- What a device of a client announces. -/
theorem announced_eq {ctx : LocalContext} (wired : ctx.Wired) (found : ctx.devices[i]? = some dev)
    (few : dev.apiActions.length ≤ 255) :
    dev.announced = dev.apiActions.map fun action => ⟨action.name.bytes, action.type⟩ := by
  have held := wired.built i dev found
  have inside : (dev.apiActions.map fun action =>
      (⟨action, LocalContext.handlers i⟩ : Registration)).length ≤ 255 := by
    rwa [List.length_map]
  have listed := LogicalCallbackDevice.announced_build inside dev.selfPort
  rw [← held, List.map_map] at listed
  exact listed

/-- The reader of a HELLO finds the actions that the device has, in some order. -/
theorem actions_read (phy : FarAddr) {ctx : LocalContext} (wired : ctx.Wired)
    (found : ctx.devices[i]? = some dev) (few : dev.apiActions.length ≤ 255)
    (nonempty : ∀ action ∈ dev.apiActions, action.name.bytes ≠ [])
    (laidOut : content.LaidOut M.L log) (truthful : content.actions = dev.announced) :
    ((M.E.entries (LogDeviceInfo.ofPacket M.L phy log).actionsMap).map Prod.snd).Perm
      dev.apiActions := by
  let regs : List Registration := dev.apiActions.map (⟨·, LocalContext.handlers i⟩)
  have listed : content.actions = regs.map fun reg => ⟨reg.action.name.bytes, reg.action.type⟩ := by
    rw [truthful, announced_eq wired found few, List.map_map]
    rfl
  have named : ∀ reg ∈ regs, reg.action.name.bytes ≠ [] := by
    intro reg hreg
    obtain ⟨action, hmem, rfl⟩ := List.mem_map.mp hreg
    exact nonempty action hmem
  refine Enumeration.values_perm fun k => ?_
  rw [laidOut.lookup_registered phy listed named, List.getElem?_map, Option.map_map]
  exact Option.map_id'

/-- The client is told of them all, where their lengths are right. -/
theorem actions_copied {actions : List DeviceApiAction}
    (measures : LogicalCallbackDevice.Measures M.lengthOf actions) {info : LogDeviceInfo}
    (read : ((M.E.entries info.actionsMap).map Prod.snd).Perm actions) :
    ((M.E.entries info.actionsMap).map fun kv => kv.2.copied M.lengthOf).Perm actions := by
  have copies := read.map (DeviceApiAction.copied M.lengthOf)
  rw [List.map_map] at copies
  have whole : actions.map (DeviceApiAction.copied M.lengthOf) = actions :=
    (List.map_congr_left fun action hmem => DeviceApiAction.copied_eq (measures action hmem)).trans
      (List.map_id _)
  exact copies.trans (.of_eq whole)

/-- In every run: from the first HELLO on that gets through from a device which another client
created, the client was told of the device once, by the callback it had registered by then, with
the class of the HELLO, its name up to the first zero, and the actions the device was created
with. -/
theorem run_newDevice (hpre : (machine M).run (start selfPort) pre = some s₀)
    (hstep : s₀.step M (.client (.dataPacket phy mem size)) = some s₁)
    (hmid : (machine M).run s₁ mid = some s) (found : (s₀.hosts phy).devices[i]? = some dev)
    (few : dev.apiActions.length ≤ 255)
    (nonempty : ∀ action ∈ dev.apiActions, action.name.bytes ≠ [])
    (measures : LogicalCallbackDevice.Measures M.lengthOf dev.apiActions)
    (silent : ∀ e ∈ pre, e.describes M.L phy dev.selfPort = none)
    (packet : overlayData M.L mem size = some log)
    (hello : log.announces M.L phy = some ⟨phy, dev.selfPort⟩)
    (laidOut : content.LaidOut M.L log) (truthful : content.actions = dev.announced) :
    ∃ actions, actions.Perm dev.apiActions ∧
      newDevicesTold phy dev.selfPort s.client.ctx.told =
        (s₀.client.ctx.newDeviceCallback.map fun callback => ClientEffect.newDevice callback phy
          dev.selfPort (.ofBytes content.name) content.devClass actions).toList := by
  have wired := (wired_start.run hpre) phy
  have described : (ContextEvent.dataPacket phy mem size).describes M.L phy dev.selfPort =
      some (.ofPacket M.L phy log) := by
    rw [describes_dataPacket, packet, Option.bind_some]
    exact if_pos hello
  have first : (Context.machine M.E M.lengthOf M.L).run (.init selfPort)
      ((context M).labels (start selfPort) pre) = some s₀.client.ctx :=
    ((context M).run hpre trivial).2
  have here : (Context.machine M.E M.lengthOf M.L).run s₀.client.ctx [.dataPacket phy mem size] =
      some s₁.client.ctx := step_contextEvents hstep
  have rest : (Context.machine M.E M.lengthOf M.L).run s₁.client.ctx ((context M).labels s₁ mid) =
      some s.client.ctx := ((context M).run hmid trivial).2
  have told := Context.run_described first (labels_undescribed hpre silent) described
    (Machine.run_trans here rest)
  have name := laidOut.name_eq phy
  have devClass : (LogDeviceInfo.ofPacket M.L phy log).devClass = content.devClass := by
    rw [LogDeviceInfo.ofPacket, laidOut.devClass]
  have own : dev.selfPort = log.srcAddr M.L := congrArg LogicalAddress.log (announces_eq_some hello)
  refine ⟨_, actions_copied measures (actions_read phy wired found few nonempty laidOut truthful),
    told.trans ?_⟩
  congr 2
  funext callback
  rw [ClientEffect.ofInfo, name, devClass, own]
  rfl

/-- The lamp is made, and the client registers its callback. -/
def lampAwaited : List Event := lampMade ++ [.client (.registerCallbackNewDevice (some ⟨9⟩))]

/-- The lamp announces itself. -/
def lampGreets : Event := .client (.dataPacket 2 ClientExchange.lampHelloPacket 14)

/-- The client is told of the lamp once, with its action. -/
theorem lampGreets_newDevice :
    ∃ s actions, (machine (lampMesh (.stored ..) (.stored ..))).run (start 1)
        (lampAwaited ++ [lampGreets, lampGreets]) = some s ∧ actions.Perm [lampAction] ∧
      newDevicesTold 2 10 s.client.ctx.told = [.newDevice ⟨9⟩ 2 10 (.ofBytes []) ⟨2⟩ actions] := by
  let M := lampMesh (.stored ..) (.stored ..)
  let s₀ : Peers := ⟨⟨{ Context.init 1 with newDeviceCallback := some ⟨9⟩ }, [], []⟩, lampHosts⟩
  have awaited : (machine M).run (start 1) lampAwaited = some s₀ :=
    Machine.run_trans (run_lampMade ..) rfl
  have silent : ∀ e ∈ lampAwaited, e.describes M.L 2 lamp.selfPort = none := by
    simp only [lampAwaited, lampMade, List.cons_append, List.nil_append, List.forall_mem_cons]
    exact ⟨rfl, rfl, rfl, rfl, List.forall_mem_nil _⟩
  obtain ⟨s, hrun⟩ : ∃ s, (machine M).run s₀ [lampGreets, lampGreets] = some s := ⟨_, rfl⟩
  obtain ⟨s₁, greets, again⟩ := Option.bind_eq_some_iff.mp hrun
  replace greets : s₀.step M lampGreets = some s₁ := greets
  have found : (s₀.hosts 2).devices[0]? = some lamp := rfl
  obtain ⟨actions, perm, told⟩ := run_newDevice awaited greets again found (by decide) (by decide)
    (fun _ _ => rfl) silent rfl rfl ClientExchange.lampHello_laidOut rfl
  exact ⟨s, actions, Machine.run_trans awaited hrun, perm, told⟩

end Peers

end KhawasuPc
