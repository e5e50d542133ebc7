import KhawasuPc.Device.Callback
import KhawasuPc.Device.Hello
import KhawasuPc.Manager.Frame

/-!
# From discovery to dispatch

A device numbers its actions by their place in a vector, its HELLO lists them in
that order, the controller files them under the index of its reading loop, and a
caller asks for an action by name.  `Sys.discovery_dispatches` follows a name
through all four: in every run in which the device announced itself, what the
controller knows under a name is the index at which the device calls the handler
registered under that name.
-/

namespace KhawasuPc

open Lib

/-! ## What a device announces -/

namespace LogicalCallbackDevice

/-- The actions a HELLO lists: as many of the vector as `get_api_actions` counts. -/
def announced (dev : LogicalCallbackDevice) : List HelloAction :=
  (dev.getApiActions.1.take dev.getApiActions.2.toNat).map fun action =>
    ⟨action.name.bytes, action.type⟩

/-- Up to 255 actions are all announced. -/
theorem announced_build {regs : List Registration} (hlen : regs.length ≤ 255) (port : UInt16) :
    (build port regs).announced =
      regs.map fun reg => ⟨reg.action.name.bytes, reg.action.type⟩ := by
  have hact := (build_registered port regs).actions
  have hcount : (UInt8.ofNat regs.length).toNat = regs.length := by
    rw [UInt8.toNat_ofNat']
    exact Nat.mod_eq_of_lt (by omega)
  simp only [announced, getApiActions, hact, List.length_map, hcount]
  rw [List.take_of_length_le (by simp), List.map_map]
  rfl

end LogicalCallbackDevice

/-! ## What a controller reads -/

variable {L : PacketLayout} {regs : List Registration} {E : Enumeration Nat DeviceApiAction}

/-- The actions of a HELLO are filed under their indices. -/
theorem Hello.LaidOut.lookup_registered {h : Hello} {packet : LogicalPacket}
    (hl : h.LaidOut L packet) (phy : FarAddr)
    (hact : h.actions = regs.map fun reg => ⟨reg.action.name.bytes, reg.action.type⟩)
    (hne : ∀ reg ∈ regs, reg.action.name.bytes ≠ []) (k : Nat) :
    (LogDeviceInfo.ofPacket L phy packet).actionsMap.lookup k = (regs[k]?).map (·.action) := by
  have hall : (h.actions.takeWhile fun a => a.name ≠ []) = h.actions := by
    rw [List.takeWhile_eq_self_iff, hact]
    intro a ha
    obtain ⟨reg, hreg, rfl⟩ := List.mem_map.mp ha
    simpa using hne reg hreg
  rw [hl.lookup_actionsMap, hall, hact, List.getElem?_map, Option.map_map]
  congr 1
  funext reg
  simp [HelloAction.read]

/-- Searching such a table by name finds the one index of that name. -/
theorem find_registered {m : UMap Nat DeviceApiAction}
    (hm : ∀ k : Nat, m.lookup k = (regs[k]?).map (·.action))
    (hn : (regs.map (·.action.name)).Nodup) {name : CString} {id : Nat}
    {action : DeviceApiAction} :
    (E.entries m).find? (fun pair => pair.2.name = name) = some (id, action) ↔
      ∃ reg, regs[id]? = some reg ∧ reg.action = action ∧ action.name = name := by
  constructor
  · intro h
    obtain ⟨hl, hname⟩ := Enumeration.find?_some h
    rw [hm] at hl
    obtain ⟨reg, hreg, hact⟩ := Option.map_eq_some_iff.mp hl
    exact ⟨reg, hreg, hact, by simpa using hname⟩
  · rintro ⟨reg, hreg, rfl, rfl⟩
    have hl : m.lookup id = some reg.action := by rw [hm, hreg, Option.map_some]
    refine Enumeration.find?_eq_some hl (by simp) fun id' action' hl' hname => ?_
    rw [hm] at hl'
    obtain ⟨reg', hreg', rfl⟩ := Option.map_eq_some_iff.mp hl'
    have hlt : id' < (regs.map (·.action.name)).length := by
      rw [List.length_map]
      exact (List.getElem?_eq_some_iff.mp hreg').1
    refine (List.getElem?_inj hlt hn).mp ?_
    rw [List.getElem?_map, List.getElem?_map, hreg, hreg']
    simpa using hname

/-! ## The whole way -/

/-- The controller and the device agree on a name: the controller knows it exactly
when it was registered, and the index it knows it by makes the device call the
handlers registered under it, once, and no others. -/
structure AgreeOn (regs : List Registration) (dev : LogicalCallbackDevice)
    (found : Option (Nat × DeviceApiAction)) (name : CString) : Prop where
  known : found.isSome ↔ name ∈ regs.map (·.action.name)
  dispatches : ∀ id action, found = some (id, action) → ∃ reg ∈ regs, reg.action.name = name ∧
    (∀ F data addr respond, dev.onActionSet F id data addr respond =
      some ([.call (reg.setCall data addr)], respond (reg.setCall data addr))) ∧
    ∀ F data addr requestId slot respond, dev.onActionGet F id data addr requestId slot respond =
      some [.call (reg.getCall data addr requestId),
        .send (dev.answerPacket addr requestId slot (respond (reg.getCall data addr requestId)))]

/-- A table that files the registered actions under their indices agrees with the
device. -/
theorem agreeOn_of_table {m : UMap Nat DeviceApiAction}
    (hm : ∀ k : Nat, m.lookup k = (regs[k]?).map (·.action))
    (hn : (regs.map (·.action.name)).Nodup) (port : UInt16) (name : CString) :
    AgreeOn regs (.build port regs) ((E.entries m).find? fun pair => pair.2.name = name)
      name where
  known := by
    rw [Option.isSome_iff_exists, List.mem_map]
    constructor
    · rintro ⟨⟨id, action⟩, h⟩
      obtain ⟨reg, hreg, rfl, hname⟩ := (find_registered hm hn).mp h
      exact ⟨reg, List.mem_of_getElem? hreg, hname⟩
    · rintro ⟨reg, hreg, rfl⟩
      obtain ⟨id, hid⟩ := List.mem_iff_getElem?.mp hreg
      exact ⟨(id, reg.action), (find_registered hm hn).mpr ⟨reg, hid, rfl, rfl⟩⟩
  dispatches id action h := by
    obtain ⟨reg, hreg, rfl, hname⟩ := (find_registered hm hn).mp h
    have held := LogicalCallbackDevice.build_registered port regs
    exact ⟨reg, List.mem_of_getElem? hreg, hname, fun F => held.onActionSet F hn hreg,
      fun F => held.onActionGet F hn hreg⟩

namespace Sys

variable {setup : Setup} {s : Sys} {es es' : List Event} {phy : FarAddr}
  {packet : LogicalPacket} {size : UInt16}

/-- A device that announced itself stays described by its first HELLO. -/
theorem run_first_hello
    (h : (machine L E).run (start setup) (es ++ .packet phy packet size :: es') = some s)
    (hello : packet.announces L phy = some ⟨phy, packet.srcAddr L⟩)
    (first : ∀ e ∈ es, e.announces L ≠ some ⟨phy, packet.srcAddr L⟩) :
    s.man.lookupLog phy (packet.srcAddr L) = some (.ofPacket L phy packet) := by
  obtain ⟨t, hes, hrest⟩ := Machine.run_append_some h
  have hnone := run_unannounced hes first
  rw [Machine.run_cons] at hrest
  obtain ⟨w, hstep, hes'⟩ := Option.bind_eq_some_iff.mp hrest
  refine run_lookupLog hes' ?_
  cases (next_of_step hstep).2
  rw [after_man, (PhyDeviceManager.handlePacket_spec L t.man phy packet size).man]
  rw [PhyDeviceManager.bodyOf_announces hello, PhyDeviceManager.handleHello_lookupLog_self, hnone,
    Option.getD_none]

/-- From the first HELLO of a device on, the controller and the device agree on every
name. -/
theorem discovery_dispatches (hlen : regs.length ≤ 255)
    (hn : (regs.map (·.action.name)).Nodup) (hne : ∀ reg ∈ regs, reg.action.name.bytes ≠ [])
    (h : (machine L E).run (start setup) (es ++ .packet phy packet size :: es') = some s)
    (hello : packet.announces L phy = some ⟨phy, packet.srcAddr L⟩)
    (first : ∀ e ∈ es, e.announces L ≠ some ⟨phy, packet.srcAddr L⟩)
    {content : Hello} (hl : content.LaidOut L packet)
    (hact : content.actions =
      (LogicalCallbackDevice.build (packet.srcAddr L) regs).announced)
    (name : CString) :
    AgreeOn regs (.build (packet.srcAddr L) regs)
      (s.man.lookupAction E phy (packet.srcAddr L) name) name := by
  rw [LogicalCallbackDevice.announced_build hlen] at hact
  unfold PhyDeviceManager.lookupAction
  rw [run_first_hello h hello first, Option.bind_some]
  exact agreeOn_of_table (hl.lookup_registered phy hact hne) hn _ name

/-- The two actions of the lamp, registered. -/
def lampRegs : List Registration :=
  [⟨⟨.ofBytes [97], ⟨4⟩⟩, ⟨⟨1⟩, ⟨2⟩, 7⟩⟩, ⟨⟨.ofBytes [98], ⟨5⟩⟩, ⟨⟨3⟩, ⟨4⟩, 8⟩⟩]

/-- A controller that heard of the lamp. -/
def lampKnown : Sys :=
  let s := start ⟨5, none, none⟩
  s.after (s.man.handlePacket .packed 1 lampPacket 25)

/-- The controller and the lamp agree on the second action. -/
theorem lamp_dispatches :
    AgreeOn lampRegs (.build (lampPacket.srcAddr .packed) lampRegs)
      (lampKnown.man.lookupAction (.stored ..) 1 (lampPacket.srcAddr .packed) (.ofBytes [98]))
      (.ofBytes [98]) := by
  have hrun : (machine .packed (.stored ..)).run (start ⟨5, none, none⟩)
      ([] ++ .packet 1 lampPacket 25 :: []) = some lampKnown := rfl
  exact discovery_dispatches (by decide) (by decide) (by decide) hrun rfl (by simp) lamp_laidOut
    rfl (.ofBytes [98])

end Sys

end KhawasuPc
