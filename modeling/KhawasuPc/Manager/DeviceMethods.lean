import KhawasuPc.Device.Dispatch
import KhawasuPc.Manager.Refreshing

/-!
# The methods of a device

`new_device_callback` is passed a `LogDeviceInfo`, whose methods ask the manager for the device at
its address and port.  A record that was passed on is what the manager has of the device from then
on.  So its methods find the actions that it lists, and where the HELLO packets of the device were
truthful they reach the handlers registered there (`run_methods`).
-/

namespace KhawasuPc

open Lib

variable {L : PacketLayout} {E : Enumeration Nat DeviceApiAction} {setup : Setup}
  {regs : List Registration} {name : CString} {callback : FnRef}

/-! ## The methods -/

namespace LogDeviceInfo

variable (info : LogDeviceInfo) (man : PhyDeviceManager) (env : Ambient) (startTime : UInt64)

/-- `LogDeviceInfo::execute_action`, by action id, up to the loop of the manager's. -/
def executeAction (actionId : UInt16) (buffer : List UInt8) (requireStatus : Bool) : Called Sync :=
  man.executeAction env info.phy info.log startTime actionId buffer requireStatus

/-- `LogDeviceInfo::execute_action`, by action name. -/
def executeActionByName (E : Enumeration Nat DeviceApiAction) (actionName : CString)
    (buffer : List UInt8) (requireStatus : Bool) : Called Sync :=
  man.executeActionByName env info.phy info.log startTime E actionName buffer requireStatus

/-- `LogDeviceInfo::fetch_action`, by action id, up to the loop of the manager's. -/
def fetchAction (actionId : UInt16) (buffer : List UInt8) : Called Sync :=
  man.fetchAction env info.phy info.log startTime actionId buffer

/-- `LogDeviceInfo::fetch_action`, by action name. -/
def fetchActionByName (E : Enumeration Nat DeviceApiAction) (actionName : CString)
    (buffer : List UInt8) : Called Sync :=
  man.fetchActionByName env info.phy info.log startTime E actionName buffer

end LogDeviceInfo

/-! ## Records that were passed on -/

/-- The methods of a record, called with a name.  Where it is registered with the device, they send
one packet to the device, with an id for which the device calls the handlers registered under the
name, and else none. -/
structure LogDeviceInfo.Reaches (E : Enumeration Nat DeviceApiAction) (regs : List Registration)
    (info : LogDeviceInfo) (man : PhyDeviceManager) (name : CString) : Prop where
  missing : name ∉ regs.map (·.action.name) → ∀ env startTime buffer requireStatus,
    info.executeActionByName man env startTime E name buffer requireStatus =
        ⟨man, [], .returned (.status .actionNotFound)⟩ ∧
      info.fetchActionByName man env startTime E name buffer =
        ⟨man, [], .returned (.response none)⟩
  sends : ∀ reg ∈ regs, reg.action.name = name → ∃ actionId : UInt16,
    (∀ env startTime buffer requireStatus,
      (info.executeActionByName man env startTime E name buffer requireStatus).effects =
        [.send ⟨⟨info.phy, info.log⟩, man.selfPort, .unreliable,
          .actionExecute man.actionResponsesCounter actionId
            (if requireStatus then .requireStatusResponse else env.slot.flags) buffer⟩]) ∧
    (∀ env startTime buffer,
      (info.fetchActionByName man env startTime E name buffer).effects =
        [.send ⟨⟨info.phy, info.log⟩, man.selfPort, .unreliable,
          .actionFetch man.actionResponsesCounter actionId buffer⟩]) ∧
    ∀ F, (LogicalCallbackDevice.build info.log regs).DispatchesTo F actionId.toNat reg

/-- A table that files what is registered under its index leads there. -/
theorem LogDeviceInfo.reaches_of_table {info : LogDeviceInfo} {man : PhyDeviceManager}
    (few : regs.length ≤ 255) (nodup : (regs.map (·.action.name)).Nodup)
    (table : ∀ i : Nat, info.actionsMap.lookup i = (regs[i]?).map (·.action))
    (known : man.lookupLog info.phy info.log = some info) (name : CString) :
    info.Reaches E regs man name := by
  have found_iff : ∀ {id : Nat} {action : DeviceApiAction},
      man.lookupAction E info.phy info.log name = some (id, action) ↔
        ∃ reg, regs[id]? = some reg ∧ reg.action = action ∧ action.name = name := by
    intro id action
    rw [PhyDeviceManager.lookupAction, known, Option.bind_some]
    exact find_registered table nodup
  constructor
  · intro unregistered env startTime buffer requireStatus
    have missing : man.lookupAction E info.phy info.log name = none := by
      cases found : man.lookupAction E info.phy info.log name with
      | none => rfl
      | some pair =>
          obtain ⟨reg, hreg, action, named⟩ := found_iff.mp found
          rw [← action] at named
          exact absurd (List.mem_map.mpr ⟨reg, List.mem_of_getElem? hreg, named⟩) unregistered
    constructor
    · rw [executeActionByName, PhyDeviceManager.executeActionByName, missing]
    · rw [fetchActionByName, PhyDeviceManager.fetchActionByName, missing]
  · intro reg hreg named
    obtain ⟨id, at_id⟩ := List.mem_iff_getElem?.mp hreg
    have found := found_iff.mpr ⟨reg, at_id, rfl, named⟩
    have same : (UInt16.ofNat id).toNat = id := by
      have inside : id < regs.length := (List.getElem?_eq_some_iff.mp at_id).1
      rw [UInt16.toNat_ofNat']
      exact Nat.mod_eq_of_lt (by omega)
    refine ⟨UInt16.ofNat id, ?_, ?_, fun F => ?_⟩
    · intro env startTime buffer requireStatus
      rw [executeActionByName, PhyDeviceManager.executeActionByName, found]
      cases requireStatus <;> rfl
    · intro env startTime buffer
      rw [fetchActionByName, PhyDeviceManager.fetchActionByName, found]
      rfl
    · rw [same]
      exact LogicalCallbackDevice.dispatchesTo_of_findCallback
        ((LogicalCallbackDevice.build_registered ..).findCallback F nodup at_id)

namespace Sys

variable {s t : Sys} {es es' : List Event} {info : LogDeviceInfo}

/-- What was passed to `new_device_callback` is what the manager has of the device. -/
theorem run_passed (h : (machine L E).run (start setup) es = some s)
    (passed : Effect.newDevice callback info ∈ s.trace) :
    s.man.lookupLog info.phy info.log = some info := by
  have told := (run_told h info.phy info.log).notified
  have calls : Effect.newDevice callback info ∈ newDeviceCalls info.phy info.log s.trace :=
    List.mem_filter.mpr ⟨passed, by simp [Effect.reportsNew]⟩
  rw [told, Option.mem_toList, Option.bind_eq_some_iff] at calls
  obtain ⟨callback', -, reported⟩ := calls
  obtain ⟨info', known, same⟩ := Option.map_eq_some_iff.mp reported
  cases same
  exact known

/-- Where the HELLO packets of a device are truthful, its entry files what is registered there
under its index. -/
theorem run_table (h : (machine L E).run (start setup) es = some s)
    (few : regs.length ≤ 255) (nonempty : ∀ reg ∈ regs, reg.action.name.bytes ≠ [])
    (truthful : ∀ packet size, Event.packet info.phy packet size ∈ es →
      packet.announces L info.phy = some ⟨info.phy, info.log⟩ → ∃ content : Hello,
        content.LaidOut L packet ∧
        content.actions = (LogicalCallbackDevice.build info.log regs).announced)
    (known : s.man.lookupLog info.phy info.log = some info) (i : Nat) :
    info.actionsMap.lookup i = (regs[i]?).map (·.action) := by
  rw [(run_told h info.phy info.log).stored] at known
  obtain ⟨e, hmem, described⟩ := List.exists_of_findSome?_eq_some known
  obtain ⟨packet, size, rfl, hello, -, eq⟩ := describes_eq_some described
  obtain ⟨content, laidOut, actions⟩ := truthful packet size hmem hello
  rw [LogicalCallbackDevice.announced_build few] at actions
  rw [eq]
  exact laidOut.lookup_registered info.phy actions nonempty i

/-- In every run in which the HELLO packets of a device were truthful, the methods of the record
that `new_device_callback` was passed reach, in this state and every later one, what is registered
with the device. -/
theorem run_methods (h : (machine L E).run (start setup) es = some s)
    (passed : Effect.newDevice callback info ∈ s.trace)
    (later : (machine L E).run s es' = some t) (few : regs.length ≤ 255)
    (nodup : (regs.map (·.action.name)).Nodup)
    (nonempty : ∀ reg ∈ regs, reg.action.name.bytes ≠ [])
    (truthful : ∀ packet size, Event.packet info.phy packet size ∈ es →
      packet.announces L info.phy = some ⟨info.phy, info.log⟩ → ∃ content : Hello,
        content.LaidOut L packet ∧
        content.actions = (LogicalCallbackDevice.build info.log regs).announced)
    (name : CString) : info.Reaches E regs t.man name := by
  have known := run_passed h passed
  exact LogDeviceInfo.reaches_of_table few nodup (run_table h few nonempty truthful known)
    (run_lookupLog later known) name

/-- The lamp, and a client that is told of devices. -/
def lampPassed : Sys :=
  let s := start ⟨5, some ⟨9⟩, none⟩
  s.after (s.man.handlePacket .packed 1 lampPacket 25)

/-- The lamp announces itself again, with its actions the other way. -/
def lampTurned : Sys := lampPassed.after (lampPassed.man.handlePacket .packed 1 turnedPacket 25)

/-- The record of the lamp still reaches its second action. -/
theorem lamp_methods : (LogDeviceInfo.ofPacket .packed 1 lampPacket).Reaches (.stored ..) lampRegs
    lampTurned.man (.ofBytes [98]) := by
  have hrun : (machine .packed (.stored ..)).run (start ⟨5, some ⟨9⟩, none⟩)
      [.packet 1 lampPacket 25] = some lampPassed := rfl
  have later : (machine .packed (.stored ..)).run lampPassed [.packet 1 turnedPacket 25] =
      some lampTurned := rfl
  have passed : Effect.newDevice ⟨9⟩ (.ofPacket .packed 1 lampPacket) ∈ lampPassed.trace :=
    List.mem_singleton_self _
  refine run_methods hrun passed later (by decide) (by decide) (by decide) ?_ _
  intro packet size hmem hello
  cases List.mem_singleton.mp hmem
  exact ⟨lampHello, lamp_laidOut, rfl⟩

end Sys

end KhawasuPc
