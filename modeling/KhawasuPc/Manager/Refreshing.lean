import KhawasuPc.Manager.Announcements
import KhawasuPc.Manager.Discovery

/-!
# Devices that announce themselves again

`handle_packet` reads the description out of every HELLO and hands it to `emplace`,
which drops it where the device is known.  So a device is `Current`, known as its
latest HELLO describes it, as long as its announcements say the same
(`run_current_iff`).  Calls by name go by what is known.
-/

namespace KhawasuPc

open Lib

variable {L : PacketLayout} {E : Enumeration Nat DeviceApiAction} {setup : Setup} {s s' : Sys}
  {e : Event} {es : List Event} {addr : FarAddr} {port : UInt16}

/-! ## The latest announcement -/

/-- How the latest HELLO of a device describes it. -/
def lastDescription (L : PacketLayout) (addr : FarAddr) (port : UInt16) (es : List Event) :
    Option LogDeviceInfo :=
  es.reverse.findSome? (Event.describes L addr port)

/-- The action of a name in a description. -/
def LogDeviceInfo.findAction (E : Enumeration Nat DeviceApiAction) (name : CString)
    (info : LogDeviceInfo) : Option (Nat × DeviceApiAction) :=
  (E.entries info.actionsMap).find? fun pair => pair.2.name = name

/-- Every call by name goes by this description. -/
structure CallsByName (E : Enumeration Nat DeviceApiAction) (man : PhyDeviceManager)
    (addr : FarAddr) (port : UInt16) (known : Option LogDeviceInfo) : Prop where
  lookup : ∀ name, man.lookupAction E addr port name = known.bind (LogDeviceInfo.findAction E name)
  executeAsync : ∀ name pair env buffer requireStatus,
    known.bind (LogDeviceInfo.findAction E name) = some pair →
    man.executeActionAsyncByName env addr port E name buffer requireStatus =
      man.executeActionAsync env addr port (UInt16.ofNat pair.1) buffer requireStatus
  execute : ∀ name pair env startTime buffer requireStatus,
    known.bind (LogDeviceInfo.findAction E name) = some pair →
    man.executeActionByName env addr port startTime E name buffer requireStatus =
      man.executeAction env addr port startTime (UInt16.ofNat pair.1) buffer requireStatus
  fetchAsync : ∀ name pair env buffer,
    known.bind (LogDeviceInfo.findAction E name) = some pair →
    man.fetchActionAsyncByName env addr port E name buffer =
      man.fetchActionAsync env addr port (UInt16.ofNat pair.1) buffer
  fetch : ∀ name pair env startTime buffer,
    known.bind (LogDeviceInfo.findAction E name) = some pair →
    man.fetchActionByName env addr port startTime E name buffer =
      man.fetchAction env addr port startTime (UInt16.ofNat pair.1) buffer
  subscribe : ∀ name pair (args : PhyDeviceManager.SubscribeArgs), args.addr = addr →
    args.port = port → known.bind (LogDeviceInfo.findAction E name) = some pair →
    man.subscribeActionByName E args name = man.subscribeActionById args (UInt16.ofNat pair.1)

/-- After the events `es` the device is known as its latest HELLO describes it, and
every call by name goes by that. -/
structure Current (L : PacketLayout) (E : Enumeration Nat DeviceApiAction) (addr : FarAddr)
    (port : UInt16) (es : List Event) (s : Sys) : Prop where
  entry : s.man.lookupLog addr port = lastDescription L addr port es
  calls : CallsByName E s.man addr port (lastDescription L addr port es)

/-- All HELLOs of the device describe it alike. -/
def DescribedAlike (L : PacketLayout) (addr : FarAddr) (port : UInt16) (es : List Event) : Prop :=
  ∀ e ∈ es, ∀ e' ∈ es, ∀ info info', e.describes L addr port = some info →
    e'.describes L addr port = some info' → info = info'

/-! ## Calls by name -/

/-- Calls by name go by the entry of the device. -/
theorem PhyDeviceManager.callsByName (E : Enumeration Nat DeviceApiAction)
    (man : PhyDeviceManager) (addr : FarAddr) (port : UInt16) :
    CallsByName E man addr port (man.lookupLog addr port) where
  lookup name := rfl
  executeAsync name pair env buffer requireStatus found :=
    executeActionAsyncByName_known found env buffer requireStatus
  execute name pair env startTime buffer requireStatus found := by
    have known : man.lookupAction E addr port name = some pair := found
    rw [executeActionByName, known]
  fetchAsync name pair env buffer found := by
    have known : man.lookupAction E addr port name = some pair := found
    rw [fetchActionAsyncByName, known]
  fetch name pair env startTime buffer found := by
    have known : man.lookupAction E addr port name = some pair := found
    rw [fetchActionByName, known]
  subscribe name pair args haddr hport found := by
    have known : man.lookupAction E args.addr args.port name = some pair := by
      rw [haddr, hport]
      exact found
    rw [subscribeActionByName, known]

/-! ## First and latest -/

theorem lastDescription_snoc :
    lastDescription L addr port (es ++ [e]) =
      (e.describes L addr port).or (lastDescription L addr port es) := by
  rw [lastDescription, List.reverse_append, List.reverse_singleton, List.singleton_append,
    List.findSome?_cons]
  cases e.describes L addr port <;> rfl

/-- After a HELLO its sender's latest description is that of the packet. -/
theorem lastDescription_hello {log : LogicalPacket} {size : UInt16}
    (hello : log.announces L addr = some ⟨addr, log.srcAddr L⟩) :
    lastDescription L addr (log.srcAddr L) (es ++ [.packet addr log size]) =
      some (.ofPacket L addr log) := by
  rw [lastDescription_snoc, describes_packet, if_pos hello, Option.some_or]

/-- What announcements that all say the same say last is what they say first. -/
theorem DescribedAlike.first_eq_last (h : DescribedAlike L addr port es) :
    firstDescription L addr port es = lastDescription L addr port es := by
  cases first : firstDescription L addr port es with
  | none =>
      symm
      refine List.findSome?_eq_none_iff.mpr fun e he => ?_
      exact List.findSome?_eq_none_iff.mp first e (List.mem_reverse.mp he)
  | some info =>
      obtain ⟨e, he, described⟩ := List.exists_of_findSome?_eq_some first
      cases last : lastDescription L addr port es with
      | none =>
          have silent := List.findSome?_eq_none_iff.mp last e (List.mem_reverse.mpr he)
          rw [described] at silent
          cases silent
      | some info' =>
          obtain ⟨e', he', described'⟩ := List.exists_of_findSome?_eq_some last
          rw [h e he e' (List.mem_reverse.mp he') info info' described described']

/-- What a device said first it said first all along. -/
theorem firstDescription_append (pre post : List Event) :
    firstDescription L addr port (pre ++ post) =
      (firstDescription L addr port pre).or (firstDescription L addr port post) :=
  List.findSome?_append

namespace Sys

/-- A device is current exactly if its latest HELLO describes it as its first did. -/
theorem run_current (h : (machine L E).run (start setup) es = some s) :
    Current L E addr port es s ↔
      firstDescription L addr port es = lastDescription L addr port es := by
  have stored := (run_told h addr port).stored
  constructor
  · intro current
    exact stored.symm.trans current.entry
  · intro same
    have entry := stored.trans same
    exact ⟨entry, entry ▸ s.man.callsByName E addr port⟩

/-- A HELLO leaves its sender current exactly if the sender was not known, or known as
the packet describes it. -/
theorem step_current_iff (h : (machine L E).run (start setup) es = some s)
    {log : LogicalPacket} {size : UInt16}
    (hello : log.announces L addr = some ⟨addr, log.srcAddr L⟩)
    (hstep : s.step L E (.packet addr log size) = some s') :
    Current L E addr (log.srcAddr L) (es ++ [.packet addr log size]) s' ↔
      ∀ info, s.man.lookupLog addr (log.srcAddr L) = some info → info = .ofPacket L addr log := by
  have hrun : (machine L E).run (start setup) (es ++ [.packet addr log size]) = some s' := by
    rw [Machine.run_snoc, h]
    exact hstep
  rw [run_current hrun, lastDescription_hello hello, firstDescription_snoc, describes_packet,
    if_pos hello, (run_told h addr (log.srcAddr L)).stored]
  cases firstDescription L addr (log.srcAddr L) es <;> simp

/-- For every run: a device is current in every state exactly if all its HELLOs
describe it alike. -/
theorem run_current_iff (h : (machine L E).run (start setup) es = some s) :
    (∀ pre post t, es = pre ++ post → (machine L E).run (start setup) pre = some t →
      Current L E addr port pre t) ↔ DescribedAlike L addr port es := by
  constructor
  · intro current
    have says_first : ∀ e ∈ es, ∀ info, e.describes L addr port = some info →
        firstDescription L addr port es = some info := by
      intro e he info described
      obtain ⟨pre, post, rfl⟩ := List.append_of_mem he
      have split : pre ++ e :: post = (pre ++ [e]) ++ post := by simp
      obtain ⟨t, hpre, -⟩ := Machine.run_append_some (split ▸ h)
      have same := (run_current hpre).mp (current (pre ++ [e]) post t split hpre)
      rw [lastDescription_snoc, described, Option.some_or] at same
      rw [split, firstDescription_append, same, Option.some_or]
    intro e he e' he' info info' described described'
    have same := says_first e he info described
    rw [says_first e' he' info' described'] at same
    exact (Option.some.inj same).symm
  · intro alike pre post t split hpre
    refine (run_current hpre).mpr (DescribedAlike.first_eq_last ?_)
    intro e he e' he'
    exact alike e (split ▸ List.mem_append_left _ he) e' (split ▸ List.mem_append_left _ he')

/-! ### A lamp renumbered -/

/-- The lamp, with its actions the other way round. -/
def turnedHello : Hello := { lampHello with actions := [⟨[98], ⟨5⟩⟩, ⟨[97], ⟨4⟩⟩] }

/-- The packet that announces it. -/
def turnedPacket : LogicalPacket :=
  .ofList ([20, 0, 0, 0, 0, 2, 1, 1, 2] ++ turnedHello.encode PacketLayout.packed.hello)

theorem turned_laidOut : turnedHello.LaidOut PacketLayout.packed turnedPacket where
  devClass := rfl
  nameLen := rfl
  attribCount := rfl
  actionCount := rfl
  records := rfl
  attribFits := by unfold AttribFits; decide
  actionFits := by unfold HelloAction.Fits; decide

/-- The controller after a further HELLO. -/
def heardAgain (packet : LogicalPacket) : Sys :=
  lampKnown.after (lampKnown.man.handlePacket .packed 1 packet 25)

/-- The lamp announced twice. -/
def lampTwice : List Event := [.packet 1 lampPacket 25, .packet 1 lampPacket 25]

theorem lampTwice_current :
    Current .packed (.stored ..) 1 (lampPacket.srcAddr .packed) lampTwice
      (heardAgain lampPacket) := by
  have hrun : (machine .packed (.stored ..)).run (start ⟨5, none, none⟩) lampTwice =
    some (heardAgain lampPacket) := rfl
  refine (run_current_iff hrun).mpr ?_ lampTwice [] _ (List.append_nil _).symm hrun
  intro e he e' he' info info' described described'
  have same : ∀ f ∈ lampTwice, f = .packet 1 lampPacket 25 := by simp [lampTwice]
  rw [same e he] at described
  rw [same e' he'] at described'
  exact Option.some.inj (described.symm.trans described')

/-- The lamp announced with its actions one way and then the other. -/
def turnedEvents : List Event := [.packet 1 lampPacket 25, .packet 1 turnedPacket 25]

/-- The actions of the turned lamp, registered. -/
def turnedRegs : List Registration :=
  [⟨⟨.ofBytes [98], ⟨5⟩⟩, ⟨⟨3⟩, ⟨4⟩, 8⟩⟩, ⟨⟨.ofBytes [97], ⟨4⟩⟩, ⟨⟨1⟩, ⟨2⟩, 7⟩⟩]

/-- After the second HELLO the first action is still looked up under the number it had. -/
theorem turned_stale :
    (machine .packed (.stored ..)).run (start ⟨5, none, none⟩) turnedEvents =
        some (heardAgain turnedPacket) ∧
      (heardAgain turnedPacket).man.lookupAction (.stored ..) 1 20 (.ofBytes [97]) =
        some (0, ⟨.ofBytes [97], ⟨4⟩⟩) ∧
      (lastDescription .packed 1 20 turnedEvents).bind
        (LogDeviceInfo.findAction (.stored ..) (.ofBytes [97])) =
        some (1, ⟨.ofBytes [97], ⟨4⟩⟩) := by
  refine ⟨rfl, ?_, ?_⟩
  · have known : (heardAgain turnedPacket).man.lookupLog 1 20 =
      some (.ofPacket .packed 1 lampPacket) := rfl
    rw [PhyDeviceManager.lookupAction, known, Option.bind_some]
    have table : ∀ k : Nat, (LogDeviceInfo.ofPacket .packed 1 lampPacket).actionsMap.lookup k =
        (lampRegs[k]?).map (·.action) :=
      lamp_laidOut.lookup_registered 1 rfl (by decide)
    exact (find_registered table (by decide)).mpr ⟨_, rfl, rfl, rfl⟩
  · have latest : lastDescription .packed 1 20 turnedEvents =
      some (.ofPacket .packed 1 turnedPacket) := rfl
    rw [latest, Option.bind_some, LogDeviceInfo.findAction]
    have table : ∀ k : Nat, (LogDeviceInfo.ofPacket .packed 1 turnedPacket).actionsMap.lookup k =
        (turnedRegs[k]?).map (·.action) :=
      turned_laidOut.lookup_registered 1 rfl (by decide)
    exact (find_registered table (by decide)).mpr ⟨_, rfl, rfl, rfl⟩

end Sys

end KhawasuPc
