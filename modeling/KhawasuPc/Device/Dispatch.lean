import KhawasuPc.Device.Callback

/-!
# Every action id

An action id comes from the network and can be any number.  One that is the index of a
registered action is dispatched as it should, whatever names repeat: to the handlers last
registered under the name of that action, with its own type.  Any other id should be
answered with `ACTION_NOT_FOUND`.  The dispatchers do not compare it with the size of the
vector, and `dispatches_iff` says where that goes well: where the map is empty, and the loop
has no round.
-/

namespace KhawasuPc

open Lib

variable {regs : List Registration} {dev : LogicalCallbackDevice} {actionId : Int}

/-- The registration an action id stands for. -/
def registrationAt (regs : List Registration) (actionId : Int) : Option Registration :=
  if 0 ≤ actionId then regs[actionId.toNat]? else none

theorem mem_of_registrationAt {reg : Registration} (h : registrationAt regs actionId = some reg) :
    reg ∈ regs := by
  rw [registrationAt, Option.ite_none_right_eq_some] at h
  exact List.mem_of_getElem? h.2

/-- A registered name has a last registration. -/
theorem lastNamed_isSome {reg : Registration} (h : reg ∈ regs) :
    ∃ last, lastNamed regs reg.action.name = some last := by
  rw [← Option.isSome_iff_exists, lastNamed, List.find?_isSome]
  exact ⟨reg, List.mem_reverse.mpr h, decide_eq_true rfl⟩

namespace LogicalCallbackDevice

variable (F : Enumeration CString DeviceCallbackApiAction)

/-- A request for the action id calls this handler for it, and nothing else. -/
structure DispatchesTo (dev : LogicalCallbackDevice) (actionId : Int)
    (handlers : Registration) : Prop where
  set : ∀ data addr respond, dev.onActionSet F actionId data addr respond =
    some ([.call (handlers.setCall data addr)], respond (handlers.setCall data addr))
  get : ∀ data addr requestId slot respond,
    dev.onActionGet F actionId data addr requestId slot respond =
      some [.call (handlers.getCall data addr requestId),
        .send (dev.answerPacket addr requestId slot
          (respond (handlers.getCall data addr requestId)))]

/-- A request for the action id is refused: no handler is called, nothing is sent, and the
vector is not read out of bounds. -/
structure Refuses (dev : LogicalCallbackDevice) (actionId : Int) : Prop where
  set : ∀ data addr respond, dev.onActionSet F actionId data addr respond =
    some ([], .actionNotFound)
  get : ∀ data addr requestId slot respond,
    dev.onActionGet F actionId data addr requestId slot respond = some []

/-- A request is dispatched as it should be: one for a registered action to the handlers last
registered under its name, with its own name and type, and any other is refused. -/
def Dispatches (regs : List Registration) (dev : LogicalCallbackDevice) (actionId : Int) : Prop :=
  match registrationAt regs actionId with
  | some reg => ∃ last, lastNamed regs reg.action.name = some last ∧
      dev.DispatchesTo F actionId ⟨reg.action, last.callbacks⟩
  | none => dev.Refuses F actionId

variable {F}

/-- What the loop finds is called. -/
theorem dispatchesTo_of_findCallback {action : DeviceApiAction}
    {callbacks : DeviceCallbackApiAction}
    (found : findCallback (dev.apiAction actionId) (F.entries dev.apiCallbacks) =
      some (some (action, action.name, callbacks))) :
    dev.DispatchesTo F actionId ⟨action, callbacks⟩ where
  set data addr respond := by
    rw [onActionSet, found]
    rfl
  get data addr requestId slot respond := by
    rw [onActionGet, found]
    rfl

/-- The map has no entry exactly when nothing was registered. -/
theorem Registered.entries_eq_nil_iff (h : Registered regs dev) :
    F.entries dev.apiCallbacks = [] ↔ regs = [] := by
  rw [Enumeration.entries_eq_nil_iff]
  constructor
  · intro empty
    cases regs with
    | nil => rfl
    | cons reg regs =>
        obtain ⟨last, hlast⟩ := lastNamed_isSome (List.mem_cons_self (a := reg) (l := regs))
        have found : dev.apiCallbacks.lookup reg.action.name = some last.callbacks := by
          rw [h.callbacks, hlast, Option.map_some]
        rw [empty, Finmap.lookup_empty] at found
        cases found
  · rintro rfl
    refine Finmap.ext_lookup fun name => ?_
    rw [h.callbacks, Finmap.lookup_empty]
    rfl

/-- A registered action is dispatched to the handlers last registered under its name. -/
theorem Registered.dispatchesTo (h : Registered regs dev) {reg : Registration}
    (hreg : registrationAt regs actionId = some reg) :
    ∃ last, lastNamed regs reg.action.name = some last ∧
      dev.DispatchesTo F actionId ⟨reg.action, last.callbacks⟩ := by
  rw [registrationAt, Option.ite_none_right_eq_some] at hreg
  obtain ⟨hid, hi⟩ := hreg
  obtain ⟨last, hlast⟩ := lastNamed_isSome (List.mem_of_getElem? hi)
  have found := h.findCallback_last F hi hlast
  rw [Int.toNat_of_nonneg hid] at found
  exact ⟨last, hlast, dispatchesTo_of_findCallback found⟩

/-- An id out of bounds is refused exactly if nothing is registered. -/
theorem Registered.refuses_iff (h : Registered regs dev)
    (hreg : registrationAt regs actionId = none) : dev.Refuses F actionId ↔ regs = [] := by
  have outside : dev.apiAction actionId = none := by
    rw [registrationAt] at hreg
    rw [apiAction, h.actions]
    split at hreg
    next hid => rw [if_pos hid, List.getElem?_map, hreg, Option.map_none]
    next hid => rw [if_neg hid]
  have loop : KhawasuPc.findCallback (dev.apiAction actionId) (F.entries dev.apiCallbacks) =
      if regs = [] then some none else none := by
    rw [outside, findCallback_none]
    simp only [h.entries_eq_nil_iff]
  constructor
  · intro refuses
    by_contra some_registered
    have set := refuses.set [] ⟨0, 0⟩ fun _ => .unknown
    rw [LogicalCallbackDevice.onActionSet, loop, if_neg some_registered] at set
    cases set
  · intro none_registered
    rw [if_pos none_registered] at loop
    constructor
    · intro data addr respond
      rw [LogicalCallbackDevice.onActionSet, loop]
      rfl
    · intro data addr requestId slot respond
      rw [LogicalCallbackDevice.onActionGet, loop]
      rfl

/-- An id out of bounds is refused where nothing is registered, and else read. -/
theorem Registered.outside (h : Registered regs dev) (hreg : registrationAt regs actionId = none)
    (F : Enumeration CString DeviceCallbackApiAction) :
    regs = [] ∧ dev.Refuses F actionId ∨
      KhawasuPc.findCallback (dev.apiAction actionId) (F.entries dev.apiCallbacks) = none := by
  by_cases empty : regs = []
  · exact Or.inl ⟨empty, (h.refuses_iff hreg).mpr empty⟩
  · have outside : dev.apiAction actionId = none := by
      rw [apiAction, h.actions]
      rw [registrationAt] at hreg
      split at hreg
      next inside => rw [if_pos inside, List.getElem?_map, hreg, Option.map_none]
      next negative => rw [if_neg negative]
    have some_entries : F.entries dev.apiCallbacks ≠ [] :=
      fun none_left => empty (h.entries_eq_nil_iff.mp none_left)
    rw [outside, findCallback_none, if_neg some_entries]
    exact Or.inr rfl

/-- For every sequence of calls of `add_action` and every action id, the device dispatches a
request as it should exactly if the id is the index of a registered action or nothing is
registered. -/
theorem build_dispatches_iff (port : UInt16) (regs : List Registration) (actionId : Int)
    (F : Enumeration CString DeviceCallbackApiAction) :
    (build port regs).Dispatches F regs actionId ↔
      (registrationAt regs actionId).isSome ∨ regs = [] := by
  have h := build_registered port regs
  unfold Dispatches
  cases hreg : registrationAt regs actionId with
  | some reg => exact iff_of_true (h.dispatchesTo hreg) (Or.inl rfl)
  | none =>
      rw [h.refuses_iff hreg, Option.isSome_none]
      simp

/-- A device with one action. -/
def oneAction : LogicalCallbackDevice :=
  build 20 [⟨⟨.ofBytes [111, 110], ⟨1⟩⟩, ⟨⟨1⟩, ⟨2⟩, 0⟩⟩]

/-- The id 1 makes it read the vector of one action at the index 1. -/
theorem oneAction_read_outside :
    oneAction.onActionSet (.stored ..) 1 [] ⟨1, 10⟩ (fun _ => .unknown) = none ∧
      oneAction.onActionGet (.stored ..) 1 [] ⟨1, 10⟩ 0 ⟨.other 0, .unknown⟩ (fun _ => []) =
        none := by
  have entries : (Enumeration.stored CString DeviceCallbackApiAction).entries
      oneAction.apiCallbacks = [(.ofBytes [111, 110], ⟨⟨1⟩, ⟨2⟩, 0⟩)] :=
    Enumeration.entries_insert_empty ..
  rw [onActionSet, onActionGet, entries]
  exact ⟨rfl, rfl⟩

end LogicalCallbackDevice

end KhawasuPc
