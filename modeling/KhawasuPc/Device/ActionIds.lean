import KhawasuPc.Device.Callback

/-!
# Action ids

The id of an action is its index in the vector.  `get_action_id` searches the vector for a
name, comparing the lengths and then the bytes, and `get_api_actions` tells the size as one
byte.  The search returns 254 where it finds nothing, which is also the index of an action
once there are 255 of them: `build_numbers_iff`.

The member `length` of `DeviceApiAction` is set by its constructor, which is not part of the
repository.  It is the parameter `lengthOf`.
-/

namespace KhawasuPc

open Lib

/-- The loop that compares two names, for at most `rounds` rounds: where `j` ends. -/
def compareNames (a b : CString) (stringLen : Int) : Nat → Nat → Nat
  | 0, j => j
  | rounds + 1, j =>
      if (j : Int) < stringLen ∧ a.byteAt j = b.byteAt j then
        compareNames a b stringLen rounds (j + 1)
      else j

/-- `INT_MAX`. -/
def intMax : Nat := 2147483647

namespace LogicalCallbackDevice

/-- What `get_action_id` returns where it finds nothing. -/
def actionNotFoundId : UInt32 := 254

/-- The loop of `get_action_id` from the index `i` on.  The index is an `int`, which must
not overflow. -/
def searchAction (lengthOf : DeviceApiAction → Int) (name : CString) (stringLen : Int) :
    Nat → List DeviceApiAction → Option UInt32
  | _, [] => some actionNotFoundId
  | i, action :: actions =>
      if lengthOf action = stringLen - 1 ∧
          stringLen ≤ compareNames action.name name stringLen stringLen.toNat 0 then
        some (UInt32.ofNat i)
      else if i = intMax then none
      else searchAction lengthOf name stringLen (i + 1) actions

variable (dev : LogicalCallbackDevice) (lengthOf : DeviceApiAction → Int)

/-- `LogicalCallbackDevice::get_action_id`. -/
def getActionId (name : CString) (stringLen : Int) : Option UInt32 :=
  searchAction lengthOf name stringLen 0 dev.apiActions

end LogicalCallbackDevice

/-! ## Comparing names -/

/-- The loop reaches its end where all bytes agree. -/
theorem compareNames_end_iff {a b : CString} {len rounds j : Nat} (h : j + rounds = len) :
    (len : Int) ≤ compareNames a b len rounds j ↔
      ∀ i, j ≤ i → i < len → a.byteAt i = b.byteAt i := by
  induction rounds generalizing j with
  | zero =>
      rw [compareNames]
      refine iff_of_true (by omega) fun i hj hi => ?_
      omega
  | succ rounds ih =>
      rw [compareNames]
      by_cases same : a.byteAt j = b.byteAt j
      · rw [if_pos ⟨by omega, same⟩, ih (by omega)]
        constructor
        · intro rest i hj hi
          rcases Nat.eq_or_lt_of_le hj with rfl | hj
          · exact same
          · exact rest i hj hi
        · intro all i hj hi
          exact all i (by omega) hi
      · rw [if_neg fun hc => same hc.2]
        refine iff_of_false (by omega) fun all => ?_
        exact same (all j (Nat.le_refl _) (by omega))

/-- Compared up to its terminator, a name agrees with itself only. -/
theorem compareNames_iff (a b : CString) :
    ((b.bytes.length + 1 : Nat) : Int) ≤
        compareNames a b (b.bytes.length + 1 : Nat) (b.bytes.length + 1) 0 ↔ a = b := by
  rw [compareNames_end_iff (Nat.zero_add _)]
  constructor
  · intro same
    exact CString.eq_of_byteAt fun i hi => same i (Nat.zero_le _) (Nat.lt_succ_of_le hi)
  · rintro rfl i - -
    rfl

/-! ## Searching -/

namespace LogicalCallbackDevice

variable {lengthOf : DeviceApiAction → Int} {name : CString} {actions : List DeviceApiAction}

/-- `string_len` for a name: with its terminator. -/
def stringLenOf (name : CString) : Int := (name.bytes.length + 1 : Nat)

/-- The lengths are those of the names. -/
def Measures (lengthOf : DeviceApiAction → Int) (actions : List DeviceApiAction) : Prop :=
  ∀ action ∈ actions, lengthOf action = action.name.bytes.length

/-- What the body of the loop tests is the name. -/
theorem matches_iff (name : CString) {action : DeviceApiAction}
    (measured : lengthOf action = action.name.bytes.length) :
    (lengthOf action = stringLenOf name - 1 ∧
      stringLenOf name ≤
        compareNames action.name name (stringLenOf name) (stringLenOf name).toNat 0) ↔
      action.name = name := by
  have len : stringLenOf name - 1 = name.bytes.length := by
    rw [stringLenOf]
    omega
  rw [measured, len, stringLenOf, Int.toNat_natCast, compareNames_iff, and_iff_right_iff_imp]
  rintro rfl
  rfl

/-- The search compares names, as long as its index does not overflow. -/
theorem searchAction_eq (name : CString) (i : Nat) (measures : Measures lengthOf actions)
    (fits : i + actions.length ≤ intMax) :
    searchAction lengthOf name (stringLenOf name) i actions =
      some (match actions.findIdx? (fun action => action.name = name) with
        | none => actionNotFoundId
        | some k => UInt32.ofNat (i + k)) := by
  induction actions generalizing i with
  | nil => rfl
  | cons action actions ih =>
      rw [List.length_cons] at fits
      have tested := matches_iff name (measures action (List.mem_cons_self ..))
      rw [searchAction, List.findIdx?_cons]
      by_cases same : action.name = name
      · rw [if_pos (tested.mpr same), decide_eq_true same]
        rfl
      · have more : i ≠ intMax := by omega
        rw [if_neg fun hc => same (tested.mp hc), if_neg more, ih (i + 1)
          (fun a ha => measures a (List.mem_cons_of_mem _ ha)) (by omega), decide_eq_false same]
        cases actions.findIdx? fun action => action.name = name with
        | none => rfl
        | some k =>
            show some (UInt32.ofNat (i + 1 + k)) = some (UInt32.ofNat (i + (k + 1)))
            rw [Nat.add_assoc, Nat.add_comm 1 k]

end LogicalCallbackDevice

/-! ## The numbering -/

/-- The registration is the first of its name. -/
def FirstNamed (regs : List Registration) (name : CString) (i : Nat) : Prop :=
  (∃ reg, regs[i]? = some reg ∧ reg.action.name = name) ∧
    ∀ j < i, ∀ reg, regs[j]? = some reg → reg.action.name ≠ name

namespace LogicalCallbackDevice

/-- Action ids have no holes and do not clash: all of them are reported, the search finds
the least index of a name, and what it returns for an unknown name is no index. -/
structure Numbers (lengthOf : DeviceApiAction → Int) (regs : List Registration)
    (dev : LogicalCallbackDevice) : Prop where
  count : dev.getApiActions.2.toNat = regs.length
  least : ∀ name i, FirstNamed regs name i →
    ∃ id, dev.getActionId lengthOf name (stringLenOf name) = some id ∧ id.toNat = i
  unknown : ∀ name, dev.getActionId lengthOf name (stringLenOf name) = some actionNotFoundId ↔
    ∀ reg ∈ regs, reg.action.name ≠ name
  apart : ¬ actionNotFoundId.toNat < regs.length

variable {lengthOf : DeviceApiAction → Int} {regs : List Registration}

/-- A search by name finds the first of its name. -/
theorem findIdx?_eq_some_iff {name : CString} {i : Nat} :
    (regs.map (·.action)).findIdx? (fun action => action.name = name) = some i ↔
      FirstNamed regs name i := by
  rw [List.findIdx?_map, List.findIdx?_eq_some_iff_getElem]
  simp only [Function.comp_apply, decide_eq_true_eq]
  constructor
  · rintro ⟨hi, here, before⟩
    refine ⟨⟨regs[i], List.getElem?_eq_getElem hi, here⟩, fun j hj reg hreg => ?_⟩
    obtain ⟨hj', rfl⟩ := List.getElem?_eq_some_iff.mp hreg
    exact before j hj
  · rintro ⟨⟨reg, hreg, here⟩, before⟩
    obtain ⟨hi, rfl⟩ := List.getElem?_eq_some_iff.mp hreg
    exact ⟨hi, here, fun j hj => before j hj _ (List.getElem?_eq_getElem (Nat.lt_trans hj hi))⟩

/-- What the search of a device returns. -/
theorem getActionId_eq {port : UInt16} (measures : Measures lengthOf (regs.map (·.action)))
    (fits : regs.length ≤ intMax) (name : CString) :
    (build port regs).getActionId lengthOf name (stringLenOf name) =
      some (match (regs.map (·.action)).findIdx? (fun action => action.name = name) with
        | none => actionNotFoundId
        | some k => UInt32.ofNat k) := by
  have indices : 0 + (regs.map (·.action)).length ≤ intMax := by
    rwa [List.length_map, Nat.zero_add]
  have search := searchAction_eq name 0 measures indices
  simp only [Nat.zero_add] at search
  rw [getActionId, (build_registered port regs).actions, search]

/-- For every sequence of calls of `add_action`: action ids have no holes and do not clash
exactly if there are at most 254 of them. -/
theorem build_numbers_iff (port : UInt16) (measures : Measures lengthOf (regs.map (·.action))) :
    Numbers lengthOf regs (build port regs) ↔ regs.length ≤ 254 := by
  refine ⟨fun numbers => Nat.le_of_not_lt numbers.apart, fun few => ?_⟩
  have small : ∀ {name i}, FirstNamed regs name i → i < 254 := by
    rintro name i ⟨⟨reg, hreg, -⟩, -⟩
    have hi := (List.getElem?_eq_some_iff.mp hreg).1
    omega
  have fits : regs.length ≤ intMax := Nat.le_trans few (by decide)
  have kept : ∀ {name i}, FirstNamed regs name i → (UInt32.ofNat i).toNat = i := by
    intro name i first
    have hi := small first
    rw [UInt32.toNat_ofNat']
    exact Nat.mod_eq_of_lt (by omega)
  refine ⟨?count, ?least, ?unknown, Nat.not_lt_of_le few⟩
  case count =>
    show (UInt8.ofNat (build port regs).apiActions.length).toNat = regs.length
    rw [(build_registered port regs).actions, List.length_map, UInt8.toNat_ofNat']
    exact Nat.mod_eq_of_lt (by omega)
  case least =>
    intro name i first
    rw [getActionId_eq measures fits, findIdx?_eq_some_iff.mpr first]
    exact ⟨_, rfl, kept first⟩
  case unknown =>
    intro name
    rw [getActionId_eq measures fits]
    cases found : (regs.map (·.action)).findIdx? fun action => action.name = name with
    | none =>
        refine iff_of_true rfl fun reg hreg => ?_
        have other := List.findIdx?_eq_none_iff.mp found _ (List.mem_map_of_mem hreg)
        exact of_decide_eq_false other
    | some i =>
        have first := findIdx?_eq_some_iff.mp found
        refine iff_of_false (fun same => ?_) fun none_named => ?_
        · have hi := congrArg UInt32.toNat (Option.some.inj same)
          rw [kept first] at hi
          exact absurd (small first) (by rw [hi]; decide)
        · obtain ⟨⟨reg, hreg, named⟩, -⟩ := first
          exact none_named reg (List.mem_of_getElem? hreg) named

/-! ### The 255th action -/

/-- The length of the name of an action. -/
def nameLength (action : DeviceApiAction) : Int := action.name.bytes.length

/-- An action with a name of one byte. -/
def actionNamed (byte : UInt8) : Registration :=
  ⟨⟨.ofBytes [byte], ⟨1⟩⟩, ⟨⟨1⟩, ⟨2⟩, 0⟩⟩

theorem two_numbered :
    Numbers nameLength [actionNamed 1, actionNamed 2]
      (build 20 [actionNamed 1, actionNamed 2]) :=
  (build_numbers_iff 20 fun _ _ => rfl).mpr (by decide)

/-- 255 actions, the last of them with a name of its own. -/
def manyActions : List Registration := List.replicate 254 (actionNamed 1) ++ [actionNamed 2]

/-- The id of the 255th action is what the search returns for an unknown name too. -/
theorem manyActions_clash :
    (build 20 manyActions).apiActions[254]? = some (actionNamed 2).action ∧
      (build 20 manyActions).getActionId nameLength (.ofBytes [2]) (stringLenOf (.ofBytes [2])) =
        some 254 ∧
      (build 20 manyActions).getActionId nameLength (.ofBytes [3]) (stringLenOf (.ofBytes [3])) =
        some 254 := by
  have measures : Measures nameLength (manyActions.map (·.action)) := fun _ _ => rfl
  have fits : manyActions.length ≤ intMax := by
    simp [-List.reduceReplicate, manyActions, intMax]
  have apart : CString.ofBytes [1] ≠ .ofBytes [2] ∧ CString.ofBytes [1] ≠ .ofBytes [3] ∧
      CString.ofBytes [2] ≠ .ofBytes [3] := by decide
  refine ⟨?_, ?_, ?_⟩
  · rw [(build_registered 20 manyActions).actions]
    simp [-List.reduceReplicate, manyActions]
  · rw [getActionId_eq measures fits]
    have found : (manyActions.map (·.action)).findIdx?
        (fun action => action.name = .ofBytes [2]) = some 254 := by
      simp [-List.reduceReplicate, manyActions, List.findIdx?_append, List.findIdx?_replicate,
        actionNamed, apart]
    rw [found]
    rfl
  · rw [getActionId_eq measures fits]
    have found : (manyActions.map (·.action)).findIdx?
        (fun action => action.name = .ofBytes [3]) = none := by
      simp [-List.reduceReplicate, manyActions, List.findIdx?_append, List.findIdx?_replicate,
        actionNamed, apart]
    rw [found]
    rfl

end LogicalCallbackDevice

end KhawasuPc
