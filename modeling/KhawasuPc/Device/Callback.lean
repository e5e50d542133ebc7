import KhawasuPc.Device.Info

/-!
# Local devices

A `LogicalCallbackDevice` is a device this program offers.  `addAction` appends an
action to a vector and files its two handlers under the name of the action.  A
request comes with an index into the vector; `onActionGet` and `onActionSet` look
for the handlers of that index by comparing its name with every key of the map, in
the order the map is iterated.  An index outside the vector is read all the same,
unless the map is empty: these functions return `none` there.

`Registered` says what the vector and the map hold after any number of calls of
`addAction`.
-/

namespace KhawasuPc

open Lib

/-- `DeviceCallbackApiAction`. -/
structure DeviceCallbackApiAction where
  /-- Called to read the value. -/
  handlerGet : FnRef
  /-- Called to change the value. -/
  handlerSet : FnRef
  /-- Passed to both. -/
  customData : Nat
deriving DecidableEq, Repr

/-- `LogicalCallbackDevice`, with the port of its base class. -/
structure LogicalCallbackDevice where
  selfPort : UInt16
  /-- The actions, in the order they were added. -/
  apiActions : List DeviceApiAction
  /-- The handlers, by name. -/
  apiCallbacks : UMap CString DeviceCallbackApiAction

/-- A call of a handler. -/
structure HandlerCall where
  handler : FnRef
  name : CString
  type : ActionType
  /-- The bytes it is passed. -/
  data : List UInt8
  /-- Who asks. -/
  addr : LogicalAddress
  /-- The request id, which only a `handler_get` is passed. -/
  requestId : Option UInt8
  customData : Nat
deriving DecidableEq, Repr

/-- What a device does to the outside. -/
inductive DeviceEffect where
  | call (call : HandlerCall)
  | send (packet : SentPacket)
deriving DecidableEq, Repr

/-- The loop of both dispatchers, `action` being what stands at the index asked for:
the entry of the map whose key is its name. -/
def findCallback (action : Option DeviceApiAction) :
    List (CString × DeviceCallbackApiAction) →
      Option (Option (DeviceApiAction × CString × DeviceCallbackApiAction))
  | [] => some none
  | (actionName, callbacks) :: rest =>
      match action with
      | none => none
      | some act =>
          if act.name = actionName then some (some (act, actionName, callbacks))
          else findCallback action rest

namespace LogicalCallbackDevice

variable (dev : LogicalCallbackDevice)

/-- `LogicalCallbackDevice::LogicalCallbackDevice`. -/
def make (port : UInt16) : LogicalCallbackDevice := ⟨port, [], ∅⟩

/-- `LogicalCallbackDevice::add_action`. -/
def addAction (data : DeviceApiAction) (handlerGet handlerSet : FnRef) (customData : Nat) :
    LogicalCallbackDevice :=
  { dev with
    apiActions := dev.apiActions ++ [data]
    apiCallbacks := dev.apiCallbacks.insert data.name ⟨handlerGet, handlerSet, customData⟩ }

/-- `LogicalCallbackDevice::get_api_actions`: the vector and its size, as a byte. -/
def getApiActions : List DeviceApiAction × UInt8 :=
  (dev.apiActions, UInt8.ofNat dev.apiActions.length)

/-- `api_actions[action_id]`, where it is in bounds. -/
def apiAction (actionId : Int) : Option DeviceApiAction :=
  if 0 ≤ actionId then dev.apiActions[actionId.toNat]? else none

variable (F : Enumeration CString DeviceCallbackApiAction) (actionId : Int) (data : List UInt8)
  (addr : LogicalAddress)

/-- `LogicalCallbackDevice::on_action_get`.  `respond` is what the handlers return.  The status of
the answer is not stored. -/
def onActionGet (requestId : UInt8) (slot : PoolSlot) (respond : HandlerCall → List UInt8) :
    Option (List DeviceEffect) :=
  (findCallback (dev.apiAction actionId) (F.entries dev.apiCallbacks)).map fun
    | none => []
    | some (action, actionName, callbacks) =>
        let call : HandlerCall :=
          { handler := callbacks.handlerGet
            name := actionName
            type := action.type
            data := data
            addr := addr
            requestId := some requestId
            customData := callbacks.customData }
        [.call call,
          .send
            { dest := addr
              srcPort := dev.selfPort
              ovlType := .unreliable
              body := .actionResponse requestId slot.status (respond call) }]

/-- `LogicalCallbackDevice::on_action_set`.  `respond` is what the handlers return. -/
def onActionSet (respond : HandlerCall → ActionExecuteStatus) :
    Option (List DeviceEffect × ActionExecuteStatus) :=
  (findCallback (dev.apiAction actionId) (F.entries dev.apiCallbacks)).map fun
    | none => ([], .actionNotFound)
    | some (action, actionName, callbacks) =>
        let call : HandlerCall :=
          { handler := callbacks.handlerSet
            name := actionName
            type := action.type
            data := data
            addr := addr
            requestId := none
            customData := callbacks.customData }
        ([.call call], respond call)

end LogicalCallbackDevice

/-! ## Registrations -/

/-- A call of `add_action`. -/
structure Registration where
  action : DeviceApiAction
  callbacks : DeviceCallbackApiAction
deriving DecidableEq, Repr

namespace Registration

variable (reg : Registration)

/-- The call a request to read the value asks for. -/
def getCall (data : List UInt8) (addr : LogicalAddress) (requestId : UInt8) : HandlerCall where
  handler := reg.callbacks.handlerGet
  name := reg.action.name
  type := reg.action.type
  data := data
  addr := addr
  requestId := some requestId
  customData := reg.callbacks.customData

/-- The call a request to change the value asks for. -/
def setCall (data : List UInt8) (addr : LogicalAddress) : HandlerCall where
  handler := reg.callbacks.handlerSet
  name := reg.action.name
  type := reg.action.type
  data := data
  addr := addr
  requestId := none
  customData := reg.callbacks.customData

end Registration

/-- The registration a name was last used in. -/
def lastNamed (regs : List Registration) (name : CString) : Option Registration :=
  regs.reverse.find? fun reg => reg.action.name = name

/-- Where names are distinct, a registration is the last of its name. -/
theorem lastNamed_of_mem {regs : List Registration} (hn : (regs.map (·.action.name)).Nodup)
    {reg : Registration} (h : reg ∈ regs) : lastNamed regs reg.action.name = some reg := by
  unfold lastNamed
  rw [List.find?_eq_some_iff_append]
  obtain ⟨pre, post, rfl⟩ := List.append_of_mem h
  refine ⟨by simp, post.reverse, pre.reverse, by simp, fun other hother => ?_⟩
  rw [List.map_append, List.map_cons, List.nodup_append, List.nodup_cons] at hn
  have hne := hn.2.1.1
  rw [List.mem_reverse] at hother
  simp only [Bool.not_eq_eq_eq_not, Bool.not_true, decide_eq_false_iff_not]
  intro heq
  exact hne (heq ▸ List.mem_map.mpr ⟨other, hother, rfl⟩)

namespace LogicalCallbackDevice

/-- A new device after calls of `add_action`. -/
def build (port : UInt16) (regs : List Registration) : LogicalCallbackDevice :=
  regs.foldl (fun dev reg => dev.addAction reg.action reg.callbacks.handlerGet
    reg.callbacks.handlerSet reg.callbacks.customData) (make port)

/-- `create_device`, up to `add_device`.  `handlers` are its two functions and the data they
are passed. -/
def createDevice (logAddr : UInt16) (handlers : DeviceCallbackApiAction)
    (actions : List DeviceApiAction) : LogicalCallbackDevice :=
  actions.foldl (fun dev act => dev.addAction act handlers.handlerGet handlers.handlerSet
    handlers.customData) (make logAddr)

/-- It registers all actions with the same handlers. -/
theorem createDevice_eq_build (logAddr : UInt16) (handlers : DeviceCallbackApiAction)
    (actions : List DeviceApiAction) :
    createDevice logAddr handlers actions = build logAddr (actions.map (⟨·, handlers⟩)) := by
  rw [createDevice, build, List.foldl_map]

/-- The device holds what was registered: every action in order, and under each name
the handlers last registered under it. -/
structure Registered (regs : List Registration) (dev : LogicalCallbackDevice) : Prop where
  actions : dev.apiActions = regs.map (·.action)
  callbacks : ∀ name, dev.apiCallbacks.lookup name = (lastNamed regs name).map (·.callbacks)

theorem Registered.addAction {regs : List Registration} {dev : LogicalCallbackDevice}
    (h : Registered regs dev) (reg : Registration) :
    Registered (regs ++ [reg]) (dev.addAction reg.action reg.callbacks.handlerGet
      reg.callbacks.handlerSet reg.callbacks.customData) where
  actions := by simp [LogicalCallbackDevice.addAction, h.actions]
  callbacks name := by
    by_cases hname : reg.action.name = name
    · simp [LogicalCallbackDevice.addAction, lastNamed, hname]
    · have hne : name ≠ reg.action.name := Ne.symm hname
      simp only [LogicalCallbackDevice.addAction, Finmap.lookup_insert_of_ne _ hne, h.callbacks]
      simp [lastNamed, hname]

/-- Every registration of a new device is held. -/
theorem build_registered (port : UInt16) (regs : List Registration) :
    Registered regs (build port regs) := by
  induction regs using List.reverseRecOn with
  | nil => exact ⟨rfl, fun name => rfl⟩
  | append_singleton regs reg ih =>
      unfold build at ih ⊢
      rw [List.foldl_append]
      exact ih.addAction reg

/-! ## Dispatch -/

/-- An index out of bounds is read in the first round of the loop. -/
theorem findCallback_none (entries : List (CString × DeviceCallbackApiAction)) :
    findCallback none entries = if entries = [] then some none else none := by
  cases entries with
  | nil => rfl
  | cons entry entries => rfl

/-- The loop of the dispatchers is a search by name. -/
theorem findCallback_eq (action : DeviceApiAction)
    (entries : List (CString × DeviceCallbackApiAction)) :
    findCallback (some action) entries =
      some ((entries.find? fun entry => entry.1 = action.name).map
        fun entry => (action, entry)) := by
  induction entries with
  | nil => rfl
  | cons entry entries ih =>
      obtain ⟨name, callbacks⟩ := entry
      by_cases h : action.name = name
      · simp [findCallback, h]
      · simp [findCallback, h, Ne.symm h, ih]

/-- The loop ends without a handler exactly if there is none, or the index is that of an
action whose name has none. -/
theorem findCallback_eq_nothing_iff (dev : LogicalCallbackDevice)
    (F : Enumeration CString DeviceCallbackApiAction) (actionId : Int) :
    findCallback (dev.apiAction actionId) (F.entries dev.apiCallbacks) = some none ↔
      dev.apiCallbacks = ∅ ∨
        ∃ action, dev.apiAction actionId = some action ∧ action.name ∉ dev.apiCallbacks := by
  cases hact : dev.apiAction actionId with
  | none => simp [findCallback_none, Enumeration.entries_eq_nil_iff]
  | some action =>
      rw [findCallback_eq, Option.some.injEq, Option.map_eq_none_iff, Enumeration.find?_eq_none]
      have absent : (∀ name callbacks, dev.apiCallbacks.lookup name = some callbacks →
          decide (name = action.name) = false) ↔ action.name ∉ dev.apiCallbacks := by
        simp only [decide_eq_false_iff_not, ← Finmap.lookup_eq_none,
          Option.eq_none_iff_forall_ne_some]
        exact ⟨fun h callbacks found => h _ callbacks found rfl,
          fun h name callbacks found eq => h callbacks (eq ▸ found)⟩
      rw [absent]
      constructor
      · exact fun missing => Or.inr ⟨action, rfl, missing⟩
      · rintro (empty | ⟨_, ⟨⟩, missing⟩)
        · rw [empty]
          exact Finmap.notMem_empty
        · exact missing

variable {regs : List Registration} {dev : LogicalCallbackDevice}
  (F : Enumeration CString DeviceCallbackApiAction)

/-- The loop finds the handlers last registered under the name of the action. -/
theorem Registered.findCallback_last (h : Registered regs dev) {i : Nat} {reg last : Registration}
    (hi : regs[i]? = some reg) (hlast : lastNamed regs reg.action.name = some last) :
    KhawasuPc.findCallback (dev.apiAction i) (F.entries dev.apiCallbacks) =
      some (some (reg.action, reg.action.name, last.callbacks)) := by
  have hact : dev.apiAction i = some reg.action := by
    simp [apiAction, h.actions, hi]
  have hcall : dev.apiCallbacks.lookup reg.action.name = some last.callbacks := by
    rw [h.callbacks, hlast, Option.map_some]
  rw [hact, findCallback_eq, Enumeration.find?_eq_some hcall (by simp) (by simp), Option.map_some]

/-- The loop finds the handlers registered under the name of the action. -/
theorem Registered.findCallback (h : Registered regs dev)
    (hn : (regs.map (·.action.name)).Nodup) {i : Nat} {reg : Registration}
    (hi : regs[i]? = some reg) :
    findCallback (dev.apiAction i) (F.entries dev.apiCallbacks) =
      some (some (reg.action, reg.action.name, reg.callbacks)) :=
  h.findCallback_last F hi (lastNamed_of_mem hn (List.mem_of_getElem? hi))

/-- A request to change a value calls the handler registered for the action, once. -/
theorem Registered.onActionSet (h : Registered regs dev)
    (hn : (regs.map (·.action.name)).Nodup) {i : Nat} {reg : Registration}
    (hi : regs[i]? = some reg) (data : List UInt8) (addr : LogicalAddress)
    (respond : HandlerCall → ActionExecuteStatus) :
    dev.onActionSet F i data addr respond =
      some ([.call (reg.setCall data addr)], respond (reg.setCall data addr)) := by
  unfold LogicalCallbackDevice.onActionSet
  rw [h.findCallback F hn hi]
  rfl

/-- The `ACTION_RESPONSE` to a request to read a value. -/
def answerPacket (dev : LogicalCallbackDevice) (addr : LogicalAddress) (requestId : UInt8)
    (slot : PoolSlot) (payload : List UInt8) : SentPacket where
  dest := addr
  srcPort := dev.selfPort
  ovlType := .unreliable
  body := .actionResponse requestId slot.status payload

/-- A request to read a value calls the handler registered for the action, once, and
sends what it returns. -/
theorem Registered.onActionGet (h : Registered regs dev)
    (hn : (regs.map (·.action.name)).Nodup) {i : Nat} {reg : Registration}
    (hi : regs[i]? = some reg) (data : List UInt8) (addr : LogicalAddress) (requestId : UInt8)
    (slot : PoolSlot) (respond : HandlerCall → List UInt8) :
    dev.onActionGet F i data addr requestId slot respond =
      some [.call (reg.getCall data addr requestId),
        .send (dev.answerPacket addr requestId slot
          (respond (reg.getCall data addr requestId)))] := by
  unfold LogicalCallbackDevice.onActionGet
  rw [h.findCallback F hn hi]
  rfl

end LogicalCallbackDevice

end KhawasuPc
