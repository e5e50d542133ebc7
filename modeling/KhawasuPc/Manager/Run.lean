import KhawasuPc.Lib.Machine
import KhawasuPc.Manager.HandlePacket

/-!
# Runs of the manager

A system is a manager and the synchronous calls made on it.  Its events are the
calls of any number of callers, single rounds of their wait loops, and incoming
packets, in any order.  The table of requests is shared by all of them, so an
event is what happens between two moments at which another caller or a packet
can touch the table.  After a fault nothing happens any more.
-/

namespace KhawasuPc

open Lib

/-- How an overloaded call names its action. -/
inductive ActionRef where
  | id (actionId : UInt16)
  | name (name : CString)
deriving DecidableEq, Repr

/-- Something that happens to a system. -/
inductive Event where
  | packet (srcPhy : FarAddr) (log : LogicalPacket) (size : UInt16)
  | executeActionAsync (env : Ambient) (addr : FarAddr) (port : UInt16) (action : ActionRef)
      (buffer : List UInt8) (requireStatus : Bool)
  | fetchActionAsync (env : Ambient) (addr : FarAddr) (port : UInt16) (action : ActionRef)
      (buffer : List UInt8)
  | executeAction (env : Ambient) (startTime : UInt64) (addr : FarAddr) (port : UInt16)
      (action : ActionRef) (buffer : List UInt8) (requireStatus : Bool)
  | fetchAction (env : Ambient) (startTime : UInt64) (addr : FarAddr) (port : UInt16)
      (action : ActionRef) (buffer : List UInt8)
  /-- The `call`-th synchronous call goes through its loop once. -/
  | poll (call : Nat) (now received : UInt64)
  /-- `subscribe_action` is called with an action. -/
  | subscribeAction (args : PhyDeviceManager.SubscribeArgs) (action : ActionRef)
  /-- `subscribe_action` is called with a subscription ready made. -/
  | subscribeActionData (data : ActionSubscriptionData)

/-- The event makes a synchronous call. -/
def Event.isSyncCall : Event → Bool
  | .executeAction .. | .fetchAction .. => true
  | _ => false

/-- A manager, the synchronous calls made on it, and what was done so far. -/
structure Sys where
  man : PhyDeviceManager
  /-- The synchronous calls, numbered in the order they were made. -/
  calls : UMap Nat Sync
  nextCall : Nat
  /-- What was done to the outside, in order. -/
  trace : List Effect
  fault : Option Fault

namespace Sys

/-- The system around a new manager. -/
def start (setup : Setup) : Sys where
  man := .make setup
  calls := ∅
  nextCall := 0
  trace := []
  fault := none

variable (s : Sys)

/-- The system after a function of the manager that can fault. -/
def after (o : Outcome) : Sys :=
  { s with man := o.man, trace := s.trace ++ o.effects, fault := o.fault }

/-- The system after a call that returned. -/
def called {α : Type} (c : Called α) : Sys :=
  { s with man := c.man, trace := s.trace ++ c.effects }

/-- The system after a synchronous call was made. -/
def opened (c : Called Sync) : Sys :=
  { s.called c with
    calls := s.calls.insert s.nextCall c.value
    nextCall := s.nextCall + 1 }

/-- The system after a round of the loop of a synchronous call. -/
def polled (call : Nat) (c : Called Sync) : Sys :=
  { s.called c with calls := s.calls.insert call c.value }

@[simp] theorem after_man (o : Outcome) : (s.after o).man = o.man := rfl
@[simp] theorem after_calls (o : Outcome) : (s.after o).calls = s.calls := rfl
@[simp] theorem after_fault (o : Outcome) : (s.after o).fault = o.fault := rfl
@[simp] theorem called_man {α : Type} (c : Called α) : (s.called c).man = c.man := rfl
@[simp] theorem called_calls {α : Type} (c : Called α) : (s.called c).calls = s.calls := rfl
@[simp] theorem called_fault {α : Type} (c : Called α) : (s.called c).fault = s.fault := rfl
@[simp] theorem opened_man (c : Called Sync) : (s.opened c).man = c.man := rfl
@[simp] theorem opened_calls (c : Called Sync) :
    (s.opened c).calls = s.calls.insert s.nextCall c.value := rfl
@[simp] theorem opened_fault (c : Called Sync) : (s.opened c).fault = s.fault := rfl
@[simp] theorem polled_man (call : Nat) (c : Called Sync) : (s.polled call c).man = c.man := rfl
@[simp] theorem polled_calls (call : Nat) (c : Called Sync) :
    (s.polled call c).calls = s.calls.insert call c.value := rfl
@[simp] theorem polled_fault (call : Nat) (c : Called Sync) :
    (s.polled call c).fault = s.fault := rfl

/-- What an event does to a system that has not faulted. -/
def next (L : PacketLayout) (E : Enumeration Nat DeviceApiAction) : Event → Option Sys
  | .packet srcPhy log size => some (s.after (s.man.handlePacket L srcPhy log size))
  | .executeActionAsync env addr port (.id actionId) buffer requireStatus =>
      some (s.called (s.man.executeActionAsync env addr port actionId buffer requireStatus))
  | .executeActionAsync env addr port (.name name) buffer requireStatus =>
      some (s.called (s.man.executeActionAsyncByName env addr port E name buffer requireStatus))
  | .fetchActionAsync env addr port (.id actionId) buffer =>
      some (s.called (s.man.fetchActionAsync env addr port actionId buffer))
  | .fetchActionAsync env addr port (.name name) buffer =>
      some (s.called (s.man.fetchActionAsyncByName env addr port E name buffer))
  | .executeAction env startTime addr port (.id actionId) buffer requireStatus =>
      some (s.opened
        (s.man.executeAction env addr port startTime actionId buffer requireStatus))
  | .executeAction env startTime addr port (.name name) buffer requireStatus =>
      some (s.opened
        (s.man.executeActionByName env addr port startTime E name buffer requireStatus))
  | .fetchAction env startTime addr port (.id actionId) buffer =>
      some (s.opened (s.man.fetchAction env addr port startTime actionId buffer))
  | .fetchAction env startTime addr port (.name name) buffer =>
      some (s.opened (s.man.fetchActionByName env addr port startTime E name buffer))
  | .poll call now received =>
      match s.calls.lookup call with
      | some (.polling c) => some (s.polled call (c.poll s.man now received))
      | _ => none
  | .subscribeAction args (.id actionId) =>
      some (s.after (s.man.subscribeActionById args actionId))
  | .subscribeAction args (.name name) =>
      some (s.after (s.man.subscribeActionByName E args name))
  | .subscribeActionData data => some (s.after (s.man.subscribeAction data))

/-- One event. -/
def step (L : PacketLayout) (E : Enumeration Nat DeviceApiAction) (e : Event) : Option Sys :=
  match s.fault with
  | none => s.next L E e
  | some _ => none

variable {s} {s' : Sys} {L : PacketLayout} {E : Enumeration Nat DeviceApiAction}

/-- A step is taken by a system that has not faulted. -/
theorem next_of_step {e : Event} (h : s.step L E e = some s') :
    s.fault = none ∧ s.next L E e = some s' := by
  unfold step at h
  cases hf : s.fault with
  | none => exact ⟨rfl, by simpa [hf] using h⟩
  | some f => simp [hf] at h

/-- A round of a wait loop is that of a call that waits. -/
theorem next_poll {call : Nat} {now received : UInt64}
    (h : s.next L E (.poll call now received) = some s') :
    ∃ c, s.calls.lookup call = some (.polling c) ∧
      s' = s.polled call (c.poll s.man now received) := by
  unfold next at h
  cases hc : s.calls.lookup call with
  | none => simp [hc] at h
  | some sync =>
      cases sync with
      | returned v => simp [hc] at h
      | polling c => exact ⟨c, rfl, by simpa [hc] using h.symm⟩

/-- A step comes from a call that returned, from a synchronous call made, from a
function that can fault, or from a round of a wait loop. -/
theorem next_cases {e : Event} (h : s.next L E e = some s') :
    (∃ o, s' = s.after o) ∨ (∃ c : Called UInt8, s' = s.called c) ∨ (∃ c, s' = s.opened c) ∨
      ∃ call now received c, e = .poll call now received ∧
        s.calls.lookup call = some (.polling c) ∧
        s' = s.polled call (c.poll s.man now received) := by
  cases e with
  | packet srcPhy log size => cases h; exact Or.inl ⟨_, rfl⟩
  | executeActionAsync env addr port action buffer requireStatus =>
      cases action <;> cases h <;> exact Or.inr (Or.inl ⟨_, rfl⟩)
  | fetchActionAsync env addr port action buffer =>
      cases action <;> cases h <;> exact Or.inr (Or.inl ⟨_, rfl⟩)
  | executeAction env startTime addr port action buffer requireStatus =>
      cases action <;> cases h <;> exact Or.inr (Or.inr (Or.inl ⟨_, rfl⟩))
  | fetchAction env startTime addr port action buffer =>
      cases action <;> cases h <;> exact Or.inr (Or.inr (Or.inl ⟨_, rfl⟩))
  | poll call now received =>
      obtain ⟨c, hc, rfl⟩ := next_poll h
      exact Or.inr (Or.inr (Or.inr ⟨call, now, received, c, rfl, hc, rfl⟩))
  | subscribeAction args action => cases action <;> cases h <;> exact Or.inl ⟨_, rfl⟩
  | subscribeActionData data => cases h; exact Or.inl ⟨_, rfl⟩

theorem nextCall_le {e : Event} (h : s.next L E e = some s') : s.nextCall ≤ s'.nextCall := by
  rcases next_cases h with ⟨o, rfl⟩ | ⟨c, rfl⟩ | ⟨c, rfl⟩ | ⟨call, now, received, c, -, -, rfl⟩
  · exact Nat.le_refl _
  · exact Nat.le_refl _
  · exact Nat.le_succ _
  · exact Nat.le_refl _

/-- Where a synchronous call stands is changed only by rounds of its own loop. -/
theorem next_calls {e : Event} {n : Nat} (h : s.next L E e = some s') (hn : n < s.nextCall)
    (hp : ∀ now received, e ≠ .poll n now received) :
    s'.calls.lookup n = s.calls.lookup n := by
  rcases next_cases h with ⟨o, rfl⟩ | ⟨c, rfl⟩ | ⟨c, rfl⟩ | ⟨call, now, received, c, rfl, -, rfl⟩
  · rfl
  · rfl
  · rw [opened_calls, Finmap.lookup_insert_of_ne _ (Nat.ne_of_lt hn)]
  · have hne : n ≠ call := by
      rintro rfl
      exact hp now received rfl
    rw [polled_calls, Finmap.lookup_insert_of_ne _ hne]

/-- The machine of a system. -/
def machine (L : PacketLayout) (E : Enumeration Nat DeviceApiAction) : Lib.Machine Sys Event :=
  ⟨fun s e => s.step L E e⟩

end Sys

end KhawasuPc
