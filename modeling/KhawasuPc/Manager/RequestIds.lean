import KhawasuPc.Manager.Frame
import KhawasuPc.Manager.Reports

/-!
# Request ids and the error value

`fetch_action_async` by name returns `ERROR` where the action is unknown, and an id
where it is known.  Both are one `int`.  The ids are the values of a byte that starts
at the error value and is counted up by every request (`run_counter`), so they meet
it in the first request and in every 256th after it.
-/

namespace KhawasuPc

open Lib

variable {L : PacketLayout} {E : Enumeration Nat DeviceApiAction} {setup : Setup} {s s' : Sys}
  {e : Event} {es : List Event}

/-! ## The counter -/

namespace PhyDeviceManager

variable {man : PhyDeviceManager} {srcPhy : FarAddr} {log : LogicalPacket} {size : UInt16}
  {o : Outcome}

theorem Subscribes.counter {data : ActionSubscriptionData} (h : Subscribes man data o) :
    o.man.actionResponsesCounter = man.actionResponsesCounter :=
  h.keeps (·.actionResponsesCounter) rfl

/-- No packet draws a request id. -/
theorem Handled.counter (h : Handled L man srcPhy log size o) :
    o.man.actionResponsesCounter = man.actionResponsesCounter :=
  h.keeps (·.actionResponsesCounter) rfl (fun _ _ => rfl) fun _ => rfl

end PhyDeviceManager

namespace Sys

open PhyDeviceManager

/-- The counter goes up by one for every request that draws an id. -/
theorem Acts.counter {o : Outcome} (h : Acts L E s e o) :
    o.man.actionResponsesCounter =
      s.man.actionResponsesCounter + UInt8.ofNat (s.requests E e).length := by
  cases h with
  | packet srcPhy log size event =>
      subst event
      rw [(handlePacket_spec L s.man srcPhy log size).man,
        (bodyOf_handled L s.man srcPhy log size).counter]
      exact (UInt8.add_zero _).symm
  | asks env addr port type packet ops drawn => rw [drawn]; rfl
  | counts env addr port packet ops drawn => rw [drawn]; rfl
  | misses env addr port r ops drawn => rw [drawn]; rfl
  | nothing ops drawn => rw [drawn]; exact (UInt8.add_zero _).symm
  | collects reqId received man' r ops drawn made eq =>
      obtain ⟨data, -, -, rfl, -⟩ := collect_eq_some eq
      rw [drawn]
      exact (UInt8.add_zero _).symm
  | returns call now received c event =>
      subst event
      exact (UInt8.add_zero _).symm
  | countsSubscription args action event =>
      subst event
      exact (UInt8.add_zero _).symm
  | subscribes args action actionId dev event =>
      subst event
      rw [(subscribeAction_subscribes _ _).counter]
      exact (UInt8.add_zero _).symm
  | readyMade data event =>
      subst event
      rw [(subscribeAction_subscribes _ _).counter]
      exact (UInt8.add_zero _).symm

/-- In every run the counter is the number of requests made, as a byte. -/
theorem run_counter (h : (machine L E).run (start setup) es = some s) :
    s.man.actionResponsesCounter = UInt8.ofNat (requestsMade L E setup es).length := by
  refine Machine.run_history (M := machine L E)
    (P := fun es s => s.man.actionResponsesCounter =
      UInt8.ofNat (requestsMade L E setup es).length) rfl ?_ h
  intro es t e w hes counted hstep
  obtain ⟨o, acts, leads⟩ := step_acts hstep
  rw [leads.man_eq, acts.counter, counted, requestsMade, requestsMade, Machine.outputs_snoc hes,
    List.length_append, UInt8.ofNat_add]

/-! ## Asynchronous calls -/

/-- The event is an asynchronous call that sends a request. -/
def sendsAsync (E : Enumeration Nat DeviceApiAction) (s : Sys) : Event → Bool
  | .executeActionAsync _ addr port action _ _ => s.man.resolves E addr port action
  | .fetchActionAsync _ addr port action _ => s.man.resolves E addr port action
  | _ => false

/-- What an asynchronous call that sends a request returns. -/
def issuedIds (E : Enumeration Nat DeviceApiAction) (s : Sys) (e : Event) : List UInt8 :=
  if s.sendsAsync E e then
    match e with
    | .executeActionAsync env addr port (.id actionId) buffer requireStatus =>
        [(s.man.executeActionAsync env addr port actionId buffer requireStatus).value]
    | .executeActionAsync env addr port (.name name) buffer requireStatus =>
        [(s.man.executeActionAsyncByName env addr port E name buffer requireStatus).value]
    | .fetchActionAsync env addr port (.id actionId) buffer =>
        [(s.man.fetchActionAsync env addr port actionId buffer).value]
    | .fetchActionAsync env addr port (.name name) buffer =>
        [(s.man.fetchActionAsyncByName env addr port E name buffer).value]
    | _ => []
  else []

/-- What `fetch_action_async` returns for an unknown action is no id of a request made
along the run. -/
def TellsFailure (L : PacketLayout) (E : Enumeration Nat DeviceApiAction) (setup : Setup)
    (es : List Event) : Prop :=
  ∀ (man : PhyDeviceManager) env addr port name buffer,
    man.lookupAction E addr port name = none →
    (man.fetchActionAsyncByName env addr port E name buffer).value ∉
      (machine L E).outputs (issuedIds E) (start setup) es

/-- An asynchronous call that sends a request returns the id it draws. -/
theorem issuedIds_eq (s : Sys) (e : Event) :
    s.issuedIds E e = if s.sendsAsync E e then [s.man.actionResponsesCounter] else [] := by
  unfold issuedIds
  cases sends : s.sendsAsync E e with
  | false => rfl
  | true =>
      cases e with
      | executeActionAsync env addr port action buffer requireStatus =>
          cases action with
          | id actionId => rfl
          | name name =>
              obtain ⟨action, known⟩ := Option.isSome_iff_exists.mp sends
              simp only [executeActionAsyncByName_known known]
              rfl
      | fetchActionAsync env addr port action buffer =>
          cases action with
          | id actionId => rfl
          | name name =>
              obtain ⟨action, known⟩ := Option.isSome_iff_exists.mp sends
              simp only [fetchActionAsyncByName, known]
              rfl
      | _ => cases sends

/-- An unknown action is told by the error value. -/
theorem fetchActionAsyncByName_unknown {man : PhyDeviceManager} {addr : FarAddr} {port : UInt16}
    {name : CString} (unknown : man.lookupAction E addr port name = none) (env : Ambient)
    (buffer : List UInt8) :
    (man.fetchActionAsyncByName env addr port E name buffer).value = PhyDeviceManager.error := by
  rw [fetchActionAsyncByName, unknown]

/-- The error value is the only one that tells of an unknown action. -/
theorem tellsFailure_iff : TellsFailure L E setup es ↔
    PhyDeviceManager.error ∉ (machine L E).outputs (issuedIds E) (start setup) es := by
  constructor
  · intro tells
    exact tells (.make setup) ⟨0, .unknown, ⟨.other 0, .unknown⟩⟩ 0 0 (.ofBytes []) [] rfl
  · intro absent man env addr port name buffer unknown
    rw [fetchActionAsyncByName_unknown unknown]
    exact absent

/-- A number as a byte is the error value exactly if 256 divides it. -/
theorem ofNat_eq_error (n : Nat) : UInt8.ofNat n = PhyDeviceManager.error ↔ 256 ∣ n := by
  rw [PhyDeviceManager.error, ← UInt8.toNat_inj, UInt8.toNat_ofNat', Nat.dvd_iff_mod_eq_zero]
  rfl

/-- For every run: a failed call can be told from the requests of the run exactly if no
asynchronous call sends its request when the number of requests before it is a multiple
of 256. -/
theorem run_tellsFailure_iff (h : (machine L E).run (start setup) es = some s) :
    TellsFailure L E setup es ↔
      ∀ pre e post t, es = pre ++ e :: post → (machine L E).run (start setup) pre = some t →
        t.sendsAsync E e = true → ¬ 256 ∣ (requestsMade L E setup pre).length := by
  rw [tellsFailure_iff]
  constructor
  · rintro absent pre e post t rfl hpre sends multiple
    refine absent (Machine.mem_outputs_of_run hpre post ?_)
    rw [issuedIds_eq, if_pos sends, List.mem_singleton, run_counter hpre]
    exact ((ofNat_eq_error _).mpr multiple).symm
  · intro apart issued
    obtain ⟨pre, e, post, t, t', split, hpre, -, -, here⟩ := Machine.mem_outputs h issued
    rw [issuedIds_eq] at here
    cases sends : t.sendsAsync E e with
    | false => rw [sends] at here; cases here
    | true =>
        rw [if_pos sends, List.mem_singleton, run_counter hpre] at here
        exact apart pre e post t split hpre sends ((ofNat_eq_error _).mp here.symm)

/-! ### The first request -/

/-- A call of `fetch_action_async` for action 3 of a device. -/
def fetchThird : Event := .fetchActionAsync ⟨0, .unknown, ⟨.other 0, .unknown⟩⟩ 7 20 (.id 3) []

/-- A fetch after a request that nobody waits for. -/
def secondFetch : List Event :=
  [.executeAction ⟨0, .unknown, ⟨.other 0, .unknown⟩⟩ 0 7 20 (.id 3) [] false, fetchThird]

theorem secondFetch_tellsFailure :
    TellsFailure .packed (.stored ..) ⟨5, none, none⟩ secondFetch := by
  have runs : ∃ s,
      (machine .packed (.stored ..)).run (start ⟨5, none, none⟩) secondFetch = some s := ⟨_, rfl⟩
  obtain ⟨s, hrun⟩ := runs
  refine (run_tellsFailure_iff hrun).mpr fun pre e post t split hpre sends => ?_
  rcases pre with _ | ⟨a, _ | ⟨b, pre⟩⟩
  · cases split
    cases sends
  · cases split
    decide
  · simp [secondFetch] at split

/-- The first fetch of a new manager returns the error value. -/
theorem firstFetch_looksFailed :
    ¬ TellsFailure .packed (.stored ..) ⟨5, none, none⟩ [fetchThird] := by
  intro tells
  have hrun : (machine .packed (.stored ..)).run (start ⟨5, none, none⟩) [] =
    some (start ⟨5, none, none⟩) := rfl
  exact tells (.make ⟨5, none, none⟩) ⟨0, .unknown, ⟨.other 0, .unknown⟩⟩ 7 20 (.ofBytes []) [] rfl
    (Machine.mem_outputs_of_run hrun [] List.mem_cons_self)

end Sys

end KhawasuPc
