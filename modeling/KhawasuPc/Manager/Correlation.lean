import KhawasuPc.Manager.Events

/-!
# Requests and their replies

The table of requests is a table of reusable tags: every call that installs a
record takes a tag, every reply answers one, and every round of a wait loop
that collects a record gives its tag back.  `Sys.correlation` is the simulation
that says so.  The invariant it needs is that a record carries the id it is
stored under, and no payload while it waits.
-/

namespace KhawasuPc

open Lib

/-- What a record is as a slot. -/
def slotOf : Option ActionResponse → Slots.Slot Result
  | none => .free
  | some data => if data.isWaiting then .waiting else .answered data.result

/-- A record is stored under its own id, and has no payload while it waits. -/
def ActionResponse.Kept (reqId : UInt8) (data : ActionResponse) : Prop :=
  data.reqId = reqId.toUInt32 ∧ (data.isWaiting = true → data.payload = [])

namespace PhyDeviceManager

variable {man man' : PhyDeviceManager}

/-- The table of requests as a table of tags. -/
def table (man : PhyDeviceManager) : Slots.Table UInt8 Result :=
  fun k => slotOf (man.actionResponses.lookup k)

/-- Every record is kept well. -/
def RecordsKept (man : PhyDeviceManager) : Prop :=
  ∀ k data, man.actionResponses.lookup k = some data → data.Kept k

/-- `man'` is what `ops` make of the table of `man`. -/
def Performs (man : PhyDeviceManager) (ops : List (Slots.Op UInt8 Result))
    (man' : PhyDeviceManager) : Prop :=
  man.RecordsKept → man'.RecordsKept ∧ Slots.machine.run man.table ops = some man'.table

theorem Performs.of_eq (h : man'.actionResponses = man.actionResponses) :
    Performs man [] man' := by
  intro hk
  unfold RecordsKept table
  rw [h]
  exact ⟨hk, rfl⟩

theorem Performs.congr {ops : List (Slots.Op UInt8 Result)} {man₀ man₁ : PhyDeviceManager}
    (h : Performs man ops man₁) (h₀ : man₀.actionResponses = man.actionResponses)
    (h₁ : man'.actionResponses = man₁.actionResponses) : Performs man₀ ops man' := by
  intro hk
  have hk : man.RecordsKept := by
    unfold RecordsKept at hk ⊢
    rwa [h₀] at hk
  have h := h hk
  unfold RecordsKept table at h ⊢
  rw [h₀, h₁]
  exact h

theorem table_eq_free_iff {k : UInt8} :
    man.table k = .free ↔ man.actionResponses.lookup k = none := by
  unfold table slotOf
  cases man.actionResponses.lookup k with
  | none => simp
  | some data => cases h : data.isWaiting <;> simp [h]

theorem table_eq_waiting_iff {k : UInt8} :
    man.table k = .waiting ↔
      ∃ data, man.actionResponses.lookup k = some data ∧ data.isWaiting = true := by
  unfold table slotOf
  cases man.actionResponses.lookup k with
  | none => simp
  | some data => cases h : data.isWaiting <;> simp [h]

theorem table_eq_answered_iff {k : UInt8} {r : Result} :
    man.table k = .answered r ↔
      ∃ data, man.actionResponses.lookup k = some data ∧ data.isWaiting = false ∧
        data.result = r := by
  unfold table slotOf
  cases man.actionResponses.lookup k with
  | none => simp
  | some data => cases h : data.isWaiting <;> simp [h]

theorem table_setResponse (k : UInt8) (data : ActionResponse) :
    (man.setResponse k data).table = Function.update man.table k (slotOf (some data)) := by
  funext j
  by_cases hj : j = k
  · rw [hj, Function.update_self, table, setResponse, Finmap.lookup_insert]
  · rw [Function.update_of_ne hj, table, setResponse, Finmap.lookup_insert_of_ne _ hj, table]

theorem RecordsKept.setResponse {k : UInt8} {data : ActionResponse} (h : man.RecordsKept)
    (hd : data.Kept k) : (man.setResponse k data).RecordsKept := by
  intro j d hj
  by_cases hjk : j = k
  · rw [hjk, PhyDeviceManager.setResponse, Finmap.lookup_insert] at hj
    cases hj
    exact hjk ▸ hd
  · rw [PhyDeviceManager.setResponse, Finmap.lookup_insert_of_ne _ hjk] at hj
    exact h j d hj

/-! ## What each operation does to the table -/

/-- Where there is no record yet, a new one is installed. -/
theorem install_of_lookup {reqId : UInt8} (h : man.actionResponses.lookup reqId = none)
    (env : Ambient) (addr : FarAddr) (port : UInt16) (type : ActionResponseType) :
    man.install env addr port reqId type = man.setResponse reqId
      (ActionResponse.make reqId.toUInt32 type addr port env.now env.rawStatus) := by
  rw [install, UMap.emplace_of_notMem (Finmap.lookup_eq_none.mp h), setResponse]

/-- Installing a record takes its id. -/
theorem install_performs (man : PhyDeviceManager) (env : Ambient) (addr : FarAddr) (port : UInt16)
    (reqId : UInt8) (type : ActionResponseType) :
    Performs man [.issue reqId] (man.install env addr port reqId type) := by
  intro hk
  cases found : man.actionResponses.lookup reqId with
  | some data =>
      have hsame : man.install env addr port reqId type = man := by
        rw [install, UMap.emplace_of_mem (Finmap.mem_of_lookup_eq_some found)]
      have hne : man.table reqId ≠ .free := by
        rw [Ne, table_eq_free_iff, found]
        simp
      rw [hsame]
      refine ⟨hk, ?_⟩
      cases hs : man.table reqId with
      | free => exact absurd hs hne
      | waiting => simp [Machine.run_cons, Slots.machine, Slots.step, hs]
      | answered r => simp [Machine.run_cons, Slots.machine, Slots.step, hs]
  | none =>
      have hs : man.table reqId = .free := table_eq_free_iff.mpr found
      rw [install_of_lookup found]
      refine ⟨hk.setResponse ⟨rfl, fun _ => rfl⟩, ?_⟩
      rw [table_setResponse]
      simp [Machine.run_cons, Slots.machine, Slots.step, hs, slotOf, ActionResponse.make]

/-- Collecting a record gives its id back. -/
theorem collect_performs {reqId : UInt8} {received : UInt64} {r : ActionResponse}
    (h : man.collect reqId received = some (man', r)) :
    Performs man [.take reqId] man' ∧ man.table reqId = .answered r.result := by
  obtain ⟨data, found, waiting, rfl, rfl⟩ := collect_eq_some h
  have hs : man.table reqId = .answered data.result :=
    table_eq_answered_iff.mpr ⟨data, found, waiting, rfl⟩
  refine ⟨fun hk => ⟨?_, ?_⟩, hs⟩
  · intro j d hj
    by_cases hjr : j = reqId
    · rw [hjr, Finmap.lookup_erase] at hj
      cases hj
    · rw [Finmap.lookup_erase_ne hjr] at hj
      exact hk j d hj
  · have ht : Function.update man.table reqId .free =
        table { man with actionResponses := man.actionResponses.erase reqId } := by
      funext j
      by_cases hjr : j = reqId
      · rw [hjr, Function.update_self]
        exact (table_eq_free_iff.mpr (Finmap.lookup_erase _ _)).symm
      · rw [Function.update_of_ne hjr, table, table, Finmap.lookup_erase_ne hjr]
    simp [Machine.run_cons, Slots.machine, Slots.step, hs, ht]

/-- A reply handled without a fault answers its id. -/
theorem HandlesReply.performs {reqId : UInt8} {reply : Reply} {o : Outcome}
    (h : HandlesReply man reqId reply o) :
    Performs man (if o.fault = none then [.reply reqId reply.result] else []) o.man := by
  cases h with
  | unexpected found man_eq _ fault_eq =>
      rw [man_eq, fault_eq]
      have hs : man.table reqId = .free := table_eq_free_iff.mpr found
      exact fun hk => ⟨hk, by simp [Machine.run_cons, Slots.machine, Slots.step, hs]⟩
  | repeated data _ _ man_eq _ fault_eq =>
      rw [man_eq, fault_eq]
      exact Performs.of_eq rfl
  | tooLong data found waiting man_eq _ fault_eq =>
      rw [man_eq, fault_eq]
      intro hk
      have hd := hk reqId data found
      refine ⟨hk.setResponse ⟨hd.1, hd.2⟩, ?_⟩
      have hs : man.table reqId = .waiting := table_eq_waiting_iff.mpr ⟨data, found, waiting⟩
      have hslot : slotOf (some { data with status := reply.status }) = man.table reqId := by
        rw [hs]
        simp [slotOf, waiting]
      rw [table_setResponse, hslot, Function.update_eq_self]
      rfl
  | answered data found waiting man_eq _ fault_eq =>
      rw [man_eq, fault_eq]
      intro hk
      have hd := hk reqId data found
      have hs : man.table reqId = .waiting := table_eq_waiting_iff.mpr ⟨data, found, waiting⟩
      refine ⟨hk.setResponse ⟨hd.1, by simp [ActionResponse.answer]⟩, ?_⟩
      rw [table_setResponse]
      have hr : (data.answer reply).result = reply.result := by
        simp [ActionResponse.answer, ActionResponse.result, Reply.result, hd.2 waiting]
      simp [Machine.run_cons, Slots.machine, Slots.step, hs, slotOf, ← hr, ActionResponse.answer]

end PhyDeviceManager

/-! ## The simulation -/

namespace Sys

variable {L : PacketLayout} {E : Enumeration Nat DeviceApiAction} {s s' : Sys} {e : Event}

/-- What an event does to the manager.  The events that make a request or take its
answer are told apart by what they do to the table of requests. -/
inductive Does (L : PacketLayout) (E : Enumeration Nat DeviceApiAction) (s : Sys) (e : Event) :
    PhyDeviceManager → Prop
  /-- It handles a packet. -/
  | packet (srcPhy : FarAddr) (log : LogicalPacket) (size : UInt16)
      (event : e = .packet srcPhy log size) :
      Does L E s e (s.man.handlePacket L srcPhy log size).man
  /-- It draws a request id and installs a record. -/
  | asks (env : Ambient) (addr : FarAddr) (port : UInt16) (type : ActionResponseType)
      (ops : s.requestOps L E e = [.issue s.man.actionResponsesCounter]) :
      Does L E s e (s.man.bump.install env addr port s.man.actionResponsesCounter type)
  /-- It only draws a request id. -/
  | counts (ops : s.requestOps L E e = []) : Does L E s e s.man.bump
  /-- It leaves the manager alone. -/
  | nothing (ops : s.requestOps L E e = []) : Does L E s e s.man
  /-- It collects an answered record. -/
  | collects (reqId : UInt8) (received : UInt64) (man' : PhyDeviceManager) (r : ActionResponse)
      (ops : s.requestOps L E e = [.take reqId])
      (eq : s.man.collect reqId received = some (man', r)) : Does L E s e man'
  /-- It only draws a subscription id. -/
  | countsSubscription (ops : s.requestOps L E e = []) : Does L E s e s.man.bumpSubscription
  /-- It asks for a subscription, with a new id or one ready made. -/
  | subscribes (man : PhyDeviceManager) (data : ActionSubscriptionData)
      (ops : s.requestOps L E e = []) (drawn : man = s.man ∨ man = s.man.bumpSubscription) :
      Does L E s e (man.subscribeAction data).man

theorem Acts.does {o : Outcome} (h : Acts L E s e o) : Does L E s e o.man := by
  cases h with
  | packet srcPhy log size event => exact .packet srcPhy log size event
  | asks env addr port type packet ops => exact .asks env addr port type ops
  | counts env addr port packet ops => exact .counts ops
  | misses env addr port r ops => exact .counts ops
  | nothing ops => exact .nothing ops
  | collects reqId received man' r ops _ _ eq => exact .collects reqId received man' r ops eq
  | returns call now received c event found stop =>
      subst event
      exact .nothing (by simp [requestOps, found, SyncCall.collects, stop])
  | countsSubscription args action event => subst event; exact .countsSubscription rfl
  | subscribes args action actionId dev event =>
      subst event
      exact .subscribes _ _ rfl (Or.inr rfl)
  | readyMade data event => subst event; exact .subscribes _ data rfl (Or.inl rfl)

theorem step_does (h : s.step L E e = some s') : Does L E s e s'.man := by
  obtain ⟨o, ha, hl⟩ := step_acts h
  rw [hl.man_eq]
  exact ha.does

/-- An event does to the table of requests what `requestOps` says. -/
theorem step_performs (h : s.step L E e = some s') :
    s.man.Performs (s.requestOps L E e) s'.man := by
  have hd := step_does h
  generalize s'.man = man' at hd
  cases hd with
  | packet srcPhy log size event =>
      subst event
      cases hr : log.reply L size with
      | none =>
          simp only [requestOps, hr]
          exact .of_eq (PhyDeviceManager.handlePacket_no_reply hr).1
      | some p =>
          simp only [requestOps, hr]
          exact (PhyDeviceManager.handlePacket_reply hr).performs
  | asks env addr port type ops =>
      rw [ops]
      exact (PhyDeviceManager.install_performs s.man.bump env addr port _ type).congr rfl rfl
  | counts ops => rw [ops]; exact .of_eq rfl
  | nothing ops => rw [ops]; exact .of_eq rfl
  | collects reqId received man' r ops eq =>
      rw [ops]
      exact (PhyDeviceManager.collect_performs eq).1
  | countsSubscription ops => rw [ops]; exact .of_eq rfl
  | subscribes man data ops drawn =>
      rw [ops]
      have hs := (PhyDeviceManager.subscribeAction_subscribes man data).actionResponses.1
      refine .of_eq (hs.trans ?_)
      rcases drawn with rfl | rfl <;> rfl

/-- The table of requests is a table of tags. -/
def correlation (L : PacketLayout) (E : Enumeration Nat DeviceApiAction) :
    Simulation (machine L E) (Slots.machine (T := UInt8) (V := Result)) where
  inv s := s.man.RecordsKept
  abs s := s.man.table
  label s e := s.requestOps L E e
  keep _ _ _ hs h := (step_performs h hs).1
  sim _ _ _ hs h := (step_performs h hs).2

end Sys

end KhawasuPc
