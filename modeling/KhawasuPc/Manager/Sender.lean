import KhawasuPc.Manager.Frame
import KhawasuPc.Manager.Replies

/-!
# Who can answer

`handle_packet` finds the request or the subscription a packet is about by its
id alone.  It stores where a request was sent and it knows who sent the packet,
but never compares the two.  So a device that guesses an id answers for
another, and `handlePacket_matchedById` says what does hold: a packet touches
only what its id names, and the sender makes no difference.
-/

namespace KhawasuPc

open Lib

variable {L : PacketLayout} {E : Enumeration Nat DeviceApiAction} {setup : Setup}
  {s s' : Sys} {e : Event} {es : List Event}

/-! ## The sender makes no difference -/

/-- The packet is about a request or about a subscription. -/
def LogicalPacket.isReplyOrSubscription (L : PacketLayout) (log : LogicalPacket) : Bool :=
  match log.type L with
  | .actionExecuteResult | .actionResponse | .subscriptionDone | .subscriptionCallback => true
  | _ => false

/-- The packet with another `src_addr`. -/
def LogicalPacket.setSrcAddr (L : PacketLayout) (log : LogicalPacket) (port : UInt16) :
    LogicalPacket :=
  { log with
    mem := fun i =>
      if i = log.off + L.srcAddr then port.toUInt8
      else if i = log.off + L.srcAddr + 1 then (port >>> 8).toUInt8
      else log.mem i }

namespace LogicalPacket

variable {log : LogicalPacket} {port : UInt16}

theorem setSrcAddr_off : (log.setSrcAddr L port).off = log.off := rfl

theorem setSrcAddr_mem {i : Nat} (h : i < L.srcAddr ∨ L.srcAddr + 1 < i) :
    (log.setSrcAddr L port).mem (log.off + i) = log.mem (log.off + i) := by
  simp only [setSrcAddr]
  rw [if_neg (by omega), if_neg (by omega)]

/-- The members of one packet kind come after `src_addr`. -/
theorem setSrcAddr_slice {i n : Nat} (h : L.body ≤ i) :
    (log.setSrcAddr L port).mem.slice (log.off + i) n = log.mem.slice (log.off + i) n := by
  have := L.srcAddr_lt
  unfold Memory.slice
  refine List.map_congr_left fun j _ => ?_
  rw [Nat.add_assoc]
  exact setSrcAddr_mem (by omega)

theorem setSrcAddr_type : (log.setSrcAddr L port).type L = log.type L :=
  congrArg L.typeOf (setSrcAddr_mem L.type_apart)

theorem setSrcAddr_byte {i : Nat} (h : L.body ≤ i) :
    (log.setSrcAddr L port).mem (log.off + i) = log.mem (log.off + i) := by
  have := L.srcAddr_lt
  exact setSrcAddr_mem (by omega)

end LogicalPacket

namespace PhyDeviceManager

variable {man : PhyDeviceManager} {srcPhy : FarAddr} {log : LogicalPacket} {size : UInt16}

/-- The body that runs for a packet about a request or a subscription does not look
at the sender. -/
theorem bodyOf_setSrcAddr (h : log.isReplyOrSubscription L = true) (srcPhy srcPhy' : FarAddr)
    (port : UInt16) :
    man.bodyOf L srcPhy' (log.setSrcAddr L port) size (log.type L) =
      man.bodyOf L srcPhy log size (log.type L) := by
  have subId : (log.setSrcAddr L port).subscriptionId L = log.subscriptionId L := by
    unfold LogicalPacket.subscriptionId Memory.read
    rw [LogicalPacket.setSrcAddr_off, LogicalPacket.setSrcAddr_slice L.subscriptionId_ge]
  unfold LogicalPacket.isReplyOrSubscription at h
  unfold bodyOf
  cases ht : log.type L with
  | actionExecuteResult =>
      have reqId : (log.setSrcAddr L port).executeResultRequestId L =
          log.executeResultRequestId L := LogicalPacket.setSrcAddr_byte L.executeResultRequestId_ge
      have status : (log.setSrcAddr L port).executeResultStatus L = log.executeResultStatus L :=
        congrArg L.statusOf (LogicalPacket.setSrcAddr_byte L.executeResultStatus_ge)
      dsimp only
      unfold handleExecuteResult
      rw [reqId, status]
      rfl
  | actionResponse =>
      have reqId : (log.setSrcAddr L port).responseRequestId L = log.responseRequestId L :=
        LogicalPacket.setSrcAddr_byte L.responseRequestId_ge
      have status : (log.setSrcAddr L port).responseStatus L = log.responseStatus L :=
        congrArg L.statusOf (LogicalPacket.setSrcAddr_byte L.responseStatus_ge)
      have payload : ∀ n, (log.setSrcAddr L port).responsePayload L n = log.responsePayload L n :=
        fun n => LogicalPacket.setSrcAddr_slice
          (Nat.le_trans L.responseRequestId_ge (Nat.le_of_lt L.responseRequestId_lt))
      dsimp only
      unfold handleResponse
      rw [reqId, status]
      simp only [payload]
      rfl
  | subscriptionDone =>
      dsimp only
      unfold handleSubscriptionDone
      rw [subId]
      rfl
  | subscriptionCallback =>
      have payload : ∀ n, (log.setSrcAddr L port).subscriptionPayload L n =
          log.subscriptionPayload L n := by
        have := L.subscriptionId_ge
        have := L.subscriptionId_lt
        exact fun n => LogicalPacket.setSrcAddr_slice (by omega)
      dsimp only
      unfold handleSubscriptionCallback
      rw [subId]
      simp only [payload]
      rfl
  | helloWorld | helloWorldResponse => rw [ht] at h; cases h
  | _ => rfl

/-- The id of the packet is in the table its kind is about. -/
def Matches (L : PacketLayout) (man : PhyDeviceManager) (log : LogicalPacket) : Prop :=
  match log.type L with
  | .actionExecuteResult => log.executeResultRequestId L ∈ man.actionResponses
  | .actionResponse => log.responseRequestId L ∈ man.actionResponses
  | .subscriptionDone | .subscriptionCallback => log.subscriptionId L ∈ man.subscriptions
  | _ => False

/-- `handle_packet` goes by ids: what it does to a request or a subscription is done
by a packet that carries its id, whoever sent it. -/
structure MatchedById (L : PacketLayout) (man : PhyDeviceManager) (srcPhy : FarAddr)
    (log : LogicalPacket) (size : UInt16) : Prop where
  /-- A record changes only by a reply with its id. -/
  completes : ∀ k, (man.handlePacket L srcPhy log size).man.actionResponses.lookup k ≠
    man.actionResponses.lookup k → ∃ reply, log.reply L size = some (k, reply)
  /-- The callback of a subscription is called by a packet with its id. -/
  reports : ∀ callback data payload,
    Effect.subscription callback data payload ∈ (man.handlePacket L srcPhy log size).effects →
      log.type L = .subscriptionCallback ∧ data.id = log.subscriptionId L ∧
        man.subscriptions.lookup data.id = some data
  /-- The `done_callback` of a subscription is called by a packet with its id. -/
  finishes : ∀ callback data,
    Effect.subscriptionDone callback data ∈ (man.handlePacket L srcPhy log size).effects →
      log.type L = .subscriptionDone ∧ data.id = log.subscriptionId L ∧
        man.subscriptions.lookup data.id = some data
  /-- A subscription is renewed by a packet with its id. -/
  renews : ∀ packet, Effect.send packet ∈ (man.handlePacket L srcPhy log size).effects →
    log.type L = .subscriptionDone ∧ ∃ data device, data.id = log.subscriptionId L ∧
      man.subscriptions.lookup data.id = some data ∧ packet = man.startPacket device data
  /-- A packet with an id of no table does nothing. -/
  unmatched : log.isReplyOrSubscription L = true → ¬ man.Matches L log →
    (man.handlePacket L srcPhy log size).man = man ∧
      (man.handlePacket L srcPhy log size).effects = []
  /-- Any other sender would do the same. -/
  sender : log.isReplyOrSubscription L = true → ∀ srcPhy' port,
    (man.handlePacket L srcPhy' (log.setSrcAddr L port) size).man =
        (man.handlePacket L srcPhy log size).man ∧
      (man.handlePacket L srcPhy' (log.setSrcAddr L port) size).effects =
        (man.handlePacket L srcPhy log size).effects ∧
      (man.handlePacket L srcPhy' (log.setSrcAddr L port) size).fault =
        (man.handlePacket L srcPhy log size).fault

/-! ## What the effects of a packet are -/

/-- A reply changes at most the record under its id. -/
theorem HandlesReply.lookup_ne {reqId k : UInt8} {reply : Reply} {o : Outcome}
    (h : HandlesReply man reqId reply o) (hk : k ≠ reqId) :
    o.man.actionResponses.lookup k = man.actionResponses.lookup k := by
  cases h with
  | unexpected _ man_eq => rw [man_eq]
  | repeated _ _ _ man_eq => rw [man_eq]
  | tooLong _ _ _ man_eq => rw [man_eq, setResponse, Finmap.lookup_insert_of_ne _ hk]
  | answered _ _ _ man_eq => rw [man_eq, setResponse, Finmap.lookup_insert_of_ne _ hk]

/-- A HELLO is about no request and no subscription. -/
theorem isReplyOrSubscription_of_announces {who : LogicalAddress}
    (h : log.announces L srcPhy = some who) : log.isReplyOrSubscription L = false := by
  unfold LogicalPacket.announces at h
  unfold LogicalPacket.isReplyOrSubscription
  cases type : log.type L with
  | actionExecuteResult | actionResponse | subscriptionDone | subscriptionCallback =>
      rw [type] at h
      cases h
  | _ => rfl

/-- The effects of a packet, by its type. -/
inductive EffectOf (L : PacketLayout) (man : PhyDeviceManager) (log : LogicalPacket) :
    Effect → Prop
  | newDevice (callback : FnRef) (info : LogDeviceInfo)
      (other : log.isReplyOrSubscription L = false) :
      EffectOf L man log (.newDevice callback info)
  | action (callback : FnRef) (response : Option ActionResponse) :
      EffectOf L man log (.action callback response)
  | subscription (callback : FnRef) (data : ActionSubscriptionData) (payload : List UInt8)
      (type : log.type L = .subscriptionCallback)
      (found : man.subscriptions.lookup (log.subscriptionId L) = some data) :
      EffectOf L man log (.subscription callback data payload)
  | subscriptionDone (callback : FnRef) (data : ActionSubscriptionData)
      (type : log.type L = .subscriptionDone)
      (found : man.subscriptions.lookup (log.subscriptionId L) = some data) :
      EffectOf L man log (.subscriptionDone callback data)
  | send (device : LogDeviceInfo) (data : ActionSubscriptionData)
      (type : log.type L = .subscriptionDone)
      (found : man.subscriptions.lookup (log.subscriptionId L) = some data) :
      EffectOf L man log (.send (man.startPacket device data))

theorem HandlesReply.effect {reqId : UInt8} {reply : Reply} {o : Outcome}
    (h : HandlesReply man reqId reply o) {eff : Effect} (heff : eff ∈ o.effects) :
    EffectOf L man log eff := by
  cases h with
  | unexpected _ _ effects_eq => rw [effects_eq] at heff; cases heff
  | repeated _ _ _ _ effects_eq => rw [effects_eq] at heff; cases heff
  | tooLong _ _ _ _ effects_eq => rw [effects_eq] at heff; cases heff
  | answered data found waiting man_eq effects_eq fault_eq =>
      rw [effects_eq, callAction] at heff
      split at heff
      · cases heff
      · rw [List.mem_singleton] at heff
        subst heff
        exact .action _ _

theorem callDone_effect {data : ActionSubscriptionData} {eff : Effect} (h : eff ∈ callDone data)
    (type : log.type L = .subscriptionDone)
    (found : man.subscriptions.lookup (log.subscriptionId L) = some data) :
    EffectOf L man log eff := by
  unfold callDone at h
  split at h
  · cases h
  · rw [List.mem_singleton] at h
    subst h
    exact .subscriptionDone _ _ type found

theorem handlePacket_effect {eff : Effect}
    (h : eff ∈ (man.handlePacket L srcPhy log size).effects) : EffectOf L man log eff := by
  rw [(handlePacket_spec L man srcPhy log size).effects] at h
  have handled := bodyOf_handled L man srcPhy log size
  generalize man.bodyOf L srcPhy log size (log.type L) = o at h handled
  cases handled with
  | hello sender =>
      dsimp only [handleHello] at h
      split at h
      · split at h
        · cases h
        · rw [List.mem_singleton] at h
          subst h
          exact .newDevice _ _ (isReplyOrSubscription_of_announces sender)
      · cases h
  | reply _ reqId reply silent answers handles => exact handles.effect h
  | done _ type silent handles =>
      cases handles with
      | unexpected _ _ effects_eq => rw [effects_eq] at h; cases h
      | finished data found _ _ effects_eq =>
          rw [effects_eq] at h
          exact callDone_effect h type found
      | renewed data found renew again man_eq effects_eq fault_eq =>
          rw [effects_eq, List.mem_append] at h
          rcases h with h | h
          · exact callDone_effect h type found
          · cases again with
            | null => cases h
            | dangling => cases h
            | sends man' place device =>
                rw [List.mem_singleton] at h
                subst h
                exact .send device data type found
  | callback _ type silent handles =>
      cases handles with
      | unexpected _ _ effects_eq => rw [effects_eq] at h; cases h
      | faults _ _ effects_eq => rw [effects_eq] at h; cases h
      | reported data callback found set man_eq effects_eq fault_eq =>
          rw [effects_eq, List.mem_singleton] at h
          subst h
          exact .subscription _ _ _ type found
  | other silent => cases h

/-- A packet with an id of no table does nothing. -/
theorem handlePacket_unmatched (hkind : log.isReplyOrSubscription L = true)
    (h : ¬ man.Matches L log) :
    (man.handlePacket L srcPhy log size).man = man ∧
      (man.handlePacket L srcPhy log size).effects = [] := by
  rw [(handlePacket_spec L man srcPhy log size).man,
    (handlePacket_spec L man srcPhy log size).effects]
  unfold LogicalPacket.isReplyOrSubscription at hkind
  unfold Matches at h
  unfold bodyOf
  cases type : log.type L with
  | actionExecuteResult =>
      rw [type] at h
      simp only [handleExecuteResult, Finmap.lookup_eq_none.mpr h, and_self]
  | actionResponse =>
      rw [type] at h
      simp only [handleResponse, Finmap.lookup_eq_none.mpr h, and_self]
  | subscriptionDone =>
      rw [type] at h
      simp only [handleSubscriptionDone, Finmap.lookup_eq_none.mpr h, and_self]
  | subscriptionCallback =>
      rw [type] at h
      simp only [handleSubscriptionCallback, Finmap.lookup_eq_none.mpr h, and_self]
  | _ => rw [type] at hkind; cases hkind

end PhyDeviceManager

namespace Sys

open PhyDeviceManager

/-- After any run, `handle_packet` goes by ids alone. -/
theorem handlePacket_matchedById (h : (machine L E).run (start setup) es = some s)
    (srcPhy : FarAddr) (log : LogicalPacket) (size : UInt16) :
    MatchedById L s.man srcPhy log size := by
  have hk := run_subscriptionsKept h
  refine ⟨?completes, ?reports, ?finishes, ?renews, handlePacket_unmatched, ?sender⟩
  case completes =>
    intro k hne
    cases hr : log.reply L size with
    | none => exact absurd (by rw [(handlePacket_no_reply hr).1]) hne
    | some p =>
        obtain ⟨reqId, reply⟩ := p
        by_cases hid : k = reqId
        · exact ⟨reply, by rw [hid]⟩
        · exact absurd ((handlePacket_reply hr).lookup_ne hid) hne
  case reports =>
    intro callback data payload heff
    cases handlePacket_effect heff with
    | subscription _ _ _ type found =>
        have hid := hk _ _ found
        exact ⟨type, hid, hid ▸ found⟩
  case finishes =>
    intro callback data heff
    cases handlePacket_effect heff with
    | subscriptionDone _ _ type found =>
        have hid := hk _ _ found
        exact ⟨type, hid, hid ▸ found⟩
  case renews =>
    intro packet heff
    cases handlePacket_effect heff with
    | send device data type found =>
        have hid := hk _ _ found
        exact ⟨type, data, device, hid, hid ▸ found, rfl⟩
  case sender =>
    intro hkind srcPhy' port
    have spec := handlePacket_spec L s.man srcPhy log size
    have spec' := handlePacket_spec L s.man srcPhy' (log.setSrcAddr L port) size
    rw [LogicalPacket.setSrcAddr_type, bodyOf_setSrcAddr hkind srcPhy] at spec'
    exact ⟨spec'.man.trans spec.man.symm, spec'.effects.trans spec.effects.symm,
      spec'.fault.trans spec.fault.symm⟩

/-- A fetch sent to one device is completed by the reply of another. -/
theorem foreign_reply_completes :
    ∃ data data',
      (machine .packed (.stored ..)).run (start quiet)
        [.fetchActionAsync anyEnv 2 10 (.id 3) []] = some fetchedSys ∧
      fetchedSys.man.actionResponses.lookup 0 = some data ∧ data.isWaiting = true ∧
      (fetchedSys.man.handlePacket .packed 7 replyTo0 9).man.actionResponses.lookup 0 =
        some data' ∧ data'.isWaiting = false ∧
      (7, replyTo0.srcAddr .packed) ≠ (data.srcPhy, data.srcPort) :=
  ⟨_, _, rfl, rfl, rfl, rfl, rfl, by decide⟩

/-- The reply of another device goes by its id too. -/
theorem foreign_reply_matched : MatchedById .packed fetchedSys.man 7 replyTo0 9 := by
  have hrun : (machine .packed (.stored ..)).run (start quiet)
      [.fetchActionAsync anyEnv 2 10 (.id 3) []] = some fetchedSys := rfl
  exact handlePacket_matchedById hrun 7 replyTo0 9

end Sys

end KhawasuPc
