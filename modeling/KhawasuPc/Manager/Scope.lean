import KhawasuPc.Manager.Sender

/-!
# What a packet touches

`handle_packet` works on three tables and two counters.  `Touches` is its frame: a
HELLO adds its sender and nobody else, a reply completes the record under its id and
no other, and a subscription packet changes nothing at all.  The last needs an
argument, since renewal inserts the subscription again: the map has it already under
its own id, so `emplace` does nothing.
-/

namespace KhawasuPc

open Lib

/-- Two states of the record of one request: the reply may have come between. -/
structure ActionResponse.SameRequest (data data' : ActionResponse) : Prop where
  reqId : data'.reqId = data.reqId
  type : data'.type = data.type
  srcPhy : data'.srcPhy = data.srcPhy
  srcPort : data'.srcPort = data.srcPort
  timeSent : data'.timeSent = data.timeSent
  timeReceived : data'.timeReceived = data.timeReceived

namespace PhyDeviceManager

variable {L : PacketLayout} {man : PhyDeviceManager} {srcPhy : FarAddr} {log : LogicalPacket}
  {size : UInt16} {o : Outcome}

/-- What a packet can change of a manager, and what nothing can: `man'` is the manager
after it, and `effects` what it did to the outside. -/
structure Touches (L : PacketLayout) (man : PhyDeviceManager) (srcPhy : FarAddr)
    (log : LogicalPacket) (size : UInt16) (man' : PhyDeviceManager) (effects : List Effect) :
    Prop where
  /-- The devices are changed by a HELLO only, -/
  devices : log.announces L srcPhy = none → man'.knownDevices = man.knownDevices
  /-- not by that of a known device, -/
  known : ∀ addr port, log.announces L srcPhy = some ⟨addr, port⟩ →
    (man.lookupLog addr port).isSome → man'.knownDevices = man.knownDevices
  /-- and only where the sender is. -/
  otherPhys : ∀ addr, addr ≠ srcPhy → man'.lookup addr = man.lookup addr
  otherPorts : ∀ addr port, log.announces L srcPhy ≠ some ⟨addr, port⟩ →
    man'.lookupLog addr port = man.lookupLog addr port
  /-- A record is changed by a reply with its id, which leaves the request as it was
  and, if it is an `ACTION_EXECUTE_RESULT`, the payload too. -/
  requests : ∀ k, man'.actionResponses.lookup k ≠ man.actionResponses.lookup k →
    ∃ reply data data', log.reply L size = some (k, reply) ∧
      man.actionResponses.lookup k = some data ∧ man'.actionResponses.lookup k = some data' ∧
      data.SameRequest data' ∧ (log.type L ≠ .actionResponse → data'.payload = data.payload)
  subscriptions : man'.subscriptions = man.subscriptions
  requestCounter : man'.actionResponsesCounter = man.actionResponsesCounter
  subscriptionCounter : man'.subscriptionCounter = man.subscriptionCounter
  setup : man'.setup = man.setup
  /-- A packet of no known kind, or with an id of no table, does nothing. -/
  unmatched : log.announces L srcPhy = none → ¬ man.Matches L log → man' = man ∧ effects = []

/-! ## A HELLO -/

/-- The HELLO of a known device changes nothing. -/
theorem handleHello_known (h : (man.lookupLog srcPhy (log.srcAddr L)).isSome) :
    (man.handleHello L srcPhy log).man.knownDevices = man.knownDevices := by
  unfold lookupLog lookup at h
  cases hphy : man.knownDevices.lookup srcPhy with
  | none => simp [hphy] at h
  | some phy =>
      rw [hphy, Option.bind_some, Option.isSome_iff_exists] at h
      obtain ⟨dev, hdev⟩ := h
      have hmem : srcPhy ∈ man.knownDevices := Finmap.mem_of_lookup_eq_some hphy
      have hport : log.srcAddr L ∈ phy.logDevices := Finmap.mem_of_lookup_eq_some hdev
      dsimp only [handleHello]
      rw [UMap.emplace_of_mem hmem, hphy, Option.getD_some, UMap.emplace_of_mem hport]
      exact UMap.insert_lookup_eq hphy

/-- A HELLO changes nothing behind another mesh address. -/
theorem handleHello_lookup_ne {addr : FarAddr} (h : addr ≠ srcPhy) :
    (man.handleHello L srcPhy log).man.lookup addr = man.lookup addr := by
  unfold lookup
  dsimp only [handleHello]
  rw [Finmap.lookup_insert_of_ne _ h, UMap.lookup_emplace_ne h]

theorem handleHello_touches (sender : log.announces L srcPhy = some ⟨srcPhy, log.srcAddr L⟩) :
    Touches L man srcPhy log size (man.handleHello L srcPhy log).man
      (man.handleHello L srcPhy log).effects where
  devices silent := by rw [sender] at silent; cases silent
  known addr port he h := by
    rw [sender] at he
    cases he
    exact handleHello_known h
  otherPhys _ h := handleHello_lookup_ne h
  otherPorts addr port h := handleHello_lookupLog_ne fun he => h (sender.trans (congrArg some he))
  requests _ h := absurd rfl h
  subscriptions := rfl
  requestCounter := rfl
  subscriptionCounter := rfl
  setup := rfl
  unmatched silent := by rw [sender] at silent; cases silent

/-! ## A reply -/

/-- An `ACTION_EXECUTE_RESULT` brings no payload. -/
theorem reply_payload {k : UInt8} {reply : Reply} (h : log.reply L size = some (k, reply))
    (type : log.type L ≠ .actionResponse) : reply.payload = none := by
  unfold LogicalPacket.reply at h
  cases ht : log.type L with
  | actionExecuteResult => rw [ht] at h; cases h; rfl
  | actionResponse => exact absurd ht type
  | _ => rw [ht] at h; cases h

/-- What a reply writes to the record under its id. -/
theorem HandlesReply.writes {reqId : UInt8} {reply : Reply} (h : HandlesReply man reqId reply o) :
    o.man = man ∨ ∃ data data', man.actionResponses.lookup reqId = some data ∧
      data.SameRequest data' ∧ (reply.payload = none → data'.payload = data.payload) ∧
      o.man = man.setResponse reqId data' := by
  cases h with
  | unexpected _ man_eq => exact Or.inl man_eq
  | repeated _ _ _ man_eq => exact Or.inl man_eq
  | tooLong data found _ man_eq =>
      exact Or.inr ⟨data, { data with status := reply.status }, found,
        ⟨rfl, rfl, rfl, rfl, rfl, rfl⟩, fun _ => rfl, man_eq⟩
  | answered data found _ man_eq =>
      refine Or.inr ⟨data, data.answer reply, found, ⟨rfl, rfl, rfl, rfl, rfl, rfl⟩,
        fun hp => ?_, man_eq⟩
      rw [ActionResponse.answer, hp, Option.getD_none]

/-! ## Any packet -/

/-- A packet that leaves the manager as it is. -/
theorem touches_refl {effects : List Effect} (quiet : log.announces L srcPhy = none →
    ¬ man.Matches L log → effects = []) : Touches L man srcPhy log size man effects where
  devices _ := rfl
  known _ _ _ _ := rfl
  otherPhys _ _ := rfl
  otherPorts _ _ _ := rfl
  requests _ h := absurd rfl h
  subscriptions := rfl
  requestCounter := rfl
  subscriptionCounter := rfl
  setup := rfl
  unmatched silent h := ⟨rfl, quiet silent h⟩

theorem HandlesReply.touches {reqId : UInt8} {reply : Reply} (h : HandlesReply man reqId reply o)
    (answers : log.reply L size = some (reqId, reply))
    (idle : log.announces L srcPhy = none → ¬ man.Matches L log → o.man = man ∧ o.effects = []) :
    Touches L man srcPhy log size o.man o.effects := by
  rcases h.writes with same | ⟨data, data', found, same, payload, man_eq⟩
  · rw [same]
    exact touches_refl fun silent hm => (idle silent hm).2
  · refine ⟨?_, ?_, ?_, ?_, ?requests, ?_, ?_, ?_, ?_, idle⟩
    case requests =>
      intro k hne
      have hk : k = reqId := by
        by_contra hk
        exact hne (h.lookup_ne hk)
      subst hk
      refine ⟨reply, data, data', answers, found, ?_, same, fun type => ?_⟩
      · rw [man_eq, setResponse, Finmap.lookup_insert]
      · exact payload (reply_payload answers type)
    all_goals
      rw [man_eq]
      intros
      rfl

/-- Renewal inserts a subscription the map has under its own id, which changes
nothing. -/
theorem HandlesDone.man_eq {id : UInt32} (h : HandlesDone man id o)
    (kept : man.SubscriptionsKept) : o.man = man := by
  cases h with
  | unexpected _ man_eq => exact man_eq
  | finished _ _ _ man_eq => exact man_eq
  | renewed data found renew again man_eq =>
      have hmem : data.id ∈ man.subscriptions := by
        rw [kept _ _ found]
        exact Finmap.mem_of_lookup_eq_some found
      rw [man_eq]
      cases again with
      | null device => rfl
      | dangling _ new_eq => rw [new_eq, UMap.emplace_of_mem hmem]
      | sends _ place device new_eq => rw [new_eq, UMap.emplace_of_mem hmem]

/-- A packet with an id of no table, or of no known kind, does nothing. -/
theorem handlePacket_idle (size : UInt16) (silent : log.announces L srcPhy = none)
    (h : ¬ man.Matches L log) :
    (man.handlePacket L srcPhy log size).man = man ∧
      (man.handlePacket L srcPhy log size).effects = [] := by
  cases kind : log.isReplyOrSubscription L with
  | true => exact handlePacket_unmatched kind h
  | false =>
      have spec := handlePacket_spec L man srcPhy log size
      have body : man.bodyOf L srcPhy log size (log.type L) = .skip man := by
        unfold LogicalPacket.announces at silent
        unfold LogicalPacket.isReplyOrSubscription at kind
        unfold bodyOf
        cases type : log.type L with
        | helloWorld | helloWorldResponse => rw [type] at silent; cases silent
        | actionExecuteResult | actionResponse | subscriptionDone | subscriptionCallback =>
            rw [type] at kind
            cases kind
        | _ => rfl
      rw [body] at spec
      exact ⟨spec.man, spec.effects⟩

/-- What a packet does is inside what it can touch. -/
theorem Handled.touches (h : Handled L man srcPhy log size o) (kept : man.SubscriptionsKept)
    (idle : log.announces L srcPhy = none → ¬ man.Matches L log → o.man = man ∧ o.effects = []) :
    Touches L man srcPhy log size o.man o.effects := by
  have quiet := fun silent hm => (idle silent hm).2
  cases h with
  | hello sender => exact handleHello_touches sender
  | reply _ reqId reply silent answers handles => exact handles.touches answers idle
  | done _ type silent handles =>
      rw [handles.man_eq kept]
      exact touches_refl quiet
  | callback _ type silent handles =>
      rw [handles.actionResponses.1]
      exact touches_refl quiet
  | other silent => exact touches_refl quiet

/-- Where the subscriptions are kept under their ids, a packet touches only what it
names. -/
theorem touches_of_kept (kept : man.SubscriptionsKept) (srcPhy : FarAddr) (log : LogicalPacket)
    (size : UInt16) :
    Touches L man srcPhy log size (man.handlePacket L srcPhy log size).man
      (man.handlePacket L srcPhy log size).effects := by
  have spec := handlePacket_spec L man srcPhy log size
  have idle : log.announces L srcPhy = none → ¬ man.Matches L log → _ := handlePacket_idle size
  rw [spec.man, spec.effects] at idle ⊢
  exact (bodyOf_handled L man srcPhy log size).touches kept idle

end PhyDeviceManager

namespace Sys

open PhyDeviceManager

variable {L : PacketLayout} {E : Enumeration Nat DeviceApiAction} {setup : Setup} {s : Sys}
  {es : List Event}

/-- After any run, a packet touches only what it names. -/
theorem handlePacket_touches (h : (machine L E).run (start setup) es = some s)
    (srcPhy : FarAddr) (log : LogicalPacket) (size : UInt16) :
    Touches L s.man srcPhy log size (s.man.handlePacket L srcPhy log size).man
      (s.man.handlePacket L srcPhy log size).effects :=
  touches_of_kept (run_subscriptionsKept h) srcPhy log size

/-- The reply to a fetch touches the record of the fetch. -/
theorem reply_touches :
    Touches .packed fetchedSys.man 7 replyTo0 9
      (fetchedSys.man.handlePacket .packed 7 replyTo0 9).man
      (fetchedSys.man.handlePacket .packed 7 replyTo0 9).effects := by
  have hrun : (machine .packed (.stored ..)).run (start quiet)
      [.fetchActionAsync anyEnv 2 10 (.id 3) []] = some fetchedSys := rfl
  exact handlePacket_touches hrun 7 replyTo0 9

end Sys

end KhawasuPc
