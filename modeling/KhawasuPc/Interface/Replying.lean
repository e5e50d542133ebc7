import KhawasuPc.Interface.Closing
import KhawasuPc.Interface.Delivery

/-!
# Return addresses

`check_packets` passes every packet on with the address its client is filed under, and an answer
is sent to that address.  A connection that is accepted under an address that is in use takes it
over.  So an answer goes to the connection that was accepted last under the address
(`Network.run_replies`): to the sender exactly where no later connection has its address.
-/

namespace KhawasuPc

open Lib

/-! ## Last places -/

/-- The last place of a key in a list. -/
def LastAt {κ : Type*} (keys : List κ) (key : κ) (i : Nat) : Prop :=
  keys[i]? = some key ∧ ∀ j, i < j → keys[j]? ≠ some key

namespace LastAt

variable {κ : Type*} {keys : List κ} {key other : κ} {i j : Nat}

theorem unique (hi : LastAt keys key i) (hj : LastAt keys key j) : i = j := by
  rcases Nat.lt_trichotomy i j with lt | eq | gt
  · exact absurd hj.1 (hi.2 j lt)
  · exact eq
  · exact absurd hi.1 (hj.2 i gt)

/-- A key that is there has a last place. -/
theorem of_getElem? (h : keys[i]? = some key) : ∃ last, i ≤ last ∧ LastAt keys key last := by
  induction keys using List.reverseRecOn with
  | nil => simp at h
  | append_singleton keys k ih =>
      by_cases hk : k = key
      · refine ⟨keys.length, ?_, by simp [hk], fun j hj => ?_⟩
        · have := (List.getElem?_eq_some_iff.mp h).1
          rw [List.length_append, List.length_singleton] at this
          omega
        · rw [List.getElem?_eq_none (by simpa using Nat.succ_le_of_lt hj)]
          nofun
      · have before : keys[i]? = some key := by
          rw [List.getElem?_append] at h
          split at h
          next => exact h
          next =>
            rw [List.getElem?_singleton] at h
            split at h <;> cases h
            exact absurd rfl hk
        obtain ⟨last, hle, here, after⟩ := ih before
        have hlast := (List.getElem?_eq_some_iff.mp here).1
        refine ⟨last, hle, by rw [List.getElem?_append_left hlast, here], fun j hj => ?_⟩
        rw [List.getElem?_append]
        split
        · exact after j hj
        · rw [List.getElem?_singleton]
          split
          · exact fun heq => hk (Option.some.inj heq)
          · nofun

/-- One more key: its own last place is new, and the others stay. -/
theorem snoc_iff [DecidableEq κ] : LastAt (keys ++ [other]) key i ↔
    if other = key then i = keys.length else LastAt keys key i := by
  have new : LastAt (keys ++ [other]) other keys.length := by
    refine ⟨by simp, fun j hj => ?_⟩
    rw [List.getElem?_eq_none (by simpa using Nat.succ_le_of_lt hj)]
    nofun
  split
  next same =>
    subst same
    exact ⟨fun h => h.unique new, fun h => h ▸ new⟩
  next hne =>
    have same : ∀ j : Nat, (keys ++ [other])[j]? = some key ↔ keys[j]? = some key := by
      intro j
      rw [List.getElem?_append]
      split
      · exact Iff.rfl
      next hj =>
        rw [List.getElem?_singleton, List.getElem?_eq_none (Nat.le_of_not_lt hj)]
        split
        · exact iff_of_false (fun h => hne (Option.some.inj h)) nofun
        · exact Iff.rfl
    simp only [LastAt, Ne, same]

end LastAt

/-! ## Hosts -/

namespace Host

variable {s t : Host} {keys : List UInt64} {backend : Backend} {raw : UInt64}
  {E : Enumeration UInt64 Client}

/-- The connections were accepted under these keys.  Each address is that of the last of them,
and every packet was passed on under the key of its connection. -/
structure FiledUnder (keys : List UInt64) (s : Host) : Prop where
  length : keys.length = s.accepted.length
  last : ∀ addr handle, s.handleOf addr = some handle ↔ LastAt keys addr handle
  delivered : ∀ d ∈ s.delivered, keys[d.handle]? = some d.addr

theorem FiledUnder.congr (h : FiledUnder keys s) (hh : t.handleOf = s.handleOf)
    (ha : t.accepted = s.accepted) (hd : t.delivered = s.delivered) : FiledUnder keys t where
  length := ha ▸ h.length
  last := hh ▸ h.last
  delivered := hd ▸ h.delivered

theorem FiledUnder.accepts (h : FiledUnder keys s) (ha : Accepts backend raw s t) :
    FiledUnder (keys ++ (t.accepted.drop s.accepted.length).map (keyOf backend raw)) t := by
  cases ha with
  | idle => simpa using h
  | client peer waiting accepted_eq clients_eq stream_eq delivered_eq =>
      rw [accepted_eq, List.drop_left, List.map_singleton]
      have hhandle : ∀ addr, t.handleOf addr =
          if addr = keyOf backend raw peer then some s.accepted.length else s.handleOf addr :=
        handleOf_insert clients_eq
      refine ⟨by simp [accepted_eq, h.length], fun addr handle => ?_, fun d hd => ?_⟩
      · rw [hhandle, LastAt.snoc_iff, h.length]
        by_cases hk : addr = keyOf backend raw peer
        · rw [if_pos hk, if_pos hk.symm, Option.some.injEq]
          exact eq_comm
        · rw [if_neg hk, if_neg (Ne.symm hk)]
          exact h.last addr handle
      · have here := h.delivered d (delivered_eq ▸ hd)
        rw [List.getElem?_append_left (List.getElem?_eq_some_iff.mp here).1, here]

/-- A packet is passed on under the key of its client. -/
theorem FiledUnder.pollClient {e : UInt64 × Client} (h : FiledUnder keys s)
    (found : s.clients.lookup e.1 = some e.2) : FiledUnder keys (s.pollClient e) where
  length := h.length
  last := pollClient_handleOf found ▸ h.last
  delivered d hd := by
    rcases List.mem_append.mp hd with hd | hd
    · exact h.delivered d hd
    · obtain ⟨p, -, rfl⟩ := List.mem_map.mp hd
      exact ((h.last e.1 e.2.handle).mp (handleOf_of_lookup found)).1

theorem FiledUnder.pollClients (h : FiledUnder keys s) : FiledUnder keys (s.pollClients E) :=
  pollClients_induction (P := fun _ t => FiledUnder keys t) h
    fun _ _ _ ht found _ => ht.pollClient found

/-- The key under which the event accepts a connection is one more. -/
theorem FiledUnder.checkPackets (h : FiledUnder keys s) (status : Int) :
    FiledUnder (keys ++ s.acceptedKey backend (.checkPackets status raw))
      (s.checkPackets backend E status raw) := by
  unfold Host.checkPackets
  cases go : s.checkServer backend status raw with
  | none =>
      have none_filed : s.acceptedKey backend (.checkPackets status raw) = [] := by
        simp only [acceptedKey, go]
      rw [none_filed, List.append_nil]
      exact h
  | some t =>
      have filed : s.acceptedKey backend (.checkPackets status raw) =
          (t.accepted.drop s.accepted.length).map (keyOf backend raw) := by
        simp only [acceptedKey, go]
      rw [filed]
      exact (h.accepts (checkServer_accepts go)).pollClients

end Host

/-! ## Networks -/

namespace Network

variable {s t : Network} {backend : Backend} {dial : Nat → Dial} {E : Enumeration UInt64 Client}
  {e : Event} {es : List Event} {keys : List UInt64}

/-- The key under which the event files a connection at the server. -/
def files (backend : Backend) (s : Network) : Event → List UInt64
  | .checkPackets .server status raw =>
      s.server.toHost.acceptedKey backend (.checkPackets status raw)
  | _ => []

/-- The keys along a run, in the order of the connections. -/
def keysFiled (backend : Backend) (dial : Nat → Dial) (E : Enumeration UInt64 Client)
    (es : List Event) : List UInt64 :=
  (machine backend dial E).outputs (files backend) (start backend dial) es

theorem step_filed (h : s.server.toHost.FiledUnder keys)
    (hstep : s.step backend dial E e = some t) :
    t.server.toHost.FiledUnder (keys ++ s.files backend e) := by
  have others : t.server.handleOf = s.server.handleOf → t.server.accepted = s.server.accepted →
      t.server.delivered = s.server.delivered → s.files backend e = [] →
        t.server.toHost.FiledUnder (keys ++ s.files backend e) := by
    intro same accepted delivered none_filed
    rw [none_filed, List.append_nil]
    exact h.congr same accepted delivered
  cases e with
  | connect =>
      obtain ⟨host, hconnect, rfl⟩ := Option.map_eq_some_iff.mp hstep
      simp only [RawHost.step, Option.ite_none_right_eq_some] at hconnect
      cases hconnect.2
      exact others rfl rfl rfl rfl
  | send node addr attempt =>
      simp only [step, Option.ite_none_right_eq_some] at hstep
      cases hstep.2
      have same : (s.send node addr attempt).server = s.server :=
        congrFun (send_node ..) Node.server
      rw [← same] at others
      exact others rfl rfl rfl rfl
  | arrive way count =>
      simp only [step, Option.ite_none_right_eq_some] at hstep
      obtain ⟨host, harrive, rfl⟩ := Option.map_eq_some_iff.mp hstep.2
      cases way with
      | up connection =>
          simp only [RawHost.step, Option.ite_none_right_eq_some] at harrive
          cases harrive.2
          exact others rfl rfl rfl rfl
      | down connection => exact others rfl rfl rfl rfl
  | checkPackets node status raw =>
      simp only [step, Option.ite_none_right_eq_some] at hstep
      obtain ⟨host, hcheck, rfl⟩ := Option.map_eq_some_iff.mp hstep.2
      cases node with
      | server =>
          cases hcheck
          have polled : (s.server.checkPackets backend E status raw).toHost =
              s.server.toHost.checkPackets backend E status raw := RawHost.toHost_checkPackets ..
          show Host.FiledUnder _ (s.server.checkPackets backend E status raw).toHost
          rw [polled]
          exact h.checkPackets status
      | client connection => exact others rfl rfl rfl rfl

/-- In every run, the server files its connections under the keys of the run. -/
theorem run_filed (h : (machine backend dial E).run (start backend dial) es = some s) :
    s.server.toHost.FiledUnder (keysFiled backend dial E es) := by
  refine Machine.run_outputs (M := machine backend dial E) (C := fun _ _ => True)
    (P := fun keys s => s.server.toHost.FiledUnder keys)
    (fun keys _ _ _ _ hs hstep => step_filed hs hstep) h
    (Machine.meets_of_forall (fun _ _ _ => trivial) _) ?_
  refine ⟨rfl, fun addr handle => ?_, fun d hd => absurd hd List.not_mem_nil⟩
  refine iff_of_false (fun found => ?_) fun last => ?_
  · cases found
  · cases last.1

/-- In every run: an answer to the address a packet was passed on with goes to the connection
accepted last under that address.  That is the connection the packet came by exactly if no later
one has the address. -/
theorem run_replies (h : (machine backend dial E).run (start backend dial) es = some s)
    {d : Delivery} (delivered : d ∈ s.server.delivered) (attempt : Attempt) :
    ∃ handle, LastAt (keysFiled backend dial E es) d.addr handle ∧
      s.send .server d.addr attempt = s.write attempt (.down handle) ∧
      (handle = d.handle ↔
        ∀ j, d.handle < j → (keysFiled backend dial E es)[j]? ≠ some d.addr) := by
  have filed := run_filed h
  have here := filed.delivered d delivered
  obtain ⟨handle, -, last⟩ := LastAt.of_getElem? here
  have found : s.server.handleOf d.addr = some handle := (filed.last d.addr handle).mpr last
  refine ⟨handle, last, ?_, ?_, fun none_later => last.unique ⟨here, none_later⟩⟩
  · have goes : s.wayTo .server d.addr = some (.down handle) := by
      show (s.server.handleOf d.addr).map _ = _
      rw [found]
      rfl
    rw [send, goes]
  · rintro rfl
    exact last.2

/-! ### An answer to one packet -/

theorem oneAccepted_delivered :
    ⟨peerAddr, 0, [7], 1⟩ ∈ (oneAccepted E).server.delivered := by
  have polled : (oneAccepted E).server.toHost =
      (oneArrived.server.acceptClient .unixsocket 1 0).pollClient
        (peerAddr, Host.newClient 0) := by
    have single : (oneArrived.server.acceptClient .unixsocket 1 0).pollClients E =
        (oneArrived.server.acceptClient .unixsocket 1 0).pollClient
          (peerAddr, Host.newClient 0) := Host.pollClients_single rfl
    rw [← single]
    exact RawHost.toHost_checkPackets ..
  rw [polled]
  exact List.mem_singleton_self _

theorem oneAccepted_replies : ∃ handle,
    LastAt (keysFiled .unixsocket oneDial (.stored ..) oneSent) peerAddr handle ∧
      (oneAccepted (.stored ..)).send .server peerAddr oneWhole =
        (oneAccepted (.stored ..)).write oneWhole (.down handle) ∧
      (handle = 0 ↔ ∀ j, 0 < j →
        (keysFiled .unixsocket oneDial (.stored ..) oneSent)[j]? ≠ some peerAddr) :=
  run_replies run_oneSent oneAccepted_delivered oneWhole

end Network

end KhawasuPc
