import KhawasuPc.Interface.MeshSocket

/-!
# One entry per connection

A server keeps its clients in a map whose keys come from `addressU64`, and storing a
client under a key replaces the client that was there.  So no connection is lost
exactly as long as keys are distinct.  With `winsocket.cpp` they are whenever the
endpoints of the peers are (`Host.clients_kept_apart_iff`).  With `unixsocket.cpp` the
port is not part of the key and two of its bytes are not stored: two connections
from one address collide as soon as these bytes are the same.
-/

namespace KhawasuPc

open Lib

namespace Host

variable {backend : Backend} {E : Enumeration UInt64 Client} {key : Endpoint → UInt64}
  {s t w : Host} {raw : UInt64}

/-- Every client is an accepted connection, under the key of its peer. -/
def Keyed (key : Endpoint → UInt64) (s : Host) : Prop :=
  ∀ addr handle, s.handleOf addr = some handle →
    ∃ peer, s.accepted[handle]? = some peer ∧ addr = key peer

/-- The clients are the accepted connections, each under the key of its peer. -/
structure OneEach (key : Endpoint → UInt64) (s : Host) : Prop where
  keyed : s.Keyed key
  entry : ∀ (i : Nat) peer, s.accepted[i]? = some peer → s.handleOf (key peer) = some i

/-- The peers accepted before have the clients they had. -/
def Undisturbed (key : Endpoint → UInt64) (s t : Host) : Prop :=
  ∀ peer ∈ s.accepted, t.clients.lookup (key peer) = s.clients.lookup (key peer)

theorem Keyed.congr (h : s.Keyed key) (hh : t.handleOf = s.handleOf)
    (ha : t.accepted = s.accepted) : t.Keyed key := by
  intro addr handle hl
  rw [ha]
  exact h addr handle (hh ▸ hl)

theorem OneEach.congr (h : s.OneEach key) (hh : t.handleOf = s.handleOf)
    (ha : t.accepted = s.accepted) : t.OneEach key where
  keyed := h.keyed.congr hh ha
  entry i peer hi := by
    rw [hh]
    exact h.entry i peer (ha ▸ hi)

/-- Two connections under one key leave only one client. -/
theorem OneEach.nodup (h : s.OneEach key) : (s.accepted.map key).Nodup := by
  rw [List.nodup_iff_injective_getElem]
  rintro ⟨i, hi⟩ ⟨j, hj⟩ hij
  simp only [List.getElem_map] at hij
  rw [List.length_map] at hi hj
  have hentry := h.entry i _ (List.getElem?_eq_getElem hi)
  rw [hij, h.entry j _ (List.getElem?_eq_getElem hj)] at hentry
  cases hentry
  rfl

/-! ## Accepting -/

/-- The key of a peer where `AddressU64` finds `raw` in its variable. -/
def keyOf (backend : Backend) (raw : UInt64) (peer : Endpoint) : UInt64 :=
  addressU64 backend raw peer.sockaddr

/-- Each connection is stored under its key, in the order in which they were accepted. -/
structure StoredUnder (keys : List UInt64) (s : Host) : Prop where
  length : keys.length = s.accepted.length
  stored : ∀ (i : Nat) key, keys[i]? = some key → s.handleOf key = some i

theorem StoredUnder.congr {keys : List UInt64} (h : StoredUnder keys s)
    (hh : t.handleOf = s.handleOf) (ha : t.accepted = s.accepted) : StoredUnder keys t where
  length := ha ▸ h.length
  stored i key hi := hh ▸ h.stored i key hi

theorem storedUnder_map_iff : StoredUnder (s.accepted.map key) s ↔
    ∀ (i : Nat) peer, s.accepted[i]? = some peer → s.handleOf (key peer) = some i := by
  constructor
  · intro h i peer hi
    exact h.stored i (key peer) (by rw [List.getElem?_map, hi]; rfl)
  · intro h
    refine ⟨List.length_map _, fun i k hi => ?_⟩
    rw [List.getElem?_map] at hi
    obtain ⟨peer, found, rfl⟩ := Option.map_eq_some_iff.mp hi
    exact h i peer found

/-- A connection with a key of its own takes no place. -/
theorem StoredUnder.accepts {keys : List UInt64} (h : StoredUnder keys s)
    (ha : Accepts backend raw s t)
    (distinct : (keys ++ (t.accepted.drop s.accepted.length).map (keyOf backend raw)).Nodup) :
    StoredUnder (keys ++ (t.accepted.drop s.accepted.length).map (keyOf backend raw)) t := by
  cases ha with
  | idle => simpa using h
  | client peer waiting accepted_eq clients_eq =>
      rw [accepted_eq, List.drop_left, List.map_singleton] at distinct ⊢
      have hhandle : ∀ key, t.handleOf key =
          if key = keyOf backend raw peer then some s.accepted.length else s.handleOf key :=
        handleOf_insert clients_eq
      constructor
      · simp [accepted_eq, h.length]
      · intro i key hi
        rw [hhandle]
        rw [List.getElem?_append] at hi
        split at hi
        · have ne : key ≠ keyOf backend raw peer :=
            (List.nodup_append.mp distinct).2.2 _ (List.mem_of_getElem? hi) _
              (List.mem_singleton_self _)
          rw [if_neg ne]
          exact h.stored i key hi
        · rw [List.getElem?_singleton] at hi
          split at hi <;> cases hi
          next before last =>
            have at_end : i = s.accepted.length := by
              have length := h.length
              omega
            rw [if_pos rfl, at_end]

section

variable (hkey : t.accepted ≠ s.accepted →
  ∀ peer : Endpoint, addressU64 backend raw peer.sockaddr = key peer)
include hkey

/-- What is stored for a connection: a new client, under the key of the peer. -/
theorem Accepts.clients_eq {peer : Endpoint} (accepted_eq : t.accepted = s.accepted ++ [peer])
    (clients_eq : t.clients = s.clients.insert (addressU64 backend raw peer.sockaddr)
      (newClient s.accepted.length)) :
    t.clients = s.clients.insert (key peer) (newClient s.accepted.length) := by
  rw [clients_eq, hkey (by simp [accepted_eq])]

theorem Keyed.accepts (h : s.Keyed key) (ha : Accepts backend raw s t) : t.Keyed key := by
  cases ha with
  | idle => exact h
  | client peer waiting accepted_eq clients_eq =>
      intro addr handle hl
      rw [handleOf_insert (Accepts.clients_eq hkey accepted_eq clients_eq)] at hl
      split at hl
      next hk =>
        cases hl
        exact ⟨peer, by simp [accepted_eq, newClient], hk⟩
      next hk =>
        obtain ⟨other, hother, haddr⟩ := h addr handle hl
        have hlt := (List.getElem?_eq_some_iff.mp hother).1
        exact ⟨other, by rw [accepted_eq, List.getElem?_append_left hlt, hother], haddr⟩

/-- A peer with a key of its own disturbs nobody. -/
theorem Accepts.undisturbed (ha : Accepts backend raw s t) (hn : (t.accepted.map key).Nodup) :
    Undisturbed key s t := by
  cases ha with
  | idle => exact fun _ _ => rfl
  | client peer waiting accepted_eq clients_eq =>
      intro other hother
      rw [Accepts.clients_eq hkey accepted_eq clients_eq]
      rw [accepted_eq, List.map_append, List.nodup_append] at hn
      have hne : key other ≠ key peer :=
        hn.2.2 _ (List.mem_map_of_mem hother) _ (List.mem_singleton_self _)
      rw [Finmap.lookup_insert_of_ne _ hne]

/-- The keys of the accepted peers, after accepting. -/
theorem Accepts.map_accepted (ha : Accepts backend raw s t) : t.accepted.map key =
    s.accepted.map key ++ (t.accepted.drop s.accepted.length).map (keyOf backend raw) := by
  cases ha with
  | idle => simp
  | client peer waiting accepted_eq clients_eq =>
      have key_eq : keyOf backend raw peer = key peer := hkey (by simp [accepted_eq]) peer
      rw [accepted_eq, List.drop_left, List.map_append, List.map_singleton, List.map_singleton,
        key_eq]

theorem OneEach.accepts (h : s.OneEach key) (ha : Accepts backend raw s t)
    (hn : (t.accepted.map key).Nodup) : t.OneEach key := by
  refine ⟨h.keyed.accepts hkey ha, storedUnder_map_iff.mp ?_⟩
  rw [ha.map_accepted hkey] at hn ⊢
  exact (storedUnder_map_iff.mpr h.entry).accepts ha hn

end

theorem Accepts.accepted (ha : Accepts backend raw s t) : s.accepted <+: t.accepted := by
  cases ha with
  | idle => exact List.prefix_refl _
  | client peer waiting accepted_eq => exact accepted_eq ▸ List.prefix_append ..

/-! ## Runs -/

/-- Where the event accepts a connection, `AddressU64` makes this key of its peer. -/
def MakesKey (backend : Backend) (key : Endpoint → UInt64) (s : Host) : Event → Prop
  | .checkPackets status raw => ∀ t, s.checkServer backend status raw = some t →
      t.accepted ≠ s.accepted → ∀ peer : Endpoint, addressU64 backend raw peer.sockaddr = key peer
  | _ => True

theorem Steps.accepted {e : Event} (hs : Steps backend E s e t) : s.accepted <+: t.accepted := by
  cases hs with
  | connect peer => exact List.prefix_refl _
  | peerSends handle packet => exact List.prefix_refl _
  | arrive handle count => exact List.prefix_refl _
  | returns status raw stop => exact List.prefix_refl _
  | polls status raw w go =>
      rw [pollClients_same.2.1]
      exact (checkServer_accepts go).accepted

theorem OneEach.steps {e : Event} (h : (s.accepted.map key).Nodup → s.OneEach key)
    (hkey : MakesKey backend key s e) (hs : Steps backend E s e t)
    (hn : (t.accepted.map key).Nodup) : t.OneEach key := by
  have hone := h (hn.sublist (hs.accepted.map key).sublist)
  cases hs with
  | connect peer => exact hone.congr rfl rfl
  | peerSends handle packet => exact hone.congr rfl rfl
  | arrive handle count => exact hone.congr rfl rfl
  | returns status raw stop => exact hone
  | polls status raw w go =>
      rw [pollClients_same.2.1] at hn
      exact (hone.accepts (hkey w go) (checkServer_accepts go) hn).congr pollClients_same.1
        pollClients_same.2.1

/-- Where all keys are made in one way, there is one client for each connection exactly
when no two accepted peers have the same key. -/
theorem run_oneEach_iff {es : List Event}
    (h : (machine backend E).run (start backend .server) es = some s)
    (hm : (machine backend E).Meets (MakesKey backend key) (start backend .server) es) :
    s.OneEach key ↔ (s.accepted.map key).Nodup := by
  refine ⟨OneEach.nodup, ?_⟩
  refine Machine.run_meets (M := machine backend E)
    (P := fun s => (s.accepted.map key).Nodup → s.OneEach key)
    (fun _ _ _ hc ht hstep hn => OneEach.steps ht hc (step_steps hstep) hn) h hm
    fun _ => ⟨?_, ?_⟩
  · intro _ _ hl
    cases hl
  · intro _ _ hi
    cases hi

/-! ## The two back ends -/

/-- Where the event accepts a connection with `unixsocket.cpp`, the bytes of the key that
are not stored are those of `raw`. -/
def LeavesBytes (backend : Backend) (raw : UInt64) (s : Host) : Event → Prop
  | .checkPackets status raw' => ∀ t, s.checkServer backend status raw' = some t →
      t.accepted ≠ s.accepted → backend = .unixsocket → unstored raw' = unstored raw
  | _ => True

theorem LeavesBytes.makesKey {e : Event} (h : LeavesBytes backend raw s e) :
    MakesKey backend (keyOf backend raw) s e := by
  cases e with
  | checkPackets status raw' =>
      intro t ht hne peer
      cases backend with
      | unixsocket => exact addressU64_unixsocket_iff.mpr ⟨rfl, h t ht hne rfl⟩
      | winsocket => exact addressU64_winsocket_iff.mpr rfl
  | _ => trivial

/-- Different endpoints have different keys, but with `unixsocket.cpp` only if their
addresses differ. -/
theorem nodup_keyOf_iff {peers : List Endpoint} (hn : peers.Nodup) :
    (peers.map (keyOf backend raw)).Nodup ↔
      (backend = .unixsocket → (peers.map (·.addr)).Nodup) := by
  cases backend with
  | unixsocket =>
      simp [List.Nodup, List.pairwise_map, keyOf, addressU64_unixsocket_iff]
  | winsocket =>
      refine ⟨fun _ h => (by cases h), fun _ => ?_⟩
      exact hn.map fun _ _ he => addressU64_winsocket_iff.mp he

/-- After a `check_packets` the clients are the accepted connections, each under a key
its endpoint fixes, and accepting the last of them disturbed no other: always with
`winsocket.cpp`, and with `unixsocket.cpp`, as long as the bytes it does not store are
always the same, exactly when all accepted peers have different addresses. -/
theorem clients_kept_apart_iff {es : List Event} {status : Int} {raw' : UInt64}
    (h : (machine backend E).run (start backend .server) (es ++ [.checkPackets status raw']) =
      some s)
    (distinct : s.accepted.Nodup)
    (same : (machine backend E).Meets (LeavesBytes backend raw) (start backend .server)
      (es ++ [.checkPackets status raw'])) :
    (s.OneEach (keyOf backend raw) ∧
      ∀ t, (machine backend E).run (start backend .server) es = some t →
        ∀ w, t.checkServer backend status raw' = some w →
          Undisturbed (keyOf backend raw) t w) ↔
      (backend = .unixsocket → (s.accepted.map (·.addr)).Nodup) := by
  have hkey := same.imp fun _ _ => LeavesBytes.makesKey
  rw [run_oneEach_iff h hkey, ← nodup_keyOf_iff distinct]
  refine ⟨And.left, fun hn => ⟨hn, fun t ht w hw => ?_⟩⟩
  obtain ⟨t', ht', hstep⟩ := Machine.run_snoc_some h
  cases ht.symm.trans ht'
  have hs : s = w.pollClients E := by
    have hcheck := Option.some.inj hstep
    rw [← hcheck, checkPackets, hw]
  rw [hs, pollClients_same.2.1] at hn
  exact (checkServer_accepts hw).undisturbed (hkey.last ht w hw) hn

/-! ## Two peers at one address -/

/-- A server that accepted a connection and went over its clients. -/
def onePeer (backend : Backend) : Host :=
  let s := { start backend .server with backlog := [⟨1, 1⟩] }
  (s.acceptClient backend 1 0).pollClient (keyOf backend 0 ⟨1, 1⟩, newClient 0)

/-- The server when it accepted a second connection from the same address. -/
def twoPeers (backend : Backend) : Host :=
  { onePeer backend with backlog := [⟨1, 2⟩] }.acceptClient backend 1 0

theorem step_onePeer (backend : Backend) :
    (machine backend (.stored ..)).step { start backend .server with backlog := [⟨1, 1⟩] }
      (.checkPackets 1 0) = some (onePeer backend) :=
  congrArg some (pollClients_single rfl)

theorem run_twoPeers (backend : Backend) :
    (machine backend (.stored ..)).run (start backend .server)
      ([.connect ⟨1, 1⟩, .checkPackets 1 0, .connect ⟨1, 2⟩] ++ [.checkPackets 1 0]) =
        some ((twoPeers backend).pollClients (.stored ..)) := by
  have hfirst : (machine backend (.stored ..)).run (start backend .server)
      [.connect ⟨1, 1⟩, .checkPackets 1 0] = some (onePeer backend) := step_onePeer backend
  have hsecond : (machine backend (.stored ..)).run (onePeer backend)
      [.connect ⟨1, 2⟩, .checkPackets 1 0] = some ((twoPeers backend).pollClients (.stored ..)) :=
    rfl
  have hrun := Machine.run_trans hfirst hsecond
  exact hrun

/-- Both peers have one key, and the client under it is the second. -/
theorem twoPeers_handleOf (addr : UInt64) :
    (twoPeers .unixsocket).handleOf addr =
      if addr = keyOf .unixsocket 0 ⟨1, 1⟩ then some 1 else none := by
  have hsame : keyOf .unixsocket 0 ⟨1, 2⟩ = keyOf .unixsocket 0 ⟨1, 1⟩ :=
    addressU64_unixsocket_iff.mpr ⟨rfl, rfl⟩
  have hclients : (twoPeers .unixsocket).clients =
      (onePeer .unixsocket).clients.insert (keyOf .unixsocket 0 ⟨1, 2⟩) (newClient 1) := rfl
  rw [handleOf_insert hclients, hsame]
  split
  · rfl
  next hne =>
    have hone : (onePeer .unixsocket).clients =
        ((∅ : UMap UInt64 Client).insert (keyOf .unixsocket 0 ⟨1, 1⟩) (newClient 0)).insert
          (keyOf .unixsocket 0 ⟨1, 1⟩) (newClient 0) := rfl
    unfold handleOf
    rw [hone, Finmap.lookup_insert_of_ne _ hne, Finmap.lookup_insert_of_ne _ hne]
    rfl

/-- With `unixsocket.cpp` the second connection takes the place of the first: under
whatever keys, the clients are not the two connections. -/
theorem same_address_lost :
    ∃ s, (machine .unixsocket (.stored ..)).run (start .unixsocket .server)
        ([.connect ⟨1, 1⟩, .checkPackets 1 0, .connect ⟨1, 2⟩] ++ [.checkPackets 1 0]) = some s ∧
      s.accepted = [⟨1, 1⟩, ⟨1, 2⟩] ∧ ∀ key, ¬ s.OneEach key := by
  refine ⟨_, run_twoPeers .unixsocket, pollClients_same.2.1, fun key hone => ?_⟩
  have hfirst := hone.entry 0 ⟨1, 1⟩ (by rw [pollClients_same.2.1]; rfl)
  rw [pollClients_same.1, twoPeers_handleOf] at hfirst
  split at hfirst <;> cases hfirst

/-- `winsocket.cpp` stores every byte. -/
theorem leavesBytes_winsocket (s : Host) (e : Event) : LeavesBytes .winsocket raw s e := by
  cases e with
  | checkPackets status raw' => exact fun _ _ _ h => by cases h
  | _ => trivial

/-- With `winsocket.cpp` both connections have their clients. -/
theorem same_address_kept :
    ((twoPeers .winsocket).pollClients (.stored ..)).OneEach (keyOf .winsocket 0) ∧
      ∀ t, (machine .winsocket (.stored ..)).run (start .winsocket .server)
          [.connect ⟨1, 1⟩, .checkPackets 1 0, .connect ⟨1, 2⟩] = some t →
        ∀ w, t.checkServer .winsocket 1 0 = some w → Undisturbed (keyOf .winsocket 0) t w := by
  have distinct : ((twoPeers .winsocket).pollClients (.stored ..)).accepted.Nodup := by
    rw [pollClients_same.2.1]
    decide
  exact (clients_kept_apart_iff (run_twoPeers .winsocket) distinct
    (Machine.meets_of_forall (fun e _ s => leavesBytes_winsocket s e) _)).mpr nofun

end Host

end KhawasuPc
