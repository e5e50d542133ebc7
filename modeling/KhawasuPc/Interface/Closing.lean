import KhawasuPc.Interface.Clients

/-!
# Closing

The destructor closes the socket of every client and then the socket of `self_sock`.  A server
obtained its own socket and one for each client, and closes each of them once as long as no
client took the place of another (`Host.closesOnce_of_storedUnder`).  A client has one socket,
which is both that of `self_sock` and that of its only entry, and closes it twice.
-/

namespace KhawasuPc

open Lib

/-- A socket of the system. -/
inductive OsSocket where
  | listening
  | connection (handle : Nat)
deriving DecidableEq, Repr

/-- The socket of `self_sock`. -/
def MeshSocketInterface.selfSock (self : MeshSocketInterface) : OsSocket :=
  if self.isServer then .listening else .connection 0

/-- `MeshSocketInterface::~MeshSocketInterface`: the sockets it closes, in order. -/
def MeshSocketInterface.closes (self : MeshSocketInterface) (E : Enumeration UInt64 Client) :
    List OsSocket :=
  (E.entries self.clients).map (fun entry => .connection entry.2.handle) ++ [self.selfSock]

namespace Host

/-- The sockets the interface got from the system. -/
def obtained (s : Host) : List OsSocket :=
  (if s.isServer then [.listening] else []) ++ (List.range s.accepted.length).map .connection

/-- The destructor closes every socket the interface obtained exactly once, and no other. -/
structure ClosesOnce (E : Enumeration UInt64 Client) (s : Host) : Prop where
  once : ∀ sock ∈ s.obtained, (s.closes E).count sock = 1
  others : ∀ sock ∈ s.closes E, sock ∈ s.obtained

/-- The key a connection is stored under, where the event accepts one. -/
def acceptedKey (backend : Backend) (s : Host) : Event → List UInt64
  | .checkPackets status raw =>
      match s.checkServer backend status raw with
      | none => []
      | some t => (t.accepted.drop s.accepted.length).map (keyOf backend raw)
  | _ => []

variable {backend : Backend} {E : Enumeration UInt64 Client} {s t : Host} {raw : UInt64}

/-! ## What is closed -/

theorem mem_obtained {sock : OsSocket} : sock ∈ s.obtained ↔
    (sock = .listening ∧ s.isServer = true) ∨
      ∃ handle < s.accepted.length, .connection handle = sock := by
  unfold obtained
  cases s.isServer <;> simp

theorem handleOf_of_mem {addr : UInt64} {client : Client}
    (h : (addr, client) ∈ E.entries s.clients) : s.handleOf addr = some client.handle :=
  handleOf_of_lookup ((E.mem_iff ..).mp h)

/-- The sockets of the entries are those of the handles. -/
theorem mem_entrySockets {sock : OsSocket} :
    sock ∈ (E.entries s.clients).map (fun entry => OsSocket.connection entry.2.handle) ↔
      ∃ addr handle, s.handleOf addr = some handle ∧ .connection handle = sock := by
  rw [List.mem_map]
  constructor
  · rintro ⟨⟨addr, client⟩, listed, rfl⟩
    exact ⟨addr, client.handle, handleOf_of_mem listed, rfl⟩
  · rintro ⟨addr, handle, found, rfl⟩
    obtain ⟨client, stored, rfl⟩ := Option.map_eq_some_iff.mp found
    exact ⟨(addr, client), (E.mem_iff ..).mpr stored, rfl⟩

theorem mem_closes {sock : OsSocket} : sock ∈ s.closes E ↔
    (∃ addr handle, s.handleOf addr = some handle ∧ .connection handle = sock) ∨
      sock = s.selfSock := by
  rw [MeshSocketInterface.closes, List.mem_append, List.mem_singleton, mem_entrySockets]

/-- Clients with handles of their own have sockets of their own. -/
theorem HandlesApart.nodup (h : s.HandlesApart) : ((E.entries s.clients).map
    (fun entry => OsSocket.connection entry.2.handle)).Nodup := by
  refine List.Nodup.map_on ?_ (List.Nodup.of_map _ (E.nodup s.clients))
  rintro ⟨addr, client⟩ listed ⟨addr', client'⟩ listed' same
  have found := handleOf_of_mem listed
  rw [OsSocket.connection.inj same] at found
  cases h.apart addr addr' _ found (handleOf_of_mem listed')
  cases ((E.mem_iff ..).mp listed).symm.trans ((E.mem_iff ..).mp listed')
  rfl

/-! ## The mode -/

theorem pollClients_isServer : (s.pollClients E).isServer = s.isServer :=
  pollClients_induction (P := fun _ t => t.isServer = s.isServer) rfl fun _ _ _ ht _ _ => ht

theorem checkServer_isServer {status : Int} (h : s.checkServer backend status raw = some t) :
    t.isServer = s.isServer := by
  unfold checkServer at h
  split at h
  · split at h
    · cases h
    · cases h
      unfold acceptClient
      split
      · split <;> rfl
      · rfl
  · cases h
    rfl

/-- The mode of an interface does not change. -/
theorem Steps.isServer {e : Event} (hs : Steps backend E s e t) : t.isServer = s.isServer := by
  cases hs with
  | connect peer => rfl
  | peerSends handle packet => rfl
  | arrive handle count => rfl
  | returns status raw stop => rfl
  | polls status raw w go => exact pollClients_isServer.trans (checkServer_isServer go)

theorem run_isServer {es : List Event} (h : (machine backend E).run s es = some t) :
    t.isServer = s.isServer :=
  Machine.run_invariant (P := fun t => t.isServer = s.isServer)
    (fun _ _ _ ht hstep => (step_steps hstep).isServer.trans ht) h rfl

/-! ## Servers -/

theorem StoredUnder.steps {keys : List UInt64} {e : Event} (h : StoredUnder keys s)
    (hs : Steps backend E s e t) (distinct : (keys ++ acceptedKey backend s e).Nodup) :
    StoredUnder (keys ++ acceptedKey backend s e) t := by
  cases hs with
  | connect peer => exact (List.append_nil keys).symm ▸ h.congr rfl rfl
  | peerSends handle packet => exact (List.append_nil keys).symm ▸ h.congr rfl rfl
  | arrive handle count => exact (List.append_nil keys).symm ▸ h.congr rfl rfl
  | returns status raw stop =>
      rw [acceptedKey, stop, List.append_nil]
      exact h
  | polls status raw w go =>
      rw [acceptedKey, go] at distinct ⊢
      exact (h.accepts (checkServer_accepts go) distinct).congr pollClients_same.1
        pollClients_same.2.1

/-- As long as keys are distinct every connection keeps its place. -/
theorem run_storedUnder {es : List Event}
    (h : (machine backend E).run (start backend .server) es = some s)
    (distinct : ((machine backend E).outputs (acceptedKey backend)
      (start backend .server) es).Nodup) :
    StoredUnder ((machine backend E).outputs (acceptedKey backend) (start backend .server) es) s :=
  Machine.run_outputs (M := machine backend E) (C := fun _ _ => True)
    (P := fun keys s => keys.Nodup → StoredUnder keys s)
    (fun _ _ _ _ _ stored hstep distinct =>
      (stored (List.nodup_append.mp distinct).1).steps (step_steps hstep) distinct)
    h (Machine.meets_of_forall (fun _ _ _ => trivial) _)
    (fun _ => ⟨rfl, fun _ _ hi => by cases hi⟩) distinct

/-- A server whose connections all kept their places closes each socket once. -/
theorem closesOnce_of_storedUnder {keys : List UInt64} (server : s.isServer = true)
    (stored : StoredUnder keys s) (apart : s.HandlesApart) : s.ClosesOnce E := by
  have self_sock : s.selfSock = .listening := by
    rw [MeshSocketInterface.selfSock, server, if_pos rfl]
  have nodup : (s.closes E).Nodup := by
    rw [MeshSocketInterface.closes, self_sock, List.nodup_append]
    refine ⟨apart.nodup, List.nodup_singleton _, ?_⟩
    intro sock listed _ last same
    obtain ⟨entry, -, rfl⟩ := List.mem_map.mp listed
    cases List.mem_singleton.mp last
    cases same
  constructor
  · intro sock got
    refine List.count_eq_one_of_mem nodup (mem_closes.mpr ?_)
    rcases mem_obtained.mp got with ⟨rfl, -⟩ | ⟨handle, accepted, rfl⟩
    · exact Or.inr self_sock.symm
    · rw [← stored.length] at accepted
      have found := stored.stored handle _ (List.getElem?_eq_getElem accepted)
      exact Or.inl ⟨_, handle, found, rfl⟩
  · intro sock closed
    rcases mem_closes.mp closed with ⟨addr, handle, found, rfl⟩ | rfl
    · exact mem_obtained.mpr (Or.inr ⟨handle, apart.accepted addr handle found, rfl⟩)
    · exact mem_obtained.mpr (Or.inl ⟨self_sock, server⟩)

/-! ## Clients -/

/-- An interface in client mode, with an entry for its own connection. -/
structure HoldsItself (s : Host) : Prop where
  client : s.isServer = false
  entry : ∃ addr, s.handleOf addr = some 0

/-- Its socket is closed for the entry and for `self_sock`. -/
theorem HoldsItself.closes_twice (h : s.HoldsItself) :
    2 ≤ (s.closes E).count (.connection 0) := by
  have self_sock : s.selfSock = .connection 0 := by
    rw [MeshSocketInterface.selfSock, h.client]
    rfl
  obtain ⟨addr, found⟩ := h.entry
  have counted := List.count_pos_iff.mpr (mem_entrySockets (E := E).mpr ⟨addr, 0, found, rfl⟩)
  rw [MeshSocketInterface.closes, self_sock, List.count_append, List.count_singleton_self]
  exact Nat.succ_le_succ counted

theorem HoldsItself.congr (h : s.HoldsItself) (hi : t.isServer = s.isServer)
    (hh : t.handleOf = s.handleOf) : t.HoldsItself where
  client := hi.trans h.client
  entry := hh ▸ h.entry

/-- A client accepts nothing. -/
theorem HoldsItself.steps {e : Event} (h : s.HoldsItself) (hs : Steps backend E s e t) :
    t.HoldsItself := by
  cases hs with
  | connect peer => exact h.congr rfl rfl
  | peerSends handle packet => exact h.congr rfl rfl
  | arrive handle count => exact h.congr rfl rfl
  | returns status raw stop => exact h
  | polls status raw w go =>
      rw [checkServer, h.client, if_neg Bool.false_ne_true] at go
      cases go
      exact h.congr pollClients_isServer pollClients_same.1

theorem run_holdsItself {server : Endpoint} {es : List Event}
    (h : (machine backend E).run (start backend (.client server raw)) es = some s) :
    s.HoldsItself := by
  refine Machine.run_invariant (fun _ _ _ ht hstep => ht.steps (step_steps hstep)) h ⟨rfl, ?_⟩
  refine ⟨addressU64 backend raw server.sockaddr, ?_⟩
  rw [handleOf_insert (s := start backend .server) rfl, if_pos rfl]
  rfl

/-! ## Runs -/

/-- Whenever the connections are stored under distinct keys, the destructor closes every socket
exactly once in server mode and not in client mode. -/
theorem run_closesOnce_iff {role : Role} {es : List Event}
    (h : (machine backend E).run (start backend role) es = some s)
    (distinct : ((machine backend E).outputs (acceptedKey backend) (start backend role) es).Nodup) :
    s.ClosesOnce E ↔ role = .server := by
  have apart : s.HandlesApart := Machine.run_invariant
    (fun _ _ _ ht hstep => ht.steps (step_steps hstep)) h (start_handlesApart role)
  cases role with
  | server =>
      have server := run_isServer h
      exact iff_of_true (closesOnce_of_storedUnder server (run_storedUnder h distinct) apart) rfl
  | client server raw =>
      refine iff_of_false (fun once => ?_) (by rintro ⟨⟩)
      have itself := run_holdsItself h
      obtain ⟨addr, found⟩ := itself.entry
      have counted := once.once (.connection 0)
        (mem_obtained.mpr (Or.inr ⟨0, apart.accepted addr 0 found, rfl⟩))
      have twice := itself.closes_twice (E := E)
      omega

/-- The keys of two peers at one address. -/
theorem twoPeers_keys :
    (machine .winsocket (.stored ..)).outputs (acceptedKey .winsocket) (start .winsocket .server)
      ([.connect ⟨1, 1⟩, .checkPackets 1 0, .connect ⟨1, 2⟩] ++ [.checkPackets 1 0]) =
        [keyOf .winsocket 0 ⟨1, 1⟩, keyOf .winsocket 0 ⟨1, 2⟩] := by
  have first : (machine .winsocket (.stored ..)).step (start .winsocket .server)
      (.connect ⟨1, 1⟩) = some { start .winsocket .server with backlog := [⟨1, 1⟩] } := rfl
  have second : (machine .winsocket (.stored ..)).step (onePeer .winsocket)
      (.connect ⟨1, 2⟩) = some { onePeer .winsocket with backlog := [⟨1, 2⟩] } := rfl
  rw [List.cons_append, Machine.outputs_cons first, List.cons_append,
    Machine.outputs_cons (step_onePeer .winsocket), List.cons_append, Machine.outputs_cons second]
  rfl

/-- With `winsocket.cpp` a server closes the sockets of two peers at one address. -/
theorem twoPeers_closesOnce :
    ((twoPeers .winsocket).pollClients (.stored ..)).ClosesOnce (.stored ..) :=
  (run_closesOnce_iff (run_twoPeers .winsocket) (by rw [twoPeers_keys]; decide)).mpr rfl

/-- The destructor of a client closes its socket twice. -/
theorem client_closesTwice :
    ∃ s, (machine .winsocket (.stored ..)).run (start .winsocket (.client ⟨1, 1⟩ 0)) [] = some s ∧
      ((machine .winsocket (.stored ..)).outputs (acceptedKey .winsocket)
        (start .winsocket (.client ⟨1, 1⟩ 0)) []).Nodup ∧
      ¬ s.ClosesOnce (.stored ..) := by
  refine ⟨_, rfl, List.nodup_nil, fun once => ?_⟩
  have itself : (start .winsocket (.client ⟨1, 1⟩ 0)).HoldsItself :=
    run_holdsItself (Machine.run_nil (machine .winsocket (.stored ..)) _)
  have counted := once.once (.connection 0) (mem_obtained.mpr (Or.inr ⟨0, Nat.zero_lt_one, rfl⟩))
  have twice := itself.closes_twice (E := .stored ..)
  omega

end Host

end KhawasuPc
