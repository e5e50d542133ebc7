import KhawasuPc.Interface.Replying
import KhawasuPc.Lib.Stores

/-!
# Greetings

`send_hello` lays out one packet on the stack and passes it to `send_packet` for one address,
or, in a loop over the clients, for all of them.  In a network of interfaces a greeting to all
is written once to each connection that a client is filed for, and to no other
(`Network.run_sendHello`).  Of the packet, only its type and the name of the network are stored.
-/

namespace KhawasuPc

open Lib

/-! ## The packet -/

/-- Where the members of `near_hello_secure` lie. -/
structure NearHelloLayout where
  type : Nat
  networkName : Nat
  /-- `MESH_CALC_SIZE(near_hello_secure)`. -/
  size : Nat
  /-- What `net_store` stores for `NEAR_HELLO`. -/
  nearHello : List UInt8
  type_before : type + nearHello.length ≤ networkName
  name_inside : networkName ≤ size
  fits : size < 256 ^ 4

/-- The packet `send_hello` makes of memory it did not clear.  There is none where the name
goes past the memory it asked for. -/
def nearHello (N : NearHelloLayout) (stack : Memory) (name : List UInt8) : Option (Message 4) :=
  if N.networkName + name.length ≤ N.size then
    some
      { bytes := (stack.stores [⟨N.type, N.nearHello⟩, ⟨N.networkName, name⟩]).slice 0 N.size
        fits := by rw [Memory.length_slice]; exact N.fits }
  else none

/-- A packet has its type and the name of the network, and the stack shows through in all
its other bytes. -/
structure Greets (N : NearHelloLayout) (stack : Memory) (name : List UInt8)
    (packet : Message 4) : Prop where
  length : packet.bytes.length = N.size
  typed : (packet.bytes.drop N.type).take N.nearHello.length = N.nearHello
  named : (packet.bytes.drop N.networkName).take name.length = name
  others : ∀ i, i < N.size → (i < N.type ∨ N.type + N.nearHello.length ≤ i) →
    (i < N.networkName ∨ N.networkName + name.length ≤ i) → packet.bytes[i]? = some (stack i)

/-- Bytes cut out of a slice are a slice. -/
theorem take_drop_slice (mem : Memory) {len off n : Nat} (h : off + n ≤ len) :
    ((mem.slice 0 len).drop off).take n = mem.slice off n := by
  obtain ⟨more, rfl⟩ := Nat.exists_eq_add_of_le h
  rw [Memory.slice_add, Memory.slice_add, List.append_assoc, Nat.zero_add,
    List.drop_left' (Memory.length_slice ..), List.take_left' (Memory.length_slice ..)]

theorem nearHello_greets {N : NearHelloLayout} {stack : Memory} {name : List UInt8}
    {packet : Message 4} (h : nearHello N stack name = some packet) :
    Greets N stack name packet := by
  obtain ⟨room, heq⟩ := Option.ite_none_right_eq_some.mp h
  cases heq
  have before := N.type_before
  have separate : Separate [⟨N.type, N.nearHello⟩, ⟨N.networkName, name⟩] :=
    List.pairwise_pair.mpr (Or.inl N.type_before)
  have holds : ∀ s ∈ [Store.mk N.type N.nearHello, ⟨N.networkName, name⟩],
      (stack.stores [⟨N.type, N.nearHello⟩, ⟨N.networkName, name⟩]).slice s.off s.bytes.length =
        s.bytes := fun s hs => Memory.stores_holds stack separate hs
  refine ⟨Memory.length_slice .., ?_, ?_, fun i hi off_type off_name => ?_⟩
  · rw [take_drop_slice _ (by omega)]
    exact holds ⟨N.type, N.nearHello⟩ (by simp)
  · rw [take_drop_slice _ room]
    exact holds ⟨N.networkName, name⟩ (by simp)
  · have kept : (stack.stores [⟨N.type, N.nearHello⟩, ⟨N.networkName, name⟩]) i = stack i := by
      show ((stack.store _).store _) i = _
      rw [Memory.store_outside _ _ off_name, Memory.store_outside _ _ off_type]
    simp [Memory.slice, hi, kept]

namespace Network

variable {s t : Network} {backend : Backend} {dial : Nat → Dial} {E : Enumeration UInt64 Client}
  {node : Node} {es : List Event}

/-! ## A row of packets -/

/-- `send_packet` is called for each of the addresses. -/
def sends (node : Node) (addrs : List UInt64) (attempt : UInt64 → Attempt) : List Event :=
  addrs.map fun addr => .send node addr (attempt addr)

/-- Each way is written to once where an address goes there, and else not. -/
theorem run_sends (backend : Backend) (dial : Nat → Dial) (E : Enumeration UInt64 Client)
    (attempt : UInt64 → Attempt)
    (apart : ∀ addr addr' way, s.wayTo node addr = some way → s.wayTo node addr' = some way →
      addr = addr') {addrs : List UInt64} (nodup : addrs.Nodup) (built : s.Built node) :
    ∃ t, (machine backend dial E).run s (sends node addrs attempt) = some t ∧ t.node = s.node ∧
      (∀ addr ∈ addrs, ∀ way, s.wayTo node addr = some way →
        t.line way = (s.line way).write (attempt addr)) ∧
      ∀ way, (∀ addr ∈ addrs, s.wayTo node addr ≠ some way) → t.line way = s.line way := by
  induction addrs generalizing s with
  | nil => exact ⟨s, rfl, rfl, nofun, fun _ _ => rfl⟩
  | cons first addrs ih =>
      obtain ⟨fresh, nodup⟩ := List.nodup_cons.mp nodup
      have same : (s.send node first (attempt first)).node = s.node := send_node ..
      have ways : (s.send node first (attempt first)).wayTo node = s.wayTo node := by
        funext addr
        rw [wayTo, wayTo, same]
      have hstep : s.step backend dial E (.send node first (attempt first)) =
          some (s.send node first (attempt first)) := if_pos built
      have built' : (s.send node first (attempt first)).Built node := by
        have server : (s.send node first (attempt first)).server = s.server :=
          congrFun same Node.server
        cases node with
        | server => trivial
        | client connection =>
            show connection < _
            rw [connections, server]
            exact built
      obtain ⟨t, hrun, nodes, written, kept⟩ := ih (ways ▸ apart) nodup built'
      rw [ways] at written kept
      refine ⟨t, ?_, nodes.trans same, fun addr haddr way goes => ?_, fun way none_goes => ?_⟩
      · rw [sends, List.map_cons, Machine.run_cons]
        exact Option.bind_eq_some_iff.mpr ⟨_, hstep, hrun⟩
      · rcases List.mem_cons.mp haddr with rfl | later
        · rw [kept way fun other hother goes' => fresh (apart _ _ way goes goes' ▸ hother),
            send_line, if_pos goes]
        · have ne : s.wayTo node first ≠ some way := fun goes' =>
            fresh (apart _ _ way goes goes' ▸ later)
          rw [written addr later way goes, send_line, if_neg ne]
      · rw [kept way fun addr haddr => none_goes addr (List.mem_cons_of_mem _ haddr), send_line,
          if_neg (none_goes first List.mem_cons_self)]

/-! ## Greetings -/

/-- The addresses `send_hello` passes on: the one it is called with, or those of all clients. -/
def helloTo (E : Enumeration UInt64 Client) (s : Network) (node : Node) :
    Option UInt64 → List UInt64
  | some addr => [addr]
  | none => (E.entries (s.node node).clients).map Prod.fst

/-- `MeshSocketInterface::send_hello`: the calls of `send_packet` it makes, each with the
answers of the system. -/
def sendHello (N : NearHelloLayout) (stack : Memory) (name : List UInt8)
    (E : Enumeration UInt64 Client) (answers : UInt64 → Option Nat × Option Nat) (s : Network)
    (node : Node) (phyAddr : Option UInt64) : Option (List Event) :=
  (nearHello N stack name).map fun packet =>
    sends node (s.helloTo E node phyAddr) fun addr =>
      ⟨packet, (answers addr).1, (answers addr).2⟩

/-- In every run: a greeting to all writes the same packet once to each connection accepted
last under its address, and nothing to the connections whose address was taken over. -/
theorem run_sendHello {N : NearHelloLayout} {stack : Memory} {name : List UInt8}
    {answers : UInt64 → Option Nat × Option Nat} {greeting : List Event}
    (h : (machine backend dial E).run (start backend dial) es = some s)
    (hello : s.sendHello N stack name E answers .server none = some greeting) :
    ∃ packet t, Greets N stack name packet ∧
      (machine backend dial E).run s greeting = some t ∧ t.node = s.node ∧
      (∀ handle, t.line (.up handle) = s.line (.up handle)) ∧
      (∀ key handle, LastAt (keysFiled backend dial E es) key handle →
        t.line (.down handle) =
          (s.line (.down handle)).write ⟨packet, (answers key).1, (answers key).2⟩) ∧
      ∀ handle, (∀ key, ¬ LastAt (keysFiled backend dial E es) key handle) →
        t.line (.down handle) = s.line (.down handle) := by
  obtain ⟨packet, laid, rfl⟩ := Option.map_eq_some_iff.mp hello
  have filed := run_filed h
  have sound : s.server.Sound := (run_conserves h (.up 0)).2.1
  have goes : ∀ addr way, s.wayTo .server addr = some way ↔
      ∃ handle, s.server.handleOf addr = some handle ∧ way = .down handle := by
    intro addr way
    rw [wayTo, Option.map_eq_some_iff]
    exact exists_congr fun handle => and_congr_right fun _ => eq_comm
  have apart : ∀ addr addr' way, s.wayTo .server addr = some way →
      s.wayTo .server addr' = some way → addr = addr' := by
    intro addr addr' way first second
    obtain ⟨handle, found, rfl⟩ := (goes _ _).mp first
    obtain ⟨handle', found', same⟩ := (goes _ _).mp second
    cases same
    exact sound.apart.apart addr addr' handle found found'
  obtain ⟨t, hrun, nodes, written, kept⟩ := run_sends backend dial E
    (fun addr => ⟨packet, (answers addr).1, (answers addr).2⟩) apart (E.nodup s.server.clients)
    trivial
  refine ⟨packet, t, nearHello_greets laid, hrun, nodes, fun handle => ?_,
    fun key handle last => ?_, fun handle none_last => ?_⟩
  · refine kept (.up handle) fun addr _ first => ?_
    obtain ⟨_, -, same⟩ := (goes _ _).mp first
    cases same
  · have found : s.server.handleOf key = some handle := (filed.last key handle).mpr last
    obtain ⟨client, stored, -⟩ := Option.map_eq_some_iff.mp found
    exact written key (List.mem_map.mpr ⟨(key, client), (E.mem_iff _ _ _).mpr stored, rfl⟩)
      (.down handle) ((goes _ _).mpr ⟨handle, found, rfl⟩)
  · refine kept (.down handle) fun addr _ first => ?_
    obtain ⟨handle', found, same⟩ := (goes _ _).mp first
    cases same
    exact none_last addr ((filed.last addr handle).mp found)

/-! ### A greeting to one client -/

/-- A type of one byte, and a name of up to three. -/
def shortName : NearHelloLayout where
  type := 0
  networkName := 1
  size := 4
  nearHello := [9]
  type_before := by decide
  name_inside := by decide
  fits := by decide

/-- The last byte of the packet is what was on the stack. -/
theorem oneAccepted_sendHello : ∃ packet t greeting,
    (oneAccepted (.stored ..)).sendHello shortName (fun _ => 5) [1, 2] (.stored ..)
        (fun _ => (some 4, some 4)) .server none = some greeting ∧
      Greets shortName (fun _ => 5) [1, 2] packet ∧
      (machine .unixsocket oneDial (.stored ..)).run (oneAccepted (.stored ..)) greeting = some t ∧
      t.line (.down 0) =
        ((oneAccepted (.stored ..)).line (.down 0)).write ⟨packet, some 4, some 4⟩ := by
  have hello : (oneAccepted (.stored ..)).sendHello shortName (fun _ => 5) [1, 2] (.stored ..)
      (fun _ => (some 4, some 4)) .server none = some _ := rfl
  obtain ⟨packet, t, greets, hrun, -, -, written, -⟩ := run_sendHello run_oneSent hello
  refine ⟨packet, t, _, hello, greets, hrun, written peerAddr 0 ?_⟩
  exact ((run_filed run_oneSent).last peerAddr 0).mp oneAccepted_found

end Network

end KhawasuPc
