import KhawasuPc.Lib.Frames
import KhawasuPc.Lib.Machine
import KhawasuPc.Lib.UMap
import KhawasuPc.Socket.Address

/-!
# The socket interface

`MeshSocketInterface` carries mesh packets over TCP connections.  Each packet is
written as its size and its bytes.  `checkPackets` accepts at most one connection
and then goes once over all clients, taking from each what the system has queued,
up to the end of one packet.

A `Host` is an interface together with the connections the system holds for it.
Bytes a peer writes are on the wire until they arrive, in pieces of any length, and
then queued until the interface receives them.  Connections are numbered in the
order in which they are accepted, and a handle is such a number.
-/

namespace KhawasuPc

open Lib

/-- `ClientRecvBuffer`. -/
structure ClientRecvBuffer where
  /-- What was received of the packet. -/
  data : List UInt8
  /-- The size of the packet, zero before it was read. -/
  size : UInt32
deriving DecidableEq, Repr

/-- `Client`. -/
structure Client where
  /-- What was received of the next packet. -/
  buffer : ClientRecvBuffer
  handle : Nat
deriving DecidableEq, Repr

/-- `MeshSocketInterface`, without its sessions. -/
structure MeshSocketInterface where
  isServer : Bool
  /-- The clients, by address. -/
  clients : UMap UInt64 Client

/-! ## Sending -/

/-- What `send_packet` writes: the size, then the packet. -/
def packetWrites (packet : Message 4) : List (List UInt8) :=
  [leBytes 4 packet.bytes.length, packet.bytes]

/-- `MeshSocketInterface::send_packet`: what is written to which connection. -/
def MeshSocketInterface.sendPacket (self : MeshSocketInterface) (addr : UInt64)
    (packet : Message 4) : List (Nat × List UInt8) :=
  match self.clients.lookup addr with
  | none => []
  | some client => (packetWrites packet).map fun bytes => (client.handle, bytes)

theorem packetWrites_flatten (packet : Message 4) :
    (packetWrites packet).flatten = packet.frame := by
  simp [packetWrites, Message.frame]

/-! ## Receiving -/

/-- What a round of the loop over the clients leaves of one of them. -/
structure Polled where
  buffer : ClientRecvBuffer
  /-- What is still queued. -/
  queue : List UInt8
  delivered : List (List UInt8 × UInt32)
deriving DecidableEq, Repr

/-- `Socket::GetStatus` of a connection, for reading. -/
def getStatus (queue : List UInt8) : Int := if queue = [] then 0 else 1

namespace ClientRecvBuffer

variable (buffer : ClientRecvBuffer) (queue : List UInt8)

/-- Reading the size field. -/
def recvSize : ClientRecvBuffer × List UInt8 :=
  if buffer.size = 0 ∧ 4 ≤ queue.length then
    ({ buffer with size := UInt32.ofNat (leValue (queue.take 4)) }, queue.drop 4)
  else (buffer, queue)

/-- Reading up to the end of the packet, and passing it on when it is complete, also where the
size is zero because it was not read.  A `Recv` of no bytes is taken to return at once. -/
def recvData : Polled :=
  let oldSize := UInt64.ofNat buffer.data.length
  let howMuch := min queue.length (buffer.size.toUInt64 - oldSize).toNat
  let data := buffer.data ++ queue.take howMuch
  let queue := queue.drop howMuch
  if buffer.size.toNat = data.length then ⟨⟨[], 0⟩, queue, [(data, buffer.size)]⟩
  else ⟨{ buffer with data := data }, queue, []⟩

/-- The body of the loop over the clients. -/
def poll : Polled :=
  if getStatus queue = 1 ∧ 0 < queue.length then
    let received := buffer.recvSize queue
    received.1.recvData received.2
  else ⟨buffer, queue, []⟩

end ClientRecvBuffer

/-! ## Hosts -/

/-- One direction of a connection, towards this host. -/
structure Stream where
  /-- The packets the peer has sent. -/
  sent : List (Message 4)
  /-- Bytes written that have not arrived. -/
  wire : List UInt8
  /-- Bytes that arrived and were not received. -/
  queue : List UInt8
deriving DecidableEq, Repr

namespace Stream

variable (stream : Stream)

/-- The peer sends a packet. -/
def send (packet : Message 4) : Stream :=
  { stream with
    sent := stream.sent ++ [packet]
    wire := stream.wire ++ (packetWrites packet).flatten }

/-- The next `count` bytes arrive. -/
def arrive (count : Nat) : Stream :=
  { stream with
    wire := stream.wire.drop count
    queue := stream.queue ++ stream.wire.take count }

end Stream

/-- A call of `controller->on_packet`. -/
structure Delivery where
  addr : UInt64
  handle : Nat
  packet : List UInt8
  size : UInt32
deriving DecidableEq, Repr

/-- An interface and its connections. -/
structure Host extends MeshSocketInterface where
  /-- The peers whose connections were accepted, in order. -/
  accepted : List Endpoint
  /-- The peers whose connections wait to be accepted, in order. -/
  backlog : List Endpoint
  stream : Nat → Stream
  delivered : List Delivery

/-- How an interface is constructed. -/
inductive Role where
  | server
  /-- Connected to a server. -/
  | client (server : Endpoint) (raw : UInt64)
deriving DecidableEq, Repr

namespace Host

/-- A client that has received nothing. -/
def newClient (handle : Nat) : Client := ⟨⟨[], 0⟩, handle⟩

/-- `MeshSocketInterface::MeshSocketInterface`. -/
def start (backend : Backend) : Role → Host
  | .server =>
      { isServer := true
        clients := ∅
        accepted := []
        backlog := []
        stream := fun _ => ⟨[], [], []⟩
        delivered := [] }
  | .client server raw =>
      { isServer := false
        clients := (∅ : UMap UInt64 Client).insert (addressU64 backend raw server.sockaddr)
          (newClient 0)
        accepted := [server]
        backlog := []
        stream := fun _ => ⟨[], [], []⟩
        delivered := [] }

variable (s : Host)

/-- Accepting a connection, where `status` is what `GetStatus` said of the listening
socket and `raw` is what `AddressU64` finds in its variable. -/
def acceptClient (backend : Backend) (status : Int) (raw : UInt64) : Host :=
  if status = 1 then
    match s.backlog with
    | [] => s
    | peer :: backlog =>
        { s with
          accepted := s.accepted ++ [peer]
          backlog := backlog
          clients := s.clients.insert (addressU64 backend raw peer.sockaddr)
            (newClient s.accepted.length) }
  else s

/-- One round of the loop over the clients. -/
def pollClient (entry : UInt64 × Client) : Host :=
  let client := entry.2
  let stream := s.stream client.handle
  let polled := client.buffer.poll stream.queue
  { s with
    clients := s.clients.insert entry.1 { client with buffer := polled.buffer }
    stream := Function.update s.stream client.handle { stream with queue := polled.queue }
    delivered := s.delivered ++ polled.delivered.map fun p =>
      ⟨entry.1, client.handle, p.1, p.2⟩ }

/-- The loop over the clients. -/
def pollClients (E : Enumeration UInt64 Client) : Host :=
  (E.entries s.clients).foldl pollClient s

/-- `STATUS_EXCEPT`. -/
def statusExcept : Int := 4

/-- `check_packets` up to its loop.  It can return before that. -/
def checkServer (backend : Backend) (status : Int) (raw : UInt64) : Option Host :=
  if s.isServer then
    if status = statusExcept then none else some (s.acceptClient backend status raw)
  else some s

/-- `MeshSocketInterface::check_packets`. -/
def checkPackets (backend : Backend) (E : Enumeration UInt64 Client) (status : Int)
    (raw : UInt64) : Host :=
  match s.checkServer backend status raw with
  | none => s
  | some t => t.pollClients E

end Host

/-! ## Runs -/

namespace Host

/-- Something that happens to a host. -/
inductive Event where
  | connect (peer : Endpoint)
  /-- The peer of a connection sends a packet. -/
  | peerSends (handle : Nat) (packet : Message 4)
  /-- The next bytes of a connection arrive. -/
  | arrive (handle : Nat) (count : Nat)
  /-- `check_packets` is called. -/
  | checkPackets (status : Int) (raw : UInt64)
deriving DecidableEq, Repr

variable (s : Host)

/-- The connection is there. -/
def IsOpen (handle : Nat) : Prop := handle < s.accepted.length + s.backlog.length

instance (handle : Nat) : Decidable (s.IsOpen handle) := by
  unfold IsOpen
  infer_instance

/-- The host with a connection changed. -/
def withStream (handle : Nat) (stream : Stream) : Host :=
  { s with stream := Function.update s.stream handle stream }

/-- What an event does. -/
def step (backend : Backend) (E : Enumeration UInt64 Client) : Event → Option Host
  | .connect peer =>
      if s.isServer then some { s with backlog := s.backlog ++ [peer] } else none
  | .peerSends handle packet =>
      if s.IsOpen handle then some (s.withStream handle ((s.stream handle).send packet)) else none
  | .arrive handle count =>
      if s.IsOpen handle then some (s.withStream handle ((s.stream handle).arrive count)) else none
  | .checkPackets status raw => some (s.checkPackets backend E status raw)

/-- The machine of a host. -/
def machine (backend : Backend) (E : Enumeration UInt64 Client) : Lib.Machine Host Event :=
  ⟨fun s e => s.step backend E e⟩

/-- What an event does, by the event. -/
inductive Steps (backend : Backend) (E : Enumeration UInt64 Client) (s : Host) :
    Event → Host → Prop
  | connect (peer : Endpoint) :
      Steps backend E s (.connect peer) { s with backlog := s.backlog ++ [peer] }
  | peerSends (handle : Nat) (packet : Message 4) :
      Steps backend E s (.peerSends handle packet)
        (s.withStream handle ((s.stream handle).send packet))
  | arrive (handle count : Nat) :
      Steps backend E s (.arrive handle count)
        (s.withStream handle ((s.stream handle).arrive count))
  | returns (status : Int) (raw : UInt64) (stop : s.checkServer backend status raw = none) :
      Steps backend E s (.checkPackets status raw) s
  | polls (status : Int) (raw : UInt64) (t : Host)
      (go : s.checkServer backend status raw = some t) :
      Steps backend E s (.checkPackets status raw) (t.pollClients E)

theorem step_steps {backend : Backend} {E : Enumeration UInt64 Client} {s t : Host} {e : Event}
    (h : s.step backend E e = some t) : Steps backend E s e t := by
  cases e with
  | connect peer =>
      simp only [step, Option.ite_none_right_eq_some] at h
      cases h.2
      exact .connect peer
  | peerSends handle packet =>
      simp only [step, Option.ite_none_right_eq_some] at h
      cases h.2
      exact .peerSends handle packet
  | arrive handle count =>
      simp only [step, Option.ite_none_right_eq_some] at h
      cases h.2
      exact .arrive handle count
  | checkPackets status raw =>
      cases h
      unfold checkPackets
      split
      next stop => exact .returns status raw stop
      next t go => exact .polls status raw t go

/-- What was passed on of a connection. -/
def deliveredTo (handle : Nat) : List (List UInt8 × UInt32) :=
  (s.delivered.filter (·.handle = handle)).map fun d => (d.packet, d.size)

/-! ## The loop over the clients -/

variable {s} {backend : Backend} {E : Enumeration UInt64 Client}

/-- Induction over the loop: `P` is about the entries still to come.  Each entry is
met as it was when the loop began. -/
theorem pollClients_induction {P : List (UInt64 × Client) → Host → Prop}
    (start : P (E.entries s.clients) s)
    (step : ∀ t e l, P (e :: l) t → t.clients.lookup e.1 = some e.2 →
      e.1 ∉ l.map Prod.fst → P l (t.pollClient e)) : P [] (s.pollClients E) :=
  Enumeration.foldl_induction (T := fun t : Host => t.clients) (f := pollClient)
    (fun _ _ _ ha => Finmap.lookup_insert_of_ne _ ha) start step

/-- The loop over one client. -/
theorem pollClients_single {addr : UInt64} {client : Client}
    (h : s.clients = (∅ : UMap UInt64 Client).insert addr client) :
    s.pollClients E = s.pollClient (addr, client) := by
  unfold pollClients
  rw [h, Enumeration.entries_insert_empty]
  rfl

/-- One round of the loop takes bytes off the connection of its client. -/
theorem pollClient_stream_self (s : Host) (e : UInt64 × Client) :
    (s.pollClient e).stream e.2.handle =
      { s.stream e.2.handle with
        queue := (e.2.buffer.poll (s.stream e.2.handle).queue).queue } := Function.update_self ..

theorem pollClient_stream_ne (s : Host) {e : UInt64 × Client} {handle : Nat}
    (hne : handle ≠ e.2.handle) : (s.pollClient e).stream handle = s.stream handle :=
  Function.update_of_ne hne ..

/-! ## Handles -/

/-- The handle of the client at an address. -/
def handleOf (s : Host) (addr : UInt64) : Option Nat := (s.clients.lookup addr).map (·.handle)

theorem handleOf_of_lookup {addr : UInt64} {client : Client}
    (found : s.clients.lookup addr = some client) : s.handleOf addr = some client.handle := by
  rw [handleOf, found, Option.map_some]

theorem pollClient_handleOf {e : UInt64 × Client} (h : s.clients.lookup e.1 = some e.2) :
    (s.pollClient e).handleOf = s.handleOf := by
  funext addr
  unfold handleOf
  by_cases ha : addr = e.1
  · subst ha
    rw [pollClient, Finmap.lookup_insert, h]
    rfl
  · rw [pollClient, Finmap.lookup_insert_of_ne _ ha]

/-- The loop over the clients changes no handle and accepts no connection. -/
theorem pollClients_same : (s.pollClients E).handleOf = s.handleOf ∧
    (s.pollClients E).accepted = s.accepted ∧ (s.pollClients E).backlog = s.backlog :=
  pollClients_induction
    (P := fun _ t => t.handleOf = s.handleOf ∧ t.accepted = s.accepted ∧ t.backlog = s.backlog)
    ⟨rfl, rfl, rfl⟩
    fun _ _ _ ht hl _ => ⟨(pollClient_handleOf hl).trans ht.1, ht.2⟩

/-- Clients have handles of their own, of accepted connections. -/
structure HandlesApart (s : Host) : Prop where
  accepted : ∀ addr handle, s.handleOf addr = some handle → handle < s.accepted.length
  apart : ∀ addr addr' handle, s.handleOf addr = some handle → s.handleOf addr' = some handle →
    addr = addr'

theorem HandlesApart.congr {t : Host} (h : s.HandlesApart) (hh : t.handleOf = s.handleOf)
    (ha : t.accepted = s.accepted) : t.HandlesApart where
  accepted addr handle hl := by
    rw [ha]
    exact h.accepted addr handle (hh ▸ hl)
  apart addr addr' handle hl hl' := h.apart addr addr' handle (hh ▸ hl) (hh ▸ hl')

/-- Clients at two addresses have two handles. -/
theorem HandlesApart.handle_ne {addr addr' : UInt64} {client client' : Client}
    (h : s.HandlesApart) (found : s.clients.lookup addr = some client)
    (found' : s.clients.lookup addr' = some client') (ne : addr ≠ addr') :
    client.handle ≠ client'.handle := by
  intro same
  have mine := handleOf_of_lookup found
  rw [same] at mine
  exact ne (h.apart addr addr' _ mine (handleOf_of_lookup found'))

/-- What accepting a connection does: nothing, or a new client at its address. -/
inductive Accepts (backend : Backend) (raw : UInt64) (s : Host) : Host → Prop
  | idle : Accepts backend raw s s
  | client {t : Host} (peer : Endpoint) (waiting : s.backlog = peer :: t.backlog)
      (accepted_eq : t.accepted = s.accepted ++ [peer])
      (clients_eq : t.clients = s.clients.insert (addressU64 backend raw peer.sockaddr)
        (newClient s.accepted.length))
      (stream_eq : t.stream = s.stream) (delivered_eq : t.delivered = s.delivered) :
      Accepts backend raw s t

theorem acceptClient_accepts (backend : Backend) (s : Host) (status : Int) (raw : UInt64) :
    Accepts backend raw s (s.acceptClient backend status raw) := by
  unfold acceptClient
  split
  · split
    · exact .idle
    next peer backlog waiting => exact .client peer waiting rfl rfl rfl rfl
  · exact .idle

/-- Before its loop, `check_packets` accepts a connection or does nothing. -/
theorem checkServer_accepts {status : Int} {raw : UInt64} {t : Host}
    (h : s.checkServer backend status raw = some t) : Accepts backend raw s t := by
  unfold checkServer at h
  split at h
  · split at h
    · cases h
    · cases h
      exact acceptClient_accepts ..
  · cases h
    exact .idle

theorem handleOf_insert {s t : Host} {addr : UInt64} {client : Client}
    (h : t.clients = s.clients.insert addr client) (addr' : UInt64) :
    t.handleOf addr' = if addr' = addr then some client.handle else s.handleOf addr' := by
  unfold handleOf
  rw [h]
  by_cases ha : addr' = addr
  · rw [ha, Finmap.lookup_insert, if_pos rfl]
    rfl
  · rw [Finmap.lookup_insert_of_ne _ ha, if_neg ha]

theorem HandlesApart.accepts {raw : UInt64} {t : Host} (h : s.HandlesApart)
    (ha : Accepts backend raw s t) : t.HandlesApart := by
  cases ha with
  | idle => exact h
  | client peer waiting accepted_eq clients_eq =>
      have hhandle := handleOf_insert clients_eq
      have hlen : t.accepted.length = s.accepted.length + 1 := by simp [accepted_eq]
      constructor
      · intro addr handle hl
        rw [hhandle] at hl
        split at hl
        · cases hl
          exact hlen ▸ Nat.lt_succ_self _
        · exact hlen ▸ Nat.lt_succ_of_lt (h.accepted addr handle hl)
      · intro addr addr' handle hl hl'
        rw [hhandle] at hl hl'
        split at hl <;> split at hl'
        next ha ha' => exact ha.trans ha'.symm
        next ha ha' => cases hl; exact absurd (h.accepted addr' _ hl') (Nat.lt_irrefl _)
        next ha ha' => cases hl'; exact absurd (h.accepted addr _ hl) (Nat.lt_irrefl _)
        next ha ha' => exact h.apart addr addr' handle hl hl'

theorem HandlesApart.steps {e : Event} {t : Host} (h : s.HandlesApart)
    (hs : Steps backend E s e t) : t.HandlesApart := by
  cases hs with
  | connect peer => exact h.congr rfl rfl
  | peerSends handle packet => exact h.congr rfl rfl
  | arrive handle count => exact h.congr rfl rfl
  | returns status raw stop => exact h
  | polls status raw w go =>
      exact (h.accepts (checkServer_accepts go)).congr pollClients_same.1 pollClients_same.2.1

theorem start_handlesApart (role : Role) : (start backend role).HandlesApart := by
  cases role with
  | server => constructor <;> intros <;> contradiction
  | client server raw =>
      have hhandle := handleOf_insert (s := start backend .server)
        (t := start backend (.client server raw)) rfl
      constructor
      · intro addr handle hl
        rw [hhandle] at hl
        split at hl <;> cases hl
        exact Nat.zero_lt_one
      · intro addr addr' handle hl hl'
        rw [hhandle] at hl hl'
        split at hl <;> split at hl' <;> cases hl <;> cases hl'
        next ha ha' => exact ha.trans ha'.symm

end Host

end KhawasuPc
