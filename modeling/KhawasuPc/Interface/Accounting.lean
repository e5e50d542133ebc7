import KhawasuPc.Interface.Reassembly

/-!
# Accounting for every byte

`Reassembly` is about peers that write whole packets.  Here a peer writes whatever
bytes it likes.  A `RawHost` is a host that keeps, beside, all bytes that arrived on
each connection and all calls of `Recv` with what they returned.

The bytes read from a connection are, at any time, those of the frames completed, and
of what the buffer of its client holds (`RawHost.run_accounted`).  An empty packet can
be passed on that is in no frame, where a size field is cut; the others are the
packets of the frames.
-/

namespace KhawasuPc

open Lib

/-! ## Calls of `Recv` -/

/-- A call of `Socket::Recv` in `check_packets`, with what it returned: all bytes asked
for, where so many are available. -/
inductive RecvCall where
  /-- For the size field. -/
  | sizeField (handle available : Nat) (bytes : List UInt8)
  /-- For the packet, of which `oldSize` bytes of `size` were there. -/
  | packet (handle available : Nat) (size : UInt32) (oldSize asked : Nat) (bytes : List UInt8)
deriving DecidableEq, Repr

namespace RecvCall

def handle : RecvCall → Nat
  | .sizeField handle _ _ => handle
  | .packet handle _ _ _ _ _ => handle

def bytes : RecvCall → List UInt8
  | .sizeField _ _ bytes => bytes
  | .packet _ _ _ _ _ bytes => bytes

/-- What is asked for is available, and `size - old_size` does not wrap. -/
def Sound : RecvCall → Prop
  | .sizeField _ available bytes => 4 ≤ available ∧ bytes.length = 4
  | .packet _ available size oldSize asked bytes =>
      oldSize ≤ size.toNat ∧ asked ≤ size.toNat - oldSize ∧ asked ≤ available ∧
        bytes.length = asked

end RecvCall

/-- The bytes read from one connection. -/
def readFrom (handle : Nat) (calls : List RecvCall) : List UInt8 :=
  (calls.filter (·.handle = handle)).flatMap (·.bytes)

theorem readFrom_append (handle : Nat) (as bs : List RecvCall) :
    readFrom handle (as ++ bs) = readFrom handle as ++ readFrom handle bs := by
  unfold readFrom
  rw [List.filter_append, List.flatMap_append]

/-- The calls in the body of the loop over the clients. -/
def ClientRecvBuffer.recvCalls (buffer : ClientRecvBuffer) (handle : Nat) (queue : List UInt8) :
    List RecvCall :=
  if getStatus queue = 1 ∧ 0 < queue.length then
    let received := buffer.recvSize queue
    let oldSize := received.1.data.length
    let howMuch :=
      min received.2.length (received.1.size.toUInt64 - UInt64.ofNat oldSize).toNat
    (if buffer.size = 0 ∧ 4 ≤ queue.length then [.sizeField handle queue.length (queue.take 4)]
      else []) ++
      [.packet handle received.2.length received.1.size oldSize howMuch (received.2.take howMuch)]
  else []

/-! ## The invariant of one client -/

/-- The packet is not empty. -/
def nonEmpty (delivery : List UInt8 × UInt32) : Bool := delivery.1 ≠ []

/-- What was read of what arrived are frames, and the start of one that the buffer holds.
The packets of the frames were passed on. -/
structure Accounted (buffer : ClientRecvBuffer) (arrived read queue : List UInt8)
    (delivered : List (List UInt8 × UInt32)) : Prop where
  empty : buffer.size = 0 → buffer.data = []
  short : buffer.size ≠ 0 → buffer.data.length < buffer.size.toNat
  frames : ∃ done : List (Message 4), read = Lib.frames done ++ buffer.taken ∧
    delivered.filter nonEmpty = (done.map asDelivered).filter nonEmpty
  stream : arrived = read ++ queue

namespace Accounted

variable {buffer : ClientRecvBuffer} {arrived read queue : List UInt8}
  {delivered : List (List UInt8 × UInt32)} {done : List (Message 4)} {handle : Nat}

theorem nil : Accounted ⟨[], 0⟩ [] [] [] [] where
  empty _ := rfl
  short h := absurd rfl h
  frames := ⟨[], rfl, rfl⟩
  stream := rfl

theorem receive (h : Accounted buffer arrived read queue delivered) (bytes : List UInt8) :
    Accounted buffer (arrived ++ bytes) read (queue ++ bytes) delivered where
  empty := h.empty
  short := h.short
  frames := h.frames
  stream := by rw [h.stream, List.append_assoc]

/-- Once the size is known, `n` more bytes of the packet are taken. -/
theorem recvData {n : Nat} (buffer : ClientRecvBuffer)
    (hle : buffer.data.length ≤ buffer.size.toNat)
    (hn : min queue.length (buffer.size.toNat - buffer.data.length) = n)
    (hread : read = Lib.frames done ++ (leBytes 4 buffer.size.toNat ++ buffer.data))
    (hdone : delivered.filter nonEmpty = (done.map asDelivered).filter nonEmpty)
    (stream : arrived = read ++ queue) :
    Accounted (buffer.recvData queue).buffer arrived (read ++ queue.take n)
      (buffer.recvData queue).queue (delivered ++ (buffer.recvData queue).delivered) := by
  simp only [ClientRecvBuffer.recvData, Reassembles.room hle, hn]
  have stream' : arrived = read ++ queue.take n ++ queue.drop n := by
    rw [List.append_assoc, List.take_append_drop, stream]
  have hlen : (buffer.data ++ queue.take n).length = buffer.data.length + n := by
    rw [List.length_append, List.length_take]
    omega
  by_cases hfull : buffer.size.toNat = (buffer.data ++ queue.take n).length
  · rw [if_pos hfull]
    have fits : (buffer.data ++ queue.take n).length < 256 ^ 4 := hfull ▸ UInt32.toNat_lt _
    have passed : asDelivered ⟨buffer.data ++ queue.take n, fits⟩ =
        (buffer.data ++ queue.take n, buffer.size) := by
      rw [asDelivered, ← hfull, UInt32.ofNat_toNat]
    refine ⟨fun _ => rfl, fun h => absurd rfl h,
      ⟨done ++ [⟨buffer.data ++ queue.take n, fits⟩], ?_, ?_⟩, stream'⟩
    · rw [frames_append, frames_cons, ← hfull, hread]
      simp [ClientRecvBuffer.taken]
    · rw [List.map_append, List.filter_append, List.filter_append, hdone, List.map_singleton,
        passed]
  · rw [if_neg hfull]
    have hne : buffer.size ≠ 0 := by
      intro hzero
      have : buffer.size.toNat = 0 := by rw [hzero]; rfl
      omega
    refine ⟨fun h => absurd h hne, fun _ => ?_, ⟨done, ?_, ?_⟩, stream'⟩
    · simp only [hlen] at hfull ⊢
      omega
    · rw [ClientRecvBuffer.taken, if_neg hne, hread]
      simp
    · rw [List.append_nil, hdone]

/-- Whatever is queued, no more is stored than the size says, once it is known. -/
theorem recvSize_le (h : Accounted buffer arrived read queue delivered) (next : List UInt8) :
    (buffer.recvSize next).1.data.length ≤ (buffer.recvSize next).1.size.toNat := by
  have stored : buffer.data.length ≤ buffer.size.toNat := by
    by_cases hzero : buffer.size = 0
    · rw [h.empty hzero]
      exact Nat.zero_le _
    · exact Nat.le_of_lt (h.short hzero)
  unfold ClientRecvBuffer.recvSize
  split
  next hc =>
    rw [h.empty hc.1]
    exact Nat.zero_le _
  next => exact stored

/-- Where nothing is queued, nothing happens. -/
theorem poll_nil (buffer : ClientRecvBuffer) (handle : Nat) :
    buffer.poll [] = ⟨buffer, [], []⟩ ∧ buffer.recvCalls handle [] = [] := ⟨rfl, rfl⟩

/-- Where something is queued, up to one packet is read. -/
theorem poll_of_pos (buffer : ClientRecvBuffer) (handle : Nat) (hq : queue ≠ []) :
    buffer.poll queue = (buffer.recvSize queue).1.recvData (buffer.recvSize queue).2 ∧
      ∃ n, min (buffer.recvSize queue).2.length
          ((buffer.recvSize queue).1.size.toUInt64 -
            UInt64.ofNat (buffer.recvSize queue).1.data.length).toNat = n ∧
        buffer.recvCalls handle queue =
          (if buffer.size = 0 ∧ 4 ≤ queue.length then
            [.sizeField handle queue.length (queue.take 4)] else []) ++
          [.packet handle (buffer.recvSize queue).2.length (buffer.recvSize queue).1.size
            (buffer.recvSize queue).1.data.length n ((buffer.recvSize queue).2.take n)] := by
  have hpos : getStatus queue = 1 ∧ 0 < queue.length :=
    ⟨if_neg hq, List.length_pos_iff.mpr hq⟩
  exact ⟨if_pos hpos, _, rfl, if_pos hpos⟩

/-- All calls of a poll are about the connection, ask for what is available, and for no
more than is missing. -/
theorem recvCalls_sound (h : Accounted buffer arrived read queue delivered) (handle : Nat) :
    ∀ call ∈ buffer.recvCalls handle queue, call.handle = handle ∧ call.Sound := by
  by_cases hq : queue = []
  · rw [hq, (poll_nil buffer handle).2]
    exact fun _ hc => absurd hc List.not_mem_nil
  · obtain ⟨-, n, hn, calls⟩ := poll_of_pos buffer handle hq
    have stored := h.recvSize_le queue
    rw [Reassembles.room stored] at hn
    intro call hc
    rw [calls, List.mem_append, List.mem_singleton] at hc
    rcases hc with hc | rfl
    · split at hc
      next four =>
        rw [List.mem_singleton.mp hc]
        exact ⟨rfl, four.2, by rw [List.length_take]; omega⟩
      next => cases hc
    · exact ⟨rfl, stored, by omega, by omega, by rw [List.length_take]; omega⟩

/-- One poll of a client. -/
theorem poll (h : Accounted buffer arrived read queue delivered) (handle : Nat) :
    Accounted (buffer.poll queue).buffer arrived
      (read ++ readFrom handle (buffer.recvCalls handle queue)) (buffer.poll queue).queue
      (delivered ++ (buffer.poll queue).delivered) := by
  by_cases hq : queue = []
  · subst hq
    rw [(poll_nil buffer handle).1, (poll_nil buffer handle).2, readFrom, List.filter_nil,
      List.flatMap_nil, List.append_nil, List.append_nil]
    exact h
  · obtain ⟨polls, n, hn, calls⟩ := poll_of_pos buffer handle hq
    have stored := h.recvSize_le queue
    obtain ⟨done, hread, hdone⟩ := h.frames
    rw [Reassembles.room stored] at hn
    by_cases hzero : buffer.size = 0
    · by_cases hfour : 4 ≤ queue.length
      · obtain ⟨size, hrecv, hfield⟩ := ClientRecvBuffer.recvSize_eq hzero hfour
        rw [polls, calls]
        rw [hrecv] at stored hn ⊢
        have field : read ++ queue.take 4 =
            Lib.frames done ++ (leBytes 4 size.toNat ++ buffer.data) := by
          rw [hread, hfield, ClientRecvBuffer.taken, if_pos hzero, h.empty hzero]
          simp
        have stream : arrived = read ++ queue.take 4 ++ queue.drop 4 := by
          rw [List.append_assoc, List.take_append_drop, h.stream]
        simpa [readFrom, RecvCall.handle, RecvCall.bytes, hzero, hfour] using
          recvData { buffer with size := size } stored hn field hdone stream
      · obtain ⟨data, size⟩ := buffer
        obtain rfl : size = 0 := hzero
        obtain rfl : data = [] := h.empty rfl
        have cut : ¬ ClientRecvBuffer.SizeReady ⟨[], 0⟩ queue := by
          have hpos : 0 < queue.length := List.length_pos_iff.mpr hq
          intro ready
          have := ready rfl
          omega
        have same : ClientRecvBuffer.recvSize ⟨[], 0⟩ queue = (⟨[], 0⟩, queue) :=
          if_neg fun hc => hfour hc.2
        rw [same] at hn calls
        obtain rfl : n = 0 := hn.symm.trans (Nat.min_zero _)
        rw [ClientRecvBuffer.poll_cut cut, calls]
        have empty : (delivered ++ [([], 0)]).filter nonEmpty =
            (done.map asDelivered).filter nonEmpty := by
          rw [List.filter_append, hdone]
          exact List.append_nil _
        refine ⟨h.empty, h.short, ⟨done, ?_, empty⟩, ?_⟩
        · simpa [readFrom, RecvCall.handle, RecvCall.bytes, hfour] using hread
        · simpa [readFrom, RecvCall.handle, RecvCall.bytes, hfour] using h.stream
    · have same : buffer.recvSize queue = (buffer, queue) := if_neg fun hc => hzero hc.1
      rw [polls, calls]
      rw [same] at stored hn ⊢
      rw [ClientRecvBuffer.taken, if_neg hzero] at hread
      simpa [readFrom, RecvCall.handle, RecvCall.bytes, hzero] using
        recvData buffer stored hn hread hdone h.stream

end Accounted

/-! ## Hosts -/

/-- A host with what arrived and what was read.  What peers write is not told apart into
packets, and `sent` and `wire` of its streams stay empty. -/
structure RawHost extends Host where
  /-- All bytes that arrived on a connection. -/
  arrived : Nat → List UInt8
  /-- The calls of `Recv`, in order. -/
  recvs : List RecvCall

namespace RawHost

/-- `MeshSocketInterface::MeshSocketInterface`. -/
def start (backend : Backend) (role : Role) : RawHost where
  toHost := .start backend role
  arrived _ := []
  recvs := []

variable (s : RawHost)

/-- One round of the loop over the clients. -/
def pollClient (entry : UInt64 × Client) : RawHost where
  toHost := s.toHost.pollClient entry
  arrived := s.arrived
  recvs := s.recvs ++
    entry.2.buffer.recvCalls entry.2.handle (s.stream entry.2.handle).queue

/-- The loop over the clients. -/
def pollClients (E : Enumeration UInt64 Client) : RawHost :=
  (E.entries s.clients).foldl pollClient s

/-- `MeshSocketInterface::check_packets`. -/
def checkPackets (backend : Backend) (E : Enumeration UInt64 Client) (status : Int)
    (raw : UInt64) : RawHost :=
  match s.checkServer backend status raw with
  | none => s
  | some t => { s with toHost := t }.pollClients E

/-- Bytes arrive on a connection. -/
def receive (handle : Nat) (bytes : List UInt8) : RawHost where
  toHost := s.withStream handle
    { s.stream handle with queue := (s.stream handle).queue ++ bytes }
  arrived := Function.update s.arrived handle (s.arrived handle ++ bytes)
  recvs := s.recvs

/-- Something that happens to a host. -/
inductive Event where
  | connect (peer : Endpoint)
  /-- The next bytes of a connection arrive, whatever they are. -/
  | receive (handle : Nat) (bytes : List UInt8)
  /-- `check_packets` is called. -/
  | checkPackets (status : Int) (raw : UInt64)
deriving DecidableEq, Repr

/-- What an event does. -/
def step (backend : Backend) (E : Enumeration UInt64 Client) : Event → Option RawHost
  | .connect peer =>
      if s.isServer then some { s with backlog := s.backlog ++ [peer] } else none
  | .receive handle bytes => if s.IsOpen handle then some (s.receive handle bytes) else none
  | .checkPackets status raw => some (s.checkPackets backend E status raw)

/-- The machine of a host. -/
def machine (backend : Backend) (E : Enumeration UInt64 Client) : Lib.Machine RawHost Event :=
  ⟨fun s e => s.step backend E e⟩

variable {s} {t : RawHost} {backend : Backend} {E : Enumeration UInt64 Client} {handle : Nat}
  {buffer : ClientRecvBuffer} {e : UInt64 × Client}

/-- It is the loop of the host. -/
theorem toHost_pollClients : (s.pollClients E).toHost = s.toHost.pollClients E := by
  have loop : ∀ (l : List (UInt64 × Client)) (t : RawHost),
      (l.foldl pollClient t).toHost = l.foldl Host.pollClient t.toHost := by
    intro l
    induction l with
    | nil => exact fun _ => rfl
    | cons e l ih => exact fun t => ih (t.pollClient e)
  exact loop _ s

/-- It is the `check_packets` of the host. -/
theorem toHost_checkPackets (status : Int) (raw : UInt64) :
    (s.checkPackets backend E status raw).toHost =
      s.toHost.checkPackets backend E status raw := by
  unfold checkPackets Host.checkPackets
  cases s.checkServer backend status raw with
  | none => rfl
  | some t => exact toHost_pollClients

/-! ### The invariant -/

/-- A buffer and a connection account for each other. -/
def At (s : RawHost) (handle : Nat) (buffer : ClientRecvBuffer) : Prop :=
  Accounted buffer (s.arrived handle) (readFrom handle s.recvs) (s.stream handle).queue
    (s.deliveredTo handle)

/-- Every byte is accounted for. -/
structure Sound (s : RawHost) : Prop where
  apart : s.HandlesApart
  client : ∀ addr client, s.clients.lookup addr = some client → s.At client.handle client.buffer
  fresh : ∀ handle, s.accepted.length ≤ handle → s.At handle ⟨[], 0⟩
  calls : ∀ call ∈ s.recvs, call.Sound

/-- Nothing happens to the connection. -/
theorem At.congr (h : s.At handle buffer) (arrived : t.arrived handle = s.arrived handle)
    (read : readFrom handle t.recvs = readFrom handle s.recvs)
    (stream : t.stream handle = s.stream handle)
    (delivered : t.deliveredTo handle = s.deliveredTo handle) : t.At handle buffer := by
  show Accounted buffer (t.arrived handle) (readFrom handle t.recvs) (t.stream handle).queue
    (t.deliveredTo handle)
  rw [arrived, read, stream, delivered]
  exact h

theorem At.receive (h : s.At handle buffer) (other : Nat) (bytes : List UInt8) :
    (s.receive other bytes).At handle buffer := by
  by_cases hh : handle = other
  · subst hh
    have arrived : (s.receive handle bytes).arrived handle = s.arrived handle ++ bytes :=
      Function.update_self ..
    have stream : (s.receive handle bytes).stream handle =
        { s.stream handle with queue := (s.stream handle).queue ++ bytes } :=
      Function.update_self ..
    show Accounted buffer ((s.receive handle bytes).arrived handle) (readFrom handle s.recvs)
      ((s.receive handle bytes).stream handle).queue (s.deliveredTo handle)
    rw [arrived, stream]
    exact Accounted.receive h bytes
  · exact h.congr (Function.update_of_ne hh ..) rfl (Function.update_of_ne hh ..) rfl

theorem Sound.receive (h : s.Sound) (other : Nat) (bytes : List UInt8) :
    (s.receive other bytes).Sound where
  apart := h.apart.congr rfl rfl
  client addr client found := (h.client addr client found).receive other bytes
  fresh handle new := (h.fresh handle new).receive other bytes
  calls := h.calls

/-- A new client takes its connection over as it is. -/
theorem Sound.accepts {raw : UInt64} {t : Host} (h : s.Sound)
    (ha : Host.Accepts backend raw s.toHost t) : Sound { s with toHost := t } := by
  have apart := h.apart.accepts ha
  cases ha with
  | idle => exact h
  | client peer waiting accepted_eq clients_eq stream_eq delivered_eq =>
      have same : ∀ {handle buffer}, s.At handle buffer →
          At { s with toHost := t } handle buffer := by
        intro handle buffer hat
        refine hat.congr rfl rfl (congrFun stream_eq handle) ?_
        unfold Host.deliveredTo
        rw [show ({ s with toHost := t } : RawHost).delivered = s.delivered from delivered_eq]
      refine ⟨apart, ?_, ?_, h.calls⟩
      · intro addr client found
        have found' : (s.clients.insert (addressU64 backend raw peer.sockaddr)
            (Host.newClient s.accepted.length)).lookup addr = some client := clients_eq ▸ found
        by_cases hk : addr = addressU64 backend raw peer.sockaddr
        · rw [hk, Finmap.lookup_insert] at found'
          cases found'
          exact same (h.fresh s.accepted.length (Nat.le_refl _))
        · rw [Finmap.lookup_insert_of_ne _ hk] at found'
          exact same (h.client addr client found')
      · intro handle new
        have older : s.accepted.length ≤ handle := by
          have hlen : t.accepted.length = s.accepted.length + 1 := by simp [accepted_eq]
          have : t.accepted.length ≤ handle := new
          omega
        exact same (h.fresh handle older)

/-- The calls of a poll are about its connection. -/
theorem readFrom_recvCalls_ne (h : s.Sound) (found : s.clients.lookup e.1 = some e.2)
    (hh : handle ≠ e.2.handle) :
    readFrom handle (e.2.buffer.recvCalls e.2.handle (s.stream e.2.handle).queue) = [] := by
  have none_here : ∀ call ∈ e.2.buffer.recvCalls e.2.handle (s.stream e.2.handle).queue,
      ¬ decide (call.handle = handle) = true := by
    intro call hc
    rw [((h.client e.1 e.2 found).recvCalls_sound e.2.handle call hc).1]
    simpa using Ne.symm hh
  rw [readFrom, List.filter_eq_nil_iff.mpr none_here]
  rfl

/-- A round of the loop reads from one client. -/
theorem Sound.pollClient (h : s.Sound) (found : s.clients.lookup e.1 = some e.2) :
    (s.pollClient e).Sound := by
  have self : (s.pollClient e).At e.2.handle
      (e.2.buffer.poll (s.stream e.2.handle).queue).buffer := by
    have polled := (h.client e.1 e.2 found).poll e.2.handle
    have stream : (s.pollClient e).stream e.2.handle = { s.stream e.2.handle with
        queue := (e.2.buffer.poll (s.stream e.2.handle).queue).queue } :=
      s.toHost.pollClient_stream_self e
    show Accounted (e.2.buffer.poll (s.stream e.2.handle).queue).buffer (s.arrived e.2.handle)
      (readFrom e.2.handle (s.pollClient e).recvs) ((s.pollClient e).stream e.2.handle).queue
      ((s.toHost.pollClient e).deliveredTo e.2.handle)
    rw [stream, RawHost.pollClient, readFrom_append, Host.pollClient_deliveredTo_self]
    exact polled
  have others : ∀ {handle buffer}, handle ≠ e.2.handle → s.At handle buffer →
      (s.pollClient e).At handle buffer := by
    intro handle buffer hh hat
    refine hat.congr rfl ?_ (s.toHost.pollClient_stream_ne hh)
      (Host.pollClient_deliveredTo_ne (Ne.symm hh))
    rw [RawHost.pollClient, readFrom_append, readFrom_recvCalls_ne h found hh, List.append_nil]
  refine ⟨h.apart.congr (Host.pollClient_handleOf found) rfl, ?_, ?_, ?_⟩
  · intro addr client hc
    by_cases ha : addr = e.1
    · rw [ha, RawHost.pollClient, Host.pollClient, Finmap.lookup_insert] at hc
      cases hc
      exact self
    · rw [RawHost.pollClient, Host.pollClient, Finmap.lookup_insert_of_ne _ ha] at hc
      exact others (h.apart.handle_ne hc found ha) (h.client addr client hc)
  · intro handle new
    have old := h.apart.accepted e.1 _ (Host.handleOf_of_lookup found)
    have newer : s.accepted.length ≤ handle := new
    exact others (by omega) (h.fresh handle newer)
  · intro call hc
    rcases List.mem_append.mp hc with hc | hc
    · exact h.calls call hc
    · exact ((h.client e.1 e.2 found).recvCalls_sound e.2.handle call hc).2

theorem Sound.pollClients (h : s.Sound) : (s.pollClients E).Sound :=
  Enumeration.foldl_induction (T := fun s : RawHost => s.clients) (f := RawHost.pollClient)
    (P := fun _ t => t.Sound) (fun _ _ _ ha => Finmap.lookup_insert_of_ne _ ha) h
    fun _ _ _ ht found _ => ht.pollClient found

theorem start_sound (role : Role) : (start backend role).Sound := by
  refine ⟨Host.start_handlesApart role, ?_, ?_, fun _ hc => absurd hc List.not_mem_nil⟩
  · intro addr client found
    cases role with
    | server => cases found
    | client server raw =>
        have found' : ((∅ : UMap UInt64 Client).insert (addressU64 backend raw server.sockaddr)
            (Host.newClient 0)).lookup addr = some client := found
        by_cases ha : addr = addressU64 backend raw server.sockaddr
        · rw [ha, Finmap.lookup_insert] at found'
          cases found'
          exact .nil
        · rw [Finmap.lookup_insert_of_ne _ ha] at found'
          cases found'
  · intro handle new
    cases role <;> exact .nil

/-- No event loses a byte. -/
theorem Sound.step {ev : Event} (h : s.Sound) (hstep : s.step backend E ev = some t) :
    t.Sound := by
  cases ev with
  | connect peer =>
      simp only [RawHost.step, Option.ite_none_right_eq_some] at hstep
      cases hstep.2
      exact ⟨h.apart.congr rfl rfl, h.client, h.fresh, h.calls⟩
  | receive handle bytes =>
      simp only [RawHost.step, Option.ite_none_right_eq_some] at hstep
      cases hstep.2
      exact h.receive handle bytes
  | checkPackets status raw =>
      cases hstep
      unfold checkPackets
      split
      next => exact h
      next t go => exact (h.accepts (Host.checkServer_accepts go)).pollClients

/-- After every run, for every client: what was read of its connection are the frames
completed and what its buffer holds, the packets of the frames were passed on in order,
no more than a packet is stored, and every call of `Recv` asked for what was available. -/
theorem run_accounted {es : List Event} (role : Role)
    (h : (machine backend E).run (start backend role) es = some s) :
    (∀ addr client, s.clients.lookup addr = some client →
      Accounted client.buffer (s.arrived client.handle) (readFrom client.handle s.recvs)
        (s.stream client.handle).queue (s.deliveredTo client.handle)) ∧
      ∀ call ∈ s.recvs, call.Sound :=
  have sound : s.Sound := Machine.run_invariant (M := machine backend E) (P := Sound)
    (fun _ _ _ ht hstep => ht.step hstep) h (start_sound role)
  ⟨sound.client, sound.calls⟩

/-- The loop over one client. -/
theorem pollClients_single {addr : UInt64} {client : Client}
    (h : s.clients = (∅ : UMap UInt64 Client).insert addr client) :
    s.pollClients E = s.pollClient (addr, client) := by
  unfold pollClients
  rw [h, Enumeration.entries_insert_empty]
  rfl

/-- A packet of one byte arrived, and two bytes of a size field. -/
def oneAndCut : RawHost := (start .winsocket (.client ⟨1, 2⟩ 0)).receive 0 [1, 0, 0, 0, 42, 9, 9]

theorem run_oneAndCut :
    (machine .winsocket (.stored ..)).run (start .winsocket (.client ⟨1, 2⟩ 0))
      [.receive 0 [1, 0, 0, 0, 42, 9, 9], .checkPackets 0 0] =
        some (oneAndCut.pollClients (.stored ..)) := rfl

theorem oneAndCut_accounted :
    (∀ addr client, (oneAndCut.pollClients (.stored ..)).clients.lookup addr = some client →
      Accounted client.buffer ((oneAndCut.pollClients (.stored ..)).arrived client.handle)
        (readFrom client.handle (oneAndCut.pollClients (.stored ..)).recvs)
        ((oneAndCut.pollClients (.stored ..)).stream client.handle).queue
        ((oneAndCut.pollClients (.stored ..)).deliveredTo client.handle)) ∧
      ∀ call ∈ (oneAndCut.pollClients (.stored ..)).recvs, call.Sound :=
  run_accounted (.client ⟨1, 2⟩ 0) run_oneAndCut

/-- The five bytes of the packet were read, in two calls. -/
example : (oneAndCut.pollClients (.stored ..)).recvs =
    [.sizeField 0 7 [1, 0, 0, 0], .packet 0 3 1 0 1 [42]] := by
  rw [pollClients_single rfl]
  decide

end RawHost

end KhawasuPc
