import KhawasuPc.Interface.MeshSocket

/-!
# Reassembling packets

What `checkPackets` passes on of a connection should be a prefix of what the peer
sent, however the bytes arrive.  The state between two polls is a `Cut` of the
stream: a buffer holds the size and some bytes of the next packet, or nothing.

A poll that meets one, two or three bytes of a size field goes wrong.  It leaves
them queued, and then takes the zero in `size` for the size of an empty packet that
is complete.  `Host.deliveries_isPrefix` is about the runs in which no poll does.
-/

namespace KhawasuPc

open Lib

/-- What a packet is passed on as. -/
def asDelivered (packet : Message 4) : List UInt8 × UInt32 :=
  (packet.bytes, UInt32.ofNat packet.bytes.length)

namespace ClientRecvBuffer

/-- The bytes of the next frame a buffer holds. -/
def taken (buffer : ClientRecvBuffer) : List UInt8 :=
  if buffer.size = 0 then [] else leBytes 4 buffer.size.toNat ++ buffer.data

/-- The size field is read, or none of it is queued, or all of it is. -/
def SizeReady (buffer : ClientRecvBuffer) (queue : List UInt8) : Prop :=
  buffer.size = 0 → queue.length ≠ 1 ∧ queue.length ≠ 2 ∧ queue.length ≠ 3

instance (buffer : ClientRecvBuffer) (queue : List UInt8) : Decidable (buffer.SizeReady queue) := by
  unfold SizeReady
  infer_instance

/-- The size field is the first four bytes. -/
theorem recvSize_eq {buffer : ClientRecvBuffer} {queue : List UInt8} (hzero : buffer.size = 0)
    (hfour : 4 ≤ queue.length) :
    ∃ size : UInt32, buffer.recvSize queue = ({ buffer with size := size }, queue.drop 4) ∧
      leBytes 4 size.toNat = queue.take 4 := by
  refine ⟨_, if_pos ⟨hzero, hfour⟩, ?_⟩
  have hhead : (queue.take 4).length = 4 := by simp [hfour]
  have hval : leValue (queue.take 4) < 2 ^ 32 := by
    simpa [hhead] using leValue_lt (queue.take 4)
  have hsize : (UInt32.ofNat (leValue (queue.take 4))).toNat = leValue (queue.take 4) := by
    rw [UInt32.toNat_ofNat']
    exact Nat.mod_eq_of_lt hval
  have hfield := leBytes_leValue (queue.take 4)
  rw [hhead] at hfield
  rw [hsize, hfield]

/-- A poll that meets a cut size field passes on an empty packet and takes nothing. -/
theorem poll_cut {queue : List UInt8} (h : ¬ SizeReady ⟨[], 0⟩ queue) :
    poll ⟨[], 0⟩ queue = ⟨⟨[], 0⟩, queue, [([], 0)]⟩ := by
  have hlen : 0 < queue.length ∧ ¬ 4 ≤ queue.length := by
    simp only [SizeReady, forall_const] at h
    omega
  have hne : queue ≠ [] := List.length_pos_iff.mp hlen.1
  simp [poll, getStatus, hne, hlen.1, recvSize, hlen.2, recvData]

end ClientRecvBuffer

/-- A buffer is in the middle of a stream, of which `delivered` was passed on. -/
structure Reassembles (buffer : ClientRecvBuffer) (stream : Stream)
    (delivered : List (List UInt8 × UInt32)) : Prop where
  empty : buffer.size = 0 → buffer.data = []
  short : buffer.size ≠ 0 → buffer.data.length < buffer.size.toNat
  cut : ∃ done : List (Message 4), delivered = done.map asDelivered ∧
    Cut stream.sent done buffer.taken (stream.queue ++ stream.wire)

namespace Reassembles

variable {buffer : ClientRecvBuffer} {stream : Stream} {delivered : List (List UInt8 × UInt32)}

theorem nil : Reassembles ⟨[], 0⟩ ⟨[], [], []⟩ [] where
  empty _ := rfl
  short h := absurd rfl h
  cut := ⟨[], rfl, .nil⟩

theorem isPrefix (h : Reassembles buffer stream delivered) :
    delivered <+: stream.sent.map asDelivered := by
  obtain ⟨done, rfl, hcut⟩ := h.cut
  exact hcut.isPrefix.map asDelivered

theorem send (h : Reassembles buffer stream delivered) (packet : Message 4) :
    Reassembles buffer (stream.send packet) delivered where
  empty := h.empty
  short := h.short
  cut := by
    obtain ⟨done, hdone, hcut⟩ := h.cut
    refine ⟨done, hdone, ?_⟩
    have hsend := hcut.send packet
    rwa [List.append_assoc, ← packetWrites_flatten] at hsend

theorem arrive (h : Reassembles buffer stream delivered) (count : Nat) :
    Reassembles buffer (stream.arrive count) delivered where
  empty := h.empty
  short := h.short
  cut := by
    obtain ⟨done, hdone, hcut⟩ := h.cut
    refine ⟨done, hdone, ?_⟩
    simpa [Stream.arrive, List.append_assoc, List.take_append_drop] using hcut

theorem room (hle : buffer.data.length ≤ buffer.size.toNat) :
    (buffer.size.toUInt64 - UInt64.ofNat buffer.data.length).toNat =
      buffer.size.toNat - buffer.data.length := by
  have hsize : buffer.size.toNat < 2 ^ 32 := UInt32.toNat_lt buffer.size
  have hold : (UInt64.ofNat buffer.data.length).toNat = buffer.data.length := by
    rw [UInt64.toNat_ofNat']
    exact Nat.mod_eq_of_lt (by omega)
  rw [UInt64.toNat_sub_of_le, hold, UInt32.toNat_toUInt64]
  rw [UInt64.le_iff_toNat_le, hold, UInt32.toNat_toUInt64]
  exact hle

/-- Once the size is known, a buffer takes what is queued of the packet and passes it on
if that is all. -/
theorem recvData {sent done : List (Message 4)} {wire queue : List UInt8}
    (hle : buffer.data.length ≤ buffer.size.toNat)
    (hcut : Cut sent done (leBytes 4 buffer.size.toNat ++ buffer.data) (queue ++ wire)) :
    Reassembles (buffer.recvData queue).buffer ⟨sent, wire, (buffer.recvData queue).queue⟩
      (done.map asDelivered ++ (buffer.recvData queue).delivered) := by
  have hsize : buffer.size.toNat < 256 ^ 4 := UInt32.toNat_lt buffer.size
  simp only [ClientRecvBuffer.recvData, room hle]
  generalize hn : min queue.length (buffer.size.toNat - buffer.data.length) = n
  have hlen : (buffer.data ++ queue.take n).length = buffer.data.length + n := by
    rw [List.length_append, List.length_take]
    omega
  have htook : Cut sent done (leBytes 4 buffer.size.toNat ++ (buffer.data ++ queue.take n))
      (queue.drop n ++ wire) := by
    rw [← List.append_assoc]
    refine Cut.take ?_
    rwa [← List.append_assoc, List.take_append_drop]
  by_cases hfull : buffer.size.toNat = (buffer.data ++ queue.take n).length
  · rw [if_pos hfull]
    obtain ⟨m, hm, hpass⟩ := htook.pass (by decide) hsize hfull.symm
    refine ⟨fun _ => rfl, fun h => absurd rfl h, done ++ [m], ?_, hpass⟩
    rw [List.map_append, List.map_singleton, asDelivered, hm, ← hfull, UInt32.ofNat_toNat]
  · rw [if_neg hfull]
    have hne : buffer.size ≠ 0 := by
      intro hzero
      have : buffer.size.toNat = 0 := by rw [hzero]; rfl
      omega
    refine ⟨fun h => absurd h hne, fun _ => ?_, done, List.append_nil _, ?_⟩
    · simp only [hlen] at hfull ⊢
      omega
    · rw [ClientRecvBuffer.taken, if_neg hne]
      exact htook

/-- One poll of a client whose size field is not cut. -/
theorem poll (h : Reassembles buffer stream delivered) (hready : buffer.SizeReady stream.queue) :
    Reassembles (buffer.poll stream.queue).buffer
      { stream with queue := (buffer.poll stream.queue).queue }
      (delivered ++ (buffer.poll stream.queue).delivered) := by
  obtain ⟨sent, wire, queue⟩ := stream
  obtain ⟨done, rfl, hcut⟩ := h.cut
  dsimp only at hready hcut ⊢
  by_cases hq : queue = []
  · subst hq
    simpa [ClientRecvBuffer.poll, getStatus] using h
  · have hpos : 0 < queue.length := List.length_pos_iff.mpr hq
    have hpoll : buffer.poll queue =
        (buffer.recvSize queue).1.recvData (buffer.recvSize queue).2 := by
      simp [ClientRecvBuffer.poll, getStatus, hq, hpos]
    rw [hpoll]
    by_cases hzero : buffer.size = 0
    · have hfour : 4 ≤ queue.length := by
        have := hready hzero
        omega
      obtain ⟨size, hrecv, hfield⟩ := ClientRecvBuffer.recvSize_eq hzero hfour
      rw [hrecv]
      refine recvData ?_ ?_
      · simp [h.empty hzero]
      · dsimp only
        rw [hfield, h.empty hzero, List.append_nil]
        rw [ClientRecvBuffer.taken, if_pos hzero, ← List.take_append_drop 4 queue,
          List.append_assoc] at hcut
        simpa using hcut.take
    · rw [ClientRecvBuffer.recvSize, if_neg fun hc => hzero hc.1]
      refine recvData (Nat.le_of_lt (h.short hzero)) ?_
      rwa [ClientRecvBuffer.taken, if_neg hzero] at hcut

end Reassembles

/-! ## Hosts -/

namespace Host

variable {backend : Backend} {E : Enumeration UInt64 Client} {s t : Host} {handle : Nat}

/-- What was passed on of the connection is a prefix of what was sent, and its client,
or the client it will have, is in the middle of its stream. -/
structure Framed (s : Host) (handle : Nat) : Prop where
  delivers : s.deliveredTo handle <+: (s.stream handle).sent.map asDelivered
  client : ∀ addr client, s.clients.lookup addr = some client → client.handle = handle →
    Reassembles client.buffer (s.stream handle) (s.deliveredTo handle)
  fresh : s.accepted.length ≤ handle →
    Reassembles ⟨[], 0⟩ (s.stream handle) (s.deliveredTo handle)

/-- Where a connection is changed, its client and what was passed on stay. -/
theorem Framed.withStream (h : s.Framed handle) {other : Nat} {stream : Stream}
    (keep : ∀ buffer delivered, Reassembles buffer (s.stream other) delivered →
      Reassembles buffer stream delivered)
    (grow : (s.stream other).sent <+: stream.sent) : (s.withStream other stream).Framed handle := by
  by_cases hh : handle = other
  · subst hh
    have hstream : (s.withStream handle stream).stream handle = stream :=
      Function.update_self ..
    refine ⟨?_, ?_, ?_⟩
    · rw [hstream]
      exact h.delivers.trans (grow.map _)
    · intro addr client hl hc
      rw [hstream]
      exact keep _ _ (h.client addr client hl hc)
    · intro hf
      rw [hstream]
      exact keep _ _ (h.fresh hf)
  · have hstream : (s.withStream other stream).stream handle = s.stream handle :=
      Function.update_of_ne hh ..
    refine ⟨?_, ?_, ?_⟩
    · rw [hstream]
      exact h.delivers
    · intro addr client hl hc
      rw [hstream]
      exact h.client addr client hl hc
    · intro hf
      rw [hstream]
      exact h.fresh hf

/-- A new client takes its connection over as it is. -/
theorem Framed.accepts {raw : UInt64} (h : s.Framed handle) (ha : Accepts backend raw s t) :
    t.Framed handle := by
  cases ha with
  | idle => exact h
  | client peer waiting accepted_eq clients_eq stream_eq delivered_eq =>
      have hlen : t.accepted.length = s.accepted.length + 1 := by simp [accepted_eq]
      have hdel : t.deliveredTo handle = s.deliveredTo handle := by
        unfold deliveredTo
        rw [delivered_eq]
      refine ⟨?_, ?_, ?_⟩
      · rw [hdel, stream_eq]
        exact h.delivers
      · intro addr client hl hc
        rw [hdel, stream_eq]
        rw [clients_eq] at hl
        by_cases hk : addr = addressU64 backend raw peer.sockaddr
        · rw [hk, Finmap.lookup_insert] at hl
          cases hl
          exact h.fresh (Nat.le_of_eq hc)
        · rw [Finmap.lookup_insert_of_ne _ hk] at hl
          exact h.client addr client hl hc
      · intro hf
        rw [hdel, stream_eq]
        exact h.fresh (by omega)

variable {e : UInt64 × Client}

theorem pollClient_deliveredTo_self (s : Host) (e : UInt64 × Client) :
    (s.pollClient e).deliveredTo e.2.handle = s.deliveredTo e.2.handle ++
      (e.2.buffer.poll (s.stream e.2.handle).queue).delivered := by
  unfold deliveredTo pollClient
  rw [List.filter_append, List.map_append, List.filter_map]
  simp [Function.comp_def]

theorem pollClient_deliveredTo_ne (h : e.2.handle ≠ handle) :
    (s.pollClient e).deliveredTo handle = s.deliveredTo handle := by
  unfold deliveredTo pollClient
  rw [List.filter_append, List.filter_map]
  simp [Function.comp_def, h]

/-- A poll of a client whose size field is not cut. -/
theorem Framed.pollClient (h : s.Framed handle) (apart : s.HandlesApart)
    (hl : s.clients.lookup e.1 = some e.2)
    (ready : e.2.handle = handle → e.2.buffer.SizeReady (s.stream handle).queue) :
    (s.pollClient e).Framed handle := by
  by_cases hh : e.2.handle = handle
  · subst hh
    have hpoll := (h.client e.1 e.2 hl rfl).poll (ready rfl)
    rw [← s.pollClient_stream_self e, ← pollClient_deliveredTo_self] at hpoll
    refine ⟨hpoll.isPrefix, ?_, ?_⟩
    · intro addr client hc hsame
      by_cases ha : addr = e.1
      · rw [ha, Host.pollClient, Finmap.lookup_insert] at hc
        cases hc
        exact hpoll
      · rw [Host.pollClient, Finmap.lookup_insert_of_ne _ ha] at hc
        exact absurd hsame (apart.handle_ne hc hl ha)
    · intro hf
      have := apart.accepted e.1 _ (handleOf_of_lookup hl)
      exact absurd hf (Nat.not_le_of_lt this)
  · have hstream := s.pollClient_stream_ne (Ne.symm hh)
    refine ⟨?_, ?_, ?_⟩
    · rw [hstream, pollClient_deliveredTo_ne hh]
      exact h.delivers
    · intro addr client hc hsame
      rw [hstream, pollClient_deliveredTo_ne hh]
      by_cases ha : addr = e.1
      · rw [ha, Host.pollClient, Finmap.lookup_insert] at hc
        cases hc
        exact absurd hsame hh
      · rw [Host.pollClient, Finmap.lookup_insert_of_ne _ ha] at hc
        exact h.client addr client hc hsame
    · intro hf
      rw [hstream, pollClient_deliveredTo_ne hh]
      exact h.fresh hf

/-- The loop meets no cut size field on the connection. -/
def Ready (s : Host) (handle : Nat) : Prop :=
  ∀ addr client, s.clients.lookup addr = some client → client.handle = handle →
    client.buffer.SizeReady (s.stream handle).queue

theorem Framed.pollClients (h : s.Framed handle) (apart : s.HandlesApart)
    (ready : s.Ready handle) : (s.pollClients E).Framed handle := by
  let P (l : List (UInt64 × Client)) (t : Host) : Prop :=
    t.Framed handle ∧ t.HandlesApart ∧ ∀ e ∈ l, t.clients.lookup e.1 = some e.2 →
      e.2.handle = handle → e.2.buffer.SizeReady (t.stream handle).queue
  refine (pollClients_induction (P := P) ?start ?step).1
  case start => exact ⟨h, apart, fun e _ hl => ready e.1 e.2 hl⟩
  case step =>
    rintro t e l ⟨hf, ha, hr⟩ hl hn
    have hsame := pollClient_handleOf hl
    refine ⟨hf.pollClient ha hl (hr e (List.mem_cons_self ..) hl), ha.congr hsame rfl, ?_⟩
    intro e' he' hl' hh'
    have hne : e'.1 ≠ e.1 := by
      intro heq
      exact hn (heq ▸ List.mem_map_of_mem he')
    rw [Host.pollClient, Finmap.lookup_insert_of_ne _ hne] at hl'
    have hother : handle ≠ e.2.handle := hh' ▸ ha.handle_ne hl' hl hne
    rw [t.pollClient_stream_ne hother]
    exact hr e' (List.mem_cons_of_mem _ he') hl' hh'

/-- No `check_packets` of the run polls the client of the connection while its size is
not read and one, two or three bytes are queued. -/
def SizeNotCut (backend : Backend) (handle : Nat) (s : Host) : Event → Prop
  | .checkPackets status raw => ∀ t, s.checkServer backend status raw = some t → t.Ready handle
  | _ => True

theorem Framed.steps {e : Event} (h : s.Framed handle) (apart : s.HandlesApart)
    (ready : s.SizeNotCut backend handle e) (hs : Steps backend E s e t) : t.Framed handle := by
  cases hs with
  | connect peer => exact ⟨h.delivers, h.client, h.fresh⟩
  | peerSends other packet =>
      exact h.withStream (fun _ _ hr => hr.send packet) (List.prefix_append ..)
  | arrive other count => exact h.withStream (fun _ _ hr => hr.arrive count) (List.prefix_refl _)
  | returns status raw stop => exact h
  | polls status raw w go =>
      have ha := checkServer_accepts go
      exact (h.accepts ha).pollClients (apart.accepts ha) (ready w go)

theorem start_framed (role : Role) : (start backend role).Framed handle := by
  cases role with
  | server => exact ⟨List.prefix_refl _, fun _ _ hl => (by cases hl), fun _ => .nil⟩
  | client server raw =>
      refine ⟨List.prefix_refl _, fun addr client hl _ => ?_, fun _ => .nil⟩
      by_cases ha : addr = addressU64 backend raw server.sockaddr
      · rw [ha, start, Finmap.lookup_insert] at hl
        cases hl
        exact .nil
      · rw [start, Finmap.lookup_insert_of_ne _ ha] at hl
        cases hl

/-- In a run in which no size field is cut by a poll, what was passed on of a connection
is at every moment a prefix of what was sent on it. -/
theorem deliveries_isPrefix {role : Role} {es : List Event}
    (h : (machine backend E).run (start backend role) es = some s)
    (hm : (machine backend E).Meets (SizeNotCut backend handle) (start backend role) es) :
    s.deliveredTo handle <+: (s.stream handle).sent.map asDelivered := by
  have inv : s.Framed handle ∧ s.HandlesApart := by
    refine Machine.run_meets (M := machine backend E)
      (P := fun s => s.Framed handle ∧ s.HandlesApart) (fun t e w hc ht hstep => ?_) h hm
      ⟨start_framed role, start_handlesApart role⟩
    have hs := step_steps hstep
    exact ⟨ht.1.steps ht.2 hc hs, ht.2.steps hs⟩
  exact inv.1.delivers

/-! ## Where a size field is cut -/

/-- A packet of one byte. -/
def onePacket : Message 4 := ⟨[7], by decide⟩

/-- A client whose server sends it the packet. -/
def packetSent : Host :=
  let s := start .winsocket (.client ⟨1, 2⟩ 0)
  s.withStream 0 ((s.stream 0).send onePacket)

/-- The first `count` bytes have arrived. -/
def partly (count : Nat) : Host :=
  packetSent.withStream 0 ((packetSent.stream 0).arrive count)

theorem run_partly (count : Nat) : (machine .winsocket (.stored ..)).run
    (start .winsocket (.client ⟨1, 2⟩ 0))
    [.peerSends 0 onePacket, .arrive 0 count, .checkPackets 0 0] =
      some ((partly count).pollClients (.stored ..)) := rfl

/-- The first byte of a size field is taken for an empty packet. -/
theorem cut_size_delivers :
    ∃ s, (machine .winsocket (.stored ..)).run (start .winsocket (.client ⟨1, 2⟩ 0))
        [.peerSends 0 onePacket, .arrive 0 1, .checkPackets 0 0] = some s ∧
      s.deliveredTo 0 = [([], 0)] ∧
      ¬ s.deliveredTo 0 <+: (s.stream 0).sent.map asDelivered := by
  refine ⟨_, run_partly 1, ?_⟩
  rw [pollClients_single rfl]
  decide

/-- The packet arrives whole, and is passed on. -/
theorem whole_packet_isPrefix :
    ((partly 5).pollClients (.stored ..)).deliveredTo 0 = [([7], 1)] ∧
      ((partly 5).pollClients (.stored ..)).deliveredTo 0 <+:
        (((partly 5).pollClients (.stored ..)).stream 0).sent.map asDelivered := by
  have passed : ((partly 5).pollClients (.stored ..)).deliveredTo 0 = [([7], 1)] := by
    rw [pollClients_single rfl]
    decide
  refine ⟨passed, deliveries_isPrefix (run_partly 5) ?_⟩
  refine ⟨trivial, fun t₁ h₁ => ⟨trivial, fun t₂ h₂ => ⟨?_, fun t₃ _ => trivial⟩⟩⟩
  cases h₁
  cases h₂
  rintro t ht addr client - -
  cases ht
  exact fun _ => by decide

end Host

end KhawasuPc
