import KhawasuPc.Interface.Accounting

/-!
# Draining a connection

When what is queued on a connection completes the frame in progress and then is whole
frames, every poll takes one of them, until nothing is left.  `ClientRecvBuffer.Reads` says
which frames are to come, and `Reads.poll` is what one poll does about it.

A call of `check_packets` polls every client once, unless `STATUS_EXCEPT` on the socket the
server listens to makes it return before.  Where all that is queued for a client is a size
field, its second `Recv` is of no bytes and finds none.  Some systems wait for bytes then, and
the call does not return (`RawHost.checkPacketsOn`).  `RawHost.run_drains` is about the calls
that do poll and return, in any order with other connections being opened, accepted and
written to.
-/

namespace KhawasuPc

open Lib

/-- What the system does about a `Recv` of no bytes where none are queued. -/
inductive EmptyRecv where
  | returns
  /-- It waits until some arrive. -/
  | waits
deriving DecidableEq, Repr

/-! ## One poll -/

/-- What the buffer holds of a frame and what is queued after it are the frames `ms`. -/
structure ClientRecvBuffer.Reads (buffer : ClientRecvBuffer) (queue : List UInt8)
    (ms : List (Message 4)) : Prop where
  empty : buffer.size = 0 → buffer.data = []
  short : buffer.size ≠ 0 → buffer.data.length < buffer.size.toNat
  bytes : buffer.taken ++ queue = frames ms

namespace ClientRecvBuffer

variable {buffer : ClientRecvBuffer} {queue : List UInt8} {m : Message 4} {ms : List (Message 4)}

/-- Where no frame is to come nothing is queued and nothing held. -/
theorem Reads.done (h : buffer.Reads queue []) : buffer = ⟨[], 0⟩ ∧ queue = [] := by
  obtain ⟨taken, rest⟩ := List.append_eq_nil_iff.mp h.bytes
  by_cases hzero : buffer.size = 0
  · have data := h.empty hzero
    cases buffer
    dsimp only at hzero data
    rw [hzero, data]
    exact ⟨rfl, rest⟩
  · rw [ClientRecvBuffer.taken, if_neg hzero] at taken
    have hlen := congrArg List.length taken
    rw [List.length_append, length_leBytes, List.length_nil] at hlen
    omega

/-- Where the size is known and the rest of the packet is queued, it is completed. -/
theorem recvData_completes (hsize : buffer.size.toNat = m.bytes.length)
    (hle : buffer.data.length ≤ buffer.size.toNat)
    (hbytes : buffer.data ++ queue = m.bytes ++ frames ms) :
    buffer.recvData queue = ⟨⟨[], 0⟩, frames ms, [asDelivered m]⟩ := by
  obtain ⟨n, hn⟩ := Nat.exists_eq_add_of_le hle
  have hlen := congrArg List.length hbytes
  rw [List.length_append, List.length_append, ← hsize, hn] at hlen
  have asked : min queue.length (buffer.size.toNat - buffer.data.length) = n := by omega
  have taken : buffer.data ++ queue.take n = m.bytes := by
    rw [← List.take_length_add_append, ← hn, hbytes, hsize, List.take_left]
  have left : queue.drop n = frames ms := by
    have split : (buffer.data ++ queue).drop (buffer.data.length + n) = queue.drop n :=
      List.drop_length_add_append ..
    rw [← split, ← hn, hbytes, hsize, List.drop_left]
  have size : buffer.size = UInt32.ofNat m.bytes.length := by rw [← hsize, UInt32.ofNat_toNat]
  rw [recvData]
  simp only [Reassembles.room hle, asked, taken, left]
  rw [if_pos hsize, asDelivered, ← size]

/-- Where a frame is to come, a poll passes its packet on. -/
theorem Reads.poll (h : buffer.Reads queue (m :: ms)) :
    buffer.poll queue = ⟨⟨[], 0⟩, frames ms, [asDelivered m]⟩ := by
  have bytes := h.bytes
  by_cases hzero : buffer.size = 0
  · rw [taken, if_pos hzero, List.nil_append] at bytes
    have hfour : 4 ≤ queue.length := by
      rw [bytes, frames_cons, List.append_assoc, List.length_append, length_leBytes]
      exact Nat.le_add_right _ _
    have hq : queue ≠ [] := List.ne_nil_of_length_pos (by omega)
    rw [(Accounted.poll_of_pos buffer 0 hq).1]
    obtain ⟨size, hrecv, hfield⟩ := recvSize_eq hzero hfour
    rw [bytes, frames_cons, List.append_assoc, List.take_left' (length_leBytes ..)] at hfield
    have hsize : size.toNat = m.bytes.length :=
      leBytes_injective (UInt32.toNat_lt size) m.fits hfield
    rw [hrecv]
    refine recvData_completes hsize ?_ ?_
    · rw [h.empty hzero]
      exact Nat.zero_le _
    · dsimp only
      rw [h.empty hzero, List.nil_append, bytes, frames_cons, List.append_assoc,
        List.drop_left' (length_leBytes ..)]
  · rw [taken, if_neg hzero, frames_cons, List.append_assoc, List.append_assoc] at bytes
    obtain ⟨hfield, hbytes⟩ := List.append_inj bytes (by simp)
    have hsize : buffer.size.toNat = m.bytes.length :=
      leBytes_injective (UInt32.toNat_lt buffer.size) m.fits hfield
    have hq : queue ≠ [] := by
      rintro rfl
      have hlen := congrArg List.length hbytes
      rw [List.append_nil, List.length_append, ← hsize] at hlen
      have := h.short hzero
      omega
    rw [(Accounted.poll_of_pos buffer 0 hq).1]
    have same : buffer.recvSize queue = (buffer, queue) := if_neg fun hc => hzero hc.1
    rw [same]
    exact recvData_completes hsize (Nat.le_of_lt (h.short hzero)) hbytes

/-- The second `Recv` of a poll finds nothing queued, and is for no bytes. -/
def FindsNothing (buffer : ClientRecvBuffer) (queue : List UInt8) : Prop :=
  queue ≠ [] ∧ (buffer.recvSize queue).2 = []

instance (buffer : ClientRecvBuffer) (queue : List UInt8) :
    Decidable (buffer.FindsNothing queue) := by
  unfold FindsNothing
  infer_instance

/-- It does where all that is queued is a size field. -/
theorem findsNothing_iff :
    buffer.FindsNothing queue ↔ buffer.size = 0 ∧ queue.length = 4 := by
  unfold FindsNothing recvSize
  split
  next reads =>
    rw [List.drop_eq_nil_iff, ← List.length_pos_iff]
    exact ⟨fun h => ⟨reads.1, by omega⟩, fun h => by omega⟩
  next skips =>
    refine iff_of_false (fun h => h.1 h.2) fun h => skips ⟨h.1, by omega⟩

theorem Reads.start (ms : List (Message 4)) : Reads ⟨[], 0⟩ (frames ms) ms :=
  ⟨fun _ => rfl, fun h => absurd rfl h, rfl⟩

/-- A poll passes on the next of the frames to come. -/
theorem Reads.polled (h : buffer.Reads queue ms) :
    (buffer.poll queue).delivered = (ms.take 1).map asDelivered ∧
      (buffer.poll queue).buffer.Reads (buffer.poll queue).queue (ms.drop 1) := by
  cases ms with
  | nil =>
      obtain ⟨rfl, rfl⟩ := h.done
      exact ⟨rfl, .start []⟩
  | cons m ms =>
      rw [h.poll]
      exact ⟨rfl, .start ms⟩

end ClientRecvBuffer

/-! ## Hosts -/

namespace Host

variable {backend : Backend} {E : Enumeration UInt64 Client} {s t : Host} {addr : UInt64}
  {handle : Nat} {delivered : List (List UInt8 × UInt32)} {ms : List (Message 4)}

/-- The client at an address has had `delivered` passed on, and the frames `ms` are to
come. -/
structure Draining (s : Host) (addr : UInt64) (handle : Nat)
    (delivered : List (List UInt8 × UInt32)) (ms : List (Message 4)) : Prop where
  delivers : s.deliveredTo handle = delivered
  client : ∃ buffer, s.clients.lookup addr = some ⟨buffer, handle⟩ ∧
    buffer.Reads (s.stream handle).queue ms

/-- At the end nothing is queued, and the buffer is empty. -/
theorem Draining.done (h : s.Draining addr handle delivered []) :
    s.clients.lookup addr = some ⟨⟨[], 0⟩, handle⟩ ∧ (s.stream handle).queue = [] := by
  obtain ⟨buffer, found, reads⟩ := h.client
  obtain ⟨rfl, hq⟩ := reads.done
  exact ⟨found, hq⟩

/-- What does not touch the client and its connection leaves things as they are. -/
theorem Draining.congr (h : s.Draining addr handle delivered ms)
    (client : t.clients.lookup addr = s.clients.lookup addr)
    (queue : (t.stream handle).queue = (s.stream handle).queue)
    (same : t.deliveredTo handle = s.deliveredTo handle) :
    t.Draining addr handle delivered ms := by
  obtain ⟨buffer, found, reads⟩ := h.client
  exact ⟨same.trans h.delivers, buffer, client.trans found, queue ▸ reads⟩

/-- The loop comes to the client: it takes one of the frames, if there is one. -/
theorem Draining.pollClient {client : Client} (h : s.Draining addr handle delivered ms)
    (found : s.clients.lookup addr = some client) :
    (s.pollClient (addr, client)).Draining addr handle
      (delivered ++ (ms.take 1).map asDelivered) (ms.drop 1) := by
  obtain ⟨buffer, found', reads⟩ := h.client
  cases found.symm.trans found'
  obtain ⟨passed, reads'⟩ := reads.polled
  refine ⟨?_, (buffer.poll (s.stream handle).queue).buffer, Finmap.lookup_insert .., ?_⟩
  · have self := pollClient_deliveredTo_self s (addr, ⟨buffer, handle⟩)
    rwa [h.delivers, passed] at self
  · have stream : (s.pollClient (addr, ⟨buffer, handle⟩)).stream handle =
        { s.stream handle with queue := (buffer.poll (s.stream handle).queue).queue } :=
      s.pollClient_stream_self (addr, ⟨buffer, handle⟩)
    rw [stream]
    exact reads'

/-- The loop comes to another client. -/
theorem Draining.pollClient_ne {e : UInt64 × Client} (h : s.Draining addr handle delivered ms)
    (apart : s.HandlesApart) (found : s.clients.lookup e.1 = some e.2) (ha : addr ≠ e.1) :
    (s.pollClient e).Draining addr handle delivered ms := by
  obtain ⟨buffer, found', -⟩ := h.client
  have hh : handle ≠ e.2.handle := apart.handle_ne found' found ha
  have stays := congrArg Stream.queue (s.pollClient_stream_ne hh)
  exact h.congr (Finmap.lookup_insert_of_ne _ ha) stays (pollClient_deliveredTo_ne hh.symm)

/-- The loop comes to every client once. -/
theorem Draining.pollClients (h : s.Draining addr handle delivered ms) (apart : s.HandlesApart) :
    (s.pollClients E).Draining addr handle (delivered ++ (ms.take 1).map asDelivered)
      (ms.drop 1) := by
  let P (l : List (UInt64 × Client)) (t : Host) : Prop :=
    t.HandlesApart ∧ (addr ∈ l.map Prod.fst ∧ t.Draining addr handle delivered ms ∨
      addr ∉ l.map Prod.fst ∧ t.Draining addr handle
        (delivered ++ (ms.take 1).map asDelivered) (ms.drop 1))
  have last : P [] (s.pollClients E) := by
    refine pollClients_induction (P := P) ⟨apart, Or.inl ⟨?_, h⟩⟩ ?_
    · obtain ⟨buffer, found, -⟩ := h.client
      exact List.mem_map.mpr ⟨_, (E.mem_iff s.clients addr _).mpr found, rfl⟩
    · rintro t e l ⟨apart, turn⟩ found others
      refine ⟨apart.congr (pollClient_handleOf found) rfl, ?_⟩
      rw [List.map_cons] at turn
      rcases turn with ⟨mem, before⟩ | ⟨notMem, after⟩
      · rcases List.mem_cons.mp mem with rfl | mem
        · exact Or.inr ⟨others, before.pollClient found⟩
        · have ha : addr ≠ e.1 := by
            rintro rfl
            exact others mem
          exact Or.inl ⟨mem, before.pollClient_ne apart found ha⟩
      · rw [List.mem_cons, not_or] at notMem
        exact Or.inr ⟨notMem.2, after.pollClient_ne apart found notMem.1⟩
  exact (last.2.resolve_left fun h => List.not_mem_nil h.1).2

/-- A connection is accepted under another address. -/
theorem Draining.accepts {raw : UInt64} (h : s.Draining addr handle delivered ms)
    (ha : Accepts backend raw s t)
    (other : ∀ peer, s.backlog = peer :: t.backlog → addressU64 backend raw peer.sockaddr ≠ addr) :
    t.Draining addr handle delivered ms := by
  cases ha with
  | idle => exact h
  | client peer waiting accepted_eq clients_eq stream_eq delivered_eq =>
      refine h.congr ?_ (by rw [stream_eq]) (by rw [deliveredTo, delivered_eq, deliveredTo])
      rw [clients_eq, Finmap.lookup_insert_of_ne _ (Ne.symm (other peer waiting))]

end Host

namespace RawHost

variable {backend : Backend} {E : Enumeration UInt64 Client} {s t : RawHost} {e : Event}
  {addr : UInt64} {handle : Nat} {delivered : List (List UInt8 × UInt32)} {ms : List (Message 4)}
  {es fs : List Event}

/-! ### Calls that return -/

/-- One round of the loop over the clients, if it returns. -/
def pollClientOn (emptyRecv : EmptyRecv) (s : RawHost) (entry : UInt64 × Client) :
    Option RawHost :=
  if emptyRecv = .waits ∧ entry.2.buffer.FindsNothing (s.stream entry.2.handle).queue then none
  else some (s.pollClient entry)

/-- The loop over the clients, if it returns. -/
def pollClientsOn (emptyRecv : EmptyRecv) (E : Enumeration UInt64 Client) (s : RawHost) :
    Option RawHost :=
  (E.entries s.clients).foldlM (pollClientOn emptyRecv) s

/-- `MeshSocketInterface::check_packets`, if it returns. -/
def checkPacketsOn (emptyRecv : EmptyRecv) (backend : Backend) (E : Enumeration UInt64 Client)
    (s : RawHost) (status : Int) (raw : UInt64) : Option RawHost :=
  match s.checkServer backend status raw with
  | none => some s
  | some t => pollClientsOn emptyRecv E { s with toHost := t }

/-- What an event does, where a call of `check_packets` need not return. -/
def stepOn (emptyRecv : EmptyRecv) (backend : Backend) (E : Enumeration UInt64 Client)
    (s : RawHost) : Event → Option RawHost
  | .checkPackets status raw => s.checkPacketsOn emptyRecv backend E status raw
  | .connect peer => s.step backend E (.connect peer)
  | .receive handle bytes => s.step backend E (.receive handle bytes)

/-- The machine of a host whose calls of `check_packets` need not return. -/
def machineOn (emptyRecv : EmptyRecv) (backend : Backend) (E : Enumeration UInt64 Client) :
    Lib.Machine RawHost Event :=
  ⟨fun s e => s.stepOn emptyRecv backend E e⟩

variable {emptyRecv : EmptyRecv}

/-- A loop that returns has polled every client. -/
theorem foldlM_pollClientOn {l : List (UInt64 × Client)}
    (h : l.foldlM (pollClientOn emptyRecv) s = some t) : t = l.foldl pollClient s := by
  induction l generalizing s with
  | nil =>
      rw [List.foldlM_nil] at h
      exact (Option.some.inj h).symm
  | cons e l ih =>
      rw [List.foldlM_cons] at h
      obtain ⟨u, polled, rest⟩ := Option.bind_eq_some_iff.mp h
      rw [pollClientOn] at polled
      split at polled
      · cases polled
      · cases polled
        exact ih rest

/-- A call that returns does what `check_packets` does. -/
theorem stepOn_le (s : RawHost) (e : Event) (t : RawHost)
    (h : s.stepOn emptyRecv backend E e = some t) : s.step backend E e = some t := by
  cases e with
  | connect peer => exact h
  | receive handle bytes => exact h
  | checkPackets status raw =>
      rw [stepOn, checkPacketsOn] at h
      rw [RawHost.step, checkPackets]
      cases go : s.checkServer backend status raw with
      | none =>
          rw [go] at h
          exact h
      | some u =>
          rw [go] at h
          exact congrArg some (foldlM_pollClientOn h).symm

/-- The loop returns unless it comes to a client for which only a size field is queued.  No
round of the loop changes what is queued for the clients still to come. -/
theorem foldlM_pollClientOn_isSome_iff {l : List (UInt64 × Client)} (apart : s.HandlesApart)
    (nodup : (l.map Prod.fst).Nodup) (stored : ∀ e ∈ l, s.clients.lookup e.1 = some e.2)
    (same : ∀ e ∈ l, t.stream e.2.handle = s.stream e.2.handle) :
    (l.foldlM (pollClientOn emptyRecv) t).isSome ↔ emptyRecv = .returns ∨
      ∀ e ∈ l, ¬ e.2.buffer.FindsNothing (s.stream e.2.handle).queue := by
  induction l generalizing t with
  | nil => simp
  | cons e l ih =>
      rw [List.map_cons, List.nodup_cons] at nodup
      rw [List.foldlM_cons, pollClientOn, same e List.mem_cons_self]
      by_cases stop : emptyRecv = .waits ∧
          e.2.buffer.FindsNothing (s.stream e.2.handle).queue
      · rw [if_pos stop]
        refine iff_of_false Bool.false_ne_true ?_
        rintro (rfl | others)
        · cases stop.1
        · exact others e List.mem_cons_self stop.2
      · have rest : ∀ e' ∈ l,
            (t.pollClient e).stream e'.2.handle = s.stream e'.2.handle := by
          intro e' he'
          have hne : e'.1 ≠ e.1 := fun heq => nodup.1 (heq ▸ List.mem_map_of_mem he')
          have hh : e'.2.handle ≠ e.2.handle :=
            apart.handle_ne (stored e' (List.mem_cons_of_mem _ he')) (stored e List.mem_cons_self)
              hne
          exact (t.pollClient_stream_ne hh).trans (same e' (List.mem_cons_of_mem _ he'))
        rw [if_neg stop, Option.bind_eq_bind, Option.bind_some,
          ih nodup.2 (fun e' he' => stored e' (List.mem_cons_of_mem _ he')) rest,
          List.forall_mem_cons]
        cases emptyRecv with
        | returns => simp
        | waits =>
            have here : ¬ e.2.buffer.FindsNothing (s.stream e.2.handle).queue :=
              fun finds => stop ⟨rfl, finds⟩
            simp [here]

/-- A call returns unless, when its loop begins, only a size field is queued for a client. -/
theorem checkPacketsOn_isSome_iff (apart : s.HandlesApart) (status : Int) (raw : UInt64) :
    (s.checkPacketsOn emptyRecv backend E status raw).isSome ↔
      ∀ u, s.checkServer backend status raw = some u → emptyRecv = .returns ∨
        ∀ addr client, u.clients.lookup addr = some client →
          ¬ (client.buffer.size = 0 ∧ (u.stream client.handle).queue.length = 4) := by
  rw [checkPacketsOn]
  cases go : s.checkServer backend status raw with
  | none => simp
  | some u =>
      have apart' : u.HandlesApart := apart.accepts (Host.checkServer_accepts go)
      simp only [Option.some.injEq, forall_eq']
      refine (foldlM_pollClientOn_isSome_iff (s := { s with toHost := u }) apart'
        (E.nodup u.clients) (fun e he => (E.mem_iff u.clients e.1 e.2).mp he)
        fun _ _ => rfl).trans (or_congr_right ?_)
      simp only [ClientRecvBuffer.findsNothing_iff]
      exact ⟨fun all addr client found => all (addr, client)
          ((E.mem_iff u.clients addr client).mpr found),
        fun all e he => all e.1 e.2 ((E.mem_iff u.clients e.1 e.2).mp he)⟩

/-! ### Frame by frame -/

/-- The event is a call of `check_packets`. -/
def Event.isCheck : Event → Bool
  | .checkPackets .. => true
  | _ => false

/-- No bytes arrive on the connection.  A call of `check_packets` is not cut short by
`STATUS_EXCEPT`, and files no new client under the address. -/
def Spares (backend : Backend) (addr : UInt64) (handle : Nat) (s : RawHost) : Event → Prop
  | .connect _ => True
  | .receive other _ => other ≠ handle
  | .checkPackets status raw =>
      s.isServer = true → status ≠ Host.statusExcept ∧
        (status = 1 → ∀ peer rest, s.backlog = peer :: rest →
          addressU64 backend raw peer.sockaddr ≠ addr)

/-- Before its loop such a call leaves the client alone. -/
theorem checkServer_spares {status : Int} {raw : UInt64}
    (h : s.Draining addr handle delivered ms)
    (spared : s.Spares backend addr handle (.checkPackets status raw)) :
    ∃ t, s.checkServer backend status raw = some t ∧ t.Draining addr handle delivered ms := by
  unfold Host.checkServer
  cases server : s.isServer with
  | false => exact ⟨s.toHost, rfl, h⟩
  | true =>
      obtain ⟨go, other⟩ := spared server
      refine ⟨s.acceptClient backend status raw, ?_, ?_⟩
      · simp only [↓reduceIte]
        rw [if_neg go]
      · by_cases hone : status = 1
        · refine h.accepts (Host.acceptClient_accepts ..) fun peer waiting => ?_
          exact other hone peer _ waiting
        · rw [Host.acceptClient, if_neg hone]
          exact h

/-- A call of `check_packets` takes one of the frames to come, and other events take
none. -/
theorem step_draining (h : s.Draining addr handle delivered ms) (apart : s.HandlesApart)
    (spared : s.Spares backend addr handle e) (hstep : s.step backend E e = some t) :
    t.HandlesApart ∧ t.Draining addr handle
      (delivered ++ (ms.take e.isCheck.toNat).map asDelivered) (ms.drop e.isCheck.toNat) := by
  cases e with
  | connect peer =>
      simp only [RawHost.step, Option.ite_none_right_eq_some] at hstep
      cases hstep.2
      refine ⟨apart.congr rfl rfl, ?_⟩
      show Host.Draining _ addr handle (delivered ++ []) ms
      rw [List.append_nil]
      exact h.congr rfl rfl rfl
  | receive other bytes =>
      simp only [RawHost.step, Option.ite_none_right_eq_some] at hstep
      cases hstep.2
      have stays : (s.receive other bytes).stream handle = s.stream handle :=
        Function.update_of_ne (Ne.symm spared) ..
      have same := h.congr (t := (s.receive other bytes).toHost) rfl (by rw [stays]) rfl
      refine ⟨apart.congr rfl rfl, ?_⟩
      show Host.Draining _ addr handle (delivered ++ []) ms
      rwa [List.append_nil]
  | checkPackets status raw =>
      cases hstep
      obtain ⟨u, go, before⟩ := checkServer_spares h spared
      have apart' := apart.accepts (Host.checkServer_accepts go)
      rw [toHost_checkPackets, Host.checkPackets, go]
      exact ⟨apart'.congr Host.pollClients_same.1 Host.pollClients_same.2.1,
        before.pollClients apart'⟩

/-- How many calls of `check_packets` there are. -/
def checks (es : List Event) : Nat := es.countP Event.isCheck

theorem checks_snoc (es : List Event) (e : Event) :
    checks (es ++ [e]) = checks es + e.isCheck.toNat := by
  rw [checks, List.countP_append, checks]
  cases h : e.isCheck <;> simp [h]

/-- As many frames are taken as there are calls. -/
theorem run_draining (start : s.Draining addr handle delivered ms) (apart : s.HandlesApart)
    (h : (machine backend E).run s es = some t)
    (spared : (machine backend E).Meets (Spares backend addr handle) s es) :
    t.Draining addr handle (delivered ++ (ms.take (checks es)).map asDelivered)
      (ms.drop (checks es)) := by
  have both : t.HandlesApart ∧ t.Draining addr handle
      (delivered ++ (ms.take (checks es)).map asDelivered) (ms.drop (checks es)) := by
    refine Machine.run_history_meets (P := fun es t => t.HandlesApart ∧ t.Draining addr handle
      (delivered ++ (ms.take (checks es)).map asDelivered) (ms.drop (checks es))) ?_ ?_ h spared
    · refine ⟨apart, ?_⟩
      show Host.Draining _ addr handle (delivered ++ []) ms
      rwa [List.append_nil]
    · rintro es u e v - spared ⟨apart, before⟩ hstep
      have after := step_draining before apart spared hstep
      rwa [checks_snoc, List.take_add, List.map_append, ← List.append_assoc, ← List.drop_drop]
  exact both.2

/-- The packet in progress, where there is one, once the rest of it is there. -/
def inProgress (buffer : ClientRecvBuffer) (missing : List UInt8) : List (List UInt8 × UInt32) :=
  if buffer.size = 0 then [] else [(buffer.data ++ missing, buffer.size)]

/-- The bytes are those missing from the packet in progress. -/
def Missing (buffer : ClientRecvBuffer) (missing : List UInt8) : Prop :=
  missing.length = if buffer.size = 0 then 0 else buffer.size.toNat - buffer.data.length

/-- In a reachable state, the missing rest and whole frames are the frames to come. -/
theorem Sound.reads (h : s.Sound) {client : Client} {missing : List UInt8}
    (found : s.clients.lookup addr = some client) (rest : Missing client.buffer missing)
    (queued : (s.stream client.handle).queue = missing ++ frames ms) :
    ∃ ns, ns.map asDelivered = inProgress client.buffer missing ++ ms.map asDelivered ∧
      client.buffer.Reads (s.stream client.handle).queue ns := by
  have accounted := h.client addr client found
  by_cases hzero : client.buffer.size = 0
  · rw [Missing, if_pos hzero, List.length_eq_zero_iff] at rest
    rw [inProgress, if_pos hzero, queued, rest]
    refine ⟨ms, rfl, accounted.empty, accounted.short, ?_⟩
    rw [ClientRecvBuffer.taken, if_pos hzero]
    rfl
  · have short := accounted.short hzero
    rw [Missing, if_neg hzero] at rest
    have hlen : (client.buffer.data ++ missing).length = client.buffer.size.toNat := by
      rw [List.length_append]
      omega
    have fits : (client.buffer.data ++ missing).length < 256 ^ 4 := hlen ▸ UInt32.toNat_lt _
    refine ⟨⟨client.buffer.data ++ missing, fits⟩ :: ms, ?_, accounted.empty, accounted.short, ?_⟩
    · rw [inProgress, if_neg hzero, List.map_cons, asDelivered, hlen, UInt32.ofNat_toNat]
      rfl
    · rw [ClientRecvBuffer.taken, if_neg hzero, queued, frames_cons, hlen]
      simp only [List.append_assoc]

/-- After every run, where the missing rest of the packet in progress and then whole frames
are queued for a client: as long as nothing more arrives for it, every call of
`check_packets` that returns, goes on to its loop and replaces no client passes on the next
of these packets, until the queue and the buffer are empty.  The next call returns unless
the system waits for bytes and only a size field is queued for some client. -/
theorem run_drains {role : Role} {client : Client} {missing : List UInt8}
    (hrun : (machine backend E).run (start backend role) es = some s)
    (found : s.clients.lookup addr = some client) (rest : Missing client.buffer missing)
    (queued : (s.stream client.handle).queue = missing ++ frames ms)
    (h : (machineOn emptyRecv backend E).run s fs = some t)
    (spared : (machineOn emptyRecv backend E).Meets (Spares backend addr client.handle) s fs) :
    t.deliveredTo client.handle = s.deliveredTo client.handle ++
        (inProgress client.buffer missing ++ ms.map asDelivered).take (checks fs) ∧
      ((inProgress client.buffer missing ++ ms.map asDelivered).length ≤ checks fs →
        t.clients.lookup addr = some ⟨⟨[], 0⟩, client.handle⟩ ∧
          (t.stream client.handle).queue = []) ∧
      ∀ status raw, (t.checkPacketsOn emptyRecv backend E status raw).isSome ↔
        ∀ u, t.checkServer backend status raw = some u → emptyRecv = .returns ∨
          ∀ addr client, u.clients.lookup addr = some client →
            ¬ (client.buffer.size = 0 ∧ (u.stream client.handle).queue.length = 4) := by
  have sound : s.Sound := Machine.run_invariant (M := machine backend E) (P := Sound)
    (fun _ _ _ ht hstep => ht.step hstep) hrun (start_sound role)
  have htotal : (machine backend E).run s fs = some t := Machine.run_of_le stepOn_le h
  have sound' : t.Sound := Machine.run_invariant (M := machine backend E) (P := Sound)
    (fun _ _ _ ht hstep => ht.step hstep) htotal sound
  obtain ⟨ns, passed, reads⟩ := sound.reads found rest queued
  have before : s.Draining addr client.handle (s.deliveredTo client.handle) ns :=
    ⟨rfl, client.buffer, found, reads⟩
  have after := run_draining before sound.apart htotal (spared.of_le stepOn_le h)
  refine ⟨?_, fun enough => ?_, checkPacketsOn_isSome_iff sound'.apart⟩
  · rw [after.delivers, ← passed, List.map_take]
  · rw [← passed, List.length_map] at enough
    rw [List.drop_of_length_le enough] at after
    exact after.done

/-! ### Two packets, and two calls that pass on nothing -/

/-- The address the connection is filed under. -/
def peerAddr : UInt64 := addressU64 .unixsocket 0 (Endpoint.sockaddr ⟨1, 2⟩)

/-- A server that accepted a connection. -/
def acceptedOne : RawHost :=
  let s : RawHost := { start .unixsocket .server with backlog := [⟨1, 2⟩] }
  { s with toHost := s.acceptClient .unixsocket 1 0 }.pollClient (peerAddr, ⟨⟨[], 0⟩, 0⟩)

/-- Bytes are queued on it. -/
def withQueued (bytes : List UInt8) : RawHost := acceptedOne.receive 0 bytes

theorem withQueued_clients (bytes : List UInt8) :
    (withQueued bytes).clients = (∅ : UMap UInt64 Client).insert peerAddr ⟨⟨[], 0⟩, 0⟩ := by
  show ((∅ : UMap UInt64 Client).insert peerAddr ⟨⟨[], 0⟩, 0⟩).insert peerAddr ⟨⟨[], 0⟩, 0⟩ = _
  rw [Finmap.insert_insert]

theorem run_withQueued (bytes : List UInt8) :
    (machine .unixsocket E).run (start .unixsocket .server)
      [.connect ⟨1, 2⟩, .checkPackets 1 0, .receive 0 bytes] = some (withQueued bytes) := by
  let s : RawHost := { start .unixsocket .server with backlog := [⟨1, 2⟩] }
  have accepts : s.checkPackets .unixsocket E 1 0 = acceptedOne := pollClients_single rfl
  show (machine .unixsocket E).run (s.checkPackets .unixsocket E 1 0) _ = _
  rw [accepts]
  rfl

/-- An empty packet and one of one byte. -/
def twoFrames : List UInt8 := [0, 0, 0, 0, 1, 0, 0, 0, 42]

/-- The first of them was taken. -/
def oneTaken : RawHost := (withQueued twoFrames).pollClient (peerAddr, ⟨⟨[], 0⟩, 0⟩)

/-- Both were taken. -/
def bothTaken : RawHost := oneTaken.pollClient (peerAddr, ⟨⟨[], 0⟩, 0⟩)

/-- The loop of a call for one client. -/
theorem checkPacketsOn_single {bytes : List UInt8}
    (single : s.clients = (∅ : UMap UInt64 Client).insert peerAddr ⟨⟨[], 0⟩, 0⟩)
    (queued : (s.stream 0).queue = bytes) :
    s.checkPacketsOn .waits .unixsocket E 0 0 =
      if ClientRecvBuffer.FindsNothing ⟨[], 0⟩ bytes then none
      else some (s.pollClient (peerAddr, ⟨⟨[], 0⟩, 0⟩)) := by
  have same : s.checkServer .unixsocket 0 0 = some s.toHost := by
    unfold Host.checkServer
    cases s.isServer <;> rfl
  rw [checkPacketsOn, same]
  show (E.entries s.clients).foldlM (pollClientOn .waits) s = _
  rw [single, Enumeration.entries_insert_empty, List.foldlM_cons, pollClientOn, queued]
  split <;> simp_all

theorem oneTaken_clients :
    oneTaken.clients = (∅ : UMap UInt64 Client).insert peerAddr ⟨⟨[], 0⟩, 0⟩ := by
  show (withQueued twoFrames).clients.insert peerAddr ⟨⟨[], 0⟩, 0⟩ = _
  rw [withQueued_clients, Finmap.insert_insert]

theorem run_bothTaken :
    (machineOn .waits .unixsocket E).run (withQueued twoFrames)
      [.checkPackets 0 0, .checkPackets 0 0] = some bothTaken := by
  have first : (withQueued twoFrames).checkPacketsOn .waits .unixsocket E 0 0 = some oneTaken :=
    checkPacketsOn_single (withQueued_clients _) rfl
  have second : oneTaken.checkPacketsOn .waits .unixsocket E 0 0 = some bothTaken :=
    checkPacketsOn_single oneTaken_clients rfl
  show ((withQueued twoFrames).checkPacketsOn .waits .unixsocket E 0 0).bind
    (fun t => (machineOn .waits .unixsocket E).run t [.checkPackets 0 0]) = _
  rw [first, Option.bind_some]
  exact Machine.run_singleton (M := machineOn .waits .unixsocket E) second

/-- Two calls take two packets. -/
theorem bothTaken_drained :
    bothTaken.deliveredTo 0 = [([], 0), ([42], 1)] ∧
      bothTaken.clients.lookup peerAddr = some ⟨⟨[], 0⟩, 0⟩ ∧ (bothTaken.stream 0).queue = [] := by
  let E : Enumeration UInt64 Client := .stored ..
  have found : (withQueued twoFrames).clients.lookup peerAddr = some ⟨⟨[], 0⟩, 0⟩ := rfl
  have rest : Missing ⟨[], 0⟩ [] := rfl
  have spared : (machineOn .waits .unixsocket E).Meets (Spares .unixsocket peerAddr 0)
      (withQueued twoFrames) [.checkPackets 0 0, .checkPackets 0 0] := by
    refine Machine.meets_of_forall (fun e he t => ?_) _
    have call : e = .checkPackets 0 0 := by simpa using he
    subst call
    exact fun _ => ⟨by decide, fun one => absurd one (by decide)⟩
  have queued : ((withQueued twoFrames).stream 0).queue =
      [] ++ frames (w := 4) [⟨[], by decide⟩, ⟨[42], by decide⟩] := rfl
  obtain ⟨passed, done, -⟩ :=
    run_drains (run_withQueued twoFrames) found rest queued run_bothTaken spared
  exact ⟨passed, done (by decide)⟩

/-- Where `STATUS_EXCEPT` cuts the call short, the packet is not passed on.  Where the packet
is empty and the system waits for bytes, the call does not return. -/
theorem not_every_call_drains :
    ((machine .unixsocket (.stored ..)).run (start .unixsocket .server)
          [.connect ⟨1, 2⟩, .checkPackets 1 0, .receive 0 [1, 0, 0, 0, 42]] =
        some (withQueued [1, 0, 0, 0, 42]) ∧
      (withQueued [1, 0, 0, 0, 42]).clients.lookup peerAddr = some ⟨⟨[], 0⟩, 0⟩ ∧
      ((withQueued [1, 0, 0, 0, 42]).stream 0).queue = frames (w := 4) [⟨[42], by decide⟩] ∧
      (machine .unixsocket (.stored ..)).run (withQueued [1, 0, 0, 0, 42])
          [.checkPackets Host.statusExcept 0] = some (withQueued [1, 0, 0, 0, 42]) ∧
      (withQueued [1, 0, 0, 0, 42]).deliveredTo 0 = []) ∧
    ((machine .unixsocket (.stored ..)).run (start .unixsocket .server)
          [.connect ⟨1, 2⟩, .checkPackets 1 0, .receive 0 [0, 0, 0, 0]] =
        some (withQueued [0, 0, 0, 0]) ∧
      (withQueued [0, 0, 0, 0]).clients.lookup peerAddr = some ⟨⟨[], 0⟩, 0⟩ ∧
      ((withQueued [0, 0, 0, 0]).stream 0).queue = frames (w := 4) [⟨[], by decide⟩] ∧
      (withQueued [0, 0, 0, 0]).checkPacketsOn .waits .unixsocket (.stored ..) 0 0 = none) := by
  refine ⟨⟨run_withQueued _, rfl, rfl, rfl, rfl⟩, run_withQueued _, rfl, rfl, ?_⟩
  exact checkPacketsOn_single (withQueued_clients _) rfl

end RawHost

end KhawasuPc
