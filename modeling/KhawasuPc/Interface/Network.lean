import KhawasuPc.Interface.Draining
import KhawasuPc.Interface.Sending

/-!
# A network of interfaces

A server interface and the client interfaces that connect to it, as one system.  What
`send_packet` writes at one end is on the wire as far as the system takes it, until it arrives
at the other end, in pieces of any length.  `checkPackets` is called at any end at any time.

`ofNode` says that a run of the network is a run of each of its interfaces, and
`run_conserves` that no byte gets lost between them.
-/

namespace KhawasuPc

open Lib

/-! ## Lines -/

/-- One direction of a connection. -/
structure Line where
  /-- The calls of `send_packet` that write to it. -/
  log : List Attempt
  /-- Bytes the system has taken that have not arrived. -/
  wire : List UInt8
deriving DecidableEq, Repr

namespace Line

variable (line : Line)

/-- A call of `send_packet`. -/
def write (attempt : Attempt) : Line :=
  ⟨line.log ++ [attempt], line.wire ++ attempt.bytes⟩

/-- The next `count` bytes arrive. -/
def arrive (count : Nat) : Line := { line with wire := line.wire.drop count }

end Line

/-- The packets whose frames went out whole. -/
def wentOut (log : List Attempt) : List (Message 4) :=
  (log.filter fun attempt => attempt.bytes = attempt.packet.frame).map (·.packet)

theorem wentOut_append (log log' : List Attempt) :
    wentOut (log ++ log') = wentOut log ++ wentOut log' := by
  rw [wentOut, List.filter_append, List.map_append]
  rfl

/-- The bytes are the frames that went out whole, and the start of one that did not. -/
def OnWire (log : List Attempt) : Prop :=
  ∃ rest, log.flatMap (·.bytes) = frames (wentOut log) ++ rest ∧ Stops 4 rest ∧
    ((∀ attempt ∈ log, ¬ attempt.Broken) → rest = [])

namespace OnWire

variable {log : List Attempt} {attempt : Attempt}

theorem nil : OnWire [] := ⟨[], rfl, stops_nil (by decide), fun _ => rfl⟩

/-- One more call, of which nothing goes out after a broken frame. -/
theorem snoc (h : OnWire log) (hc : Continues log attempt) : OnWire (log ++ [attempt]) := by
  obtain ⟨rest, bytes_eq, stops, whole⟩ := h
  have bytes : (log ++ [attempt]).flatMap (·.bytes) =
      frames (wentOut log) ++ rest ++ attempt.bytes := by
    rw [List.flatMap_append, List.flatMap_singleton, bytes_eq]
  have one : wentOut [attempt] =
      if attempt.bytes = attempt.packet.frame then [attempt.packet] else [] := by
    by_cases all : attempt.bytes = attempt.packet.frame <;> simp [wentOut, all]
  by_cases all : attempt.bytes = attempt.packet.frame
  · have silent : attempt.bytes ≠ [] := by
      intro none_out
      have hlen := congrArg List.length (all.symm.trans none_out)
      rw [length_frame, List.length_nil] at hlen
      omega
    have unbroken := (hc silent).1
    refine ⟨[], ?_, stops_nil (by decide), fun _ => rfl⟩
    rw [bytes, whole unbroken, wentOut_append, one, if_pos all, frames_append, all]
    simp [frames]
  · by_cases silent : attempt.bytes = []
    · refine ⟨rest, ?_, stops, fun unbroken => whole fun a ha => ?_⟩
      · rw [bytes, wentOut_append, one, if_neg all, silent]
        simp
      · exact unbroken a (List.mem_append_left _ ha)
    · obtain ⟨unbroken, first⟩ := hc silent
      refine ⟨attempt.bytes, ?_, ⟨attempt.packet, first.isPrefix, all⟩, fun unbroken' => ?_⟩
      · rw [bytes, wentOut_append, one, if_neg all, whole unbroken]
        simp
      · exact absurd ⟨silent, all⟩
          (unbroken' attempt (List.mem_append_right _ (List.mem_singleton_self _)))

end OnWire

/-! ## What was passed on of any connection -/

namespace RawHost

variable {s t : RawHost} {backend : Backend} {E : Enumeration UInt64 Client} {handle : Nat}
  {e : UInt64 × Client}

/-- The bytes that arrive on a connection. -/
def arrives (handle : Nat) : Event → List UInt8
  | .receive other bytes => if other = handle then bytes else []
  | _ => []

theorem pollClients_arrived : (s.pollClients E).arrived = s.arrived := by
  have loop : ∀ (l : List (UInt64 × Client)) (t : RawHost),
      (l.foldl pollClient t).arrived = t.arrived := by
    intro l
    induction l with
    | nil => exact fun _ => rfl
    | cons e l ih => exact fun t => ih (t.pollClient e)
  exact loop _ s

theorem checkPackets_arrived (status : Int) (raw : UInt64) :
    (s.checkPackets backend E status raw).arrived = s.arrived := by
  unfold checkPackets
  split
  · rfl
  · exact pollClients_arrived

/-- What arrives on a connection is what the events say. -/
theorem step_arrived {ev : Event} (h : s.step backend E ev = some t) :
    t.arrived handle = s.arrived handle ++ arrives handle ev := by
  cases ev with
  | connect peer =>
      simp only [step, Option.ite_none_right_eq_some] at h
      cases h.2
      exact (List.append_nil _).symm
  | receive other bytes =>
      simp only [step, Option.ite_none_right_eq_some] at h
      cases h.2
      show Function.update s.arrived other (s.arrived other ++ bytes) handle = _
      rw [arrives]
      by_cases hh : other = handle
      · rw [if_pos hh, hh, Function.update_self]
      · rw [if_neg hh, List.append_nil, Function.update_of_ne (Ne.symm hh)]
  | checkPackets status raw =>
      cases h
      rw [checkPackets_arrived]
      exact (List.append_nil _).symm

theorem run_arrived {es : List Event} (h : (machine backend E).run s es = some t) :
    t.arrived handle = s.arrived handle ++ es.flatMap (arrives handle) := by
  refine Machine.run_history (M := machine backend E)
    (P := fun es t => t.arrived handle = s.arrived handle ++ es.flatMap (arrives handle)) ?_ ?_ h
  · exact (List.append_nil _).symm
  · intro es t e w _ ih hstep
    rw [step_arrived hstep, ih, List.flatMap_append, List.flatMap_singleton, List.append_assoc]

/-- What was passed on of a connection are frames that arrived on it, up to empty packets. -/
def PassedOn (s : RawHost) (handle : Nat) : Prop :=
  ∃ done : List (Message 4), frames done <+: s.arrived handle ∧
    (s.deliveredTo handle).filter nonEmpty = (done.map asDelivered).filter nonEmpty

theorem PassedOn.of_accounted {buffer : ClientRecvBuffer} {arrived read queue : List UInt8}
    {delivered : List (List UInt8 × UInt32)}
    (h : Accounted buffer arrived read queue delivered) :
    ∃ done : List (Message 4), frames done <+: arrived ∧
      delivered.filter nonEmpty = (done.map asDelivered).filter nonEmpty := by
  obtain ⟨done, hread, hdone⟩ := h.frames
  refine ⟨done, ?_, hdone⟩
  rw [h.stream, hread, List.append_assoc]
  exact List.prefix_append ..

theorem PassedOn.congr (h : s.PassedOn handle) (arrived : s.arrived handle <+: t.arrived handle)
    (delivered : t.deliveredTo handle = s.deliveredTo handle) : t.PassedOn handle := by
  obtain ⟨done, hframes, hdone⟩ := h
  refine ⟨done, hframes.trans arrived, ?_⟩
  rw [delivered, hdone]

/-- A round of the loop, on the connection of the client or on another. -/
theorem PassedOn.pollClient (h : s.PassedOn handle) (sound : s.Sound)
    (found : s.clients.lookup e.1 = some e.2) : (s.pollClient e).PassedOn handle := by
  by_cases hh : e.2.handle = handle
  · subst hh
    have after := sound.pollClient found
    have here : (s.pollClient e).clients.lookup e.1 = some
        { e.2 with buffer := (e.2.buffer.poll (s.stream e.2.handle).queue).buffer } :=
      Finmap.lookup_insert ..
    have accounted := after.client _ _ here
    exact .of_accounted accounted
  · exact h.congr (List.prefix_refl _) (Host.pollClient_deliveredTo_ne hh)

/-- A connection that is accepted had nothing passed on, and has not. -/
theorem PassedOn.accepts {raw : UInt64} {t : Host} (h : s.PassedOn handle)
    (ha : Host.Accepts backend raw s.toHost t) : PassedOn { s with toHost := t } handle := by
  refine h.congr (List.prefix_refl _) ?_
  cases ha with
  | idle => rfl
  | client peer waiting accepted_eq clients_eq stream_eq delivered_eq =>
      exact congrArg (fun ds : List Delivery => (ds.filter (·.handle = handle)).map
        fun d => (d.packet, d.size)) delivered_eq

/-- Every event keeps it, also for a connection whose client was replaced. -/
theorem PassedOn.step {ev : Event} (h : s.PassedOn handle) (sound : s.Sound)
    (hstep : s.step backend E ev = some t) : t.PassedOn handle := by
  have arrived : s.arrived handle <+: t.arrived handle := by
    rw [step_arrived hstep]
    exact List.prefix_append ..
  cases ev with
  | connect peer =>
      simp only [RawHost.step, Option.ite_none_right_eq_some] at hstep
      cases hstep.2
      exact h.congr arrived rfl
  | receive other bytes =>
      simp only [RawHost.step, Option.ite_none_right_eq_some] at hstep
      cases hstep.2
      exact h.congr arrived rfl
  | checkPackets status raw =>
      cases hstep
      unfold checkPackets
      split
      next => exact h
      next u go =>
        have ha := Host.checkServer_accepts go
        have both : Sound (pollClients { s with toHost := u } E) ∧
            PassedOn (pollClients { s with toHost := u } E) handle :=
          Enumeration.foldl_induction (T := fun s : RawHost => s.clients)
            (f := RawHost.pollClient) (P := fun _ t => t.Sound ∧ t.PassedOn handle)
            (fun _ _ _ hne => Finmap.lookup_insert_of_ne _ hne)
            ⟨sound.accepts ha, h.accepts ha⟩
            fun _ _ _ ht found _ => ⟨ht.1.pollClient found, ht.2.pollClient ht.1 found⟩
        exact both.2

theorem start_passedOn (backend : Backend) (role : Role) (handle : Nat) :
    (start backend role).PassedOn handle := by
  cases role <;> exact ⟨[], List.nil_prefix, rfl⟩

end RawHost

/-! ## Networks -/

/-- How a client interface is constructed. -/
structure Dial where
  /-- Its end of the connection. -/
  peer : Endpoint
  backend : Backend
  server : Endpoint
  /-- What `AddressU64` finds in its variable. -/
  raw : UInt64
deriving DecidableEq, Repr

/-- An interface. -/
inductive Node where
  | server
  /-- The one that made this connection. -/
  | client (connection : Nat)
deriving DecidableEq, Repr

/-- A direction of a connection. -/
inductive Way where
  /-- To the server. -/
  | up (connection : Nat)
  | down (connection : Nat)
deriving DecidableEq, Repr

namespace Way

/-- The interface that receives. -/
def receiver : Way → Node
  | .up _ => .server
  | .down connection => .client connection

/-- The handle of the connection there.  A client has one connection. -/
def handle : Way → Nat
  | .up connection => connection
  | .down _ => 0

def connection : Way → Nat
  | .up connection => connection
  | .down connection => connection

/-- Receiver and handle tell the ways apart. -/
theorem ext {way way' : Way} (receiver : way.receiver = way'.receiver)
    (handle : way.handle = way'.handle) : way = way' := by
  cases way <;> cases way' <;> cases receiver
  · exact congrArg Way.up handle
  · rfl

end Way

/-- The way that starts at a connection of an interface. -/
def Node.way (handle : Nat) : Node → Way
  | .server => .down handle
  | .client connection => .up connection

/-- A server interface, the client interfaces, by connection, and what is between them. -/
structure Network where
  server : RawHost
  client : Nat → RawHost
  line : Way → Line

namespace Network

/-- Nothing is connected.  The client interfaces will be constructed as `dial` says. -/
def start (backend : Backend) (dial : Nat → Dial) : Network where
  server := .start backend .server
  client connection := .start (dial connection).backend
    (.client (dial connection).server (dial connection).raw)
  line _ := ⟨[], []⟩

variable (s : Network)

/-- The connections made. -/
def connections : Nat := s.server.accepted.length + s.server.backlog.length

def node : Node → RawHost
  | .server => s.server
  | .client connection => s.client connection

def setNode (host : RawHost) : Node → Network
  | .server => { s with server := host }
  | .client connection => { s with client := Function.update s.client connection host }

/-- The interface is there. -/
def Built : Node → Prop
  | .server => True
  | .client connection => connection < s.connections

instance (node : Node) : Decidable (s.Built node) := by
  cases node <;> unfold Built <;> infer_instance

/-- The way `send_packet` writes to for an address, if it writes at all. -/
def wayTo (node : Node) (addr : UInt64) : Option Way :=
  ((s.node node).handleOf addr).map fun handle => node.way handle

def write (attempt : Attempt) (way : Way) : Network :=
  { s with line := Function.update s.line way ((s.line way).write attempt) }

/-- `MeshSocketInterface::send_packet`. -/
def send (node : Node) (addr : UInt64) (attempt : Attempt) : Network :=
  match s.wayTo node addr with
  | none => s
  | some way => s.write attempt way

/-- Something that happens in the network. -/
inductive Event where
  /-- The next client interface is constructed. -/
  | connect
  /-- `send_packet` is called. -/
  | send (node : Node) (addr : UInt64) (attempt : Attempt)
  /-- The next bytes on a wire arrive. -/
  | arrive (way : Way) (count : Nat)
  /-- `check_packets` is called. -/
  | checkPackets (node : Node) (status : Int) (raw : UInt64)
deriving DecidableEq, Repr

/-- What an event does. -/
def step (backend : Backend) (dial : Nat → Dial) (E : Enumeration UInt64 Client) :
    Event → Option Network
  | .connect =>
      (s.server.step backend E (.connect (dial s.connections).peer)).map (s.setNode · .server)
  | .send node addr attempt => if s.Built node then some (s.send node addr attempt) else none
  | .arrive way count =>
      if s.Built (.client way.connection) then
        ((s.node way.receiver).step backend E
          (.receive way.handle ((s.line way).wire.take count))).map fun host =>
            { s.setNode host way.receiver with
              line := Function.update s.line way ((s.line way).arrive count) }
      else none
  | .checkPackets node status raw =>
      if s.Built node then
        ((s.node node).step backend E (.checkPackets status raw)).map (s.setNode · node)
      else none

/-- The machine of a network. -/
def machine (backend : Backend) (dial : Nat → Dial) (E : Enumeration UInt64 Client) :
    Lib.Machine Network Event :=
  ⟨fun s e => s.step backend dial E e⟩

variable {s} {t : Network} {backend : Backend} {dial : Nat → Dial}
  {E : Enumeration UInt64 Client} {node : Node} {way : Way} {e : Event} {es fs : List Event}

@[simp] theorem setNode_node_self (host : RawHost) : (s.setNode host node).node node = host := by
  cases node with
  | server => rfl
  | client connection => exact Function.update_self ..

theorem setNode_node_ne {other : Node} (host : RawHost) (hne : node ≠ other) :
    (s.setNode host other).node node = s.node node := by
  cases other with
  | server =>
      cases node with
      | server => exact absurd rfl hne
      | client connection => rfl
  | client connection =>
      cases node with
      | server => rfl
      | client connection' =>
          refine Function.update_of_ne ?_ ..
          rintro rfl
          exact hne rfl

@[simp] theorem setNode_line (host : RawHost) : (s.setNode host node).line = s.line := by
  cases node <;> rfl

@[simp] theorem write_node (attempt : Attempt) (way : Way) :
    (s.write attempt way).node = s.node := by
  funext node
  cases node <;> rfl

@[simp] theorem send_node (node : Node) (addr : UInt64) (attempt : Attempt) :
    (s.send node addr attempt).node = s.node := by
  unfold send
  split
  · rfl
  · exact write_node ..

/-- A call of `send_packet` changes the line it writes to. -/
theorem send_line (node : Node) (addr : UInt64) (attempt : Attempt) (way : Way) :
    (s.send node addr attempt).line way =
      if s.wayTo node addr = some way then (s.line way).write attempt else s.line way := by
  unfold send
  cases found : s.wayTo node addr with
  | none => rfl
  | some other =>
      by_cases hw : other = way
      · rw [hw, if_pos rfl]
        exact Function.update_self ..
      · rw [if_neg fun h => hw (Option.some.inj h)]
        exact Function.update_of_ne (Ne.symm hw) ..

/-! ## Interfaces -/

/-- What an event is to an interface. -/
def label (dial : Nat → Dial) (node : Node) (s : Network) : Event → List RawHost.Event
  | .connect => if node = .server then [.connect (dial s.connections).peer] else []
  | .send .. => []
  | .arrive way count =>
      if way.receiver = node then [.receive way.handle ((s.line way).wire.take count)] else []
  | .checkPackets other status raw => if other = node then [.checkPackets status raw] else []

/-- A step of the network is a step of one interface at most. -/
theorem step_label (h : s.step backend dial E e = some t) (node : Node) :
    (RawHost.machine backend E).run (s.node node) (s.label dial node e) = some (t.node node) := by
  have one : ∀ {host host' : RawHost} {ev : RawHost.Event},
      host.step backend E ev = some host' →
        (RawHost.machine backend E).run host [ev] = some host' :=
    Machine.run_singleton (M := RawHost.machine backend E)
  cases e with
  | connect =>
      obtain ⟨host, hstep, rfl⟩ := Option.map_eq_some_iff.mp h
      rw [label]
      by_cases hn : node = .server
      · subst hn
        rw [if_pos rfl, setNode_node_self]
        exact one hstep
      · rw [if_neg hn, setNode_node_ne _ hn]
        rfl
  | send other addr attempt =>
      simp only [step, Option.ite_none_right_eq_some] at h
      cases h.2
      rw [send_node]
      rfl
  | arrive way count =>
      simp only [step, Option.ite_none_right_eq_some] at h
      obtain ⟨host, hstep, rfl⟩ := Option.map_eq_some_iff.mp h.2
      show (RawHost.machine backend E).run (s.node node) (s.label dial node (.arrive way count)) =
        some ((s.setNode host way.receiver).node node)
      rw [label]
      by_cases hn : way.receiver = node
      · subst hn
        rw [if_pos rfl, setNode_node_self]
        exact one hstep
      · rw [if_neg hn, setNode_node_ne _ (Ne.symm hn)]
        rfl
  | checkPackets other status raw =>
      simp only [step, Option.ite_none_right_eq_some] at h
      obtain ⟨host, hstep, rfl⟩ := Option.map_eq_some_iff.mp h.2
      rw [label]
      by_cases hn : other = node
      · subst hn
        rw [if_pos rfl, setNode_node_self]
        exact one hstep
      · rw [if_neg hn, setNode_node_ne _ (Ne.symm hn)]
        rfl

/-- A run of the network is a run of each interface. -/
def ofNode (backend : Backend) (dial : Nat → Dial) (E : Enumeration UInt64 Client) (node : Node) :
    Simulation (machine backend dial E) (RawHost.machine backend E) where
  inv _ := True
  abs s := s.node node
  label s e := s.label dial node e
  keep _ _ _ _ _ := trivial
  sim _ _ _ _ h := step_label h node

/-! ## Lines -/

/-- A line after an event. -/
def lineAfter (way : Way) (s : Network) : Event → Line
  | .connect => s.line way
  | .send node addr attempt =>
      if s.wayTo node addr = some way then (s.line way).write attempt else s.line way
  | .arrive other count => if other = way then (s.line way).arrive count else s.line way
  | .checkPackets .. => s.line way

theorem step_line (h : s.step backend dial E e = some t) (way : Way) :
    t.line way = s.lineAfter way e := by
  cases e with
  | connect =>
      obtain ⟨host, -, rfl⟩ := Option.map_eq_some_iff.mp h
      rw [setNode_line, lineAfter]
  | send node addr attempt =>
      simp only [step, Option.ite_none_right_eq_some] at h
      cases h.2
      rw [send_line, lineAfter]
  | arrive other count =>
      simp only [step, Option.ite_none_right_eq_some] at h
      obtain ⟨host, -, rfl⟩ := Option.map_eq_some_iff.mp h.2
      show Function.update s.line other ((s.line other).arrive count) way = _
      rw [lineAfter]
      by_cases hw : other = way
      · rw [if_pos hw, hw, Function.update_self]
      · rw [if_neg hw, Function.update_of_ne (Ne.symm hw)]
  | checkPackets node status raw =>
      simp only [step, Option.ite_none_right_eq_some] at h
      obtain ⟨host, -, rfl⟩ := Option.map_eq_some_iff.mp h.2
      rw [setNode_line, lineAfter]

/-- The bytes an event brings to the end of a line. -/
def brings (way : Way) (s : Network) : Event → List UInt8
  | .connect | .send .. | .checkPackets .. => []
  | .arrive other count => if other = way then (s.line way).wire.take count else []

theorem label_arrives (dial : Nat → Dial) (way : Way) (s : Network) (e : Event) :
    (s.label dial way.receiver e).flatMap (RawHost.arrives way.handle) = s.brings way e := by
  cases e with
  | connect =>
      rw [label, brings]
      split <;> rfl
  | send node addr attempt => rfl
  | arrive other count =>
      rw [label, brings]
      by_cases hw : other = way
      · subst hw
        rw [if_pos rfl, if_pos rfl, List.flatMap_singleton, RawHost.arrives, if_pos rfl]
      · rw [if_neg hw]
        by_cases hr : other.receiver = way.receiver
        · rw [if_pos hr, List.flatMap_singleton, RawHost.arrives,
            if_neg fun hh => hw (Way.ext hr hh)]
        · rw [if_neg hr]
          rfl
  | checkPackets node status raw =>
      rw [label, brings]
      split <;> rfl

/-- What arrived and what is on the wire is what the system took. -/
def Conserves (s : Network) (way : Way) : Prop :=
  (s.node way.receiver).arrived way.handle ++ (s.line way).wire =
    (s.line way).log.flatMap (·.bytes)

theorem Conserves.step (hc : s.Conserves way) (h : s.step backend dial E e = some t) :
    t.Conserves way := by
  have arrived : (t.node way.receiver).arrived way.handle =
      (s.node way.receiver).arrived way.handle ++
        (s.label dial way.receiver e).flatMap (RawHost.arrives way.handle) :=
    RawHost.run_arrived (step_label h way.receiver)
  rw [label_arrives] at arrived
  unfold Conserves at hc ⊢
  rw [arrived, step_line h way]
  cases e with
  | connect => rwa [brings, List.append_nil, lineAfter]
  | send node addr attempt =>
      rw [brings, List.append_nil, lineAfter]
      split
      · show _ ++ ((s.line way).wire ++ attempt.bytes) =
          ((s.line way).log ++ [attempt]).flatMap (·.bytes)
        rw [← List.append_assoc, hc, List.flatMap_append, List.flatMap_singleton]
      · exact hc
  | arrive other count =>
      rw [brings, lineAfter]
      split
      · show _ ++ (s.line way).wire.take count ++ (s.line way).wire.drop count = _
        rw [List.append_assoc, List.take_append_drop]
        exact hc
      · rwa [List.append_nil]
  | checkPackets node status raw => rwa [brings, List.append_nil, lineAfter]

theorem start_node (backend : Backend) (dial : Nat → Dial) (node : Node) :
    ∃ backend' role, (start backend dial).node node = RawHost.start backend' role := by
  cases node with
  | server => exact ⟨backend, .server, rfl⟩
  | client connection => exact ⟨_, _, rfl⟩

/-- In every run no byte is lost, and at every end the bytes are accounted for. -/
theorem run_conserves (h : (machine backend dial E).run (start backend dial) es = some s)
    (way : Way) :
    s.Conserves way ∧ (s.node way.receiver).Sound ∧
      (s.node way.receiver).PassedOn way.handle := by
  have conserves : s.Conserves way := by
    refine Machine.run_invariant (M := machine backend dial E) (P := fun s => s.Conserves way)
      (fun _ _ _ hc hstep => hc.step hstep) h ?_
    obtain ⟨backend', role, started⟩ := start_node backend dial way.receiver
    show ((start backend dial).node way.receiver).arrived way.handle ++ [] = []
    rw [started]
    rfl
  refine ⟨conserves, ?_⟩
  obtain ⟨backend', role, started⟩ := start_node backend dial way.receiver
  have projected := ((ofNode backend dial E way.receiver).run h trivial).2
  have hstart : (ofNode backend dial E way.receiver).abs (start backend dial) =
      RawHost.start backend' role := started
  rw [hstart] at projected
  exact Machine.run_invariant (M := RawHost.machine backend E)
    (P := fun s => s.Sound ∧ s.PassedOn way.handle)
    (fun _ _ _ ht hstep => ⟨ht.1.step hstep, ht.2.step ht.1 hstep⟩) projected
    ⟨RawHost.start_sound role, RawHost.start_passedOn ..⟩

end Network

end KhawasuPc
