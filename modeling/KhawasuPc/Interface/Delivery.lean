import KhawasuPc.Interface.Network

/-!
# From end to end

What `send_packet` is called with at one end of a connection and what `check_packets` passes on
at the other.  Whatever happens elsewhere in the network, nothing is passed on that was not
sent, nothing twice, and nothing out of order (`Network.run_delivers`).  And once all bytes have
arrived, enough calls of `check_packets` pass everything on (`Network.run_deliversAll`).

An empty packet can be passed on that nobody sent, where a size field is cut, so both are about
the packets that are not empty.
-/

namespace KhawasuPc

open Lib

namespace Network

variable {s t : Network} {backend : Backend} {dial : Nat → Dial} {E : Enumeration UInt64 Client}
  {way : Way} {addr : UInt64} {e : Event} {es fs : List Event}

/-! ## What is passed on -/

/-- What was passed on at the end of a line. -/
def passedOn (s : Network) (way : Way) : List (List UInt8 × UInt32) :=
  (s.node way.receiver).deliveredTo way.handle

/-- Where the event is a call of `send_packet` for the line, the system takes nothing after a
broken frame, and nothing of the packet before all of its size. -/
def Unbroken (way : Way) (s : Network) : Event → Prop
  | .send node addr attempt =>
      s.wayTo node addr = some way → Continues (s.line way).log attempt
  | _ => True

theorem step_onWire (wired : OnWire (s.line way).log) (unbroken : s.Unbroken way e)
    (h : s.step backend dial E e = some t) : OnWire (t.line way).log := by
  rw [step_line h way]
  cases e with
  | connect => exact wired
  | send node addr attempt =>
      rw [lineAfter]
      split
      next here => exact wired.snoc (unbroken here)
      next => exact wired
  | arrive other count =>
      rw [lineAfter]
      split <;> exact wired
  | checkPackets node status raw => exact wired

/-- In every run of the network, whatever happens on other lines and in whatever pieces bytes
arrive: as long as the system takes nothing after a broken frame on a line, the packets passed
on at its end are the first of those whose frames went out at its start, up to empty
packets. -/
theorem run_delivers (h : (machine backend dial E).run (start backend dial) es = some s)
    (unbroken : (machine backend dial E).Meets (Unbroken way) (start backend dial) es) :
    (s.passedOn way).filter nonEmpty <+:
      ((wentOut (s.line way).log).map asDelivered).filter nonEmpty := by
  have wired : OnWire (s.line way).log :=
    Machine.run_meets (M := machine backend dial E) (C := Unbroken way)
      (P := fun s => OnWire (s.line way).log)
      (fun _ _ _ hc ht hstep => step_onWire ht hc hstep) h unbroken .nil
  obtain ⟨conserves, -, done, ⟨more, arrived⟩, passed⟩ := run_conserves h way
  obtain ⟨rest, bytes, stops, -⟩ := wired
  have first : done <+: wentOut (s.line way).log := by
    refine frames_isPrefix stops (?_ : _ ++ (more ++ (s.line way).wire) = _)
    rw [← bytes, ← conserves, ← arrived, List.append_assoc]
  rw [passedOn, passed]
  exact (first.map asDelivered).filter nonEmpty

/-! ## Everything is passed on -/

/-- Nothing arrives at the end of the line, and a call of `check_packets` there goes on to its
loop and files no new client under the address. -/
def Quiet (backend : Backend) (dial : Nat → Dial) (way : Way) (addr : UInt64) (s : Network)
    (e : Event) : Prop :=
  ∀ ev ∈ s.label dial way.receiver e,
    RawHost.Spares backend addr way.handle (s.node way.receiver) ev

/-- The event is a call of `check_packets` of the interface. -/
def Event.checks (node : Node) : Event → Bool
  | .checkPackets other _ _ => other = node
  | _ => false

/-- The bytes of frames that went out whole. -/
theorem flatMap_bytes_of_whole {log : List Attempt}
    (whole : ∀ attempt ∈ log, attempt.bytes = attempt.packet.frame) :
    log.flatMap (·.bytes) = frames (log.map (·.packet)) := by
  rw [frames, List.flatMap_map]
  exact List.flatMap_congr whole

/-- An event is one event to an interface at most. -/
theorem label_length (dial : Nat → Dial) (node : Node) (s : Network) (e : Event) :
    s.label dial node e = [] ∨ ∃ ev, s.label dial node e = [ev] := by
  cases e with
  | send other addr attempt => exact Or.inl rfl
  | connect | arrive way count | checkPackets other status raw =>
      rw [label]
      split
      · exact Or.inr ⟨_, rfl⟩
      · exact Or.inl rfl

theorem Quiet.meets (h : s.Quiet backend dial way addr e) :
    (RawHost.machine backend E).Meets (RawHost.Spares backend addr way.handle)
      (s.node way.receiver) (s.label dial way.receiver e) := by
  rcases label_length dial way.receiver s e with none_here | ⟨ev, one⟩
  · rw [none_here]
    trivial
  · rw [one]
    exact ⟨h ev (one ▸ List.mem_singleton_self ev), fun _ _ => trivial⟩

theorem label_checks (dial : Nat → Dial) (node : Node) (s : Network) (e : Event) :
    (s.label dial node e).countP RawHost.Event.isCheck = [e].countP (Event.checks node) := by
  cases e with
  | send other addr attempt => rfl
  | connect | arrive way count =>
      rw [label]
      split <;> rfl
  | checkPackets other status raw =>
      rw [label]
      by_cases hn : other = node
      · rw [if_pos hn]
        simp [RawHost.Event.isCheck, Event.checks, hn]
      · rw [if_neg hn]
        simp [Event.checks, hn]

/-- In every run of the network: once all frames sent on a line went out whole and have
arrived, and the receiver has a client for the connection, then whatever else happens, as many
calls of `check_packets` as there were packets pass all of them on, up to empty packets.  A call
that `STATUS_EXCEPT` cuts short does not count, and none may replace the client. -/
theorem run_deliversAll (h : (machine backend dial E).run (start backend dial) es = some s)
    (whole : ∀ attempt ∈ (s.line way).log, attempt.bytes = attempt.packet.frame)
    (arrived : (s.line way).wire = [])
    (found : (s.node way.receiver).handleOf addr = some way.handle)
    (hrun : (machine backend dial E).run s fs = some t)
    (quiet : (machine backend dial E).Meets (Quiet backend dial way addr) s fs)
    (enough : (s.line way).log.length ≤ fs.countP (Event.checks way.receiver)) :
    (t.passedOn way).filter nonEmpty =
      (((s.line way).log.map (·.packet)).map asDelivered).filter nonEmpty := by
  obtain ⟨conserves, sound, -⟩ := run_conserves h way
  obtain ⟨⟨buffer, handle⟩, stored, same⟩ := Option.map_eq_some_iff.mp found
  cases same
  have accounted : Accounted buffer ((s.node way.receiver).arrived way.handle)
      (readFrom way.handle (s.node way.receiver).recvs)
      ((s.node way.receiver).stream way.handle).queue (s.passedOn way) :=
    sound.client addr _ stored
  obtain ⟨done, read, passed⟩ := accounted.frames
  have bytes : frames done ++ (buffer.taken ++ ((s.node way.receiver).stream way.handle).queue) =
      frames ((s.line way).log.map (·.packet)) := by
    rw [← flatMap_bytes_of_whole whole, ← conserves, arrived, List.append_nil, accounted.stream,
      read, List.append_assoc]
  obtain ⟨ms, split⟩ :=
    frames_isPrefix (stops_nil (by decide)) (bytes.trans (List.append_nil _).symm)
  have reads : buffer.Reads ((s.node way.receiver).stream way.handle).queue ms := by
    refine ⟨accounted.empty, accounted.short, ?_⟩
    rw [← split, frames_append] at bytes
    exact List.append_cancel_left bytes
  have before : (s.node way.receiver).Draining addr way.handle (s.passedOn way) ms :=
    ⟨rfl, buffer, stored, reads⟩
  have projected := ((ofNode backend dial E way.receiver).run hrun trivial).2
  have spared := (ofNode backend dial E way.receiver).meets
    (fun _ _ _ hq => Quiet.meets hq) trivial quiet
  have after := RawHost.run_draining before sound.apart projected spared
  have count : RawHost.checks ((ofNode backend dial E way.receiver).labels s fs) =
      fs.countP (Event.checks way.receiver) :=
    (ofNode backend dial E way.receiver).countP_labels (label_checks dial way.receiver) hrun
  have all : ms.length ≤ fs.countP (Event.checks way.receiver) := by
    refine Nat.le_trans ?_ enough
    have len := congrArg List.length split
    rw [List.length_append, List.length_map] at len
    omega
  rw [count, List.take_of_length_le all] at after
  have delivers : t.passedOn way = s.passedOn way ++ ms.map asDelivered := after.delivers
  rw [delivers, List.filter_append, passed, ← List.filter_append, ← List.map_append, split]

/-! ### One packet to the server -/

/-- All clients are constructed alike. -/
def oneDial (_ : Nat) : Dial := ⟨⟨1, 2⟩, .winsocket, ⟨3, 4⟩, 0⟩

/-- The address a client files its server under. -/
def dialed : UInt64 := addressU64 .winsocket 0 (Endpoint.sockaddr ⟨3, 4⟩)

/-- The address the server files the client under. -/
def peerAddr : UInt64 := addressU64 .unixsocket 0 (Endpoint.sockaddr ⟨1, 2⟩)

/-- A packet of one byte, taken whole. -/
def oneWhole : Attempt := ⟨SendingHost.oneByte 7, some 4, some 1⟩

/-- A client connects and sends a packet, which arrives before the server accepts the
connection. -/
def oneSent : List Event :=
  [.connect, .send (.client 0) dialed oneWhole, .arrive (.up 0) 5, .checkPackets .server 1 0]

/-- The client has sent the packet. -/
def oneWritten : Network :=
  ((start .unixsocket oneDial).setNode
    { RawHost.start .unixsocket .server with backlog := [⟨1, 2⟩] } .server).write oneWhole (.up 0)

/-- It has arrived. -/
def oneArrived : Network :=
  { oneWritten.setNode (oneWritten.server.receive 0 oneWhole.bytes) .server with
    line := Function.update oneWritten.line (.up 0) ((oneWritten.line (.up 0)).arrive 5) }

/-- The server has accepted the connection. -/
def oneAccepted (E : Enumeration UInt64 Client) : Network :=
  oneArrived.setNode (oneArrived.server.checkPackets .unixsocket E 1 0) .server

theorem run_oneSent : (machine .unixsocket oneDial E).run (start .unixsocket oneDial)
    oneSent = some (oneAccepted E) := rfl

theorem oneAccepted_found : ((oneAccepted E).node .server).handleOf peerAddr = some 0 := by
  have same := (Host.pollClients_same (E := E)
    (s := oneArrived.server.acceptClient .unixsocket 1 0)).1
  have polled : (oneAccepted E).server.toHost =
      (oneArrived.server.acceptClient .unixsocket 1 0).pollClients E :=
    RawHost.toHost_checkPackets ..
  show (oneAccepted E).server.handleOf peerAddr = some 0
  rw [polled, same]
  rfl

theorem oneSent_delivers :
    ((oneAccepted (.stored ..)).passedOn (.up 0)).filter nonEmpty <+:
      ((wentOut ((oneAccepted (.stored ..)).line (.up 0)).log).map asDelivered).filter
        nonEmpty := by
  refine run_delivers run_oneSent ?_
  refine ⟨trivial, fun s₁ h₁ => ⟨fun _ => ?_, fun s₂ _ => ⟨trivial, fun s₃ _ =>
    ⟨trivial, fun _ _ => trivial⟩⟩⟩⟩
  cases h₁
  decide

/-- One call of `check_packets` for one packet. -/
theorem oneSent_deliversAll : ∃ t,
    (machine .unixsocket oneDial (.stored ..)).run (oneAccepted (.stored ..))
        [.checkPackets .server 0 0] = some t ∧
      (t.passedOn (.up 0)).filter nonEmpty = [([7], 1)] := by
  have hcheck : (machine .unixsocket oneDial (.stored ..)).run (oneAccepted (.stored ..))
    [.checkPackets .server 0 0] = some _ := rfl
  refine ⟨_, hcheck, ?_⟩
  have quiet : (machine .unixsocket oneDial (.stored ..)).Meets
      (Quiet .unixsocket oneDial (.up 0) peerAddr) (oneAccepted (.stored ..))
        [.checkPackets .server 0 0] := by
    refine ⟨?_, fun _ _ => trivial⟩
    intro ev hev
    rw [List.mem_singleton.mp hev]
    exact fun _ => ⟨by decide, fun h => by cases h⟩
  have log : ((oneAccepted (.stored ..)).line (.up 0)).log = [oneWhole] := rfl
  have whole : ∀ attempt ∈ ((oneAccepted (.stored ..)).line (.up 0)).log,
      attempt.bytes = attempt.packet.frame := by
    rw [log]
    decide
  refine (run_deliversAll run_oneSent whole rfl oneAccepted_found hcheck quiet ?enough).trans ?same
  case enough => rw [log]; decide
  case same => rw [log]; decide

end Network

end KhawasuPc
