import KhawasuPc.Interface.MeshSocket
import Mathlib.Data.List.Sublists

/-!
# What the system accepts of a packet

`sendPacket` writes the size and the packet with two calls of `Send` and looks at
neither result.  The system takes any part of what it is given, or nothing.  A `SendingHost`
is a host that keeps, for each connection, the packets passed to `send_packet` with
what was taken of each.

As long as nothing is taken after a frame that was taken in part, the bytes on the
connection are the start of a row of frames (`SendingHost.run_framesOnly`).  Nothing in the
code sees to that.
-/

namespace KhawasuPc

open Lib

/-! ## One call -/

/-- What the system takes of a buffer: nothing where `Send` fails, and else as many bytes
as it says. -/
def taken (answer : Option Nat) (buffer : List UInt8) : List UInt8 :=
  match answer with
  | none => []
  | some count => buffer.take count

/-- A call of `send_packet`, with the answers of the system to its two writes. -/
structure Attempt where
  packet : Message 4
  sizeAnswer : Option Nat
  packetAnswer : Option Nat
deriving DecidableEq, Repr

namespace Attempt

variable (attempt : Attempt)

/-- What was taken of the size. -/
def sizeTaken : List UInt8 := taken attempt.sizeAnswer (leBytes 4 attempt.packet.bytes.length)

/-- What was taken of the packet. -/
def packetTaken : List UInt8 := taken attempt.packetAnswer attempt.packet.bytes

/-- The bytes that went out. -/
def bytes : List UInt8 := attempt.sizeTaken ++ attempt.packetTaken

/-- A part of the frame went out, and not all of it. -/
def Broken : Prop := attempt.bytes ≠ [] ∧ attempt.bytes ≠ attempt.packet.frame

/-- The packet was not taken where its size was not taken whole. -/
def SizeFirst : Prop :=
  attempt.sizeTaken ≠ leBytes 4 attempt.packet.bytes.length → attempt.packetTaken = []

instance : Decidable attempt.Broken := by
  unfold Broken
  infer_instance

instance : Decidable attempt.SizeFirst := by
  unfold SizeFirst
  infer_instance

end Attempt

/-- What goes out is what the system takes of the writes of the call. -/
theorem Attempt.bytes_eq (attempt : Attempt) :
    attempt.bytes = (List.zipWith taken [attempt.sizeAnswer, attempt.packetAnswer]
      (packetWrites attempt.packet)).flatten := by
  simp [Attempt.bytes, Attempt.sizeTaken, Attempt.packetTaken, packetWrites]

theorem taken_isPrefix (answer : Option Nat) (buffer : List UInt8) :
    taken answer buffer <+: buffer := by
  cases answer with
  | none => exact List.nil_prefix
  | some count => exact List.take_prefix count buffer

/-- What goes out size first is the start of the frame. -/
theorem Attempt.SizeFirst.isPrefix {attempt : Attempt} (h : attempt.SizeFirst) :
    attempt.bytes <+: attempt.packet.frame := by
  unfold Attempt.bytes Message.frame
  by_cases whole : attempt.sizeTaken = leBytes 4 attempt.packet.bytes.length
  · rw [whole]
    exact (List.prefix_append_right_inj _).mpr (taken_isPrefix ..)
  · rw [h whole, List.append_nil]
    exact (taken_isPrefix ..).trans (List.prefix_append ..)

/-! ## One connection -/

/-- The bytes on the connection are the start of a row of frames, of packets passed to
`send_packet` in that order. -/
def FramesOnly (log : List Attempt) : Prop :=
  ∃ packets, packets.Sublist (log.map (·.packet)) ∧ log.flatMap (·.bytes) <+: frames packets

/-- Nothing of a call goes out after a broken frame, and nothing of a packet before all of
its size. -/
def Continues (log : List Attempt) (attempt : Attempt) : Prop :=
  attempt.bytes ≠ [] → (∀ earlier ∈ log, ¬ earlier.Broken) ∧ attempt.SizeFirst

instance (log : List Attempt) (attempt : Attempt) : Decidable (Continues log attempt) := by
  unfold Continues
  infer_instance

/-- The bytes are the start of a row of frames, and end with one where none is broken. -/
structure InFrames (log : List Attempt) : Prop where
  start : FramesOnly log
  whole : (∀ attempt ∈ log, ¬ attempt.Broken) →
    ∃ packets, packets.Sublist (log.map (·.packet)) ∧ log.flatMap (·.bytes) = frames packets

namespace InFrames

variable {log : List Attempt} {attempt : Attempt}

theorem nil : InFrames [] where
  start := ⟨[], List.Sublist.refl _, List.prefix_refl _⟩
  whole _ := ⟨[], List.Sublist.refl _, rfl⟩

/-- One more call. -/
theorem snoc (h : InFrames log) (hc : Continues log attempt) : InFrames (log ++ [attempt]) := by
  have bytes : (log ++ [attempt]).flatMap (·.bytes) = log.flatMap (·.bytes) ++ attempt.bytes := by
    rw [List.flatMap_append, List.flatMap_singleton]
  have packets_eq : (log ++ [attempt]).map (·.packet) = log.map (·.packet) ++ [attempt.packet] :=
    List.map_append
  by_cases silent : attempt.bytes = []
  · rw [silent, List.append_nil] at bytes
    have more : ∀ {packets : List (Message 4)}, packets.Sublist (log.map (·.packet)) →
        packets.Sublist ((log ++ [attempt]).map (·.packet)) := by
      intro packets hs
      rw [packets_eq]
      exact hs.trans (List.sublist_append_left ..)
    constructor
    · obtain ⟨packets, hs, hp⟩ := h.start
      exact ⟨packets, more hs, by rw [bytes]; exact hp⟩
    · intro unbroken
      obtain ⟨packets, hs, heq⟩ := h.whole fun a ha => unbroken a (List.mem_append_left _ ha)
      exact ⟨packets, more hs, by rw [bytes]; exact heq⟩
  · obtain ⟨unbroken, first⟩ := hc silent
    obtain ⟨packets, hs, heq⟩ := h.whole unbroken
    have more : (packets ++ [attempt.packet]).Sublist ((log ++ [attempt]).map (·.packet)) := by
      rw [packets_eq]
      exact hs.append (List.Sublist.refl _)
    have frames_eq : frames (packets ++ [attempt.packet]) =
        frames packets ++ attempt.packet.frame := by
      rw [frames_append]
      simp [Message.frame]
    constructor
    · refine ⟨_, more, ?_⟩
      rw [bytes, heq, frames_eq]
      exact (List.prefix_append_right_inj _).mpr first.isPrefix
    · intro unbroken'
      refine ⟨_, more, ?_⟩
      have all : attempt.bytes = attempt.packet.frame := by
        by_contra partly
        exact unbroken' attempt (List.mem_append_right _ (List.mem_singleton_self _))
          ⟨silent, partly⟩
      rw [bytes, heq, frames_eq, all]

end InFrames

/-! ## Hosts -/

/-- A host with the calls of `send_packet` on each of its connections. -/
structure SendingHost extends Host where
  log : Nat → List Attempt

namespace SendingHost

/-- `MeshSocketInterface::MeshSocketInterface`. -/
def start (backend : Backend) (role : Role) : SendingHost where
  toHost := .start backend role
  log _ := []

/-- Something that happens to a host that sends. -/
inductive Event where
  | host (e : Host.Event)
  /-- `send_packet` is called; the system answers its two writes. -/
  | sendPacket (addr : UInt64) (packet : Message 4) (sizeAnswer packetAnswer : Option Nat)
deriving DecidableEq, Repr

variable (s : SendingHost)

/-- `MeshSocketInterface::send_packet`. -/
def sendPacket (addr : UInt64) (attempt : Attempt) : SendingHost :=
  match s.clients.lookup addr with
  | none => s
  | some client =>
      { s with log := Function.update s.log client.handle (s.log client.handle ++ [attempt]) }

/-- What an event does. -/
def step (backend : Backend) (E : Enumeration UInt64 Client) : Event → Option SendingHost
  | .host e => (s.toHost.step backend E e).map fun t => { s with toHost := t }
  | .sendPacket addr packet sizeAnswer packetAnswer =>
      some (s.sendPacket addr ⟨packet, sizeAnswer, packetAnswer⟩)

/-- The machine of a host that sends. -/
def machine (backend : Backend) (E : Enumeration UInt64 Client) : Lib.Machine SendingHost Event :=
  ⟨fun s e => s.step backend E e⟩

/-- Where the event is a call, the system takes nothing after a broken frame, and nothing
of the packet before all of its size. -/
def Unbroken : Event → Prop
  | .host _ => True
  | .sendPacket addr packet sizeAnswer packetAnswer =>
      ∀ client, s.clients.lookup addr = some client →
        Continues (s.log client.handle) ⟨packet, sizeAnswer, packetAnswer⟩

variable {s} {t : SendingHost} {backend : Backend} {E : Enumeration UInt64 Client} {es : List Event}

theorem step_inFrames {e : Event} (h : ∀ handle, InFrames (s.log handle)) (hc : s.Unbroken e)
    (hstep : s.step backend E e = some t) (handle : Nat) : InFrames (t.log handle) := by
  cases e with
  | host e =>
      obtain ⟨w, -, rfl⟩ := Option.map_eq_some_iff.mp hstep
      exact h handle
  | sendPacket addr packet sizeAnswer packetAnswer =>
      cases hstep
      unfold sendPacket
      cases found : s.clients.lookup addr with
      | none => exact h handle
      | some client =>
          dsimp only
          by_cases hh : handle = client.handle
          · subst hh
            rw [Function.update_self]
            exact (h client.handle).snoc (hc client found)
          · rw [Function.update_of_ne hh]
            exact h handle

/-- Where the system takes nothing after a broken frame, the bytes on every connection are
the start of a row of frames. -/
theorem run_framesOnly (role : Role)
    (h : (machine backend E).run (start backend role) es = some s)
    (unbroken : (machine backend E).Meets Unbroken (start backend role) es) (handle : Nat) :
    FramesOnly (s.log handle) :=
  have inFrames : ∀ handle, InFrames (s.log handle) :=
    Machine.run_meets (M := machine backend E) (C := Unbroken)
      (P := fun s => ∀ handle, InFrames (s.log handle))
      (fun _ _ _ hc ht hstep => step_inFrames ht hc hstep) h unbroken fun _ => .nil
  (inFrames handle).start

/-- The address of the server the client is connected to. -/
def serverAddr : UInt64 := addressU64 .winsocket 0 (Endpoint.sockaddr ⟨1, 2⟩)

/-- A packet of one byte. -/
def oneByte (byte : UInt8) : Message 4 where
  bytes := [byte]
  fits := (by decide : 1 < 256 ^ 4)

/-- A packet that is sent, and one whose size is taken in part. -/
def shortLast : List Event :=
  [.sendPacket serverAddr (oneByte 7) (some 4) (some 1),
    .sendPacket serverAddr (oneByte 8) (some 2) none]

theorem shortLast_framesOnly :
    ∃ s, (machine .winsocket (.stored ..)).run (start .winsocket (.client ⟨1, 2⟩ 0)) shortLast =
      some s ∧ FramesOnly (s.log 0) := by
  have unbroken : (machine .winsocket (.stored ..)).Meets Unbroken
      (start .winsocket (.client ⟨1, 2⟩ 0)) shortLast := by
    refine ⟨?first, fun t ht => ⟨?second, fun _ _ => trivial⟩⟩
    case first =>
      intro client found
      cases found
      decide
    case second =>
      cases ht
      intro client found
      cases found
      decide
  exact ⟨_, rfl, run_framesOnly (.client ⟨1, 2⟩ 0) rfl unbroken 0⟩

/-- A packet of which only the size is taken, and one that is taken whole. -/
def sizeThenNext : List Event :=
  [.sendPacket serverAddr (oneByte 7) (some 4) none,
    .sendPacket serverAddr (oneByte 8) (some 4) (some 1)]

/-- The second frame goes on where the first was left. -/
theorem sizeThenNext_broken :
    ∃ s, (machine .winsocket (.stored ..)).run (start .winsocket (.client ⟨1, 2⟩ 0))
        sizeThenNext = some s ∧ ¬ FramesOnly (s.log 0) := by
  refine ⟨_, rfl, ?_⟩
  rintro ⟨packets, passed, start⟩
  have none_fits : ∀ packets ∈ List.sublists [oneByte 7, oneByte 8],
      ¬ [1, 0, 0, 0, 1, 0, 0, 0, 8] <+: frames packets := by decide
  exact none_fits packets (List.mem_sublists.mpr passed) start

end SendingHost

end KhawasuPc
