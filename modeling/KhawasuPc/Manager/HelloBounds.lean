import KhawasuPc.Device.Hello
import KhawasuPc.Manager.Bounds

/-!
# What a HELLO is read for

A HELLO says itself how long it is: the length of the name, how many attribute and
action records follow, and in each record the lengths of its parts.  Nothing on the
way compares them with the bytes received.  `attribRecords` and `actionRecords` are
the records these numbers lay claim to, and `HelloFits` says that all of them are in
the packet.  That is exactly when the reader stays inside
(`handlePacket_inside_iff`).
-/

namespace KhawasuPc

open Lib

variable {H : HelloLayout} {L : PacketLayout} {mem : Memory} {n : Nat}

/-! ## The records a packet lays claim to -/

/-- The attribute records from `cursor` on, `n` of them. -/
def attribRecords (H : HelloLayout) (mem : Memory) : Nat → Nat → List Span
  | 0, _ => []
  | n + 1, cursor =>
      ⟨cursor, H.keyLen + H.valueLen + attribKeyLen H mem cursor +
        attribValueLen H mem cursor⟩ :: attribRecords H mem n (attribNext H mem cursor)

/-- The action records from `cursor` on, at most `n` of them.  A record with an empty
name is the last one met, and only its length counts. -/
def actionRecords (H : HelloLayout) (mem : Memory) : Nat → Nat → List Span
  | 0, _ => []
  | n + 1, cursor =>
      let nameLength := actionNameLength H mem cursor
      if nameLength = 0 then [⟨cursor, H.nameLength⟩]
      else
        ⟨cursor, H.nameLength + H.type + nameLength⟩ ::
          actionRecords H mem n (cursor + H.nameLength + H.type + nameLength)

/-- The members of a HELLO, its name and all the records it lays claim to end within
the received bytes. -/
structure HelloFits (L : PacketLayout) (log : LogicalPacket) (size : Nat) : Prop where
  type : (log.span L.type 1).Inside size
  srcAddr : (log.span L.srcAddr 2).Inside size
  deviceClass : (L.hello.deviceClass.span (LogDeviceInfo.helloBase L log)).Inside size
  nameLen : (L.hello.nameLen.span (LogDeviceInfo.helloBase L log)).Inside size
  attribCount : (L.hello.specialAttribCount.span (LogDeviceInfo.helloBase L log)).Inside size
  actionCount : (L.hello.actionCount.span (LogDeviceInfo.helloBase L log)).Inside size
  name : (Span.mk (LogDeviceInfo.helloBase L log + L.hello.name)
    (L.hello.nameLen.read log.mem (LogDeviceInfo.helloBase L log))).Inside size
  attribs : ∀ r ∈ attribRecords L.hello log.mem
    (L.hello.specialAttribCount.read log.mem (LogDeviceInfo.helloBase L log))
    (LogDeviceInfo.helloBase L log + L.hello.name +
      L.hello.nameLen.read log.mem (LogDeviceInfo.helloBase L log)), r.Inside size
  actions : ∀ r ∈ actionRecords L.hello log.mem
    (L.hello.actionCount.read log.mem (LogDeviceInfo.helloBase L log))
    (LogDeviceInfo.attribWalk L log).cursor, r.Inside size

/-! ## The loops -/

/-- The four reads of an attribute record lie side by side. -/
theorem attribRecord_inside {cursor k v : Nat} :
    (Span.mk cursor (H.keyLen + H.valueLen + k + v)).Inside n ↔
      (Span.mk cursor H.keyLen).Inside n ∧ (Span.mk (cursor + H.keyLen) H.valueLen).Inside n ∧
        (Span.mk (cursor + H.key) k).Inside n ∧ (Span.mk (cursor + H.key + k) v).Inside n := by
  rw [Span.inside_add, Span.inside_add, Span.inside_add, H.key_packed, and_assoc, and_assoc,
    Nat.add_assoc cursor (H.keyLen + H.valueLen) k]

/-- The three reads of an action record lie side by side. -/
theorem actionRecord_inside {cursor k : Nat} :
    (Span.mk cursor (H.nameLength + H.type + k)).Inside n ↔
      (Span.mk cursor H.nameLength).Inside n ∧
        (Span.mk (cursor + H.nameLength + H.type) k).Inside n ∧
          (Span.mk (cursor + H.nameLength) H.type).Inside n := by
  rw [Span.inside_add, Span.inside_add, ← Nat.add_assoc]
  constructor
  · rintro ⟨⟨hlen, htype⟩, hname⟩
    exact ⟨hlen, hname, htype⟩
  · rintro ⟨hlen, hname, htype⟩
    exact ⟨⟨hlen, htype⟩, hname⟩

/-- The attribute loop reads inside exactly when all its records are inside. -/
theorem attribLoop_inside_iff (count cursor : Nat) (m : UMap (List UInt8) (List UInt8)) :
    (∀ s ∈ (attribLoop H mem count cursor m).reads, s.Inside n) ↔
      ∀ r ∈ attribRecords H mem count cursor, r.Inside n := by
  induction count generalizing cursor m with
  | zero => exact Iff.rfl
  | succ count ih =>
      simp only [attribLoop, attribRecords, List.forall_mem_cons, attribRecord_inside, ih,
        and_assoc]

/-- A record with an empty name is read over and over. -/
theorem actionLoop_reads_stuck {cursor : Nat} (h : actionNameLength H mem cursor = 0)
    (i count : Nat) (m : UMap Nat DeviceApiAction) :
    (actionLoop H mem i count cursor m).reads = List.replicate count ⟨cursor, H.nameLength⟩ := by
  induction count generalizing i with
  | zero => rfl
  | succ count ih =>
      simp only [actionLoop, h, ↓reduceIte, ih]
      rfl

/-- The action loop reads inside exactly when all its records are inside. -/
theorem actionLoop_inside_iff (i count cursor : Nat) (m : UMap Nat DeviceApiAction) :
    (∀ s ∈ (actionLoop H mem i count cursor m).reads, s.Inside n) ↔
      ∀ r ∈ actionRecords H mem count cursor, r.Inside n := by
  induction count generalizing i cursor m with
  | zero => exact Iff.rfl
  | succ count ih =>
      cases hz : actionNameLength H mem cursor with
      | zero =>
          rw [actionLoop_reads_stuck hz]
          simp [actionRecords, hz]
      | succ k =>
          simp only [actionLoop, actionRecords, hz, Nat.add_one_ne_zero, ↓reduceIte,
            List.forall_mem_cons, actionRecord_inside, ih, and_assoc]

/-! ## The packet -/

variable {man : PhyDeviceManager} {srcPhy : FarAddr} {log : LogicalPacket} {size : UInt16}

/-- The constructor reads inside exactly when what the packet lays claim to is
inside. -/
theorem ofPacketReads_inside_iff :
    ((log.span L.type 1).Inside n ∧ ∀ s ∈ LogDeviceInfo.ofPacketReads L log, s.Inside n) ↔
      HelloFits L log n := by
  simp only [LogDeviceInfo.ofPacketReads, List.cons_append, List.forall_mem_cons,
    List.forall_mem_append]
  unfold LogDeviceInfo.actionWalk LogDeviceInfo.attribWalk
  rw [attribLoop_inside_iff, actionLoop_inside_iff]
  constructor
  · rintro ⟨ht, hsrc, hclass, hlen, hname, hattrib, hattribs, haction, hactions⟩
    exact ⟨ht, hsrc, hclass, hlen, hattrib, haction, hname, hattribs, hactions⟩
  · rintro ⟨ht, hsrc, hclass, hlen, hattrib, haction, hname, hattribs, hactions⟩
    exact ⟨ht, hsrc, hclass, hlen, hname, hattrib, hattribs, haction, hactions⟩

/-- A HELLO is read inside the received bytes exactly when its members, its name and
the records it lays claim to are. -/
theorem handlePacket_inside_iff
    (hello : log.type L = .helloWorld ∨ log.type L = .helloWorldResponse) :
    (∀ s ∈ (man.handlePacket L srcPhy log size).reads, s.Inside size.toNat) ↔
      HelloFits L log size.toNat := by
  have spec := PhyDeviceManager.handlePacket_spec L man srcPhy log size
  have body : man.bodyOf L srcPhy log size (log.type L) = man.handleHello L srcPhy log := by
    rcases hello with ht | ht <;> rw [ht] <;> rfl
  rw [body] at spec
  rw [← ofPacketReads_inside_iff]
  constructor
  · intro h
    refine ⟨h _ ((spec.mem_reads _).mpr (Or.inl rfl)), fun s hs => h s ?_⟩
    exact (spec.mem_reads s).mpr (Or.inr (List.mem_append_left _ hs))
  · rintro ⟨ht, h⟩ s hs
    rcases (spec.mem_reads s).mp hs with rfl | hs
    · exact ht
    · rcases List.mem_append.mp hs with hs | hs
      · exact h s hs
      · rw [List.mem_singleton.mp hs]
        exact h _ (List.mem_cons_self ..)

/-- The lamp is read inside its packet. -/
theorem lamp_read_inside :
    lampPacket.type .packed = .helloWorld ∧
      ∀ s ∈ ((PhyDeviceManager.make ⟨5, none, none⟩).handlePacket .packed 1 lampPacket 21).reads,
        s.Inside (21 : UInt16).toNat := by
  refine ⟨rfl, (handlePacket_inside_iff (Or.inl rfl)).mpr ?_⟩
  exact ⟨by decide, by decide, by decide, by decide, by decide, by decide, by decide, by decide,
    by decide⟩

/-- The bytes of a HELLO behind an overlay header, cut off before its name of five
bytes. -/
def cutHello : Memory := .ofList [1, 20, 0, 0, 0, 0, 2, 5, 0, 0]

/-- The name is read past the end. -/
theorem cut_hello_read_past_end :
    ∃ log, overlayData .packed cutHello 10 = some log ∧ log.type .packed = .helloWorld ∧
      ¬ ∀ s ∈ ((PhyDeviceManager.make ⟨5, none, none⟩).handlePacket .packed 1 log 10).reads,
        s.Inside 10 := by
  refine ⟨⟨cutHello, 1⟩, rfl, rfl, fun h => ?_⟩
  have hout : ¬ (Span.mk 10 5).Inside 10 := by decide
  exact hout (h _ (by decide))

end KhawasuPc
