import KhawasuPc.Device.Info

/-!
# The HELLO layout and its reader

`Hello` is what a device announces, and `Hello.encode` lays it out as the
records that follow the packet's fixed members.  The reader inverts the layout
up to one point.  `actionLoop` skips a record with an empty name without moving
its cursor, so it meets the same record in every later round and never sees
the actions after it (`actionLoop_stuck`).  `Hello.describes_iff` says exactly
which announcements are read back: those in which no action with a name comes
after one without.
-/

namespace KhawasuPc

open Lib

/-- An action as a HELLO packet carries it. -/
structure HelloAction where
  name : List UInt8
  type : ActionType
deriving DecidableEq, Repr

/-- What a HELLO packet announces. -/
structure Hello where
  devClass : DeviceClassEnum
  name : List UInt8
  /-- The attributes, key and value. -/
  attribs : List (List UInt8 × List UInt8)
  /-- The actions, in the order of their ids. -/
  actions : List HelloAction

variable {H : HelloLayout} {mem : Memory}

/-! ## The layout -/

/-- An attribute record: key length, value length, key, value. -/
def encodeAttrib (H : HelloLayout) (a : List UInt8 × List UInt8) : List UInt8 :=
  leBytes H.keyLen a.1.length ++ leBytes H.valueLen a.2.length ++ a.1 ++ a.2

/-- An action record: name length, type, name. -/
def encodeAction (H : HelloLayout) (a : HelloAction) : List UInt8 :=
  leBytes H.nameLength a.name.length ++ leBytes H.type a.type.code ++ a.name

/-- The name, the attribute records and the action records. -/
def Hello.encode (H : HelloLayout) (h : Hello) : List UInt8 :=
  h.name ++ h.attribs.flatMap (encodeAttrib H) ++ h.actions.flatMap (encodeAction H)

/-- The lengths of an attribute fit their fields. -/
def AttribFits (H : HelloLayout) (a : List UInt8 × List UInt8) : Prop :=
  a.1.length < 256 ^ H.keyLen ∧ a.2.length < 256 ^ H.valueLen

/-- The length and the type of an action fit their fields. -/
def HelloAction.Fits (H : HelloLayout) (a : HelloAction) : Prop :=
  a.name.length < 256 ^ H.nameLength ∧ a.type.code < 256 ^ H.type

/-- The packet lays out the announcement: its fixed members hold the class, the
length of the name and the two counts, and the records follow. -/
structure Hello.LaidOut (L : PacketLayout) (h : Hello) (packet : LogicalPacket) : Prop where
  devClass : L.hello.deviceClass.read packet.mem (LogDeviceInfo.helloBase L packet) =
    h.devClass.code
  nameLen : L.hello.nameLen.read packet.mem (LogDeviceInfo.helloBase L packet) = h.name.length
  attribCount : L.hello.specialAttribCount.read packet.mem (LogDeviceInfo.helloBase L packet) =
    h.attribs.length
  actionCount : L.hello.actionCount.read packet.mem (LogDeviceInfo.helloBase L packet) =
    h.actions.length
  records : packet.mem.Holds (LogDeviceInfo.helloBase L packet + L.hello.name) (h.encode L.hello)
  attribFits : ∀ a ∈ h.attribs, AttribFits L.hello a
  actionFits : ∀ a ∈ h.actions, a.Fits L.hello

/-! ## One record -/

theorem length_encodeAttrib (a : List UInt8 × List UInt8) :
    (encodeAttrib H a).length = H.keyLen + H.valueLen + a.1.length + a.2.length := by
  simp [encodeAttrib, Nat.add_assoc]

theorem length_encodeAction (a : HelloAction) :
    (encodeAction H a).length = H.nameLength + H.type + a.name.length := by
  simp [encodeAction, Nat.add_assoc]

theorem attrib_read {cursor : Nat} {a : List UInt8 × List UInt8}
    (h : mem.Holds cursor (encodeAttrib H a)) (hf : AttribFits H a) :
    attribKeyLen H mem cursor = a.1.length ∧ attribValueLen H mem cursor = a.2.length ∧
      mem.slice (cursor + H.key) a.1.length = a.1 ∧
      mem.slice (cursor + H.key + a.1.length) a.2.length = a.2 ∧
      attribNext H mem cursor = cursor + (encodeAttrib H a).length := by
  obtain ⟨⟨⟨hk, hv⟩, hkey⟩, hvalue⟩ :
      ((mem.Holds cursor (leBytes H.keyLen a.1.length) ∧
        mem.Holds (cursor + H.keyLen) (leBytes H.valueLen a.2.length)) ∧
        mem.Holds (cursor + H.key) a.1) ∧ mem.Holds (cursor + H.key + a.1.length) a.2 := by
    simpa [encodeAttrib, Memory.holds_append, H.key_packed, Nat.add_assoc, and_assoc] using h
  have hkl : attribKeyLen H mem cursor = a.1.length := hk.read_eq hf.1
  have hvl : attribValueLen H mem cursor = a.2.length := hv.read_eq hf.2
  refine ⟨hkl, hvl, hkey, hvalue, ?_⟩
  rw [attribNext, hkl, hvl, length_encodeAttrib, H.value_eq_key, H.key_packed]
  omega

theorem action_read {cursor : Nat} {a : HelloAction}
    (h : mem.Holds cursor (encodeAction H a)) (hf : a.Fits H) :
    actionNameLength H mem cursor = a.name.length ∧
      mem.read (cursor + H.nameLength) H.type = a.type.code ∧
      mem.slice (cursor + H.nameLength + H.type) a.name.length = a.name := by
  obtain ⟨⟨hn, ht⟩, hname⟩ :
      (mem.Holds cursor (leBytes H.nameLength a.name.length) ∧
        mem.Holds (cursor + H.nameLength) (leBytes H.type a.type.code)) ∧
        mem.Holds (cursor + H.nameLength + H.type) a.name := by
    simpa [encodeAction, Memory.holds_append, Nat.add_assoc, and_assoc] using h
  exact ⟨hn.read_eq hf.1, ht.read_eq hf.2, hname⟩

/-! ## The attribute loop -/

/-- The loop collects the records in order and ends after the last one. -/
theorem attribLoop_encoded (as : List (List UInt8 × List UInt8)) {cursor : Nat}
    (m : UMap (List UInt8) (List UInt8)) (h : mem.Holds cursor (as.flatMap (encodeAttrib H)))
    (hf : ∀ a ∈ as, AttribFits H a) :
    (attribLoop H mem as.length cursor m).found = m.emplaceAll as ∧
      (attribLoop H mem as.length cursor m).cursor =
        cursor + (as.flatMap (encodeAttrib H)).length := by
  induction as generalizing cursor m with
  | nil => exact ⟨rfl, rfl⟩
  | cons a as ih =>
      rw [List.flatMap_cons, Memory.holds_append] at h
      obtain ⟨hk, hv, hkey, hvalue, hnext⟩ := attrib_read h.1 (hf a (List.mem_cons_self ..))
      have ih := ih (m.emplace a.1 a.2) h.2 fun b hb => hf b (List.mem_cons_of_mem _ hb)
      simp only [List.length_cons, attribLoop, hk, hv, hkey, hvalue, hnext]
      refine ⟨ih.1, ?_⟩
      rw [ih.2, List.flatMap_cons, List.length_append]
      omega

/-! ## The action loop -/

/-- The description of an action that is read from its record. -/
def HelloAction.read (a : HelloAction) : DeviceApiAction := ⟨CString.ofBytes a.name, a.type⟩

/-- A record with an empty name stops the loop for good. -/
theorem actionLoop_stuck {cursor : Nat} (h : actionNameLength H mem cursor = 0) (i n : Nat)
    (m : UMap Nat DeviceApiAction) : (actionLoop H mem i n cursor m).found = m := by
  induction n generalizing i with
  | zero => rfl
  | succ n ih =>
      simp only [actionLoop, h, ↓reduceIte]
      exact ih (i + 1)

/-- The loop numbers the actions before the first empty name, and no others. -/
theorem actionLoop_encoded (as : List HelloAction) {cursor : Nat} (i : Nat)
    (m : UMap Nat DeviceApiAction) (h : mem.Holds cursor (as.flatMap (encodeAction H)))
    (hf : ∀ a ∈ as, a.Fits H) (k : Nat) :
    (actionLoop H mem i as.length cursor m).found.lookup k =
      (m.lookup k).or (if i ≤ k then
        ((as.takeWhile fun a => a.name ≠ [])[k - i]?).map HelloAction.read else none) := by
  induction as generalizing cursor i m with
  | nil => simp [actionLoop]
  | cons a as ih =>
      rw [List.flatMap_cons, Memory.holds_append] at h
      obtain ⟨hn, ht, hname⟩ := action_read h.1 (hf a (List.mem_cons_self ..))
      by_cases ha : a.name = []
      · have hz : actionNameLength H mem cursor = 0 := by rw [hn, ha]; rfl
        rw [List.length_cons, actionLoop_stuck hz]
        simp [ha]
      · have hne : a.name.length ≠ 0 := by simpa using ha
        have hnext : cursor + (encodeAction H a).length =
            cursor + H.nameLength + H.type + a.name.length := by
          rw [length_encodeAction]
          omega
        have ih := ih (i + 1) (m.emplace i a.read) (hnext ▸ h.2)
          fun b hb => hf b (List.mem_cons_of_mem _ hb)
        simp only [List.length_cons, actionLoop, hn, hne, ht, hname, ↓reduceIte]
        refine ih.trans ?_
        rw [List.takeWhile_cons_of_pos (by simpa using ha)]
        rcases Nat.lt_trichotomy k i with hk | rfl | hk
        · rw [UMap.lookup_emplace_ne (by omega), if_neg (by omega), if_neg (by omega)]
        · rw [UMap.lookup_emplace_self, if_neg (by omega), if_pos (Nat.le_refl _)]
          cases m.lookup k <;> simp
        · rw [UMap.lookup_emplace_ne (by omega), if_pos (Nat.succ_le_of_lt hk),
            if_pos (Nat.le_of_lt hk), show k - i = (k - (i + 1)) + 1 by omega,
            List.getElem?_cons_succ]

/-! ## The attributes of a packet -/

/-- The packet lays out a name, attribute records, and what comes after them. -/
structure AttribsLaidOut (L : PacketLayout) (name : List UInt8)
    (attribs : List (List UInt8 × List UInt8)) (rest : List UInt8) (packet : LogicalPacket) :
    Prop where
  nameLen : L.hello.nameLen.read packet.mem (LogDeviceInfo.helloBase L packet) = name.length
  attribCount : L.hello.specialAttribCount.read packet.mem (LogDeviceInfo.helloBase L packet) =
    attribs.length
  records : packet.mem.Holds (LogDeviceInfo.helloBase L packet + L.hello.name)
    (name ++ attribs.flatMap (encodeAttrib L.hello) ++ rest)
  attribFits : ∀ a ∈ attribs, AttribFits L.hello a

section

variable {L : PacketLayout} {name rest : List UInt8} {attribs : List (List UInt8 × List UInt8)}
  {packet : LogicalPacket}

/-- The walk emplaces the records in order and ends after the last one. -/
theorem AttribsLaidOut.attribWalk (hl : AttribsLaidOut L name attribs rest packet) :
    (LogDeviceInfo.attribWalk L packet).found = (∅ : UMap _ _).emplaceAll attribs ∧
      (LogDeviceInfo.attribWalk L packet).cursor =
        LogDeviceInfo.helloBase L packet + L.hello.name + name.length +
          (attribs.flatMap (encodeAttrib L.hello)).length := by
  have hr := hl.records
  rw [Memory.holds_append, Memory.holds_append] at hr
  simp only [LogDeviceInfo.attribWalk, hl.attribCount, hl.nameLen]
  exact attribLoop_encoded attribs ∅ hr.1.2 hl.attribFits

/-- The first record of a key counts, and the walk ends where the action records start. -/
theorem attribWalk_lands (hl : AttribsLaidOut L name attribs rest packet) :
    (∀ key, (LogDeviceInfo.attribWalk L packet).found.lookup key =
        (attribs.find? fun a => a.1 = key).map Prod.snd) ∧
      (LogDeviceInfo.attribWalk L packet).cursor =
        LogDeviceInfo.helloBase L packet + L.hello.name + name.length +
          (attribs.flatMap (encodeAttrib L.hello)).length ∧
      packet.mem.Holds (LogDeviceInfo.attribWalk L packet).cursor rest := by
  obtain ⟨found, cursor⟩ := hl.attribWalk
  have hr := hl.records
  rw [Memory.holds_append] at hr
  refine ⟨fun key => ?_, cursor, ?_⟩
  · rw [found, UMap.lookup_emplaceAll, Finmap.lookup_empty, Option.none_or, UMap.lookup_eq_find?]
  · have here := hr.2
    rw [List.length_append, ← Nat.add_assoc] at here
    rw [cursor]
    exact here

end

/-- Records with an empty key, an empty value and a key that comes twice. -/
def doubledAttribs : List (List UInt8 × List UInt8) := [([1], [2, 3]), ([], []), ([1], [4])]

/-- The packet that announces them, with the record of an action after them. -/
def doubledPacket : LogicalPacket :=
  .ofList ([20, 0, 0, 0, 0, 2, 1, 3, 1, 76] ++
    doubledAttribs.flatMap (encodeAttrib PacketLayout.packed.hello) ++ [1, 4, 97])

theorem doubled_laidOut :
    AttribsLaidOut .packed [76] doubledAttribs [1, 4, 97] doubledPacket where
  nameLen := rfl
  attribCount := rfl
  records := rfl
  attribFits := by unfold AttribFits; decide

theorem doubled_lands :
    (∀ key, (LogDeviceInfo.attribWalk .packed doubledPacket).found.lookup key =
        (doubledAttribs.find? fun a => a.1 = key).map Prod.snd) ∧
      (LogDeviceInfo.attribWalk .packed doubledPacket).cursor = 21 ∧
      doubledPacket.mem.Holds (LogDeviceInfo.attribWalk .packed doubledPacket).cursor
        [1, 4, 97] :=
  attribWalk_lands doubled_laidOut

/-! ## The whole packet -/

variable {L : PacketLayout} {h : Hello} {packet : LogicalPacket}

/-- What a laid out packet says of its attributes. -/
theorem Hello.LaidOut.attribs (hl : h.LaidOut L packet) :
    AttribsLaidOut L h.name h.attribs (h.actions.flatMap (encodeAction L.hello)) packet where
  nameLen := hl.nameLen
  attribCount := hl.attribCount
  records := hl.records
  attribFits := hl.attribFits

/-- The action table of a laid out packet. -/
theorem Hello.LaidOut.lookup_actionsMap (hl : h.LaidOut L packet) (phy : FarAddr) (k : Nat) :
    (LogDeviceInfo.ofPacket L phy packet).actionsMap.lookup k =
      ((h.actions.takeWhile fun a => a.name ≠ [])[k]?).map HelloAction.read := by
  have hr := hl.records
  rw [Hello.encode, Memory.holds_append] at hr
  have hc : (LogDeviceInfo.attribWalk L packet).cursor =
      LogDeviceInfo.helloBase L packet + L.hello.name +
        (h.name ++ h.attribs.flatMap (encodeAttrib L.hello)).length := by
    rw [hl.attribs.attribWalk.2, List.length_append]
    omega
  simp only [LogDeviceInfo.ofPacket, LogDeviceInfo.actionWalk, hl.actionCount, hc]
  rw [actionLoop_encoded h.actions 0 ∅ hr.2 hl.actionFits k]
  simp

theorem Hello.LaidOut.name_eq (hl : h.LaidOut L packet) (phy : FarAddr) :
    (LogDeviceInfo.ofPacket L phy packet).name = h.name := by
  have hr := hl.records
  rw [Hello.encode, Memory.holds_append, Memory.holds_append] at hr
  simp only [LogDeviceInfo.ofPacket, hl.nameLen]
  exact hr.1.1

/-! ## When the reader inverts the layout -/

/-- The description says what was announced: class, name, the attributes, and
under each index the name and type of the action of that index if its name is
not empty. -/
structure Hello.Describes (h : Hello) (info : LogDeviceInfo) : Prop where
  devClass : info.devClass = h.devClass
  name : info.name = h.name
  attribs : ∀ k v, info.attribs.lookup k = some v ↔ (k, v) ∈ h.attribs
  actions : ∀ i, (info.actionsMap.lookup i).map (fun d => (d.name.bytes, d.type)) =
    ((h.actions[i]?).filter fun a => a.name ≠ []).map fun a => (a.name, a.type)

/-- No action with a name comes after one without. -/
def Hello.EmptyNamesLast (h : Hello) : Prop :=
  h.actions.Pairwise fun a b => a.name = [] → b.name = []

instance (h : Hello) : Decidable h.EmptyNamesLast := by
  unfold Hello.EmptyNamesLast
  infer_instance

/-- Cutting a list at the first element that fails a test keeps every element
that passes exactly when none comes after one that fails. -/
theorem takeWhile_eq_filter_iff {α : Type} (p : α → Bool) (as : List α) :
    (∀ k : Nat, (as.takeWhile p)[k]? = (as[k]?).filter p) ↔
      as.Pairwise fun a b => p a = false → p b = false := by
  induction as with
  | nil => simp
  | cons a as ih =>
      cases ha : p a with
      | true =>
          rw [List.takeWhile_cons_of_pos ha, List.pairwise_cons, ← ih]
          constructor
          · intro hk
            refine ⟨fun b _ hp => absurd ha (by simp [hp]), fun k => ?_⟩
            simpa using hk (k + 1)
          · rintro ⟨-, hk⟩ (_ | k)
            · simp [Option.filter, ha]
            · simpa using hk k
      | false =>
          rw [List.takeWhile_cons_of_neg (by simp [ha]), List.pairwise_cons]
          constructor
          · intro hk
            have hall : ∀ b ∈ as, p b = false := by
              intro b hb
              obtain ⟨k, hlt, rfl⟩ := List.getElem_of_mem hb
              have hk' := hk (k + 1)
              rw [List.getElem?_cons_succ, List.getElem?_eq_getElem hlt] at hk'
              cases hp : p as[k] with
              | false => rfl
              | true => simp [Option.filter, hp] at hk'
            refine ⟨fun b hb _ => hall b hb, ?_⟩
            rw [List.pairwise_iff_getElem]
            intro i j _ hj _ _
            exact hall _ (List.getElem_mem hj)
          · rintro ⟨hall, -⟩ (_ | k)
            · simp [Option.filter, ha]
            · rw [List.getElem?_cons_succ]
              cases hb : as[k]? with
              | none => simp
              | some b => simp [Option.filter, hall b (List.mem_of_getElem? hb) ha]

/-- A NUL-free name is read as it is. -/
theorem HelloAction.read_eq {a : HelloAction} (h : 0 ∉ a.name) :
    (a.read.name.bytes, a.read.type) = (a.name, a.type) := by
  rw [HelloAction.read, CString.bytes_ofBytes h]

/-- The action table says what was announced exactly when no action with a name
comes after one without. -/
theorem Hello.LaidOut.actions_iff (hl : h.LaidOut L packet)
    (hnul : ∀ a ∈ h.actions, 0 ∉ a.name) (phy : FarAddr) :
    (∀ i, ((LogDeviceInfo.ofPacket L phy packet).actionsMap.lookup i).map
        (fun d => (d.name.bytes, d.type)) =
      ((h.actions[i]?).filter fun a => a.name ≠ []).map fun a => (a.name, a.type)) ↔
      h.EmptyNamesLast := by
  have hinj : Function.Injective fun a : HelloAction => (a.name, a.type) := by
    rintro ⟨n, t⟩ ⟨n', t'⟩ he
    cases he
    rfl
  have hread : ∀ o : Option HelloAction, (∀ a ∈ o, a ∈ h.actions) →
      (o.map HelloAction.read).map (fun d => (d.name.bytes, d.type)) =
        o.map fun a => (a.name, a.type) := by
    rintro (_ | a) ho
    · rfl
    · simp only [Option.map_some]
      rw [HelloAction.read_eq (hnul a (ho a rfl))]
  have hcut : ∀ k : Nat, ∀ a ∈ (h.actions.takeWhile fun a => a.name ≠ [])[k]?, a ∈ h.actions :=
    fun k a ha => (List.takeWhile_sublist _).subset (List.mem_of_getElem? ha)
  have hpair : h.EmptyNamesLast ↔ h.actions.Pairwise fun a b =>
      decide (a.name ≠ []) = false → decide (b.name ≠ []) = false := by
    simp [Hello.EmptyNamesLast]
  rw [hpair, ← takeWhile_eq_filter_iff]
  refine forall_congr' fun k => ?_
  rw [hl.lookup_actionsMap, hread _ (hcut k), (Option.map_injective hinj).eq_iff]

/-- The reader inverts the layout exactly when no action with a name comes after
one without. -/
theorem Hello.describes_iff (hl : h.LaidOut L packet)
    (hkeys : (h.attribs.map Prod.fst).Nodup) (hnul : ∀ a ∈ h.actions, 0 ∉ a.name)
    (phy : FarAddr) :
    h.Describes (LogDeviceInfo.ofPacket L phy packet) ↔ h.EmptyNamesLast := by
  rw [← hl.actions_iff hnul phy]
  constructor
  · exact Hello.Describes.actions
  · intro hact
    refine ⟨?_, hl.name_eq phy, ?_, hact⟩
    · rw [LogDeviceInfo.ofPacket, hl.devClass]
    · intro k v
      rw [LogDeviceInfo.ofPacket, hl.attribs.attribWalk.1, UMap.lookup_emplaceAll,
        Finmap.lookup_empty, Option.none_or, UMap.lookup_eq_some_iff_mem hkeys]

/-- A lamp with one attribute and two actions. -/
def lampHello : Hello where
  devClass := ⟨2⟩
  name := [76]
  attribs := [([1], [2, 3])]
  actions := [⟨[97], ⟨4⟩⟩, ⟨[98], ⟨5⟩⟩]

/-- The packet that announces the lamp. -/
def lampPacket : LogicalPacket :=
  .ofList ([20, 0, 0, 0, 0, 2, 1, 1, 2] ++ lampHello.encode PacketLayout.packed.hello)

theorem lamp_laidOut : lampHello.LaidOut PacketLayout.packed lampPacket where
  devClass := rfl
  nameLen := rfl
  attribCount := rfl
  actionCount := rfl
  records := rfl
  attribFits := by unfold AttribFits; decide
  actionFits := by unfold HelloAction.Fits; decide

theorem lamp_described : lampHello.Describes (LogDeviceInfo.ofPacket .packed 1 lampPacket) :=
  (Hello.describes_iff lamp_laidOut (by decide) (by decide) 1).mpr (by decide)

/-- A device with an unnamed action before a named one. -/
def gapHello : Hello where
  devClass := ⟨2⟩
  name := []
  attribs := []
  actions := [⟨[], ⟨4⟩⟩, ⟨[97], ⟨5⟩⟩]

/-- The packet that announces it. -/
def gapPacket : LogicalPacket :=
  .ofList ([20, 0, 0, 0, 0, 2, 0, 0, 2] ++ gapHello.encode PacketLayout.packed.hello)

/-- The unnamed action hides the named one: index 1 is not in the table. -/
theorem gap_hides_action :
    gapHello.LaidOut .packed gapPacket ∧ (gapHello.attribs.map Prod.fst).Nodup ∧
      (∀ a ∈ gapHello.actions, 0 ∉ a.name) ∧
      ¬ gapHello.Describes (LogDeviceInfo.ofPacket .packed 1 gapPacket) := by
  refine ⟨⟨rfl, rfl, rfl, rfl, rfl, by unfold AttribFits; decide,
    by unfold HelloAction.Fits; decide⟩, by decide, by decide, fun h => ?_⟩
  have h1 := h.actions 1
  revert h1
  decide

end KhawasuPc
