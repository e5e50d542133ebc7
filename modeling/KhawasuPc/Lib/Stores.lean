import KhawasuPc.Lib.Bytes

/-!
# Stores into memory

A struct in memory is filled in by stores at the places of its members.  Where
these share no byte, each member is read back (`stores_holds`), and what no store
covers is still what the memory held before (`stores_slice`).
-/

namespace Lib

/-! ## Spans without a common byte -/

/-- Two spans share no byte. -/
def Span.Apart (s t : Span) : Prop := s.off + s.len ≤ t.off ∨ t.off + t.len ≤ s.off

theorem Span.Apart.symm {s t : Span} (h : s.Apart t) : t.Apart s := Or.symm h

/-- Members of a struct that share no byte, and a payload of any length after them. -/
structure Laid (members : List Span) (payload : Nat) : Prop where
  apart : members.Pairwise Span.Apart
  before : ∀ s ∈ members, s.off + s.len ≤ payload

/-- The payload shares no byte with a member. -/
theorem Laid.apart_payload {members : List Span} {payload : Nat} (h : Laid members payload)
    {s : Span} (hs : s ∈ members) (len : Nat) : s.Apart ⟨payload, len⟩ := Or.inl (h.before s hs)

/-! ## Stores -/

/-- Bytes to be stored at an address. -/
structure Store where
  off : Nat
  bytes : List UInt8
deriving DecidableEq, Repr

/-- The bytes a store changes. -/
def Store.span (s : Store) : Span := ⟨s.off, s.bytes.length⟩

/-- No two of the stores change the same byte. -/
def Separate (ss : List Store) : Prop := ss.Pairwise fun s t => s.span.Apart t.span

/-- The order of the stores does not matter. -/
theorem Separate.perm {ss ts : List Store} (h : Separate ss) (same : ss.Perm ts) : Separate ts :=
  List.Pairwise.perm h same fun apart => apart.symm

/-- Stores of some of the members and of the payload share no byte. -/
theorem Laid.pairwise {members : List Span} {payload : Nat} (h : Laid members payload)
    {l : List Store} (hl : (l.map Store.span).Sublist members) (bytes : List UInt8) :
    Separate (l ++ [⟨payload, bytes⟩]) := by
  refine List.pairwise_append.mpr
    ⟨List.pairwise_map.mp (h.apart.sublist hl), List.pairwise_singleton _ _, ?_⟩
  intro s hs t ht
  rw [List.mem_singleton.mp ht]
  exact h.apart_payload (hl.subset (List.mem_map_of_mem hs)) _

namespace Memory

/-- Memory after a store. -/
def store (mem : Memory) (s : Store) : Memory := fun i =>
  if s.off ≤ i then (s.bytes[i - s.off]?).getD (mem i) else mem i

/-- Memory after stores, the first of the list first. -/
def stores (mem : Memory) (ss : List Store) : Memory := ss.foldl store mem

theorem store_inside (mem : Memory) (s : Store) {i : Nat} (h : i < s.bytes.length) :
    mem.store s (s.off + i) = s.bytes[i] := by
  simp [store, h]

theorem store_outside (mem : Memory) (s : Store) {i : Nat}
    (h : i < s.off ∨ s.off + s.bytes.length ≤ i) : mem.store s i = mem i := by
  unfold store
  split
  · have past : s.bytes.length ≤ i - s.off := by omega
    rw [List.getElem?_eq_none past, Option.getD_none]
  · rfl

/-- A store is read back. -/
theorem store_holds (mem : Memory) (s : Store) : (mem.store s).Holds s.off s.bytes := by
  refine List.ext_getElem (length_slice _ _ _) fun i h₁ h₂ => ?_
  simp only [slice, List.getElem_map, List.getElem_range]
  exact store_inside mem s h₂

/-- A store changes nothing elsewhere. -/
theorem store_slice (mem : Memory) {s : Store} {t : Span} (h : s.span.Apart t) :
    (mem.store s).slice t.off t.len = mem.slice t.off t.len := by
  refine List.map_congr_left fun i hi => store_outside mem s ?_
  have lt : i < t.len := List.mem_range.mp hi
  rcases h with after | before
  · exact Or.inr (Nat.le_trans after (Nat.le_add_right _ _))
  · refine Or.inl (Nat.lt_of_lt_of_le ?_ before)
    exact Nat.add_lt_add_left lt _

/-- What no store covers is still what it was. -/
theorem stores_slice (mem : Memory) {ss : List Store} {t : Span}
    (h : ∀ s ∈ ss, s.span.Apart t) :
    (mem.stores ss).slice t.off t.len = mem.slice t.off t.len := by
  induction ss generalizing mem with
  | nil => rfl
  | cons s ss ih =>
      have rest := ih (mem.store s) fun u hu => h u (List.mem_cons_of_mem _ hu)
      exact rest.trans (store_slice mem (h s List.mem_cons_self))

/-- Stores that share no byte are all read back. -/
theorem stores_holds (mem : Memory) {ss : List Store} (h : Separate ss) {s : Store}
    (hs : s ∈ ss) : (mem.stores ss).Holds s.off s.bytes := by
  induction ss generalizing mem with
  | nil => cases hs
  | cons first ss ih =>
      obtain ⟨here, rest⟩ := List.pairwise_cons.mp h
      cases hs with
      | head =>
          have kept := stores_slice (mem.store s) fun u hu => (here u hu).symm
          exact kept.trans (store_holds mem s)
      | tail _ hs => exact ih (mem.store first) rest hs

/-- One byte held. -/
theorem Holds.byte_eq {mem : Memory} {off : Nat} {b : UInt8} (h : mem.Holds off [b]) :
    mem off = b := by
  simpa [Holds, slice] using h

/-- A byte whose store is left out keeps what the memory held. -/
theorem stores_left_out (mem : Memory) {i : Nat} {b : UInt8} {ss : List Store}
    (h : Separate (⟨i, [b]⟩ :: ss)) : mem.stores ss i = mem i := by
  have apart := (List.pairwise_cons.mp h).1
  have kept := stores_slice mem (t := ⟨i, 1⟩) fun s hs => (apart s hs).symm
  simpa [slice] using kept

end Memory

end Lib
