import Mathlib.Data.Finmap

/-!
# Unordered maps

An unordered map is a finite map up to the order of its entries.  Two things
are added to what the library of finite maps has.  `emplace` inserts only where
the key is new and leaves an existing entry alone.  An `Enumeration` is an
order in which a loop over the map meets its entries: every entry once, in an
order nothing more is known about.
-/

namespace Lib

/-- A finite map whose entries have no order. -/
abbrev UMap (α β : Type*) := Finmap fun _ : α => β

namespace UMap

variable {α β : Type*} [DecidableEq α]

/-- Insert, unless the key is there. -/
def emplace (m : UMap α β) (a : α) (b : β) : UMap α β :=
  if a ∈ m then m else m.insert a b

theorem emplace_of_mem {m : UMap α β} {a : α} {b : β} (h : a ∈ m) : m.emplace a b = m :=
  if_pos h

theorem emplace_of_notMem {m : UMap α β} {a : α} {b : β} (h : a ∉ m) :
    m.emplace a b = m.insert a b :=
  if_neg h

theorem lookup_emplace_ne {m : UMap α β} {a k : α} {b : β} (h : k ≠ a) :
    (m.emplace a b).lookup k = m.lookup k := by
  by_cases ha : a ∈ m
  · rw [emplace_of_mem ha]
  · rw [emplace_of_notMem ha, Finmap.lookup_insert_of_ne _ h]

/-- After emplacing, the key has its old entry or, if it had none, the new one. -/
theorem lookup_emplace_self (m : UMap α β) (a : α) (b : β) :
    (m.emplace a b).lookup a = some ((m.lookup a).getD b) := by
  by_cases ha : a ∈ m
  · obtain ⟨c, hc⟩ := Finmap.mem_iff.mp ha
    rw [emplace_of_mem ha, hc]
    rfl
  · rw [emplace_of_notMem ha, Finmap.lookup_insert, Finmap.lookup_eq_none.mpr ha]
    rfl

/-- What is found after emplacing was there before, or is the new entry. -/
theorem lookup_emplace_some {m : UMap α β} {a k : α} {b c : β}
    (h : (m.emplace a b).lookup k = some c) : m.lookup k = some c ∨ (k = a ∧ c = b) := by
  by_cases hk : k = a
  · subst hk
    rw [lookup_emplace_self] at h
    cases found : m.lookup k with
    | none => rw [found] at h; cases h; exact Or.inr ⟨rfl, rfl⟩
    | some old => rw [found] at h; exact Or.inl h
  · rw [lookup_emplace_ne hk] at h
    exact Or.inl h

/-- An entry stays as it is when others are emplaced. -/
theorem lookup_emplace_of_lookup {m : UMap α β} {a k : α} {b c : β} (h : m.lookup k = some c) :
    (m.emplace a b).lookup k = some c := by
  by_cases hk : k = a
  · rw [hk] at h ⊢
    rw [lookup_emplace_self, h, Option.getD_some]
  · rw [lookup_emplace_ne hk, h]

/-- Inserting the entry a key has changes nothing. -/
theorem insert_lookup_eq {m : UMap α β} {a : α} {b : β} (h : m.lookup a = some b) :
    m.insert a b = m := by
  refine Finmap.ext_lookup fun k => ?_
  by_cases hk : k = a
  · rw [hk, Finmap.lookup_insert, h]
  · rw [Finmap.lookup_insert_of_ne _ hk]

/-- Erasing a key takes back what was inserted under it. -/
theorem erase_insert (m : UMap α β) (a : α) (b : β) : (m.insert a b).erase a = m.erase a := by
  refine Finmap.ext_lookup fun k => ?_
  by_cases hk : k = a
  · rw [hk, Finmap.lookup_erase, Finmap.lookup_erase]
  · rw [Finmap.lookup_erase_ne hk, Finmap.lookup_erase_ne hk, Finmap.lookup_insert_of_ne _ hk]

theorem erase_erase (m : UMap α β) (a : α) : (m.erase a).erase a = m.erase a := by
  refine Finmap.ext_lookup fun k => ?_
  by_cases hk : k = a
  · rw [hk, Finmap.lookup_erase, Finmap.lookup_erase]
  · rw [Finmap.lookup_erase_ne hk]

/-- Erasing a key commutes with inserting under another one. -/
theorem erase_insert_ne {m : UMap α β} {a k : α} {b : β} (h : k ≠ a) :
    (m.insert k b).erase a = (m.erase a).insert k b := by
  refine Finmap.ext_lookup fun j => ?_
  by_cases hj : j = a
  · rw [hj, Finmap.lookup_erase, Finmap.lookup_insert_of_ne _ (Ne.symm h), Finmap.lookup_erase]
  · rw [Finmap.lookup_erase_ne hj]
    by_cases hjk : j = k
    · rw [hjk, Finmap.lookup_insert, Finmap.lookup_insert]
    · rw [Finmap.lookup_insert_of_ne _ hjk, Finmap.lookup_insert_of_ne _ hjk,
        Finmap.lookup_erase_ne hj]

/-- Erasing a key commutes with emplacing under another one. -/
theorem erase_emplace_ne {m : UMap α β} {a k : α} {b : β} (h : k ≠ a) :
    (m.emplace k b).erase a = emplace (m.erase a) k b := by
  have same : k ∈ m.erase a ↔ k ∈ m := by
    rw [Finmap.mem_erase]
    exact and_iff_right h
  by_cases hk : k ∈ m
  · rw [emplace_of_mem hk, emplace_of_mem (same.mpr hk)]
  · rw [emplace_of_notMem hk, emplace_of_notMem fun hm => hk (same.mp hm), erase_insert_ne h]

/-- A key that is not there is not erased. -/
theorem erase_of_lookup {m : UMap α β} {a : α} (h : m.lookup a = none) : m.erase a = m := by
  refine Finmap.ext_lookup fun k => ?_
  by_cases hk : k = a
  · rw [hk, Finmap.lookup_erase, h]
  · rw [Finmap.lookup_erase_ne hk]

/-- Emplace the entries of a list in order. -/
def emplaceAll (m : UMap α β) (l : List (α × β)) : UMap α β :=
  l.foldl (fun m e => m.emplace e.1 e.2) m

/-- The first entry of a key wins, an entry of the map before those of the list. -/
theorem lookup_emplaceAll (m : UMap α β) (l : List (α × β)) (k : α) :
    (m.emplaceAll l).lookup k = (m.lookup k).or (l.lookup k) := by
  induction l generalizing m with
  | nil => simp [emplaceAll]
  | cons e l ih =>
      obtain ⟨a, b⟩ := e
      have step : m.emplaceAll ((a, b) :: l) = (m.emplace a b).emplaceAll l := rfl
      rw [step, ih, List.lookup_cons]
      by_cases hk : k = a
      · rw [hk, lookup_emplace_self]
        cases m.lookup a <;> simp
      · rw [lookup_emplace_ne hk, beq_false_of_ne hk]

/-- What is found in a list is the first entry of the key. -/
theorem lookup_eq_find? (l : List (α × β)) (a : α) :
    l.lookup a = (l.find? fun e => e.1 = a).map Prod.snd := by
  induction l with
  | nil => rfl
  | cons e l ih =>
      obtain ⟨b, c⟩ := e
      rw [List.lookup_cons, List.find?_cons]
      by_cases h : a = b
      · simp [h]
      · rw [beq_false_of_ne h, decide_eq_false (Ne.symm h)]
        exact ih

/-- In a list with distinct keys an entry is found exactly when it is there. -/
theorem lookup_eq_some_iff_mem {l : List (α × β)} (h : (l.map Prod.fst).Nodup) {a : α} {b : β} :
    l.lookup a = some b ↔ (a, b) ∈ l := by
  induction l with
  | nil => simp
  | cons e l ih =>
      obtain ⟨c, d⟩ := e
      rw [List.map_cons, List.nodup_cons] at h
      rw [List.lookup_cons, List.mem_cons]
      by_cases hac : a = c
      · subst hac
        have hn : (a, b) ∉ l := fun hm => h.1 (List.mem_map.mpr ⟨(a, b), hm, rfl⟩)
        simp [hn, eq_comm]
      · rw [beq_false_of_ne hac]
        simp [hac, ih h.2]

end UMap

/-! ## Orders of iteration -/

/-- An order in which a loop meets the entries of a map. -/
structure Enumeration (α β : Type*) [DecidableEq α] where
  /-- The entries, in that order. -/
  entries : UMap α β → List (α × β)
  nodup : ∀ m, ((entries m).map Prod.fst).Nodup
  mem_iff : ∀ m a b, (a, b) ∈ entries m ↔ m.lookup a = some b

namespace Enumeration

variable {α β : Type*} [DecidableEq α] (E : Enumeration α β)

/-- The entries in the order a map happens to store them. -/
noncomputable def stored (α β : Type*) [DecidableEq α] : Enumeration α β where
  entries m := (Quotient.out m.entries).map fun e => (e.1, e.2)
  nodup m := by
    have h : ((Quotient.out m.entries : List (Sigma fun _ : α => β)) : Multiset _) = m.entries :=
      Quotient.out_eq _
    have hn := m.nodupKeys
    rw [← h, Multiset.coe_nodupKeys] at hn
    rw [List.map_map]
    exact hn
  mem_iff m a b := by
    have h : ((Quotient.out m.entries : List (Sigma fun _ : α => β)) : Multiset _) = m.entries :=
      Quotient.out_eq _
    have hmem : (⟨a, b⟩ : Sigma fun _ : α => β) ∈ m.entries ↔ ⟨a, b⟩ ∈ Quotient.out m.entries := by
      rw [← Multiset.mem_coe, h]
    rw [Finmap.lookup_eq_some_iff, hmem, List.mem_map]
    constructor
    · rintro ⟨⟨x, y⟩, hm, he⟩
      cases he
      exact hm
    · intro hm
      exact ⟨⟨a, b⟩, hm, rfl⟩

variable {E}

theorem entries_eq_nil_iff {m : UMap α β} : E.entries m = [] ↔ m = ∅ := by
  constructor
  · intro none_left
    refine Finmap.ext_lookup fun a => ?_
    rw [Finmap.lookup_empty, Option.eq_none_iff_forall_ne_some]
    intro b found
    rw [← E.mem_iff, none_left] at found
    cases found
  · rintro rfl
    rw [List.eq_nil_iff_forall_not_mem]
    rintro ⟨a, b⟩ mem
    rw [E.mem_iff, Finmap.lookup_empty] at mem
    cases mem

/-- A search finds nothing exactly when no entry passes. -/
theorem find?_eq_none {m : UMap α β} {p : α × β → Bool} :
    (E.entries m).find? p = none ↔ ∀ a b, m.lookup a = some b → p (a, b) = false := by
  rw [List.find?_eq_none]
  constructor
  · intro h a b hab
    simpa using h (a, b) ((E.mem_iff m a b).mpr hab)
  · rintro h ⟨a, b⟩ hab
    simpa using h a b ((E.mem_iff m a b).mp hab)

/-- What a search finds is an entry that passes. -/
theorem find?_some {m : UMap α β} {p : α × β → Bool} {e : α × β}
    (h : (E.entries m).find? p = some e) : m.lookup e.1 = some e.2 ∧ p e = true :=
  ⟨(E.mem_iff m e.1 e.2).mp (List.mem_of_find?_eq_some h), List.find?_some h⟩

/-- Where one entry passes, every order of search finds it. -/
theorem find?_eq_some {m : UMap α β} {p : α × β → Bool} {a : α} {b : β}
    (hab : m.lookup a = some b) (hp : p (a, b) = true)
    (hu : ∀ a' b', m.lookup a' = some b' → p (a', b') = true → a' = a) :
    (E.entries m).find? p = some (a, b) := by
  cases h : (E.entries m).find? p with
  | none =>
      have := find?_eq_none.mp h a b hab
      rw [this] at hp
      cases hp
  | some e =>
      obtain ⟨he, hpe⟩ := find?_some h
      have ha : e.1 = a := hu e.1 e.2 he hpe
      rw [ha, hab] at he
      cases he
      rw [← ha]

/-- The values of a map that numbers a list are the list, in some order. -/
theorem values_perm {m : UMap Nat β} {E : Enumeration Nat β} {l : List β}
    (h : ∀ i : Nat, m.lookup i = l[i]?) : ((E.entries m).map Prod.snd).Perm l := by
  have same : (E.entries m).Perm (l.zipIdx.map Prod.swap) := by
    refine (List.perm_ext_iff_of_nodup (List.Nodup.of_map _ (E.nodup m)) ?_).mpr ?_
    · refine List.Nodup.of_map Prod.fst ?_
      rw [List.map_map]
      exact (List.zipIdx_map_snd 0 l).symm ▸ List.nodup_range'
    · rintro ⟨i, b⟩
      rw [E.mem_iff, h, ← List.mk_mem_zipIdx_iff_getElem?, List.mem_map]
      constructor
      · exact fun hm => ⟨_, hm, rfl⟩
      · rintro ⟨⟨b', i'⟩, hm, swapped⟩
        cases swapped
        exact hm
  have values := same.map Prod.snd
  rw [List.map_map] at values
  exact (List.zipIdx_map_fst 0 l) ▸ values

/-- A map with one entry. -/
theorem entries_insert_empty (E : Enumeration α β) (a : α) (b : β) :
    E.entries ((∅ : UMap α β).insert a b) = [(a, b)] := by
  have hnd : (E.entries ((∅ : UMap α β).insert a b)).Nodup := List.Nodup.of_map _ (E.nodup _)
  refine List.perm_singleton.mp ((List.perm_ext_iff_of_nodup hnd (List.nodup_singleton _)).mpr ?_)
  rintro ⟨c, d⟩
  rw [E.mem_iff, List.mem_singleton, Prod.mk.injEq]
  by_cases hc : c = a
  · rw [hc, Finmap.lookup_insert, Option.some.injEq]
    simp [eq_comm]
  · rw [Finmap.lookup_insert_of_ne _ hc]
    simp [hc]

/-- Induction over a loop that meets every entry of the map `T` once, where a round
changes no other entry.  `P` is about the entries still to come, and each is met as it
was when the loop began. -/
theorem foldl_induction {σ : Type*} {T : σ → UMap α β} {f : σ → α × β → σ}
    (others : ∀ t e a, a ≠ e.1 → (T (f t e)).lookup a = (T t).lookup a)
    {P : List (α × β) → σ → Prop} {s : σ} (start : P (E.entries (T s)) s)
    (step : ∀ t e l, P (e :: l) t → (T t).lookup e.1 = some e.2 → e.1 ∉ l.map Prod.fst →
      P l (f t e)) : P [] ((E.entries (T s)).foldl f s) := by
  have loop : ∀ (l : List (α × β)) (t : σ), P l t → (l.map Prod.fst).Nodup →
      (∀ e ∈ l, (T t).lookup e.1 = some e.2) → P [] (l.foldl f t) := by
    intro l
    induction l with
    | nil => exact fun t ht _ _ => ht
    | cons e l ih =>
        intro t ht hn hl
        rw [List.map_cons, List.nodup_cons] at hn
        refine ih _ (step t e l ht (hl e (List.mem_cons_self ..)) hn.1) hn.2 fun e' he' => ?_
        have hne : e'.1 ≠ e.1 := by
          intro heq
          exact hn.1 (heq ▸ List.mem_map_of_mem he')
        rw [others t e e'.1 hne]
        exact hl e' (List.mem_cons_of_mem _ he')
  exact loop _ s start (E.nodup _) fun e he => (E.mem_iff _ e.1 e.2).mp he

end Enumeration

end Lib
