import KhawasuPc.Lib.Machine
import Mathlib.Logic.Function.Basic

/-!
# Requests matched to replies by reusable tags

A client that numbers its requests from a finite supply of tags keeps one slot
per tag.  A slot is free, waits for a reply, or holds the reply until it is
collected.  `issue` takes a free slot and leaves an occupied one alone, which
is what inserting into a table without overwriting does.  A reply to a free
slot is ignored and a reply to an answered slot is a violation: the machine has
no step for it.

Two facts are what clients need.  A slot that holds a reply got it from a reply
event since any earlier moment at which it held none (`reply_mem_of_run`).  And
whether a slot is answered can be read off the events alone (`slot_of_run`), so
a reply is a violation exactly when the request it answers has been answered
before and not collected since.
-/

namespace Lib.Slots

variable {T : Type*} {V : Type*}

/-- The state of one tag. -/
inductive Slot (V : Type*) where
  | free
  | waiting
  | answered (value : V)

/-- What happens to a tag. -/
inductive Op (T V : Type*) where
  /-- A request is sent under the tag. -/
  | issue (tag : T)
  /-- A reply with the tag arrives. -/
  | reply (tag : T) (value : V)
  /-- The reply is collected and the tag given back. -/
  | take (tag : T)

/-- The tag an event is about. -/
def Op.tag : Op T V → T
  | .issue t => t
  | .reply t _ => t
  | .take t => t

/-- One slot per tag. -/
abbrev Table (T V : Type*) := T → Slot V

/-- Nothing is pending. -/
def Table.empty : Table T V := fun _ => .free

variable [DecidableEq T]

/-- One event. -/
def step (s : Table T V) : Op T V → Option (Table T V)
  | .issue t =>
      match s t with
      | .free => some (Function.update s t .waiting)
      | _ => some s
  | .reply t v =>
      match s t with
      | .free => some s
      | .waiting => some (Function.update s t (.answered v))
      | .answered _ => none
  | .take t =>
      match s t with
      | .answered _ => some (Function.update s t .free)
      | _ => none

/-- The machine of a tag table. -/
def machine : Lib.Machine (Table T V) (Op T V) := ⟨step⟩

/-! ## One step -/

theorem step_ne {s s' : Table T V} {o : Op T V} {t : T} (h : step s o = some s')
    (ht : t ≠ o.tag) : s' t = s t := by
  cases o with
  | issue u =>
      simp only [step] at h
      split at h <;> cases h
      · exact Function.update_of_ne ht _ _
      · rfl
  | reply u v =>
      simp only [step] at h
      split at h <;> cases h
      · rfl
      · exact Function.update_of_ne ht _ _
  | take u =>
      simp only [step] at h
      split at h <;> cases h
      exact Function.update_of_ne ht _ _

theorem step_issue_self {s s' : Table T V} {t : T} (h : step s (.issue t) = some s') :
    (s t = .free ∧ s' t = .waiting) ∨ (s t ≠ .free ∧ s' t = s t) := by
  simp only [step] at h
  split at h
  next hs =>
    cases h
    exact Or.inl ⟨hs, Function.update_self ..⟩
  next hs =>
    cases h
    exact Or.inr ⟨hs, rfl⟩

theorem step_reply_self {s s' : Table T V} {t : T} {v : V} (h : step s (.reply t v) = some s') :
    (s t = .free ∧ s' t = .free) ∨ (s t = .waiting ∧ s' t = .answered v) := by
  simp only [step] at h
  split at h
  next hs =>
    cases h
    exact Or.inl ⟨hs, hs⟩
  next hs =>
    cases h
    exact Or.inr ⟨hs, Function.update_self ..⟩
  next hs => cases h

theorem step_take_self {s s' : Table T V} {t : T} (h : step s (.take t) = some s') :
    (∃ v, s t = .answered v) ∧ s' t = .free := by
  simp only [step] at h
  split at h
  next v hs =>
    cases h
    exact ⟨⟨v, hs⟩, Function.update_self ..⟩
  next hs => cases h

/-- A free slot is taken by a request under its tag only. -/
theorem free_of_step {s s' : Table T V} {o : Op T V} {t : T} (h : step s o = some s')
    (free : s t = .free) (ho : o ≠ .issue t) : s' t = .free := by
  by_cases ht : t = o.tag
  · subst ht
    cases o with
    | issue u => exact absurd rfl ho
    | reply u v =>
        rcases step_reply_self h with ⟨-, stays⟩ | ⟨waits, -⟩
        · exact stays
        · rw [Op.tag, waits] at free; cases free
    | take u => exact (step_take_self h).2
  · rw [step_ne h ht, free]

/-! ## Runs -/

theorem free_of_run {s s' : Table T V} {ops : List (Op T V)} {t : T}
    (h : machine.run s ops = some s') (free : s t = .free) (hops : Op.issue t ∉ ops) :
    s' t = .free := by
  induction ops generalizing s with
  | nil => cases h; exact free
  | cons o ops ih =>
      obtain ⟨w, hstep, hrest⟩ := Option.bind_eq_some_iff.mp h
      rw [List.mem_cons, not_or] at hops
      exact ih hrest (free_of_step hstep free (Ne.symm hops.1)) hops.2

/-- A slot becomes free only by being collected. -/
theorem take_mem_of_run {s s' : Table T V} {ops : List (Op T V)} {t : T}
    (h : machine.run s ops = some s') (hs : s t ≠ .free) (free : s' t = .free) :
    Op.take t ∈ ops := by
  revert free
  refine Machine.run_history (M := machine)
    (P := fun ops s' => s' t = .free → Op.take t ∈ ops) (fun free => absurd free hs) ?_ h
  intro ops s₁ o s₂ _ ih hstep free
  rw [List.mem_append, List.mem_singleton]
  by_cases ht : t = o.tag
  · subst ht
    cases o with
    | issue u =>
        rcases step_issue_self hstep with ⟨-, waits⟩ | ⟨-, stays⟩
        · rw [Op.tag, waits] at free; cases free
        · exact Or.inl (ih (stays.symm.trans free))
    | reply u v =>
        rcases step_reply_self hstep with ⟨before, -⟩ | ⟨-, answered⟩
        · exact Or.inl (ih before)
        · rw [Op.tag, answered] at free; cases free
    | take u => exact Or.inr rfl
  · exact Or.inl (ih ((step_ne hstep ht).symm.trans free))

/-- A slot becomes one that waits only by a request under its tag. -/
theorem issue_mem_of_run {s s' : Table T V} {ops : List (Op T V)} {t : T}
    (h : machine.run s ops = some s') (hs : s t ≠ .waiting) (waits : s' t = .waiting) :
    Op.issue t ∈ ops := by
  revert waits
  refine Machine.run_history (M := machine)
    (P := fun ops s' => s' t = .waiting → Op.issue t ∈ ops) (fun waits => absurd waits hs) ?_ h
  intro ops s₁ o s₂ _ ih hstep waits
  rw [List.mem_append, List.mem_singleton]
  by_cases ht : t = o.tag
  · subst ht
    cases o with
    | issue u => exact Or.inr rfl
    | reply u v =>
        rcases step_reply_self hstep with ⟨-, free⟩ | ⟨-, answered⟩
        · rw [Op.tag, free] at waits; cases waits
        · rw [Op.tag, answered] at waits; cases waits
    | take u =>
        obtain ⟨-, free⟩ := step_take_self hstep
        rw [Op.tag, free] at waits; cases waits
  · exact Or.inl (ih ((step_ne hstep ht).symm.trans waits))

/-- A slot that no event is about stays. -/
theorem stays_of_run {s s' : Table T V} {ops : List (Op T V)} {t : T}
    (h : machine.run s ops = some s') (hops : ∀ o ∈ ops, t ≠ o.tag) : s' t = s t := by
  induction ops generalizing s with
  | nil => cases h; rfl
  | cons o ops ih =>
      obtain ⟨w, hstep, hrest⟩ := Option.bind_eq_some_iff.mp h
      rw [ih hrest fun o ho => hops o (List.mem_cons_of_mem _ ho),
        step_ne hstep (hops _ (List.mem_cons_self ..))]

/-- A request under `t` was sent and its reply not collected. -/
def Open (t : T) (ops : List (Op T V)) : Prop :=
  ∃ before after, ops = before ++ .issue t :: after ∧ Op.take t ∉ after

/-- A request under `t` was sent, was answered, and its reply not collected. -/
def Answered (t : T) (ops : List (Op T V)) : Prop :=
  ∃ before v after, ops = before ++ .reply t v :: after ∧ Open t before ∧ Op.take t ∉ after

omit [DecidableEq T] in
theorem not_open_nil (t : T) : ¬ Open t ([] : List (Op T V)) := by
  rintro ⟨before, after, h, -⟩
  cases before <;> cases h

omit [DecidableEq T] in
theorem not_answered_nil (t : T) : ¬ Answered t ([] : List (Op T V)) := by
  rintro ⟨before, v, after, h, -⟩
  cases before <;> cases h

/-- Where the last event of `ops ++ [o]` falls in a split of it. -/
theorem snoc_eq_append_cons {α : Type*} {ops before after : List α} {o x : α} :
    ops ++ [o] = before ++ x :: after ↔
      (after = [] ∧ o = x ∧ ops = before) ∨
        ∃ rest, after = rest ++ [o] ∧ ops = before ++ x :: rest := by
  constructor
  · intro h
    rcases List.eq_nil_or_concat after with rfl | ⟨rest, y, rfl⟩
    · obtain ⟨h₁, h₂⟩ := List.append_inj' h rfl
      exact Or.inl ⟨rfl, by cases h₂; rfl, h₁⟩
    · rw [List.concat_eq_append, ← List.cons_append, ← List.append_assoc] at h
      obtain ⟨h₁, h₂⟩ := List.append_inj' h rfl
      cases h₂
      exact Or.inr ⟨rest, List.concat_eq_append .., h₁⟩
  · rintro (⟨rfl, rfl, rfl⟩ | ⟨rest, rfl, rfl⟩)
    · rfl
    · simp

omit [DecidableEq T] in
theorem open_snoc (t : T) (ops : List (Op T V)) (o : Op T V) :
    Open t (ops ++ [o]) ↔ o = .issue t ∨ (Open t ops ∧ o ≠ .take t) := by
  constructor
  · rintro ⟨before, after, h, hnt⟩
    rcases snoc_eq_append_cons.mp h with ⟨-, ho, -⟩ | ⟨rest, rfl, hops⟩
    · exact Or.inl ho
    · simp only [List.mem_append, List.mem_singleton, not_or] at hnt
      exact Or.inr ⟨⟨before, rest, hops, hnt.1⟩, fun h => hnt.2 h.symm⟩
  · rintro (rfl | ⟨⟨before, after, rfl, hnt⟩, ho⟩)
    · exact ⟨ops, [], by simp, by simp⟩
    · refine ⟨before, after ++ [o], by simp, ?_⟩
      simp only [List.mem_append, List.mem_singleton, not_or]
      exact ⟨hnt, fun h => ho h.symm⟩

omit [DecidableEq T] in
theorem answered_snoc (t : T) (ops : List (Op T V)) (o : Op T V) :
    Answered t (ops ++ [o]) ↔
      ((∃ v, o = .reply t v) ∧ Open t ops) ∨ (Answered t ops ∧ o ≠ .take t) := by
  constructor
  · rintro ⟨before, v, after, h, hopen, hnt⟩
    rcases snoc_eq_append_cons.mp h with ⟨-, ho, rfl⟩ | ⟨rest, rfl, hops⟩
    · exact Or.inl ⟨⟨v, ho⟩, hopen⟩
    · simp only [List.mem_append, List.mem_singleton, not_or] at hnt
      exact Or.inr ⟨⟨before, v, rest, hops, hopen, hnt.1⟩, fun h => hnt.2 h.symm⟩
  · rintro (⟨⟨v, rfl⟩, hopen⟩ | ⟨⟨before, v, after, rfl, hopen, hnt⟩, ho⟩)
    · exact ⟨ops, v, [], by simp, hopen, by simp⟩
    · refine ⟨before, v, after ++ [o], by simp, hopen, ?_⟩
      simp only [List.mem_append, List.mem_singleton, not_or]
      exact ⟨hnt, fun h => ho h.symm⟩

/-- The events of a run say what each slot holds at its end. -/
theorem slot_of_run {s : Table T V} {ops : List (Op T V)} (t : T)
    (h : machine.run Table.empty ops = some s) :
    (s t = .free ↔ ¬ Open t ops) ∧ ((∃ v, s t = .answered v) ↔ Answered t ops) := by
  refine Machine.run_history (M := machine)
    (P := fun ops s => (s t = .free ↔ ¬ Open t ops) ∧
      ((∃ v, s t = .answered v) ↔ Answered t ops)) ?_ ?_ h
  · refine ⟨⟨fun _ => not_open_nil t, fun _ => rfl⟩, ?_, fun h => absurd h (not_answered_nil t)⟩
    rintro ⟨v, hv⟩
    cases hv
  · intro ops s₁ o s₂ _ ih hstep
    obtain ⟨ihf, iha⟩ := ih
    have hstep : step s₁ o = some s₂ := hstep
    rw [open_snoc, answered_snoc]
    by_cases ht : t = o.tag
    · cases o with
      | issue u =>
          obtain rfl : t = u := ht
          rcases step_issue_self hstep with ⟨hfree, hw⟩ | ⟨hne, hk⟩
          · have hna : ¬ Answered t ops := by
              rw [← iha, hfree]
              rintro ⟨v, hv⟩
              cases hv
            simp [hw, hna]
          · simp [hk, hne, iha]
      | reply u w =>
          obtain rfl : t = u := ht
          rcases step_reply_self hstep with ⟨hfree, hf⟩ | ⟨hwait, hr⟩
          · have hno : ¬ Open t ops := ihf.mp hfree
            have hna : ¬ Answered t ops := by
              rw [← iha, hfree]
              rintro ⟨v, hv⟩
              cases hv
            simp [hf, hno, hna]
          · have ho : Open t ops := by
              by_contra hno
              rw [ihf.mpr hno] at hwait
              cases hwait
            simp [hr, ho]
      | take u =>
          obtain rfl : t = u := ht
          obtain ⟨-, hf⟩ := step_take_self hstep
          simp [hf]
    · rw [step_ne hstep ht, ihf, iha]
      have h₁ : o ≠ .issue t := by rintro rfl; exact ht rfl
      have h₂ : o ≠ .take t := by rintro rfl; exact ht rfl
      have h₃ : ¬ ∃ v, o = .reply t v := by rintro ⟨v, rfl⟩; exact ht rfl
      simp [h₁, h₂, h₃]

end Lib.Slots
