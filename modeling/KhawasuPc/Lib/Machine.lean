import Mathlib.Data.List.Induction

/-!
# Machines and their runs

A machine is a deterministic step function over events, undefined where an
event is not enabled.  Nondeterminism lives in the events: whatever the
environment chooses is a field of the event.

`Machine.run` folds a list of events.  The induction over runs is done once,
in `Machine.run_history`: a property of the events so far and the state they
lead to holds after every run when it holds at the start and every step keeps
it.  `Machine.run_meets` and `Machine.run_history_meets` are the same rule under a
condition on each step, and `Machine.run_outputs` has what the steps put out at hand.

A *simulation* sends every step of one machine to a run of another over the
labels of that step.  `Simulation.run` lifts it to runs.  An *abstraction* leaves out some of the
state, and loses no event.
-/

namespace Lib

universe u v

/-- A deterministic machine with states `σ` and events `ε`. -/
structure Machine (σ : Type u) (ε : Type v) where
  /-- The state an event leads to, if the event is enabled. -/
  step : σ → ε → Option σ

namespace Machine

variable {σ : Type u} {ε : Type v} (M : Machine σ ε)

/-- Take the events of a list in order. -/
def run : σ → List ε → Option σ
  | s, [] => some s
  | s, e :: es => (M.step s e).bind fun t => run t es

@[simp] theorem run_nil (s : σ) : M.run s [] = some s := rfl

theorem run_cons (s : σ) (e : ε) (es : List ε) :
    M.run s (e :: es) = (M.step s e).bind fun t => M.run t es := rfl

theorem run_append (s : σ) (es fs : List ε) :
    M.run s (es ++ fs) = (M.run s es).bind fun t => M.run t fs := by
  induction es generalizing s with
  | nil => rfl
  | cons e es ih =>
      rw [List.cons_append, run_cons, run_cons]
      cases M.step s e with
      | none => rfl
      | some t => simpa using ih t

theorem run_snoc (s : σ) (es : List ε) (e : ε) :
    M.run s (es ++ [e]) = (M.run s es).bind fun t => M.step t e := by
  rw [run_append]
  congr 1
  funext t
  rw [run_cons]
  cases M.step t e <;> rfl

variable {M}

theorem run_trans {s t w : σ} {es fs : List ε}
    (h₁ : M.run s es = some t) (h₂ : M.run t fs = some w) : M.run s (es ++ fs) = some w := by
  rw [run_append, h₁]
  exact h₂

theorem run_singleton {s t : σ} {e : ε} (h : M.step s e = some t) : M.run s [e] = some t := by
  rw [run_cons, h]
  rfl

/-- A run up to an event, the event, and a run from there. -/
theorem run_through {s t u w : σ} {es fs : List ε} {e : ε} (h₁ : M.run s es = some t)
    (h : M.step t e = some u) (h₂ : M.run u fs = some w) : M.run s (es ++ e :: fs) = some w := by
  refine run_trans h₁ ?_
  rw [run_cons, h]
  exact h₂

/-- A run of a concatenation stops at the state between the two parts. -/
theorem run_append_some {s w : σ} {es fs : List ε} (h : M.run s (es ++ fs) = some w) :
    ∃ t, M.run s es = some t ∧ M.run t fs = some w := by
  rw [run_append] at h
  cases hes : M.run s es with
  | none => simp [hes] at h
  | some t => exact ⟨t, rfl, by simpa [hes] using h⟩

theorem run_snoc_some {s w : σ} {es : List ε} {e : ε} (h : M.run s (es ++ [e]) = some w) :
    ∃ t, M.run s es = some t ∧ M.step t e = some w := by
  rw [run_snoc] at h
  cases hes : M.run s es with
  | none => simp [hes] at h
  | some t => exact ⟨t, rfl, by simpa [hes] using h⟩

/-- Induction over runs, with the events so far at hand. -/
theorem run_history {s : σ} {P : List ε → σ → Prop} (start : P [] s)
    (keep : ∀ es t e w, M.run s es = some t → P es t → M.step t e = some w → P (es ++ [e]) w) :
    ∀ {es : List ε} {t : σ}, M.run s es = some t → P es t := by
  intro es
  induction es using List.reverseRecOn with
  | nil =>
      intro t h
      cases h
      exact start
  | append_singleton es e ih =>
      intro w h
      obtain ⟨t, hes, hstep⟩ := run_snoc_some h
      exact keep es t e w hes (ih hes) hstep

/-- There is a run where each event can be taken after those before it. -/
theorem exists_run {s : σ} {es : List ε}
    (enabled : ∀ pre e post t, es = pre ++ e :: post → M.run s pre = some t →
      ∃ u, M.step t e = some u) :
    ∃ t, M.run s es = some t := by
  induction es using List.reverseRecOn with
  | nil => exact ⟨s, rfl⟩
  | append_singleton es e ih =>
      have before : ∃ t, M.run s es = some t := by
        refine ih fun pre f post t eq hpre => enabled pre f (post ++ [e]) t ?_ hpre
        rw [eq, List.append_assoc, List.cons_append]
      obtain ⟨t, hes⟩ := before
      obtain ⟨u, hstep⟩ := enabled es e [] t rfl hes
      exact ⟨u, by rw [run_snoc, hes]; exact hstep⟩

/-- What holds at the end of a run and not at its start came with one of its steps. -/
theorem run_gains {P : σ → Prop} {s t : σ} {es : List ε} (h : M.run s es = some t)
    (before : ¬ P s) (after : P t) :
    ∃ pre e post u v, es = pre ++ e :: post ∧ M.run s pre = some u ∧ M.step u e = some v ∧
      M.run v post = some t ∧ ¬ P u ∧ P v := by
  induction es generalizing s with
  | nil => cases h; exact absurd after before
  | cons e es ih =>
      obtain ⟨w, hstep, hes⟩ := Option.bind_eq_some_iff.mp h
      by_cases now : P w
      · exact ⟨[], e, es, s, w, rfl, rfl, hstep, hes, before, now⟩
      · obtain ⟨pre, f, post, u, v, rfl, hpre, moved⟩ := ih hes now
        exact ⟨e :: pre, f, post, u, v, rfl, by rw [run_cons, hstep]; exact hpre, moved⟩

/-- A property every step keeps holds after every run. -/
theorem run_invariant {P : σ → Prop} (keep : ∀ t e w, P t → M.step t e = some w → P w)
    {s t : σ} {es : List ε} (h : M.run s es = some t) (start : P s) : P t :=
  run_history (P := fun _ => P) start (fun _ t e w _ ht hw => keep t e w ht hw) h

/-- Every step of the run meets the condition `C` on the state before it and its
event. -/
def Meets (M : Machine σ ε) (C : σ → ε → Prop) : σ → List ε → Prop
  | _, [] => True
  | s, e :: es => C s e ∧ ∀ t, M.step s e = some t → Meets M C t es

theorem Meets.last {C : σ → ε → Prop} {s t : σ} {es : List ε} {e : ε}
    (hm : M.Meets C s (es ++ [e])) (h : M.run s es = some t) : C t e := by
  induction es generalizing s with
  | nil => cases h; exact hm.1
  | cons f es ih =>
      obtain ⟨w, hstep, hes⟩ := Option.bind_eq_some_iff.mp h
      exact ih (hm.2 w hstep) hes

theorem Meets.init {C : σ → ε → Prop} {s : σ} {es : List ε} {e : ε}
    (hm : M.Meets C s (es ++ [e])) : M.Meets C s es := by
  induction es generalizing s with
  | nil => trivial
  | cons f es ih => exact ⟨hm.1, fun t ht => ih (hm.2 t ht)⟩

/-- Induction over runs whose steps all meet a condition, with the events so far at
hand. -/
theorem run_history_meets {C : σ → ε → Prop} {s : σ} {P : List ε → σ → Prop} (start : P [] s)
    (keep : ∀ es t e w, M.run s es = some t → C t e → P es t → M.step t e = some w →
      P (es ++ [e]) w) :
    ∀ {es : List ε} {t : σ}, M.run s es = some t → M.Meets C s es → P es t := by
  intro es
  induction es using List.reverseRecOn with
  | nil =>
      intro t h _
      cases h
      exact start
  | append_singleton es e ih =>
      intro w h hm
      obtain ⟨t, hes, hstep⟩ := run_snoc_some h
      exact keep es t e w hes (hm.last hes) (ih hes hm.init) hstep

/-- On the states an invariant describes one condition gives another. -/
theorem Meets.imp_of_invariant {I : σ → Prop} {C D : σ → ε → Prop}
    (keep : ∀ s e t, I s → M.step s e = some t → I t)
    (himp : ∀ s e, I s → C s e → D s e) {s : σ} {es : List ε} (hs : I s)
    (hm : M.Meets C s es) : M.Meets D s es := by
  induction es generalizing s with
  | nil => trivial
  | cons e es ih =>
      exact ⟨himp s e hs hm.1, fun t ht => ih (keep s e t hs ht) (hm.2 t ht)⟩

/-- A condition met by a run and by what goes on from where it ends. -/
theorem Meets.append {C : σ → ε → Prop} {s : σ} {es fs : List ε} (hm : M.Meets C s es)
    (rest : ∀ t, M.run s es = some t → M.Meets C t fs) : M.Meets C s (es ++ fs) := by
  induction es generalizing s with
  | nil => exact rest s rfl
  | cons e es ih =>
      refine ⟨hm.1, fun w hw => ih (hm.2 w hw) fun t ht => rest t ?_⟩
      rw [run_cons, hw]
      exact ht

theorem Meets.imp {C D : σ → ε → Prop} (himp : ∀ s e, C s e → D s e) {s : σ} {es : List ε}
    (hm : M.Meets C s es) : M.Meets D s es :=
  hm.imp_of_invariant (I := fun _ => True) (fun _ _ _ _ _ => trivial)
    (fun s e _ hc => himp s e hc) trivial

/-- A condition the events meet in every state. -/
theorem meets_of_forall {C : σ → ε → Prop} {es : List ε} (h : ∀ e ∈ es, ∀ s, C s e) (s : σ) :
    M.Meets C s es := by
  induction es generalizing s with
  | nil => trivial
  | cons e es ih =>
      refine ⟨h e (List.mem_cons_self ..) s, fun t _ => ?_⟩
      exact ih (fun f hf => h f (List.mem_cons_of_mem _ hf)) t

/-- A property kept by the steps that meet a condition holds after every run whose
steps all meet it. -/
theorem run_meets {C : σ → ε → Prop} {P : σ → Prop}
    (keep : ∀ t e w, C t e → P t → M.step t e = some w → P w) {s t : σ} {es : List ε}
    (h : M.run s es = some t) (hm : M.Meets C s es) (start : P s) : P t := by
  induction es generalizing s with
  | nil => cases h; exact start
  | cons e es ih =>
      obtain ⟨w, hstep, hes⟩ := Option.bind_eq_some_iff.mp h
      exact ih hes (hm.2 w hstep) (keep s e w hm.1 start hstep)

/-- A machine that takes some of the steps of another has some of its runs. -/
theorem run_of_le {M N : Machine σ ε} (le : ∀ s e t, M.step s e = some t → N.step s e = some t)
    {s t : σ} {es : List ε} (h : M.run s es = some t) : N.run s es = some t := by
  induction es generalizing s with
  | nil => exact h
  | cons e es ih =>
      obtain ⟨w, hstep, hes⟩ := Option.bind_eq_some_iff.mp h
      rw [run_cons, le s e w hstep]
      exact ih hes

/-- What the steps of such a run meet, they meet in the other machine. -/
theorem Meets.of_le {M N : Machine σ ε} {C : σ → ε → Prop}
    (le : ∀ s e t, M.step s e = some t → N.step s e = some t) {s t : σ} {es : List ε}
    (h : M.run s es = some t) (hm : M.Meets C s es) : N.Meets C s es := by
  induction es generalizing s with
  | nil => trivial
  | cons e es ih =>
      obtain ⟨w, hstep, hes⟩ := Option.bind_eq_some_iff.mp h
      refine ⟨hm.1, fun v hv => ?_⟩
      cases (le s e w hstep).symm.trans hv
      exact ih hes (hm.2 w hstep)

/-- What a run says of its steps when it ends in a good state: where good states are
reached from good states only, by steps that meet a condition, all its steps do. -/
theorem meets_of_end {G I : σ → Prop} {C : σ → ε → Prop}
    (keep : ∀ s e t, I s → M.step s e = some t → I t)
    (back : ∀ s e t, I s → M.step s e = some t → G t → G s ∧ C s e)
    {s t : σ} {es : List ε} (h : M.run s es = some t) (hs : I s) (ht : G t) :
    G s ∧ M.Meets C s es := by
  induction es generalizing s with
  | nil => cases h; exact ⟨ht, trivial⟩
  | cons e es ih =>
      obtain ⟨w, hstep, hes⟩ := Option.bind_eq_some_iff.mp h
      obtain ⟨hw, hm⟩ := ih hes (keep s e w hs hstep)
      obtain ⟨here, hc⟩ := back s e w hs hstep hw
      refine ⟨here, hc, fun v hv => ?_⟩
      cases hstep.symm.trans hv
      exact hm

/-- Where steps are taken in good states only, a run ends in a good state exactly if all
its steps meet the condition that decides whether one leads to a good state. -/
theorem good_iff_meets {G I : σ → Prop} {C : σ → ε → Prop}
    (enabled : ∀ s e t, M.step s e = some t → G s)
    (keep : ∀ s e t, I s → M.step s e = some t → I t)
    (decides : ∀ s e t, I s → M.step s e = some t → (G t ↔ C s e))
    {s t : σ} {es : List ε} (h : M.run s es = some t) (hs : I s) (start : G s) :
    G t ↔ M.Meets C s es := by
  constructor
  · intro ht
    have back : ∀ s e t, I s → M.step s e = some t → G t → G s ∧ C s e :=
      fun s e t hs hstep ht => ⟨enabled s e t hstep, (decides s e t hs hstep).mp ht⟩
    exact (meets_of_end keep back h hs ht).2
  · intro hm
    have both : I t ∧ G t := run_meets (P := fun s => I s ∧ G s)
      (fun s e t hc hs hstep => ⟨keep s e t hs.1 hstep, (decides s e t hs.1 hstep).mpr hc⟩)
      h hm ⟨hs, start⟩
    exact both.2

/-- A run with some of its events left out: where these keep two states related, and every
other event is followed by the second machine state, the rest is a run that ends
related. -/
theorem run_leftOut {R : σ → σ → Prop} {C : σ → ε → Prop} {drop : ε → Bool}
    (leave : ∀ s e s' t, drop e = true → R s t → M.step s e = some s' → R s' t)
    (follow : ∀ s e s' t, drop e = false → C s e → R s t → M.step s e = some s' →
      ∃ t', M.step t e = some t' ∧ R s' t')
    {s s' t : σ} {es : List ε} (h : M.run s es = some s') (hm : M.Meets C s es) (hr : R s t) :
    ∃ t', M.run t (es.filter fun e => !drop e) = some t' ∧ R s' t' := by
  induction es generalizing s t with
  | nil => cases h; exact ⟨t, rfl, hr⟩
  | cons e es ih =>
      obtain ⟨w, hstep, hes⟩ := Option.bind_eq_some_iff.mp h
      cases hd : drop e with
      | true =>
          obtain ⟨t', hrun, hr'⟩ := ih hes (hm.2 w hstep) (leave s e w t hd hr hstep)
          exact ⟨t', by simpa [hd] using hrun, hr'⟩
      | false =>
          obtain ⟨v, hv, hrv⟩ := follow s e w t hd hm.1 hr hstep
          obtain ⟨t', hrun, hr'⟩ := ih hes (hm.2 w hstep) hrv
          refine ⟨t', ?_, hr'⟩
          simp only [hd, Bool.not_false, List.filter_cons_of_pos]
          rw [run_cons, hv]
          exact hrun

/-! ## Outputs -/

variable {α : Type*} {out : σ → ε → List α}

/-- What the steps of a run put out, in order. -/
def outputs (M : Machine σ ε) (out : σ → ε → List α) : σ → List ε → List α
  | _, [] => []
  | s, e :: es =>
      out s e ++ match M.step s e with
        | none => []
        | some t => outputs M out t es

theorem outputs_cons {s t : σ} {e : ε} (h : M.step s e = some t) (es : List ε) :
    M.outputs out s (e :: es) = out s e ++ M.outputs out t es := by
  rw [outputs, h]

/-- A run and what goes on from where it ends put out what each of them does. -/
theorem outputs_append {s t : σ} {es : List ε} (h : M.run s es = some t) (fs : List ε) :
    M.outputs out s (es ++ fs) = M.outputs out s es ++ M.outputs out t fs := by
  induction es generalizing s with
  | nil => cases h; rfl
  | cons e es ih =>
      obtain ⟨w, hstep, hes⟩ := Option.bind_eq_some_iff.mp h
      rw [List.cons_append, outputs_cons hstep, outputs_cons hstep, ih hes, List.append_assoc]

theorem outputs_singleton (s : σ) (e : ε) : M.outputs out s [e] = out s e := by
  rw [outputs]
  cases M.step s e <;> exact List.append_nil _

/-- One more event puts out what it puts out in the state reached. -/
theorem outputs_snoc {s t : σ} {es : List ε} (h : M.run s es = some t) (e : ε) :
    M.outputs out s (es ++ [e]) = M.outputs out s es ++ out t e := by
  rw [outputs_append h, outputs_singleton]

/-- A run puts out no more than it has events, if no step puts out more than one. -/
theorem length_outputs_le (one : ∀ s e, (out s e).length ≤ 1) (s : σ) (es : List ε) :
    (M.outputs out s es).length ≤ es.length := by
  induction es generalizing s with
  | nil => exact Nat.le_refl 0
  | cons e es ih =>
      rw [outputs, List.length_append, List.length_cons, Nat.add_comm]
      refine Nat.add_le_add ?_ (one s e)
      cases M.step s e with
      | none => exact Nat.zero_le _
      | some t => exact ih t

/-- What a run puts out is put out by one of its steps. -/
theorem mem_outputs {s t : σ} {es : List ε} {a : α} (h : M.run s es = some t)
    (ha : a ∈ M.outputs out s es) :
    ∃ pre e post u v, es = pre ++ e :: post ∧ M.run s pre = some u ∧ M.step u e = some v ∧
      M.run v post = some t ∧ a ∈ out u e := by
  induction es generalizing s with
  | nil => cases ha
  | cons e es ih =>
      obtain ⟨w, hstep, hes⟩ := Option.bind_eq_some_iff.mp h
      rw [outputs_cons hstep] at ha
      rcases List.mem_append.mp ha with ha | ha
      · exact ⟨[], e, es, s, w, rfl, rfl, hstep, hes, ha⟩
      · obtain ⟨pre, f, post, u, v, rfl, hpre, hf, hpost, hout⟩ := ih hes ha
        exact ⟨e :: pre, f, post, u, v, rfl, by rw [run_cons, hstep]; exact hpre, hf, hpost, hout⟩

/-- What a step of a run puts out is put out by the run. -/
theorem mem_outputs_of_run {s t : σ} {pre : List ε} (h : M.run s pre = some t) {e : ε}
    (post : List ε) {a : α} (ha : a ∈ out t e) : a ∈ M.outputs out s (pre ++ e :: post) := by
  induction pre generalizing s with
  | nil =>
      cases h
      exact List.mem_append_left _ ha
  | cons f pre ih =>
      obtain ⟨w, hstep, hpre⟩ := Option.bind_eq_some_iff.mp h
      rw [List.cons_append, outputs_cons hstep]
      exact List.mem_append_right _ (ih hpre)

/-- A property of the outputs so far and the state, kept by the steps that meet a
condition, holds after every run whose steps all meet it. -/
theorem run_outputs {C : σ → ε → Prop} {P : List α → σ → Prop}
    (keep : ∀ as s e t, C s e → P as s → M.step s e = some t → P (as ++ out s e) t)
    {s t : σ} {es : List ε} (h : M.run s es = some t) (hm : M.Meets C s es) (start : P [] s) :
    P (M.outputs out s es) t := by
  have after : ∀ (es : List ε) (s : σ) (as : List α), M.run s es = some t → M.Meets C s es →
      P as s → P (as ++ M.outputs out s es) t := by
    intro es
    induction es with
    | nil =>
        intro s as h _ hs
        cases h
        rwa [outputs, List.append_nil]
    | cons e es ih =>
        intro s as h hm hs
        obtain ⟨w, hstep, hes⟩ := Option.bind_eq_some_iff.mp h
        rw [outputs, hstep, ← List.append_assoc]
        exact ih w _ hes (hm.2 w hstep) (keep as s e w hm.1 hs hstep)
  exact after es s [] h hm start

end Machine

/-! ## Simulations -/

/-- `M` is simulated by `N`: every step of `M` between states that satisfy
`inv` is a run of `N` over the labels of the step. -/
structure Simulation {σ ε τ δ : Type*} (M : Machine σ ε) (N : Machine τ δ) where
  /-- The invariant of `M` the simulation relies on. -/
  inv : σ → Prop
  /-- The state of `N` that a state of `M` stands for. -/
  abs : σ → τ
  /-- What a step of `M` does, told in events of `N`. -/
  label : σ → ε → List δ
  keep : ∀ s e t, inv s → M.step s e = some t → inv t
  sim : ∀ s e t, inv s → M.step s e = some t → N.run (abs s) (label s e) = some (abs t)

namespace Simulation

variable {σ ε τ δ : Type*} {M : Machine σ ε} {N : Machine τ δ} (R : Simulation M N)

/-- The labels along a run. -/
def labels : σ → List ε → List δ
  | _, [] => []
  | s, e :: es =>
      R.label s e ++ match M.step s e with
        | none => []
        | some t => labels t es

/-- Every label along a run is a label of one of its steps. -/
theorem mem_labels {s : σ} {es : List ε} {l : δ} (h : l ∈ R.labels s es) :
    ∃ pre e post t, es = pre ++ e :: post ∧ M.run s pre = some t ∧ l ∈ R.label t e := by
  induction es generalizing s with
  | nil => cases h
  | cons e es ih =>
      simp only [labels, List.mem_append] at h
      rcases h with h | h
      · exact ⟨[], e, es, s, rfl, rfl, h⟩
      · cases hs : M.step s e with
        | none => simp [hs] at h
        | some t =>
            rw [hs] at h
            obtain ⟨pre, f, post, w, rfl, hrun, hl⟩ := ih h
            exact ⟨e :: pre, f, post, w, rfl, by rw [Machine.run_cons, hs]; exact hrun, hl⟩

/-- The simulation of a whole run. -/
theorem run {s t : σ} {es : List ε} (h : M.run s es = some t) (hs : R.inv s) :
    R.inv t ∧ N.run (R.abs s) (R.labels s es) = some (R.abs t) := by
  induction es generalizing s with
  | nil => cases h; exact ⟨hs, rfl⟩
  | cons e es ih =>
      rw [Machine.run_cons] at h
      cases hstep : M.step s e with
      | none => simp [hstep] at h
      | some w =>
          rw [hstep] at h
          obtain ⟨hinv, hrun⟩ := ih h (R.keep s e w hs hstep)
          refine ⟨hinv, ?_⟩
          simp only [labels, hstep]
          exact Machine.run_trans (R.sim s e w hs hstep) hrun

/-- Where the labels of each step meet a condition, those of a run do. -/
theorem meets {C : σ → ε → Prop} {D : τ → δ → Prop}
    (himp : ∀ s e, R.inv s → C s e → N.Meets D (R.abs s) (R.label s e))
    {s : σ} {es : List ε} (hs : R.inv s) (hm : M.Meets C s es) :
    N.Meets D (R.abs s) (R.labels s es) := by
  induction es generalizing s with
  | nil => trivial
  | cons e es ih =>
      refine (himp s e hs hm.1).append fun w hw => ?_
      cases hstep : M.step s e with
      | none => trivial
      | some t =>
          have reached := R.sim s e t hs hstep
          cases hw.symm.trans reached
          exact ih (R.keep s e t hs hstep) (hm.2 t hstep)

/-- The labels of a run put out what the run does, if those of each step do. -/
theorem outputs_labels {α : Type*} {out : σ → ε → List α} {out' : τ → δ → List α}
    (same : ∀ s e, N.outputs out' (R.abs s) (R.label s e) = out s e) {s t : σ} {es : List ε}
    (h : M.run s es = some t) (hs : R.inv s) :
    N.outputs out' (R.abs s) (R.labels s es) = M.outputs out s es := by
  induction es generalizing s with
  | nil => rfl
  | cons e es ih =>
      obtain ⟨w, hstep, hes⟩ := Option.bind_eq_some_iff.mp h
      simp only [labels, hstep]
      rw [Machine.outputs_append (R.sim s e w hs hstep), Machine.outputs_cons hstep, same,
        ih hes (R.keep s e w hs hstep)]

/-- The labels of two runs one after the other. -/
theorem labels_append {s t : σ} {es : List ε} (h : M.run s es = some t) (fs : List ε) :
    R.labels s (es ++ fs) = R.labels s es ++ R.labels t fs := by
  induction es generalizing s with
  | nil => cases h; rfl
  | cons e es ih =>
      obtain ⟨w, hstep, hes⟩ := Option.bind_eq_some_iff.mp h
      simp only [List.cons_append, labels, hstep]
      rw [ih hes, List.append_assoc]

/-- The labels of a run up to an event, of the event, and of a run from there. -/
theorem labels_through {s t u : σ} {es fs : List ε} {e : ε} (h₁ : M.run s es = some t)
    (h : M.step t e = some u) :
    R.labels s (es ++ e :: fs) = R.labels s es ++ (R.label t e ++ R.labels u fs) := by
  rw [labels_append R h₁, labels, h]

/-- Where a step has one label at most, each label along a run is that of one step. -/
theorem labels_split (one : ∀ s e, (R.label s e).length ≤ 1) {s t : σ} {es : List ε}
    (h : M.run s es = some t) {before after : List δ} {l : δ}
    (eq : R.labels s es = before ++ l :: after) :
    ∃ pre e post u, es = pre ++ e :: post ∧ M.run s pre = some u ∧ R.labels s pre = before ∧
      R.label u e = [l] := by
  induction es generalizing s before with
  | nil => cases before <;> cases eq
  | cons e es ih =>
      obtain ⟨w, hstep, hes⟩ := Option.bind_eq_some_iff.mp h
      have further : ∀ {rest}, R.labels w es = rest ++ l :: after →
          R.label s e ++ rest = before → ∃ pre f post u, e :: es = pre ++ f :: post ∧
            M.run s pre = some u ∧ R.labels s pre = before ∧ R.label u f = [l] := by
        intro rest eq same
        obtain ⟨pre, f, post, u, rfl, hpre, labels_eq, label_eq⟩ := ih hes eq
        have reached : M.run s (e :: pre) = some u := by
          rw [Machine.run_cons, hstep]
          exact hpre
        refine ⟨e :: pre, f, post, u, rfl, reached, ?_, label_eq⟩
        simp only [labels, hstep]
        rw [labels_eq, same]
      simp only [labels, hstep] at eq
      match label_eq : R.label s e, one s e with
      | [], _ =>
          rw [label_eq] at eq
          exact further eq (by rw [label_eq]; rfl)
      | [x], _ =>
          rw [label_eq] at eq
          cases before with
          | nil => cases eq; exact ⟨[], e, es, s, rfl, rfl, rfl, label_eq⟩
          | cons y before =>
              obtain ⟨rfl, rest_eq⟩ := List.cons.inj eq
              exact further rest_eq (by rw [label_eq]; rfl)

/-- How many labels of a kind there are along a run. -/
theorem countP_labels {p : δ → Bool} {q : ε → Bool}
    (hone : ∀ s e, (R.label s e).countP p = [e].countP q) {s t : σ} {es : List ε}
    (h : M.run s es = some t) : (R.labels s es).countP p = es.countP q := by
  induction es generalizing s with
  | nil => rfl
  | cons e es ih =>
      obtain ⟨w, hstep, hes⟩ := Option.bind_eq_some_iff.mp h
      simp only [labels, hstep]
      rw [List.countP_append, hone, ih hes, ← List.countP_append, List.singleton_append]

end Simulation

/-! ## Abstractions -/

/-- `N` is `M` with some of its state left out: from a state of `M` that satisfies `inv`, both take
the same events, to states that stay so. -/
structure Abstraction {σ ε τ : Type*} (M : Machine σ ε) (N : Machine τ ε) where
  /-- The invariant of `M` the abstraction relies on. -/
  inv : σ → Prop
  /-- What is left of a state. -/
  abs : σ → τ
  keep : ∀ s e t, inv s → M.step s e = some t → inv t
  same : ∀ s e, inv s → (M.step s e).map abs = N.step (abs s) e

namespace Abstraction

variable {σ ε τ : Type*} {M : Machine σ ε} {N : Machine τ ε} (A : Abstraction M N)

/-- A run is enabled where what is left of it is. -/
theorem run {s : σ} (hs : A.inv s) (es : List ε) :
    (M.run s es).map A.abs = N.run (A.abs s) es := by
  induction es generalizing s with
  | nil => rfl
  | cons e es ih =>
      rw [Machine.run_cons, Machine.run_cons, ← A.same s e hs]
      cases hstep : M.step s e with
      | none => rfl
      | some t => exact ih (A.keep s e t hs hstep)

/-- A run puts out what is put out without what is left out, if each step does. -/
theorem outputs {α : Type*} {out : σ → ε → List α} {out' : τ → ε → List α}
    (puts : ∀ s e, A.inv s → out s e = out' (A.abs s) e) {s : σ} (hs : A.inv s) (es : List ε) :
    M.outputs out s es = N.outputs out' (A.abs s) es := by
  induction es generalizing s with
  | nil => rfl
  | cons e es ih =>
      rw [Machine.outputs, Machine.outputs, puts s e hs, ← A.same s e hs]
      cases hstep : M.step s e with
      | none => rfl
      | some t => exact congrArg (out' (A.abs s) e ++ ·) (ih (A.keep s e t hs hstep))

end Abstraction

end Lib
