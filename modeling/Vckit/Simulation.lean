/-
**Labelled runs and forward simulation.**

A system is a relation between a state, a label and a next state; a run is a sequence of steps, and
its trace is the list of their labels, newest first.  A relation between the states of two systems
is a forward simulation when every step of the first is answered by the second: by one step with
the label that is seen of it, or, when nothing is seen of it, by none.  Then every run of the first
is answered by a run of the second with the labels that are seen.

Main definitions:

* `Simulation.Run` — the runs of a system;
* `Simulation.Forward` — forward simulation.

Main results:

* `Simulation.Run.of_invariant` — a run that is also one of another system;
* `Simulation.Run.append` — a run after a run;
* `Simulation.Forward.run` — **a run is answered by a run**.
-/

import Mathlib.Tactic.Common

set_option relaxedAutoImplicit false
set_option autoImplicit false

namespace Simulation

variable {σ τ L M : Type*}

/-- A run from `s`, with the labels of its steps, newest first. -/
inductive Run (step : σ → L → σ → Prop) (s : σ) : List L → σ → Prop
  | nil : Run step s [] s
  | cons {trace : List L} {l : L} {t u : σ} (hrun : Run step s trace t) (hstep : step t l u) :
      Run step s (l :: trace) u

section Run

variable {step : σ → L → σ → Prop} {s t u : σ} {trace trace' : List L} {l : L}

/-- A run with a last step. -/
theorem run_cons_iff : Run step s (l :: trace) u ↔ ∃ t, Run step s trace t ∧ step t l u := by
  constructor
  · rintro ⟨⟩
    exact ⟨_, ‹_›, ‹_›⟩
  · rintro ⟨t, hrun, hstep⟩
    exact hrun.cons hstep

/-- **A run that is also one of another system**, when the steps are, in the states that the steps
of that system keep to. -/
theorem Run.of_invariant {step' : σ → L → σ → Prop} {I : σ → Prop} (hrun : Run step s trace t)
    (hstart : I s) (hstep : ∀ {s l s'}, I s → step s l s' → step' s l s')
    (hkeep : ∀ {s l s'}, I s → step' s l s' → I s') : Run step' s trace t := by
  have hboth : Run step' s trace t ∧ I t := by
    induction hrun with
    | nil => exact ⟨Run.nil, hstart⟩
    | cons _ h ih =>
        obtain ⟨hrun', hinv⟩ := ih
        have h' := hstep hinv h
        exact ⟨hrun'.cons h', hkeep hinv h'⟩
  exact hboth.1

/-- A label of a run is the label of one of its steps. -/
theorem Run.exists_step (hrun : Run step s trace t) (hl : l ∈ trace) : ∃ u v, step u l v := by
  induction hrun with
  | nil => cases hl
  | cons _ hstep ih =>
      rcases List.mem_cons.1 hl with rfl | hl
      · exact ⟨_, _, hstep⟩
      · exact ih hl

/-- A run after a run. -/
theorem Run.append (hrun : Run step s trace t) (hrun' : Run step t trace' u) :
    Run step s (trace' ++ trace) u := by
  induction hrun' with
  | nil => exact hrun
  | cons _ h ih => exact ih.cons h

/-- A run with a trace in two parts. -/
theorem run_append_iff :
    Run step s (trace' ++ trace) u ↔ ∃ t, Run step s trace t ∧ Run step t trace' u := by
  constructor
  · intro hrun
    induction trace' generalizing u with
    | nil => exact ⟨u, hrun, Run.nil⟩
    | cons l trace' ih =>
        obtain ⟨v, hrun, hstep⟩ := run_cons_iff.1 hrun
        obtain ⟨t, hfirst, hrest⟩ := ih hrun
        exact ⟨t, hfirst, hrest.cons hstep⟩
  · rintro ⟨t, hrun, hrun'⟩
    exact hrun.append hrun'

end Run

/-! ### Forward simulation -/

/-- **Forward simulation**: `R` relates the states of two systems, `see` says what is seen of a
step of the first. -/
structure Forward (step : σ → L → σ → Prop) (step' : τ → M → τ → Prop) (see : L → Option M)
    (R : σ → τ → Prop) : Prop where
  /-- A step of which nothing is seen is answered by none. -/
  silent : ∀ {s t l s'}, R s t → step s l s' → see l = none → R s' t
  /-- A step of which a label is seen is answered by a step with that label. -/
  visible : ∀ {s t l s' m}, R s t → step s l s' → see l = some m → ∃ t', step' t m t' ∧ R s' t'

variable {step : σ → L → σ → Prop} {step' : τ → M → τ → Prop} {see : L → Option M}
  {R : σ → τ → Prop}

/-- **A run is answered by a run** with the labels that are seen. -/
theorem Forward.run (h : Forward step step' see R) {s s' : σ} {t : τ} {trace : List L}
    (hstart : R s t) (hrun : Run step s trace s') :
    ∃ t', Run step' t (trace.filterMap see) t' ∧ R s' t' := by
  induction hrun with
  | nil => exact ⟨t, Run.nil, hstart⟩
  | @cons trace l _ _ _ hstep ih =>
      obtain ⟨t', hrun', hrel⟩ := ih
      cases hl : see l with
      | none =>
          rw [List.filterMap_cons_none hl]
          exact ⟨t', hrun', h.silent hrel hstep hl⟩
      | some m =>
          obtain ⟨t'', hstep', hrel'⟩ := h.visible hrel hstep hl
          rw [List.filterMap_cons_some hl]
          exact ⟨t'', hrun'.cons hstep', hrel'⟩

end Simulation
