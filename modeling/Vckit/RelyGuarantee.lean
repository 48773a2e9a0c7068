/-
**Programs that run side by side on one store.**

When other programs may run between any two operations of a program, it can rely on nothing it has
seen of the store but what never goes away.  A *discipline* says what that is: an invariant of the
store, and an order in which the store only moves up.  A program keeps to it when each of its
operations does, wherever the others have moved the store to in the meantime; and what it says of
the store when it returns may rely on the same.

Programs that keep to one discipline keep to it together, in every interleaving: so each can be
looked at alone.

Main definitions:

* `Prog.Discipline` — an invariant, and an order;
* `Prog.Guarantees` — a program keeps to a discipline, and returns as it should;
* `Threads.sharedStore`, `Threads.once`, `Threads.pool` — programs side by side.

Main results:

* `Prog.guarantees_perform`, `Prog.Guarantees.bind`, `Prog.Guarantees.and_le` — the rules;
* `Threads.Reaches.guarantees` — **every interleaving keeps to the discipline**, and each program
  returns as it should.
-/

import Vckit.Threads

set_option relaxedAutoImplicit false
set_option autoImplicit false

namespace Prog

variable {Op : Type} {Resp : Op → Type} {ε α β σ χ : Type}

/-! ### One program -/

/-- What programs on one store keep to: an invariant, and an order in which the store moves up. -/
structure Discipline (σ : Type) where
  invariant : σ → Prop
  le : σ → σ → Prop
  le_refl : ∀ s, le s s
  le_trans : ∀ {s s' s''}, le s s' → le s' s'' → le s s''

section Guarantees

variable (D : Discipline σ) (legal : χ → Prop)
  (serve : χ → (o : Op) → σ → Except ε (Resp o) × σ)

/-- What one operation of a program does to the store. -/
structure Discipline.KeptBy (x : χ) (o : Op) (s : σ) : Prop where
  le : D.le s (serve x o s).2
  invariant : D.invariant (serve x o s).2

/-- **The program keeps to the discipline**, from a store on that the others move up between its
operations, and what it returns and the store are then as they should be.  It may throw instead. -/
def Guarantees (post : α → σ → Prop) : Prog Op Resp ε α → σ → Prop
  | ret a, s => post a s
  | throw _, _ => True
  | call o k, s => ∀ x s', legal x → D.le s s' → D.invariant s' →
      D.KeptBy serve x o s' ∧ Guarantees post (k (serve x o s').1) (serve x o s').2

variable {D legal serve} {post : α → σ → Prop} {s : σ}

/-- A result or an error that is already there. -/
theorem guarantees_ofExcept {r : Except ε α} :
    Guarantees D legal serve post (ofExcept r) s ↔ ∀ a, r = .ok a → post a s := by
  cases r with
  | ok a => exact ⟨fun h a' ha => Except.ok.inj ha ▸ h, fun h => h a rfl⟩
  | error e => exact iff_of_true trivial (by rintro a ⟨⟩)

/-- A single operation. -/
theorem guarantees_perform {o : Op} {post : Resp o → σ → Prop}
    (h : ∀ x s', legal x → D.le s s' → D.invariant s' →
      D.KeptBy serve x o s' ∧ ∀ a, (serve x o s').1 = .ok a → post a (serve x o s').2) :
    Guarantees D legal serve post (perform o) s := by
  intro x s' hlegal hle hinv
  obtain ⟨hkept, hpost⟩ := h x s' hlegal hle hinv
  exact ⟨hkept, guarantees_ofExcept.2 hpost⟩

/-- A sequence: what comes second starts from the store in which the first has returned. -/
theorem Guarantees.bind {f : α → Prog Op Resp ε β} {post' : β → σ → Prop} :
    ∀ {p : Prog Op Resp ε α} {s : σ}, Guarantees D legal serve post p s →
      (∀ a s', post a s' → Guarantees D legal serve post' (f a) s') →
      Guarantees D legal serve post' (p >>= f) s := by
  intro p
  induction p with
  | ret a => exact fun h hf => hf a _ h
  | throw e => exact fun _ _ => trivial
  | call o k ih =>
      intro s h hf x s' hlegal hle hinv
      obtain ⟨hkept, hrest⟩ := h x s' hlegal hle hinv
      exact ⟨hkept, ih _ hrest hf⟩

/-- The store in which a program returns is above the one in which it started. -/
theorem Guarantees.and_le {s₀ : σ} :
    ∀ {p : Prog Op Resp ε α} {s : σ}, Guarantees D legal serve post p s → D.le s₀ s →
      Guarantees D legal serve (fun a s' => D.le s₀ s' ∧ post a s') p s := by
  intro p
  induction p with
  | ret a => exact fun h hle => ⟨hle, h⟩
  | throw e => exact fun _ _ => trivial
  | call o k ih =>
      intro s h hle x s' hlegal hle' hinv
      obtain ⟨hkept, hrest⟩ := h x s' hlegal hle' hinv
      exact ⟨hkept, ih _ hrest (D.le_trans (D.le_trans hle hle') hkept.le)⟩

end Guarantees

end Prog

namespace Threads

variable {ι σ χ : Type} {Op : Type} {Resp : Op → Type} {ε α : Type}

/-! ### Programs side by side -/

/-- A store whose operations are answered at once, each by itself. -/
def sharedStore (serve : χ → (o : Op) → σ → Except ε (Resp o) × σ) : Store ι σ χ Op Resp ε where
  serve _ x o s := some (serve x o s)
  commit _ s := s
  rollback _ s := s
  commitError _ := none

/-- A program is run once. -/
def once : Policy Unit ε α α := fun _ r =>
  match r with
  | .ok a => .done a
  | .error e => .throw e

/-- Programs that have not started. -/
def pool (body : ι → Prog Op Resp ε α) (s : σ) : Config ι σ Unit Op Resp ε α α where
  shared := s
  thread i := Thread.start (body i) ()
  history := []

section Pool

variable [DecidableEq ι] {D : Prog.Discipline σ} {legal : χ → Prop}
  {serve : χ → (o : Op) → σ → Except ε (Resp o) × σ} {body : ι → Prog Op Resp ε α}
  {post : ι → α → σ → Prop}
  {ok : ι → χ → Config ι σ Unit Op Resp ε α α → Prop} {s : σ}
  {c : Config ι σ Unit Op Resp ε α α}

/-- What is left of a thread keeps to the discipline, from a store below the one there is; and its
result is the outcome of its program. -/
structure Thread.Guaranteed (D : Prog.Discipline σ) (legal : χ → Prop)
    (serve : χ → (o : Op) → σ → Except ε (Resp o) × σ) (post : α → σ → Prop) (s : σ)
    (t : Thread Unit Op Resp ε α α) : Prop where
  current : ∃ s₀, D.le s₀ s ∧ Prog.Guarantees D legal serve post t.current s₀
  result : ∀ r, t.result = some r → t.current = Prog.ofExcept r

/-- A thread is not disturbed when the store moves up. -/
theorem Thread.Guaranteed.mono {post : α → σ → Prop} {s s' : σ}
    {t : Thread Unit Op Resp ε α α} (h : t.Guaranteed D legal serve post s) (hle : D.le s s') :
    t.Guaranteed D legal serve post s' where
  current := by
    obtain ⟨s₀, hle₀, hcurrent⟩ := h.current
    exact ⟨s₀, D.le_trans hle₀ hle, hcurrent⟩
  result := h.result

/-- All threads, when one of them ends with the outcome of its program. -/
def Config.Guaranteed (D : Prog.Discipline σ) (legal : χ → Prop)
    (serve : χ → (o : Op) → σ → Except ε (Resp o) × σ) (post : ι → α → σ → Prop)
    (c : Config ι σ Unit Op Resp ε α α) : Prop :=
  ∀ i, (c.thread i).Guaranteed D legal serve (post i) c.shared

theorem Config.Guaranteed.ended {i : ι} {r : Except ε α}
    (h : c.Guaranteed D legal serve post) (hcurrent : (c.thread i).current = Prog.ofExcept r) :
    (c.update i c.shared ((c.thread i).ended r)).Guaranteed D legal serve post := by
  intro j
  by_cases hj : j = i
  · subst hj
    rw [Config.thread_update_self]
    refine ⟨(h j).current, ?_⟩
    intro r' hr'
    obtain rfl := Option.some.inj hr'
    exact hcurrent
  · rw [Config.thread_update_of_ne hj]
    exact h j

/-- **Every interleaving keeps to the discipline**: the invariant holds, the store has moved up, and
whatever has returned has returned as it should, in a store below. -/
theorem Reaches.guarantees (h : Reaches (sharedStore serve) once ok (pool body s) c)
    (hinv : D.invariant s) (hbody : ∀ i, Prog.Guarantees D legal serve (post i) (body i) s)
    (hlegal : ∀ i x c, ok i x c → legal x) :
    D.invariant c.shared ∧ D.le s c.shared ∧
      ∀ i a, (c.thread i).result = some (.ok a) → ∃ s', D.le s' c.shared ∧ post i a s' := by
  have hall : D.invariant c.shared ∧ D.le s c.shared ∧ c.Guaranteed D legal serve post := by
    refine h.invariant (I := fun c => D.invariant c.shared ∧ D.le s c.shared ∧
      c.Guaranteed D legal serve post) ?_ ?_
    · refine ⟨hinv, D.le_refl s, fun i => ⟨⟨s, D.le_refl s, hbody i⟩, ?_⟩⟩
      rintro r ⟨⟩
    · rintro i x c c' - ⟨hinv, hle, hthreads⟩ hok hstep
      cases hstep with
      | @operation o k _ _ hrunning hcurrent hserve =>
          obtain ⟨rfl, rfl⟩ := Prod.mk.inj (Option.some.inj hserve)
          obtain ⟨s₀, hle₀, hguarantees⟩ := (hthreads i).current
          rw [hcurrent] at hguarantees
          obtain ⟨hkept, hrest⟩ := hguarantees x c.shared (hlegal i x c hok) hle₀ hinv
          refine ⟨hkept.invariant, D.le_trans hle hkept.le, ?_⟩
          intro j
          by_cases hj : j = i
          · subst hj
            rw [Config.thread_answered_self]
            refine ⟨⟨_, D.le_refl _, hrest⟩, ?_⟩
            intro r hr
            rw [Thread.result_answered, hrunning] at hr
            cases hr
          · rw [Config.thread_answered_of_ne hj]
            exact (hthreads j).mono hkept.le
      | @restarted r vars _ _ hpolicy _ => cases r <;> cases hpolicy
      | @returned r result _ hcurrent hpolicy _ =>
          refine ⟨hinv, hle, hthreads.ended ?_⟩
          rw [hcurrent]
          cases r with
          | ok a =>
              obtain rfl := Verdict.done.inj hpolicy
              rfl
          | error e => cases hpolicy
      | @thrown r e _ hcurrent hreason =>
          refine ⟨hinv, hle, hthreads.ended ?_⟩
          rw [hcurrent]
          rcases hreason with hpolicy | hcommit
          · cases r with
            | ok a => cases hpolicy
            | error e' =>
                obtain rfl := Verdict.throw.inj hpolicy
                rfl
          · cases hcommit
  obtain ⟨hinv, hle, hthreads⟩ := hall
  refine ⟨hinv, hle, ?_⟩
  intro i a ha
  obtain ⟨s₀, hle₀, hcurrent⟩ := (hthreads i).current
  rw [(hthreads i).result _ ha] at hcurrent
  exact ⟨s₀, hle₀, Prog.guarantees_ofExcept.1 hcurrent a rfl⟩

end Pool

end Threads
