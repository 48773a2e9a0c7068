/-
**Programs that perform operations on a shared store.**

An asynchronous method that awaits queries and remote calls is a tree: it returns, throws, or
performs an operation and goes on with the answer.  Keeping the tree instead of its effect on a
store lets one definition of a method be run alone (`Prog.run`), step by step among other
methods, or under a lock manager.

Operations come with a type of answers, `Resp`, and an operation may also answer with an error,
which a `try`/`catch` around it sees like any other.

Main definitions:

* `Prog` — programs over operations `Op`, answers `Resp` and errors `ε`;
* `Prog.perform`, `Prog.bind`, `Prog.tryCatch`, `Prog.mapError` — an operation, sequencing,
  `try`/`catch`, and `catch (err) { throw f(err) }`;
* `Prog.promiseAll` — `Promise.all`, of programs that perform their operations in turn;
* `Prog.run` — the program alone, on a store whose operations a handler answers.

Main results:

* `Prog.run_bind`, `Prog.run_tryCatch`, `Prog.run_mapError` — running commutes with the
  combinators; `Prog.run_bind_of_ok` and its companions apply them when a part has been run;
* `Prog.run_project` — a run on a store that another one can be read from.
-/

import Mathlib.Tactic.Common

set_option relaxedAutoImplicit false
set_option autoImplicit false

/-- A program: a result, an error, or an operation and what is done with its answer. -/
inductive Prog (Op : Type) (Resp : Op → Type) (ε α : Type) : Type
  | ret (a : α) : Prog Op Resp ε α
  | throw (e : ε) : Prog Op Resp ε α
  | call (o : Op) (k : Except ε (Resp o) → Prog Op Resp ε α) : Prog Op Resp ε α

namespace Prog

variable {Op : Type} {Resp : Op → Type} {ε α β γ σ : Type}

/-! ### Combinators -/

/-- A result or an error that is already there. -/
def ofExcept : Except ε α → Prog Op Resp ε α
  | .ok a => ret a
  | .error e => throw e

/-- Perform one operation and return its answer. -/
def perform (o : Op) : Prog Op Resp ε (Resp o) := call o ofExcept

/-- `await p` and go on with its result. -/
def bind : Prog Op Resp ε α → (α → Prog Op Resp ε β) → Prog Op Resp ε β
  | ret a, f => f a
  | throw e, _ => throw e
  | call o k, f => call o fun r => (k r).bind f

/-- `try { p } catch (e) { h(e) }`. -/
def tryCatch : Prog Op Resp ε α → (ε → Prog Op Resp ε α) → Prog Op Resp ε α
  | ret a, _ => ret a
  | throw e, h => h e
  | call o k, h => call o fun r => (k r).tryCatch h

/-- `try { p } catch (e) { throw f(e) }`. -/
def mapError (f : ε → ε) : Prog Op Resp ε α → Prog Op Resp ε α
  | ret a => ret a
  | throw e => throw (f e)
  | call o k => call o fun r => (k r).mapError f

/-- A program that returns its outcome. -/
def attempt : Prog Op Resp ε α → Prog Op Resp ε (Except ε α)
  | ret a => ret (.ok a)
  | throw e => ret (.error e)
  | call o k => call o fun r => (k r).attempt

/-- The results, or the first error. -/
def settle : Except ε α → Except ε (List α) → Except ε (List α)
  | .ok a, .ok as => .ok (a :: as)
  | .ok _, .error e => .error e
  | .error e, _ => .error e

/-- `Promise.all(ps)`: all of them run, and the results are returned if there is no error. -/
def promiseAll : List (Prog Op Resp ε α) → Prog Op Resp ε (List α)
  | [] => ret []
  | p :: ps => p.attempt.bind fun r => (promiseAll ps).attempt.bind fun rs => ofExcept (settle r rs)

instance : Monad (Prog Op Resp ε) where
  pure := ret
  bind := bind

@[simp] theorem pure_eq (a : α) : (pure a : Prog Op Resp ε α) = ret a := rfl

@[simp] theorem ret_bind (a : α) (f : α → Prog Op Resp ε β) : (ret a >>= f) = f a := rfl

@[simp] theorem throw_bind (e : ε) (f : α → Prog Op Resp ε β) : (throw e >>= f) = throw e := rfl

@[simp] theorem call_bind (o : Op) (k : Except ε (Resp o) → Prog Op Resp ε α)
    (f : α → Prog Op Resp ε β) : (call o k >>= f) = call o fun r => k r >>= f := rfl

/-- Sequencing is associative. -/
theorem bind_assoc (p : Prog Op Resp ε α) (f : α → Prog Op Resp ε β) (g : β → Prog Op Resp ε γ) :
    (p >>= f) >>= g = p >>= fun a => f a >>= g := by
  induction p with
  | ret a => rfl
  | throw e => rfl
  | call o k ih => exact congrArg (call o) (funext ih)

@[simp] theorem ofExcept_ok (a : α) : (ofExcept (.ok a) : Prog Op Resp ε α) = ret a := rfl

@[simp] theorem ofExcept_error (e : ε) :
    (ofExcept (.error e) : Prog Op Resp ε α) = throw e := rfl

@[simp] theorem tryCatch_ret (a : α) (h : ε → Prog Op Resp ε α) : (ret a).tryCatch h = ret a := rfl

@[simp] theorem tryCatch_throw (e : ε) (h : ε → Prog Op Resp ε α) : (throw e).tryCatch h = h e :=
  rfl

@[simp] theorem tryCatch_call (o : Op) (k : Except ε (Resp o) → Prog Op Resp ε α)
    (h : ε → Prog Op Resp ε α) : (call o k).tryCatch h = call o fun r => (k r).tryCatch h := rfl

@[simp] theorem mapError_ret (f : ε → ε) (a : α) :
    (ret a : Prog Op Resp ε α).mapError f = ret a := rfl

@[simp] theorem mapError_throw (f : ε → ε) (e : ε) :
    (throw e : Prog Op Resp ε α).mapError f = throw (f e) := rfl

@[simp] theorem mapError_call (f : ε → ε) (o : Op) (k : Except ε (Resp o) → Prog Op Resp ε α) :
    (call o k).mapError f = call o fun r => (k r).mapError f := rfl

/-! ### A program alone -/

/-- Run a program on a store, each operation answered by the handler. -/
def run (h : (o : Op) → σ → Except ε (Resp o) × σ) : Prog Op Resp ε α → σ → Except ε α × σ
  | ret a, s => (.ok a, s)
  | throw e, s => (.error e, s)
  | call o k, s => run h (k (h o s).1) (h o s).2

variable (h : (o : Op) → σ → Except ε (Resp o) × σ)

@[simp] theorem run_ret (a : α) (s : σ) : run h (ret a) s = (.ok a, s) := rfl

@[simp] theorem run_throw (e : ε) (s : σ) :
    run h (throw e : Prog Op Resp ε α) s = (.error e, s) := rfl

@[simp] theorem run_call (o : Op) (k : Except ε (Resp o) → Prog Op Resp ε α) (s : σ) :
    run h (call o k) s = run h (k (h o s).1) (h o s).2 := rfl

@[simp] theorem run_ofExcept (r : Except ε α) (s : σ) : run h (ofExcept r) s = (r, s) := by
  cases r <;> rfl

@[simp] theorem run_perform (o : Op) (s : σ) : run h (perform o) s = h o s := by
  simp [perform]

/-- Running a sequence. -/
@[simp] theorem run_bind (p : Prog Op Resp ε α) (f : α → Prog Op Resp ε β) (s : σ) :
    run h (p >>= f) s =
      match run h p s with
      | (.ok a, s') => run h (f a) s'
      | (.error e, s') => (.error e, s') := by
  induction p generalizing s with
  | ret a => rfl
  | throw e => rfl
  | call o k ih => exact ih _ _

variable {h}

theorem run_bind_of_ok {p : Prog Op Resp ε α} {f : α → Prog Op Resp ε β} {s s' : σ} {a : α}
    (hp : run h p s = (.ok a, s')) : run h (p >>= f) s = run h (f a) s' := by
  rw [run_bind, hp]

theorem run_bind_of_error {p : Prog Op Resp ε α} {f : α → Prog Op Resp ε β} {s s' : σ} {e : ε}
    (hp : run h p s = (.error e, s')) : run h (p >>= f) s = (.error e, s') := by
  rw [run_bind, hp]

variable (h)

/-- Running a `try`/`catch`. -/
@[simp] theorem run_tryCatch (p : Prog Op Resp ε α) (c : ε → Prog Op Resp ε α) (s : σ) :
    run h (p.tryCatch c) s =
      match run h p s with
      | (.ok a, s') => (.ok a, s')
      | (.error e, s') => run h (c e) s' := by
  induction p generalizing s with
  | ret a => rfl
  | throw e => rfl
  | call o k ih => exact ih _ _

/-- Running a `catch` that rethrows. -/
@[simp] theorem run_mapError (f : ε → ε) (p : Prog Op Resp ε α) (s : σ) :
    run h (p.mapError f) s =
      match run h p s with
      | (.ok a, s') => (.ok a, s')
      | (.error e, s') => (.error (f e), s') := by
  induction p generalizing s with
  | ret a => rfl
  | throw e => rfl
  | call o k ih => exact ih _ _

variable {h}

theorem run_tryCatch_of_ok {p : Prog Op Resp ε α} {c : ε → Prog Op Resp ε α} {s s' : σ} {a : α}
    (hp : run h p s = (.ok a, s')) : run h (p.tryCatch c) s = (.ok a, s') := by
  rw [run_tryCatch, hp]

theorem run_tryCatch_of_error {p : Prog Op Resp ε α} {c : ε → Prog Op Resp ε α} {s s' : σ} {e : ε}
    (hp : run h p s = (.error e, s')) : run h (p.tryCatch c) s = run h (c e) s' := by
  rw [run_tryCatch, hp]

theorem run_mapError_of_ok {f : ε → ε} {p : Prog Op Resp ε α} {s s' : σ} {a : α}
    (hp : run h p s = (.ok a, s')) : run h (p.mapError f) s = (.ok a, s') := by
  rw [run_mapError, hp]

theorem run_mapError_of_error {f : ε → ε} {p : Prog Op Resp ε α} {s s' : σ} {e : ε}
    (hp : run h p s = (.error e, s')) : run h (p.mapError f) s = (.error (f e), s') := by
  rw [run_mapError, hp]

/-- A sequence went on with a result, or ended with an error. -/
theorem run_bind_cases {p : Prog Op Resp ε α} {f : α → Prog Op Resp ε β} {s t : σ} {r : Except ε β}
    (hrun : run h (p >>= f) s = (r, t)) :
    (∃ a s', run h p s = (.ok a, s') ∧ run h (f a) s' = (r, t)) ∨
      ∃ e, run h p s = (.error e, t) ∧ r = .error e := by
  rw [run_bind] at hrun
  rcases hp : run h p s with ⟨_ | a, s'⟩
  · rw [hp] at hrun
    cases hrun
    exact Or.inr ⟨_, rfl, rfl⟩
  · rw [hp] at hrun
    exact Or.inl ⟨a, s', rfl, hrun⟩

/-- What a `catch` that rethrows ends with. -/
theorem run_mapError_cases {f : ε → ε} {p : Prog Op Resp ε α} {s t : σ} {r : Except ε α}
    (hrun : run h (p.mapError f) s = (r, t)) :
    ∃ r', run h p s = (r', t) ∧ r = r'.mapError f := by
  rw [run_mapError] at hrun
  rcases hp : run h p s with ⟨_ | a, s'⟩
  · rw [hp] at hrun
    cases hrun
    exact ⟨_, rfl, rfl⟩
  · rw [hp] at hrun
    cases hrun
    exact ⟨_, rfl, rfl⟩

/-- Running a program for its outcome. -/
theorem run_attempt (p : Prog Op Resp ε α) (s : σ) :
    run h p.attempt s = (.ok (run h p s).1, (run h p s).2) := by
  induction p generalizing s with
  | ret a => rfl
  | throw e => rfl
  | call o k ih => exact ih _ _

/-- Running several programs at once. -/
theorem run_promiseAll_cons (p : Prog Op Resp ε α) (ps : List (Prog Op Resp ε α)) (s : σ) :
    run h (promiseAll (p :: ps)) s =
      (settle (run h p s).1 (run h (promiseAll ps) (run h p s).2).1,
        (run h (promiseAll ps) (run h p s).2).2) := by
  refine (run_bind_of_ok (run_attempt p s)).trans ?_
  refine (run_bind_of_ok (run_attempt (promiseAll ps) _)).trans ?_
  exact run_ofExcept h _ _

/-- Programs that all return. -/
theorem run_promiseAll_of_ok {β : Type} {f : β → Prog Op Resp ε α} {g : β → α} {s : σ} :
    ∀ {bs : List β}, (∀ b ∈ bs, run h (f b) s = (.ok (g b), s)) →
      run h (promiseAll (bs.map f)) s = (.ok (bs.map g), s) := by
  intro bs
  induction bs with
  | nil => exact fun _ => rfl
  | cons b bs ih =>
      intro hall
      rw [List.map_cons, run_promiseAll_cons, hall b List.mem_cons_self,
        ih fun c hc => hall c (List.mem_cons_of_mem b hc)]
      rfl

/-- A run on a store that another one can be read from. -/
theorem run_project {τ : Type} {h' : (o : Op) → τ → Except ε (Resp o) × τ} {π : σ → τ}
    (hπ : ∀ o s, h' o (π s) = ((h o s).1, π (h o s).2)) (p : Prog Op Resp ε α)
    (s : σ) : run h' p (π s) = ((run h p s).1, π (run h p s).2) := by
  induction p generalizing s with
  | ret a => rfl
  | throw e => rfl
  | call o k ih =>
      rw [run_call, run_call, hπ]
      exact ih _ _

end Prog
