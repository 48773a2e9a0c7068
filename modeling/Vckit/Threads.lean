/-
**Transactions that interleave.**

Any number of threads run transactions against one shared state, one operation at a time and in
any order.  Each thread runs the same callback again for every attempt.  What an operation does to
the shared state, when it has to wait, and what committing and rolling back mean is left to a
*store*; when an attempt has ended, a *policy* says whether its transaction is committed, and
whether another attempt follows.

Main definitions:

* `Threads.Store` — operations, commits and rollbacks on a shared state;
* `Threads.Verdict`, `Threads.Policy` — what follows the end of an attempt;
* `Threads.Thread`, `Threads.Config` — a thread, and all of them with the shared state;
* `Threads.step` — one step of one thread;
* `Threads.exec` — a schedule, executed;
* `Threads.Reaches` — the configurations that schedules whose steps meet a condition reach.

Main results:

* `Threads.step_cases` — **what a step can do**: an operation, a commit or a rollback;
* `Threads.Reaches.keeps` — a thread keeps to its protocol whatever the others do;
* `Threads.reaches_of_exec` — executed schedules are reached.
-/

import Vckit.ProgSpec
import Mathlib.Logic.Function.Basic

set_option relaxedAutoImplicit false
set_option autoImplicit false

namespace Threads

variable {ι σ χ ν : Type} {Op : Type} {Resp : Op → Type} {ε α : Type}

/-- A shared state.  `serve i x o s` is the answer to operation `o` of thread `i` and the state
after it, or `none` when the thread has to wait; `x` is what the outside world chooses. -/
structure Store (ι σ χ : Type) (Op : Type) (Resp : Op → Type) (ε : Type) where
  serve : ι → χ → (o : Op) → σ → Option (Except ε (Resp o) × σ)
  commit : ι → σ → σ
  rollback : ι → σ → σ
  /-- The error with which a commit ends, if it fails. -/
  commitError : χ → Option ε

/-- What follows an attempt: the transaction is committed, and another attempt is made or the call
returns; or it is rolled back, and the call throws. -/
inductive Verdict (ν ε α : Type) where
  | again (vars : ν)
  | done (result : α)
  | throw (e : ε)

/-- The transaction is rolled back. -/
def Verdict.isThrow : Verdict ν ε α → Bool
  | .throw _ => true
  | _ => false

/-- The verdict on an attempt, from the variables of the call and the attempt's outcome. -/
abbrev Policy (ν ε α β : Type) := ν → Except ε α → Verdict ν ε β

/-- One thread: its callback, what is left of the attempt, the answers the attempt got (newest
first), the variables of the call, and its result once it has one. -/
structure Thread (ν : Type) (Op : Type) (Resp : Op → Type) (ε α β : Type) where
  body : Prog Op Resp ε α
  current : Prog Op Resp ε α
  log : List (Prog.Event Op Resp ε)
  vars : ν
  result : Option (Except ε β)

variable {β : Type}

/-- The shared state and all threads, with the operations performed so far, newest first. -/
structure Config (ι σ ν : Type) (Op : Type) (Resp : Op → Type) (ε α β : Type) where
  shared : σ
  thread : ι → Thread ν Op Resp ε α β
  history : List (ι × Prog.Event Op Resp ε)

/-- A thread at the start of an attempt. -/
def Thread.start (body : Prog Op Resp ε α) (vars : ν) : Thread ν Op Resp ε α β where
  body := body
  current := body
  log := []
  vars := vars
  result := none

/-- The thread after an operation was answered. -/
def Thread.answered (t : Thread ν Op Resp ε α β) (event : Prog.Event Op Resp ε)
    (rest : Prog Op Resp ε α) : Thread ν Op Resp ε α β :=
  { t with current := rest, log := event :: t.log }

/-- The operation the thread performs next, unless its attempt has ended. -/
def Thread.next (t : Thread ν Op Resp ε α β) : Option Op :=
  match t.current with
  | .call o _ => some o
  | _ => none

/-- The thread once its call has ended. -/
def Thread.ended (t : Thread ν Op Resp ε α β) (result : Except ε β) :
    Thread ν Op Resp ε α β :=
  { t with result := some result }

section Step

variable [DecidableEq ι]

/-- The configuration with another state of one thread. -/
def Config.update (c : Config ι σ ν Op Resp ε α β) (i : ι) (s : σ)
    (t : Thread ν Op Resp ε α β) : Config ι σ ν Op Resp ε α β :=
  { c with shared := s, thread := Function.update c.thread i t }

/-- The configuration after an operation of thread `i` was answered. -/
def Config.answered (c : Config ι σ ν Op Resp ε α β) (i : ι) (s : σ)
    (event : Prog.Event Op Resp ε) (rest : Prog Op Resp ε α) : Config ι σ ν Op Resp ε α β :=
  { c.update i s ((c.thread i).answered event rest) with history := (i, event) :: c.history }

/-- The end of an attempt with outcome `r`. -/
def finish (store : Store ι σ χ Op Resp ε) (policy : Policy ν ε α β) (i : ι) (x : χ)
    (r : Except ε α) (c : Config ι σ ν Op Resp ε α β) : Config ι σ ν Op Resp ε α β :=
  match policy (c.thread i).vars r with
  | .throw e =>
      c.update i (store.rollback i c.shared) ((c.thread i).ended (.error e))
  | .again vars =>
      match store.commitError x with
      | some e =>
          c.update i (store.rollback i c.shared) ((c.thread i).ended (.error e))
      | none =>
          c.update i (store.commit i c.shared) (Thread.start (c.thread i).body vars)
  | .done result =>
      match store.commitError x with
      | some e =>
          c.update i (store.rollback i c.shared) ((c.thread i).ended (.error e))
      | none =>
          c.update i (store.commit i c.shared) ((c.thread i).ended (.ok result))

/-- One step of thread `i`: the next operation of its attempt, or the end of the attempt.  There
is none when the thread has to wait, or has its result. -/
def step (store : Store ι σ χ Op Resp ε) (policy : Policy ν ε α β) (i : ι) (x : χ)
    (c : Config ι σ ν Op Resp ε α β) : Option (Config ι σ ν Op Resp ε α β) :=
  match (c.thread i).result with
  | some _ => none
  | none =>
      match (c.thread i).current with
      | .ret a => some (finish store policy i x (.ok a) c)
      | .throw e => some (finish store policy i x (.error e) c)
      | .call o k =>
          match store.serve i x o c.shared with
          | none => none
          | some (r, s) => some (c.answered i s ⟨o, r⟩ (k r))

/-- The next step of thread `i` rolls its transaction back. -/
def rollsBack (store : Store ι σ χ Op Resp ε) (policy : Policy ν ε α β) (i : ι) (x : χ)
    (c : Config ι σ ν Op Resp ε α β) : Bool :=
  match (c.thread i).current with
  | .call _ _ => false
  | .ret a => (policy (c.thread i).vars (.ok a)).isThrow || (store.commitError x).isSome
  | .throw e => (policy (c.thread i).vars (.error e)).isThrow || (store.commitError x).isSome

/-- **What a step can do**: perform an operation; commit and make another attempt; commit and
return; or roll back and throw. -/
inductive StepEnd (store : Store ι σ χ Op Resp ε) (policy : Policy ν ε α β) (i : ι) (x : χ)
    (c : Config ι σ ν Op Resp ε α β) : Config ι σ ν Op Resp ε α β → Prop
  | operation {o : Op} {k : Except ε (Resp o) → Prog Op Resp ε α} {r : Except ε (Resp o)} {s : σ}
      (hrunning : (c.thread i).result = none) (hcurrent : (c.thread i).current = .call o k)
      (hserve : store.serve i x o c.shared = some (r, s)) :
      StepEnd store policy i x c (c.answered i s ⟨o, r⟩ (k r))
  | restarted {r : Except ε α} {vars : ν} (hrunning : (c.thread i).result = none)
      (hcurrent : (c.thread i).current = Prog.ofExcept r)
      (hpolicy : policy (c.thread i).vars r = .again vars) (hcommit : store.commitError x = none) :
      StepEnd store policy i x c
        (c.update i (store.commit i c.shared) (Thread.start (c.thread i).body vars))
  | returned {r : Except ε α} {result : β} (hrunning : (c.thread i).result = none)
      (hcurrent : (c.thread i).current = Prog.ofExcept r)
      (hpolicy : policy (c.thread i).vars r = .done result)
      (hcommit : store.commitError x = none) :
      StepEnd store policy i x c
        (c.update i (store.commit i c.shared) ((c.thread i).ended (.ok result)))
  | thrown {r : Except ε α} {e : ε} (hrunning : (c.thread i).result = none)
      (hcurrent : (c.thread i).current = Prog.ofExcept r)
      (hreason : policy (c.thread i).vars r = .throw e ∨ store.commitError x = some e) :
      StepEnd store policy i x c
        (c.update i (store.rollback i c.shared) ((c.thread i).ended (.error e)))

omit [DecidableEq ι] in
theorem rollsBack_of_throws {store : Store ι σ χ Op Resp ε} {policy : Policy ν ε α β} {i : ι}
    {x : χ} {c : Config ι σ ν Op Resp ε α β} {r : Except ε α} {e : ε}
    (hcurrent : (c.thread i).current = Prog.ofExcept r)
    (hreason : policy (c.thread i).vars r = .throw e ∨ store.commitError x = some e) :
    rollsBack store policy i x c = true := by
  unfold rollsBack
  rw [hcurrent]
  cases r with
  | ok a => rcases hreason with h | h <;> simp [h, Verdict.isThrow]
  | error e' => rcases hreason with h | h <;> simp [h, Verdict.isThrow]

/-- The end of an attempt is one of the last three. -/
theorem finish_cases {store : Store ι σ χ Op Resp ε} {policy : Policy ν ε α β} {i : ι} {x : χ}
    {r : Except ε α} {c : Config ι σ ν Op Resp ε α β} (hrunning : (c.thread i).result = none)
    (hcurrent : (c.thread i).current = Prog.ofExcept r) :
    StepEnd store policy i x c (finish store policy i x r c) := by
  unfold finish
  cases hpolicy : policy (c.thread i).vars r with
  | throw e => exact StepEnd.thrown hrunning hcurrent (Or.inl hpolicy)
  | again vars =>
      cases hcommit : store.commitError x with
      | some e => exact StepEnd.thrown hrunning hcurrent (Or.inr hcommit)
      | none => exact StepEnd.restarted hrunning hcurrent hpolicy hcommit
  | done result =>
      cases hcommit : store.commitError x with
      | some e => exact StepEnd.thrown hrunning hcurrent (Or.inr hcommit)
      | none => exact StepEnd.returned hrunning hcurrent hpolicy hcommit

theorem step_cases {store : Store ι σ χ Op Resp ε} {policy : Policy ν ε α β} {i : ι} {x : χ}
    {c c' : Config ι σ ν Op Resp ε α β} (h : step store policy i x c = some c') :
    StepEnd store policy i x c c' := by
  unfold step at h
  cases hrunning : (c.thread i).result with
  | some r => simp [hrunning] at h
  | none =>
      simp only [hrunning] at h
      cases hcurrent : (c.thread i).current with
      | ret a =>
          simp only [hcurrent, Option.some.injEq] at h
          rw [← h]
          exact finish_cases hrunning hcurrent
      | throw e =>
          simp only [hcurrent, Option.some.injEq] at h
          rw [← h]
          exact finish_cases hrunning hcurrent
      | call o k =>
          simp only [hcurrent] at h
          cases hserve : store.serve i x o c.shared with
          | none => simp [hserve] at h
          | some answer =>
              obtain ⟨r, s⟩ := answer
              simp only [hserve, Option.some.injEq] at h
              rw [← h]
              exact StepEnd.operation hrunning hcurrent hserve

/-! ### Frames -/

section Frames

variable {c : Config ι σ ν Op Resp ε α β} {i j : ι} {s : σ} {t : Thread ν Op Resp ε α β}
  {event : Prog.Event Op Resp ε} {rest : Prog Op Resp ε α} {result : Except ε β}

@[simp] theorem Thread.body_answered : (t.answered event rest).body = t.body := rfl

@[simp] theorem Thread.current_answered : (t.answered event rest).current = rest := rfl

@[simp] theorem Thread.log_answered : (t.answered event rest).log = event :: t.log := rfl

@[simp] theorem Thread.vars_answered : (t.answered event rest).vars = t.vars := rfl

@[simp] theorem Thread.result_answered : (t.answered event rest).result = t.result := rfl

@[simp] theorem Thread.body_ended : (t.ended result).body = t.body := rfl

@[simp] theorem Thread.current_ended : (t.ended result).current = t.current := rfl

@[simp] theorem Thread.log_ended : (t.ended result).log = t.log := rfl

@[simp] theorem Thread.vars_ended : (t.ended result).vars = t.vars := rfl

@[simp] theorem Thread.result_ended : (t.ended result).result = some result := rfl

@[simp] theorem Config.shared_update : (c.update i s t).shared = s := rfl

@[simp] theorem Config.history_update : (c.update i s t).history = c.history := rfl

@[simp] theorem Config.thread_update_self : (c.update i s t).thread i = t :=
  Function.update_self _ _ _

@[simp] theorem Config.thread_update_of_ne (h : j ≠ i) :
    (c.update i s t).thread j = c.thread j :=
  Function.update_of_ne h _ _

@[simp] theorem Config.shared_answered : (c.answered i s event rest).shared = s := rfl

@[simp] theorem Config.history_answered :
    (c.answered i s event rest).history = (i, event) :: c.history := rfl

@[simp] theorem Config.thread_answered_self :
    (c.answered i s event rest).thread i = (c.thread i).answered event rest :=
  Function.update_self _ _ _

@[simp] theorem Config.thread_answered_of_ne (h : j ≠ i) :
    (c.answered i s event rest).thread j = c.thread j :=
  Function.update_of_ne h _ _

end Frames

/-! ### Schedules -/

/-- A schedule, executed: the thread that makes the next step, and what the outside world
chooses.  It stops where a step cannot be made or fails the test. -/
def exec (store : Store ι σ χ Op Resp ε) (policy : Policy ν ε α β)
    (test : ι → χ → Config ι σ ν Op Resp ε α β → Bool) :
    List (ι × χ) → Config ι σ ν Op Resp ε α β → Option (Config ι σ ν Op Resp ε α β)
  | [], c => some c
  | (i, x) :: schedule, c =>
      if test i x c then
        match step store policy i x c with
        | none => none
        | some c' => exec store policy test schedule c'
      else none

/-- **The configurations reached** by steps that all meet a condition on the configuration they
start in. -/
inductive Reaches (store : Store ι σ χ Op Resp ε) (policy : Policy ν ε α β)
    (ok : ι → χ → Config ι σ ν Op Resp ε α β → Prop) (c₀ : Config ι σ ν Op Resp ε α β) :
    Config ι σ ν Op Resp ε α β → Prop
  | refl : Reaches store policy ok c₀ c₀
  | tail {c c' : Config ι σ ν Op Resp ε α β} {i : ι} {x : χ}
      (hreach : Reaches store policy ok c₀ c) (hok : ok i x c)
      (hstep : step store policy i x c = some c') : Reaches store policy ok c₀ c'

variable {store : Store ι σ χ Op Resp ε} {policy : Policy ν ε α β}
  {ok : ι → χ → Config ι σ ν Op Resp ε α β → Prop} {c₀ c c' : Config ι σ ν Op Resp ε α β}

/-- **An invariant of the steps holds in every configuration reached.** -/
theorem Reaches.invariant {I : Config ι σ ν Op Resp ε α β → Prop}
    (h : Reaches store policy ok c₀ c) (hstart : I c₀)
    (hstep : ∀ {i x c c'}, Reaches store policy ok c₀ c → I c → ok i x c →
      StepEnd store policy i x c c' → I c') : I c := by
  induction h with
  | refl => exact hstart
  | tail hreach hcond hs ih => exact hstep hreach ih hcond (step_cases hs)

/-- Executed schedules are reached. -/
theorem reaches_of_exec {test : ι → χ → Config ι σ ν Op Resp ε α β → Bool} :
    ∀ {schedule : List (ι × χ)} {c c' : Config ι σ ν Op Resp ε α β},
    (∀ i x c, (i, x) ∈ schedule → test i x c = true → ok i x c) →
    exec store policy test schedule c = some c' →
    Reaches store policy ok c₀ c → Reaches store policy ok c₀ c' := by
  intro schedule
  induction schedule with
  | nil =>
      intro c c' _ hexec hreach
      simp only [exec, Option.some.injEq] at hexec
      exact hexec ▸ hreach
  | cons label schedule ih =>
      obtain ⟨i, x⟩ := label
      intro c c' hok hexec hreach
      rw [exec] at hexec
      by_cases htest : test i x c = true
      · rw [if_pos htest] at hexec
        cases hs : step store policy i x c with
        | none => simp [hs] at hexec
        | some c₁ =>
            simp only [hs] at hexec
            exact ih (fun j y d hmem => hok j y d (List.mem_cons_of_mem _ hmem)) hexec
              (hreach.tail (hok i x c List.mem_cons_self htest) hs)
      · rw [if_neg htest] at hexec
        cases hexec

/-- What an executed schedule ends with is reached. -/
theorem exists_reaches_of_exec {test : ι → χ → Config ι σ ν Op Resp ε α β → Bool}
    {schedule : List (ι × χ)} {p : Config ι σ ν Op Resp ε α β → Bool}
    (hok : ∀ i x c, (i, x) ∈ schedule → test i x c = true → ok i x c)
    (hexec : (exec store policy test schedule c₀).any p = true) :
    ∃ c, Reaches store policy ok c₀ c ∧ p c = true := by
  obtain ⟨c, hc, hp⟩ := (Option.any_eq_true _ _).1 hexec
  exact ⟨c, reaches_of_exec hok hc Reaches.refl, hp⟩

/-! ### Protocols -/

/-- A thread keeps to its protocol: what is left of its attempt does, and so does the next attempt;
when it has returned, its attempt's outcome is the reason. -/
structure Thread.Follows (policy : Policy ν ε α β)
    (allowed : List (Prog.Event Op Resp ε) → Op → Prop)
    (legal : (o : Op) → Except ε (Resp o) → Prop)
    (final : List (Prog.Event Op Resp ε) → Except ε α → Prop)
    (t : Thread ν Op Resp ε α β) : Prop where
  body : Prog.Keeps allowed legal final t.body []
  current : Prog.Keeps allowed legal final t.current t.log
  returned : ∀ result, t.result = some (.ok result) →
    ∃ r, t.current = Prog.ofExcept r ∧ policy t.vars r = .done result

theorem Thread.Follows.start {allowed : List (Prog.Event Op Resp ε) → Op → Prop}
    {legal : (o : Op) → Except ε (Resp o) → Prop}
    {final : List (Prog.Event Op Resp ε) → Except ε α → Prop} {body : Prog Op Resp ε α} {vars : ν}
    (h : Prog.Keeps allowed legal final body []) :
    Thread.Follows policy allowed legal final (Thread.start body vars) where
  body := h
  current := h
  returned result hresult := by cases hresult

/-- **A thread keeps to its protocol whatever the others do**, when the answers of the store are
legal. -/
theorem Reaches.keeps {allowed : ι → List (Prog.Event Op Resp ε) → Op → Prop}
    {legal : ι → (o : Op) → Except ε (Resp o) → Prop}
    {final : ι → List (Prog.Event Op Resp ε) → Except ε α → Prop}
    (h : Reaches store policy ok c₀ c)
    (hstart : ∀ i, Thread.Follows policy (allowed i) (legal i) (final i) (c₀.thread i))
    (hlegal : ∀ i x c o r s, ok i x c → allowed i (c.thread i).log o →
      store.serve i x o c.shared = some (r, s) → legal i o r) :
    ∀ i, Thread.Follows policy (allowed i) (legal i) (final i) (c.thread i) := by
  refine h.invariant (I := fun c => ∀ i,
    Thread.Follows policy (allowed i) (legal i) (final i) (c.thread i)) hstart ?_
  intro i x c c' _ hfollows hok hstep j
  by_cases hj : j = i
  · subst hj
    have hj := hfollows j
    cases hstep with
    | operation hrunning hcurrent hserve =>
        have hcall := hj.current
        rw [hcurrent, Prog.keeps_call] at hcall
        have hnext := hcall.2 _ (hlegal _ _ _ _ _ _ hok hcall.1 hserve)
        rw [Config.thread_answered_self]
        refine ⟨hj.body, hnext, ?_⟩
        intro result hresult
        rw [Thread.result_answered, hrunning] at hresult
        cases hresult
    | restarted =>
        rw [Config.thread_update_self]
        exact Thread.Follows.start hj.body
    | returned _ hcurrent hpolicy =>
        rw [Config.thread_update_self]
        refine ⟨hj.body, hj.current, ?_⟩
        intro result hresult
        rw [Thread.result_ended, Option.some.injEq, Except.ok.injEq] at hresult
        exact ⟨_, hcurrent, hresult ▸ hpolicy⟩
    | thrown =>
        rw [Config.thread_update_self]
        refine ⟨hj.body, hj.current, ?_⟩
        intro result hresult
        cases hresult
  · have hsame : c'.thread j = c.thread j := by
      cases hstep <;> simp [hj]
    rw [hsame]
    exact hfollows j

end Step

end Threads
