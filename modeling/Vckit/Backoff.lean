/-
**The retry loop of the revocation store.**

`runTransactionWithExponentialBackoff` runs a callback in a database transaction and runs it again
while it fails with an error that looks retryable.  The retryable error is caught *inside* the
function handed to `manager.transaction`, so that function returns normally and the transaction of
the failed attempt is committed with whatever the callback had written; and the loop ends when its
counter reaches the limit, without an error.  Both are kept as they are in the source.

An attempt is what the outside world makes of one run of the callback: the callback's result and
writes on the state it finds, and whether the commit that follows gets through.  The delay is a
fraction, as every finite number of the language is; doubling it is exact.

Main definitions:

* `Revocation.canRetry` — an error message includes one of `DB_ERRORS`;
* `Revocation.setTimeout` — how long a timer waits;
* `Revocation.managerTransaction` — `manager.transaction`: commit on a normal return, else roll
  back;
* `Revocation.backoffLoop`, `Revocation.runTransactionWithExponentialBackoff` — the loop and the
  method;
* `Revocation.Attempt.Swallowed`, `Revocation.leftBy` — an attempt whose error is caught, and the
  state the first `k` attempts leave when all of them are.

Main results:

* `Revocation.backoff_ends` — **the three ways in which the method ends**: all attempts swallowed,
  one committed, or one rethrown, always after swallowed ones only.
-/

import Mathlib.Algebra.Order.Ring.Rat
import Vckit.Text

set_option relaxedAutoImplicit false
set_option autoImplicit false

namespace Revocation

/-! ### Retryable errors -/

/-- `DB_ERRORS`. -/
def dbErrors : List Text := ["serialize".toList, "deadlock".toList]

/-- `DB_ERRORS.some((dbError) => error.message.includes(dbError))`. -/
def canRetry (error : JsError) : Bool :=
  dbErrors.any fun dbError => Text.includes error.message dbError

variable {σ D : Type}

/-! ### Transactions -/

/-- `manager.transaction(f)` on a state that holds the committed rows.  `f` also changes variables
of the code around it, which no rollback restores; `commitError` is the error the commit ends
with, if it fails. -/
def managerTransaction {ν : Type} (f : σ → (Except JsError Unit × ν) × σ)
    (commitError : Option JsError) (s : σ) : (Except JsError Unit × ν) × σ :=
  match f s with
  | ((.ok (), v), s') =>
      match commitError with
      | none => ((.ok (), v), s')
      | some e => ((.error e, v), s)
  | ((.error e, v), _) => ((.error e, v), s)

/-- How many milliseconds `setTimeout(resolve, delay)` waits: a whole number that fits 32 bits, and
one for every other delay. -/
def setTimeout (delay : ℚ) : ℤ := if 1 ≤ delay ∧ delay ≤ 2147483647 then delay.floor else 1

/-- One run of the callback in its own transaction. -/
structure Attempt (σ D : Type) where
  callback : σ → Except JsError D × σ
  commitError : Option JsError

/-- The variables of the loop, and what the callback last returned.  `slept` lists the waits. -/
structure BackoffVars (D : Type) where
  isDone : Bool
  retries : ℕ
  delay : ℚ
  slept : List ℤ
  data : Option D

/-- The function handed to `manager.transaction`. -/
def attemptBody (maxRetries : ℕ) (callback : σ → Except JsError D × σ) (v : BackoffVars D)
    (s : σ) : (Except JsError Unit × BackoffVars D) × σ :=
  match callback s with
  | (.ok d, s') => ((.ok (), { v with isDone := true, data := some d }), s')
  | (.error e, s') =>
      if canRetry e = true ∧ v.retries < maxRetries then
        -- caught: the function returns normally
        ((.ok (), { v with
          retries := v.retries + 1
          slept := v.slept ++ [setTimeout v.delay]
          delay := v.delay * 2 }), s')
      else ((.error e, v), s')

/-! ### The loop -/

/-- The `while` loop.  Attempt number `retries` is the one made when the counter has that value;
the first argument bounds the number of rounds. -/
def backoffLoop (attempts : ℕ → Attempt σ D) (maxRetries : ℕ) :
    ℕ → BackoffVars D → σ → (Except JsError Unit × BackoffVars D) × σ
  | 0, v, s => ((.ok (), v), s)
  | rounds + 1, v, s =>
      if v.retries < maxRetries then
        match managerTransaction (attemptBody maxRetries (attempts v.retries).callback v)
            (attempts v.retries).commitError s with
        | ((.error e, v'), s') => ((.error e, v'), s')
        | ((.ok (), v'), s') =>
            if v'.isDone then ((.ok (), v'), s') else backoffLoop attempts maxRetries rounds v' s'
      else ((.ok (), v), s)

/-- The variables on entry. -/
def BackoffVars.init (baseDelay : ℚ) : BackoffVars D where
  isDone := false
  retries := 0
  delay := baseDelay
  slept := []
  data := none

/-- `runTransactionWithExponentialBackoff`: how it ends, the variables and the state. -/
def runTransactionWithExponentialBackoff (attempts : ℕ → Attempt σ D) (maxRetries : ℕ)
    (baseDelay : ℚ) (s : σ) : (Except JsError Unit × BackoffVars D) × σ :=
  backoffLoop attempts maxRetries maxRetries (BackoffVars.init baseDelay) s

/-- `maxRetries = 5`. -/
def defaultMaxRetries : ℕ := 5

/-- `baseDelay = 1000`. -/
def defaultBaseDelay : ℚ := 1000

/-! ### How the loop ends -/

/-- The attempt ends with a retryable error that the loop catches, and the transaction it leaves
behind is committed. -/
def Attempt.Swallowed (a : Attempt σ D) (s : σ) : Prop :=
  ∃ e s', a.callback s = (.error e, s') ∧ canRetry e = true ∧ a.commitError = none

/-- The state left by the first `k` attempts when all of them are swallowed: each finds what the
ones before it wrote. -/
def leftBy (attempts : ℕ → Attempt σ D) (s : σ) : ℕ → σ
  | 0 => s
  | k + 1 => ((attempts k).callback (leftBy attempts s k)).2

/-- The first `k` attempts are all swallowed. -/
def SwallowedUpTo (attempts : ℕ → Attempt σ D) (s : σ) (k : ℕ) : Prop :=
  ∀ j < k, (attempts j).Swallowed (leftBy attempts s j)

theorem SwallowedUpTo.succ {attempts : ℕ → Attempt σ D} {s : σ} {k : ℕ}
    (h : SwallowedUpTo attempts s k) (hk : (attempts k).Swallowed (leftBy attempts s k)) :
    SwallowedUpTo attempts s (k + 1) := by
  intro j hj
  rcases Nat.lt_succ_iff_lt_or_eq.1 hj with hlt | rfl
  · exact h j hlt
  · exact hk

theorem SwallowedUpTo.mono {attempts : ℕ → Attempt σ D} {s : σ} {k l : ℕ}
    (h : SwallowedUpTo attempts s l) (hkl : k ≤ l) : SwallowedUpTo attempts s k :=
  fun j hj => h j (lt_of_lt_of_le hj hkl)

/-- **How the method ends.**  Either every attempt it may make is swallowed, or the first one that
is not decides: it is committed, or its error (of the callback or of the commit) is rethrown. -/
inductive BackoffEnd (attempts : ℕ → Attempt σ D) (maxRetries : ℕ) (s : σ) :
    (Except JsError Unit × BackoffVars D) × σ → Prop
  | exhausted {v : BackoffVars D} (hall : SwallowedUpTo attempts s maxRetries)
      (hdata : v.data = none) :
      BackoffEnd attempts maxRetries s ((.ok (), v), leftBy attempts s maxRetries)
  | committed {k : ℕ} {d : D} {s' : σ} {v : BackoffVars D} (hk : k < maxRetries)
      (hbefore : SwallowedUpTo attempts s k)
      (hcall : (attempts k).callback (leftBy attempts s k) = (.ok d, s'))
      (hcommit : (attempts k).commitError = none) (hdata : v.data = some d) :
      BackoffEnd attempts maxRetries s ((.ok (), v), s')
  | rethrown {k : ℕ} {e : JsError} {v : BackoffVars D} (hk : k < maxRetries)
      (hbefore : SwallowedUpTo attempts s k)
      (hnot : ¬ (attempts k).Swallowed (leftBy attempts s k)) :
      BackoffEnd attempts maxRetries s ((.error e, v), leftBy attempts s k)

/-- One round of the loop, by what its attempt does. -/
theorem backoffLoop_ends (attempts : ℕ → Attempt σ D) (maxRetries : ℕ) (s : σ) :
    ∀ (rounds k : ℕ) (v : BackoffVars D), k + rounds = maxRetries → v.retries = k →
      v.data = none → SwallowedUpTo attempts s k → v.isDone = false →
      BackoffEnd attempts maxRetries s
        (backoffLoop attempts maxRetries rounds v (leftBy attempts s k)) := by
  -- the counter and the rounds left always add up to the limit
  intro rounds
  induction rounds with
  | zero =>
      intro k v hsum _ hdata hbefore _
      obtain rfl : k = maxRetries := by omega
      exact BackoffEnd.exhausted hbefore hdata
  | succ rounds ih =>
      intro k v hsum hret hdata hbefore hdone
      have hk : k < maxRetries := by omega
      rw [backoffLoop, hret, if_pos hk]
      rcases hcall : (attempts k).callback (leftBy attempts s k) with ⟨r, s'⟩
      cases hcommit : (attempts k).commitError with
      | some e =>
          -- the commit fails: whatever the callback did is rolled back
          have hnot : ¬ (attempts k).Swallowed (leftBy attempts s k) := by
            rintro ⟨_, _, _, _, h⟩
            simp [hcommit] at h
          cases r with
          | ok d =>
              simp only [managerTransaction, attemptBody, hcall]
              exact BackoffEnd.rethrown hk hbefore hnot
          | error e' =>
              by_cases hretry : canRetry e' = true
              · simp only [managerTransaction, attemptBody, hcall, hretry, hret, hk, and_self,
                  if_true]
                exact BackoffEnd.rethrown hk hbefore hnot
              · simp only [managerTransaction, attemptBody, hcall, hretry]
                exact BackoffEnd.rethrown hk hbefore hnot
      | none =>
          cases r with
          | ok d =>
              simp only [managerTransaction, attemptBody, hcall, if_true]
              exact BackoffEnd.committed hk hbefore hcall hcommit rfl
          | error e =>
              by_cases hretry : canRetry e = true
              · have hsw : (attempts k).Swallowed (leftBy attempts s k) :=
                  ⟨e, s', hcall, hretry, hcommit⟩
                have hleft : s' = leftBy attempts s (k + 1) := by rw [leftBy, hcall]
                simp only [managerTransaction, attemptBody, hcall, hretry, hret, hk, and_self,
                  if_true, hdone, Bool.false_eq_true, if_false]
                rw [hleft]
                exact ih (k + 1) _ (by omega) rfl hdata (hbefore.succ hsw) rfl
              · have hnot : ¬ (attempts k).Swallowed (leftBy attempts s k) := by
                  rintro ⟨e', _, hcall', hretry', _⟩
                  rw [hcall] at hcall'
                  simp only [Prod.mk.injEq, Except.error.injEq] at hcall'
                  exact hretry (hcall'.1 ▸ hretry')
                simp only [managerTransaction, attemptBody, hcall, hretry]
                exact BackoffEnd.rethrown hk hbefore hnot

/-- **The three ways in which the method ends.** -/
theorem backoff_ends (attempts : ℕ → Attempt σ D) (maxRetries : ℕ) (baseDelay : ℚ) (s : σ) :
    BackoffEnd attempts maxRetries s
      (runTransactionWithExponentialBackoff attempts maxRetries baseDelay s) :=
  backoffLoop_ends attempts maxRetries s maxRetries 0 (BackoffVars.init baseDelay) (by omega) rfl
    rfl (fun _ h => absurd h (Nat.not_lt_zero _)) rfl

end Revocation
