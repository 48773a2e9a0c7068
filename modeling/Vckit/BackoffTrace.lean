/-
**Every round of the retry loop.**

The loop of `runTransactionWithExponentialBackoff` ends through a flag, a counter and errors that
cross the function handed to the transaction.  This module keeps a record of every round: what the
callback returned or threw, how long the timer was, and how the transaction ended.  The attempts
come from a stream and are taken one for each time that the callback is invoked.

The loop itself may not end: it is given some number of rounds, and has no result when that number
is too small.

Main definitions:

* `Revocation.Round`, `Revocation.Ending` — the record of a round and of a call;
* `Revocation.recordedLoop`, `Revocation.recordedRun` — the loop and the method, with records;
* `Revocation.Rounds` — the rounds that are left after some number of retries;
* `Revocation.RetryLaw` — what is promised of the rounds;
* `Revocation.WaitsDouble` — the waits that the delays ask for.

Main results:

* `Revocation.recordedLoop_rounds` — the loop ends, and its rounds are the ones that are left;
* `Revocation.backoffLoop_recorded` — without its records, it is the loop of the store;
* `Revocation.run_rounds` — **the rounds of the method**: at most `maxRetries` invocations, the last
  one decides how it ends, a timer for the doubled delay after each retryable error, and at most one
  attempt that succeeds is committed;
* `Revocation.not_waitsDouble_deadlocks` — a delay that no timer waits for.
-/

import Vckit.Backoff

set_option relaxedAutoImplicit false
set_option autoImplicit false

namespace Revocation

variable {σ D : Type}

/-! ### Records -/

/-- One invocation of the callback: what it returned or threw, and for how many milliseconds the
timer was awaited after it. -/
structure Invocation (D : Type) where
  callback : Except JsError D
  waited : Option ℤ
  deriving DecidableEq

/-- One round of the loop: the invocation, and how its transaction ended. -/
structure Round (D : Type) extends Invocation D where
  transaction : Except JsError Unit
  deriving DecidableEq

/-- How a call ends, with the rounds it made and the state it leaves. -/
structure Ending (σ D : Type) where
  result : Except JsError Unit
  rounds : List (Round D)
  state : σ
  deriving DecidableEq

/-- One round more before the others. -/
def Ending.after (r : Round D) (out : Ending σ D) : Ending σ D :=
  { out with rounds := r :: out.rounds }

/-- The callback threw an error that looks retryable. -/
def Invocation.retryable (i : Invocation D) : Bool :=
  match i.callback with
  | .ok _ => false
  | .error e => canRetry e

theorem retryable_of_error {i : Invocation D} {e : JsError} (h : i.callback = .error e) :
    i.retryable = canRetry e := by
  rw [Invocation.retryable, h]

theorem exists_of_retryable {i : Invocation D} (h : i.retryable = true) :
    ∃ e, i.callback = .error e ∧ canRetry e = true := by
  cases hcall : i.callback with
  | ok d =>
      rw [Invocation.retryable, hcall] at h
      cases h
  | error e => exact ⟨e, rfl, (retryable_of_error hcall).symm.trans h⟩

/-- The callback returned, and so did the transaction. -/
def Round.committed (r : Round D) : Bool := r.callback.isOk && r.transaction.isOk

/-! ### The loop -/

section Loop

/-- The variables of the loop. -/
structure LoopVars where
  isDone : Bool
  retries : ℕ
  delay : ℚ

/-- The function handed to `manager.transaction`. -/
def recordedBody (maxRetries : ℕ) (callback : σ → Except JsError D × σ) (v : LoopVars) (s : σ) :
    (Except JsError Unit × (LoopVars × Invocation D)) × σ :=
  match callback s with
  | (.ok d, s') => ((.ok (), { v with isDone := true }, ⟨.ok d, none⟩), s')
  | (.error e, s') =>
      if canRetry e = true ∧ v.retries < maxRetries then
        -- the timer runs inside the transaction, before the delay is doubled
        ((.ok (), { v with retries := v.retries + 1, delay := v.delay * 2 },
          ⟨.error e, some (setTimeout v.delay)⟩), s')
      else ((.error e, v, ⟨.error e, none⟩), s')

/-- The `while` loop, with at most a number of rounds and after some number of invocations. -/
def recordedLoop (attempts : ℕ → Attempt σ D) (maxRetries : ℕ) :
    ℕ → ℕ → LoopVars → σ → Option (Ending σ D)
  | 0, _, _, _ => none
  | fuel + 1, n, v, s =>
      if v.retries < maxRetries then
        match managerTransaction (recordedBody maxRetries (attempts n).callback v)
            (attempts n).commitError s with
        | ((.error e, _, i), s') => some ⟨.error e, [⟨i, .error e⟩], s'⟩
        | ((.ok (), v', i), s') =>
            if v'.isDone then some ⟨.ok (), [⟨i, .ok ()⟩], s'⟩
            else
              (recordedLoop attempts maxRetries fuel (n + 1) v' s').map (Ending.after ⟨i, .ok ()⟩)
      else some ⟨.ok (), [], s⟩

/-- `runTransactionWithExponentialBackoff`, for at most a number of rounds. -/
def recordedRun (attempts : ℕ → Attempt σ D) (maxRetries : ℕ) (baseDelay : ℚ) (fuel : ℕ) (s : σ) :
    Option (Ending σ D) :=
  recordedLoop attempts maxRetries fuel 0 ⟨false, 0, baseDelay⟩ s

/-! ### The rounds of a call -/

/-- **The rounds of a call** with some retries left: none, or one that decides, or one whose error
is caught and the rounds of the attempts after it, with twice the delay. -/
inductive Rounds : (ℕ → Attempt σ D) → ℕ → ℚ → σ → Ending σ D → Prop
  | exhausted {attempts : ℕ → Attempt σ D} {delay : ℚ} {s : σ} :
      Rounds attempts 0 delay s ⟨.ok (), [], s⟩
  | committed {attempts : ℕ → Attempt σ D} {left : ℕ} {delay : ℚ} {s s' : σ} {d : D}
      (hcall : (attempts 0).callback s = (.ok d, s'))
      (hcommit : (attempts 0).commitError = none) :
      Rounds attempts (left + 1) delay s ⟨.ok (), [⟨⟨.ok d, none⟩, .ok ()⟩], s'⟩
  | rolledBack {attempts : ℕ → Attempt σ D} {left : ℕ} {delay : ℚ} {s s' : σ} {d : D} {e : JsError}
      (hcall : (attempts 0).callback s = (.ok d, s'))
      (hcommit : (attempts 0).commitError = some e) :
      Rounds attempts (left + 1) delay s ⟨.error e, [⟨⟨.ok d, none⟩, .error e⟩], s⟩
  | thrown {attempts : ℕ → Attempt σ D} {left : ℕ} {delay : ℚ} {s s' : σ} {e : JsError}
      (hcall : (attempts 0).callback s = (.error e, s')) (hretry : canRetry e = false) :
      Rounds attempts (left + 1) delay s ⟨.error e, [⟨⟨.error e, none⟩, .error e⟩], s⟩
  | waitedRolledBack {attempts : ℕ → Attempt σ D} {left : ℕ} {delay : ℚ} {s s' : σ}
      {e e' : JsError} (hcall : (attempts 0).callback s = (.error e, s'))
      (hretry : canRetry e = true) (hcommit : (attempts 0).commitError = some e') :
      Rounds attempts (left + 1) delay s
        ⟨.error e', [⟨⟨.error e, some (setTimeout delay)⟩, .error e'⟩], s⟩
  | swallowed {attempts : ℕ → Attempt σ D} {left : ℕ} {delay : ℚ} {s s' : σ} {e : JsError}
      {out : Ending σ D} (hcall : (attempts 0).callback s = (.error e, s'))
      (hretry : canRetry e = true) (hcommit : (attempts 0).commitError = none)
      (hrest : Rounds (fun i => attempts (i + 1)) left (delay * 2) s' out) :
      Rounds attempts (left + 1) delay s (out.after ⟨⟨.error e, some (setTimeout delay)⟩, .ok ()⟩)

/-- **The loop ends**, after the rounds of the retries that are left. -/
theorem recordedLoop_rounds (attempts : ℕ → Attempt σ D) (maxRetries : ℕ) :
    ∀ (left n retries : ℕ) (delay : ℚ) (s : σ), retries + left = maxRetries → ∃ out,
      Rounds (fun i => attempts (n + i)) left delay s out ∧
      ∀ fuel, left < fuel →
        recordedLoop attempts maxRetries fuel n ⟨false, retries, delay⟩ s = some out := by
  -- each round that is not the last one takes one of the retries that are left
  intro left
  induction left with
  | zero =>
      intro n retries delay s hsum
      refine ⟨_, .exhausted, fun fuel hfuel => ?_⟩
      obtain ⟨fuel, rfl⟩ := Nat.exists_eq_succ_of_ne_zero (Nat.pos_iff_ne_zero.1 hfuel)
      have hend : ¬ retries < maxRetries := by omega
      rw [recordedLoop, if_neg hend]
  | succ left ih =>
      intro n retries delay s hsum
      have hlt : retries < maxRetries := by omega
      have hround : ∀ fuel, left + 1 < fuel → ∃ fuel', left < fuel' ∧ fuel = fuel' + 1 :=
        fun fuel hfuel => ⟨fuel - 1, by omega, by omega⟩
      rcases hcall : (attempts n).callback s with ⟨r, s'⟩
      cases r with
      | ok d =>
          cases hcommit : (attempts n).commitError with
          | none =>
              refine ⟨_, .committed hcall hcommit, fun fuel hfuel => ?_⟩
              obtain ⟨fuel, -, rfl⟩ := hround fuel hfuel
              simp only [recordedLoop, if_pos hlt, managerTransaction, recordedBody, hcall, hcommit,
                if_true]
          | some e =>
              refine ⟨_, .rolledBack hcall hcommit, fun fuel hfuel => ?_⟩
              obtain ⟨fuel, -, rfl⟩ := hround fuel hfuel
              simp only [recordedLoop, if_pos hlt, managerTransaction, recordedBody, hcall, hcommit]
      | error e =>
          cases hretry : canRetry e with
          | false =>
              refine ⟨_, .thrown hcall hretry, fun fuel hfuel => ?_⟩
              obtain ⟨fuel, -, rfl⟩ := hround fuel hfuel
              simp only [recordedLoop, if_pos hlt, managerTransaction, recordedBody, hcall, hretry,
                Bool.false_eq_true, false_and, if_false]
          | true =>
              cases hcommit : (attempts n).commitError with
              | some e' =>
                  refine ⟨_, .waitedRolledBack hcall hretry hcommit, fun fuel hfuel => ?_⟩
                  obtain ⟨fuel, -, rfl⟩ := hround fuel hfuel
                  simp only [recordedLoop, hlt, managerTransaction, recordedBody, hcall, hretry,
                    hcommit, and_self, if_true]
              | none =>
                  obtain ⟨out, hout, hrun⟩ := ih (n + 1) (retries + 1) (delay * 2) s' (by omega)
                  have hshift : (fun i => attempts (n + 1 + i)) = fun i => attempts (n + (i + 1)) :=
                    funext fun i => congrArg attempts (Nat.succ_add_eq_add_succ n i)
                  rw [hshift] at hout
                  refine ⟨_, .swallowed hcall hretry hcommit hout, fun fuel hfuel => ?_⟩
                  obtain ⟨fuel, hleft, rfl⟩ := hround fuel hfuel
                  simp only [recordedLoop, hlt, managerTransaction, recordedBody, hcall, hretry,
                    hcommit, and_self, if_true, Bool.false_eq_true, if_false]
                  rw [hrun fuel hleft, Option.map_some]

/-- The attempts after the first one find what it left. -/
theorem leftBy_succ (attempts : ℕ → Attempt σ D) (s : σ) :
    ∀ i, leftBy attempts s (i + 1) =
      leftBy (fun i => attempts (i + 1)) ((attempts 0).callback s).2 i := by
  intro i
  induction i with
  | zero => rfl
  | succ i ih => rw [leftBy, ih, leftBy]

/-! ### The retry law -/

/-- **The retry law**: what is promised of the rounds of a call. -/
structure RetryLaw (attempts : ℕ → Attempt σ D) (maxRetries : ℕ) (baseDelay : ℚ) (s : σ)
    (out : Ending σ D) : Prop where
  invocations : out.rounds.length ≤ maxRetries
  /-- Round `i` runs attempt `i` of the stream, on what the attempts before it left. -/
  stream {i : ℕ} {r : Round D} (hr : out.rounds[i]? = some r) :
    r.callback = ((attempts i).callback (leftBy attempts s i)).1
  success_last {i : ℕ} {r : Round D} {d : D} (hr : out.rounds[i]? = some r)
    (hok : r.callback = .ok d) : i + 1 = out.rounds.length
  thrown_last {i : ℕ} {r : Round D} {e : JsError} (hr : out.rounds[i]? = some r)
    (herror : r.callback = .error e) (hretry : canRetry e = false) :
    i + 1 = out.rounds.length ∧ out.result = .error e
  /-- A commit is tried when the callback returned or its error was caught. -/
  commit_last {i : ℕ} {r : Round D} {e : JsError} (hr : out.rounds[i]? = some r)
    (hbody : (∃ d, r.callback = .ok d) ∨ r.retryable = true)
    (hcommit : (attempts i).commitError = some e) :
    i + 1 = out.rounds.length ∧ out.result = .error e
  /-- After the `j`-th retryable error. -/
  waits {i j : ℕ} {r : Round D} (hr : out.rounds[i]? = some r) (hretry : r.retryable = true)
    (hj : (out.rounds.take (i + 1)).countP (fun r => r.retryable) = j) :
    r.waited = some (setTimeout (baseDelay * 2 ^ (j - 1)))
  no_wait {i : ℕ} {r : Round D} (hr : out.rounds[i]? = some r) (hretry : r.retryable = false) :
    r.waited = none
  committed_once : out.rounds.countP Round.committed ≤ 1

/-- The only element of a list. -/
theorem eq_of_getElem?_singleton {α : Type} {i : ℕ} {a b : α} (h : [a][i]? = some b) :
    i = 0 ∧ a = b := by
  cases i with
  | zero => exact ⟨rfl, Option.some.inj h⟩
  | succ i => cases h

section Law

variable {attempts : ℕ → Attempt σ D} {left : ℕ} {delay : ℚ} {s s' : σ} {r : Round D}

/-- A call of one round. -/
theorem RetryLaw.single {result : Except JsError Unit}
    (hstream : r.callback = ((attempts 0).callback s).1)
    (hthrown : ∀ e, r.callback = .error e → canRetry e = false → result = .error e)
    (hcommit : ∀ e, (∃ d, r.callback = .ok d) ∨ r.retryable = true →
      (attempts 0).commitError = some e → result = .error e)
    (hwait : r.waited = if r.retryable then some (setTimeout delay) else none) :
    RetryLaw attempts (left + 1) delay s ⟨result, [r], s'⟩ where
  invocations := Nat.succ_le_succ (Nat.zero_le left)
  stream hr := by
    obtain ⟨rfl, rfl⟩ := eq_of_getElem?_singleton hr
    exact hstream
  success_last hr _ := by
    obtain ⟨rfl, rfl⟩ := eq_of_getElem?_singleton hr
    rfl
  thrown_last hr herror hretry := by
    obtain ⟨rfl, rfl⟩ := eq_of_getElem?_singleton hr
    exact ⟨rfl, hthrown _ herror hretry⟩
  commit_last hr hbody hfailed := by
    obtain ⟨rfl, rfl⟩ := eq_of_getElem?_singleton hr
    exact ⟨rfl, hcommit _ hbody hfailed⟩
  waits hr hretry hj := by
    obtain ⟨rfl, rfl⟩ := eq_of_getElem?_singleton hr
    rw [hwait, if_pos hretry, ← hj]
    simp [hretry]
  no_wait hr hretry := by
    obtain ⟨rfl, rfl⟩ := eq_of_getElem?_singleton hr
    rw [hwait, hretry]
    rfl
  committed_once := List.countP_le_length

/-- One round more, whose error is caught and whose transaction is committed. -/
theorem RetryLaw.after {out : Ending σ D}
    (hlaw : RetryLaw (fun i => attempts (i + 1)) left (delay * 2) ((attempts 0).callback s).2 out)
    (hstream : r.callback = ((attempts 0).callback s).1) (hretry : r.retryable = true)
    (hcommit : (attempts 0).commitError = none) (hwait : r.waited = some (setTimeout delay)) :
    RetryLaw attempts (left + 1) delay s (out.after r) := by
  obtain ⟨e, herror, he⟩ := exists_of_retryable hretry
  constructor
  case invocations => exact Nat.succ_le_succ hlaw.invocations
  case stream =>
      intro i r' hr
      cases i with
      | zero => rw [← Option.some.inj hr, hstream, leftBy]
      | succ i => rw [hlaw.stream hr, leftBy_succ]
  case success_last =>
      intro i r' d hr hok
      cases i with
      | zero =>
          rw [← Option.some.inj hr, herror] at hok
          cases hok
      | succ i => exact congrArg Nat.succ (hlaw.success_last hr hok)
  case thrown_last =>
      intro i r' e' hr herror' hnot
      cases i with
      | zero =>
          rw [← Option.some.inj hr, herror] at herror'
          rw [← Except.error.inj herror', he] at hnot
          cases hnot
      | succ i =>
          obtain ⟨hlen, hresult⟩ := hlaw.thrown_last hr herror' hnot
          exact ⟨congrArg Nat.succ hlen, hresult⟩
  case commit_last =>
      intro i r' e' hr hbody hfailed
      cases i with
      | zero =>
          rw [hcommit] at hfailed
          cases hfailed
      | succ i =>
          obtain ⟨hlen, hresult⟩ := hlaw.commit_last hr hbody hfailed
          exact ⟨congrArg Nat.succ hlen, hresult⟩
  case waits =>
      intro i j r' hr hretry' hj
      have hcount : (out.rounds.take i).countP (fun r => r.retryable) + 1 = j := by
        rw [← hj, Ending.after, List.take_succ_cons]
        exact (List.countP_cons_of_pos (p := fun r : Round D => r.retryable) hretry).symm
      cases i with
      | zero =>
          rw [← Option.some.inj hr, hwait, ← hcount]
          simp
      | succ i =>
          -- the delay was doubled once more
          have hpos : 0 < (out.rounds.take (i + 1)).countP (fun r => r.retryable) :=
            List.countP_pos_iff.2 ⟨r', List.mem_of_getElem? (by
              rwa [List.getElem?_take_of_lt (Nat.lt_succ_self i)]), hretry'⟩
          rw [hlaw.waits hr hretry' rfl, ← hcount, Nat.add_sub_cancel, mul_assoc, ← pow_succ',
            Nat.sub_add_cancel hpos]
  case no_wait =>
      intro i r' hr hretry'
      cases i with
      | zero =>
          rw [← Option.some.inj hr, hretry] at hretry'
          cases hretry'
      | succ i => exact hlaw.no_wait hr hretry'
  case committed_once =>
      have hnot : r.committed = false := by
        rw [Round.committed, herror]
        rfl
      rw [Ending.after, List.countP_cons_of_neg (by rw [hnot]; exact Bool.false_ne_true)]
      exact hlaw.committed_once

/-- **The rounds of a call keep the retry law.** -/
theorem Rounds.law {out : Ending σ D} (h : Rounds attempts left delay s out) :
    RetryLaw attempts left delay s out := by
  induction h with
  | exhausted =>
      constructor
      case invocations => exact le_rfl
      case committed_once => exact Nat.zero_le 1
      all_goals exact fun hr => nomatch hr
  | committed hcall hcommit =>
      refine .single (by rw [hcall]) (fun _ h => nomatch h) (fun e _ hfailed => ?_) rfl
      rw [hcommit] at hfailed
      cases hfailed
  | rolledBack hcall hcommit =>
      refine .single (by rw [hcall]) (fun _ h => nomatch h) (fun e _ hfailed => ?_) rfl
      rw [Option.some.inj (hcommit.symm.trans hfailed)]
  | thrown hcall hretry =>
      refine .single (by rw [hcall]) (fun e h _ => congrArg Except.error (Except.error.inj h))
        (fun e hbody _ => ?_) ?_
      · rcases hbody with ⟨d, hd⟩ | hr
        · cases hd
        · exact absurd (hretry.symm.trans hr) Bool.false_ne_true
      · rw [retryable_of_error rfl, hretry]
        rfl
  | waitedRolledBack hcall hretry hcommit =>
      refine .single (by rw [hcall]) (fun e h hnot => ?_) (fun e _ hfailed => ?_) ?_
      · rw [← Except.error.inj h, hretry] at hnot
        cases hnot
      · rw [Option.some.inj (hcommit.symm.trans hfailed)]
      · rw [retryable_of_error rfl, hretry]
        rfl
  | swallowed hcall hretry hcommit _ ih =>
      refine .after ?_ (by rw [hcall]) hretry hcommit rfl
      rwa [hcall]

end Law

/-! ### Waits -/

/-- A delay that a timer waits for: a whole number of milliseconds that fits 32 bits, and at least
one. -/
def TimerFits (delay : ℚ) : Prop :=
  (delay.floor : ℚ) = delay ∧ 1 ≤ delay ∧ delay ≤ 2147483647

theorem setTimeout_eq_iff {delay : ℚ} : (setTimeout delay : ℚ) = delay ↔ TimerFits delay := by
  rw [setTimeout]
  split_ifs with hrange
  · exact ⟨fun h => ⟨h, hrange⟩, fun h => h.1⟩
  · refine ⟨fun h => ?_, fun h => absurd h.2 hrange⟩
    have hone : (1 : ℚ) ≤ 2147483647 := by decide +kernel
    rw [Int.cast_one] at h
    exact absurd ⟨h.le, h ▸ hone⟩ hrange

/-- The number of the retryable errors up to a round. -/
def retryCount (out : Ending σ D) (i : ℕ) : ℕ :=
  (out.rounds.take (i + 1)).countP fun r => r.retryable

/-- After the `j`-th retryable error the wait is the base delay, doubled `j - 1` times. -/
def WaitsDouble (baseDelay : ℚ) (out : Ending σ D) : Prop :=
  ∀ i r, out.rounds[i]? = some r → r.retryable = true →
    ∃ wait : ℤ, r.waited = some wait ∧ (wait : ℚ) = baseDelay * 2 ^ (retryCount out i - 1)

/-- **The waits double as long as timers wait for the delays.** -/
theorem RetryLaw.waitsDouble_iff {attempts : ℕ → Attempt σ D} {maxRetries : ℕ} {baseDelay : ℚ}
    {s : σ} {out : Ending σ D} (hlaw : RetryLaw attempts maxRetries baseDelay s out) :
    WaitsDouble baseDelay out ↔ ∀ i r, out.rounds[i]? = some r → r.retryable = true →
      TimerFits (baseDelay * 2 ^ (retryCount out i - 1)) := by
  constructor
  · intro h i r hr hretry
    obtain ⟨wait, hwait, heq⟩ := h i r hr hretry
    rw [hlaw.waits hr hretry rfl] at hwait
    rw [← Option.some.inj hwait] at heq
    exact setTimeout_eq_iff.1 heq
  · intro h i r hr hretry
    exact ⟨_, hlaw.waits hr hretry rfl, setTimeout_eq_iff.2 (h i r hr hretry)⟩

end Loop

/-! ### The loop of the store -/

/-- The variables of the loop of the store after a retry. -/
def BackoffVars.waited (v : BackoffVars D) : BackoffVars D :=
  { v with
    retries := v.retries + 1
    slept := v.slept ++ [setTimeout v.delay]
    delay := v.delay * 2 }

/-- **Without its records it is the loop of the store**, with the same result, state and waits. -/
theorem backoffLoop_recorded {attempts : ℕ → Attempt σ D} {maxRetries : ℕ} {left : ℕ} {delay : ℚ}
    {s : σ}
    {rest : ℕ → Attempt σ D} {out : Ending σ D} (h : Rounds rest left delay s out) :
    ∀ v : BackoffVars D, v.retries + left = maxRetries → v.delay = delay → v.isDone = false →
      (∀ i, rest i = attempts (v.retries + i)) → ∃ v',
        backoffLoop attempts maxRetries left v s = ((out.result, v'), out.state) ∧
        v'.slept = v.slept ++ out.rounds.filterMap fun r => r.waited := by
  induction h with
  | exhausted =>
      intro v _ _ _ _
      exact ⟨v, rfl, (List.append_nil _).symm⟩
  | @committed _ _ _ _ _ d hcall hcommit =>
      intro v hsum hdelay hdone hrest
      rw [hrest, Nat.add_zero] at hcall hcommit
      have hlt : v.retries < maxRetries := by omega
      refine ⟨{ v with isDone := true, data := some d }, ?_, (List.append_nil _).symm⟩
      simp only [backoffLoop, if_pos hlt, managerTransaction, attemptBody, hcall, hcommit, if_true]
  | @rolledBack _ _ _ _ _ d _ hcall hcommit =>
      intro v hsum hdelay hdone hrest
      rw [hrest, Nat.add_zero] at hcall hcommit
      have hlt : v.retries < maxRetries := by omega
      refine ⟨{ v with isDone := true, data := some d }, ?_, (List.append_nil _).symm⟩
      simp only [backoffLoop, if_pos hlt, managerTransaction, attemptBody, hcall, hcommit]
  | thrown hcall hretry =>
      intro v hsum hdelay hdone hrest
      rw [hrest, Nat.add_zero] at hcall
      have hlt : v.retries < maxRetries := by omega
      refine ⟨v, ?_, (List.append_nil _).symm⟩
      simp only [backoffLoop, if_pos hlt, managerTransaction, attemptBody, hcall, hretry,
        Bool.false_eq_true, false_and, if_false]
  | waitedRolledBack hcall hretry hcommit =>
      intro v hsum hdelay hdone hrest
      rw [hrest, Nat.add_zero] at hcall hcommit
      have hlt : v.retries < maxRetries := by omega
      refine ⟨v.waited, ?_, congrArg (fun d => v.slept ++ [setTimeout d]) hdelay⟩
      simp only [backoffLoop, hlt, managerTransaction, attemptBody, hcall, hretry, hcommit,
        and_self, if_true, BackoffVars.waited]
  | swallowed hcall hretry hcommit _ ih =>
      intro v hsum hdelay hdone hrest
      have hlt : v.retries < maxRetries := by omega
      have hsum' : v.waited.retries + _ = maxRetries :=
        (Nat.succ_add_eq_add_succ v.retries _).trans hsum
      obtain ⟨v', hloop, hslept⟩ := ih v.waited hsum' (congrArg (fun d => d * 2) hdelay) hdone
        fun i => (hrest (i + 1)).trans
          (congrArg attempts (Nat.succ_add_eq_add_succ v.retries i).symm)
      rw [hrest, Nat.add_zero] at hcall hcommit
      refine ⟨v', ?_, ?_⟩
      · refine Eq.trans ?_ hloop
        simp only [backoffLoop, hlt, managerTransaction, attemptBody, hcall, hretry, hcommit,
          and_self, if_true, hdone, Bool.false_eq_true, if_false, BackoffVars.waited]
      · rw [hslept, BackoffVars.waited, hdelay, List.append_assoc]
        rfl

/-- A call ends, after the rounds that it makes. -/
theorem recordedRun_rounds (attempts : ℕ → Attempt σ D) (maxRetries : ℕ) (baseDelay : ℚ) (s : σ) :
    ∃ out, Rounds attempts maxRetries baseDelay s out ∧
      ∀ fuel, maxRetries < fuel → recordedRun attempts maxRetries baseDelay fuel s = some out := by
  obtain ⟨out, hrounds, hrun⟩ :=
    recordedLoop_rounds attempts maxRetries maxRetries 0 0 baseDelay s (Nat.zero_add maxRetries)
  have hstream : (fun i => attempts (0 + i)) = attempts :=
    funext fun i => congrArg attempts (Nat.zero_add i)
  rw [hstream] at hrounds
  exact ⟨out, hrounds, hrun⟩

/-- **The rounds of the method**: it ends after at most `maxRetries` invocations of the callback,
with the result and the state of the last round; there is none after a success, an error that is not
retried or a commit that fails, the last two of which are rethrown; after the `j`-th retryable error
a timer runs for the delay that was doubled `j - 1` times, and it waits as long exactly when the
delay fits it; and at most one success is committed. -/
theorem run_rounds (attempts : ℕ → Attempt σ D) (maxRetries : ℕ) (baseDelay : ℚ) (s : σ) :
    ∃ out v,
      (∀ fuel, maxRetries < fuel →
        recordedRun attempts maxRetries baseDelay fuel s = some out) ∧
      runTransactionWithExponentialBackoff attempts maxRetries baseDelay s =
        ((out.result, v), out.state) ∧
      v.slept = (out.rounds.filterMap fun r => r.waited) ∧
      Rounds attempts maxRetries baseDelay s out ∧
      RetryLaw attempts maxRetries baseDelay s out ∧
      (WaitsDouble baseDelay out ↔ ∀ i r, out.rounds[i]? = some r → r.retryable = true →
        TimerFits (baseDelay * 2 ^ (retryCount out i - 1))) := by
  obtain ⟨out, hrounds, hrun⟩ := recordedRun_rounds attempts maxRetries baseDelay s
  obtain ⟨v, hloop, hslept⟩ := backoffLoop_recorded hrounds (BackoffVars.init baseDelay)
    (Nat.zero_add maxRetries) rfl rfl fun i => congrArg attempts (Nat.zero_add i).symm
  exact ⟨out, v, hrun, hloop, hslept, hrounds, hrounds.law, hrounds.law.waitsDouble_iff⟩

/-! ### Deadlocks -/

/-- Attempts whose callbacks end in a deadlock, up to a number, and then return. -/
def deadlocks (n i : ℕ) : Attempt ℕ ℕ where
  callback s :=
    if i < n then (.error (.ofMessage "deadlock detected".toList), s) else (.ok i, s + 1)
  commitError := none

/-- The third attempt is committed, after timers of one and of two seconds. -/
theorem run_rounds_deadlocks :
    ∃ v, runTransactionWithExponentialBackoff (deadlocks 2) 5 1000 0 = ((.ok (), v), 1) ∧
      v.slept = [1000, 2000] := by
  obtain ⟨out, v, hends, hrun, hslept, -, -, -⟩ := run_rounds (deadlocks 2) 5 1000 0
  have hout := hends 6 (by decide)
  have hrecorded : recordedRun (deadlocks 2) 5 1000 6 0 = some
      { result := .ok ()
        rounds := [⟨⟨.error (.ofMessage "deadlock detected".toList), some 1000⟩, .ok ()⟩,
          ⟨⟨.error (.ofMessage "deadlock detected".toList), some 2000⟩, .ok ()⟩,
          ⟨⟨.ok 2, none⟩, .ok ()⟩]
        state := 1 } := by decide +kernel
  rw [hrecorded] at hout
  rw [← Option.some.inj hout] at hrun hslept
  exact ⟨v, hrun, hslept⟩

/-- **A delay that no timer waits for**: 25 days are waited for as one millisecond. -/
theorem not_waitsDouble_deadlocks :
    ∃ out, (∀ fuel, 1 < fuel → recordedRun (deadlocks 1) 1 2160000000 fuel 0 = some out) ∧
      out.rounds.map (fun r => r.waited) = [some 1] ∧ ¬WaitsDouble 2160000000 out := by
  obtain ⟨out, hrounds, hends⟩ := recordedRun_rounds (deadlocks 1) 1 2160000000 0
  have hout := hends 2 (by decide)
  have hrecorded : recordedRun (deadlocks 1) 1 2160000000 2 0 = some
      ⟨.ok (), [⟨⟨.error (.ofMessage "deadlock detected".toList), some 1⟩, .ok ()⟩], 0⟩ := by
    decide +kernel
  rw [hrecorded] at hout
  rw [← Option.some.inj hout] at hrounds hends
  refine ⟨_, hends, rfl, fun h => ?_⟩
  have hfits := hrounds.law.waitsDouble_iff.1 h 0 _ rfl (by decide +kernel)
  have htoo : ¬(2160000000 * 2 ^ (1 - 1) : ℚ) ≤ 2147483647 := by decide +kernel
  exact htoo hfits.2.2

end Revocation
