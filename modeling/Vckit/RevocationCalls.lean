/-
**What a call of a plugin method does to the tables.**

A call runs one transaction in the retry loop.  This module carries the statements about one
transaction over to a call: the attempts before the last one were swallowed, and what such an
attempt can leave behind is known, so a call either gives up without an error, or commits one
transaction, or rethrows.

Main definitions:

* `Revocation.CallEnd` — the ways in which a call ends.

Main results:

* `Revocation.callTransaction_ends` — **there are no others**;
* `Revocation.leftBy_setCredentialStatus` — swallowed status changes leave the tables alone;
* `Revocation.leftBy_issue_induction` — swallowed allocations leave saved counters at most;
* `Revocation.getRevocationData_ok`, `Revocation.setCredentialStatus_ok` — what the committed
  transaction of a successful call did;
* `Revocation.getRevocationData_failed` — what an unsuccessful allocation leaves.
-/

import Vckit.RevocationSpec

set_option relaxedAutoImplicit false
set_option autoImplicit false

namespace Revocation

/-! ### The end of a call -/

section CallEnd

variable {α : Type}

/-- **How a call ends**: it gives up without an error, commits what one transaction did, or
rethrows. -/
inductive CallEnd (program : StoreM α) (envs : ℕ → AttemptEnv) (db : Db) :
    Except JsError (Option α) × Db → Prop
  | exhausted (hall : SwallowedUpTo (attemptOf program envs) db defaultMaxRetries) :
      CallEnd program envs db (.ok none, leftBy (attemptOf program envs) db defaultMaxRetries)
  | committed {k : ℕ} {a : α} {db' : Db} (hk : k < defaultMaxRetries)
      (hbefore : SwallowedUpTo (attemptOf program envs) db k)
      (hrun : Prog.run (serve (envs k).env) program (leftBy (attemptOf program envs) db k) =
        (.ok a, db'))
      (hcommit : (envs k).commitError = none) :
      CallEnd program envs db (.ok (some a), db')
  | rethrown {k : ℕ} {e : JsError} (hk : k < defaultMaxRetries)
      (hbefore : SwallowedUpTo (attemptOf program envs) db k) :
      CallEnd program envs db (.error e, leftBy (attemptOf program envs) db k)

theorem callTransaction_ends (program : StoreM α) (envs : ℕ → AttemptEnv) (db : Db) :
    CallEnd program envs db (callTransaction program envs db) := by
  unfold callTransaction
  have hend := backoff_ends (attemptOf program envs) defaultMaxRetries defaultBaseDelay db
  revert hend
  generalize runTransactionWithExponentialBackoff (attemptOf program envs) defaultMaxRetries
    defaultBaseDelay db = out
  intro hend
  cases hend with
  | exhausted hall hdata =>
      dsimp only
      rw [hdata]
      exact CallEnd.exhausted hall
  | committed hk hbefore hcall hcommit hdata =>
      dsimp only
      rw [hdata]
      exact CallEnd.committed hk hbefore hcall hcommit
  | rethrown hk hbefore _ => exact CallEnd.rethrown hk hbefore

/-- A call that returns a result has committed the transaction that returned it. -/
theorem callTransaction_ok {program : StoreM α} {envs : ℕ → AttemptEnv} {db db' : Db} {a : α}
    (h : callTransaction program envs db = (.ok (some a), db')) :
    ∃ k < defaultMaxRetries, SwallowedUpTo (attemptOf program envs) db k ∧
      (envs k).commitError = none ∧
      Prog.run (serve (envs k).env) program (leftBy (attemptOf program envs) db k) =
        (.ok a, db') := by
  have hend := callTransaction_ends program envs db
  rw [h] at hend
  cases hend with
  | committed hk hbefore hrun hcommit => exact ⟨_, hk, hbefore, hcommit, hrun⟩

end CallEnd

/-! ### Swallowed attempts -/

section Swallowed

variable {lib : VcStatusRl2020} {envs : ℕ → AttemptEnv} {options : PluginOptions} {db : Db}

/-- **Swallowed status changes leave the tables alone.** -/
theorem leftBy_setCredentialStatus {alreadySet hash : Text} {revoked : Bool} {context : Context} :
    ∀ {k : ℕ}, SwallowedUpTo
      (attemptOf (setCredentialStatus lib options alreadySet revoked hash context) envs) db k →
      leftBy (attemptOf (setCredentialStatus lib options alreadySet revoked hash context) envs)
        db k = db := by
  intro k
  induction k with
  | zero => intro _; rfl
  | succ k ih =>
      intro hall
      obtain ⟨e, db', hrun, -, -⟩ := hall k (Nat.lt_succ_self k)
      rw [leftBy, hrun]
      rw [ih (hall.mono (Nat.le_succ k)), callback_attemptOf] at hrun
      have hend := run_setCredentialStatus lib (envs k).env options alreadySet revoked hash context
        db
      rw [hrun] at hend
      cases hend with
      | failed => rfl

/-- A swallowed allocation leaves the tables it found, or has saved the next counters. -/
theorem leftBy_issue_succ {did : Text} {req : Context} (henvs : ∀ k, (envs k).env.Lawful) {k : ℕ}
    (hall : SwallowedUpTo (attemptOf (getRevocationDataTransaction lib options did req) envs) db
      (k + 1)) :
    leftBy (attemptOf (getRevocationDataTransaction lib options did req) envs) db (k + 1) =
        leftBy (attemptOf (getRevocationDataTransaction lib options did req) envs) db k ∨
      leftBy (attemptOf (getRevocationDataTransaction lib options did req) envs) db (k + 1) =
        (leftBy (attemptOf (getRevocationDataTransaction lib options did req) envs) db k).putData
          (nextData (leftBy (attemptOf (getRevocationDataTransaction lib options did req) envs) db
            k).data ⟨options.revocationListPath, did⟩ options.bitStringLength) := by
  obtain ⟨e, db', hrun, -, -⟩ := hall k (Nat.lt_succ_self k)
  rw [leftBy, hrun]
  generalize leftBy (attemptOf (getRevocationDataTransaction lib options did req) envs) db k =
    dbk at hrun ⊢
  have hend := run_issueRevocationData lib (envs k).env
    ⟨options.revocationListPath, options.bitStringLength, did, req⟩ dbk
  rw [callback_attemptOf, getRevocationDataTransaction] at hrun
  rw [hrun] at hend
  cases hend with
  | failedEarly => exact Or.inl rfl
  | failedLate _ _ hdid =>
      obtain rfl := (henvs k).didManagerGet_ok hdid
      exact Or.inr rfl

/-- **Swallowed allocations leave saved counters at most**: what saving the next counters keeps
holds after any number of them. -/
theorem leftBy_issue_induction {did : Text} {req : Context} (Q : Db → Prop)
    (henvs : ∀ k, (envs k).env.Lawful) (hstart : Q db)
    (hsave : ∀ db', Q db' → Q (db'.putData
      (nextData db'.data ⟨options.revocationListPath, did⟩ options.bitStringLength))) :
    ∀ {k : ℕ}, SwallowedUpTo (attemptOf (getRevocationDataTransaction lib options did req) envs)
        db k →
      Q (leftBy (attemptOf (getRevocationDataTransaction lib options did req) envs) db k) := by
  intro k
  induction k with
  | zero => intro _; exact hstart
  | succ k ih =>
      intro hall
      have hprev := ih (hall.mono (Nat.le_succ k))
      rcases leftBy_issue_succ henvs hall with hsame | hsaved
      · rw [hsame]
        exact hprev
      · rw [hsaved]
        exact hsave _ hprev

end Swallowed

/-! ### Successful calls -/

variable {lib : VcStatusRl2020} {envs : ℕ → AttemptEnv} {options : PluginOptions} {db db' : Db}

/-- **A successful status change** has set one bit of the list found by path, and nothing else. -/
theorem setCredentialStatus_ok {alreadySet hash : Text} {revoked : Bool} {context : Context}
    (h : callTransaction (setCredentialStatus lib options alreadySet revoked hash context) envs db =
      (.ok (some ()), db')) :
    ∃ k, SetStatusEnd lib (envs k).env options revoked hash db (.ok (), db') := by
  obtain ⟨k, -, hbefore, -, hrun⟩ := callTransaction_ok h
  rw [leftBy_setCredentialStatus hbefore] at hrun
  exact ⟨k,
    hrun ▸ run_setCredentialStatus lib (envs k).env options alreadySet revoked hash context db⟩

/-- **A successful allocation**: the swallowed attempts before the one that returned, and what
that one did. -/
theorem getRevocationData_ok {did : Text} {req : Context} {result : RevocationDataResult}
    (h : getRevocationData lib options did req envs db = (.ok (some result), db')) :
    ∃ k, SwallowedUpTo (attemptOf (getRevocationDataTransaction lib options did req) envs) db k ∧
      (attemptOf (getRevocationDataTransaction lib options did req) envs k).callback
        (leftBy (attemptOf (getRevocationDataTransaction lib options did req) envs) db k) =
          (.ok result, db') ∧
      IssueEnd lib (envs k).env
        ⟨options.revocationListPath, options.bitStringLength, did, req⟩
        (leftBy (attemptOf (getRevocationDataTransaction lib options did req) envs) db k)
        (.ok result, db') := by
  obtain ⟨k, -, hbefore, -, hrun⟩ := callTransaction_ok h
  refine ⟨k, hbefore, hrun, ?_⟩
  rw [← hrun]
  exact run_issueRevocationData lib (envs k).env _ _

/-- An allocation that is not successful leaves what swallowed attempts left. -/
theorem getRevocationData_failed {did : Text} {req : Context}
    {out : Except JsError (Option RevocationDataResult)}
    (h : getRevocationData lib options did req envs db = (out, db'))
    (hout : ∀ result, out ≠ .ok (some result)) :
    ∃ k, SwallowedUpTo (attemptOf (getRevocationDataTransaction lib options did req) envs) db k ∧
      db' = leftBy (attemptOf (getRevocationDataTransaction lib options did req) envs) db k := by
  have hend := callTransaction_ends (getRevocationDataTransaction lib options did req) envs db
  rw [getRevocationData] at h
  rw [h] at hend
  cases hend with
  | exhausted hall => exact ⟨_, hall, rfl⟩
  | committed => exact absurd rfl (hout _)
  | rethrown _ hbefore => exact ⟨_, hbefore, rfl⟩

end Revocation
