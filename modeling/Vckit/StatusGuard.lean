/-
**The guard of a status change.**

`revokeCredential`, `activateCredential` and `checkStatus` all turn the result of the library's
check into one boolean, `revoked: !result.verified`.  The library reports a check that failed (the
list could not be fetched, parsed or verified) as `verified: false` together with an error, and the
error is dropped: a failed check reads as a revoked credential.  So an active credential cannot be
revoked while its list cannot be checked, and is reported as revoked.  In every other case the
guards say what is stored.

Main definitions:

* `Revocation.CheckOutcome` — the outcomes of the library's check;
* `Revocation.statusGuard`, `Revocation.changeStatus` — the two parts of a status change;
* `Revocation.GuardsTruthful` — what the three methods say about a credential is stored.

Main results:

* `Revocation.setStatus_refused` — a guard that refuses ends the call;
* `Revocation.guardsTruthful_iff` — **the guards tell the truth exactly when the check has not
  failed on a bit that is zero**;
* `Revocation.revokeCredential_refused` — an active credential that is refused as already revoked.
-/

import Vckit.StatusInterference

set_option relaxedAutoImplicit false
set_option autoImplicit false

namespace Revocation

variable {lib : VcStatusRl2020} {options : PluginOptions} {hash : Text} {context : Context}
  {env : Env} {db : Db} {credential : Credential}

/-! ### Outcomes of the check -/

/-- What the library's check returns. -/
structure CheckResult where
  verified : Bool
  error : Option JsError
  deriving DecidableEq

/-- The outcomes of the library's check. -/
inductive CheckOutcome where
  | active
  | revoked
  | failed (error : JsError)

/-- The result that stands for an outcome. -/
def CheckOutcome.result : CheckOutcome → CheckResult
  | .active => ⟨true, none⟩
  | .revoked => ⟨false, none⟩
  | .failed error => ⟨false, some error⟩

/-- An outcome that agrees with the stored bit: a check that has not failed has read it. -/
def CheckOutcome.Agrees (bit : Bool) : CheckOutcome → Prop
  | .active => bit = false
  | .revoked => bit = true
  | .failed _ => True

/-- The data store holds the credential, and the library's check of it has this outcome. -/
structure Checked (env : Env) (db : Db) (hash : Text) (credential : Credential)
    (outcome : CheckOutcome) : Prop where
  stored_up : env.fault (.dataStoreGetVerifiableCredential hash) = none
  stored : env.dataStoreGetVerifiableCredential hash = .ok (some credential)
  check_up : env.fault (.transmuteCheckStatus credential) = none
  check : env.transmuteCheckStatus db credential = .ok outcome.result.verified

/-! ### The two parts of a status change -/

/-- The guard: refuse when the status is already the one asked for. -/
def statusGuard (alreadySet : Text) (revoked : Bool) (hash : Text) (context : Context) :
    StoreM Credential := do
  let credential ← credentialByHash hash context
  let credentialStatus ← checkStatusOf credential
  if credentialStatus.revoked = revoked then .throw (JsError.ofMessage alreadySet)
  else .ret credential

/-- What follows the guard: find the list by path and set the bit. -/
def changeStatus (lib : VcStatusRl2020) (options : PluginOptions) (revoked : Bool)
    (context : Context) (credential : Credential) : StoreM Unit := do
  let revocationListFullUrlPath ←
    Prog.ofExcept (revocationListFullUrlPathOf options.revocationListPath credential)
  lockRevocationList ⟨revocationListFullUrlPath, none⟩
  let revocationList ← getRevocationList revocationListFullUrlPath
  updateRevocationListVC lib
    { context
      revocationList
      index := credential.revocationListIndex
      revoked }

theorem setCredentialStatus_eq (lib : VcStatusRl2020) (options : PluginOptions) (alreadySet : Text)
    (revoked : Bool) (hash : Text) (context : Context) :
    setCredentialStatus lib options alreadySet revoked hash context =
      statusGuard alreadySet revoked hash context >>=
        changeStatus lib options revoked context := by
  rw [statusGuard, Prog.bind_assoc, setCredentialStatus]
  congr 1
  funext credential
  rw [Prog.bind_assoc]
  congr 1
  funext credentialStatus
  split <;> rfl

/-- The message with which a status change refuses. -/
def alreadySet : Bool → Text
  | true => "Credential already revoked.".toList
  | false => "Credential already active.".toList

/-- The guard of `revokeCredential` (`revoked` true) or of `activateCredential` refuses. -/
def Refuses (env : Env) (db : Db) (hash : Text) (context : Context) (revoked : Bool) : Prop :=
  (Prog.run (serve env) (statusGuard (alreadySet revoked) revoked hash context) db).1 =
    .error (JsError.ofMessage (alreadySet revoked))

/-- **A guard that refuses ends the call**: its error is not one to retry. -/
theorem setStatus_refused {envs : ℕ → AttemptEnv} {revoked : Bool}
    (h : Refuses (envs 0).env db hash context revoked) :
    setStatus lib options hash context envs db revoked =
      (.error (JsError.ofMessage (alreadySet revoked)), db) := by
  have hcall : callTransaction
      (setCredentialStatus lib options (alreadySet revoked) revoked hash context) envs db =
      (.error (JsError.ofMessage (alreadySet revoked)), db) := by
    have hretry : canRetry (JsError.ofMessage (alreadySet revoked)) = false := by
      cases revoked <;> decide +kernel
    have hrun : Prog.run (serve (envs 0).env)
        (setCredentialStatus lib options (alreadySet revoked) revoked hash context) db =
        (.error (JsError.ofMessage (alreadySet revoked)),
          (Prog.run (serve (envs 0).env)
            (statusGuard (alreadySet revoked) revoked hash context) db).2) := by
      rw [setCredentialStatus_eq]
      exact Prog.run_bind_of_error (Prod.ext h rfl)
    simp only [callTransaction, runTransactionWithExponentialBackoff, defaultMaxRetries,
      backoffLoop, BackoffVars.init, attemptOf, managerTransaction, attemptBody, hrun, hretry]
    rfl
  cases revoked with
  | true =>
      rw [setStatus, revokeCredential, revokeCredentialTransaction]
      rw [show "Credential already revoked.".toList = alreadySet true from rfl, hcall]
      rfl
  | false =>
      rw [setStatus, activateCredential, activateCredentialTransaction]
      rw [show "Credential already active.".toList = alreadySet false from rfl, hcall]
      rfl

/-! ### What the guards say -/

/-- `revokeCredential` refuses only a credential that is revoked, `activateCredential` only one that
is active, and `checkStatus` reports no active credential as revoked. -/
structure GuardsTruthful (lib : VcStatusRl2020) (options : PluginOptions) (env : Env) (db : Db)
    (hash : Text) (context : Context) (credential : Credential) : Prop where
  revoke : Refuses env db hash context true →
    credentialBit lib options.revocationListPath db.lists credential = some true
  activate : Refuses env db hash context false →
    credentialBit lib options.revocationListPath db.lists credential = some false
  check : (Prog.run (serve env) (checkStatus hash context) db).1 = .ok ⟨true⟩ →
    credentialBit lib options.revocationListPath db.lists credential ≠ some false

theorem run_credentialByHash_of_checked {outcome : CheckOutcome} (hagent : context.agent = true)
    (h : Checked env db hash credential outcome) :
    Prog.run (serve env) (credentialByHash hash context) db = (.ok credential, db) := by
  rw [credentialByHash, if_neg (by simp [hagent])]
  have hget : Prog.run (serve env) (perform (.dataStoreGetVerifiableCredential hash)) db =
      (.ok (some credential), db) := by
    rw [run_perform_serve, serve, h.stored_up]
    exact Prod.ext h.stored rfl
  exact (Prog.run_bind_of_ok hget).trans rfl

theorem run_checkStatusOf_of_checked {outcome : CheckOutcome}
    (h : Checked env db hash credential outcome) :
    Prog.run (serve env) (checkStatusOf credential) db =
      (.ok ⟨!outcome.result.verified⟩, db) := by
  have hcheck : Prog.run (serve env) (perform (.transmuteCheckStatus credential)) db =
      (.ok outcome.result.verified, db) := by
    rw [run_perform_serve, serve, h.check_up]
    exact Prod.ext h.check rfl
  exact (Prog.run_bind_of_ok hcheck).trans rfl

/-- `checkStatus` drops the error of the check. -/
theorem run_checkStatus {outcome : CheckOutcome} (hagent : context.agent = true)
    (h : Checked env db hash credential outcome) :
    Prog.run (serve env) (checkStatus hash context) db =
      (.ok ⟨!outcome.result.verified⟩, db) := by
  rw [checkStatus, Prog.run_bind_of_ok (run_credentialByHash_of_checked hagent h)]
  exact run_checkStatusOf_of_checked h

/-- The guard reads the check the same way. -/
theorem refuses_iff {outcome : CheckOutcome} (hagent : context.agent = true)
    (h : Checked env db hash credential outcome) (revoked : Bool) :
    Refuses env db hash context revoked ↔ (!outcome.result.verified) = revoked := by
  have hrun : Prog.run (serve env) (statusGuard (alreadySet revoked) revoked hash context) db =
      if (!outcome.result.verified) = revoked then
        (.error (JsError.ofMessage (alreadySet revoked)), db) else (.ok credential, db) := by
    rw [statusGuard, Prog.run_bind_of_ok (run_credentialByHash_of_checked hagent h),
      Prog.run_bind_of_ok (run_checkStatusOf_of_checked h)]
    dsimp only
    split <;> rfl
  rw [Refuses, hrun]
  split
  · exact iff_of_true rfl ‹_›
  · exact iff_of_false (by rintro ⟨⟩) ‹_›

/-- **The guards tell the truth exactly when the check has not failed with an error on a bit that is
zero.** -/
theorem guardsTruthful_iff {outcome : CheckOutcome} {bit : Bool}
    (hbit : credentialBit lib options.revocationListPath db.lists credential = some bit)
    (hagent : context.agent = true) (h : Checked env db hash credential outcome)
    (hagrees : outcome.Agrees bit) :
    GuardsTruthful lib options env db hash context credential ↔
      ¬((∃ e, outcome = .failed e) ∧ bit = false) := by
  have hcheck : (Prog.run (serve env) (checkStatus hash context) db).1 =
      .ok ⟨!outcome.result.verified⟩ := by
    rw [run_checkStatus hagent h]
  constructor
  · rintro htruthful ⟨⟨e, rfl⟩, rfl⟩
    exact htruthful.check hcheck hbit
  · intro hnot
    -- what is not verified and has not failed with an error was found revoked
    have hset : outcome.result.verified = false → bit = true := by
      intro hverified
      cases outcome with
      | active => cases hverified
      | revoked => exact hagrees
      | failed e => exact Bool.eq_true_of_not_eq_false fun hfalse => hnot ⟨⟨e, rfl⟩, hfalse⟩
    refine ⟨fun hrefuses => ?_, fun hrefuses => ?_, fun hreports => ?_⟩
    · have hverified := (refuses_iff hagent h true).1 hrefuses
      rw [hbit, hset (by simpa using hverified)]
    · have hverified := (refuses_iff hagent h false).1 hrefuses
      cases outcome with
      | active => rw [hbit, show bit = false from hagrees]
      | revoked => cases hverified
      | failed e => cases hverified
    · rw [hcheck] at hreports
      have hverified : (!outcome.result.verified) = true :=
        congrArg CredentialStatus.revoked (Except.ok.inj hreports)
      rw [hbit, hset (by simpa using hverified)]
      simp

/-! ### A list that cannot be fetched -/

/-- The error of a list that cannot be fetched. -/
def fetchFailed : JsError := ⟨"TypeError".toList, "fetch failed".toList⟩

/-- The agent of `plainEnvs` while the list cannot be fetched. -/
def outageEnv : Env :=
  { plainEnv [plainDid] [(plainHash, plainCredential)] with
    transmuteCheckStatus := fun _ _ => .ok (CheckOutcome.failed fetchFailed).result.verified }

/-- Calls during the outage. -/
def outageEnvs (_ : ℕ) : AttemptEnv := ⟨outageEnv, none⟩

/-- A check that finds the bit that is stored. -/
theorem guardsTruthful_plain :
    GuardsTruthful plainLib plainOptions (plainEnvs 0).env plainRevoked plainHash ⟨true⟩
      plainCredential := by
  have hbit : credentialBit plainLib plainOptions.revocationListPath plainRevoked.lists
      plainCredential = some true := by decide +kernel
  have hchecked : Checked (plainEnvs 0).env plainRevoked plainHash plainCredential .revoked :=
    ⟨rfl, rfl, rfl, by decide +kernel⟩
  exact (guardsTruthful_iff hbit rfl hchecked rfl).2 (by rintro ⟨⟨e, ⟨⟩⟩, -⟩)

/-- **An active credential that is refused as already revoked**: during an outage it cannot be
revoked, and is reported as revoked. -/
theorem revokeCredential_refused :
    credentialBit plainLib plainPath plainIssued.lists plainCredential = some false ∧
    revokeCredential plainLib plainOptions plainHash ⟨true⟩ outageEnvs plainIssued =
      (.error (JsError.ofMessage "Credential already revoked.".toList), plainIssued) ∧
    (Prog.run (serve outageEnv) (checkStatus plainHash ⟨true⟩) plainIssued).1 = .ok ⟨true⟩ := by
  have hchecked : Checked outageEnv plainIssued plainHash plainCredential (.failed fetchFailed) :=
    ⟨rfl, rfl, rfl, rfl⟩
  have hrefuses : Refuses (outageEnvs 0).env plainIssued plainHash ⟨true⟩ true :=
    (refuses_iff rfl hchecked true).2 rfl
  exact ⟨by decide +kernel, setStatus_refused hrefuses, rfl⟩

end Revocation
