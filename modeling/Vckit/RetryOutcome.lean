/-
**What the retry loop promises, and when.**

The loop ends without an error in two ways: an attempt returned and was committed, or the attempts
ran out.  It rolls an attempt back when the error leaves the function handed to the transaction,
and commits what it wrote when the error is caught inside.  For both, this module says exactly for
which attempts the caller gets what it expects, and gives a call that does not.

Main definitions:

* `Revocation.CommittedAt` — the attempt that returned and was committed;
* `Revocation.ResolvesCommitted` — the loop resolves only with a committed result;
* `Revocation.NoPartialWrites` — an attempt that throws leaves no write.

Main results:

* `Revocation.resolves_only_committed_iff` — **the loop resolves only with a committed result
  exactly when not all the attempts it may make are swallowed**, and so do the three methods;
* `Revocation.revokeCredential_exhausted` — a call that resolves with a credential revoked that is
  not;
* `Revocation.no_partial_writes_iff` — **attempts that throw leave no write exactly when those
  whose error is caught and committed have written nothing**, and a retried allocation advances
  the counters once exactly when no swallowed attempt had saved them;
* `Revocation.getRevocationData_partial` — a call that advances them twice.
-/

import Vckit.StatusBits

set_option relaxedAutoImplicit false
set_option autoImplicit false

namespace Revocation

variable {σ D : Type}

/-! ### Resolving -/

/-- Attempt `k` is made, its callback returns `d` and leaves `s'`, and its transaction commits. -/
structure CommittedAt (attempts : ℕ → Attempt σ D) (s : σ) (k : ℕ) (d : D) (s' : σ) : Prop where
  before : SwallowedUpTo attempts s k
  callback_eq : (attempts k).callback (leftBy attempts s k) = (.ok d, s')
  commits : (attempts k).commitError = none

/-- An attempt that returns is not swallowed. -/
theorem CommittedAt.not_swallowed {attempts : ℕ → Attempt σ D} {s s' : σ} {k : ℕ} {d : D}
    (h : CommittedAt attempts s k d s') : ¬ (attempts k).Swallowed (leftBy attempts s k) := by
  rintro ⟨e, t, hcall, -, -⟩
  have hok := h.callback_eq
  rw [hcall] at hok
  cases hok

/-- **The loop resolves only when an attempt returned and was committed**, with its result and
its state. -/
def ResolvesCommitted (attempts : ℕ → Attempt σ D) (maxRetries : ℕ) (baseDelay : ℚ) (s : σ) :
    Prop :=
  ∀ v s', runTransactionWithExponentialBackoff attempts maxRetries baseDelay s = ((.ok (), v), s') →
    ∃ k < maxRetries, ∃ d, v.data = some d ∧ CommittedAt attempts s k d s'

theorem resolvesCommitted_iff (attempts : ℕ → Attempt σ D) (maxRetries : ℕ) (baseDelay : ℚ)
    (s : σ) :
    ResolvesCommitted attempts maxRetries baseDelay s ↔ ¬ SwallowedUpTo attempts s maxRetries := by
  have hend := backoff_ends attempts maxRetries baseDelay s
  unfold ResolvesCommitted
  revert hend
  generalize runTransactionWithExponentialBackoff attempts maxRetries baseDelay s = out
  intro hend
  constructor
  · intro h hall
    cases hend with
    | exhausted _ hdata =>
        -- all attempts are swallowed: the loop resolves, and nothing was returned
        obtain ⟨k, -, d, hd, -⟩ := h _ _ rfl
        rw [hdata] at hd
        cases hd
    | committed hk hbefore hcall hcommit hdata =>
        exact CommittedAt.not_swallowed ⟨hbefore, hcall, hcommit⟩ (hall _ hk)
    | rethrown hk _ hnot => exact hnot (hall _ hk)
  · intro hnot v s' hout
    subst hout
    cases hend with
    | exhausted hall => exact absurd hall hnot
    | committed hk hbefore hcall hcommit hdata =>
        exact ⟨_, hk, _, hdata, hbefore, hcall, hcommit⟩

/-- What a call resolves with is what an attempt returned and committed. -/
def CallResolvesCommitted {α : Type} (program : StoreM α) (envs : ℕ → AttemptEnv) (db : Db) :
    Prop :=
  ∀ out db', callTransaction program envs db = (.ok out, db') →
    ∃ k < defaultMaxRetries, ∃ a, out = some a ∧ CommittedAt (attemptOf program envs) db k a db'

theorem callResolvesCommitted_iff {α : Type} (program : StoreM α) (envs : ℕ → AttemptEnv)
    (db : Db) : CallResolvesCommitted program envs db ↔
      ¬ SwallowedUpTo (attemptOf program envs) db defaultMaxRetries := by
  rw [← resolvesCommitted_iff _ _ defaultBaseDelay, CallResolvesCommitted, ResolvesCommitted]
  unfold callTransaction
  generalize runTransactionWithExponentialBackoff (attemptOf program envs) defaultMaxRetries
    defaultBaseDelay db = out
  obtain ⟨⟨r, v⟩, t⟩ := out
  cases r with
  | error e => simp
  | ok _ => simp

/-! ### The three methods -/

section Methods

variable {lib : VcStatusRl2020} {options : PluginOptions} {hash : Text} {context : Context}
  {envs : ℕ → AttemptEnv} {db db' : Db}

/-- A transaction that was committed left the credential's bit with this value. -/
def BitCommitted (lib : VcStatusRl2020) (program : StoreM Unit) (options : PluginOptions)
    (hash : Text) (envs : ℕ → AttemptEnv) (db : Db) (revoked : Bool) (db' : Db) : Prop :=
  ∃ k < defaultMaxRetries, CommittedAt (attemptOf program envs) db k () db' ∧
    ∃ credential position,
      (envs k).env.dataStoreGetVerifiableCredential hash = .ok (some credential) ∧
      statusPosition options.revocationListPath credential = some position ∧
      storedBit lib db'.lists position.1 position.2 = some revoked

/-- A committed status change has written the bit. -/
theorem CommittedAt.bitCommitted (hlib : lib.Lawful) (henvs : ∀ k, (envs k).env.Lawful)
    {alreadySet : Text} {revoked : Bool} {k : ℕ} (hk : k < defaultMaxRetries)
    (h : CommittedAt (attemptOf (setCredentialStatus lib options alreadySet revoked hash context)
      envs) db k () db') :
    BitCommitted lib (setCredentialStatus lib options alreadySet revoked hash context) options hash
      envs db revoked db' := by
  have hcall := h.callback_eq
  rw [leftBy_setCredentialStatus h.before, callback_attemptOf] at hcall
  have hend := run_setCredentialStatus lib (envs k).env options alreadySet revoked hash context db
  rw [hcall] at hend
  obtain ⟨credential, position, hcredential, hposition, hbits⟩ := hend.bitWritten hlib (henvs k)
  exact ⟨k, hk, h, credential, position, hcredential, hposition, hbits.written⟩

/-- A status change resolves only when its bit was committed, exactly when not all attempts are
swallowed. -/
theorem setStatus_resolves_iff (hlib : lib.Lawful) (henvs : ∀ k, (envs k).env.Lawful)
    {alreadySet : Text} {revoked : Bool} :
    (∀ status db', resolveStatus ⟨revoked⟩ (callTransaction
        (setCredentialStatus lib options alreadySet revoked hash context) envs db) =
          (.ok status, db') →
      status.revoked = revoked ∧
        BitCommitted lib (setCredentialStatus lib options alreadySet revoked hash context) options
          hash envs db revoked db') ↔
      ¬ SwallowedUpTo (attemptOf (setCredentialStatus lib options alreadySet revoked hash context)
        envs) db defaultMaxRetries := by
  rw [← callResolvesCommitted_iff]
  unfold CallResolvesCommitted
  constructor
  · intro h out db' hcall
    rw [hcall] at h
    obtain ⟨-, k, hk, hcommitted, -⟩ := h ⟨revoked⟩ db' rfl
    refine ⟨k, hk, (), ?_, hcommitted⟩
    -- the call committed attempt `k`, so it did not run out of attempts
    have hend := callTransaction_ends
      (setCredentialStatus lib options alreadySet revoked hash context) envs db
    rw [hcall] at hend
    cases hend with
    | exhausted hall => exact absurd (hall k hk) hcommitted.not_swallowed
    | committed => rfl
  · intro h status db' hres
    cases hcall : callTransaction (setCredentialStatus lib options alreadySet revoked hash context)
        envs db with
    | mk r t =>
        cases r with
        | error e =>
            rw [hcall] at hres
            cases hres
        | ok out =>
            rw [hcall] at hres
            cases hres
            obtain ⟨k, hk, _, -, hcommitted⟩ := h out _ hcall
            exact ⟨rfl, hcommitted.bitCommitted hlib henvs hk⟩

end Methods

/-- **Resolving only with what was committed.**  For every sequence of attempts and every limit:
the loop resolves only if an attempt returned and was committed, exactly when not all the attempts
it may make are swallowed.  The same holds of an allocation, of `revokeCredential` and the bit it
sets, and of `activateCredential` and the bit it clears. -/
theorem resolves_only_committed_iff (attempts : ℕ → Attempt σ D) (maxRetries : ℕ) (baseDelay : ℚ)
    (s : σ) :
    (ResolvesCommitted attempts maxRetries baseDelay s ↔ ¬ SwallowedUpTo attempts s maxRetries) ∧
    (∀ (lib : VcStatusRl2020) (options : PluginOptions) (issuer : Text) (req : Context)
        (envs : ℕ → AttemptEnv) (db : Db),
      (∀ out db', getRevocationData lib options issuer req envs db = (.ok out, db') →
        ∃ k < defaultMaxRetries, ∃ result, out = some result ∧ CommittedAt
          (attemptOf (getRevocationDataTransaction lib options issuer req) envs) db k result db') ↔
        ¬ SwallowedUpTo (attemptOf (getRevocationDataTransaction lib options issuer req) envs) db
          defaultMaxRetries) ∧
    (∀ (lib : VcStatusRl2020) (options : PluginOptions) (hash : Text) (context : Context)
        (envs : ℕ → AttemptEnv) (db : Db), lib.Lawful → (∀ k, (envs k).env.Lawful) →
      ((∀ status db', revokeCredential lib options hash context envs db = (.ok status, db') →
          status.revoked = true ∧
            BitCommitted lib (revokeCredentialTransaction lib options hash context) options hash
              envs db true db') ↔
        ¬ SwallowedUpTo (attemptOf (revokeCredentialTransaction lib options hash context) envs) db
          defaultMaxRetries)) ∧
    (∀ (lib : VcStatusRl2020) (options : PluginOptions) (hash : Text) (context : Context)
        (envs : ℕ → AttemptEnv) (db : Db), lib.Lawful → (∀ k, (envs k).env.Lawful) →
      ((∀ status db', activateCredential lib options hash context envs db = (.ok status, db') →
          status.revoked = false ∧
            BitCommitted lib (activateCredentialTransaction lib options hash context) options hash
              envs db false db') ↔
        ¬ SwallowedUpTo (attemptOf (activateCredentialTransaction lib options hash context) envs) db
          defaultMaxRetries)) :=
  ⟨resolvesCommitted_iff attempts maxRetries baseDelay s,
    fun _ _ _ _ envs db => callResolvesCommitted_iff _ envs db,
    fun _ _ _ _ _ _ hlib henvs => setStatus_resolves_iff hlib henvs,
    fun _ _ _ _ _ _ hlib henvs => setStatus_resolves_iff hlib henvs⟩

/-- A call whose first attempt returns has set the bit when it resolves. -/
theorem resolves_only_committed_plain :
    BitCommitted plainLib (revokeCredentialTransaction plainLib plainOptions plainHash ⟨true⟩)
      plainOptions plainHash plainEnvs plainIssued true plainRevoked := by
  have hreturned : ((attemptOf (revokeCredentialTransaction plainLib plainOptions plainHash ⟨true⟩)
      plainEnvs 0).callback plainIssued).1 = .ok () := by
    decide +kernel
  have hnot : ¬ SwallowedUpTo (attemptOf (revokeCredentialTransaction plainLib plainOptions
      plainHash ⟨true⟩) plainEnvs) plainIssued defaultMaxRetries := by
    intro h
    obtain ⟨e, s', hcall, -, -⟩ := h 0 (by decide)
    rw [leftBy] at hcall
    rw [hcall] at hreturned
    cases hreturned
  have hresolved : revokeCredential plainLib plainOptions plainHash ⟨true⟩ plainEnvs plainIssued =
      (.ok ⟨true⟩, plainRevoked) := by
    refine Prod.ext ?_ rfl
    decide +kernel
  have hiff := (resolves_only_committed_iff (attemptOf (revokeCredentialTransaction plainLib
    plainOptions plainHash ⟨true⟩) plainEnvs) defaultMaxRetries defaultBaseDelay
    plainIssued).2.2.1 plainLib plainOptions plainHash ⟨true⟩ plainEnvs plainIssued plainLib_lawful
    plainEnvs_lawful
  exact (hiff.2 hnot _ _ hresolved).2

/-- A driver that reports a deadlock whenever a list is to be locked. -/
def deadlockedEnvs (k : ℕ) : AttemptEnv where
  env := { (plainEnvs k).env with
    fault := fun o =>
      match o with
      | .lockList _ => some ⟨"QueryFailedError".toList, "deadlock detected".toList⟩
      | _ => none }
  commitError := none

/-- The tables after `plainCredential` is revoked under that driver. -/
def deadlockedRevoked : Db :=
  (revokeCredential plainLib plainOptions plainHash ⟨true⟩ deadlockedEnvs plainIssued).2

/-- **A credential reported revoked that is not**: five attempts end with a deadlock, the call
resolves, and the bit is zero.  An allocation under that driver resolves with nothing. -/
theorem revokeCredential_exhausted :
    (revokeCredential plainLib plainOptions plainHash ⟨true⟩ deadlockedEnvs plainIssued).1 =
      .ok ⟨true⟩ ∧
    credentialBit plainLib plainPath deadlockedRevoked.lists plainCredential = some false ∧
    (getRevocationData plainLib plainOptions plainDid ⟨true⟩ deadlockedEnvs plainIssued).1 =
      .ok none ∧
    ¬ ResolvesCommitted
      (attemptOf (revokeCredentialTransaction plainLib plainOptions plainHash ⟨true⟩)
        deadlockedEnvs)
      defaultMaxRetries defaultBaseDelay plainIssued := by
  refine ⟨by decide +kernel, by decide +kernel, by decide +kernel, ?_⟩
  intro h
  obtain ⟨k, -, d, hd, -⟩ := h _ _ rfl
  cases hd

/-! ### Partial writes -/

/-- The state after attempt `k`: what its transaction makes of the state before it. -/
def afterAttempt (attempts : ℕ → Attempt σ D) (maxRetries : ℕ) (s : σ) (k : ℕ) : σ :=
  (managerTransaction (attemptBody maxRetries (attempts k).callback
    { BackoffVars.init defaultBaseDelay with retries := k }) (attempts k).commitError
    (leftBy attempts s k)).2

/-- An attempt that throws leaves its writes when the error is caught and the commit gets through,
and is rolled back otherwise. -/
theorem afterAttempt_of_error {attempts : ℕ → Attempt σ D} {maxRetries : ℕ} {s s' : σ} {k : ℕ}
    {e : JsError} (hk : k < maxRetries)
    (hcall : (attempts k).callback (leftBy attempts s k) = (.error e, s')) :
    afterAttempt attempts maxRetries s k =
      if canRetry e = true ∧ (attempts k).commitError = none then s'
      else leftBy attempts s k := by
  unfold afterAttempt managerTransaction attemptBody
  rw [hcall]
  by_cases hretry : canRetry e = true
  · simp only [hretry, hk, and_self, if_true, true_and]
    cases hcommit : (attempts k).commitError with
    | none => simp
    | some e' => simp
  · simp [hretry]

/-- **An attempt that throws leaves no write**: every attempt that is made and throws leaves the
state it found, and the loop ends in the initial state or in what one attempt that returned made
of it. -/
structure NoPartialWrites (attempts : ℕ → Attempt σ D) (maxRetries : ℕ) (s : σ) : Prop where
  restored : ∀ k < maxRetries, SwallowedUpTo attempts s k → ∀ e s',
    (attempts k).callback (leftBy attempts s k) = (.error e, s') →
    afterAttempt attempts maxRetries s k = leftBy attempts s k
  final : ∀ baseDelay,
    (runTransactionWithExponentialBackoff attempts maxRetries baseDelay s).2 = s ∨
      ∃ k < maxRetries, ∃ d, (attempts k).callback s =
        (.ok d, (runTransactionWithExponentialBackoff attempts maxRetries baseDelay s).2)

/-- Attempts whose error is caught and committed throw it before their first write. -/
def SwallowedWriteNothing (attempts : ℕ → Attempt σ D) (maxRetries : ℕ) (s : σ) : Prop :=
  ∀ k < maxRetries, SwallowedUpTo attempts s (k + 1) →
    ((attempts k).callback (leftBy attempts s k)).2 = leftBy attempts s k

/-- Then the attempts swallowed so far have left the initial state. -/
theorem SwallowedWriteNothing.leftBy_eq {attempts : ℕ → Attempt σ D} {maxRetries : ℕ} {s : σ}
    (h : SwallowedWriteNothing attempts maxRetries s) :
    ∀ {k : ℕ}, k ≤ maxRetries → SwallowedUpTo attempts s k → leftBy attempts s k = s := by
  intro k
  induction k with
  | zero => intro _ _; rfl
  | succ k ih =>
      intro hk hall
      have hprev := ih (Nat.le_of_succ_le hk) (hall.mono (Nat.le_succ k))
      rw [leftBy, h k hk hall, hprev]

theorem noPartialWrites_iff (attempts : ℕ → Attempt σ D) (maxRetries : ℕ) (s : σ) :
    NoPartialWrites attempts maxRetries s ↔ SwallowedWriteNothing attempts maxRetries s := by
  constructor
  · intro h k hk hall
    obtain ⟨e, s', hcall, hretry, hcommit⟩ := hall k (Nat.lt_succ_self k)
    have hafter := h.restored k hk (hall.mono (Nat.le_succ k)) e s' hcall
    rw [afterAttempt_of_error hk hcall, if_pos ⟨hretry, hcommit⟩] at hafter
    rw [hcall]
    exact hafter
  · intro h
    constructor
    case restored =>
        intro k hk hbefore e s' hcall
        rw [afterAttempt_of_error hk hcall]
        split
        · rename_i hsw
          have hwrote := h k hk (hbefore.succ ⟨e, s', hcall, hsw.1, hsw.2⟩)
          rw [hcall] at hwrote
          exact hwrote
        · rfl
    case final =>
        intro baseDelay
        have hend := backoff_ends attempts maxRetries baseDelay s
        revert hend
        generalize runTransactionWithExponentialBackoff attempts maxRetries baseDelay s = out
        intro hend
        cases hend with
        | exhausted hall => exact Or.inl (h.leftBy_eq le_rfl hall)
        | @committed k d s' v hk hbefore hcall _ _ =>
            rw [h.leftBy_eq hk.le hbefore] at hcall
            exact Or.inr ⟨k, hk, d, hcall⟩
        | rethrown hk hbefore _ => exact Or.inl (h.leftBy_eq hk.le hbefore)

/-! ### Counters of a retried allocation -/

section Counters

variable {lib : VcStatusRl2020} {options : PluginOptions} {did : Text} {req : Context}
  {envs : ℕ → AttemptEnv} {db db' : Db}

/-- The swallowed attempts of an allocation got no further than before its counters are saved. -/
def SwallowedSaveNothing (lib : VcStatusRl2020) (options : PluginOptions) (did : Text)
    (req : Context) (envs : ℕ → AttemptEnv) (db : Db) : Prop :=
  ∀ k, SwallowedUpTo (attemptOf (getRevocationDataTransaction lib options did req) envs) db
      (k + 1) →
    (leftBy (attemptOf (getRevocationDataTransaction lib options did req) envs) db (k + 1)).data =
      (leftBy (attemptOf (getRevocationDataTransaction lib options did req) envs) db k).data

/-- The row of counters holds the next counters of the initial tables, or later ones. -/
def Advanced (options : PluginOptions) (did : Text) (db dbk : Db) : Prop :=
  ∃ row, countersOf dbk.data options.revocationListPath did = some row ∧
    (row = nextData db.data ⟨options.revocationListPath, did⟩ options.bitStringLength ∨
      (nextData db.data ⟨options.revocationListPath, did⟩ options.bitStringLength).Later row)

/-- Saving counters again keeps them advanced. -/
theorem Advanced.save {dbk : Db} (h : Advanced options did db dbk) :
    (nextData db.data ⟨options.revocationListPath, did⟩ options.bitStringLength).Later
      (nextData dbk.data ⟨options.revocationListPath, did⟩ options.bitStringLength) := by
  obtain ⟨row, hrow, hlater⟩ := h
  have hstep := later_nextData options.bitStringLength hrow
  rcases hlater with rfl | hlater
  · exact hstep
  · exact hlater.trans hstep

/-- The attempts swallowed so far have all kept the counters, or the counters are advanced. -/
theorem kept_or_advanced (henvs : ∀ k, (envs k).env.Lawful) : ∀ {k : ℕ},
    SwallowedUpTo (attemptOf (getRevocationDataTransaction lib options did req) envs) db k →
    (leftBy (attemptOf (getRevocationDataTransaction lib options did req) envs) db k).data =
        db.data ∧
      (∀ j < k,
        (leftBy (attemptOf (getRevocationDataTransaction lib options did req) envs) db
            (j + 1)).data =
          (leftBy (attemptOf (getRevocationDataTransaction lib options did req) envs) db j).data) ∨
    Advanced options did db
      (leftBy (attemptOf (getRevocationDataTransaction lib options did req) envs) db k) := by
  intro k
  induction k with
  | zero =>
      intro _
      exact Or.inl ⟨rfl, fun j hj => absurd hj (Nat.not_lt_zero j)⟩
  | succ k ih =>
      intro hall
      rcases leftBy_issue_succ henvs hall with hsame | hsaved
      · rcases ih (hall.mono (Nat.le_succ k)) with ⟨hdata, hkept⟩ | hadv
        · refine Or.inl ⟨by rw [hsame, hdata], ?_⟩
          intro j hj
          rcases Nat.lt_succ_iff_lt_or_eq.1 hj with hlt | rfl
          · exact hkept j hlt
          · rw [hsame]
        · rw [hsame]
          exact Or.inr hadv
      · refine Or.inr ?_
        rw [hsaved]
        refine ⟨_, countersOf_put_self (key_nextData _ _ _), ?_⟩
        rcases ih (hall.mono (Nat.le_succ k)) with ⟨hdata, -⟩ | hadv
        · rw [hdata]
          exact Or.inl rfl
        · exact Or.inr hadv.save

/-- A row is not later than itself. -/
theorem RevocationData.Later.irrefl (row : RevocationData) : ¬ row.Later row :=
  fun h => lt_irrefl _ h.lt

/-- **A successful allocation advances the counters exactly once** if and only if no attempt
swallowed before it had saved them. -/
theorem advances_once_iff (henvs : ∀ k, (envs k).env.Lawful) {result : RevocationDataResult}
    (h : getRevocationData lib options did req envs db = (.ok (some result), db')) :
    db'.data = db.data.put
        (nextData db.data ⟨options.revocationListPath, did⟩ options.bitStringLength) ↔
      SwallowedSaveNothing lib options did req envs db := by
  obtain ⟨k, hbefore, hcall, hend⟩ := getRevocationData_ok h
  have hcases := kept_or_advanced henvs hbefore
  -- attempt `k` returned, so the swallowed attempts are the ones before it
  have hlt : ∀ j, SwallowedUpTo
      (attemptOf (getRevocationDataTransaction lib options did req) envs) db (j + 1) → j < k := by
    intro j hall
    by_contra hj
    obtain ⟨e, t, herr, -, -⟩ := hall k (by omega)
    rw [hcall] at herr
    cases herr
  have hdata : db'.data =
      (leftBy (attemptOf (getRevocationDataTransaction lib options did req) envs) db k).data.put
        (nextData (leftBy (attemptOf (getRevocationDataTransaction lib options did req) envs) db
          k).data ⟨options.revocationListPath, did⟩ options.bitStringLength) := by
    revert hend
    generalize leftBy (attemptOf (getRevocationDataTransaction lib options did req) envs) db k = dbk
    intro hend
    cases hend with
    | issued _ _ hdid hrow _ =>
        obtain rfl := (henvs k).didManagerGet_ok hdid
        rw [hrow]
  rcases hcases with ⟨hsame, hkept⟩ | hadv
  · -- nothing was saved before: both sides hold
    rw [hsame] at hdata
    exact iff_of_true hdata fun j hall => hkept j (hlt j hall)
  · -- something was: the row that is saved is later than the next one
    refine iff_of_false ?_ ?_
    · intro honce
      have hrow : countersOf db'.data options.revocationListPath did =
          some (nextData db.data ⟨options.revocationListPath, did⟩ options.bitStringLength) := by
        rw [honce]
        exact countersOf_put_self (key_nextData _ _ _)
      rw [hdata, countersOf_put_self (key_nextData _ _ _), Option.some.injEq] at hrow
      have hlater := hadv.save
      rw [hrow] at hlater
      exact RevocationData.Later.irrefl _ hlater
    · intro hnothing
      have hsame : ∀ j ≤ k,
          (leftBy (attemptOf (getRevocationDataTransaction lib options did req) envs) db j).data =
            db.data := by
        intro j
        induction j with
        | zero => intro _; rfl
        | succ j ih =>
            intro hj
            rw [hnothing j (hbefore.mono hj)]
            exact ih (by omega)
      obtain ⟨row, hrow, hlater⟩ := hadv
      rw [hsame k le_rfl] at hrow
      have hnext := later_nextData options.bitStringLength hrow
      rcases hlater with heq | hlater
      · rw [← heq] at hnext
        exact RevocationData.Later.irrefl _ hnext
      · exact RevocationData.Later.irrefl _ (hlater.trans hnext)

end Counters

/-- **Attempts that throw leave no write** exactly when those whose error is caught and committed
throw it before their first write; and a successful allocation advances the counters once exactly
when no attempt swallowed before it had saved them. -/
theorem no_partial_writes_iff (attempts : ℕ → Attempt σ D) (maxRetries : ℕ) (s : σ) :
    (NoPartialWrites attempts maxRetries s ↔ SwallowedWriteNothing attempts maxRetries s) ∧
    (∀ (lib : VcStatusRl2020) (options : PluginOptions) (did : Text) (req : Context)
        (envs : ℕ → AttemptEnv) (db db' : Db) (result : RevocationDataResult),
      (∀ k, (envs k).env.Lawful) →
      getRevocationData lib options did req envs db = (.ok (some result), db') →
      (db'.data = db.data.put
          (nextData db.data ⟨options.revocationListPath, did⟩ options.bitStringLength) ↔
        SwallowedSaveNothing lib options did req envs db)) :=
  ⟨noPartialWrites_iff attempts maxRetries s,
    fun _ _ _ _ _ _ _ _ henvs h => advances_once_iff henvs h⟩

/-- A call whose first attempt returns advances the counters once. -/
theorem no_partial_writes_plain :
    plainIssued.data = Db.empty.data.put (nextData Db.empty.data ⟨plainPath, plainDid⟩ 2) := by
  have hreturned : ((attemptOf (getRevocationDataTransaction plainLib plainOptions plainDid ⟨true⟩)
      plainEnvs 0).callback Db.empty).1 = .ok ⟨plainPath ++ listPath plainDid 0, 0⟩ := by
    decide +kernel
  have hnothing :
      SwallowedSaveNothing plainLib plainOptions plainDid ⟨true⟩ plainEnvs Db.empty := by
    intro k hall
    obtain ⟨e, s', hcall, -, -⟩ := hall 0 (Nat.succ_pos k)
    rw [leftBy] at hcall
    rw [hcall] at hreturned
    cases hreturned
  have hresolved : getRevocationData plainLib plainOptions plainDid ⟨true⟩ plainEnvs Db.empty =
      (.ok (some ⟨plainPath ++ listPath plainDid 0, 0⟩), plainIssued) := by
    refine Prod.ext ?_ rfl
    decide +kernel
  have hiff := (no_partial_writes_iff (attemptOf (getRevocationDataTransaction plainLib
    plainOptions plainDid ⟨true⟩) plainEnvs) defaultMaxRetries Db.empty).2 plainLib plainOptions
    plainDid ⟨true⟩ plainEnvs Db.empty plainIssued _ plainEnvs_lawful hresolved
  exact hiff.2 hnothing

/-- A signing service whose first answer is an error that mentions serializing. -/
def unsignedEnvs (k : ℕ) : AttemptEnv where
  env := { (plainEnvs k).env with
    createVerifiableCredential := fun credential =>
      if k = 0 then .error (JsError.ofMessage "could not serialize the document".toList)
      else .ok credential }
  commitError := none

/-- **A retried allocation that advances the counters twice**: the first attempt saves index zero
and fails to sign the list, its error is caught, and its transaction is committed; the second
attempt hands out index one. -/
theorem getRevocationData_partial :
    (getRevocationData plainLib plainOptions plainDid ⟨true⟩ unsignedEnvs Db.empty).1 =
      .ok (some ⟨plainPath ++ listPath plainDid 0, 1⟩) ∧
    (leftBy (attemptOf (getRevocationDataTransaction plainLib plainOptions plainDid ⟨true⟩)
      unsignedEnvs) Db.empty 1).data.rows = [⟨plainPath, plainDid, 0, 0, 2⟩] ∧
    ¬ NoPartialWrites
      (attemptOf (getRevocationDataTransaction plainLib plainOptions plainDid ⟨true⟩) unsignedEnvs)
      defaultMaxRetries Db.empty := by
  have hrows : (leftBy (attemptOf
      (getRevocationDataTransaction plainLib plainOptions plainDid ⟨true⟩) unsignedEnvs)
        Db.empty 1).data.rows = [⟨plainPath, plainDid, 0, 0, 2⟩] := by decide +kernel
  refine ⟨by decide +kernel, hrows, ?_⟩
  intro h
  have hnothing := (noPartialWrites_iff _ _ _).1 h 0 (by decide) ?_
  · rw [leftBy, hnothing] at hrows
    cases hrows
  · intro j hj
    obtain rfl : j = 0 := by omega
    exact ⟨_, _, rfl, by decide +kernel, rfl⟩

end Revocation
