/-
**Status changes on credentials with any status entry.**

The plugin stores a status entry in a credential and keeps no record of which credential it was
handed out for.  A credential that did not pass through the middleware carries the entry it was
submitted with, and a status change goes wherever that entry points: to the list whose path is the
part of the entry's `id` after the base path, at the entry's index.  The guard asks the library,
which looks at the list named in `revocationListCredential`.  In an entry that the middleware writes
the two are the same URL.

Main definitions:

* `Revocation.setStatus` — `revokeCredential` or `activateCredential`;
* `Revocation.checkedPosition`, `Revocation.ChecksList` — where the library looks, and that it does;
* `Revocation.ServedEntry` — an entry that names one list, served under the base path.

Main results:

* `Revocation.setStatus_effect` — a status change writes the bit its credential points at, or
  nothing;
* `Revocation.setStatus_interference` — **an entry that points elsewhere is left alone**, and of an
  entry that names one list the bit that is written is the bit that was checked;
* `Revocation.revokeCredential_foreign` — a credential with the entry of another one.
-/

import Vckit.StatusBits

set_option relaxedAutoImplicit false
set_option autoImplicit false

namespace Revocation

variable {lib : VcStatusRl2020} {options : PluginOptions} {hash : Text} {context : Context}
  {envs : ℕ → AttemptEnv} {db db' : Db}

/-- `revokeCredential` or `activateCredential`. -/
def setStatus (lib : VcStatusRl2020) (options : PluginOptions) (hash : Text) (context : Context)
    (envs : ℕ → AttemptEnv) (db : Db) : Bool → Except JsError CredentialStatus × Db
  | true => revokeCredential lib options hash context envs db
  | false => activateCredential lib options hash context envs db

/-- Where the library's check looks for the status of a credential: the list at
`revocationListCredential`, which is served under the base path followed by the list's path, and
the index in it. -/
def checkedPosition (revocationListPath : Text) (credential : Credential) : Option (Text × ℕ) :=
  credential.credentialStatus.bind fun entry =>
    if revocationListPath <+: entry.revocationListCredential then
      entry.revocationListIndex.map fun i =>
        (entry.revocationListCredential.drop revocationListPath.length, i)
    else none

/-- A check of the credential that resolves has read the bit of the list that its entry names. -/
def ChecksList (lib : VcStatusRl2020) (path : Text) (env : Env) (db : Db)
    (credential : Credential) : Prop :=
  ∀ {verified position bit}, env.transmuteCheckStatus db credential = .ok verified →
    checkedPosition path credential = some position →
    storedBit lib db.lists position.1 position.2 = some bit → verified = !bit

/-- The entry names one list, served under the base path, as the entries do that the middleware
writes. -/
structure ServedEntry (revocationListPath : Text) (entry : CredentialStatusEntry) : Prop where
  same : entry.revocationListCredential = entry.id
  served : ∃ p, entry.id = revocationListPath ++ p ∧ ':' ∈ revocationListPath ∧ ':' ∉ p

theorem servedEntry_credentialStatusOf {path did : Text} (hcolon : ':' ∈ path) (m i : ℕ) :
    ServedEntry path (credentialStatusOf ⟨path ++ listPath did m, i⟩) where
  same := rfl
  served := ⟨listPath did m, rfl, hcolon, colon_not_mem_listPath did m⟩

/-- The library looks where a status change writes. -/
theorem ServedEntry.checkedPosition {path : Text} {entry : CredentialStatusEntry}
    {credential : Credential} {position : Text × ℕ} (h : ServedEntry path entry)
    (hentry : credential.credentialStatus = some entry)
    (hposition : statusPosition path credential = some position) :
    checkedPosition path credential = some position := by
  obtain ⟨p, hid, hcolon, hp⟩ := h.served
  have hsplit : splitStatusId path credential = .ok (some p) := by
    rw [splitStatusId, hentry]
    dsimp only
    rw [hid, Text.split_self_append hcolon hp]
    rfl
  have hindex : credential.revocationListIndex = entry.revocationListIndex := by
    rw [Credential.revocationListIndex, hentry]
    rfl
  have hchecked : Revocation.checkedPosition path credential =
      entry.revocationListIndex.map fun i => (p, i) := by
    rw [Revocation.checkedPosition, hentry, Option.bind_some, h.same, hid,
      if_pos (List.prefix_append path p), List.drop_left]
  rw [hchecked]
  rw [statusPosition, revocationListFullUrlPathOf, hsplit, hindex] at hposition
  cases p with
  | nil => simp at hposition
  | cons c p =>
      cases hi : entry.revocationListIndex with
      | none => simp [hi] at hposition
      | some i =>
          rw [hi] at hposition
          exact hposition

theorem snd_resolveStatus (status : CredentialStatus) (out : Except JsError (Option Unit) × Db) :
    (resolveStatus status out).2 = out.2 := by
  obtain ⟨r, db⟩ := out
  cases r <;> rfl

/-- Both methods are one transaction in the retry loop. -/
theorem snd_setStatus (lib : VcStatusRl2020) (options : PluginOptions) (hash : Text)
    (context : Context) (envs : ℕ → AttemptEnv) (db : Db) (revoked : Bool) :
    ∃ alreadySet, (setStatus lib options hash context envs db revoked).2 =
      (callTransaction (setCredentialStatus lib options alreadySet revoked hash context) envs
        db).2 := by
  cases revoked with
  | true => exact ⟨_, snd_resolveStatus _ _⟩
  | false => exact ⟨_, snd_resolveStatus _ _⟩

/-- The guard lets a change pass when the library says that the status is not yet set. -/
theorem SetStatusEnd.checked {env : Env} {revoked : Bool}
    (h : SetStatusEnd lib env options revoked hash db (.ok (), db')) :
    ∃ credential, env.dataStoreGetVerifiableCredential hash = .ok (some credential) ∧
      env.transmuteCheckStatus db credential = .ok revoked := by
  cases h with
  | @changed credential verified _ _ _ _ _ hcredential hcheck hguard _ _ _ _ _ =>
      have hverified : verified = revoked := by
        cases verified <;> cases revoked <;> simp_all
      exact ⟨credential, hcredential, hverified ▸ hcheck⟩

/-- **What a status change does**, however it ends: it writes the bit its credential points at, when
the library says that it is not yet set, or nothing. -/
theorem setStatus_effect (hlib : lib.Lawful) {credential : Credential} {revoked : Bool}
    {out : Except JsError CredentialStatus} (henvs : ∀ k, (envs k).env.Lawful)
    (hcredential : ∀ k found,
      (envs k).env.dataStoreGetVerifiableCredential hash = .ok (some found) → found = credential)
    (h : setStatus lib options hash context envs db revoked = (out, db')) :
    db' = db ∨ ∃ position,
      statusPosition options.revocationListPath credential = some position ∧
        BitWritten lib position revoked db.lists db'.lists ∧ db'.data = db.data ∧
        ∃ k, (envs k).env.transmuteCheckStatus db credential = .ok revoked := by
  obtain ⟨alreadySet, hcall⟩ := snd_setStatus lib options hash context envs db revoked
  rw [h] at hcall
  have hend := callTransaction_ends
    (setCredentialStatus lib options alreadySet revoked hash context) envs db
  generalize callTransaction (setCredentialStatus lib options alreadySet revoked hash context) envs
    db = out' at hend hcall
  cases hend with
  -- an attempt that is rolled back leaves the tables as they were, and only a last one commits
  | exhausted hall => exact Or.inl (hcall.trans (leftBy_setCredentialStatus hall))
  | rethrown _ hbefore => exact Or.inl (hcall.trans (leftBy_setCredentialStatus hbefore))
  | @committed k _ _ _ hbefore hrun _ =>
      dsimp only at hcall
      rw [leftBy_setCredentialStatus hbefore, ← hcall] at hrun
      have hset := run_setCredentialStatus lib (envs k).env options alreadySet revoked hash context
        db
      rw [hrun] at hset
      obtain ⟨found, position, hfound, hposition, hwritten⟩ := hset.bitWritten hlib (henvs k)
      obtain ⟨checked, hchecked, hcheck⟩ := hset.checked
      obtain rfl := hcredential k found hfound
      obtain rfl := hcredential k checked hchecked
      refine Or.inr ⟨position, hposition, hwritten, ?_, k, hcheck⟩
      cases hset with
      | changed => rfl

/-- **A status change leaves every entry alone that its credential does not point at**, for every
content of the tables and every status entry in the credential; and when that entry names one list,
the bit that is written is the one that the guard asked the library for: if the library has read it,
it was the other one before. -/
theorem setStatus_interference (hlib : lib.Lawful) {credential other : Credential}
    {revoked : Bool} {did : Text} {m i : ℕ} {out : Except JsError CredentialStatus}
    (henvs : ∀ k, (envs k).env.Lawful)
    (hcredential : ∀ k found,
      (envs k).env.dataStoreGetVerifiableCredential hash = .ok (some found) → found = credential)
    (hother : other.credentialStatus =
      some (credentialStatusOf ⟨options.revocationListPath ++ listPath did m, i⟩))
    (hcolon : ':' ∈ options.revocationListPath)
    (h : setStatus lib options hash context envs db revoked = (out, db')) :
    (statusPosition options.revocationListPath credential ≠
        statusPosition options.revocationListPath other →
      ∀ b, storedBit lib db.lists (listPath did m) i = some b →
        storedBit lib db'.lists (listPath did m) i = some b) ∧
    (db' = db ∨ ∃ position,
      statusPosition options.revocationListPath credential = some position ∧
        BitWritten lib position revoked db.lists db'.lists ∧
        ∀ entry, credential.credentialStatus = some entry →
          ServedEntry options.revocationListPath entry →
          checkedPosition options.revocationListPath credential = some position ∧
            ((∀ k, ChecksList lib options.revocationListPath (envs k).env db credential) →
              storedBit lib db.lists position.1 position.2 = some (!revoked))) := by
  have heffect := setStatus_effect hlib henvs hcredential h
  constructor
  · intro hne b hb
    rw [statusPosition_issued hcolon hother] at hne
    rcases heffect with rfl | ⟨position, hposition, hwritten, -⟩
    · exact hb
    · refine hwritten.kept ?_ hb
      rintro rfl
      exact hne hposition
  · rcases heffect with rfl | ⟨position, hposition, hwritten, -, k, hcheck⟩
    · exact Or.inl rfl
    · refine Or.inr ⟨position, hposition, hwritten, fun entry hentry hserved => ?_⟩
      have hread := hserved.checkedPosition hentry hposition
      refine ⟨hread, fun hchecks => ?_⟩
      obtain ⟨bit, hbit⟩ := Option.isSome_iff_exists.1 hwritten.isSome_before
      rw [hbit, hchecks k hcheck hread hbit, Bool.not_not]

/-! ### A foreign entry -/

/-- A credential with the next entry of the list of `plainCredential`. -/
def nextCredential : Credential :=
  ⟨some (credentialStatusOf ⟨plainPath ++ listPath plainDid 0, 1⟩)⟩

/-- A credential that was submitted with the `id` and the index of the entry of `plainCredential`,
and names a list somewhere else. -/
def foreignCredential : Credential :=
  ⟨some { credentialStatusOf ⟨plainPath ++ listPath plainDid 0, 0⟩ with
    revocationListCredential := "https://x/list".toList }⟩

/-- The hash it is stored under. -/
def foreignHash : Text := "foreign".toList

/-- Calls on an agent that stores all three credentials.  The list at the other place says that
nothing is revoked. -/
def foreignEnvs (_ : ℕ) : AttemptEnv where
  env := { plainEnv [plainDid]
      [(plainHash, plainCredential), (foreignHash, foreignCredential),
        ("next".toList, nextCredential)]
    with
      transmuteCheckStatus := fun db credential =>
        if credential = foreignCredential then .ok true else plainCheck db credential }
  commitError := none

theorem foreignEnvs_lawful (k : ℕ) : (foreignEnvs k).env.Lawful :=
  ⟨(plainEnv_lawful [plainDid] []).didManagerGet_ok,
    (plainEnv_lawful [plainDid] []).createVerifiableCredential_ok⟩

/-- **A credential with the entry of another one**: revoking it sets the stored bit of the other,
in a list that the guard has not looked at. -/
theorem revokeCredential_foreign :
    foreignCredential ≠ plainCredential ∧
    storedBit plainLib plainIssued.lists (listPath plainDid 0) 0 = some false ∧
    (revokeCredential plainLib plainOptions foreignHash ⟨true⟩ foreignEnvs plainIssued).1 =
      .ok ⟨true⟩ ∧
    storedBit plainLib
      (revokeCredential plainLib plainOptions foreignHash ⟨true⟩ foreignEnvs plainIssued).2.lists
      (listPath plainDid 0) 0 = some true ∧
    checkedPosition plainPath foreignCredential = none := by
  decide +kernel

/-- A revocation of the first entry leaves the second one alone. -/
theorem setStatus_interference_plain :
    storedBit plainLib
      (revokeCredential plainLib plainOptions plainHash ⟨true⟩ foreignEnvs plainIssued).2.lists
      (listPath plainDid 0) 1 = some false := by
  have hcredential : ∀ k found, (foreignEnvs k).env.dataStoreGetVerifiableCredential plainHash =
      .ok (some found) → found = plainCredential := by
    intro k found hfound
    exact (Option.some.inj (Except.ok.inj hfound)).symm
  have hcall : setStatus plainLib plainOptions plainHash ⟨true⟩ foreignEnvs plainIssued true =
      revokeCredential plainLib plainOptions plainHash ⟨true⟩ foreignEnvs plainIssued := rfl
  have hnext : nextCredential.credentialStatus =
      some (credentialStatusOf ⟨plainOptions.revocationListPath ++ listPath plainDid 0, 1⟩) := rfl
  have hkept := (setStatus_interference plainLib_lawful foreignEnvs_lawful hcredential hnext
    (by decide) hcall).1
  exact hkept (by decide +kernel) false (by decide +kernel)

end Revocation
