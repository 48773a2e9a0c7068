/-
**A library and an agent that meet what is assumed of them.**

The status list library and the agent are parameters of the model.  This module gives a concrete
one of each: the library writes a list as one character for each bit, and the agent manages a given
set of identifiers, looks credentials up in a given store, signs by returning what it is
given, and checks a status by reading the bit of the list whose credential has the `id` the
status entry names.  The results that assume a lawful library or agent are thereby not empty, and
runs of the plugin can be evaluated.

Main definitions:

* `Revocation.plainLib`, `Revocation.plainEnv` — the library and the agent;
* `Revocation.plainDid`, `Revocation.plainPath` — an issuer and a base path;
* `Revocation.plainCredential`, `Revocation.plainEnvs` — a credential with the first status entry
  of that issuer, and calls of an agent that stores it;
* `Revocation.plainIssued`, `Revocation.plainRevoked` — the tables after the entry is handed out,
  and after the credential is revoked.

Main results:

* `Revocation.plainLib_lawful`, `Revocation.plainEnv_lawful`.
-/

import Vckit.RevocationPlugin

set_option relaxedAutoImplicit false
set_option autoImplicit false

namespace Revocation

/-- The error of an index that is no number. -/
def indexNotANumber : JsError := JsError.ofMessage "\"index\" must be a number.".toList

/-- The error of an index outside the list. -/
def indexOutOfRange : JsError := JsError.ofMessage "Position is out of range.".toList

/-- The error of a credential without a status entry. -/
def statusMissing : JsError := JsError.ofMessage "credentialStatus is missing.".toList

/-- The error of an identifier that the agent does not manage. -/
def identifierNotFound : JsError := JsError.ofMessage "Identifier not found".toList

/-- One character for each bit. -/
def plainLib : VcStatusRl2020 where
  createList n := .ok (List.replicate n false)
  createCredential id list := .ok ⟨id, [], list.map fun b => if b then '1' else '0'⟩
  decodeList encoded := .ok (encoded.map fun c => decide (c = '1'))
  setRevoked list index revoked :=
    match index with
    | none => .error indexNotANumber
    | some i =>
        if i < list.length then .ok (list.set i revoked)
        else .error indexOutOfRange

theorem plainLib_lawful : plainLib.Lawful where
  createList_ok := by
    rintro n l h
    simp only [plainLib, Except.ok.injEq] at h
    subst h
    exact ⟨by simp, fun b hb => List.eq_of_mem_replicate hb⟩
  createCredential_ok := by
    rintro id l c h
    simp only [plainLib, Except.ok.injEq] at h
    subst h
    refine ⟨rfl, l, ?_, List.prefix_rfl⟩
    have hbit : ∀ b : Bool, decide ((if b = true then '1' else '0') = '1') = b := by decide
    simp only [plainLib, List.map_map, Function.comp_def, hbit, List.map_id']
  setRevoked_ok := by
    rintro l i b l' h
    cases i with
    | none => simp [plainLib] at h
    | some j =>
        simp only [plainLib] at h
        split at h
        · rename_i hj
          exact ⟨j, rfl, hj, by simpa using h.symm⟩
        · cases h

/-- The bit of the list whose credential the status entry names; verified when it is not set. -/
def plainCheck (db : Db) (credential : Credential) : Except JsError Bool :=
  match credential.credentialStatus with
  | none => .error statusMissing
  | some entry =>
      match db.lists.rows.find? fun row =>
          decide (row.verifiableCredential.id = entry.revocationListCredential) with
      | none => .ok false
      | some row =>
          match entry.revocationListIndex,
            plainLib.decodeList row.verifiableCredential.encodedList with
          | some i, .ok bits => .ok (!bits.getD i true)
          | _, _ => .ok false

/-- An agent that manages `managed` and stores `credentials` under their hashes. -/
def plainEnv (managed : List Text) (credentials : List (Text × Credential)) : Env where
  didManagerGet did :=
    if did ∈ managed then .ok ⟨did⟩ else .error identifierNotFound
  createVerifiableCredential credential := .ok credential
  dataStoreGetVerifiableCredential hash :=
    .ok ((credentials.find? fun c => decide (c.1 = hash)).map Prod.snd)
  transmuteCheckStatus := plainCheck
  fault _ := none

theorem plainEnv_lawful (managed : List Text) (credentials : List (Text × Credential)) :
    (plainEnv managed credentials).Lawful where
  didManagerGet_ok := by
    rintro did i h
    simp only [plainEnv] at h
    split at h <;> simp_all
    rw [← h]
  createVerifiableCredential_ok := by
    rintro c vc h
    simpa [plainEnv] using h.symm

/-- An issuer. -/
def plainDid : Text := "did:web:a".toList

/-- A base path. -/
def plainPath : Text := "https://h".toList

/-- A credential with the first status entry of `plainDid` under `plainPath`. -/
def plainCredential : Credential :=
  ⟨some (credentialStatusOf ⟨plainPath ++ listPath plainDid 0, 0⟩)⟩

/-- The hash it is stored under. -/
def plainHash : Text := "hash".toList

/-- Calls in which nothing fails, on an agent that manages `plainDid` and stores
`plainCredential`. -/
def plainEnvs (_ : ℕ) : AttemptEnv where
  env := plainEnv [plainDid] [(plainHash, plainCredential)]
  commitError := none

theorem plainEnvs_lawful (k : ℕ) : (plainEnvs k).env.Lawful := plainEnv_lawful _ _

/-- The options of the plugin: lists of length two. -/
def plainOptions : PluginOptions := ⟨plainPath, 2⟩

/-- The tables after the first entry is handed out. -/
def plainIssued : Db :=
  (getRevocationData plainLib plainOptions plainDid ⟨true⟩ plainEnvs Db.empty).2

/-- The tables after its credential is revoked. -/
def plainRevoked : Db :=
  (revokeCredential plainLib plainOptions plainHash ⟨true⟩ plainEnvs plainIssued).2

end Revocation
