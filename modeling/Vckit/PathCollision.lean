/-
**Issuers whose lists share a path.**

A list is created under the key of its path and its issuer, and read back by its path alone.  The
path holds the issuer's DID with every colon replaced by an underscore, which is a legal character
of a DID as well.  This module says exactly for which sets of issuers the lists are kept apart,
and gives two issuers that share a list.

Main definitions:

* `Revocation.SamePath` — two DIDs that the paths do not tell apart;
* `Revocation.ListsSeparate` — the lists of managed issuers are kept apart: their paths differ, a
  lookup by path returns the issuer's own list, and a status change leaves the lists of other
  issuers alone.

Main results:

* `Revocation.listPath_ne_iff` — which issuers have different paths;
* `Revocation.listsSeparate_iff` — **lists are kept apart exactly when no two managed issuers have
  the same path**;
* `Revocation.revokeCredential_collision` — two issuers for which they are not: revoking a
  credential of the second one sets a bit in the list of the first.
-/

import Vckit.StatusBits

set_option relaxedAutoImplicit false
set_option autoImplicit false

namespace Revocation

variable {lib : VcStatusRl2020} {path : Text} {managed : Text → Prop} {db : Db}

/-! ### Paths -/

/-- Two DIDs of one length that differ only where each of them holds a colon or an underscore. -/
def SamePath (did did' : Text) : Prop :=
  List.Forall₂ (fun c c' => c = c' ∨ ((c = ':' ∨ c = '_') ∧ (c' = ':' ∨ c' = '_'))) did did'

/-- **Which issuers have different paths**, whatever the list counters. -/
theorem listPath_ne_iff {did did' : Text} :
    (∀ m n, listPath did m ≠ listPath did' n) ↔ ¬ SamePath did did' := by
  rw [SamePath, ← Text.replaceAll_eq_iff]
  constructor
  · intro h heq
    exact h 0 0 (listPath_inj.2 ⟨heq, rfl⟩)
  · intro h m n heq
    exact h (listPath_inj.1 heq).1

/-! ### Lists kept apart -/

/-- **The lists of the managed issuers are kept apart**, in every state that they can reach. -/
structure ListsSeparate (managed : Text → Prop) : Prop where
  paths_ne : ∀ {did did'}, managed did → managed did' → did ≠ did' →
    ∀ m n, listPath did m ≠ listPath did' n
  /-- `getRevocationList` returns the issuer's own list. -/
  own_list : ∀ {lib path db}, lib.Lawful → Reachable lib path managed db →
    ∀ {did}, managed did → ∀ {env m row db'},
    Prog.run (serve env) (getRevocationList (listPath did m)) db = (.ok row, db') →
    row.revocationVCIssuer = did
  /-- So does `getRevocationListVC`. -/
  own_vc : ∀ {lib path db}, lib.Lawful → Reachable lib path managed db →
    ∀ {did}, managed did → ∀ {env m vc db'},
    Prog.run (serve env) (getRevocationListVC (listPath did m)) db = (.ok vc, db') →
    vc.issuer = did
  /-- Revoking or activating a credential of one issuer leaves the lists signed for others alone. -/
  others_kept : ∀ {lib path db}, lib.Lawful → ':' ∈ path → Reachable lib path managed db →
    ∀ {did}, managed did → ∀ {credential : Credential} {m i},
    credential.credentialStatus = some (credentialStatusOf ⟨path ++ listPath did m, i⟩) →
    ∀ {n hash envs revoked db'}, (∀ k, (envs k : AttemptEnv).env.Lawful) →
    (∀ k found, (envs k).env.dataStoreGetVerifiableCredential hash = .ok (some found) →
      found = credential) →
    StatusOp lib ⟨path, n⟩ hash envs db revoked db' →
    ∀ list ∈ db.lists.rows, list.verifiableCredential.issuer ≠ did → list ∈ db'.lists.rows

/-- Every list belongs to a managed issuer. -/
theorem Reachable.managed_issuer (hlib : lib.Lawful) (h : Reachable lib path managed db) :
    ∀ list ∈ db.lists.rows, managed list.revocationVCIssuer := by
  induction h with
  | empty =>
      intro list hlist
      cases hlist
  | issue _ hmanaged hop ih =>
      intro list hlist
      obtain ⟨_, _, _, lists, -, -, hens, rfl⟩ := hop.effect
      cases hens with
      | found => exact ih list hlist
      | created =>
          rcases Table.mem_put_iff.1 hlist with rfl | ⟨hold, -⟩
          · exact hmanaged
          · exact ih list hold
  | setStatus _ henvs hop ih =>
      intro list hlist
      obtain ⟨k, hend⟩ := hop.effect
      obtain ⟨row, vc, hmem, -, rfl⟩ := hend.resigned hlib (henvs k)
      rcases Table.mem_put_iff.1 hlist with rfl | ⟨hold, -⟩
      · have hrow := ih row hmem
        exact hrow
      · exact ih list hold

/-- When the paths of managed issuers differ, a list found by path is the issuer's own. -/
theorem issuer_eq_of_findOne (hlib : lib.Lawful) (h : Reachable lib path managed db)
    (hpaths : ∀ {did did'}, managed did → managed did' → did ≠ did' →
      ∀ m n, listPath did m ≠ listPath did' n)
    {did : Text} (hdid : managed did) {m : ℕ} {row : RevocationList}
    (hrow : db.lists.findOne (ListQuery.accepts ⟨listPath did m, none⟩) = some row) :
    row.revocationVCIssuer = did := by
  have hmem := Table.mem_of_findOne hrow
  have hfound : row.revocationListFullUrlPath = listPath did m :=
    ListQuery.accepts_path_iff.1 (Table.key_of_findOne hrow)
  obtain ⟨m', hnamed⟩ := ((consistent_of_reachable hlib h).list_named hmem).path_eq
  have hissuer := h.managed_issuer hlib row hmem
  by_contra hne
  exact hpaths hissuer hdid hne m' m (hnamed.symm.trans hfound)

/-- **Lists are kept apart exactly when no two managed issuers have the same path.** -/
theorem listsSeparate_iff (managed : Text → Prop) :
    ListsSeparate managed ↔
      ∀ did did', managed did → managed did' → did ≠ did' → ¬ SamePath did did' := by
  constructor
  · intro h did did' hdid hdid' hne
    exact listPath_ne_iff.1 (h.paths_ne hdid hdid' hne)
  · intro h
    have hpaths : ∀ {did did'}, managed did → managed did' → did ≠ did' →
        ∀ m n, listPath did m ≠ listPath did' n :=
      fun hdid hdid' hne => listPath_ne_iff.2 (h _ _ hdid hdid' hne)
    constructor
    case paths_ne => exact hpaths
    case own_list =>
        intro lib path db hlib hreach did hdid env m row db' hrun
        rcases run_getRevocationList env (listPath did m) db with ⟨e, hend⟩ | ⟨row', hrow, hend⟩
        · rw [hend] at hrun
          cases hrun
        · rw [hend] at hrun
          cases hrun
          exact issuer_eq_of_findOne hlib hreach hpaths hdid hrow
    case own_vc =>
        intro lib path db hlib hreach did hdid env m vc db' hrun
        rcases run_getRevocationListVC env (listPath did m) db with ⟨e, hend⟩ | ⟨row, hrow, hend⟩
        · rw [hend] at hrun
          cases hrun
        · rw [hend] at hrun
          cases hrun
          have hnamed := (consistent_of_reachable hlib hreach).list_named
            (Table.mem_of_findOne hrow)
          exact hnamed.issuer_eq.trans (issuer_eq_of_findOne hlib hreach hpaths hdid hrow)
    case others_kept =>
        intro lib path db hlib hcolon hreach did hdid credential m i hstatus n hash envs revoked db'
          henvs hcredential hop list hlist hother
        obtain ⟨k, hend⟩ := hop.effect
        cases hend with
        | @changed found verified p row decoded bits vc hfound _ _ hpath hrow _ _ _ =>
            obtain rfl := hcredential k found hfound
            rw [revocationListFullUrlPathOf_issued hcolon hstatus, Except.ok.injEq] at hpath
            subst hpath
            -- the list that is written belongs to the credential's issuer, so it is another one
            have hown := issuer_eq_of_findOne hlib hreach hpaths hdid hrow
            have hnamed := (consistent_of_reachable hlib hreach).list_named hlist
            refine Table.mem_put_iff.2 (Or.inr ⟨hlist, ?_⟩)
            intro hkey
            have hissuer : list.revocationVCIssuer = row.revocationVCIssuer :=
              congrArg ListKey.revocationVCIssuer hkey
            exact hother (hnamed.issuer_eq.trans (hissuer.trans hown))

/-! ### Two issuers that share a list -/

/-- An issuer. -/
def colonDid : Text := "did:web:a:b".toList

/-- An issuer with the same path. -/
def underscoreDid : Text := "did:web:a_b".toList

/-- A credential with the first entry of the second issuer. -/
def underscoreCredential : Credential :=
  ⟨some (credentialStatusOf ⟨plainPath ++ listPath underscoreDid 0, 0⟩)⟩

/-- Calls on an agent that manages both issuers and stores the credential. -/
def collidingEnvs (_ : ℕ) : AttemptEnv where
  env := plainEnv [colonDid, underscoreDid] [(plainHash, underscoreCredential)]
  commitError := none

/-- The tables after each issuer was handed out its first entry. -/
def collidingIssued : Db :=
  (getRevocationData plainLib plainOptions underscoreDid ⟨true⟩ collidingEnvs
    (getRevocationData plainLib plainOptions colonDid ⟨true⟩ collidingEnvs Db.empty).2).2

/-- The tables after the credential is revoked. -/
def collidingRevoked : Db :=
  (revokeCredential plainLib plainOptions plainHash ⟨true⟩ collidingEnvs collidingIssued).2

/-- Bit zero of the first list of an issuer. -/
def firstBitOf (db : Db) (did : Text) : Option Bool :=
  (listOf db.lists did 0).bind fun list => getBit plainLib list.verifiableCredential 0

/-- **Two issuers that share a list**: their paths are equal, and revoking the credential of the
second one sets the bit in the list signed for the first and not in its own. -/
theorem revokeCredential_collision :
    ¬ ListsSeparate (fun did => did = colonDid ∨ did = underscoreDid) ∧
    colonDid ≠ underscoreDid ∧ listPath colonDid 0 = listPath underscoreDid 0 ∧
    firstBitOf collidingIssued colonDid = some false ∧
    firstBitOf collidingIssued underscoreDid = some false ∧
    (revokeCredential plainLib plainOptions plainHash ⟨true⟩ collidingEnvs collidingIssued).1 =
      .ok ⟨true⟩ ∧
    firstBitOf collidingRevoked colonDid = some true ∧
    firstBitOf collidingRevoked underscoreDid = some false := by
  have hne : colonDid ≠ underscoreDid := by decide
  have hpath : listPath colonDid 0 = listPath underscoreDid 0 := by decide
  refine ⟨?_, hne, hpath, ?_⟩
  · intro h
    exact h.paths_ne (Or.inl rfl) (Or.inr rfl) hne 0 0 hpath
  · decide +kernel

end Revocation
