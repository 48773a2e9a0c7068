/-
**What one transaction of the store does to the tables.**

For each method there is one statement that lists everything a run of it, alone on the tables,
can end in: with which result, and with which rows written.  The later modules use these
statements and never unfold a method.  A run that throws may have written already; how much is
part of the statement.

Main definitions:

* `Revocation.nextData` — the row of counters an allocation saves;
* `Revocation.Encodes`, `Revocation.Signed` — the credential a list is encoded in, and signed;
* `Revocation.IssueEnd`, `Revocation.SetStatusEnd` — the ways in which `issueRevocationData` and
  the transaction of `revokeCredential` and `activateCredential` can end.

Main results:

* `Revocation.run_issueRevocationData` — **an allocation fails before its first write, or after
  the counters are saved, or saves the counters and makes sure the list exists**;
* `Revocation.run_setCredentialStatus` — **a status change that throws has written nothing**, and
  one that returns has set one bit of the list found by path.
-/

import Vckit.RevocationPlugin

set_option relaxedAutoImplicit false
set_option autoImplicit false

namespace Revocation

variable (lib : VcStatusRl2020) (env : Env)

@[simp] theorem run_perform_serve (o : Op) (db : Db) :
    Prog.run (serve env) (perform o) db = serve env o db := Prog.run_perform _ o db

/-! ### Operations -/

/-- An operation does what it is for, or ends with the error of a database that fails. -/
theorem serve_cases (o : Op) (db : Db) :
    serve env o db = serveOp env o db ∨ ∃ e, serve env o db = (.error e, db) := by
  unfold serve
  cases env.fault o with
  | some e => exact Or.inr ⟨e, rfl⟩
  | none => exact Or.inl rfl

theorem run_perform_cases (o : Op) (db : Db) :
    Prog.run (serve env) (perform o) db = serveOp env o db ∨
      ∃ e, Prog.run (serve env) (perform o) db = (.error e, db) := by
  rw [run_perform_serve]
  exact serve_cases env o db

theorem run_ignoreLockNotSupported (err : JsError) (db : Db) :
    ∃ r, Prog.run (serve env) (ignoreLockNotSupported err) db = (r, db) := by
  unfold ignoreLockNotSupported
  split <;> exact ⟨_, rfl⟩

theorem run_lockRevocationData (query : DataKey) (db : Db) :
    ∃ r, Prog.run (serve env) (lockRevocationData query) db = (r, db) := by
  rw [lockRevocationData, Prog.run_tryCatch, run_perform_serve]
  rcases serve_cases env (.lockData query) db with h | ⟨e, h⟩
  · rw [h]; exact ⟨_, rfl⟩
  · rw [h]; exact run_ignoreLockNotSupported env e db

theorem run_lockRevocationList (query : ListQuery) (db : Db) :
    ∃ r, Prog.run (serve env) (lockRevocationList query) db = (r, db) := by
  rw [lockRevocationList, Prog.run_tryCatch, run_perform_serve]
  rcases serve_cases env (.lockList query) db with h | ⟨e, h⟩
  · rw [h]; exact ⟨_, rfl⟩
  · rw [h]; exact run_ignoreLockNotSupported env e db

/-! ### Counters -/

/-- The row of counters that an allocation for this key and length saves. -/
def nextData (data : Table RevocationData.key) (key : DataKey) (bitStringLength : ℕ) :
    RevocationData :=
  match data.lookup key with
  | none => NewRevocationData.toRow
      ⟨key.revocationListUrlPath, key.revocationVCIssuer, bitStringLength⟩
  | some row => row.advance bitStringLength

@[simp] theorem key_advance (row : RevocationData) (n : ℕ) : (row.advance n).key = row.key := by
  unfold RevocationData.advance
  split <;> rfl

@[simp] theorem key_nextData (data : Table RevocationData.key) (key : DataKey) (n : ℕ) :
    (nextData data key n).key = key := by
  unfold nextData
  cases h : data.lookup key with
  | none => rfl
  | some row => exact (key_advance row n).trans (Table.lookup_eq_some_iff.1 h).2

theorem run_upsertRevocationData (path did : Text) (n : ℕ) (db : Db) :
    (∃ e, Prog.run (serve env) (upsertRevocationData ⟨path, did, n⟩) db = (.error e, db)) ∨
      Prog.run (serve env) (upsertRevocationData ⟨path, did, n⟩) db =
        (.ok (nextData db.data ⟨path, did⟩ n), db.putData (nextData db.data ⟨path, did⟩ n)) := by
  unfold upsertRevocationData
  dsimp only
  obtain ⟨lock, hlock⟩ := run_lockRevocationData env ⟨path, did⟩ db
  cases lock with
  | error e => exact Or.inl ⟨e, Prog.run_bind_of_error hlock⟩
  | ok _ =>
      rw [Prog.run_bind_of_ok hlock]
      rcases run_perform_cases env (.findOneData ⟨path, did⟩) db with hfind | ⟨e, hfind⟩
      · rw [Prog.run_bind_of_ok hfind, nextData]
        cases hrow : db.data.lookup ⟨path, did⟩ with
        | none =>
            rcases run_perform_cases env (.insertData ⟨path, did, n⟩) db with
              hins | ⟨e, hins⟩
            · rw [serveOp, Table.insert_of_lookup_eq_none hrow] at hins
              exact Or.inr hins
            · exact Or.inl ⟨e, hins⟩
        | some row =>
            rcases run_perform_cases env (.updateData (row.advance n)) db with
              hupd | ⟨e, hupd⟩
            · exact Or.inr hupd
            · exact Or.inl ⟨e, hupd⟩
      · exact Or.inl ⟨e, Prog.run_bind_of_error hfind⟩

/-! ### Lists -/

/-- A query by path and issuer is a query by the unique index. -/
theorem findOne_accepts_issuer (lists : Table RevocationList.key) (path did : Text) :
    lists.findOne (ListQuery.accepts ⟨path, some did⟩) = lists.lookup ⟨path, did⟩ := by
  unfold Table.lookup
  congr 1
  funext k
  cases k
  simp [ListQuery.accepts, ListKey.mk.injEq]

/-- The credential a list is encoded in. -/
def Encodes (lib : VcStatusRl2020) (id issuer : Text) (list : RevocationList2020)
    (vc : ListCredential) : Prop :=
  ∃ c, lib.createCredential id list = .ok c ∧ vc = { c with issuer }

/-- The credential signed for a list. -/
def Signed (lib : VcStatusRl2020) (env : Env) (id issuer : Text) (list : RevocationList2020)
    (vc : ListCredential) : Prop :=
  ∃ c, lib.createCredential id list = .ok c ∧
    env.createVerifiableCredential { c with issuer } = .ok vc

section Signed

variable {lib : VcStatusRl2020} {env : Env} {id issuer : Text} {list : RevocationList2020}
  {vc : ListCredential}

theorem Encodes.id_eq (hlib : lib.Lawful) (h : Encodes lib id issuer list vc) : vc.id = id := by
  obtain ⟨c, hc, rfl⟩ := h
  exact (hlib.createCredential_ok hc).1

theorem Encodes.issuer_eq (h : Encodes lib id issuer list vc) : vc.issuer = issuer := by
  obtain ⟨c, -, rfl⟩ := h
  rfl

/-- The credential decodes to the bits of its list. -/
theorem Encodes.decode (hlib : lib.Lawful) (h : Encodes lib id issuer list vc) :
    ∃ list', lib.decodeList vc.encodedList = .ok list' ∧ list <+: list' := by
  obtain ⟨c, hc, rfl⟩ := h
  exact (hlib.createCredential_ok hc).2

/-- Signing keeps the fields of the credential. -/
theorem Signed.encodes (henv : env.Lawful) (h : Signed lib env id issuer list vc) :
    Encodes lib id issuer list vc := by
  obtain ⟨c, hc, hvc⟩ := h
  exact ⟨c, hc, henv.createVerifiableCredential_ok hvc⟩

end Signed

theorem run_ofExcept_cases {α : Type} (r : Except JsError α) (db : Db) :
    (∃ a, r = .ok a ∧ Prog.run (serve env) (Prog.ofExcept r) db = (.ok a, db)) ∨
      ∃ e, Prog.run (serve env) (Prog.ofExcept r) db = (.error e, db) := by
  cases r with
  | ok a => exact Or.inl ⟨a, rfl, rfl⟩
  | error e => exact Or.inr ⟨e, rfl⟩

theorem run_createRevocationListVC (path : Text) (source : ℕ ⊕ RevocationList2020) (issuer : Text)
    (context : Context) (db : Db) :
    (∃ e, Prog.run (serve env) (createRevocationListVC lib path source issuer context) db =
        (.error e, db)) ∨
      ∃ list vc, source.elim lib.createList Except.ok = .ok list ∧
        Signed lib env path issuer list vc ∧
        Prog.run (serve env) (createRevocationListVC lib path source issuer context) db =
          (.ok vc, db) := by
  unfold createRevocationListVC
  split
  · exact Or.inl ⟨_, rfl⟩
  · rcases run_ofExcept_cases env (source.elim lib.createList Except.ok) db with
      ⟨list, hlist, hrun⟩ | ⟨e, hrun⟩
    · rw [Prog.run_bind_of_ok hrun]
      rcases run_ofExcept_cases env (lib.createCredential path list) db with
        ⟨c, hc, hrun⟩ | ⟨e, hrun⟩
      · rw [Prog.run_bind_of_ok hrun]
        rcases run_perform_cases env
          (.createVerifiableCredential { c with issuer }) db with hsign | ⟨e, hsign⟩
        · rw [serveOp] at hsign
          cases hvc : env.createVerifiableCredential { c with issuer } with
          | ok vc =>
              rw [hvc] at hsign
              exact Or.inr ⟨list, vc, hlist, ⟨c, hc, hvc⟩, hsign⟩
          | error e =>
              rw [hvc] at hsign
              exact Or.inl ⟨e, hsign⟩
        · exact Or.inl ⟨e, hsign⟩
      · exact Or.inl ⟨e, Prog.run_bind_of_error hrun⟩
    · exact Or.inl ⟨e, Prog.run_bind_of_error hrun⟩

/-- What an allocation does to the lists: the list of its path and issuer is already there, or it
is created with the length asked for. -/
inductive EnsuredList (lib : VcStatusRl2020) (env : Env) (args : UpsertRevocationListArgs)
    (lists : Table RevocationList.key) : Table RevocationList.key → Prop
  | found {row : RevocationList} (hrow : lists.lookup
      ⟨args.revocationListFullUrlPath, args.revocationVCIdentifierDid⟩ = some row) :
      EnsuredList lib env args lists lists
  | created {list : RevocationList2020} {vc : ListCredential} (hnone : lists.lookup
      ⟨args.revocationListFullUrlPath, args.revocationVCIdentifierDid⟩ = none)
      (hlist : lib.createList args.bitStringLength = .ok list)
      (hsigned : Signed lib env (args.revocationListUrlPath ++ args.revocationListFullUrlPath)
        args.revocationVCIssuer list vc) :
      EnsuredList lib env args lists (lists.put
        ⟨args.revocationListFullUrlPath, args.revocationVCIdentifierDid, vc⟩)

theorem run_createRevocationList (args : UpsertRevocationListArgs) (db : Db)
    (hnone : db.lists.lookup
      ⟨args.revocationListFullUrlPath, args.revocationVCIdentifierDid⟩ = none) :
    (∃ e, Prog.run (serve env) (createRevocationList lib args) db = (.error e, db)) ∨
      ∃ row lists, EnsuredList lib env args db.lists lists ∧
        Prog.run (serve env) (createRevocationList lib args) db = (.ok row, { db with lists }) := by
  unfold createRevocationList
  rcases run_createRevocationListVC lib env
    (args.revocationListUrlPath ++ args.revocationListFullUrlPath) (.inl args.bitStringLength)
    args.revocationVCIssuer args.req db with ⟨e, hrun⟩ | ⟨list, vc, hlist, hsigned, hrun⟩
  · exact Or.inl ⟨e, Prog.run_bind_of_error hrun⟩
  · rw [Prog.run_bind_of_ok hrun]
    rcases run_perform_cases env (.insertList ⟨args.revocationListFullUrlPath,
      args.revocationVCIdentifierDid, vc⟩) db with hins | ⟨e, hins⟩
    · rw [serveOp, Table.insert_of_lookup_eq_none hnone] at hins
      exact Or.inr ⟨_, _, EnsuredList.created hnone hlist hsigned, hins⟩
    · exact Or.inl ⟨e, hins⟩

theorem run_upsertRevocationList (args : UpsertRevocationListArgs) (db : Db) :
    (∃ e, Prog.run (serve env) (upsertRevocationList lib args) db = (.error e, db)) ∨
      ∃ row lists, EnsuredList lib env args db.lists lists ∧
        Prog.run (serve env) (upsertRevocationList lib args) db = (.ok row, { db with lists }) := by
  have hbody : ∀ p : StoreM RevocationList,
      ((∃ e, Prog.run (serve env) p db = (.error e, db)) ∨
        ∃ row lists, EnsuredList lib env args db.lists lists ∧
          Prog.run (serve env) p db = (.ok row, { db with lists })) →
      (∃ e, Prog.run (serve env) (p.mapError JsError.rewrap) db = (.error e, db)) ∨
        ∃ row lists, EnsuredList lib env args db.lists lists ∧
          Prog.run (serve env) (p.mapError JsError.rewrap) db = (.ok row, { db with lists }) := by
    rintro p (⟨e, hp⟩ | ⟨row, lists, hens, hp⟩)
    · exact Or.inl ⟨_, Prog.run_mapError_of_error hp⟩
    · exact Or.inr ⟨row, lists, hens, Prog.run_mapError_of_ok hp⟩
  refine hbody _ ?_
  obtain ⟨lock, hlock⟩ := run_lockRevocationList env
    ⟨args.revocationListFullUrlPath, some args.revocationVCIdentifierDid⟩ db
  cases lock with
  | error e => exact Or.inl ⟨e, Prog.run_bind_of_error hlock⟩
  | ok _ =>
      rw [Prog.run_bind_of_ok hlock]
      rcases run_perform_cases env (.findOneList
        ⟨args.revocationListFullUrlPath, some args.revocationVCIdentifierDid⟩) db with
        hfind | ⟨e, hfind⟩
      · rw [serveOp, findOne_accepts_issuer] at hfind
        rw [Prog.run_bind_of_ok hfind]
        cases hrow : db.lists.lookup
            ⟨args.revocationListFullUrlPath, args.revocationVCIdentifierDid⟩ with
        | none => exact run_createRevocationList lib env args db hrow
        | some row =>
            obtain ⟨hmem, hkey⟩ := Table.lookup_eq_some_iff.1 hrow
            have hpath : row.revocationListFullUrlPath = args.revocationListFullUrlPath :=
              congrArg ListKey.revocationListFullUrlPath hkey
            simp only [hpath, ne_eq, not_true_eq_false, if_false]
            rcases run_perform_cases env (.updateList row) db with hupd | ⟨e, hupd⟩
            · rw [serveOp, Db.putList, Table.put_of_mem hmem] at hupd
              exact Or.inr ⟨row, db.lists, EnsuredList.found hrow, hupd⟩
            · exact Or.inl ⟨e, hupd⟩
      · exact Or.inl ⟨e, Prog.run_bind_of_error hfind⟩

/-! ### Allocations -/

/-- The arguments with which `issueRevocationData` makes sure that a list exists. -/
def upsertListArgs (args : IRevocationListDataArgs) (did : Text) (listCounter : ℕ) :
    UpsertRevocationListArgs where
  revocationListFullUrlPath := listPath did listCounter
  revocationVCIdentifierDid := did
  revocationVCIssuer := args.revocationVCIssuer
  bitStringLength := args.bitStringLength
  revocationListUrlPath := args.revocationListPath
  req := args.req

/-- **How `issueRevocationData` ends.** -/
inductive IssueEnd (lib : VcStatusRl2020) (env : Env) (args : IRevocationListDataArgs) (db : Db) :
    Except JsError RevocationDataResult × Db → Prop
  /-- It throws before its first write. -/
  | failedEarly {e : JsError} : IssueEnd lib env args db (.error e, db)
  /-- It throws after the counters are saved. -/
  | failedLate {did : Text} {e : JsError} (hpath : args.revocationListPath ≠ [])
      (hlen : args.bitStringLength ≠ 0)
      (hdid : env.didManagerGet args.revocationVCIssuer = .ok ⟨did⟩) :
      IssueEnd lib env args db (.error e,
        db.putData (nextData db.data ⟨args.revocationListPath, did⟩ args.bitStringLength))
  /-- It returns the counters it saved, and their list exists. -/
  | issued {did : Text} {row : RevocationData} {lists : Table RevocationList.key}
      (hpath : args.revocationListPath ≠ []) (hlen : args.bitStringLength ≠ 0)
      (hdid : env.didManagerGet args.revocationVCIssuer = .ok ⟨did⟩)
      (hrow : row = nextData db.data ⟨args.revocationListPath, did⟩ args.bitStringLength)
      (hlists : EnsuredList lib env (upsertListArgs args did row.listCounter) db.lists lists) :
      IssueEnd lib env args db
        (.ok ⟨args.revocationListPath ++ listPath did row.listCounter, row.indexCounter⟩,
          ⟨db.data.put row, lists⟩)

theorem run_revocationVCIdentifier (args : IRevocationListDataArgs) (db : Db) :
    (∃ e, Prog.run (serve env) (revocationVCIdentifier args) db = (.error e, db)) ∨
      ∃ i, env.didManagerGet args.revocationVCIssuer = .ok i ∧
        Prog.run (serve env) (revocationVCIdentifier args) db = (.ok i, db) := by
  unfold revocationVCIdentifier
  split
  · exact Or.inl ⟨_, rfl⟩
  · rw [Prog.run_tryCatch]
    rcases run_perform_cases env (.didManagerGet args.revocationVCIssuer) db with
      h | ⟨e, h⟩
    · rw [serveOp] at h
      cases hi : env.didManagerGet args.revocationVCIssuer with
      | ok i =>
          rw [hi] at h
          exact Or.inr ⟨i, rfl, by rw [h]⟩
      | error e =>
          rw [hi] at h
          exact Or.inl ⟨_, by rw [h]; rfl⟩
    · exact Or.inl ⟨_, by rw [h]; rfl⟩

/-- **What an allocation can end in.** -/
theorem run_issueRevocationData (args : IRevocationListDataArgs) (db : Db) :
    IssueEnd lib env args db (Prog.run (serve env) (issueRevocationData lib args) db) := by
  unfold issueRevocationData
  rw [Prog.run_mapError]
  by_cases hpath : args.revocationListPath = []
  · rw [if_pos hpath]
    exact IssueEnd.failedEarly
  · rw [if_neg hpath]
    by_cases hlen : args.bitStringLength = 0
    · rw [if_pos hlen]
      exact IssueEnd.failedEarly
    · rw [if_neg hlen]
      rcases run_revocationVCIdentifier env args db with ⟨e, hid⟩ | ⟨⟨did⟩, hdid, hid⟩
      · rw [Prog.run_bind_of_error hid]
        exact IssueEnd.failedEarly
      · rw [Prog.run_bind_of_ok hid]
        rcases run_upsertRevocationData env args.revocationListPath did
          args.bitStringLength db with ⟨e, hdata⟩ | hdata
        · rw [Prog.run_bind_of_error hdata]
          exact IssueEnd.failedEarly
        · rw [Prog.run_bind_of_ok hdata]
          rcases run_upsertRevocationList lib env (upsertListArgs args did
            (nextData db.data ⟨args.revocationListPath, did⟩ args.bitStringLength).listCounter)
            (db.putData (nextData db.data ⟨args.revocationListPath, did⟩ args.bitStringLength)) with
            ⟨e, hlist⟩ | ⟨row, lists, hens, hlist⟩
          · dsimp only
            rw [upsertListArgs] at hlist
            rw [Prog.run_bind_of_error hlist]
            exact IssueEnd.failedLate hpath hlen hdid
          · dsimp only
            rw [upsertListArgs] at hlist
            rw [Prog.run_bind_of_ok hlist]
            exact IssueEnd.issued hpath hlen hdid rfl hens

/-! ### Status changes -/

/-- **How the transaction of `revokeCredential` or `activateCredential` ends.** -/
inductive SetStatusEnd (lib : VcStatusRl2020) (env : Env) (options : PluginOptions)
    (revoked : Bool) (hash : Text) (db : Db) : Except JsError Unit × Db → Prop
  /-- It throws, and nothing is written. -/
  | failed {e : JsError} : SetStatusEnd lib env options revoked hash db (.error e, db)
  /-- It sets the credential's bit in the list found by path, and signs the list again. -/
  | changed {credential : Credential} {verified : Bool} {path : Text} {row : RevocationList}
      {decoded list : RevocationList2020} {vc : ListCredential}
      (hcredential : env.dataStoreGetVerifiableCredential hash = .ok (some credential))
      (hcheck : env.transmuteCheckStatus db credential = .ok verified)
      (hguard : (!verified) ≠ revoked)
      (hpath : revocationListFullUrlPathOf options.revocationListPath credential = .ok path)
      (hrow : db.lists.findOne (ListQuery.accepts ⟨path, none⟩) = some row)
      (hdecode : lib.decodeList row.verifiableCredential.encodedList = .ok decoded)
      (hset : lib.setRevoked decoded credential.revocationListIndex revoked = .ok list)
      (hsigned : Signed lib env row.verifiableCredential.id row.verifiableCredential.issuer
        list vc) :
      SetStatusEnd lib env options revoked hash db
        (.ok (), db.putList { row with verifiableCredential := vc })

theorem run_credentialByHash (hash : Text) (context : Context) (db : Db) :
    (∃ e, Prog.run (serve env) (credentialByHash hash context) db = (.error e, db)) ∨
      ∃ credential, env.dataStoreGetVerifiableCredential hash = .ok (some credential) ∧
        Prog.run (serve env) (credentialByHash hash context) db = (.ok credential, db) := by
  unfold credentialByHash
  split
  · exact Or.inl ⟨_, rfl⟩
  · rcases run_perform_cases env (.dataStoreGetVerifiableCredential hash) db with
      h | ⟨e, h⟩
    · rw [serveOp] at h
      cases hc : env.dataStoreGetVerifiableCredential hash with
      | error e =>
          rw [hc] at h
          exact Or.inl ⟨e, Prog.run_bind_of_error h⟩
      | ok found =>
          rw [hc] at h
          rw [Prog.run_bind_of_ok h]
          cases found with
          | none => exact Or.inl ⟨_, rfl⟩
          | some credential => exact Or.inr ⟨credential, rfl, rfl⟩
    · exact Or.inl ⟨e, Prog.run_bind_of_error h⟩

theorem run_checkStatusOf (credential : Credential) (db : Db) :
    (∃ e, Prog.run (serve env) (checkStatusOf credential) db = (.error e, db)) ∨
      ∃ verified, env.transmuteCheckStatus db credential = .ok verified ∧
        Prog.run (serve env) (checkStatusOf credential) db = (.ok ⟨!verified⟩, db) := by
  unfold checkStatusOf
  rcases run_perform_cases env (.transmuteCheckStatus credential) db with h | ⟨e, h⟩
  · rw [serveOp] at h
    cases hv : env.transmuteCheckStatus db credential with
    | error e =>
        rw [hv] at h
        exact Or.inl ⟨e, Prog.run_bind_of_error h⟩
    | ok verified =>
        rw [hv] at h
        exact Or.inr ⟨verified, rfl, Prog.run_bind_of_ok h⟩
  · exact Or.inl ⟨e, Prog.run_bind_of_error h⟩

theorem run_getRevocationList (path : Text) (db : Db) :
    (∃ e, Prog.run (serve env) (getRevocationList path) db = (.error e, db)) ∨
      ∃ row, db.lists.findOne (ListQuery.accepts ⟨path, none⟩) = some row ∧
        Prog.run (serve env) (getRevocationList path) db = (.ok row, db) := by
  unfold getRevocationList
  rcases run_perform_cases env (.findOneList ⟨path, none⟩) db with h | ⟨e, h⟩
  · rw [serveOp] at h
    rw [Prog.run_mapError, Prog.run_bind_of_ok h]
    cases hrow : db.lists.findOne (ListQuery.accepts ⟨path, none⟩) with
    | none => exact Or.inl ⟨_, rfl⟩
    | some row => exact Or.inr ⟨row, rfl, rfl⟩
  · rw [Prog.run_mapError, Prog.run_bind_of_error h]
    exact Or.inl ⟨_, rfl⟩

/-- The credential of a list is read from its row. -/
theorem getRevocationListVC_eq (path : Text) :
    getRevocationListVC path = (do
      let row ← getRevocationList path
      .ret row.verifiableCredential) := by
  refine congrArg (Prog.call _) (funext fun r => ?_)
  rcases r with e | _ | row <;> rfl

theorem run_getRevocationListVC (path : Text) (db : Db) :
    (∃ e, Prog.run (serve env) (getRevocationListVC path) db = (.error e, db)) ∨
      ∃ row, db.lists.findOne (ListQuery.accepts ⟨path, none⟩) = some row ∧
        Prog.run (serve env) (getRevocationListVC path) db =
          (.ok row.verifiableCredential, db) := by
  rw [getRevocationListVC_eq]
  rcases run_getRevocationList env path db with ⟨e, h⟩ | ⟨row, hrow, h⟩
  · exact Or.inl ⟨e, Prog.run_bind_of_error h⟩
  · exact Or.inr ⟨row, hrow, Prog.run_bind_of_ok h⟩

/-- What `updateRevocationListVC` can end in. -/
theorem run_updateRevocationListVC (args : UpdateRevocationListVCArgs) (db : Db) :
    (∃ e, Prog.run (serve env) (updateRevocationListVC lib args) db = (.error e, db)) ∨
      ∃ decoded list vc,
        lib.decodeList args.revocationList.verifiableCredential.encodedList = .ok decoded ∧
        lib.setRevoked decoded args.index args.revoked = .ok list ∧
        Signed lib env args.revocationList.verifiableCredential.id
          args.revocationList.verifiableCredential.issuer list vc ∧
        Prog.run (serve env) (updateRevocationListVC lib args) db =
          (.ok (), db.putList { args.revocationList with verifiableCredential := vc }) := by
  unfold updateRevocationListVC
  rw [Prog.run_mapError]
  rcases run_ofExcept_cases env
    (lib.decodeList args.revocationList.verifiableCredential.encodedList) db with
    ⟨decoded, hdecode, hrun⟩ | ⟨e, hrun⟩
  · rw [Prog.run_bind_of_ok hrun]
    rcases run_ofExcept_cases env (lib.setRevoked decoded args.index args.revoked) db with
      ⟨list, hset, hrun⟩ | ⟨e, hrun⟩
    · rw [Prog.run_bind_of_ok hrun]
      rcases run_createRevocationListVC lib env
        args.revocationList.verifiableCredential.id (.inr list)
        args.revocationList.verifiableCredential.issuer args.context db with
        ⟨e, hrun⟩ | ⟨list', vc, hlist', hsigned, hrun⟩
      · rw [Prog.run_bind_of_error hrun]
        exact Or.inl ⟨_, rfl⟩
      · obtain rfl : list = list' := by simpa using hlist'
        rw [Prog.run_bind_of_ok hrun]
        rcases run_perform_cases env
          (.updateList { args.revocationList with verifiableCredential := vc }) db with
          hupd | ⟨e, hupd⟩
        · rw [serveOp] at hupd
          rw [Prog.run_bind_of_ok hupd]
          exact Or.inr ⟨decoded, list, vc, hdecode, hset, hsigned, rfl⟩
        · rw [Prog.run_bind_of_error hupd]
          exact Or.inl ⟨_, rfl⟩
    · rw [Prog.run_bind_of_error hrun]
      exact Or.inl ⟨_, rfl⟩
  · rw [Prog.run_bind_of_error hrun]
    exact Or.inl ⟨_, rfl⟩

/-- **What a status change can end in.** -/
theorem run_setCredentialStatus (options : PluginOptions) (alreadySet : Text) (revoked : Bool)
    (hash : Text) (context : Context) (db : Db) :
    SetStatusEnd lib env options revoked hash db
      (Prog.run (serve env) (setCredentialStatus lib options alreadySet revoked hash context)
        db) := by
  unfold setCredentialStatus
  rcases run_credentialByHash env hash context db with ⟨e, h⟩ | ⟨credential, hcred, h⟩
  · rw [Prog.run_bind_of_error h]
    exact SetStatusEnd.failed
  rw [Prog.run_bind_of_ok h]
  rcases run_checkStatusOf env credential db with ⟨e, h⟩ | ⟨verified, hcheck, h⟩
  · rw [Prog.run_bind_of_error h]
    exact SetStatusEnd.failed
  rw [Prog.run_bind_of_ok h]
  split
  · exact SetStatusEnd.failed
  rename_i hguard
  rcases run_ofExcept_cases env
    (revocationListFullUrlPathOf options.revocationListPath credential) db with
    ⟨path, hpath, h⟩ | ⟨e, h⟩
  swap
  · rw [Prog.run_bind_of_error h]
    exact SetStatusEnd.failed
  rw [Prog.run_bind_of_ok h]
  obtain ⟨lock, hlock⟩ := run_lockRevocationList env ⟨path, none⟩ db
  cases lock with
  | error e =>
      rw [Prog.run_bind_of_error hlock]
      exact SetStatusEnd.failed
  | ok _ =>
      rw [Prog.run_bind_of_ok hlock]
      rcases run_getRevocationList env path db with ⟨e, h⟩ | ⟨row, hrow, h⟩
      · rw [Prog.run_bind_of_error h]
        exact SetStatusEnd.failed
      · rw [Prog.run_bind_of_ok h]
        rcases run_updateRevocationListVC lib env
          ⟨context, row, credential.revocationListIndex, revoked⟩ db with
          ⟨e, h⟩ | ⟨decoded, list, vc, hdecode, hset, hsigned, h⟩
        · rw [h]
          exact SetStatusEnd.failed
        · rw [h]
          exact SetStatusEnd.changed hcred hcheck hguard hpath hrow hdecode hset hsigned

end Revocation
