/-
**What the two tables say about each other.**

Allocations, revocations and activations succeed one after the other, for any issuers, under one
base path.  The row of counters of an issuer and the lists of that issuer are written by separate
upserts with different keys; the invariant is that they stay in step: the lists of an issuer are
the ones numbered up to its list counter, and the current one has room for the length in force.

Main definitions:

* `Revocation.Consistent` — the invariant;
* `Revocation.IssueOp`, `Revocation.StatusOp` — one successful operation;
* `Revocation.Reachable` — any number of them, from the empty tables.

Main results:

* `Revocation.Consistent.issue`, `Revocation.Consistent.setStatus` — **each operation keeps the
  invariant**;
* `Revocation.issue_frame` — an allocation leaves the counters of other issuers and every list
  that exists alone;
* `Revocation.reachable_lists` — **the lists of every issuer in every reachable state**.
-/

import Vckit.RevocationCalls
import Vckit.Allocation

set_option relaxedAutoImplicit false
set_option autoImplicit false

namespace Revocation

variable {lib : VcStatusRl2020} {path : Text} {db db' : Db}

/-! ### The invariant -/

/-- A list credential that decodes to at least `n` bits. -/
def HasCapacity (lib : VcStatusRl2020) (vc : ListCredential) (n : ℕ) : Prop :=
  ∃ bits, lib.decodeList vc.encodedList = .ok bits ∧ n ≤ bits.length

/-- List number `m` of an issuer. -/
def listOf (lists : Table RevocationList.key) (did : Text) (m : ℕ) : Option RevocationList :=
  lists.lookup ⟨listPath did m, did⟩

/-- The counters of an issuer under a base path. -/
def countersOf (data : Table RevocationData.key) (path did : Text) : Option RevocationData :=
  data.lookup ⟨path, did⟩

/-- A list is stored under a path of its issuer, and its credential has the `id` and the issuer it
is created with. -/
structure ListNamed (path : Text) (list : RevocationList) : Prop where
  path_eq : ∃ m, list.revocationListFullUrlPath = listPath list.revocationVCIssuer m
  id_eq : list.verifiableCredential.id = path ++ list.revocationListFullUrlPath
  issuer_eq : list.verifiableCredential.issuer = list.revocationVCIssuer

/-- **The invariant of the two tables** under one base path. -/
structure Consistent (lib : VcStatusRl2020) (path : Text) (db : Db) : Prop where
  index_lt : ∀ {did row}, countersOf db.data path did = some row →
    row.indexCounter < row.bitStringLength
  list_iff : ∀ {did m}, (∃ list, listOf db.lists did m = some list) ↔
    ∃ row, countersOf db.data path did = some row ∧ m ≤ row.listCounter
  capacity : ∀ {did row list}, countersOf db.data path did = some row →
    listOf db.lists did row.listCounter = some list →
    HasCapacity lib list.verifiableCredential row.bitStringLength
  list_named : ∀ {list}, list ∈ db.lists.rows → ListNamed path list

theorem consistent_empty : Consistent lib path Db.empty where
  index_lt h := by cases h
  list_iff := by
    intro did m
    constructor
    · rintro ⟨_, h⟩; cases h
    · rintro ⟨_, h, _⟩; cases h
  capacity h := by cases h
  list_named h := by cases h

/-! ### Tables after a write -/

theorem countersOf_put_self {data : Table RevocationData.key} {row : RevocationData} {did : Text}
    (hkey : row.key = ⟨path, did⟩) : countersOf (data.put row) path did = some row := by
  rw [countersOf, ← hkey, Table.lookup_put_self]

theorem countersOf_put_of_ne {data : Table RevocationData.key} {row : RevocationData}
    {did did' : Text} (hkey : row.key = ⟨path, did⟩) (hne : did' ≠ did) :
    countersOf (data.put row) path did' = countersOf data path did' := by
  refine Table.lookup_put_of_ne ?_
  rw [hkey]
  simpa using hne

theorem listOf_put {lists : Table RevocationList.key} {did did' : Text} {m m' : ℕ}
    {vc : ListCredential} :
    listOf (lists.put ⟨listPath did m, did, vc⟩) did' m' =
      if did' = did ∧ m' = m then some ⟨listPath did m, did, vc⟩ else listOf lists did' m' := by
  have hiff : (⟨listPath did' m', did'⟩ : ListKey) = ⟨listPath did m, did⟩ ↔
      did' = did ∧ m' = m := by
    rw [ListKey.mk.injEq, listPath_inj]
    constructor
    · rintro ⟨⟨-, hm⟩, hd⟩; exact ⟨hd, hm⟩
    · rintro ⟨rfl, rfl⟩; exact ⟨⟨rfl, rfl⟩, rfl⟩
  rw [listOf, Table.lookup_put]
  exact if_congr hiff rfl rfl

/-! ### What an allocation saves -/

/-- The counters saved: a first row, the next index of the list in force, or a new list. -/
theorem nextData_cases (data : Table RevocationData.key) (path did : Text) (n : ℕ) :
    (countersOf data path did = none ∧ (nextData data ⟨path, did⟩ n).listCounter = 0) ∨
      ∃ row, countersOf data path did = some row ∧
        ((nextData data ⟨path, did⟩ n).listCounter = row.listCounter + 1 ∨
          ((nextData data ⟨path, did⟩ n).listCounter = row.listCounter ∧
            row.bitStringLength = n)) := by
  unfold nextData countersOf
  cases hrow : data.lookup ⟨path, did⟩ with
  | none => exact Or.inl ⟨rfl, rfl⟩
  | some row =>
      refine Or.inr ⟨row, rfl, ?_⟩
      unfold RevocationData.advance
      dsimp only
      split
      · exact Or.inl rfl
      · rename_i hroom
        push Not at hroom
        exact Or.inr ⟨rfl, hroom.1.symm⟩

/-- A list that an allocation creates has room for the length it was asked for. -/
theorem Encodes.hasCapacity (hlib : lib.Lawful) {id issuer : Text} {list : RevocationList2020}
    {vc : ListCredential} {n : ℕ} (h : Encodes lib id issuer list vc) (hn : n ≤ list.length) :
    HasCapacity lib vc n := by
  obtain ⟨bits, hbits, hpre⟩ := h.decode hlib
  exact ⟨bits, hbits, hn.trans hpre.length_le⟩

/-! ### One allocation -/

/-- A successful allocation for an issuer. -/
def IssueOp (lib : VcStatusRl2020) (path did : Text) (db : Db) (result : RevocationDataResult)
    (db' : Db) : Prop :=
  ∃ env n req, env.Lawful ∧ 0 < n ∧
    Prog.run (serve env) (issueRevocationData lib ⟨path, n, did, req⟩) db = (.ok result, db')

/-- What a successful allocation does: it saves counters and ensures their list. -/
theorem IssueOp.effect {did : Text} {result : RevocationDataResult}
    (h : IssueOp lib path did db result db') :
    ∃ env n req lists, env.Lawful ∧ 0 < n ∧
      EnsuredList lib env (upsertListArgs ⟨path, n, did, req⟩ did
        (nextData db.data ⟨path, did⟩ n).listCounter) db.lists lists ∧
      db' = ⟨db.data.put (nextData db.data ⟨path, did⟩ n), lists⟩ := by
  obtain ⟨env, n, req, henv, hn, hrun⟩ := h
  have hend := run_issueRevocationData lib env ⟨path, n, did, req⟩ db
  rw [hrun] at hend
  cases hend with
  | issued _ _ hdid hrow hlists =>
      obtain rfl := henv.didManagerGet_ok hdid
      subst hrow
      exact ⟨env, n, req, _, henv, hn, hlists, rfl⟩

/-- Ensuring a list keeps every list that exists. -/
theorem EnsuredList.mem {env : Env} {args : UpsertRevocationListArgs}
    {lists lists' : Table RevocationList.key} (h : EnsuredList lib env args lists lists')
    {list : RevocationList} (hlist : list ∈ lists.rows) : list ∈ lists'.rows := by
  cases h with
  | found => exact hlist
  | created hnone =>
      exact Table.mem_put_iff.2 (Or.inr ⟨hlist, Table.lookup_eq_none_iff.1 hnone list hlist⟩)

/-- Afterwards the lists are the ones there were, and the one ensured. -/
theorem EnsuredList.exists_iff {env : Env} {args : IRevocationListDataArgs} {did did' : Text}
    {c m : ℕ} {lists lists' : Table RevocationList.key}
    (h : EnsuredList lib env (upsertListArgs args did c) lists lists') :
    (∃ list, listOf lists' did' m = some list) ↔
      (∃ list, listOf lists did' m = some list) ∨ (did' = did ∧ m = c) := by
  cases h with
  | @found row hrow =>
      constructor
      · exact Or.inl
      · rintro (h | ⟨rfl, rfl⟩)
        · exact h
        · exact ⟨row, hrow⟩
  | created =>
      simp only [upsertListArgs, listOf_put]
      split
      · simp_all
      · simp_all

/-- **An allocation leaves the counters of other issuers and every list that exists alone.** -/
theorem issue_frame {did : Text} {result : RevocationDataResult}
    (h : IssueOp lib path did db result db') :
    (∀ key, key ≠ ⟨path, did⟩ → db'.data.lookup key = db.data.lookup key) ∧
      ∀ list ∈ db.lists.rows, list ∈ db'.lists.rows := by
  obtain ⟨env, n, req, lists, -, -, hlists, rfl⟩ := h.effect
  constructor
  · intro key hkey
    refine Table.lookup_put_of_ne ?_
    rwa [key_nextData]
  · exact fun _ hlist => hlists.mem hlist

/-- **An allocation keeps the invariant.** -/
theorem Consistent.issue (hdb : Consistent lib path db) (hlib : lib.Lawful) {did : Text}
    {result : RevocationDataResult} (h : IssueOp lib path did db result db') :
    Consistent lib path db' := by
  obtain ⟨env, n, req, lists, henv, hn, hlists, rfl⟩ := h.effect
  have hkey : (nextData db.data ⟨path, did⟩ n).key = ⟨path, did⟩ := key_nextData _ _ _
  have hlen : (nextData db.data ⟨path, did⟩ n).bitStringLength = n :=
    bitStringLength_nextData _ _ _
  have hindex : (nextData db.data ⟨path, did⟩ n).indexCounter < n :=
    indexCounter_nextData_lt _ _ hn.ne'
  have hcases := nextData_cases db.data path did n
  generalize nextData db.data ⟨path, did⟩ n = row' at hkey hlen hindex hcases hlists ⊢
  constructor
  case index_lt =>
      intro did' row hrow
      by_cases hd : did' = did
      · subst hd
        rw [countersOf_put_self hkey, Option.some.injEq] at hrow
        rwa [← hrow, hlen]
      · rw [countersOf_put_of_ne hkey hd] at hrow
        exact hdb.index_lt hrow
  case list_iff =>
      intro did' m
      rw [hlists.exists_iff, hdb.list_iff]
      by_cases hd : did' = did
      · -- the counter stays, or moves on to the list that is ensured
        subst hd
        rw [countersOf_put_self hkey]
        rcases hcases with ⟨hnone, hzero⟩ | ⟨row, hrow, hroll | ⟨hstay, -⟩⟩
        · simp [hnone, hzero]
        · simp only [hrow, hroll, Option.some.injEq, exists_eq_left', true_and]
          omega
        · simp only [hrow, hstay, Option.some.injEq, exists_eq_left', true_and]
          omega
      · rw [countersOf_put_of_ne hkey hd]
        simp [hd]
  case capacity =>
      intro did' row list hrow hlist
      by_cases hd : did' = did
      · subst hd
        rw [countersOf_put_self hkey, Option.some.injEq] at hrow
        subst hrow
        rw [hlen]
        cases hlists with
        | @found list' hfound =>
            -- the list was there, so it is the one in force, at the length in force
            obtain ⟨row, hrow, hle⟩ := hdb.list_iff.1 ⟨list', hfound⟩
            rcases hcases with ⟨hnone, -⟩ | ⟨row₂, hrow₂, hroll | ⟨hstay, hsame⟩⟩
            · rw [hnone] at hrow; cases hrow
            · rw [hrow₂, Option.some.injEq] at hrow
              subst hrow
              omega
            · rw [hstay] at hlist
              rw [← hsame]
              exact hdb.capacity hrow₂ hlist
        | created _ hcreate hsigned =>
            simp only [upsertListArgs, listOf_put, and_self, if_true, Option.some.injEq] at hlist
            rw [← hlist]
            exact (hsigned.encodes henv).hasCapacity hlib (hlib.createList_ok hcreate).1
      · rw [countersOf_put_of_ne hkey hd] at hrow
        refine hdb.capacity hrow ?_
        cases hlists with
        | found => exact hlist
        | created =>
            simpa only [upsertListArgs, listOf_put, hd, false_and, if_false] using hlist
  case list_named =>
      intro list hlist
      cases hlists with
      | found => exact hdb.list_named hlist
      | created hnone hcreate hsigned =>
          rcases Table.mem_put_iff.1 hlist with rfl | ⟨hold, -⟩
          · exact ⟨⟨_, rfl⟩, (hsigned.encodes henv).id_eq hlib, (hsigned.encodes henv).issuer_eq⟩
          · exact hdb.list_named hold

/-! ### One status change -/

/-- A successful call of `revokeCredential` or of `activateCredential`: its transaction returned
and was committed. -/
inductive StatusOp (lib : VcStatusRl2020) (options : PluginOptions) (hash : Text)
    (envs : ℕ → AttemptEnv) (db : Db) : Bool → Db → Prop
  | revokeCredential {context : Context} {db' : Db}
      (h : callTransaction (revokeCredentialTransaction lib options hash context) envs db =
        (.ok (some ()), db')) : StatusOp lib options hash envs db true db'
  | activateCredential {context : Context} {db' : Db}
      (h : callTransaction (activateCredentialTransaction lib options hash context) envs db =
        (.ok (some ()), db')) : StatusOp lib options hash envs db false db'

/-- What a successful status change does. -/
theorem StatusOp.effect {options : PluginOptions} {hash : Text} {envs : ℕ → AttemptEnv}
    {revoked : Bool} (h : StatusOp lib options hash envs db revoked db') :
    ∃ k, SetStatusEnd lib (envs k).env options revoked hash db (.ok (), db') := by
  cases h with
  | revokeCredential h => exact setCredentialStatus_ok h
  | activateCredential h => exact setCredentialStatus_ok h

/-- A list credential after a bit was set and it was signed again. -/
structure Resigned (lib : VcStatusRl2020) (vc vc' : ListCredential) : Prop where
  id_eq : vc'.id = vc.id
  issuer_eq : vc'.issuer = vc.issuer
  hasCapacity : ∀ {n}, HasCapacity lib vc n → HasCapacity lib vc' n

/-- **A status change signs one list again** and writes nothing else. -/
theorem SetStatusEnd.resigned (hlib : lib.Lawful) {env : Env} (henv : env.Lawful)
    {options : PluginOptions} {hash : Text} {revoked : Bool}
    (h : SetStatusEnd lib env options revoked hash db (.ok (), db')) :
    ∃ row vc, row ∈ db.lists.rows ∧ Resigned lib row.verifiableCredential vc ∧
      db' = db.putList { row with verifiableCredential := vc } := by
  cases h with
  | @changed _ _ _ row decoded bits vc _ _ _ _ hrow hdecode hset hsigned =>
      refine ⟨row, vc, Table.mem_of_findOne hrow, ⟨?_, ?_, ?_⟩, rfl⟩
      · exact (hsigned.encodes henv).id_eq hlib
      · exact (hsigned.encodes henv).issuer_eq
      · rintro n ⟨bits', hbits', hcap⟩
        rw [hdecode, Except.ok.injEq] at hbits'
        subst hbits'
        obtain ⟨j, -, -, rfl⟩ := hlib.setRevoked_ok hset
        exact (hsigned.encodes henv).hasCapacity hlib (by simpa using hcap)

/-- The lists of an issuer after one list was signed again. -/
theorem listOf_resigned {lists : Table RevocationList.key} {row : RevocationList}
    (vc : ListCredential) (hmem : row ∈ lists.rows) (did : Text) (m : ℕ) :
    listOf (lists.put { row with verifiableCredential := vc }) did m = listOf lists did m ∨
      (listOf lists did m = some row ∧
        listOf (lists.put { row with verifiableCredential := vc }) did m =
          some { row with verifiableCredential := vc }) := by
  by_cases hkey : (⟨listPath did m, did⟩ : ListKey) = row.key
  · refine Or.inr ⟨Table.lookup_eq_some_iff.2 ⟨hmem, hkey.symm⟩, ?_⟩
    rw [listOf, hkey]
    exact Table.lookup_put_self _ _
  · exact Or.inl (Table.lookup_put_of_ne hkey)

/-- **A status change keeps the invariant.** -/
theorem Consistent.setStatus (hdb : Consistent lib path db) (hlib : lib.Lawful) {env : Env}
    (henv : env.Lawful) {options : PluginOptions} {hash : Text} {revoked : Bool}
    (h : SetStatusEnd lib env options revoked hash db (.ok (), db')) :
    Consistent lib path db' := by
  obtain ⟨row, vc, hmem, hvc, rfl⟩ := h.resigned hlib henv
  constructor
  case index_lt => exact hdb.index_lt
  case list_iff =>
      intro did m
      rw [Db.lists_putList, Db.data_putList, ← hdb.list_iff]
      rcases listOf_resigned vc hmem did m with heq | ⟨hold, hnew⟩
      · rw [heq]
      · simp [hold, hnew]
  case capacity =>
      intro did data list hdata hlist
      rw [Db.lists_putList] at hlist
      rcases listOf_resigned vc hmem did data.listCounter with heq | ⟨hold, hnew⟩
      · rw [heq] at hlist
        exact hdb.capacity hdata hlist
      · -- the list signed again has at least the bits it had
        rw [hnew, Option.some.injEq] at hlist
        subst hlist
        exact hvc.hasCapacity (hdb.capacity hdata hold)
  case list_named =>
      intro list hlist
      rcases Table.mem_put_iff.1 hlist with rfl | ⟨hold, -⟩
      · obtain ⟨hpath, hid, hissuer⟩ := hdb.list_named hmem
        exact ⟨hpath, hvc.id_eq.trans hid, hvc.issuer_eq.trans hissuer⟩
      · exact hdb.list_named hold

/-! ### Runs -/

/-- The tables after successful operations from the empty ones, for any of the managed issuers and
any credentials: every operation uses the base path `path`, and has an agent and a length of its
own. -/
inductive Reachable (lib : VcStatusRl2020) (path : Text) (managed : Text → Prop) : Db → Prop
  | empty : Reachable lib path managed Db.empty
  | issue {db db' : Db} {did : Text} {result : RevocationDataResult}
      (hdb : Reachable lib path managed db) (hmanaged : managed did)
      (hop : IssueOp lib path did db result db') : Reachable lib path managed db'
  | setStatus {db db' : Db} {n : ℕ} {hash : Text} {envs : ℕ → AttemptEnv} {revoked : Bool}
      (hdb : Reachable lib path managed db) (henvs : ∀ k, (envs k).env.Lawful)
      (hop : StatusOp lib ⟨path, n⟩ hash envs db revoked db') : Reachable lib path managed db'

variable {managed : Text → Prop}

/-- **The invariant holds in every reachable state.** -/
theorem consistent_of_reachable (hlib : lib.Lawful) (h : Reachable lib path managed db) :
    Consistent lib path db := by
  induction h with
  | empty => exact consistent_empty
  | issue _ _ hop ih => exact ih.issue hlib hop
  | setStatus _ henvs hop ih =>
      obtain ⟨k, hend⟩ := hop.effect
      exact ih.setStatus hlib (henvs k) hend

/-- A list of an issuer exists exactly once, or not at all. -/
theorem existsUnique_list_iff {did : Text} {m : ℕ} :
    (∃! list, list ∈ db.lists.rows ∧ list.revocationListFullUrlPath = listPath did m ∧
        list.revocationVCIssuer = did) ↔ ∃ list, listOf db.lists did m = some list := by
  have hkey : ∀ list : RevocationList, list.key = ⟨listPath did m, did⟩ ↔
      list.revocationListFullUrlPath = listPath did m ∧ list.revocationVCIssuer = did := by
    intro list
    rw [RevocationList.key, ListKey.mk.injEq]
  constructor
  · rintro ⟨list, ⟨hmem, hlist⟩, -⟩
    exact ⟨list, Table.lookup_eq_some_iff.2 ⟨hmem, (hkey list).2 hlist⟩⟩
  · rintro ⟨list, hlist⟩
    obtain ⟨hmem, hk⟩ := Table.lookup_eq_some_iff.1 hlist
    refine ⟨list, ⟨hmem, (hkey list).1 hk⟩, ?_⟩
    rintro list' ⟨hmem', hlist'⟩
    exact db.lists.eq_of_key_eq hmem' hmem (((hkey list').2 hlist').trans hk.symm)

/-- **The lists of every issuer in every reachable state.**  A row of counters `(n, i, B)` has
`i < B`; its issuer has exactly one list for each number up to `n` and none beyond; list `n` has
room for `B` bits; every list credential has the `id` and the issuer it was created with; and an
allocation changes no other issuer's counters and no list that exists. -/
theorem reachable_lists (hlib : lib.Lawful) (h : Reachable lib path managed db) :
    (∀ did row, db.data.lookup ⟨path, did⟩ = some row →
      row.indexCounter < row.bitStringLength ∧
      (∀ m ≤ row.listCounter, ∃! list, list ∈ db.lists.rows ∧
        list.revocationListFullUrlPath = listPath did m ∧ list.revocationVCIssuer = did) ∧
      (∀ m, row.listCounter < m → ¬ ∃ list ∈ db.lists.rows,
        list.revocationListFullUrlPath = listPath did m ∧ list.revocationVCIssuer = did) ∧
      (∀ list ∈ db.lists.rows, list.revocationListFullUrlPath = listPath did row.listCounter →
        list.revocationVCIssuer = did →
        HasCapacity lib list.verifiableCredential row.bitStringLength)) ∧
    (∀ list ∈ db.lists.rows, ListNamed path list) ∧
    (∀ did result db', IssueOp lib path did db result db' →
      (∀ key, key ≠ ⟨path, did⟩ → db'.data.lookup key = db.data.lookup key) ∧
        ∀ list ∈ db.lists.rows, list ∈ db'.lists.rows) := by
  have hdb := consistent_of_reachable hlib h
  refine ⟨?_, fun _ => hdb.list_named, fun _ _ _ => issue_frame⟩
  intro did row hrow
  have hlist : ∀ {list : RevocationList} {m : ℕ}, list ∈ db.lists.rows →
      list.revocationListFullUrlPath = listPath did m → list.revocationVCIssuer = did →
      listOf db.lists did m = some list := by
    rintro list m hmem hpath hdid
    refine Table.lookup_eq_some_iff.2 ⟨hmem, ?_⟩
    rw [RevocationList.key, hpath, hdid]
  refine ⟨hdb.index_lt hrow, ?_, ?_, ?_⟩
  · intro m hm
    exact existsUnique_list_iff.2 (hdb.list_iff.2 ⟨row, hrow, hm⟩)
  · rintro m hm ⟨list, hmem, hpath, hdid⟩
    obtain ⟨row', hrow', hle⟩ := hdb.list_iff.1 ⟨list, hlist hmem hpath hdid⟩
    rw [countersOf, hrow, Option.some.injEq] at hrow'
    subst hrow'
    omega
  · intro list hmem hpath hdid
    exact hdb.capacity hrow (hlist hmem hpath hdid)

/-- The tables after three calls for lists of length two and the revocation of the credential with
the first entry. -/
def plainRolledOver : Db :=
  (revokeCredential plainLib plainOptions plainHash ⟨true⟩ plainEnvs (plainIssueDbs 3)).2

/-- The third entry is in a second list: the issuer has exactly one list number zero, one number one
and none number two, and the lists keep their names when a bit is set. -/
theorem reachable_lists_plain :
    (∀ m ≤ 1, ∃! list, list ∈ plainRolledOver.lists.rows ∧
      list.revocationListFullUrlPath = listPath plainDid m ∧ list.revocationVCIssuer = plainDid) ∧
    (¬ ∃ list ∈ plainRolledOver.lists.rows,
      list.revocationListFullUrlPath = listPath plainDid 2 ∧ list.revocationVCIssuer = plainDid) ∧
    ∀ list ∈ plainRolledOver.lists.rows, ListNamed plainPath list := by
  have hissue : ∀ {k m i : ℕ}, plainIssue (plainIssueDbs k) =
        (.ok ⟨plainPath ++ listPath plainDid m, i⟩, plainIssueDbs (k + 1)) →
      Reachable plainLib plainPath (· = plainDid) (plainIssueDbs k) →
      Reachable plainLib plainPath (· = plainDid) (plainIssueDbs (k + 1)) := by
    intro k m i hrun hreach
    exact hreach.issue rfl
      ⟨plainEnv [plainDid] [], 2, ⟨true⟩, plainEnv_lawful _ _, Nat.zero_lt_two, hrun⟩
  have hthree : Reachable plainLib plainPath (· = plainDid) (plainIssueDbs 3) :=
    hissue (m := 1) (i := 0) rfl (hissue (m := 0) (i := 1) rfl
      (hissue (m := 0) (i := 0) rfl Reachable.empty))
  have hrevoke : callTransaction
      (revokeCredentialTransaction plainLib plainOptions plainHash ⟨true⟩)
      plainEnvs (plainIssueDbs 3) = (.ok (some ()), plainRolledOver) := rfl
  have hreach : Reachable plainLib plainPath (· = plainDid) plainRolledOver :=
    hthree.setStatus plainEnvs_lawful (StatusOp.revokeCredential hrevoke)
  obtain ⟨hcounters, hnamed, -⟩ := reachable_lists plainLib_lawful hreach
  obtain ⟨-, hone, hnone, -⟩ := hcounters plainDid ⟨plainPath, plainDid, 1, 0, 2⟩ rfl
  exact ⟨hone, hnone 2 (by decide), hnamed⟩

end Revocation
