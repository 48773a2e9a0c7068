/-
**A plugin that is given another base path.**

Counters are kept for each base path and issuer, lists for each list path and issuer, and the list
path does not contain the base path.  When the plugin is constructed again with another base path,
the counters of an issuer start over while the lists are still there.  The runs of this module
change the base path and the length from call to call; they meet one condition, tested on the
tables an allocation finds: a list that is already stored under the path of the entry about to be
handed out was created under the same base path, and has room for the entry when it is another
issuer's.

Main definitions:

* `Revocation.Entry` — a status entry handed out, with the parts its URL is made of;
* `Revocation.BackedByOwn` — the condition;
* `Revocation.ConfiguredRun` — calls of plugins with any options, the successful allocations
  among which meet the condition;
* `Revocation.Backed` — the invariant.

Main results:

* `Revocation.Backed.save`, `Revocation.Backed.ensure`, `Revocation.Backed.setStatus` — the step
  lemmas;
* `Revocation.reconfigured_bits` — **different entries are backed by different bits**, inside
  their lists, and a status change of one entry leaves the bit of every other alone;
* `Revocation.reconfigured_collision` — what happens when the condition is not met.
-/

import Vckit.PathCollision

set_option relaxedAutoImplicit false
set_option autoImplicit false

namespace Revocation

variable {lib : VcStatusRl2020} {env : Env} {path did : Text} {db db' : Db}

/-! ### Entries -/

/-- A status entry: its URL is the base path followed by the path of its list. -/
structure Entry where
  basePath : Text
  listPath : Text
  index : ℕ
  deriving DecidableEq

/-- The entry as `getRevocationData` returns it. -/
def Entry.result (entry : Entry) : RevocationDataResult :=
  ⟨entry.basePath ++ entry.listPath, entry.index⟩

/-- The counters that an attempt for this issuer is about to hand out. -/
def upcoming (options : PluginOptions) (did : Text) (db : Db) : RevocationData :=
  nextData db.data ⟨options.revocationListPath, did⟩ options.bitStringLength

/-- **The condition**: a list that is stored under the upcoming path bears the `id` the entry
names, and holds the upcoming index when it is another issuer's. -/
def BackedByOwn (lib : VcStatusRl2020) (options : PluginOptions) (did : Text) (db : Db) : Prop :=
  ∀ list, db.lists.findOne (ListQuery.accepts
      ⟨listPath did (upcoming options did db).listCounter, none⟩) = some list →
    list.verifiableCredential.id =
      options.revocationListPath ++ listPath did (upcoming options did db).listCounter ∧
    (list.revocationVCIssuer ≠ did →
      HasCapacity lib list.verifiableCredential ((upcoming options did db).indexCounter + 1))

/-! ### Runs -/

/-- Calls of the plugin from the empty tables, each with options of its own, and the entries
handed out.  The attempt that returns an entry meets the condition. -/
inductive ConfiguredRun (lib : VcStatusRl2020) : List Entry → Db → Prop
  | start : ConfiguredRun lib [] Db.empty
  /-- A successful allocation. -/
  | issued {entries : List Entry} {db db' : Db} {options : PluginOptions} {did p : Text} {i : ℕ}
      {req : Context} {envs : ℕ → AttemptEnv} (hrun : ConfiguredRun lib entries db)
      (henvs : ∀ k, (envs k).env.Lawful)
      (hcondition : ∀ k result s',
        SwallowedUpTo (attemptOf (getRevocationDataTransaction lib options did req) envs) db k →
        (attemptOf (getRevocationDataTransaction lib options did req) envs k).callback
          (leftBy (attemptOf (getRevocationDataTransaction lib options did req) envs) db k) =
            (.ok result, s') →
        BackedByOwn lib options did
          (leftBy (attemptOf (getRevocationDataTransaction lib options did req) envs) db k))
      (h : getRevocationData lib options did req envs db =
        (.ok (some ⟨options.revocationListPath ++ p, i⟩), db')) :
      ConfiguredRun lib (⟨options.revocationListPath, p, i⟩ :: entries) db'
  /-- An allocation that throws, or gives up without an error. -/
  | failed {entries : List Entry} {db db' : Db} {options : PluginOptions} {did : Text}
      {req : Context} {envs : ℕ → AttemptEnv} {out : Except JsError (Option RevocationDataResult)}
      (hrun : ConfiguredRun lib entries db) (henvs : ∀ k, (envs k).env.Lawful)
      (hout : ∀ result, out ≠ .ok (some result))
      (h : getRevocationData lib options did req envs db = (out, db')) :
      ConfiguredRun lib entries db'
  /-- A successful status change. -/
  | setStatus {entries : List Entry} {db db' : Db} {options : PluginOptions} {hash : Text}
      {envs : ℕ → AttemptEnv} {revoked : Bool} (hrun : ConfiguredRun lib entries db)
      (henvs : ∀ k, (envs k).env.Lawful)
      (hop : StatusOp lib options hash envs db revoked db') : ConfiguredRun lib entries db'

/-! ### The invariant -/

/-- **The invariant**: the lists created under a base path are numbered up to the counters of that
base path, and an entry's list is found under its path, bears the `id` the entry names and holds
its index. -/
structure Backed (lib : VcStatusRl2020) (entries : List Entry) (db : Db) : Prop where
  numbered : ∀ {list}, list ∈ db.lists.rows → ∃ path m row,
    list.revocationListFullUrlPath = listPath list.revocationVCIssuer m ∧
      list.verifiableCredential.id = path ++ list.revocationListFullUrlPath ∧
      countersOf db.data path list.revocationVCIssuer = some row ∧ m ≤ row.listCounter
  capacity : ∀ {path did row list}, countersOf db.data path did = some row →
    listOf db.lists did row.listCounter = some list →
    list.verifiableCredential.id = path ++ listPath did row.listCounter →
    HasCapacity lib list.verifiableCredential row.bitStringLength
  entry : ∀ entry ∈ entries, ∃ list,
    db.lists.findOne (ListQuery.accepts ⟨entry.listPath, none⟩) = some list ∧
      list.verifiableCredential.id = entry.basePath ++ entry.listPath ∧
      HasCapacity lib list.verifiableCredential (entry.index + 1)

theorem backed_empty : Backed lib [] Db.empty where
  numbered h := by cases h
  capacity h := by cases h
  entry _ h := by cases h

variable {entries : List Entry}

/-- A list of an issuer that was created under a base path is numbered by its counters. -/
theorem Backed.le_of_id (hb : Backed lib entries db) {m : ℕ} {list : RevocationList}
    (hlist : listOf db.lists did m = some list)
    (hid : list.verifiableCredential.id = path ++ listPath did m) :
    ∃ row, countersOf db.data path did = some row ∧ m ≤ row.listCounter := by
  obtain ⟨hmem, hkey⟩ := Table.lookup_eq_some_iff.1 hlist
  obtain ⟨path', m', row, hpath, hid', hrow, hle⟩ := hb.numbered hmem
  have hp : list.revocationListFullUrlPath = listPath did m :=
    congrArg ListKey.revocationListFullUrlPath hkey
  have hd : list.revocationVCIssuer = did := congrArg ListKey.revocationVCIssuer hkey
  rw [hp, hid, List.append_left_inj] at hid'
  subst hid'
  rw [hd] at hrow hpath
  obtain rfl : m = m' := (listPath_inj.1 (hp.symm.trans hpath)).2
  exact ⟨row, hrow, hle⟩

theorem countersOf_put_of_key_ne {data : Table RevocationData.key} {row : RevocationData}
    {key : DataKey} (hkey : row.key = key) {path' did' : Text} (hne : ⟨path', did'⟩ ≠ key) :
    countersOf (data.put row) path' did' = countersOf data path' did' :=
  Table.lookup_put_of_ne (hkey ▸ hne)

/-- **Saving the next counters keeps the invariant.** -/
theorem Backed.save (hb : Backed lib entries db) (path did : Text) (n : ℕ) :
    Backed lib entries (db.putData (nextData db.data ⟨path, did⟩ n)) := by
  have hkey : (nextData db.data ⟨path, did⟩ n).key = ⟨path, did⟩ := key_nextData _ _ _
  have hlen : (nextData db.data ⟨path, did⟩ n).bitStringLength = n := bitStringLength_nextData _ _ _
  have hcases := nextData_cases db.data path did n
  generalize nextData db.data ⟨path, did⟩ n = row' at hkey hlen hcases ⊢
  constructor
  case numbered =>
      intro list hlist
      obtain ⟨path₀, m, row, hpath, hid, hrow, hle⟩ := hb.numbered hlist
      by_cases hk : (⟨path₀, list.revocationVCIssuer⟩ : DataKey) = ⟨path, did⟩
      · rw [DataKey.mk.injEq] at hk
        obtain ⟨rfl, hd⟩ := hk
        rw [hd] at hrow
        refine ⟨path₀, m, row', hpath, hid, ?_, ?_⟩
        · rw [hd]
          exact countersOf_put_self hkey
        · rcases hcases with ⟨hnone, -⟩ | ⟨row₁, hrow₁, hstep⟩
          · rw [hnone] at hrow
            cases hrow
          · rw [hrow₁, Option.some.injEq] at hrow
            subst hrow
            rcases hstep with hroll | ⟨hstay, -⟩ <;> omega
      · exact ⟨path₀, m, row, hpath, hid, (countersOf_put_of_key_ne hkey hk).trans hrow, hle⟩
  case capacity =>
      intro path₀ did₀ row list hrow hlist hid
      rw [Db.lists_putData] at hlist
      rw [Db.data_putData] at hrow
      by_cases hk : (⟨path₀, did₀⟩ : DataKey) = ⟨path, did⟩
      · rw [DataKey.mk.injEq] at hk
        obtain ⟨rfl, rfl⟩ := hk
        rw [countersOf_put_self hkey, Option.some.injEq] at hrow
        subst hrow
        -- the list was created under this base path, so the counters had reached it
        obtain ⟨row₀, hrow₀, hle⟩ := hb.le_of_id hlist hid
        rcases hcases with ⟨hnone, -⟩ | ⟨row₁, hrow₁, hroll | ⟨hstay, hsame⟩⟩
        · rw [hnone] at hrow₀
          cases hrow₀
        · rw [hrow₁, Option.some.injEq] at hrow₀
          subst hrow₀
          omega
        · rw [hstay] at hlist hid
          rw [hlen, ← hsame]
          exact hb.capacity hrow₁ hlist hid
      · rw [countersOf_put_of_key_ne hkey hk] at hrow
        exact hb.capacity hrow hlist hid
  case entry => exact hb.entry

/-- What a query by path returns once a list is ensured: the list it returned before, or the list
created for an issuer whose path had none. -/
theorem EnsuredList.findOne_path {args : IRevocationListDataArgs} {c : ℕ}
    {lists lists' : Table RevocationList.key}
    (h : EnsuredList lib env (upsertListArgs args did c) lists lists') :
    (∃ list, lists.findOne (ListQuery.accepts ⟨listPath did c, none⟩) = some list) ∨
      ∃ bits vc, lib.createList args.bitStringLength = .ok bits ∧
        Signed lib env (args.revocationListPath ++ listPath did c) args.revocationVCIssuer bits vc ∧
        lists'.findOne (ListQuery.accepts ⟨listPath did c, none⟩) =
          some ⟨listPath did c, did, vc⟩ := by
  cases hfind : lists.findOne (ListQuery.accepts ⟨listPath did c, none⟩) with
  | some list => exact Or.inl ⟨list, rfl⟩
  | none =>
      refine Or.inr ?_
      have haccepts : ListQuery.accepts ⟨listPath did c, none⟩ ⟨listPath did c, did⟩ = true :=
        ListQuery.accepts_path_iff.2 rfl
      cases h with
      | @found row hrow =>
          obtain ⟨hmem, hkey⟩ := Table.lookup_eq_some_iff.1 hrow
          have hno := Table.findOne_eq_none_iff.1 hfind row hmem
          rw [hkey, upsertListArgs, haccepts] at hno
          cases hno
      | @created bits vc _ hcreate hsigned =>
          exact ⟨bits, vc, hcreate, hsigned, Table.findOne_put_of_none hfind haccepts⟩

/-- **Ensuring the list of an entry keeps the invariant**, and the entry is backed. -/
theorem Backed.ensure (hb : Backed lib entries db) (hlib : lib.Lawful) (henv : env.Lawful)
    {row : RevocationData} {req : Context} {lists : Table RevocationList.key}
    (hrow : countersOf db.data path did = some row)
    (hindex : row.indexCounter < row.bitStringLength)
    (hcondition : ∀ list, db.lists.findOne
        (ListQuery.accepts ⟨listPath did row.listCounter, none⟩) = some list →
      list.verifiableCredential.id = path ++ listPath did row.listCounter ∧
      (list.revocationVCIssuer ≠ did →
        HasCapacity lib list.verifiableCredential (row.indexCounter + 1)))
    (hens : EnsuredList lib env (upsertListArgs ⟨path, row.bitStringLength, did, req⟩ did
      row.listCounter) db.lists lists) :
    Backed lib (⟨path, listPath did row.listCounter, row.indexCounter⟩ :: entries)
      ⟨db.data, lists⟩ := by
  constructor
  case numbered =>
      intro list hlist
      cases hens with
      | found => exact hb.numbered hlist
      | created _ _ hsigned =>
          rcases Table.mem_put_iff.1 hlist with rfl | ⟨hold, -⟩
          · exact ⟨path, row.listCounter, row, rfl, (hsigned.encodes henv).id_eq hlib, hrow, le_rfl⟩
          · exact hb.numbered hold
  case capacity =>
      intro path₀ did₀ row₀ list hrow₀ hlist hid
      cases hens with
      | found => exact hb.capacity hrow₀ hlist hid
      | created _ hcreate hsigned =>
          simp only [upsertListArgs, listOf_put] at hlist
          by_cases hk : did₀ = did ∧ row₀.listCounter = row.listCounter
          · rw [if_pos hk, Option.some.injEq] at hlist
            obtain ⟨rfl, hl⟩ := hk
            have hid' := (hsigned.encodes henv).id_eq hlib
            rw [← hlist] at hid ⊢
            -- the new list bears the base path, so these are the counters it was created for
            rw [hl, hid'] at hid
            simp only [upsertListArgs, List.append_left_inj] at hid
            subst hid
            rw [hrow, Option.some.injEq] at hrow₀
            subst hrow₀
            exact (hsigned.encodes henv).hasCapacity hlib (hlib.createList_ok hcreate).1
          · rw [if_neg hk] at hlist
            exact hb.capacity hrow₀ hlist hid
  case entry =>
      intro entry hmem
      rcases List.mem_cons.1 hmem with rfl | hold
      · rcases hens.findOne_path with ⟨list, hlist⟩ | ⟨bits, vc, hcreate, hsigned, hnew⟩
        · obtain ⟨hid, hother⟩ := hcondition list hlist
          refine ⟨list, hens.findOne_kept hlist, hid, ?_⟩
          by_cases hd : list.revocationVCIssuer = did
          · have hpath : list.revocationListFullUrlPath = listPath did row.listCounter :=
              ListQuery.accepts_path_iff.1 (Table.key_of_findOne hlist)
            have hown : listOf db.lists did row.listCounter = some list :=
              Table.lookup_eq_some_iff.2
                ⟨Table.mem_of_findOne hlist, by rw [RevocationList.key, hpath, hd]⟩
            obtain ⟨bits, hbits, hcap⟩ := hb.capacity hrow hown hid
            exact ⟨bits, hbits, hindex.trans_le hcap⟩
          · exact hother hd
        · refine ⟨_, hnew, (hsigned.encodes henv).id_eq hlib, ?_⟩
          have hlen : row.bitStringLength ≤ bits.length := (hlib.createList_ok hcreate).1
          exact (hsigned.encodes henv).hasCapacity hlib (hindex.trans_le hlen)
      · obtain ⟨list, hlist, hid, hcap⟩ := hb.entry entry hold
        exact ⟨list, hens.findOne_kept hlist, hid, hcap⟩

/-- **A status change keeps the invariant.** -/
theorem Backed.setStatus (hb : Backed lib entries db) (hlib : lib.Lawful) (henv : env.Lawful)
    {options : PluginOptions} {hash : Text} {revoked : Bool}
    (h : SetStatusEnd lib env options revoked hash db (.ok (), db')) : Backed lib entries db' := by
  obtain ⟨row, vc, hmem, hvc, rfl⟩ := h.resigned hlib henv
  constructor
  case numbered =>
      intro list hlist
      rcases Table.mem_put_iff.1 hlist with rfl | ⟨hold, -⟩
      · obtain ⟨path, m, data, hpath, hid, hdata, hle⟩ := hb.numbered hmem
        exact ⟨path, m, data, hpath, hvc.id_eq.trans hid, hdata, hle⟩
      · exact hb.numbered hold
  case capacity =>
      intro path did data list hdata hlist hid
      rw [Db.lists_putList] at hlist
      rcases listOf_resigned vc hmem did data.listCounter with heq | ⟨hold, hnew⟩
      · rw [heq] at hlist
        exact hb.capacity hdata hlist hid
      · rw [hnew, Option.some.injEq] at hlist
        subst hlist
        exact hvc.hasCapacity (hb.capacity hdata hold (hvc.id_eq.symm.trans hid))
  case entry =>
      intro entry hentry
      obtain ⟨list, hlist, hid, hcap⟩ := hb.entry entry hentry
      by_cases hk : list.key = row.key
      · obtain rfl := db.lists.eq_of_key_eq (Table.mem_of_findOne hlist) hmem hk
        exact ⟨_, Table.findOne_put_self hlist rfl, hvc.id_eq.trans hid, hvc.hasCapacity hcap⟩
      · exact ⟨list, Table.findOne_put_of_ne hlist hk, hid, hcap⟩

/-- **The invariant holds after every run.** -/
theorem ConfiguredRun.backed (hlib : lib.Lawful) (hrun : ConfiguredRun lib entries db) :
    Backed lib entries db := by
  induction hrun with
  | start => exact backed_empty
  | @issued entries db db' options did p i req envs _ henvs hcondition h ih =>
      obtain ⟨k, hbefore, hcall, hend⟩ := getRevocationData_ok h
      have hown := hcondition k _ _ hbefore hcall
      have hb := leftBy_issue_induction (Backed lib entries) henvs ih
        (fun _ hb => hb.save _ _ _) hbefore
      generalize leftBy (attemptOf (getRevocationDataTransaction lib options did req) envs) db k =
        dbk at hown hb hend
      generalize hresult : (⟨options.revocationListPath ++ p, i⟩ : RevocationDataResult) = result
        at hend
      cases hend with
      | @issued did' row lists _ hlen hdid hrow hens =>
          obtain rfl := (henvs k).didManagerGet_ok hdid
          rw [RevocationDataResult.mk.injEq, List.append_right_inj] at hresult
          obtain ⟨rfl, rfl⟩ := hresult
          have hlen' : row.bitStringLength = options.bitStringLength := by
            rw [hrow]
            exact bitStringLength_nextData _ _ _
          have hindex : row.indexCounter < row.bitStringLength := by
            rw [hlen', hrow]
            exact indexCounter_nextData_lt _ _ hlen
          have hcounters : countersOf (dbk.data.put row) options.revocationListPath did' =
              some row := by
            rw [hrow]
            exact countersOf_put_self (key_nextData _ _ _)
          have hsaved := hb.save options.revocationListPath did' options.bitStringLength
          rw [← hrow] at hsaved
          rw [BackedByOwn, upcoming, ← hrow] at hown
          rw [← hlen'] at hens
          exact hsaved.ensure hlib (henvs k) hcounters hindex hown hens
  | failed _ henvs hout h ih =>
      obtain ⟨k, hbefore, rfl⟩ := getRevocationData_failed h hout
      exact leftBy_issue_induction (Backed lib _) henvs ih (fun _ hb => hb.save _ _ _) hbefore
  | setStatus _ henvs hop ih =>
      obtain ⟨k, hend⟩ := hop.effect
      exact ih.setStatus hlib (henvs k) hend

/-! ### The bits of different entries -/

/-- The bit of an entry. -/
def entryBit (lib : VcStatusRl2020) (db : Db) (entry : Entry) : Option Bool :=
  storedBit lib db.lists entry.listPath entry.index

/-- The index of every entry lies within the list it is backed by. -/
theorem Backed.isSome_entryBit (hb : Backed lib entries db) {entry : Entry}
    (hentry : entry ∈ entries) : (entryBit lib db entry).isSome := by
  obtain ⟨list, hlist, -, hcap⟩ := hb.entry entry hentry
  rw [entryBit, storedBit, hlist, Option.bind_some]
  exact hcap.isSome_getBit (Nat.lt_succ_self _)

/-- Entries that differ as returned are backed by different bits. -/
theorem Backed.position_ne (hb : Backed lib entries db) {entry entry' : Entry}
    (hentry : entry ∈ entries) (hentry' : entry' ∈ entries) (hne : entry.result ≠ entry'.result) :
    (entry.listPath, entry.index) ≠ (entry'.listPath, entry'.index) := by
  obtain ⟨list, hlist, hid, -⟩ := hb.entry entry hentry
  obtain ⟨list', hlist', hid', -⟩ := hb.entry entry' hentry'
  intro heq
  rw [Prod.mk.injEq] at heq
  -- one path finds one list, and its `id` gives the base path of both
  rw [heq.1, hlist', Option.some.injEq] at hlist
  subst hlist
  rw [hid', heq.1] at hid
  exact hne (by rw [Entry.result, Entry.result, heq.1, heq.2, hid])

/-- A status change of an entry writes the bit of that entry, when the plugin cuts the entry's
list path out of its `id`. -/
theorem StatusOp.entryBit_kept (hlib : lib.Lawful) {options : PluginOptions} {hash : Text}
    {envs : ℕ → AttemptEnv} {revoked : Bool} {credential : Credential} {entry entry' : Entry}
    (henvs : ∀ k, (envs k).env.Lawful)
    (hcredential : ∀ k found,
      (envs k).env.dataStoreGetVerifiableCredential hash = .ok (some found) → found = credential)
    (hstatus : credential.credentialStatus = some (credentialStatusOf entry.result))
    (hsplit : splitStatusId options.revocationListPath credential = .ok (some entry.listPath))
    (hop : StatusOp lib options hash envs db revoked db')
    (hne : (entry.listPath, entry.index) ≠ (entry'.listPath, entry'.index))
    (hsome : (entryBit lib db entry').isSome) :
    entryBit lib db' entry' = entryBit lib db entry' := by
  obtain ⟨k, hend⟩ := hop.effect
  obtain ⟨found, position, hfound, hposition, hbits⟩ := hend.bitWritten hlib (henvs k)
  obtain rfl := hcredential k found hfound
  have hindex : found.revocationListIndex = some entry.index := by
    rw [Credential.revocationListIndex, hstatus]
    rfl
  have hown : position = (entry.listPath, entry.index) := by
    rw [statusPosition, revocationListFullUrlPathOf, hsplit, hindex] at hposition
    cases hp : entry.listPath with
    | nil => simp [hp] at hposition
    | cons c s => simpa [hp] using hposition.symm
  obtain ⟨b, hb⟩ := Option.isSome_iff_exists.1 hsome
  rw [hb]
  exact hbits.kept (hown ▸ hne.symm) hb

/-- **Different entries are backed by different bits.**  In every state that calls of plugins with
any options reach, when every allocation met the condition: two entries that differ as returned
have different positions; the index of each lies within its list; and revoking or activating a
credential with one of them changes the bit of no other, when the plugin cuts the entry's own list
path out of its `id`. -/
theorem reconfigured_bits (hlib : lib.Lawful) (hrun : ConfiguredRun lib entries db) :
    (∀ entry ∈ entries, ∀ entry' ∈ entries, entry.result ≠ entry'.result →
      (entry.listPath, entry.index) ≠ (entry'.listPath, entry'.index)) ∧
    (∀ entry ∈ entries, (entryBit lib db entry).isSome) ∧
    (∀ entry ∈ entries, ∀ entry' ∈ entries, entry.result ≠ entry'.result →
      ∀ (options : PluginOptions) (hash : Text) (envs : ℕ → AttemptEnv) (revoked : Bool)
        (credential : Credential) (db' : Db), (∀ k, (envs k).env.Lawful) →
      (∀ k found, (envs k).env.dataStoreGetVerifiableCredential hash = .ok (some found) →
        found = credential) →
      credential.credentialStatus = some (credentialStatusOf entry.result) →
      splitStatusId options.revocationListPath credential = .ok (some entry.listPath) →
      StatusOp lib options hash envs db revoked db' →
      entryBit lib db' entry' = entryBit lib db entry') := by
  have hb := hrun.backed hlib
  refine ⟨fun _ h _ h' hne => hb.position_ne h h' hne, fun _ h => hb.isSome_entryBit h, ?_⟩
  intro entry hentry entry' hentry' hne options hash envs revoked credential db' henvs hcredential
    hstatus hsplit hop
  exact hop.entryBit_kept hlib henvs hcredential hstatus hsplit
    (hb.position_ne hentry hentry' hne) (hb.isSome_entryBit hentry')

/-- When the first attempt returns, the condition is about the tables the call finds. -/
theorem condition_of_first {options : PluginOptions} {req : Context} {envs : ℕ → AttemptEnv}
    {first : RevocationDataResult}
    (hfirst : (attemptOf (getRevocationDataTransaction lib options did req) envs 0).callback db =
      (.ok first, db')) (hcondition : BackedByOwn lib options did db) :
    ∀ k result s',
      SwallowedUpTo (attemptOf (getRevocationDataTransaction lib options did req) envs) db k →
      (attemptOf (getRevocationDataTransaction lib options did req) envs k).callback
        (leftBy (attemptOf (getRevocationDataTransaction lib options did req) envs) db k) =
          (.ok result, s') →
      BackedByOwn lib options did
        (leftBy (attemptOf (getRevocationDataTransaction lib options did req) envs) db k) := by
  intro k result s' hbefore _
  cases k with
  | zero => exact hcondition
  | succ k =>
      obtain ⟨e, s, hrun, -, -⟩ := hbefore 0 (Nat.succ_pos k)
      rw [leftBy, hfirst] at hrun
      cases hrun

/-! ### Two base paths -/

/-- Another base path. -/
def otherPath : Text := "https://i".toList

/-- The plugin after it is given the other base path. -/
def otherOptions : PluginOptions := ⟨otherPath, 2⟩

/-- The tables after an entry of one issuer under one base path, and an entry of another issuer
under the other. -/
def configuredIssued : Db :=
  (getRevocationData plainLib otherOptions colonDid ⟨true⟩ collidingEnvs plainIssued).2

/-- The tables after the credential of the first issuer is revoked. -/
def configuredRevoked : Db :=
  (revokeCredential plainLib plainOptions plainHash ⟨true⟩ plainEnvs configuredIssued).2

/-- The revocation of the first issuer's credential leaves the other entry's bit alone. -/
theorem reconfigured_bits_plain :
    entryBit plainLib configuredRevoked ⟨otherPath, listPath colonDid 0, 0⟩ =
      entryBit plainLib configuredIssued ⟨otherPath, listPath colonDid 0, 0⟩ := by
  have hcolliding : ∀ k, (collidingEnvs k).env.Lawful := fun _ => plainEnv_lawful _ _
  have hfirst : BackedByOwn plainLib plainOptions plainDid Db.empty := by
    intro list hlist
    cases hlist
  have hsecond : BackedByOwn plainLib otherOptions colonDid plainIssued := by
    intro list hlist
    have hnone : plainIssued.lists.findOne (ListQuery.accepts
        ⟨listPath colonDid (upcoming otherOptions colonDid plainIssued).listCounter, none⟩) =
          none := by decide +kernel
    rw [hnone] at hlist
    cases hlist
  have hcall₁ : getRevocationData plainLib plainOptions plainDid ⟨true⟩ plainEnvs Db.empty =
      (.ok (some ⟨plainPath ++ listPath plainDid 0, 0⟩), plainIssued) := rfl
  have hcall₂ : getRevocationData plainLib otherOptions colonDid ⟨true⟩ collidingEnvs plainIssued =
      (.ok (some ⟨otherPath ++ listPath colonDid 0, 0⟩), configuredIssued) := rfl
  have hcall₃ : callTransaction (revokeCredentialTransaction plainLib plainOptions plainHash ⟨true⟩)
      plainEnvs configuredIssued = (.ok (some ()), configuredRevoked) := rfl
  have hattempt₁ : (attemptOf (getRevocationDataTransaction plainLib plainOptions plainDid ⟨true⟩)
      plainEnvs 0).callback Db.empty =
        (.ok ⟨plainPath ++ listPath plainDid 0, 0⟩, plainIssued) := rfl
  have hattempt₂ : (attemptOf (getRevocationDataTransaction plainLib otherOptions colonDid ⟨true⟩)
      collidingEnvs 0).callback plainIssued =
        (.ok ⟨otherPath ++ listPath colonDid 0, 0⟩, configuredIssued) := rfl
  have hrun₁ : ConfiguredRun plainLib [⟨plainPath, listPath plainDid 0, 0⟩] plainIssued :=
    ConfiguredRun.issued ConfiguredRun.start plainEnvs_lawful
      (condition_of_first hattempt₁ hfirst) hcall₁
  have hrun₂ : ConfiguredRun plainLib
      [⟨otherPath, listPath colonDid 0, 0⟩, ⟨plainPath, listPath plainDid 0, 0⟩] configuredIssued :=
    ConfiguredRun.issued hrun₁ hcolliding (condition_of_first hattempt₂ hsecond) hcall₂
  have hrevoke : StatusOp plainLib plainOptions plainHash plainEnvs configuredIssued true
      configuredRevoked := StatusOp.revokeCredential hcall₃
  refine (reconfigured_bits plainLib_lawful hrun₂).2.2 ⟨plainPath, listPath plainDid 0, 0⟩ ?_
    ⟨otherPath, listPath colonDid 0, 0⟩ ?_ ?_ plainOptions plainHash plainEnvs true plainCredential
    configuredRevoked plainEnvs_lawful ?_ rfl ?_ hrevoke
  · decide
  · decide
  · decide
  · intro k found h
    cases h
    rfl
  · decide +kernel

/-- The tables after the same issuer is handed out an entry under each base path. -/
def reconfiguredIssued : Db :=
  (getRevocationData plainLib otherOptions plainDid ⟨true⟩ plainEnvs plainIssued).2

/-- The tables after the credential with the first of them is revoked. -/
def reconfiguredRevoked : Db :=
  (revokeCredential plainLib plainOptions plainHash ⟨true⟩ plainEnvs reconfiguredIssued).2

/-- An allocation under the other base path, for lists of sixteen bits. -/
def allocateLonger (db : Db) : Except JsError (Option RevocationDataResult) × Db :=
  getRevocationData plainLib ⟨otherPath, 16⟩ plainDid ⟨true⟩ plainEnvs db

/-- The tables when the lists had eight bits under the first base path, and eight entries are handed
out under the other. -/
def reconfiguredLonger : Db :=
  (fun db => (allocateLonger db).2)^[8]
    (getRevocationData plainLib ⟨plainPath, 8⟩ plainDid ⟨true⟩ plainEnvs Db.empty).2

/-- **One issuer under two base paths**: the entries differ, the bit is the same one, and revoking
the credential with the first entry sets the bit of the second.  With lists of eight bits under the
first base path and of sixteen under the other, the ninth entry handed out there is backed by no bit
at all. -/
theorem reconfigured_collision :
    (getRevocationData plainLib plainOptions plainDid ⟨true⟩ plainEnvs Db.empty).1 =
      .ok (some (Entry.result ⟨plainPath, listPath plainDid 0, 0⟩)) ∧
    (getRevocationData plainLib otherOptions plainDid ⟨true⟩ plainEnvs plainIssued).1 =
      .ok (some (Entry.result ⟨otherPath, listPath plainDid 0, 0⟩)) ∧
    Entry.result ⟨plainPath, listPath plainDid 0, 0⟩ ≠
      Entry.result ⟨otherPath, listPath plainDid 0, 0⟩ ∧
    (revokeCredential plainLib plainOptions plainHash ⟨true⟩ plainEnvs reconfiguredIssued).1 =
      .ok ⟨true⟩ ∧
    entryBit plainLib reconfiguredIssued ⟨otherPath, listPath plainDid 0, 0⟩ = some false ∧
    entryBit plainLib reconfiguredRevoked ⟨otherPath, listPath plainDid 0, 0⟩ = some true ∧
    (allocateLonger reconfiguredLonger).1 =
      .ok (some (Entry.result ⟨otherPath, listPath plainDid 0, 8⟩)) ∧
    entryBit plainLib (allocateLonger reconfiguredLonger).2
      ⟨otherPath, listPath plainDid 0, 8⟩ = none := by
  decide +kernel

end Revocation
