/-
**The plugin as a registry of status entries.**

Calls of the plugin run one after the other, for any managed issuers, each with an agent, a list
length and failures of its own.  Seen from outside, the tables are a registry: a successful
allocation hands out an entry that nobody has, a committed change revokes an entry that is active
or activates one that is revoked, and a call that fails or gives up does nothing.  The entry is the
position it points at, the path of a list and an index in it; it is revoked when the bit there is
set.

The issuers are told apart by their paths, the library pads what it encodes with zeros, and a
check that resolves has read the bit of the list that the credential names.

Main definitions:

* `Revocation.RegistryCall`, `Revocation.Called` — calls with the way they ended, and what they do;
* `Revocation.seen` — what a call does to the registry;
* `Revocation.IssuersLists`, `Revocation.Refines` — the invariant, and when tables stand for a
  registry.

Main results:

* `Revocation.Refines.save`, `Revocation.Refines.hand`, `Revocation.Refines.change` — the step
  lemmas;
* `Revocation.called_forward` — **every call is answered by the registry**;
* `Revocation.registry_refined` — the registry after a run of calls;
* `Revocation.statuses_alternate` — **the committed changes of an entry alternate**, and its bit is
  the last of them.
-/

import Vckit.PathCollision
import Vckit.StatusGuard
import Vckit.StatusRegistry

set_option relaxedAutoImplicit false
set_option autoImplicit false

namespace Revocation

open StatusRegistry (Registry Act)

variable {lib : VcStatusRl2020} {env : Env} {path did : Text} {managed : Text → Prop} {db : Db}

/-! ### The library's padding -/

/-- The library pads with zeros what it encodes. -/
def VcStatusRl2020.ZeroPadded (lib : VcStatusRl2020) : Prop :=
  ∀ {id list credential decoded}, lib.createCredential id list = .ok credential →
    lib.decodeList credential.encodedList = .ok decoded →
    ∀ i, list.length ≤ i → decoded[i]? ≠ some true

/-- A bit that is set in a signed list is set in the list it was made of. -/
theorem Encodes.of_getBit_true (hlib : lib.Lawful) (hpad : lib.ZeroPadded) {id issuer : Text}
    {list : RevocationList2020} {vc : ListCredential} (h : Encodes lib id issuer list vc) {i : ℕ}
    (hbit : Revocation.getBit lib vc i = some true) : list[i]? = some true := by
  by_cases hi : i < list.length
  · rw [h.getBit hlib hi] at hbit
    rw [List.getElem?_eq_getElem hi, hbit]
  · obtain ⟨credential, hcreate, rfl⟩ := h
    obtain ⟨-, decoded, hdecode, -⟩ := hlib.createCredential_ok hcreate
    rw [Revocation.getBit, hdecode] at hbit
    exact absurd hbit (hpad hcreate hdecode i (not_lt.1 hi))

/-! ### Calls -/

/-- A call of the plugin, and how it ended.  A call that gives up resolves without a result; the
methods that set a status then resolve all the same. -/
inductive RegistryCall where
  | getRevocationData (revocationVCIssuer : Text)
      (out : Except JsError (Option RevocationDataResult))
  | setStatus (credential : Credential) (revoked : Bool) (out : Except JsError (Option Unit))

/-- The transaction of `revokeCredential` or of `activateCredential`. -/
def statusTransaction (lib : VcStatusRl2020) (options : PluginOptions) (hash : Text)
    (context : Context) : Bool → StoreM Unit
  | true => revokeCredentialTransaction lib options hash context
  | false => activateCredentialTransaction lib options hash context

/-- **One call**, and the tables after it.  An allocation may ask for any issuer; the agent resolves
those it manages.  The credential of a status change is the one that is stored under the hash, and
its entry names one list, as the entries do that the middleware writes; it need not have been handed
out. -/
inductive Called (lib : VcStatusRl2020) (path : Text) (managed : Text → Prop) :
    Db → RegistryCall → Db → Prop
  | getRevocationData {db db' : Db} {n : ℕ} {did : Text} {req : Context} {envs : ℕ → AttemptEnv}
      {out : Except JsError (Option RevocationDataResult)} (henvs : ∀ k, (envs k).env.Lawful)
      (hmanaged : ∀ k i, (envs k).env.didManagerGet did = .ok i → managed did)
      (h : getRevocationData lib ⟨path, n⟩ did req envs db = (out, db')) :
      Called lib path managed db (.getRevocationData did out) db'
  | setStatus {db db' : Db} {n : ℕ} {hash : Text} {context : Context} {envs : ℕ → AttemptEnv}
      {credential : Credential} {revoked : Bool} {out : Except JsError (Option Unit)}
      (henvs : ∀ k, (envs k).env.Lawful)
      (hchecks : ∀ k, ChecksList lib path (envs k).env db credential)
      (hcredential : ∀ k found,
        (envs k).env.dataStoreGetVerifiableCredential hash = .ok (some found) →
        found = credential)
      (hserved : ∀ entry, credential.credentialStatus = some entry → ServedEntry path entry)
      (h : callTransaction (statusTransaction lib ⟨path, n⟩ hash context revoked) envs db =
        (out, db')) : Called lib path managed db (.setStatus credential revoked out) db'

/-- The position that an entry points at. -/
def entryPosition (path : Text) (result : RevocationDataResult) : Text × ℕ :=
  (result.revocationListFullUrl.drop path.length, result.indexCounter)

@[simp] theorem entryPosition_listPath (path did : Text) (m i : ℕ) :
    entryPosition path ⟨path ++ listPath did m, i⟩ = (listPath did m, i) := by
  simp [entryPosition]

/-- What a call does to the registry. -/
def seen (path : Text) : RegistryCall → Option (Act (Text × ℕ))
  | .getRevocationData _ (.ok (some result)) => some (.hand (entryPosition path result))
  | .setStatus credential revoked (.ok (some ())) =>
      (statusPosition path credential).map fun position => .change position revoked
  | _ => none

/-! ### The lists of the managed issuers -/

/-- **Every list is one of a managed issuer**, numbered up to the issuer's list counter, with a
credential that names it, and the current one has room for the length in force. -/
structure IssuersLists (lib : VcStatusRl2020) (path : Text) (managed : Text → Prop) (db : Db) :
    Prop where
  managed_issuer : ∀ {list}, list ∈ db.lists.rows → managed list.revocationVCIssuer
  numbered : ∀ {list}, list ∈ db.lists.rows → ∃ m row,
    list.revocationListFullUrlPath = listPath list.revocationVCIssuer m ∧
      countersOf db.data path list.revocationVCIssuer = some row ∧ m ≤ row.listCounter
  capacity : ∀ {did row list}, countersOf db.data path did = some row →
    listOf db.lists did row.listCounter = some list →
    HasCapacity lib list.verifiableCredential row.bitStringLength
  named : ∀ {list}, list ∈ db.lists.rows → ListNamed path list

theorem issuersLists_empty : IssuersLists lib path managed Db.empty where
  managed_issuer h := by cases h
  numbered h := by cases h
  capacity h := by cases h
  named h := by cases h

/-- A list of an issuer has a number that the counters have reached. -/
theorem IssuersLists.le_of_listOf (hown : IssuersLists lib path managed db) {m : ℕ}
    {list : RevocationList} (h : listOf db.lists did m = some list) :
    ∃ row, countersOf db.data path did = some row ∧ m ≤ row.listCounter := by
  obtain ⟨hmem, hkey⟩ := Table.lookup_eq_some_iff.1 h
  obtain ⟨m', row, hpath, hrow, hle⟩ := hown.numbered hmem
  rw [RevocationList.key, ListKey.mk.injEq] at hkey
  rw [hkey.2] at hrow hpath
  obtain rfl : m = m' := (listPath_inj.1 (hkey.1.symm.trans hpath)).2
  exact ⟨row, hrow, hle⟩

/-- When the paths of managed issuers differ, a list found by a path of an issuer is the issuer's
own. -/
theorem IssuersLists.findOne_listPath (hown : IssuersLists lib path managed db)
    (hsep : ∀ did did', managed did → managed did' → did ≠ did' → ¬SamePath did did')
    (hdid : managed did) (m : ℕ) :
    db.lists.findOne (ListQuery.accepts ⟨listPath did m, none⟩) = listOf db.lists did m := by
  rw [listOf, ← findOne_accepts_issuer]
  refine Table.findOne_congr ?_
  intro list hlist
  obtain ⟨m', -, hpath, -, -⟩ := hown.numbered hlist
  by_cases hissuer : list.revocationVCIssuer = did
  · simp [ListQuery.accepts, RevocationList.key, hissuer]
  · have hne := listPath_ne_iff.2
      (hsep _ _ (hown.managed_issuer hlist) hdid hissuer) m' m
    simp [ListQuery.accepts, RevocationList.key, hpath, hne]

/-! ### Tables that stand for a registry -/

/-- **The tables stand for a registry**: an entry is revoked when its bit is set, and the entries
handed out have a bit and are not ahead of the counters of their issuer. -/
structure Refines (lib : VcStatusRl2020) (path : Text) (managed : Text → Prop) (db : Db)
    (registry : Registry (Text × ℕ)) : Prop where
  own : IssuersLists lib path managed db
  revoked_iff : ∀ position, position ∈ registry.revoked ↔
    storedBit lib db.lists position.1 position.2 = some true
  stored : ∀ {position}, position ∈ registry.handed →
    (storedBit lib db.lists position.1 position.2).isSome
  reached : ∀ {position}, position ∈ registry.handed → ∃ did m row, managed did ∧
    position.1 = listPath did m ∧ countersOf db.data path did = some row ∧
      toLex (m, position.2) ≤ toLex row.counters

theorem refines_empty : Refines lib path managed Db.empty Registry.empty where
  own := issuersLists_empty
  revoked_iff := by
    intro position
    constructor <;> rintro ⟨⟩
  stored h := by cases h
  reached h := by cases h

variable {registry : Registry (Text × ℕ)}

/-- An allocation's counters come after the ones it found, and other issuers keep theirs. -/
theorem countersOf_save {did' : Text} (did : Text) (n : ℕ) {row : RevocationData}
    (hrow : countersOf db.data path did' = some row) :
    ∃ row', countersOf (db.putData (nextData db.data ⟨path, did⟩ n)).data path did' = some row' ∧
      toLex row.counters ≤ toLex row'.counters ∧ row.listCounter ≤ row'.listCounter := by
  by_cases hd : did' = did
  · subst hd
    have hlater := later_nextData n hrow
    refine ⟨_, countersOf_put_self (key_nextData _ _ _), hlater.lt.le, ?_⟩
    rcases hlater with h | ⟨h, -, -⟩ <;> omega
  · exact ⟨row, (countersOf_put_of_ne (key_nextData _ _ _) hd).trans hrow, le_rfl, le_rfl⟩

/-- **Saving the next counters changes nothing** that the registry knows. -/
theorem Refines.save (h : Refines lib path managed db registry) (did : Text) (n : ℕ) :
    Refines lib path managed (db.putData (nextData db.data ⟨path, did⟩ n)) registry where
  own := by
    constructor
    case managed_issuer => exact h.own.managed_issuer
    case numbered =>
        intro list hlist
        obtain ⟨m, row, hpath, hrow, hle⟩ := h.own.numbered hlist
        obtain ⟨row', hrow', -, hle'⟩ := countersOf_save did n hrow
        exact ⟨m, row', hpath, hrow', hle.trans hle'⟩
    case capacity =>
        intro did' row' list hrow' hlist
        rw [Db.lists_putData] at hlist
        by_cases hd : did' = did
        · subst hd
          rw [Db.data_putData, countersOf_put_self (key_nextData _ _ _), Option.some.injEq] at hrow'
          subst hrow'
          -- the list is there already, so the counters have not moved on from it
          obtain ⟨row, hrow, hle⟩ := h.own.le_of_listOf hlist
          rcases nextData_cases db.data path did' n with ⟨hnone, -⟩ | ⟨row₂, hrow₂, hnext⟩
          · rw [hnone] at hrow
            cases hrow
          · rw [hrow, Option.some.injEq] at hrow₂
            subst hrow₂
            rcases hnext with hroll | ⟨hstay, hsame⟩
            · omega
            · rw [hstay] at hlist
              rw [bitStringLength_nextData, ← hsame]
              exact h.own.capacity hrow hlist
        · rw [Db.data_putData, countersOf_put_of_ne (key_nextData _ _ _) hd] at hrow'
          exact h.own.capacity hrow' hlist
    case named => exact h.own.named
  revoked_iff := h.revoked_iff
  stored := h.stored
  reached := by
    intro position hposition
    obtain ⟨did', m, row, hdid', hpath, hrow, hle⟩ := h.reached hposition
    obtain ⟨row', hrow', hle', -⟩ := countersOf_save did n hrow
    exact ⟨did', m, row', hdid', hpath, hrow', hle.trans hle'⟩

/-- The entry an allocation is about to hand out is new. -/
theorem Refines.not_handed (h : Refines lib path managed db registry)
    (hsep : ∀ did did', managed did → managed did' → did ≠ did' → ¬SamePath did did')
    (hdid : managed did) (n : ℕ) :
    (listPath did (nextData db.data ⟨path, did⟩ n).listCounter,
      (nextData db.data ⟨path, did⟩ n).indexCounter) ∉ registry.handed := by
  intro hmem
  obtain ⟨did', m, row, hdid', hpath, hrow, hle⟩ := h.reached hmem
  obtain rfl : did = did' := by
    by_contra hne
    exact listPath_ne_iff.2 (hsep _ _ hdid hdid' hne) _ _ hpath
  rw [← (listPath_inj.1 hpath).2] at hle
  exact absurd (later_nextData n hrow).lt (not_lt.2 hle)

/-- The lists after the list of the current counters is ensured. -/
theorem IssuersLists.ensure (hown : IssuersLists lib path managed db) (hlib : lib.Lawful)
    (henv : env.Lawful) (hdid : managed did) {row : RevocationData} {req : Context}
    {lists : Table RevocationList.key} (hrow : countersOf db.data path did = some row)
    (hens : EnsuredList lib env (upsertListArgs ⟨path, row.bitStringLength, did, req⟩ did
      row.listCounter) db.lists lists) :
    IssuersLists lib path managed ⟨db.data, lists⟩ := by
  cases hens with
  | found => exact hown
  | created _ hcreate hsigned =>
      constructor
      case managed_issuer =>
          intro list hlist
          rcases Table.mem_put_iff.1 hlist with rfl | ⟨hold, -⟩
          · exact hdid
          · exact hown.managed_issuer hold
      case numbered =>
          intro list hlist
          rcases Table.mem_put_iff.1 hlist with rfl | ⟨hold, -⟩
          · exact ⟨row.listCounter, row, rfl, hrow, le_rfl⟩
          · exact hown.numbered hold
      case capacity =>
          intro did' row' list hrow' hlist
          simp only [upsertListArgs, listOf_put] at hlist
          by_cases hk : did' = did ∧ row'.listCounter = row.listCounter
          · rw [if_pos hk, Option.some.injEq] at hlist
            rw [hk.1, hrow, Option.some.injEq] at hrow'
            subst hrow'
            rw [← hlist]
            exact (hsigned.encodes henv).hasCapacity hlib (hlib.createList_ok hcreate).1
          · rw [if_neg hk] at hlist
            exact hown.capacity hrow' hlist
      case named =>
          intro list hlist
          rcases Table.mem_put_iff.1 hlist with rfl | ⟨hold, -⟩
          · exact ⟨⟨_, rfl⟩, (hsigned.encodes henv).id_eq hlib, (hsigned.encodes henv).issuer_eq⟩
          · exact hown.named hold

/-- **A list that is ensured sets no bit.** -/
theorem storedBit_ensured (hown : IssuersLists lib path managed db)
    (hsep : ∀ did did', managed did → managed did' → did ≠ did' → ¬SamePath did did')
    (hlib : lib.Lawful) (hpad : lib.ZeroPadded) (henv : env.Lawful) (hdid : managed did)
    {args : IRevocationListDataArgs} {c : ℕ} {lists : Table RevocationList.key}
    (hens : EnsuredList lib env (upsertListArgs args did c) db.lists lists) {p : Text} {i : ℕ} :
    storedBit lib lists p i = some true ↔ storedBit lib db.lists p i = some true := by
  refine ⟨fun hbit => ?_, hens.storedBit_kept⟩
  cases hens with
  | found => exact hbit
  | @created bits vc hnone hcreate hsigned =>
      by_cases hp : p = listPath did c
      · -- the new list is found, and all its bits are zero
        subst hp
        have hbefore : db.lists.findOne (ListQuery.accepts ⟨listPath did c, none⟩) = none :=
          (hown.findOne_listPath hsep hdid c).trans hnone
        rw [storedBit, Table.findOne_put_of_none hbefore (ListQuery.accepts_path_iff.2 rfl),
          Option.bind_some] at hbit
        have htrue := (hsigned.encodes henv).of_getBit_true hlib hpad hbit
        have hzero := (hlib.createList_ok hcreate).2 true (List.mem_of_getElem? htrue)
        cases hzero
      · have hfalse : ListQuery.accepts ⟨p, none⟩
            (RevocationList.key ⟨listPath did c, did, vc⟩) = false := by
          rw [Bool.eq_false_iff, ne_eq, ListQuery.accepts_path_iff]
          exact fun heq => hp heq.symm
        rw [storedBit, upsertListArgs, Table.findOne_put_of_false hfalse] at hbit
        exact hbit

/-- **An allocation hands out the entry of its counters.** -/
theorem Refines.hand (h : Refines lib path managed db registry)
    (hsep : ∀ did did', managed did → managed did' → did ≠ did' → ¬SamePath did did')
    (hlib : lib.Lawful) (hpad : lib.ZeroPadded) (henv : env.Lawful) (hdid : managed did)
    {row : RevocationData} {req : Context} {lists : Table RevocationList.key}
    (hrow : countersOf db.data path did = some row)
    (hindex : row.indexCounter < row.bitStringLength)
    (hens : EnsuredList lib env (upsertListArgs ⟨path, row.bitStringLength, did, req⟩ did
      row.listCounter) db.lists lists) :
    Refines lib path managed ⟨db.data, lists⟩
      { registry with
        handed := insert (listPath did row.listCounter, row.indexCounter) registry.handed } := by
  have hown := h.own.ensure hlib henv hdid hrow hens
  constructor
  case own => exact hown
  case revoked_iff =>
      intro position
      rw [storedBit_ensured h.own hsep hlib hpad henv hdid hens]
      exact h.revoked_iff position
  case stored =>
      rintro position (rfl | hold)
      · obtain ⟨list, hlist⟩ := hens.exists_iff.2 (Or.inr ⟨rfl, rfl⟩)
        have hcap := hown.capacity hrow hlist
        have hfound := hown.findOne_listPath hsep hdid row.listCounter
        dsimp only at hfound ⊢
        rw [storedBit, hfound, hlist]
        exact hcap.isSome_getBit hindex
      · obtain ⟨bit, hbit⟩ := Option.isSome_iff_exists.1 (h.stored hold)
        rw [hens.storedBit_kept hbit]
        rfl
  case reached =>
      rintro position (rfl | hold)
      · exact ⟨did, row.listCounter, row, hdid, rfl, hrow, le_rfl⟩
      · exact h.reached hold

/-! ### A committed change -/

/-- A bit that is set after a list was signed again was set before, or is the one written. -/
theorem of_storedBit_resigned (hlib : lib.Lawful) (hpad : lib.ZeroPadded)
    {lists : Table RevocationList.key} {path : Text} {row : RevocationList} {vc : ListCredential}
    {decoded list : RevocationList2020} {j : ℕ} {revoked : Bool} {id issuer : Text}
    (hrow : lists.findOne (ListQuery.accepts ⟨path, none⟩) = some row)
    (hdecode : lib.decodeList row.verifiableCredential.encodedList = .ok decoded)
    (hset : lib.setRevoked decoded (some j) revoked = .ok list)
    (hencodes : Encodes lib id issuer list vc) {p : Text} {i : ℕ} (hne : (p, i) ≠ (path, j))
    (hbit : storedBit lib (lists.put { row with verifiableCredential := vc }) p i = some true) :
    storedBit lib lists p i = some true := by
  by_cases hp : p = path
  · subst hp
    have hrow' : (lists.put { row with verifiableCredential := vc }).findOne
        (ListQuery.accepts ⟨p, none⟩) = some { row with verifiableCredential := vc } :=
      Table.findOne_put_self hrow rfl
    have hij : j ≠ i := fun hij => hne (by rw [hij])
    rw [storedBit, hrow', Option.bind_some] at hbit
    rw [storedBit, hrow, Option.bind_some, getBit_of_decode hdecode]
    obtain ⟨j', hj', -, rfl⟩ := hlib.setRevoked_ok hset
    obtain rfl := Option.some.inj hj'
    have htrue := hencodes.of_getBit_true hlib hpad hbit
    rwa [List.getElem?_set_ne hij] at htrue
  · have hkey := ListQuery.accepts_path_iff.1 (Table.key_of_findOne hrow)
    have hfalse : ListQuery.accepts ⟨p, none⟩
        (RevocationList.key { row with verifiableCredential := vc }) = false := by
      rw [Bool.eq_false_iff, ne_eq, ListQuery.accepts_path_iff]
      exact fun heq => hp (heq.symm.trans hkey)
    rwa [storedBit, Table.findOne_put_of_false hfalse] at hbit

/-- What a committed change does to the bits, when the check has read the list. -/
structure Changed (lib : VcStatusRl2020) (position : Text × ℕ) (revoked : Bool)
    (lists lists' : Table RevocationList.key) : Prop where
  before : storedBit lib lists position.1 position.2 = some (!revoked)
  written : storedBit lib lists' position.1 position.2 = some revoked
  others : ∀ {p i}, (p, i) ≠ position →
    (storedBit lib lists' p i = some true ↔ storedBit lib lists p i = some true)
  stored : ∀ {p i}, (storedBit lib lists p i).isSome → (storedBit lib lists' p i).isSome

/-- **A committed change turns the bit over** that its credential points at, and no other. -/
theorem SetStatusEnd.turned (hlib : lib.Lawful) (hpad : lib.ZeroPadded) (henv : env.Lawful)
    {n : ℕ} {hash : Text} {revoked : Bool} {credential : Credential} {db' : Db}
    (hchecks : ChecksList lib path env db credential)
    (hcredential : ∀ found, env.dataStoreGetVerifiableCredential hash = .ok (some found) →
      found = credential)
    (hserved : ∀ entry, credential.credentialStatus = some entry → ServedEntry path entry)
    (h : SetStatusEnd lib env ⟨path, n⟩ revoked hash db (.ok (), db')) :
    db'.data = db.data ∧ ∃ position, statusPosition path credential = some position ∧
      Changed lib position revoked db.lists db'.lists := by
  cases h with
  | @changed found verified listPath row decoded list vc hfound hcheck hguard hpath hrow hdecode
      hset hsigned =>
      obtain rfl := hcredential found hfound
      have hencodes := hsigned.encodes henv
      obtain ⟨j, hindex, hwritten⟩ := bitWritten_put hlib hrow hdecode hset hencodes
      rw [hindex] at hset
      have hposition : statusPosition path found = some (listPath, j) := by
        rw [statusPosition, hpath, hindex]
      refine ⟨rfl, (listPath, j), hposition, ?_, hwritten.written, ?_, ?_⟩
      · -- the check has read the bit that is about to be written
        obtain ⟨bit, hbit⟩ := Option.isSome_iff_exists.1 hwritten.isSome_before
        obtain ⟨entry, hentry⟩ : ∃ entry, found.credentialStatus = some entry := by
          cases hs : found.credentialStatus with
          | none => simp [Credential.revocationListIndex, hs] at hindex
          | some entry => exact ⟨entry, rfl⟩
        have hread := (hserved entry hentry).checkedPosition hentry hposition
        have hverified := hchecks hcheck hread hbit
        rw [hbit]
        cases bit <;> cases revoked <;> simp_all
      · intro p i hne
        constructor
        · exact of_storedBit_resigned hlib hpad hrow hdecode hset hencodes hne
        · exact hwritten.kept hne
      · intro p i hsome
        obtain ⟨bit, hbit⟩ := Option.isSome_iff_exists.1 hsome
        by_cases hne : (p, i) = (listPath, j)
        · rw [Prod.mk.injEq] at hne
          obtain ⟨rfl, rfl⟩ := hne
          exact Option.isSome_of_mem hwritten.written
        · exact Option.isSome_of_mem (hwritten.kept hne hbit)

/-- A status change keeps the lists those of the managed issuers. -/
theorem IssuersLists.setStatus (hown : IssuersLists lib path managed db) (hlib : lib.Lawful)
    (henv : env.Lawful) {options : PluginOptions} {hash : Text} {revoked : Bool} {db' : Db}
    (h : SetStatusEnd lib env options revoked hash db (.ok (), db')) :
    IssuersLists lib path managed db' := by
  obtain ⟨row, vc, hmem, hvc, rfl⟩ := h.resigned hlib henv
  constructor
  case managed_issuer =>
      intro list hlist
      rcases Table.mem_put_iff.1 hlist with rfl | ⟨hold, -⟩
      · have hissuer := hown.managed_issuer hmem
        exact hissuer
      · exact hown.managed_issuer hold
  case numbered =>
      intro list hlist
      rcases Table.mem_put_iff.1 hlist with rfl | ⟨hold, -⟩
      · have hnumber := hown.numbered hmem
        exact hnumber
      · exact hown.numbered hold
  case capacity =>
      intro did data list hdata hlist
      rw [Db.lists_putList] at hlist
      rcases listOf_resigned vc hmem did data.listCounter with heq | ⟨hold, hnew⟩
      · rw [heq] at hlist
        exact hown.capacity hdata hlist
      · rw [hnew, Option.some.injEq] at hlist
        subst hlist
        exact hvc.hasCapacity (hown.capacity hdata hold)
  case named =>
      intro list hlist
      rcases Table.mem_put_iff.1 hlist with rfl | ⟨hold, -⟩
      · obtain ⟨hpath, hid, hissuer⟩ := hown.named hmem
        exact ⟨hpath, hvc.id_eq.trans hid, hvc.issuer_eq.trans hissuer⟩
      · exact hown.named hold

/-- **A committed change revokes an active entry, or activates a revoked one.** -/
theorem Refines.change {db' : Db} {position : Text × ℕ} {revoked : Bool}
    (h : Refines lib path managed db registry) (hown : IssuersLists lib path managed db')
    (hdata : db'.data = db.data) (hchanged : Changed lib position revoked db.lists db'.lists) :
    ∃ registry', StatusRegistry.Step registry (.change position revoked) registry' ∧
      Refines lib path managed db' registry' := by
  have hrevoked : position ∈ registry.revoked ↔ revoked = false := by
    rw [h.revoked_iff, hchanged.before]
    cases revoked <;> simp
  have hrefines : ∀ entries : Set (Text × ℕ), (position ∈ entries ↔ revoked = true) →
      (∀ other, other ≠ position → (other ∈ entries ↔ other ∈ registry.revoked)) →
      Refines lib path managed db' { registry with revoked := entries } := by
    intro entries hself hothers
    refine ⟨hown, ?_, fun hmem => hchanged.stored (h.stored hmem), ?_⟩
    · intro other
      by_cases ho : other = position
      · subst ho
        simp [hself, hchanged.written]
      · rw [hothers other ho, h.revoked_iff, hchanged.others ho]
    · intro other hmem
      rw [hdata]
      exact h.reached hmem
  cases revoked with
  | true =>
      refine ⟨_, .revoke (by simp [hrevoked]), hrefines _ (by simp) fun other ho => ?_⟩
      simp [ho]
  | false =>
      refine ⟨_, .activate (by simp [hrevoked]), hrefines _ (by simp) fun other ho => ?_⟩
      simp [ho]

/-- **The bit of an entry that was handed out** is its last change. -/
theorem Refines.storedBit_eq (h : Refines lib path managed db registry)
    {acts : List (Act (Text × ℕ))}
    (hregistry : Simulation.Run StatusRegistry.Step Registry.empty acts registry)
    {position : Text × ℕ} (hmem : position ∈ StatusRegistry.handed acts) :
    storedBit lib db.lists position.1 position.2 =
      some ((StatusRegistry.changes position acts).headD false) := by
  obtain ⟨bit, hbit⟩ := Option.isSome_iff_exists.1
    (h.stored ((StatusRegistry.mem_handed_iff hregistry).1 hmem))
  have hset := StatusRegistry.mem_revoked_iff hregistry position
  rw [h.revoked_iff, hbit] at hset
  rw [hbit]
  cases hchanges : StatusRegistry.changes position acts with
  | nil => cases bit <;> simp_all
  | cons b bs => cases bit <;> cases b <;> simp_all

/-! ### Runs -/

section Runs

variable (hsep : ∀ did did', managed did → managed did' → did ≠ did' → ¬SamePath did did')
  (hlib : lib.Lawful) (hpad : lib.ZeroPadded)
include hsep hlib hpad

/-- An allocation, however it ends, hands out a new entry or nothing. -/
theorem Refines.getRevocationData {db' : Db} {n : ℕ} {req : Context} {envs : ℕ → AttemptEnv}
    {out : Except JsError (Option RevocationDataResult)}
    (h : Refines lib path managed db registry) (henvs : ∀ k, (envs k).env.Lawful)
    (hmanaged : ∀ k i, (envs k).env.didManagerGet did = .ok i → managed did)
    (hcall : Revocation.getRevocationData lib ⟨path, n⟩ did req envs db = (out, db')) :
    (seen path (.getRevocationData did out) = none ∧ Refines lib path managed db' registry) ∨
      ∃ entry registry', seen path (.getRevocationData did out) = some (.hand entry) ∧
        StatusRegistry.Step registry (.hand entry) registry' ∧
        Refines lib path managed db' registry' := by
  have hleft : ∀ k, SwallowedUpTo
      (attemptOf (getRevocationDataTransaction lib ⟨path, n⟩ did req) envs) db k →
      Refines lib path managed
        (leftBy (attemptOf (getRevocationDataTransaction lib ⟨path, n⟩ did req) envs) db k)
        registry := fun _ =>
    leftBy_issue_induction (fun db => Refines lib path managed db registry) henvs h
      fun _ hdb => hdb.save did n
  by_cases hout : ∃ result, out = .ok (some result)
  · obtain ⟨result, rfl⟩ := hout
    obtain ⟨k, hbefore, -, hend⟩ := getRevocationData_ok hcall
    have hdbk := hleft k hbefore
    generalize leftBy (attemptOf (getRevocationDataTransaction lib ⟨path, n⟩ did req) envs) db k =
      dbk at hdbk hend
    cases hend with
    | @issued did' row lists hpath hlen hget hrow hens =>
        have hdid := hmanaged k _ hget
        obtain rfl := (henvs k).didManagerGet_ok hget
        have hsaved := hdbk.save did' n
        have hnew := hdbk.not_handed hsep hdid n
        have hkey := key_nextData dbk.data ⟨path, did'⟩ n
        have hcounters :
            countersOf (dbk.data.put (nextData dbk.data ⟨path, did'⟩ n)) path did' = _ :=
          countersOf_put_self hkey
        have hindex := indexCounter_nextData_lt dbk.data ⟨path, did'⟩ hlen
        have hlength := bitStringLength_nextData dbk.data ⟨path, did'⟩ n
        dsimp only at hrow hens hindex
        rw [← hrow] at hsaved hnew hcounters hindex hlength
        rw [← hlength] at hens hindex
        refine Or.inr ⟨(listPath did' row.listCounter, row.indexCounter), _, ?_, .hand hnew, ?_⟩
        · exact congrArg (fun position => some (Act.hand position))
            (entryPosition_listPath path did' row.listCounter row.indexCounter)
        exact hsaved.hand hsep hlib hpad (henvs k) hdid hcounters hindex hens
  · have hnone : ∀ result, out ≠ .ok (some result) := fun result heq => hout ⟨result, heq⟩
    obtain ⟨k, hbefore, rfl⟩ := getRevocationData_failed hcall hnone
    refine Or.inl ⟨?_, hleft k hbefore⟩
    rcases out with _ | _ | result
    · rfl
    · rfl
    · exact absurd rfl (hnone result)

omit hsep in
/-- A status change, however it ends, turns over the status of its entry or does nothing. -/
theorem Refines.setStatus {db' : Db} {n : ℕ} {hash : Text} {context : Context}
    {envs : ℕ → AttemptEnv} {credential : Credential} {revoked : Bool}
    {out : Except JsError (Option Unit)} (h : Refines lib path managed db registry)
    (henvs : ∀ k, (envs k).env.Lawful)
    (hchecks : ∀ k, ChecksList lib path (envs k).env db credential)
    (hcredential : ∀ k found,
      (envs k).env.dataStoreGetVerifiableCredential hash = .ok (some found) → found = credential)
    (hserved : ∀ entry, credential.credentialStatus = some entry → ServedEntry path entry)
    (hcall : callTransaction (statusTransaction lib ⟨path, n⟩ hash context revoked) envs db =
      (out, db')) :
    (seen path (.setStatus credential revoked out) = none ∧
      Refines lib path managed db' registry) ∨
      ∃ position registry',
        seen path (.setStatus credential revoked out) = some (.change position revoked) ∧
        StatusRegistry.Step registry (.change position revoked) registry' ∧
        Refines lib path managed db' registry' := by
  obtain ⟨alreadySet, htransaction⟩ : ∃ alreadySet, statusTransaction lib ⟨path, n⟩ hash context
      revoked = setCredentialStatus lib ⟨path, n⟩ alreadySet revoked hash context := by
    cases revoked <;> exact ⟨_, rfl⟩
  rw [htransaction] at hcall
  have hend := callTransaction_ends
    (setCredentialStatus lib ⟨path, n⟩ alreadySet revoked hash context) envs db
  rw [hcall] at hend
  cases hend with
  | exhausted hall =>
      rw [leftBy_setCredentialStatus hall]
      exact Or.inl ⟨rfl, h⟩
  | rethrown _ hbefore =>
      rw [leftBy_setCredentialStatus hbefore]
      exact Or.inl ⟨rfl, h⟩
  | @committed k _ _ _ hbefore hrun _ =>
      rw [leftBy_setCredentialStatus hbefore] at hrun
      have hends := run_setCredentialStatus lib (envs k).env ⟨path, n⟩ alreadySet revoked hash
        context db
      rw [hrun] at hends
      obtain ⟨hdata, position, hposition, hchanged⟩ := hends.turned hlib hpad (henvs k)
        (hchecks k) (hcredential k) hserved
      obtain ⟨registry', hstep, hrefines⟩ := h.change
        (h.own.setStatus hlib (henvs k) hends) hdata hchanged
      refine Or.inr ⟨position, registry', ?_, hstep, hrefines⟩
      simp only [seen, hposition, Option.map_some]

/-- **Every call is answered by the registry**: by what is seen of it, or by nothing. -/
theorem called_forward :
    Simulation.Forward (Called lib path managed) StatusRegistry.Step (seen path)
      (Refines lib path managed) := by
  have hcalled : ∀ {db registry call db'}, Refines lib path managed db registry →
      Called lib path managed db call db' →
      (seen path call = none ∧ Refines lib path managed db' registry) ∨
        ∃ act registry', seen path call = some act ∧
          StatusRegistry.Step registry act registry' ∧ Refines lib path managed db' registry' := by
    intro db registry call db' h hcall
    cases hcall with
    | getRevocationData henvs hmanaged hcall =>
        rcases h.getRevocationData hsep hlib hpad henvs hmanaged hcall with
          hsilent | ⟨entry, registry', hact⟩
        · exact Or.inl hsilent
        · exact Or.inr ⟨_, registry', hact⟩
    | setStatus henvs hchecks hcredential hserved hcall =>
        rcases h.setStatus hlib hpad henvs hchecks hcredential hserved hcall with
          hsilent | ⟨position, registry', hact⟩
        · exact Or.inl hsilent
        · exact Or.inr ⟨_, registry', hact⟩
  constructor
  · intro db registry call db' h hcall hseen
    rcases hcalled h hcall with ⟨-, hrefines⟩ | ⟨act, _, hact, -⟩
    · exact hrefines
    · rw [hseen] at hact
      cases hact
  · intro db registry call db' act h hcall hseen
    rcases hcalled h hcall with ⟨hnone, -⟩ | ⟨act', registry', hact, hstep, hrefines⟩
    · rw [hseen] at hnone
      cases hnone
    · rw [hseen, Option.some.injEq] at hact
      subst hact
      exact ⟨registry', hstep, hrefines⟩

variable {calls : List RegistryCall}

/-- No entry is handed out twice in a run of calls. -/
theorem handed_nodup_of_run
    (hrun : Simulation.Run (Called lib path managed) Db.empty calls db) :
    (StatusRegistry.handed (calls.filterMap (seen path))).Nodup := by
  obtain ⟨_, hregistry, -⟩ := (called_forward hsep hlib hpad).run refines_empty hrun
  exact StatusRegistry.handed_nodup hregistry

/-- **The registry after a run of calls**: no entry is handed out twice, whoever the issuers are and
however the calls end; the entries handed out have a bit, and an entry is revoked when its bit is
set. -/
theorem registry_refined
    (hrun : Simulation.Run (Called lib path managed) Db.empty calls db) :
    (StatusRegistry.handed (calls.filterMap (seen path))).Nodup ∧
    ∃ registry, Simulation.Run StatusRegistry.Step Registry.empty (calls.filterMap (seen path))
        registry ∧
      (∀ position, position ∈ registry.revoked ↔
        storedBit lib db.lists position.1 position.2 = some true) ∧
      ∀ position ∈ registry.handed, (storedBit lib db.lists position.1 position.2).isSome := by
  obtain ⟨registry, hregistry, hrefines⟩ :=
    (called_forward hsep hlib hpad).run refines_empty hrun
  exact ⟨handed_nodup_of_run hsep hlib hpad hrun, registry, hregistry, hrefines.revoked_iff,
    fun _ hmem => hrefines.stored hmem⟩

/-- **The committed changes of an entry alternate**, a revocation first, in every run; so it was
activated as often as it was revoked, or once less, and the bit of a credential whose entry was
handed out is the last of them. -/
theorem statuses_alternate
    (hrun : Simulation.Run (Called lib path managed) Db.empty calls db)
    {credential : Credential} {position : Text × ℕ}
    (hposition : statusPosition path credential = some position) :
    (StatusRegistry.changes position (calls.filterMap (seen path)) ++ [false]).IsChain (· ≠ ·) ∧
    (StatusRegistry.changes position (calls.filterMap (seen path))).count true =
      (StatusRegistry.changes position (calls.filterMap (seen path))).count false +
        (if credentialBit lib path db.lists credential = some true then 1 else 0) ∧
    (position ∈ StatusRegistry.handed (calls.filterMap (seen path)) →
      credentialBit lib path db.lists credential =
        some ((StatusRegistry.changes position (calls.filterMap (seen path))).headD false)) := by
  obtain ⟨registry, hregistry, hrefines⟩ :=
    (called_forward hsep hlib hpad).run refines_empty hrun
  have hbit : credentialBit lib path db.lists credential =
      storedBit lib db.lists position.1 position.2 := by
    rw [credentialBit, hposition, Option.bind_some]
  have hset : credentialBit lib path db.lists credential = some true ↔
      (StatusRegistry.changes position (calls.filterMap (seen path))).head? = some true := by
    rw [hbit, ← hrefines.revoked_iff]
    exact StatusRegistry.mem_revoked_iff hregistry position
  refine ⟨StatusRegistry.changes_alternate hregistry position, ?_, ?_⟩
  · rw [StatusRegistry.count_changes hregistry position]
    simp only [hset]
  · intro hmem
    rw [hbit]
    exact hrefines.storedBit_eq hregistry hmem

end Runs

/-! ### Two issuers -/

/-- Another issuer. -/
def otherDid : Text := "did:web:b".toList

/-- A check that reads the list that the credential names. -/
def readCheck (path : Text) (db : Db) (credential : Credential) : Except JsError Bool :=
  match checkedPosition path credential with
  | none => .error statusMissing
  | some position =>
      match storedBit plainLib db.lists position.1 position.2 with
      | none => .ok false
      | some bit => .ok (!bit)

/-- An agent that manages both issuers, stores `plainCredential`, and checks by reading. -/
def readEnv : Env :=
  { plainEnv [plainDid, otherDid] [(plainHash, plainCredential)] with
    transmuteCheckStatus := readCheck plainPath }

/-- Calls of that agent in which nothing fails. -/
def readEnvs (_ : ℕ) : AttemptEnv := ⟨readEnv, none⟩

theorem readEnvs_lawful (k : ℕ) : (readEnvs k).env.Lawful where
  didManagerGet_ok := (plainEnv_lawful [plainDid, otherDid] []).didManagerGet_ok
  createVerifiableCredential_ok := (plainEnv_lawful [] []).createVerifiableCredential_ok

theorem readEnvs_checks (k : ℕ) (db : Db) (credential : Credential) :
    ChecksList plainLib plainPath (readEnvs k).env db credential := by
  intro verified position bit hcheck hposition hbit
  change readCheck plainPath db credential = .ok verified at hcheck
  rw [readCheck, hposition] at hcheck
  dsimp only at hcheck
  rw [hbit] at hcheck
  exact (Except.ok.inj hcheck).symm

theorem plainLib_zeroPadded : plainLib.ZeroPadded := by
  intro id list credential decoded hcreate hdecode i hi
  obtain ⟨-, decoded', hdecode', hprefix⟩ := plainLib_lawful.createCredential_ok hcreate
  simp only [plainLib, Except.ok.injEq] at hcreate hdecode
  subst hcreate
  rw [← hdecode, List.getElem?_eq_none (by simpa using hi)]
  simp

/-- The issuers of the run. -/
def twoIssuers (did : Text) : Prop := did = plainDid ∨ did = otherDid

theorem twoIssuers_separate :
    ∀ did did', twoIssuers did → twoIssuers did' → did ≠ did' → ¬SamePath did did' := by
  have hab : ¬SamePath plainDid otherDid := by
    unfold SamePath
    decide
  have hba : ¬SamePath otherDid plainDid := by
    unfold SamePath
    decide
  rintro did did' (rfl | rfl) (rfl | rfl) hne
  · exact absurd rfl hne
  · exact hab
  · exact hba
  · exact absurd rfl hne

/-- The tables after an entry is handed out for the first issuer. -/
def firstIssued : Db :=
  (getRevocationData plainLib plainOptions plainDid ⟨true⟩ readEnvs Db.empty).2

/-- The tables after one is handed out for the second issuer. -/
def bothIssued : Db :=
  (getRevocationData plainLib plainOptions otherDid ⟨true⟩ readEnvs firstIssued).2

/-- The tables after the entry of the first issuer is revoked. -/
def firstRevoked : Db :=
  (callTransaction (statusTransaction plainLib plainOptions plainHash ⟨true⟩ true) readEnvs
    bothIssued).2

/-- These three calls, newest first. -/
def twoIssuersCalls : List RegistryCall :=
  [.setStatus plainCredential true (.ok (some ())),
    .getRevocationData otherDid (.ok (some ⟨plainPath ++ listPath otherDid 0, 0⟩)),
    .getRevocationData plainDid (.ok (some ⟨plainPath ++ listPath plainDid 0, 0⟩))]

theorem run_twoIssuersCalls :
    Simulation.Run (Called plainLib plainPath twoIssuers) Db.empty twoIssuersCalls
      firstRevoked := by
  have hfirst : getRevocationData plainLib plainOptions plainDid ⟨true⟩ readEnvs Db.empty =
      (.ok (some ⟨plainPath ++ listPath plainDid 0, 0⟩), firstIssued) := rfl
  have hsecond : getRevocationData plainLib plainOptions otherDid ⟨true⟩ readEnvs firstIssued =
      (.ok (some ⟨plainPath ++ listPath otherDid 0, 0⟩), bothIssued) := rfl
  have hthird : callTransaction (statusTransaction plainLib plainOptions plainHash ⟨true⟩ true)
      readEnvs bothIssued = (.ok (some ()), firstRevoked) := rfl
  refine ((Simulation.Run.nil.cons (.getRevocationData readEnvs_lawful (fun _ _ _ => Or.inl rfl)
    hfirst)).cons (.getRevocationData readEnvs_lawful (fun _ _ _ => Or.inr rfl) hsecond)).cons
    (.setStatus readEnvs_lawful (fun k => readEnvs_checks k _ _) ?_ ?_ hthird)
  · intro k found hfound
    cases hfound
    rfl
  · intro entry hentry
    cases hentry
    exact servedEntry_credentialStatusOf (by decide) 0 0

/-- Two entries are handed out, and one of them is revoked. -/
theorem registry_refined_plain :
    ∃ registry, Simulation.Run StatusRegistry.Step Registry.empty
        (twoIssuersCalls.filterMap (seen plainPath)) registry ∧
      (listPath plainDid 0, 0) ∈ registry.revoked ∧
        (listPath otherDid 0, 0) ∉ registry.revoked := by
  obtain ⟨-, registry, hregistry, hrevoked, -⟩ := registry_refined twoIssuers_separate
    plainLib_lawful plainLib_zeroPadded run_twoIssuersCalls
  refine ⟨registry, hregistry, (hrevoked _).2 ?_, fun hmem => ?_⟩
  · decide +kernel
  · have hbit : storedBit plainLib firstRevoked.lists (listPath otherDid 0) 0 = some false := by
      decide +kernel
    rw [hrevoked, hbit] at hmem
    cases hmem

/-- The bit of the credential is its last change. -/
theorem statuses_alternate_plain :
    credentialBit plainLib plainPath firstRevoked.lists plainCredential = some true := by
  have hposition : statusPosition plainPath plainCredential = some (listPath plainDid 0, 0) := by
    decide +kernel
  have hhanded : (listPath plainDid 0, 0) ∈
      StatusRegistry.handed (twoIssuersCalls.filterMap (seen plainPath)) := by decide +kernel
  exact (statuses_alternate twoIssuers_separate plainLib_lawful plainLib_zeroPadded
    run_twoIssuersCalls hposition).2.2 hhanded

end Revocation
