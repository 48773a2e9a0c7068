/-
**The bit behind every status entry.**

One issuer, one base path, and calls that succeed one after the other: allocations, revocations
and activations, with a list length that may change from call to call.  A status entry points at
a position, the path of a list and an index in it.  The bit stored at the position of an entry
that was handed out is the one the last revocation or activation there wrote, or zero.

A call counts as successful when its transaction returned and was committed.  The attempts before
that one may have been swallowed, and may have moved the counters on without creating a list.

Main definitions:

* `Revocation.storedBit` — the bit at a position, read as the plugin reads a list: by path;
* `Revocation.statusPosition`, `Revocation.credentialBit` — the position a credential points at,
  and its bit;
* `Revocation.OwnLists`, `Revocation.NothingAhead` — tables that hold lists of one issuer only,
  with no bit set that has not been handed out;
* `Revocation.CallStep`, `Revocation.CallRun` — successful calls, and sequences of them;
* `Revocation.Tracked` — the invariant.

Main results:

* `Revocation.SetStatusEnd.storedBit` — a status change writes the bit it points at and keeps
  every other one;
* `Revocation.issued_effect` — what a successful allocation does;
* `Revocation.Tracked.issued`, `Revocation.Tracked.statusSet` — the step lemmas;
* `Revocation.status_bits` — **every bit is the one last written**, no entry is handed out twice,
  and a call on one entry changes the bit of no other.
-/

import Vckit.StoreInvariant

set_option relaxedAutoImplicit false
set_option autoImplicit false

namespace Revocation

variable {lib : VcStatusRl2020} {env : Env} {path did : Text} {db db' : Db}

/-! ### Bits -/

/-- Bit number `i` of a list credential. -/
def getBit (lib : VcStatusRl2020) (vc : ListCredential) (i : ℕ) : Option Bool :=
  match lib.decodeList vc.encodedList with
  | .ok bits => bits[i]?
  | .error _ => none

/-- Bit number `i` of the list that a lookup by path returns. -/
def storedBit (lib : VcStatusRl2020) (lists : Table RevocationList.key) (path : Text) (i : ℕ) :
    Option Bool :=
  (lists.findOne (ListQuery.accepts ⟨path, none⟩)).bind fun row =>
    getBit lib row.verifiableCredential i

theorem getBit_of_decode {vc : ListCredential} {bits : RevocationList2020} {i : ℕ}
    (h : lib.decodeList vc.encodedList = .ok bits) : getBit lib vc i = bits[i]? := by
  rw [getBit, h]

/-- A signed list has the bits it was made of. -/
theorem Encodes.getBit (hlib : lib.Lawful) {id issuer : Text} {list : RevocationList2020}
    {vc : ListCredential} (h : Encodes lib id issuer list vc) {i : ℕ} (hi : i < list.length) :
    getBit lib vc i = some list[i] := by
  obtain ⟨bits, hbits, hpre⟩ := h.decode hlib
  rw [getBit_of_decode hbits]
  exact List.prefix_iff_getElem?.1 hpre i hi

/-- A bit inside the capacity of a list is stored. -/
theorem HasCapacity.isSome_getBit {vc : ListCredential} {n i : ℕ} (h : HasCapacity lib vc n)
    (hi : i < n) : (Revocation.getBit lib vc i).isSome := by
  obtain ⟨bits, hbits, hn⟩ := h
  rw [getBit_of_decode hbits, List.getElem?_eq_getElem (hi.trans_le hn)]
  rfl

/-- **Setting a bit and signing again** writes that bit and keeps the others. -/
theorem getBit_setRevoked (hlib : lib.Lawful) {vc vc' : ListCredential}
    {decoded list : RevocationList2020} {index : Option ℕ} {revoked : Bool} {id issuer : Text}
    (hdecode : lib.decodeList vc.encodedList = .ok decoded)
    (hset : lib.setRevoked decoded index revoked = .ok list)
    (hencodes : Encodes lib id issuer list vc') :
    ∃ j, index = some j ∧ (getBit lib vc j).isSome ∧ getBit lib vc' j = some revoked ∧
      ∀ i b, i ≠ j → getBit lib vc i = some b → getBit lib vc' i = some b := by
  obtain ⟨j, rfl, hj, rfl⟩ := hlib.setRevoked_ok hset
  refine ⟨j, rfl, ?_, ?_, ?_⟩
  · rw [getBit_of_decode hdecode, List.getElem?_eq_getElem hj]
    rfl
  · rw [hencodes.getBit hlib (by simpa using hj)]
    simp
  · intro i b hne hb
    rw [getBit_of_decode hdecode] at hb
    obtain ⟨hi, rfl⟩ := List.getElem?_eq_some_iff.1 hb
    rw [hencodes.getBit hlib (by simpa using hi), List.getElem_set_ne (Ne.symm hne)]

/-! ### Positions -/

/-- Where a credential's status entry points: the path of a list and an index in it. -/
def statusPosition (revocationListPath : Text) (credential : Credential) : Option (Text × ℕ) :=
  match revocationListFullUrlPathOf revocationListPath credential,
    credential.revocationListIndex with
  | .ok path, some i => some (path, i)
  | _, _ => none

/-- The stored bit of a credential. -/
def credentialBit (lib : VcStatusRl2020) (revocationListPath : Text)
    (lists : Table RevocationList.key) (credential : Credential) : Option Bool :=
  (statusPosition revocationListPath credential).bind fun position =>
    storedBit lib lists position.1 position.2

/-- **The list path is found again** in the status entry that an allocation leads to. -/
theorem revocationListFullUrlPathOf_issued (hcolon : ':' ∈ path) {credential : Credential}
    {m i : ℕ} (h : credential.credentialStatus =
      some (credentialStatusOf ⟨path ++ listPath did m, i⟩)) :
    revocationListFullUrlPathOf path credential = .ok (listPath did m) := by
  have hsplit : splitStatusId path credential = .ok (some (listPath did m)) := by
    rw [splitStatusId, h]
    simp only [credentialStatusOf]
    rw [Text.split_self_append hcolon (colon_not_mem_listPath did m)]
    rfl
  rw [revocationListFullUrlPathOf, hsplit]
  cases hp : listPath did m with
  | nil => exact absurd hp (listPath_ne_nil did m)
  | cons c s => rfl

/-- The position that an allocation hands out. -/
theorem statusPosition_issued (hcolon : ':' ∈ path) {credential : Credential} {m i : ℕ}
    (h : credential.credentialStatus =
      some (credentialStatusOf ⟨path ++ listPath did m, i⟩)) :
    statusPosition path credential = some (listPath did m, i) := by
  have hindex : credential.revocationListIndex = some i := by
    rw [Credential.revocationListIndex, h]
    rfl
  rw [statusPosition, revocationListFullUrlPathOf_issued hcolon h, hindex]

/-- What a change of one bit does to the bits stored. -/
structure BitWritten (lib : VcStatusRl2020) (position : Text × ℕ) (revoked : Bool)
    (lists lists' : Table RevocationList.key) : Prop where
  isSome_before : (storedBit lib lists position.1 position.2).isSome
  written : storedBit lib lists' position.1 position.2 = some revoked
  kept : ∀ {path i b}, (path, i) ≠ position → storedBit lib lists path i = some b →
    storedBit lib lists' path i = some b

/-- **Saving a list with one bit set** writes that bit of the list found by path. -/
theorem bitWritten_put (hlib : lib.Lawful) {lists : Table RevocationList.key} {path : Text}
    {row : RevocationList} {vc : ListCredential} {decoded list : RevocationList2020}
    {index : Option ℕ} {revoked : Bool} {id issuer : Text}
    (hrow : lists.findOne (ListQuery.accepts ⟨path, none⟩) = some row)
    (hdecode : lib.decodeList row.verifiableCredential.encodedList = .ok decoded)
    (hset : lib.setRevoked decoded index revoked = .ok list)
    (hencodes : Encodes lib id issuer list vc) :
    ∃ j, index = some j ∧ BitWritten lib (path, j) revoked lists
      (lists.put { row with verifiableCredential := vc }) := by
  obtain ⟨j, hindex, hsome, hnew, hkept⟩ := getBit_setRevoked hlib hdecode hset hencodes
  have hrow' : (lists.put { row with verifiableCredential := vc }).findOne
      (ListQuery.accepts ⟨path, none⟩) = some { row with verifiableCredential := vc } :=
    Table.findOne_put_self hrow rfl
  have hat : ∀ i, storedBit lib lists path i = getBit lib row.verifiableCredential i := by
    intro i
    rw [storedBit, hrow]
    rfl
  have hat' : ∀ i, storedBit lib (lists.put { row with verifiableCredential := vc }) path i =
      getBit lib vc i := by
    intro i
    rw [storedBit, hrow']
    rfl
  refine ⟨j, hindex, ?_, ?_, ?_⟩
  · rwa [hat]
  · rwa [hat']
  · intro path' i b hne hb
    by_cases hp : path' = path
    · subst hp
      rw [hat] at hb
      rw [hat']
      exact hkept i b (fun hij => hne (by rw [hij])) hb
    · -- the row written is not one that the other path finds
      have hkey := ListQuery.accepts_path_iff.1 (Table.key_of_findOne hrow)
      have hfalse : ListQuery.accepts ⟨path', none⟩
          (RevocationList.key { row with verifiableCredential := vc }) = false := by
        rw [Bool.eq_false_iff, ne_eq, ListQuery.accepts_path_iff]
        intro heq
        exact hp (heq.symm.trans hkey)
      rwa [storedBit, Table.findOne_put_of_false hfalse]

/-- **A status change** writes the bit its credential points at and keeps every other one. -/
theorem SetStatusEnd.bitWritten (hlib : lib.Lawful) (henv : env.Lawful) {options : PluginOptions}
    {hash : Text} {revoked : Bool}
    (h : SetStatusEnd lib env options revoked hash db (.ok (), db')) :
    ∃ credential position, env.dataStoreGetVerifiableCredential hash = .ok (some credential) ∧
      statusPosition options.revocationListPath credential = some position ∧
      BitWritten lib position revoked db.lists db'.lists := by
  cases h with
  | @changed credential verified path row decoded bits vc hcred _ _ hpath hrow hdecode hset
      hsigned =>
      obtain ⟨j, hindex, hwritten⟩ := bitWritten_put hlib hrow hdecode hset (hsigned.encodes henv)
      refine ⟨credential, (path, j), hcred, ?_, hwritten⟩
      rw [statusPosition, hpath, hindex]

/-! ### Later counters -/

/-- Row `row'` was saved after row `row`: in the same list with a larger index, or in a later
list. -/
def RevocationData.Later (row row' : RevocationData) : Prop :=
  row.listCounter < row'.listCounter ∨
    (row'.listCounter = row.listCounter ∧ row'.bitStringLength = row.bitStringLength ∧
      row.indexCounter < row'.indexCounter)

theorem RevocationData.Later.trans {row row' row'' : RevocationData} (h : row.Later row')
    (h' : row'.Later row'') : row.Later row'' := by
  rcases h with h | ⟨hl, hb, hi⟩ <;> rcases h' with h' | ⟨hl', hb', hi'⟩
  · exact Or.inl (h.trans h')
  · exact Or.inl (hl' ▸ h)
  · exact Or.inl (hl ▸ h')
  · exact Or.inr ⟨hl'.trans hl, hb'.trans hb, hi.trans hi'⟩

theorem RevocationData.Later.lt {row row' : RevocationData} (h : row.Later row') :
    toLex row.counters < toLex row'.counters := by
  rw [Prod.Lex.toLex_lt_toLex]
  rcases h with h | ⟨hl, -, hi⟩
  · exact Or.inl h
  · exact Or.inr ⟨hl.symm, hi⟩

theorem RevocationData.later_advance (row : RevocationData) (n : ℕ) :
    row.Later (row.advance n) := by
  unfold RevocationData.advance
  split
  · exact Or.inl (Nat.lt_succ_self _)
  · exact Or.inr ⟨rfl, rfl, Nat.lt_succ_self _⟩

/-- The counters an allocation saves come after the ones it found. -/
theorem later_nextData {data : Table RevocationData.key} {row : RevocationData} (n : ℕ)
    (hrow : countersOf data path did = some row) : row.Later (nextData data ⟨path, did⟩ n) := by
  rw [nextData, ← countersOf, hrow]
  exact row.later_advance n

/-! ### Tables with the lists of one issuer -/

/-- **The tables hold lists of the issuer `did` only**, numbered up to its list counter, and the
current one, when it exists, has room for the length in force. -/
structure OwnLists (lib : VcStatusRl2020) (path did : Text) (db : Db) : Prop where
  issuer_eq : ∀ {list}, list ∈ db.lists.rows → list.revocationVCIssuer = did
  numbered : ∀ {list}, list ∈ db.lists.rows → ∃ m row,
    list.revocationListFullUrlPath = listPath did m ∧
      countersOf db.data path did = some row ∧ m ≤ row.listCounter
  capacity : ∀ {row list}, countersOf db.data path did = some row →
    listOf db.lists did row.listCounter = some list →
    HasCapacity lib list.verifiableCredential row.bitStringLength

/-- No bit is set that has not been handed out. -/
def NothingAhead (lib : VcStatusRl2020) (path did : Text) (db : Db) : Prop :=
  ∀ row, countersOf db.data path did = some row → ∀ j, row.indexCounter < j →
    j < row.bitStringLength → storedBit lib db.lists (listPath did row.listCounter) j ≠ some true

theorem ownLists_empty : OwnLists lib path did Db.empty where
  issuer_eq h := by cases h
  numbered h := by cases h
  capacity h := by cases h

theorem nothingAhead_empty : NothingAhead lib path did Db.empty := by
  intro row h
  cases h

/-- A list found by path is the issuer's own. -/
theorem OwnLists.findOne_path (hown : OwnLists lib path did db) (p : Text) :
    db.lists.findOne (ListQuery.accepts ⟨p, none⟩) = db.lists.lookup ⟨p, did⟩ := by
  rw [← findOne_accepts_issuer]
  refine Table.findOne_congr ?_
  intro list hlist
  have hdid : list.key.revocationVCIssuer = did := hown.issuer_eq hlist
  simp [ListQuery.accepts, hdid]

theorem OwnLists.storedBit_listPath (hown : OwnLists lib path did db) (m i : ℕ) :
    storedBit lib db.lists (listPath did m) i =
      (listOf db.lists did m).bind fun row => getBit lib row.verifiableCredential i := by
  rw [storedBit, hown.findOne_path]
  rfl

/-- A list of the issuer has a number that the counters have reached. -/
theorem OwnLists.le_of_listOf (hown : OwnLists lib path did db) {m : ℕ} {list : RevocationList}
    (h : listOf db.lists did m = some list) :
    ∃ row, countersOf db.data path did = some row ∧ m ≤ row.listCounter := by
  obtain ⟨hmem, hkey⟩ := Table.lookup_eq_some_iff.1 h
  obtain ⟨m', row, hpath, hrow, hle⟩ := hown.numbered hmem
  have hp : list.revocationListFullUrlPath = listPath did m :=
    congrArg ListKey.revocationListFullUrlPath hkey
  obtain rfl : m = m' := (listPath_inj.1 (hp.symm.trans hpath)).2
  exact ⟨row, hrow, hle⟩

/-! ### One allocation -/

/-- What a successful call of `getRevocationData` does, whatever attempts were swallowed before
the one that returned. -/
structure Issued (lib : VcStatusRl2020) (path did : Text) (db : Db) (row : RevocationData)
    (db' : Db) : Prop where
  counters_eq : countersOf db'.data path did = some row
  index_lt : row.indexCounter < row.bitStringLength
  later : ∀ row₀, countersOf db.data path did = some row₀ → row₀.Later row
  ensured : ∃ env req, env.Lawful ∧ EnsuredList lib env
    (upsertListArgs ⟨path, row.bitStringLength, did, req⟩ did row.listCounter) db.lists db'.lists

/-- **A successful allocation** returns the counters it saved and ensures their list. -/
theorem issued_effect {n : ℕ} {req : Context} {envs : ℕ → AttemptEnv}
    {result : RevocationDataResult} (henvs : ∀ k, (envs k).env.Lawful)
    (h : getRevocationData lib ⟨path, n⟩ did req envs db = (.ok (some result), db')) :
    ∃ row, result = ⟨path ++ listPath did row.listCounter, row.indexCounter⟩ ∧
      Issued lib path did db row db' := by
  have hself : ∀ data, countersOf (data.put (nextData data ⟨path, did⟩ n)) path did =
      some (nextData data ⟨path, did⟩ n) := fun data => countersOf_put_self (key_nextData _ _ _)
  obtain ⟨k, hbefore, -, hend⟩ := getRevocationData_ok h
  -- the attempts before kept the lists, and moved the counters on at most
  obtain ⟨hlists, hrows⟩ := leftBy_issue_induction
    (fun dbk => dbk.lists = db.lists ∧ ∀ row₀, countersOf db.data path did = some row₀ →
      ∃ row, countersOf dbk.data path did = some row ∧ (row = row₀ ∨ row₀.Later row))
    henvs ⟨rfl, fun row₀ h => ⟨row₀, h, Or.inl rfl⟩⟩ (by
      rintro dbk ⟨hlists, hrows⟩
      refine ⟨hlists, ?_⟩
      intro row₀ hrow₀
      obtain ⟨row, hrow, hlater⟩ := hrows row₀ hrow₀
      refine ⟨_, hself _, Or.inr ?_⟩
      rcases hlater with rfl | hlater
      · exact later_nextData n hrow
      · exact hlater.trans (later_nextData n hrow)) hbefore
  generalize leftBy (attemptOf (getRevocationDataTransaction lib ⟨path, n⟩ did req) envs) db k =
    dbk at hend hlists hrows
  cases hend with
  | issued hpath hlen hdid hrow hens =>
      obtain rfl := (henvs k).didManagerGet_ok hdid
      subst hrow
      refine ⟨_, rfl, hself _, ?_, ?_, (envs k).env, req, henvs k, ?_⟩
      · rw [bitStringLength_nextData]
        exact indexCounter_nextData_lt _ _ hlen
      · intro row₀ hrow₀
        obtain ⟨row, hrow, hlater⟩ := hrows row₀ hrow₀
        rcases hlater with rfl | hlater
        · exact later_nextData n hrow
        · exact hlater.trans (later_nextData n hrow)
      · rw [bitStringLength_nextData, ← hlists]
        exact hens

/-- Ensuring a list changes the answer of no query that found a list. -/
theorem EnsuredList.findOne_kept {args : UpsertRevocationListArgs}
    {lists lists' : Table RevocationList.key} (h : EnsuredList lib env args lists lists')
    {q : ListKey → Bool} {row : RevocationList} (hrow : lists.findOne q = some row) :
    lists'.findOne q = some row := by
  cases h with
  | found => exact hrow
  | created hnone =>
      exact Table.findOne_put_of_ne hrow
        (Table.lookup_eq_none_iff.1 hnone row (Table.mem_of_findOne hrow))

/-- **An allocation changes no bit that is stored.** -/
theorem EnsuredList.storedBit_kept {args : UpsertRevocationListArgs}
    {lists lists' : Table RevocationList.key} (h : EnsuredList lib env args lists lists')
    {p : Text} {i : ℕ} {b : Bool} (hb : storedBit lib lists p i = some b) :
    storedBit lib lists' p i = some b := by
  obtain ⟨row, hrow, hbit⟩ := Option.bind_eq_some_iff.1 hb
  rw [storedBit, h.findOne_kept hrow]
  exact hbit

section Issued

variable {row : RevocationData}

/-- When the list was there before, it was the current one, at the length in force. -/
theorem Issued.same_list (h : Issued lib path did db row db') (hown : OwnLists lib path did db)
    {list : RevocationList} (hlist : listOf db.lists did row.listCounter = some list) :
    ∃ row₀, countersOf db.data path did = some row₀ ∧ row.listCounter = row₀.listCounter ∧
      row.bitStringLength = row₀.bitStringLength ∧ row₀.indexCounter < row.indexCounter := by
  obtain ⟨row₀, hrow₀, hle⟩ := hown.le_of_listOf hlist
  rcases h.later row₀ hrow₀ with hlt | ⟨hl, hb, hi⟩
  · omega
  · exact ⟨row₀, hrow₀, hl, hb, hi⟩

/-- An allocation keeps the lists those of one issuer. -/
theorem OwnLists.issued (hown : OwnLists lib path did db) (hlib : lib.Lawful)
    (h : Issued lib path did db row db') : OwnLists lib path did db' := by
  obtain ⟨env, req, henv, hens⟩ := h.ensured
  constructor
  case issuer_eq =>
      intro list hlist
      generalize db'.lists = lists' at hens hlist
      cases hens with
      | found => exact hown.issuer_eq hlist
      | created =>
          rcases Table.mem_put_iff.1 hlist with rfl | ⟨hold, -⟩
          · rfl
          · exact hown.issuer_eq hold
  case numbered =>
      intro list hlist
      have hold : ∀ {list}, list ∈ db.lists.rows → ∃ m row',
          list.revocationListFullUrlPath = listPath did m ∧
            countersOf db'.data path did = some row' ∧ m ≤ row'.listCounter := by
        intro list hlist
        obtain ⟨m, row₀, hpath, hrow₀, hle⟩ := hown.numbered hlist
        refine ⟨m, row, hpath, h.counters_eq, ?_⟩
        rcases h.later row₀ hrow₀ with hlt | ⟨hl, -, -⟩ <;> omega
      generalize db'.lists = lists' at hens hlist
      cases hens with
      | found => exact hold hlist
      | created =>
          rcases Table.mem_put_iff.1 hlist with rfl | ⟨hmem, -⟩
          · exact ⟨row.listCounter, row, rfl, h.counters_eq, le_rfl⟩
          · exact hold hmem
  case capacity =>
      intro row' list hrow' hlist
      rw [h.counters_eq, Option.some.injEq] at hrow'
      subst hrow'
      generalize db'.lists = lists' at hens hlist
      cases hens with
      | found hfound =>
          obtain ⟨row₀, hrow₀, hl, hb, -⟩ := h.same_list hown hfound
          rw [hl] at hlist
          rw [hb]
          exact hown.capacity hrow₀ hlist
      | created _ hcreate hsigned =>
          simp only [upsertListArgs, listOf_put, and_self, if_true, Option.some.injEq] at hlist
          rw [← hlist]
          exact (hsigned.encodes henv).hasCapacity hlib (hlib.createList_ok hcreate).1

/-- A list that an allocation creates has no bit set. -/
theorem Issued.storedBit_created (h : Issued lib path did db row db') (hlib : lib.Lawful)
    (hown : OwnLists lib path did db') (hnone : listOf db.lists did row.listCounter = none) {j : ℕ}
    (hj : j < row.bitStringLength) :
    storedBit lib db'.lists (listPath did row.listCounter) j = some false := by
  obtain ⟨env, req, henv, hens⟩ := h.ensured
  rw [hown.storedBit_listPath]
  generalize db'.lists = lists' at hens
  cases hens with
  | found hfound =>
      rw [listOf] at hnone
      rw [upsertListArgs, hnone] at hfound
      cases hfound
  | @created bits vc _ hcreate hsigned =>
      obtain ⟨hlen, hzero⟩ := hlib.createList_ok hcreate
      have hlt : j < bits.length := hj.trans_le hlen
      simp only [upsertListArgs, listOf_put, and_self, if_true, Option.bind_some]
      rw [(hsigned.encodes henv).getBit hlib hlt, hzero _ (List.getElem_mem hlt)]

end Issued

/-- A status change keeps the lists those of one issuer. -/
theorem OwnLists.setStatus (hown : OwnLists lib path did db) (hlib : lib.Lawful)
    (henv : env.Lawful) {options : PluginOptions} {hash : Text} {revoked : Bool}
    (h : SetStatusEnd lib env options revoked hash db (.ok (), db')) :
    OwnLists lib path did db' := by
  obtain ⟨row, vc, hmem, hvc, rfl⟩ := h.resigned hlib henv
  constructor
  case issuer_eq =>
      intro list hlist
      rcases Table.mem_put_iff.1 hlist with rfl | ⟨hold, -⟩
      · have hdid := hown.issuer_eq hmem
        exact hdid
      · exact hown.issuer_eq hold
  case numbered =>
      intro list hlist
      rcases Table.mem_put_iff.1 hlist with rfl | ⟨hold, -⟩
      · have hnum := hown.numbered hmem
        exact hnum
      · exact hown.numbered hold
  case capacity =>
      intro data list hdata hlist
      rw [Db.lists_putList] at hlist
      rcases listOf_resigned vc hmem did data.listCounter with heq | ⟨hold, hnew⟩
      · rw [heq] at hlist
        exact hown.capacity hdata hlist
      · rw [hnew, Option.some.injEq] at hlist
        subst hlist
        exact hvc.hasCapacity (hown.capacity hdata hold)

/-! ### Successful calls -/

/-- What a successful call did: it returned a status entry, or wrote the status of a credential. -/
inductive CallEvent where
  | issued (result : RevocationDataResult)
  | statusSet (credential : Credential) (revoked : Bool)

/-- One successful call for the issuer `did` under the base path `path`.  Every attempt has an
agent of its own; within one call a hash stands for one credential. -/
inductive CallStep (lib : VcStatusRl2020) (path did : Text) (db : Db) : CallEvent → Db → Prop
  | getRevocationData {n : ℕ} {req : Context} {envs : ℕ → AttemptEnv}
      {result : RevocationDataResult} {db' : Db} (hn : 0 < n)
      (henvs : ∀ k, (envs k).env.Lawful)
      (h : getRevocationData lib ⟨path, n⟩ did req envs db = (.ok (some result), db')) :
      CallStep lib path did db (.issued result) db'
  | setStatus {n : ℕ} {hash : Text} {envs : ℕ → AttemptEnv} {credential : Credential}
      {revoked : Bool} {db' : Db} (henvs : ∀ k, (envs k).env.Lawful)
      (hcredential : ∀ k found,
        (envs k).env.dataStoreGetVerifiableCredential hash = .ok (some found) →
        found = credential)
      (h : StatusOp lib ⟨path, n⟩ hash envs db revoked db') :
      CallStep lib path did db (.statusSet credential revoked) db'

/-- Successful calls one after the other, the last one first. -/
inductive CallRun (lib : VcStatusRl2020) (path did : Text) (start : Db) :
    List CallEvent → Db → Prop
  | nil : CallRun lib path did start [] start
  | cons {events : List CallEvent} {event : CallEvent} {db db' : Db}
      (hrun : CallRun lib path did start events db) (hstep : CallStep lib path did db event db') :
      CallRun lib path did start (event :: events) db'

/-- The status last written at a position. -/
def lastStatus (path : Text) (position : Text × ℕ) : List CallEvent → Option Bool
  | [] => none
  | .issued _ :: events => lastStatus path position events
  | .statusSet credential revoked :: events =>
      if statusPosition path credential = some position then some revoked
      else lastStatus path position events

/-- The status last written for a credential. -/
def lastStatusOf (path : Text) (credential : Credential) (events : List CallEvent) :
    Option Bool :=
  (statusPosition path credential).bind fun position => lastStatus path position events

/-- The status entries returned. -/
def issuedResults : List CallEvent → List RevocationDataResult
  | [] => []
  | .issued result :: events => result :: issuedResults events
  | .statusSet _ _ :: events => issuedResults events

/-! ### The invariant of a run -/

/-- **The invariant**: the bit of every entry handed out is the one last written there, and so are
the bits of the current list that are still to be handed out. -/
structure Tracked (lib : VcStatusRl2020) (path did : Text) (events : List CallEvent) (db : Db) :
    Prop where
  own : OwnLists lib path did db
  handed : ∀ {m i}, ⟨path ++ listPath did m, i⟩ ∈ issuedResults events →
    storedBit lib db.lists (listPath did m) i =
      some ((lastStatus path (listPath did m, i) events).getD false)
  ahead : ∀ {row list j}, countersOf db.data path did = some row →
    listOf db.lists did row.listCounter = some list → row.indexCounter < j →
    j < row.bitStringLength → storedBit lib db.lists (listPath did row.listCounter) j =
      some ((lastStatus path (listPath did row.listCounter, j) events).getD false)
  touched : ∀ {p i revoked}, lastStatus path (p, i) events = some revoked →
    (storedBit lib db.lists p i).isSome
  reached : ∀ {result}, result ∈ issuedResults events → ∃ m i row,
    result = ⟨path ++ listPath did m, i⟩ ∧ countersOf db.data path did = some row ∧
      toLex (m, i) ≤ toLex row.counters
  nodup : (issuedResults events).Nodup

theorem Tracked.start (hown : OwnLists lib path did db) (hahead : NothingAhead lib path did db) :
    Tracked lib path did [] db where
  own := hown
  handed h := by cases h
  ahead := by
    intro row list j hrow hlist hi hj
    have hne := hahead row hrow j hi hj
    have hsome := (hown.capacity hrow hlist).isSome_getBit hj
    rw [hown.storedBit_listPath, hlist, Option.bind_some] at hne ⊢
    obtain ⟨b, hb⟩ := Option.isSome_iff_exists.1 hsome
    cases b with
    | false => exact hb
    | true => exact absurd hb hne
  touched h := by cases h
  reached h := by cases h
  nodup := List.nodup_nil

/-- **An allocation keeps the invariant.** -/
theorem Tracked.issued {events : List CallEvent} (ht : Tracked lib path did events db)
    (hlib : lib.Lawful) {row : RevocationData} (h : Issued lib path did db row db') :
    Tracked lib path did
      (.issued ⟨path ++ listPath did row.listCounter, row.indexCounter⟩ :: events) db' := by
  have hown' := ht.own.issued hlib h
  obtain ⟨env, req, henv, hens⟩ := h.ensured
  have hkept : ∀ {p i b}, storedBit lib db.lists p i = some b →
      storedBit lib db'.lists p i = some b := hens.storedBit_kept
  -- an index of the list in force from the one handed out on
  have hcurrent : ∀ j, row.indexCounter ≤ j → j < row.bitStringLength →
      storedBit lib db'.lists (listPath did row.listCounter) j =
        some ((lastStatus path (listPath did row.listCounter, j) events).getD false) := by
    intro j hi hj
    cases hlist : listOf db.lists did row.listCounter with
    | none =>
        rw [h.storedBit_created hlib hown' hlist hj]
        cases hlast : lastStatus path (listPath did row.listCounter, j) events with
        | none => rfl
        | some revoked =>
            have hsome := ht.touched hlast
            rw [ht.own.storedBit_listPath, hlist] at hsome
            cases hsome
    | some list =>
        obtain ⟨row₀, hrow₀, hl, hb, hlt⟩ := h.same_list ht.own hlist
        rw [hl] at hlist ⊢
        exact hkept (ht.ahead hrow₀ hlist (by omega) (by omega))
  have hlater : ∀ {m i}, (∃ row₀, countersOf db.data path did = some row₀ ∧
      toLex (m, i) ≤ toLex row₀.counters) → toLex (m, i) < toLex row.counters := by
    rintro m i ⟨row₀, hrow₀, hle⟩
    exact hle.trans_lt (h.later row₀ hrow₀).lt
  constructor
  case own => exact hown'
  case handed =>
      intro m i hmem
      rcases List.mem_cons.1 hmem with heq | hold
      · rw [RevocationDataResult.mk.injEq, List.append_right_inj, listPath_inj] at heq
        obtain ⟨⟨-, rfl⟩, rfl⟩ := heq
        exact hcurrent _ le_rfl h.index_lt
      · exact hkept (ht.handed hold)
  case ahead =>
      intro row' list j hrow' _ hi hj
      rw [h.counters_eq, Option.some.injEq] at hrow'
      subst hrow'
      exact hcurrent j hi.le hj
  case touched =>
      intro p i revoked hlast
      obtain ⟨b, hb⟩ := Option.isSome_iff_exists.1 (ht.touched hlast)
      rw [hkept hb]
      rfl
  case reached =>
      intro result hmem
      rcases List.mem_cons.1 hmem with rfl | hold
      · exact ⟨_, _, row, rfl, h.counters_eq, le_rfl⟩
      · obtain ⟨m, i, row₀, rfl, hrow₀, hle⟩ := ht.reached hold
        exact ⟨m, i, row, rfl, h.counters_eq, (hlater ⟨row₀, hrow₀, hle⟩).le⟩
  case nodup =>
      refine List.nodup_cons.2 ⟨?_, ht.nodup⟩
      intro hmem
      obtain ⟨m, i, row₀, heq, hrow₀, hle⟩ := ht.reached hmem
      rw [RevocationDataResult.mk.injEq, List.append_right_inj, listPath_inj] at heq
      obtain ⟨⟨-, rfl⟩, rfl⟩ := heq
      exact lt_irrefl _ (hlater ⟨row₀, hrow₀, hle⟩)

/-- **A status change keeps the invariant.** -/
theorem Tracked.statusSet {events : List CallEvent} (ht : Tracked lib path did events db)
    (hlib : lib.Lawful) (henv : env.Lawful) {n : ℕ} {hash : Text} {revoked : Bool}
    {credential : Credential}
    (hcredential : ∀ found, env.dataStoreGetVerifiableCredential hash = .ok (some found) →
      found = credential)
    (h : SetStatusEnd lib env ⟨path, n⟩ revoked hash db (.ok (), db')) :
    Tracked lib path did (.statusSet credential revoked :: events) db' := by
  obtain ⟨found, position, hfound, hposition, hbits⟩ := h.bitWritten hlib henv
  obtain rfl := hcredential found hfound
  obtain ⟨row, vc, hmem, hvc, rfl⟩ := h.resigned hlib henv
  -- a position that holds the status last written still does
  have hstep : ∀ {p i}, storedBit lib db.lists p i =
        some ((lastStatus path (p, i) events).getD false) →
      storedBit lib (db.lists.put { row with verifiableCredential := vc }) p i =
        some ((lastStatus path (p, i) (.statusSet found revoked :: events)).getD false) := by
    intro p i hb
    rw [lastStatus, hposition]
    by_cases heq : position = (p, i)
    · rw [if_pos (congrArg some heq)]
      subst heq
      exact hbits.written
    · rw [if_neg (fun hs => heq (Option.some.inj hs))]
      exact hbits.kept (Ne.symm heq) hb
  constructor
  case own => exact ht.own.setStatus hlib henv h
  case handed => exact fun hres => hstep (ht.handed hres)
  case ahead =>
      intro data list j hdata hlist hi hj
      have hold : ∃ list, listOf db.lists did data.listCounter = some list := by
        rcases listOf_resigned vc hmem did data.listCounter with heq | ⟨hold, -⟩
        · exact ⟨list, heq ▸ hlist⟩
        · exact ⟨row, hold⟩
      obtain ⟨list, hlist⟩ := hold
      exact hstep (ht.ahead hdata hlist hi hj)
  case touched =>
      intro p i revoked' hlast
      rw [lastStatus, hposition] at hlast
      by_cases heq : position = (p, i)
      · subst heq
        rw [hbits.written]
        rfl
      · rw [if_neg (fun hs => heq (Option.some.inj hs))] at hlast
        obtain ⟨b, hb⟩ := Option.isSome_iff_exists.1 (ht.touched hlast)
        rw [hbits.kept (Ne.symm heq) hb]
        rfl
  case reached => exact fun hres => ht.reached hres
  case nodup => exact ht.nodup

/-- **The invariant holds after every run of successful calls.** -/
theorem CallRun.tracked {start : Db} {events : List CallEvent}
    (hrun : CallRun lib path did start events db) (hlib : lib.Lawful)
    (hown : OwnLists lib path did start) (hahead : NothingAhead lib path did start) :
    Tracked lib path did events db := by
  induction hrun with
  | nil => exact Tracked.start hown hahead
  | cons _ hstep ih =>
      cases hstep with
      | getRevocationData hn henvs h =>
          obtain ⟨row, rfl, hissued⟩ := issued_effect henvs h
          exact ih.issued hlib hissued
      | setStatus henvs hcredential h =>
          obtain ⟨k, hend⟩ := h.effect
          exact ih.statusSet hlib (henvs k) (hcredential k) hend

/-! ### The bit of every entry -/

/-- Different entries handed out point at different positions. -/
theorem Tracked.statusPosition_ne {events : List CallEvent}
    (ht : Tracked lib path did events db) (hcolon : ':' ∈ path)
    {result result' : RevocationDataResult}
    (hmem : result ∈ issuedResults events) (hmem' : result' ∈ issuedResults events)
    (hne : result ≠ result') {credential credential' : Credential}
    (h : credential.credentialStatus = some (credentialStatusOf result))
    (h' : credential'.credentialStatus = some (credentialStatusOf result')) :
    statusPosition path credential ≠ statusPosition path credential' := by
  obtain ⟨m, i, -, rfl, -⟩ := ht.reached hmem
  obtain ⟨m', i', -, rfl, -⟩ := ht.reached hmem'
  rw [statusPosition_issued hcolon h, statusPosition_issued hcolon h']
  intro heq
  simp only [Option.some.injEq, Prod.mk.injEq] at heq
  exact hne (by rw [heq.1, heq.2])

/-- **The bit behind every status entry.**  After any successful calls for one issuer, on tables
that hold lists of that issuer only: the bit of a credential whose entry was handed out is the
status last written for it, or zero; no entry is handed out twice, and different entries point at
different positions; a further call on one credential changes the bit of no credential elsewhere,
and a further allocation changes no bit that is stored. -/
theorem status_bits {start : Db} {events : List CallEvent} (hcolon : ':' ∈ path)
    (hlib : lib.Lawful) (hown : OwnLists lib path did start)
    (hahead : NothingAhead lib path did start) (hrun : CallRun lib path did start events db) :
    (∀ result ∈ issuedResults events, ∀ credential : Credential,
      credential.credentialStatus = some (credentialStatusOf result) →
      credentialBit lib path db.lists credential =
        some ((lastStatusOf path credential events).getD false)) ∧
    (issuedResults events).Nodup ∧
    (∀ result ∈ issuedResults events, ∀ result' ∈ issuedResults events, result ≠ result' →
      ∀ credential credential' : Credential,
      credential.credentialStatus = some (credentialStatusOf result) →
      credential'.credentialStatus = some (credentialStatusOf result') →
      statusPosition path credential ≠ statusPosition path credential') ∧
    (∀ credential revoked db', CallStep lib path did db (.statusSet credential revoked) db' →
      ∀ other, statusPosition path other ≠ statusPosition path credential →
      ∀ b, credentialBit lib path db.lists other = some b →
        credentialBit lib path db'.lists other = some b) ∧
    (∀ result db', CallStep lib path did db (.issued result) db' →
      ∀ p i b, storedBit lib db.lists p i = some b → storedBit lib db'.lists p i = some b) := by
  have ht := hrun.tracked hlib hown hahead
  refine ⟨?_, ht.nodup, fun _ hmem _ hmem' hne _ _ => ht.statusPosition_ne hcolon hmem hmem' hne,
    ?_, ?_⟩
  · intro result hmem credential hstatus
    obtain ⟨m, i, -, rfl, -⟩ := ht.reached hmem
    rw [credentialBit, lastStatusOf, statusPosition_issued hcolon hstatus]
    exact ht.handed hmem
  · intro credential revoked db' hstep other hne b hb
    cases hstep with
    | setStatus henvs hcredential h =>
        obtain ⟨k, hend⟩ := h.effect
        obtain ⟨found, position, hfound, hposition, hbits⟩ := hend.bitWritten hlib (henvs k)
        obtain rfl := hcredential k found hfound
        obtain ⟨q, hq, hbit⟩ := Option.bind_eq_some_iff.1 hb
        rw [credentialBit, hq]
        refine hbits.kept ?_ hbit
        intro heq
        exact hne (by rw [hq, hposition, ← heq])
  · intro result db' hstep p i b hb
    cases hstep with
    | getRevocationData _ henvs h =>
        obtain ⟨row, -, hissued⟩ := issued_effect henvs h
        obtain ⟨_, _, _, hens⟩ := hissued.ensured
        exact hens.storedBit_kept hb

/-- An entry of a list of length two, and its revocation: the bit is set. -/
theorem status_bits_plain :
    credentialBit plainLib plainPath plainRevoked.lists plainCredential = some true := by
  have hissue : getRevocationData plainLib plainOptions plainDid ⟨true⟩ plainEnvs Db.empty =
      (.ok (some ⟨plainPath ++ listPath plainDid 0, 0⟩), plainIssued) := rfl
  have hrevoke : callTransaction
      (revokeCredentialTransaction plainLib plainOptions plainHash ⟨true⟩)
      plainEnvs plainIssued = (.ok (some ()), plainRevoked) := rfl
  have hcredential : ∀ k found, (plainEnvs k).env.dataStoreGetVerifiableCredential plainHash =
      .ok (some found) → found = plainCredential := by
    intro k found h
    cases h
    rfl
  have hrun := (CallRun.nil.cons (.getRevocationData Nat.zero_lt_two plainEnvs_lawful hissue)).cons
    (.setStatus plainEnvs_lawful hcredential (.revokeCredential hrevoke))
  exact (status_bits (by decide) plainLib_lawful ownLists_empty nothingAhead_empty hrun).1 _
    (List.mem_singleton.2 rfl) plainCredential rfl

end Revocation
