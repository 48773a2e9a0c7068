/-
**Tables with row locks.**

A database that supports the lock the plugin asks for.  A transaction reads committed rows and its
own writes.  `pessimistic_read` takes a shared lock on the rows that match, and waits while another
transaction has written one of them; a write waits while another transaction has locked or written
its row; the unique indexes hold.  An operation that has to wait may be aborted instead: then all
writes of its transaction are undone, and it ends with an error that says `deadlock`.  Every wait
cycle is broken in this way; aborts outside a cycle are allowed as well, which only adds runs.

Main definitions:

* `Revocation.LockedDb` — the two tables;
* `Revocation.serveLocked`, `Revocation.lockedStore` — operations, commits and rollbacks;
* `Revocation.DataAccess`, `Revocation.ListAccess` — what an operation does to each table.

Main results:

* `Revocation.serve_access` — an operation is one access to each table;
* `Revocation.lockedStore_legal` — the store answers legally.
-/

import Vckit.LockTable
import Vckit.CallRuns

set_option relaxedAutoImplicit false
set_option autoImplicit false

namespace Revocation

variable {ι : Type}

/-! ### The store -/

/-- The two tables under locks. -/
structure LockedDb (ι : Type) where
  data : LockTable ι RevocationData.key
  lists : LockTable ι RevocationList.key

/-- Tables that no transaction uses. -/
def LockedDb.start (db : Db) : LockedDb ι := ⟨LockTable.start db.data, LockTable.start db.lists⟩

/-- What the outside world chooses in a step; with `abort` an operation that has to wait is
aborted. -/
structure LockedEnv where
  env : Env
  commitError : Option JsError
  abort : Bool

/-- The error of an operation that is aborted. -/
def deadlockError : JsError := ⟨"QueryFailedError".toList, "deadlock detected".toList⟩

section Store

variable [DecidableEq ι]

def LockedDb.commit (s : LockedDb ι) (i : ι) : LockedDb ι := ⟨s.data.commit i, s.lists.commit i⟩

def LockedDb.rollback (s : LockedDb ι) (i : ι) : LockedDb ι :=
  ⟨s.data.rollback i, s.lists.rollback i⟩

/-- An operation that cannot be performed now. -/
def wait {R : Type} (i : ι) (x : LockedEnv) (s : LockedDb ι) :
    Option (Except JsError R × LockedDb ι) :=
  if x.abort then some (.error deadlockError, s.rollback i) else none

/-- An operation of transaction `i` that gets through to the tables or the agent. -/
def serveLocked (i : ι) (x : LockedEnv) :
    (o : Op) → LockedDb ι → Option (Except JsError o.Resp × LockedDb ι)
  | .lockData query, s =>
      match s.data.lock i fun k => decide (k = query) with
      | none => wait i x s
      | some data => some (.ok (), { s with data })
  | .findOneData query, s => some (.ok ((s.data.visible i).lookup query), s)
  | .insertData entity, s =>
      match s.data.insert i entity.toRow with
      | none => wait i x s
      | some none => some (.error uniqueViolation, s)
      | some (some data) => some (.ok entity.toRow, { s with data })
  | .updateData entity, s =>
      match s.data.update i entity with
      | none => wait i x s
      | some data => some (.ok entity, { s with data })
  | .lockList query, s =>
      match s.lists.lock i query.accepts with
      | none => wait i x s
      | some lists => some (.ok (), { s with lists })
  | .findOneList query, s => some (.ok ((s.lists.visible i).findOne query.accepts), s)
  | .insertList entity, s =>
      match s.lists.insert i entity with
      | none => wait i x s
      | some none => some (.error uniqueViolation, s)
      | some (some lists) => some (.ok entity, { s with lists })
  | .updateList entity, s =>
      match s.lists.update i entity with
      | none => wait i x s
      | some lists => some (.ok entity, { s with lists })
  | .didManagerGet did, s => some (x.env.didManagerGet did, s)
  | .createVerifiableCredential credential, s =>
      some (x.env.createVerifiableCredential credential, s)
  | .dataStoreGetVerifiableCredential hash, s =>
      some (x.env.dataStoreGetVerifiableCredential hash, s)
  | .transmuteCheckStatus credential, s =>
      some (x.env.transmuteCheckStatus ⟨s.data.committed, s.lists.committed⟩ credential, s)

/-- The tables under locks, as calls share them. -/
def lockedStore : CallStore ι (LockedDb ι) LockedEnv where
  serve i x o s :=
    match x.env.fault o with
    | some e => some (.error e, s)
    | none => serveLocked i x o s
  commit i s := s.commit i
  rollback i s := s.rollback i
  commitError x := x.commitError

/-! ### Access to one table -/

/-- **What an operation does to the counters.** -/
inductive DataAccess (i : ι) (t : LockTable ι RevocationData.key) :
    (o : Op) → Except JsError o.Resp → LockTable ι RevocationData.key → Prop
  | other {o : Op} {r : Except JsError o.Resp} (hfound : dataFoundBy o r = none)
      (hsaved : dataSavedBy o r = none) : DataAccess i t o r t
  | aborted {o : Op} {r : Except JsError o.Resp} (hfound : dataFoundBy o r = none)
      (hsaved : dataSavedBy o r = none) (herror : ¬ Sound o r) :
      DataAccess i t o r (t.rollback i)
  | locked {query : DataKey} {t' : LockTable ι RevocationData.key}
      (h : t.lock i (fun k => decide (k = query)) = some t') :
      DataAccess i t (.lockData query) (.ok ()) t'
  | found {query : DataKey} :
      DataAccess i t (.findOneData query) (.ok ((t.visible i).lookup query)) t
  | inserted {entity : NewRevocationData} {t' : LockTable ι RevocationData.key}
      (h : t.insert i entity.toRow = some (some t')) :
      DataAccess i t (.insertData entity) (.ok entity.toRow) t'
  | updated {entity : RevocationData} {t' : LockTable ι RevocationData.key}
      (h : t.update i entity = some t') : DataAccess i t (.updateData entity) (.ok entity) t'

/-- **What an operation does to the lists.** -/
inductive ListAccess (i : ι) (t : LockTable ι RevocationList.key) :
    (o : Op) → Except JsError o.Resp → LockTable ι RevocationList.key → Prop
  | other {o : Op} {r : Except JsError o.Resp} (hfound : listFoundBy o r = none)
      (hsaved : listSavedBy o r = none) : ListAccess i t o r t
  | aborted {o : Op} {r : Except JsError o.Resp} (hfound : listFoundBy o r = none)
      (hsaved : listSavedBy o r = none) (herror : ¬ Sound o r) :
      ListAccess i t o r (t.rollback i)
  | locked {query : ListQuery} {t' : LockTable ι RevocationList.key}
      (h : t.lock i query.accepts = some t') : ListAccess i t (.lockList query) (.ok ()) t'
  | found {query : ListQuery} :
      ListAccess i t (.findOneList query) (.ok ((t.visible i).findOne query.accepts)) t
  | inserted {entity : RevocationList} {t' : LockTable ι RevocationList.key}
      (h : t.insert i entity = some (some t')) :
      ListAccess i t (.insertList entity) (.ok entity) t'
  | updated {entity : RevocationList} {t' : LockTable ι RevocationList.key}
      (h : t.update i entity = some t') : ListAccess i t (.updateList entity) (.ok entity) t'

theorem DataAccess.operation {i : ι} {t t' : LockTable ι RevocationData.key} {o : Op}
    {r : Except JsError o.Resp} (h : DataAccess i t o r t') : LockTable.Operation i t t' := by
  cases h with
  | other => exact LockTable.Operation.refl
  | aborted => exact LockTable.Operation.rollback
  | locked h => exact LockTable.Operation.lock h
  | found => exact LockTable.Operation.refl
  | inserted h => exact LockTable.Operation.insert h
  | updated h => exact LockTable.Operation.update h

theorem ListAccess.operation {i : ι} {t t' : LockTable ι RevocationList.key} {o : Op}
    {r : Except JsError o.Resp} (h : ListAccess i t o r t') : LockTable.Operation i t t' := by
  cases h with
  | other => exact LockTable.Operation.refl
  | aborted => exact LockTable.Operation.rollback
  | locked h => exact LockTable.Operation.lock h
  | found => exact LockTable.Operation.refl
  | inserted h => exact LockTable.Operation.insert h
  | updated h => exact LockTable.Operation.update h

/-- Nothing is committed by an operation. -/
theorem DataAccess.committed_eq {i : ι} {t t' : LockTable ι RevocationData.key} {o : Op}
    {r : Except JsError o.Resp} (h : DataAccess i t o r t') : t'.committed = t.committed :=
  h.operation.committed_eq

theorem ListAccess.committed_eq {i : ι} {t t' : LockTable ι RevocationList.key} {o : Op}
    {r : Except JsError o.Resp} (h : ListAccess i t o r t') : t'.committed = t.committed :=
  h.operation.committed_eq

/-! ### Operations as accesses -/

/-- An operation that fails finds and saves nothing. -/
theorem found_saved_error (o : Op) (e : JsError) :
    (dataFoundBy o (.error e) = none ∧ dataSavedBy o (.error e) = none) ∧
      listFoundBy o (.error e) = none ∧ listSavedBy o (.error e) = none := by
  cases o <;> exact ⟨⟨rfl, rfl⟩, rfl, rfl⟩

section Access

variable {i : ι} {x : LockedEnv} {o : Op} {r : Except JsError o.Resp} {s s' : LockedDb ι}

/-- An operation that fails and leaves the tables as they are. -/
theorem access_error (i : ι) (o : Op) (e : JsError) (s : LockedDb ι) :
    DataAccess i s.data o (.error e) s.data ∧ ListAccess i s.lists o (.error e) s.lists :=
  ⟨DataAccess.other (found_saved_error o e).1.1 (found_saved_error o e).1.2,
    ListAccess.other (found_saved_error o e).2.1 (found_saved_error o e).2.2⟩

/-- An operation that is aborted. -/
theorem access_of_wait (h : wait i x s = some (r, s')) :
    DataAccess i s.data o r s'.data ∧ ListAccess i s.lists o r s'.lists := by
  unfold wait at h
  split at h
  · simp only [Option.some.injEq, Prod.mk.injEq] at h
    obtain ⟨rfl, rfl⟩ := h
    obtain ⟨hdata, hlists⟩ := found_saved_error o deadlockError
    have herror : ¬ Sound o (.error deadlockError) := by
      intro hsound
      exact absurd (hsound deadlockError rfl) (by decide)
    exact ⟨DataAccess.aborted hdata.1 hdata.2 herror,
      ListAccess.aborted hlists.1 hlists.2 herror⟩
  · cases h

/-- **An operation is one access to each table.** -/
theorem serve_access (h : lockedStore.serve i x o s = some (r, s')) :
    DataAccess i s.data o r s'.data ∧ ListAccess i s.lists o r s'.lists := by
  simp only [lockedStore] at h
  cases hfault : x.env.fault o with
  | some e =>
      simp only [hfault, Option.some.injEq, Prod.mk.injEq] at h
      obtain ⟨rfl, rfl⟩ := h
      exact access_error i o e s
  | none =>
      simp only [hfault] at h
      cases o with
      | lockData query =>
          simp only [serveLocked] at h
          cases hlock : s.data.lock i fun k => decide (k = query) with
          | none =>
              rw [hlock] at h
              exact access_of_wait h
          | some data =>
              simp only [hlock, Option.some.injEq, Prod.mk.injEq] at h
              obtain ⟨rfl, rfl⟩ := h
              exact ⟨DataAccess.locked hlock, ListAccess.other rfl rfl⟩
      | findOneData query =>
          simp only [serveLocked, Option.some.injEq, Prod.mk.injEq] at h
          obtain ⟨rfl, rfl⟩ := h
          exact ⟨DataAccess.found, ListAccess.other rfl rfl⟩
      | insertData entity =>
          simp only [serveLocked] at h
          rcases hinsert : s.data.insert i entity.toRow with _ | _ | data
          · rw [hinsert] at h
            exact access_of_wait h
          · simp only [hinsert, Option.some.injEq, Prod.mk.injEq] at h
            obtain ⟨rfl, rfl⟩ := h
            exact access_error i _ _ s
          · simp only [hinsert, Option.some.injEq, Prod.mk.injEq] at h
            obtain ⟨rfl, rfl⟩ := h
            exact ⟨DataAccess.inserted hinsert, ListAccess.other rfl rfl⟩
      | updateData entity =>
          simp only [serveLocked] at h
          cases hupdate : s.data.update i entity with
          | none =>
              rw [hupdate] at h
              exact access_of_wait h
          | some data =>
              simp only [hupdate, Option.some.injEq, Prod.mk.injEq] at h
              obtain ⟨rfl, rfl⟩ := h
              exact ⟨DataAccess.updated hupdate, ListAccess.other rfl rfl⟩
      | lockList query =>
          simp only [serveLocked] at h
          cases hlock : s.lists.lock i query.accepts with
          | none =>
              rw [hlock] at h
              exact access_of_wait h
          | some lists =>
              simp only [hlock, Option.some.injEq, Prod.mk.injEq] at h
              obtain ⟨rfl, rfl⟩ := h
              exact ⟨DataAccess.other rfl rfl, ListAccess.locked hlock⟩
      | findOneList query =>
          simp only [serveLocked, Option.some.injEq, Prod.mk.injEq] at h
          obtain ⟨rfl, rfl⟩ := h
          exact ⟨DataAccess.other rfl rfl, ListAccess.found⟩
      | insertList entity =>
          simp only [serveLocked] at h
          rcases hinsert : s.lists.insert i entity with _ | _ | lists
          · rw [hinsert] at h
            exact access_of_wait h
          · simp only [hinsert, Option.some.injEq, Prod.mk.injEq] at h
            obtain ⟨rfl, rfl⟩ := h
            exact access_error i _ _ s
          · simp only [hinsert, Option.some.injEq, Prod.mk.injEq] at h
            obtain ⟨rfl, rfl⟩ := h
            exact ⟨DataAccess.other rfl rfl, ListAccess.inserted hinsert⟩
      | updateList entity =>
          simp only [serveLocked] at h
          cases hupdate : s.lists.update i entity with
          | none =>
              rw [hupdate] at h
              exact access_of_wait h
          | some lists =>
              simp only [hupdate, Option.some.injEq, Prod.mk.injEq] at h
              obtain ⟨rfl, rfl⟩ := h
              exact ⟨DataAccess.other rfl rfl, ListAccess.updated hupdate⟩
      | _ =>
          -- the agent and the library do not touch the tables
          simp only [serveLocked, Option.some.injEq, Prod.mk.injEq] at h
          obtain ⟨rfl, rfl⟩ := h
          exact ⟨DataAccess.other (by rfl) (by rfl), ListAccess.other (by rfl) (by rfl)⟩

/-- **The store answers legally.** -/
theorem lockedStore_legal {lib : VcStatusRl2020} {call : Call} {credential : Credential}
    {log : List Event} (henv : EnvFor call credential x.env)
    (hallowed : call.Allowed lib credential log o)
    (h : lockedStore.serve i x o s = some (r, s')) : Legal credential o r := by
  obtain ⟨hdid, hsign, hfound⟩ := henv.legal_agent
  obtain ⟨hdata, hlists⟩ := serve_access h
  generalize s'.data = data' at hdata
  generalize s'.lists = lists' at hlists
  cases r with
  | error e => exact legal_error credential o e
  | ok a =>
      cases o with
      | findOneData query =>
          cases hdata with
          | other hnone => cases hnone
          | aborted hnone => cases hnone
          | found =>
              cases hrow : (s.data.visible i).lookup query with
              | none => trivial
              | some row => exact (Table.lookup_eq_some_iff.1 hrow).2
      | insertData entity =>
          cases hdata with
          | other _ hnone => cases hnone
          | aborted _ hnone => cases hnone
          | inserted => rfl
      | updateData entity =>
          cases hdata with
          | other _ hnone => cases hnone
          | aborted _ hnone => cases hnone
          | updated => rfl
      | findOneList query =>
          cases hlists with
          | other hnone => cases hnone
          | aborted hnone => cases hnone
          | found =>
              cases hrow : (s.lists.visible i).findOne query.accepts with
              | none => trivial
              | some row => exact Table.key_of_findOne hrow
      | insertList entity =>
          cases hlists with
          | other _ hnone => cases hnone
          | aborted _ hnone => cases hnone
          | inserted => rfl
      | updateList entity =>
          cases hlists with
          | other _ hnone => cases hnone
          | aborted _ hnone => cases hnone
          | updated => rfl
      | lockData _ => trivial
      | lockList _ => trivial
      | transmuteCheckStatus _ => trivial
      | didManagerGet did =>
          simp only [lockedStore] at h
          cases hfault : x.env.fault (.didManagerGet did) with
          | some e => simp [hfault] at h
          | none =>
              simp only [hfault, serveLocked, Option.some.injEq, Prod.mk.injEq] at h
              rw [← h.1]
              exact hdid did
      | createVerifiableCredential c =>
          simp only [lockedStore] at h
          cases hfault : x.env.fault (.createVerifiableCredential c) with
          | some e => simp [hfault] at h
          | none =>
              simp only [hfault, serveLocked, Option.some.injEq, Prod.mk.injEq] at h
              rw [← h.1]
              exact hsign c
      | dataStoreGetVerifiableCredential hash =>
          simp only [lockedStore] at h
          cases hfault : x.env.fault (.dataStoreGetVerifiableCredential hash) with
          | some e => simp [hfault] at h
          | none =>
              simp only [hfault, serveLocked, Option.some.injEq, Prod.mk.injEq] at h
              rw [← h.1]
              exact hfound lib log hash hallowed

end Access

end Store

end Revocation
