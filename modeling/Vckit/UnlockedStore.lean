/-
**Tables without locks.**

The driver refuses every lock, the lock methods swallow the refusal, and every find and save is a
step of its own on tables that all open transactions share.  A transaction that is rolled back
puts back the rows it replaced, whatever has been saved since.

Main definitions:

* `Revocation.SharedDb`, `Revocation.Image` — the shared tables, and the rows a rollback restores;
* `Revocation.Env.withoutLocks` — a driver that refuses every lock;
* `Revocation.unlockedStore` — operations, commits and rollbacks.

Main results:

* `Revocation.data_serve`, `Revocation.lists_serve` — what an operation saves is what it answers;
* `Revocation.data_foldl_restore` — what a rollback does to the counters.
-/

import Vckit.CallRuns

set_option relaxedAutoImplicit false
set_option autoImplicit false

namespace Revocation

variable {ι : Type}

/-! ### The shared tables -/

/-- A row of one of the tables, as it was before a save. -/
inductive Image where
  | data (key : DataKey) (before : Option RevocationData)
  | list (key : ListKey) (before : Option RevocationList)

/-- The part of an image that concerns the counters. -/
def Image.data? : Image → Option (DataKey × Option RevocationData)
  | .data key before => some (key, before)
  | .list _ _ => none

/-- Put a row back. -/
def Image.restore (db : Db) : Image → Db
  | .data key before => { db with data := db.data.restore key before }
  | .list key before => { db with lists := db.lists.restore key before }

/-- The row that an operation is about to replace, when it gets through. -/
def imagesOf (db : Db) (o : Op) (r : Except JsError o.Resp) : List Image :=
  match o, r with
  | .insertData entity, .ok _ => [.data entity.toRow.key (db.data.lookup entity.toRow.key)]
  | .updateData entity, .ok _ => [.data entity.key (db.data.lookup entity.key)]
  | .insertList entity, .ok _ => [.list entity.key (db.lists.lookup entity.key)]
  | .updateList entity, .ok _ => [.list entity.key (db.lists.lookup entity.key)]
  | _, _ => []

/-- The tables that all transactions share; `undo` holds the rows replaced by those still open,
newest first. -/
structure SharedDb (ι : Type) where
  db : Db
  undo : List (ι × Image)

/-- `LockNotSupportedOnGivenDriverError`. -/
def lockNotSupportedError : JsError :=
  ⟨lockNotSupported, "Locking not supported on given driver.".toList⟩

/-- A driver that refuses every lock. -/
def Env.withoutLocks (env : Env) : Env where
  didManagerGet := env.didManagerGet
  createVerifiableCredential := env.createVerifiableCredential
  dataStoreGetVerifiableCredential := env.dataStoreGetVerifiableCredential
  transmuteCheckStatus := env.transmuteCheckStatus
  fault o :=
    match o with
    | .lockData _ | .lockList _ => some ((env.fault o).getD lockNotSupportedError)
    | _ => env.fault o

theorem EnvFor.withoutLocks {call : Call} {credential : Credential} {env : Env}
    (h : EnvFor call credential env) : EnvFor call credential env.withoutLocks where
  lawful := ⟨h.lawful.didManagerGet_ok, h.lawful.createVerifiableCredential_ok⟩
  found := h.found

section Undo

variable [DecidableEq ι]

/-- The rows that a transaction has replaced, newest first. -/
def imagesBy (i : ι) (undo : List (ι × Image)) : List Image :=
  undo.filterMap fun u => if u.1 = i then some u.2 else none

/-- The images of other transactions. -/
def imagesOfOthers (i : ι) (undo : List (ι × Image)) : List (ι × Image) :=
  undo.filter fun u => decide (u.1 ≠ i)

/-- Tables without locks: every operation is answered at once, on the rows as they are. -/
def unlockedStore : CallStore ι (SharedDb ι) AttemptEnv where
  serve i x o s :=
    let answer := serve x.env.withoutLocks o s.db
    some (answer.1, ⟨answer.2, (imagesOf s.db o answer.1).map (Prod.mk i) ++ s.undo⟩)
  commit i s := ⟨s.db, imagesOfOthers i s.undo⟩
  rollback i s := ⟨(imagesBy i s.undo).foldl Image.restore s.db, imagesOfOthers i s.undo⟩
  commitError x := x.commitError

/-- **The store answers legally.** -/
theorem unlockedStore_legal {lib : VcStatusRl2020} {call : Call} {credential : Credential}
    {log : List Event} {i : ι} {x : AttemptEnv} {o : Op} {r : Except JsError o.Resp}
    {s s' : SharedDb ι} (henv : EnvFor call credential x.env)
    (hallowed : call.Allowed lib credential log o)
    (h : unlockedStore.serve i x o s = some (r, s')) : Legal credential o r := by
  simp only [unlockedStore, Option.some.injEq, Prod.mk.injEq] at h
  obtain ⟨rfl, -⟩ := h
  exact legal_serve henv.withoutLocks hallowed s.db

/-- The counters that a transaction has replaced. -/
def dataImages (i : ι) (undo : List (ι × Image)) : List (DataKey × Option RevocationData) :=
  (imagesBy i undo).filterMap Image.data?

theorem imagesBy_append_self (i : ι) (images : List Image) (undo : List (ι × Image)) :
    imagesBy i (images.map (Prod.mk i) ++ undo) = images ++ imagesBy i undo := by
  have hown : (images.map (Prod.mk i)).filterMap
      (fun u => if u.1 = i then some u.2 else none) = images := by
    induction images with
    | nil => rfl
    | cons image images ih => simp
  rw [imagesBy, List.filterMap_append, hown]
  rfl

theorem imagesBy_append_of_ne {i j : ι} (h : j ≠ i) (images : List Image)
    (undo : List (ι × Image)) :
    imagesBy j (images.map (Prod.mk i) ++ undo) = imagesBy j undo := by
  have hown : (images.map (Prod.mk i)).filterMap
      (fun u => if u.1 = j then some u.2 else none) = [] := by
    simp [Ne.symm h]
  rw [imagesBy, List.filterMap_append, hown]
  rfl

theorem imagesBy_imagesOfOthers_self (i : ι) (undo : List (ι × Image)) :
    imagesBy i (imagesOfOthers i undo) = [] := by
  simp [imagesBy, imagesOfOthers]

theorem imagesBy_imagesOfOthers_of_ne {i j : ι} (h : j ≠ i) (undo : List (ι × Image)) :
    imagesBy j (imagesOfOthers i undo) = imagesBy j undo := by
  unfold imagesBy imagesOfOthers
  induction undo with
  | nil => rfl
  | cons u undo ih =>
      by_cases hu : u.1 = i
      · rw [List.filter_cons_of_neg (by simpa using hu), ih, List.filterMap_cons, hu,
          if_neg (Ne.symm h)]
      · rw [List.filter_cons_of_pos (by simpa using hu), List.filterMap_cons, List.filterMap_cons,
          ih]

end Undo

/-- Rolling back restores the counters that were replaced. -/
theorem data_foldl_restore (images : List Image) (db : Db) :
    (images.foldl Image.restore db).data =
      (images.filterMap Image.data?).foldl (fun t u => t.restore u.1 u.2) db.data := by
  induction images generalizing db with
  | nil => rfl
  | cons image images ih =>
      rw [List.foldl_cons, ih]
      cases image <;> rfl

/-! ### What an operation saves -/

/-- What an operation does to the counters. -/
theorem data_serve (env : Env) (o : Op) (db : Db) :
    (serve env o db).2.data =
      match dataSavedBy o (serve env o db).1 with
      | some row => db.data.put row
      | none => db.data := by
  unfold serve
  cases env.fault o with
  | some e => cases o <;> rfl
  | none =>
      cases o with
      | insertData entity =>
          simp only [serveOp]
          cases h : db.data.insert entity.toRow with
          | none => rfl
          | some data => exact (Table.insert_eq_some_iff.1 h).2
      | insertList entity =>
          simp only [serveOp]
          cases db.lists.insert entity with
          | none => rfl
          | some lists => rfl
      | _ => rfl

/-- What an operation does to the lists. -/
theorem lists_serve (env : Env) (o : Op) (db : Db) :
    (serve env o db).2.lists =
      match listSavedBy o (serve env o db).1 with
      | some row => db.lists.put row
      | none => db.lists := by
  unfold serve
  cases env.fault o with
  | some e => cases o <;> rfl
  | none =>
      cases o with
      | insertData entity =>
          simp only [serveOp]
          cases db.data.insert entity.toRow with
          | none => rfl
          | some data => rfl
      | insertList entity =>
          simp only [serveOp]
          cases h : db.lists.insert entity with
          | none => rfl
          | some lists => exact (Table.insert_eq_some_iff.1 h).2
      | _ => rfl

/-- A save of counters is an insert or an update. -/
theorem dataSavedBy_eq_some {o : Op} {r : Except JsError o.Resp} {row : RevocationData}
    (h : dataSavedBy o r = some row) :
    (∃ entity, o = .insertData entity) ∨ ∃ entity, o = .updateData entity := by
  cases o with
  | insertData entity => exact Or.inl ⟨entity, rfl⟩
  | updateData entity => exact Or.inr ⟨entity, rfl⟩
  | _ => simp [dataSavedBy] at h

/-- A save of a list is an insert or an update. -/
theorem listSavedBy_eq_some {o : Op} {r : Except JsError o.Resp} {row : RevocationList}
    (h : listSavedBy o r = some row) :
    (∃ entity, o = .insertList entity) ∨ ∃ entity, o = .updateList entity := by
  cases o with
  | insertList entity => exact Or.inl ⟨entity, rfl⟩
  | updateList entity => exact Or.inr ⟨entity, rfl⟩
  | _ => simp [listSavedBy] at h

/-- An operation that saves no counters has none to put back. -/
theorem data?_imagesOf {db : Db} {o : Op} {r : Except JsError o.Resp}
    (h : dataSavedBy o r = none) : (imagesOf db o r).filterMap Image.data? = [] := by
  cases o <;> cases r <;> simp_all [imagesOf, dataSavedBy, Image.data?]

end Revocation
