/-
**The data model of the revocation list plugin.**

The plugin keeps two tables: `revocation-data`, one row of counters for each base path and issuer,
and `revocation-list`, one signed status list for each list path and issuer.  Everything else it
needs it asks for: the agent (its identifiers, its data store, its signing method) and the
library that encodes, decodes and checks status lists.  This module holds the rows, the
operations a method of the plugin can perform, and what is assumed of the agent and the library.

The generated `id` column is not modelled: the migration puts a unique index on the columns of
`RevocationData.key` and of `RevocationList.key`, no method changes them, and so the entity a
`save` addresses by its `id` is the row with that key.  The `verifiableCredential` column holds
`JSON.stringify` of the list credential; the row keeps the credential itself.

Main definitions:

* `Revocation.RevocationData`, `Revocation.RevocationList` — the rows of the two tables;
* `Revocation.Op`, `Revocation.StoreM` — the operations, and programs over them;
* `Revocation.VcStatusRl2020` — the status list library, as a parameter;
* `Revocation.Env` — the answers of the agent and of the check, as a parameter;
* `Revocation.serve` — what an operation does to the two tables when nothing else runs.
-/

import Vckit.Text
import Vckit.Table
import Vckit.Prog

set_option relaxedAutoImplicit false
set_option autoImplicit false

namespace Revocation

/-! ### Entities -/

/-- The unique index of `revocation-data`. -/
structure DataKey where
  revocationListUrlPath : Text
  revocationVCIssuer : Text
  deriving DecidableEq

/-- A row of `revocation-data`. -/
structure RevocationData where
  revocationListUrlPath : Text
  revocationVCIssuer : Text
  listCounter : ℕ
  indexCounter : ℕ
  bitStringLength : ℕ
  deriving DecidableEq

/-- The columns of a row under the unique index. -/
def RevocationData.key (r : RevocationData) : DataKey :=
  ⟨r.revocationListUrlPath, r.revocationVCIssuer⟩

/-- A `new RevocationData()`: the counters are not set. -/
structure NewRevocationData where
  revocationListUrlPath : Text
  revocationVCIssuer : Text
  bitStringLength : ℕ
  deriving DecidableEq

/-- The row inserted for a new entity: `@Column({ default: 0 })` fills the counters. -/
def NewRevocationData.toRow (r : NewRevocationData) : RevocationData where
  revocationListUrlPath := r.revocationListUrlPath
  revocationVCIssuer := r.revocationVCIssuer
  listCounter := 0
  indexCounter := 0
  bitStringLength := r.bitStringLength

/-- The fields of a status list credential that are written or read again: its `id`, its
`issuer` and `credentialSubject.encodedList`. -/
structure ListCredential where
  id : Text
  issuer : Text
  encodedList : Text
  deriving DecidableEq

/-- The unique index of `revocation-list`. -/
structure ListKey where
  revocationListFullUrlPath : Text
  revocationVCIssuer : Text
  deriving DecidableEq

/-- A row of `revocation-list`. -/
structure RevocationList where
  revocationListFullUrlPath : Text
  revocationVCIssuer : Text
  verifiableCredential : ListCredential
  deriving DecidableEq

/-- The columns of a row under the unique index. -/
def RevocationList.key (r : RevocationList) : ListKey :=
  ⟨r.revocationListFullUrlPath, r.revocationVCIssuer⟩

/-- A `where` clause on `revocation-list`: by path, or by path and issuer. -/
structure ListQuery where
  revocationListFullUrlPath : Text
  revocationVCIssuer : Option Text
  deriving DecidableEq

/-- A row's key passes the `where` clause. -/
def ListQuery.accepts (q : ListQuery) (k : ListKey) : Bool :=
  decide (k.revocationListFullUrlPath = q.revocationListFullUrlPath) &&
    (match q.revocationVCIssuer with
      | none => true
      | some issuer => decide (k.revocationVCIssuer = issuer))

/-- A query by path alone tests the path. -/
theorem ListQuery.accepts_path_iff {path : Text} {k : ListKey} :
    ListQuery.accepts ⟨path, none⟩ k = true ↔ k.revocationListFullUrlPath = path := by
  simp [ListQuery.accepts]

/-- The two tables. -/
structure Db where
  data : Table RevocationData.key
  lists : Table RevocationList.key

/-- The tables with a row of counters written. -/
def Db.putData (db : Db) (row : RevocationData) : Db := { db with data := db.data.put row }

/-- The tables with a list written. -/
def Db.putList (db : Db) (row : RevocationList) : Db := { db with lists := db.lists.put row }

@[simp] theorem Db.data_putData (db : Db) (row : RevocationData) :
    (db.putData row).data = db.data.put row := rfl

@[simp] theorem Db.lists_putData (db : Db) (row : RevocationData) :
    (db.putData row).lists = db.lists := rfl

@[simp] theorem Db.data_putList (db : Db) (row : RevocationList) :
    (db.putList row).data = db.data := rfl

@[simp] theorem Db.lists_putList (db : Db) (row : RevocationList) :
    (db.putList row).lists = db.lists.put row := rfl

/-- The database after the migration. -/
def Db.empty : Db := ⟨Table.empty, Table.empty⟩

/-! ### Credentials and identifiers -/

/-- The `credentialStatus` of a credential.  An index that is no natural number is `none`. -/
structure CredentialStatusEntry where
  id : Text
  type : Text
  revocationListIndex : Option ℕ
  revocationListCredential : Text
  deriving DecidableEq

/-- A stored credential. -/
structure Credential where
  credentialStatus : Option CredentialStatusEntry
  deriving DecidableEq

/-- An identifier managed by the agent. -/
structure Identifier where
  did : Text
  deriving DecidableEq

/-- The bits of a `RevocationList2020` object. -/
abbrev RevocationList2020 := List Bool

/-! ### Operations -/

/-- What a method of the plugin asks of the database, the agent and the library's check. -/
inductive Op where
  /-- `createQueryBuilder().setLock('pessimistic_read').where(query).getExists()`. -/
  | lockData (query : DataKey)
  /-- `getRepository(RevocationData).findOne({ where })`. -/
  | findOneData (query : DataKey)
  /-- `getRepository(RevocationData).save` of a new entity. -/
  | insertData (entity : NewRevocationData)
  /-- `getRepository(RevocationData).save` of a loaded entity. -/
  | updateData (entity : RevocationData)
  | lockList (query : ListQuery)
  | findOneList (query : ListQuery)
  /-- `getRepository(RevocationList).save` of a new entity. -/
  | insertList (entity : RevocationList)
  /-- `getRepository(RevocationList).save` of a loaded entity. -/
  | updateList (entity : RevocationList)
  | didManagerGet (did : Text)
  | createVerifiableCredential (credential : ListCredential)
  | dataStoreGetVerifiableCredential (hash : Text)
  /-- The library's `checkStatus`; the answer is `result.verified`. -/
  | transmuteCheckStatus (credential : Credential)
  deriving DecidableEq

/-- The answer an operation resolves to. -/
@[reducible] def Op.Resp : Op → Type
  | .lockData _ | .lockList _ => Unit
  | .findOneData _ => Option RevocationData
  | .insertData _ | .updateData _ => RevocationData
  | .findOneList _ => Option RevocationList
  | .insertList _ | .updateList _ => RevocationList
  | .didManagerGet _ => Identifier
  | .createVerifiableCredential _ => ListCredential
  | .dataStoreGetVerifiableCredential _ => Option Credential
  | .transmuteCheckStatus _ => Bool

/-- Asynchronous methods of the plugin. -/
abbrev StoreM := Prog Op Op.Resp JsError

/-- `await` one operation. -/
def perform (o : Op) : StoreM o.Resp := Prog.perform o

/-! ### The status list library and the agent -/

/-- The functions of the status list library that the store calls. -/
structure VcStatusRl2020 where
  createList : ℕ → Except JsError RevocationList2020
  createCredential : Text → RevocationList2020 → Except JsError ListCredential
  decodeList : Text → Except JsError RevocationList2020
  setRevoked : RevocationList2020 → Option ℕ → Bool → Except JsError RevocationList2020

/-- What the plugin relies on in the library. -/
structure VcStatusRl2020.Lawful (lib : VcStatusRl2020) : Prop where
  /-- A new list has the bits asked for, and none is set. -/
  createList_ok : ∀ {n l}, lib.createList n = .ok l → n ≤ l.length ∧ ∀ b ∈ l, b = false
  /-- The credential made of a list decodes to its bits, padded at the end at most. -/
  createCredential_ok : ∀ {id l c}, lib.createCredential id l = .ok c →
    c.id = id ∧ ∃ l', lib.decodeList c.encodedList = .ok l' ∧ l <+: l'
  /-- Setting a bit changes that bit only, and fails outside the list. -/
  setRevoked_ok : ∀ {l i b l'}, lib.setRevoked l i b = .ok l' →
    ∃ j, i = some j ∧ j < l.length ∧ l' = l.set j b

/-- The answers of the agent, of the library's check and of a database that fails: `fault` is the
error an operation ends with, if it does not get through. -/
structure Env where
  didManagerGet : Text → Except JsError Identifier
  createVerifiableCredential : ListCredential → Except JsError ListCredential
  dataStoreGetVerifiableCredential : Text → Except JsError (Option Credential)
  transmuteCheckStatus : Db → Credential → Except JsError Bool
  fault : Op → Option JsError

/-- What the plugin relies on in the agent: it returns the identifier asked for, and signing
keeps the credential's fields. -/
structure Env.Lawful (env : Env) : Prop where
  didManagerGet_ok : ∀ {did i}, env.didManagerGet did = .ok i → i.did = did
  createVerifiableCredential_ok : ∀ {c vc}, env.createVerifiableCredential c = .ok vc → vc = c

/-! ### One operation on the tables -/

/-- The error of an insert that a unique index refuses. -/
def uniqueViolation : JsError :=
  ⟨"QueryFailedError".toList, "duplicate key value violates unique constraint".toList⟩

/-- An operation that gets through, on tables nobody else is using. -/
def serveOp (env : Env) : (o : Op) → Db → Except JsError o.Resp × Db
  | .lockData _, db => (.ok (), db)
  | .findOneData query, db => (.ok (db.data.lookup query), db)
  | .insertData entity, db =>
      match db.data.insert entity.toRow with
      | some data => (.ok entity.toRow, { db with data })
      | none => (.error uniqueViolation, db)
  | .updateData entity, db => (.ok entity, db.putData entity)
  | .lockList _, db => (.ok (), db)
  | .findOneList query, db => (.ok (db.lists.findOne query.accepts), db)
  | .insertList entity, db =>
      match db.lists.insert entity with
      | some lists => (.ok entity, { db with lists })
      | none => (.error uniqueViolation, db)
  | .updateList entity, db => (.ok entity, db.putList entity)
  | .didManagerGet did, db => (env.didManagerGet did, db)
  | .createVerifiableCredential credential, db => (env.createVerifiableCredential credential, db)
  | .dataStoreGetVerifiableCredential hash, db => (env.dataStoreGetVerifiableCredential hash, db)
  | .transmuteCheckStatus credential, db => (env.transmuteCheckStatus db credential, db)

/-- An operation on tables nobody else is using. -/
def serve (env : Env) (o : Op) (db : Db) : Except JsError o.Resp × Db :=
  match env.fault o with
  | some e => (.error e, db)
  | none => serveOp env o db

end Revocation
