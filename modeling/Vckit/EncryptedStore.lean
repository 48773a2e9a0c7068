/-
**The encrypted storage plugin.**

`encryptAndStoreData` encrypts a value under a new key, writes the ciphertext to `encrypted-data`
under a generated id, and then writes id and key to `credential-encrypted-data` under the hash of
the value; the two writes are separate.  The value is found again by id, or by hash through the
second table.

A `where` object is a list of conditions, as `findOneBy` takes them: a condition that is `undefined`
or `null` is dropped, and one on a property that is no column is an error.

Main definitions:

* `EncryptedStorage.EncryptedData`, `EncryptedStorage.CredentialEncryptedData`,
  `EncryptedStorage.Db` — the rows and the tables;
* `EncryptedStorage.Env` — the answers of the encryption library and of a database that fails;
* `EncryptedStorage.findOneBy` — a query with a `where` object;
* `EncryptedStorage.serve` — what an operation does to the tables;
* `EncryptedStorage.encryptAndStoreData`, `EncryptedStorage.fetchEncryptedData`,
  `EncryptedStorage.fetchEncryptedDataByCredentialHash` — the methods.
-/

import Vckit.Json
import Vckit.Table
import Vckit.Prog

set_option relaxedAutoImplicit false
set_option autoImplicit false

namespace EncryptedStorage

/-! ### Entities -/

/-- A row of `encrypted-data`. -/
structure EncryptedData where
  id : Text
  data : Text
  deriving DecidableEq

/-- A row of `credential-encrypted-data`. -/
structure CredentialEncryptedData where
  credentialHash : Text
  encryptedDataId : Text
  decryptedKey : Text
  deriving DecidableEq

/-- The two tables, and the hashes in the table `credential` that the second one refers to. -/
structure Db where
  encryptedData : Table EncryptedData.id
  credentialEncryptedData : Table CredentialEncryptedData.credentialHash
  credentialHashes : List Text

variable {N : Type}

/-! ### Queries -/

/-- A `where` object; `none` is `undefined`. -/
abbrev Where (N : Type) := List (Text × Option (Json N))

/-- The conditions that are not dropped. -/
def Where.conditions (conditions : Where N) : List (Text × Json N) :=
  conditions.filterMap fun
    | (_, none) | (_, some .null) => none
    | (property, some value) => some (property, value)

/-- The columns of an entity: the test of a value against the column with a name. -/
abbrev Columns (α N : Type) := Text → Option (α → Json N → Bool)

/-- `EntityPropertyNotFoundError`. -/
def propertyNotFound (property entity : Text) : JsError :=
  ⟨"EntityPropertyNotFoundError".toList, "Property \"".toList ++ property ++
    "\" was not found in \"".toList ++ entity ++ "\". Make sure your query is correct.".toList⟩

/-- `findOneBy(conditions)` on the rows of an entity. -/
def findOneBy {α : Type} (entity : Text) (columns : Columns α N) (conditions : Where N)
    (rows : List α) : Except JsError (Option α) :=
  match conditions.conditions.find? fun condition => (columns condition.1).isNone with
  | some condition => .error (propertyNotFound condition.1 entity)
  | none =>
      .ok (rows.find? fun row => conditions.conditions.all fun condition =>
        match columns condition.1 with
        | none => false
        | some test => test row condition.2)

/-! ### Operations -/

/-- What a method of the plugin asks of the encryption library and of the database. -/
inductive Op (N : Type) where
  | generateEncryptionKey
  | encryptString (document key : Text)
  /-- `getRepository(EncryptedData).save` of a new entity. -/
  | insertEncryptedData (data : Text)
  /-- `getRepository(CredentialEncryptedData).save`. -/
  | saveCredentialEncryptedData (entity : CredentialEncryptedData)
  | findEncryptedData (conditions : Where N)
  | findCredentialEncryptedData (conditions : Where N)

/-- The answer an operation resolves to. -/
@[reducible] def Op.Resp : Op N → Type
  | .generateEncryptionKey => Text
  | .encryptString _ _ => Json N
  | .insertEncryptedData _ => EncryptedData
  | .saveCredentialEncryptedData _ => CredentialEncryptedData
  | .findEncryptedData _ => Option EncryptedData
  | .findCredentialEncryptedData _ => Option CredentialEncryptedData

/-- Asynchronous methods of the plugin. -/
abbrev StoreM (N : Type) := Prog (Op N) Op.Resp JsError

/-- `await` one operation. -/
def perform (o : Op N) : StoreM N o.Resp := Prog.perform o

/-- The answers during one call: the encryption library, which draws keys and initial vectors at
random, the id the database generates, how the driver compares a value that is no string, and
`fault`, the error an operation ends with, if it does not get through. -/
structure Env (N : Type) where
  generateEncryptionKey : Text
  encryptString : Text → Text → Except JsError (Json N)
  generatedId : Text
  sameText : Text → Json N → Bool
  sameDate : Text → EncryptedData → Json N → Bool
  fault : Op N → Option JsError

/-- What the plugin relies on in the library: a ciphertext is an object that decrypts to what was
encrypted, under the same key. -/
structure Env.Lawful (decryptString : Json N → Text → Option Text) (env : Env N) : Prop where
  encryptString_ok : ∀ {document key encrypted},
    env.encryptString document key = .ok encrypted →
      encrypted.Canonical ∧ decryptString encrypted key = some document

section Serve

variable (env : Env N)

/-- A value against a column of strings. -/
def Env.textIs (text : Text) : Json N → Bool
  | .str s => decide (text = s)
  | value => env.sameText text value

/-- The columns of `encrypted-data`. -/
def encryptedDataColumns : Columns EncryptedData N := fun property =>
  if property = "id".toList then some fun row => env.textIs row.id
  else if property = "data".toList then some fun row => env.textIs row.data
  else if property = "saveDate".toList ∨ property = "updateDate".toList then
    some (env.sameDate property)
  else none

/-- The columns of `credential-encrypted-data`. -/
def credentialEncryptedDataColumns : Columns CredentialEncryptedData N := fun property =>
  if property = "credentialHash".toList then some fun row => env.textIs row.credentialHash
  else if property = "encryptedDataId".toList then some fun row => env.textIs row.encryptedDataId
  else if property = "decryptedKey".toList then some fun row => env.textIs row.decryptedKey
  else none

/-- The error of a write that a constraint refuses. -/
def constraintViolation (message : Text) : JsError := ⟨"QueryFailedError".toList, message⟩

/-- A row of `credential-encrypted-data` meets the constraints of its table: no other row has its
`encryptedDataId`, and both foreign keys refer to rows that exist. -/
def Db.admits (db : Db) (entity : CredentialEncryptedData) : Bool :=
  (db.credentialEncryptedData.rows.all fun row =>
    decide (row.credentialHash = entity.credentialHash) ||
      decide (row.encryptedDataId ≠ entity.encryptedDataId)) &&
  (db.encryptedData.lookup entity.encryptedDataId).isSome &&
  decide (entity.credentialHash ∈ db.credentialHashes)

/-- An operation that gets through. -/
def serveOp : (o : Op N) → Db → Except JsError o.Resp × Db
  | .generateEncryptionKey, db => (.ok env.generateEncryptionKey, db)
  | .encryptString document key, db => (env.encryptString document key, db)
  | .insertEncryptedData data, db =>
      match db.encryptedData.insert ⟨env.generatedId, data⟩ with
      | some encryptedData => (.ok ⟨env.generatedId, data⟩, { db with encryptedData })
      | none =>
          (.error (constraintViolation "duplicate key value violates unique constraint".toList), db)
  | .saveCredentialEncryptedData entity, db =>
      if db.admits entity then
        (.ok entity,
          { db with credentialEncryptedData := db.credentialEncryptedData.put entity })
      else (.error (constraintViolation "violates constraint".toList), db)
  | .findEncryptedData conditions, db =>
      (findOneBy "EncryptedData".toList (encryptedDataColumns env) conditions
        db.encryptedData.rows, db)
  | .findCredentialEncryptedData conditions, db =>
      (findOneBy "CredentialEncryptedData".toList (credentialEncryptedDataColumns env) conditions
        db.credentialEncryptedData.rows, db)

/-- An operation on the tables. -/
def serve (o : Op N) (db : Db) : Except JsError o.Resp × Db :=
  match env.fault o with
  | some e => (.error e, db)
  | none => serveOp env o db

end Serve

/-! ### `EncryptedDataStore` -/

/-- `saveEncryptedData`. -/
def saveEncryptedData (credentialHash decryptedKey data : Text) : StoreM N EncryptedData := do
  let result : EncryptedData ← perform (.insertEncryptedData data)
  let _ : CredentialEncryptedData ← perform (.saveCredentialEncryptedData
    { credentialHash
      encryptedDataId := result.id
      decryptedKey })
  return result

/-- `getEncryptedData`. -/
def getEncryptedData (args : Where N) : StoreM N (Option Text) := do
  let encryptedData : Option EncryptedData ← perform (.findEncryptedData args)
  return encryptedData.map EncryptedData.data

/-- What a fetch by hash returns. -/
structure FetchResult where
  encryptedData : Text
  encryptedDataId : Text
  decryptedKey : Text
  deriving DecidableEq

/-- `if (!encryptedData)` for a string or `undefined`. -/
def truthyText : Option Text → Option Text
  | none | some [] => none
  | some (c :: text) => some (c :: text)

/-- `getEncryptedDataByCredentialHash`; `none` is `undefined`. -/
def getEncryptedDataByCredentialHash (credentialHash : Option (Json N)) :
    StoreM N (Option FetchResult) := do
  let found : Option CredentialEncryptedData ←
    perform (.findCredentialEncryptedData [("credentialHash".toList, credentialHash)])
  match found with
  | none => return none
  | some credentialEncryptedData =>
      let encryptedData : Option Text ← getEncryptedData
        [("id".toList, some (.str credentialEncryptedData.encryptedDataId))]
      return (truthyText encryptedData).map fun encryptedData =>
        { encryptedData
          encryptedDataId := credentialEncryptedData.encryptedDataId
          decryptedKey := credentialEncryptedData.decryptedKey }

/-! ### Methods -/

/-- What `encryptAndStoreData` returns. -/
structure StoreResult where
  id : Text
  key : Text
  deriving DecidableEq

section Methods

variable [JsonNumber N]

/-- `encryptAndStoreData({ data })`; `computeEntryHash` may throw. -/
def encryptAndStoreData (computeEntryHash : Json N → Except JsError Text) (data : Json N) :
    StoreM N StoreResult := do
  let credentialHash : Text ← Prog.ofExcept (computeEntryHash data)
  let key : Text ← perform .generateEncryptionKey
  let encryptedDocument : Json N ← perform (.encryptString (Json.stringify data) key)
  let saved : EncryptedData ←
    saveEncryptedData credentialHash key (Json.stringify encryptedDocument)
  return { id := saved.id, key }

end Methods

/-- The fields of an argument object, as conditions. -/
def argumentFields (args : List (Text × Json N)) : Where N :=
  args.map fun field => (field.1, some field.2)

/-- `fetchEncryptedData(args)`. -/
def fetchEncryptedData (args : List (Text × Json N)) : StoreM N Text := do
  let encryptedData : Option Text ← getEncryptedData (argumentFields args)
  match truthyText encryptedData with
  | none => .throw (JsError.ofMessage "Data not found".toList)
  | some encryptedData => return encryptedData

/-- `fetchEncryptedDataByCredentialHash(args)`. -/
def fetchEncryptedDataByCredentialHash (args : List (Text × Json N)) : StoreM N FetchResult := do
  let result : Option FetchResult ←
    getEncryptedDataByCredentialHash (args.lookup "credentialHash".toList)
  match result with
  | none => .throw (JsError.ofMessage "Data not found".toList)
  | some result => return result

end EncryptedStorage
