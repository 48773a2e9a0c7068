/-
**What a rejected call of `encryptAndStoreData` leaves behind.**

The ciphertext and the row with its key are written one after the other, and no transaction holds
the two writes together.  The second one has a foreign key to the credentials of another plugin.  So
when the ciphertext gets through and the second row does not, the call is rejected and the
ciphertext stays, while its key is lost.

Main definitions:

* `EncryptedStorage.FirstWrite` — the call gets as far as writing the ciphertext;
* `EncryptedStorage.SecondWrite` — the row with the key gets through;
* `EncryptedStorage.SameTables` — two states of the database with the same tables.

Main results:

* `EncryptedStorage.run_of_firstWrite`, `EncryptedStorage.run_of_not_firstWrite` — how a call ends;
* `EncryptedStorage.rejected_unchanged_iff` — **a rejected call leaves the tables as they were
  exactly when the second write gets through whenever the first one does**;
* `EncryptedStorage.rejected_orphan` — a rejected call that leaves a ciphertext behind.
-/

import Vckit.EncryptedRuns

set_option relaxedAutoImplicit false
set_option autoImplicit false

namespace EncryptedStorage

variable {N : Type} {env : Env N} {db : Db}

/-! ### Operations that get through -/

theorem run_perform_of_through {o : Op N} (h : env.fault o = none) (db : Db) :
    Prog.run (serve env) (perform o) db = serveOp env o db := by
  rw [run_perform_serve, serve, h]

theorem run_perform_of_fault {o : Op N} {e : JsError} (h : env.fault o = some e) (db : Db) :
    Prog.run (serve env) (perform o) db = (.error e, db) := by
  rw [run_perform_serve, serve, h]

variable [JsonNumber N]

/-! ### The two writes -/

/-- The row with the key of a call. -/
def Env.keyRow (env : Env N) (credentialHash : Text) : CredentialEncryptedData where
  credentialHash
  encryptedDataId := env.generatedId
  decryptedKey := env.generateEncryptionKey

/-- The call gets as far as writing the ciphertext: the value has a hash, key and encryption get
through, and the write of the ciphertext does, under an id that is new. -/
structure FirstWrite (computeEntryHash : Json N → Except JsError Text) (env : Env N) (data : Json N)
    (db : Db) (credentialHash : Text) (encrypted : Json N) : Prop where
  hash : computeEntryHash data = .ok credentialHash
  keyThrough : env.fault .generateEncryptionKey = none
  encryptThrough :
    env.fault (.encryptString (Json.stringify data) env.generateEncryptionKey) = none
  encryptString_ok :
    env.encryptString (Json.stringify data) env.generateEncryptionKey = .ok encrypted
  insertThrough : env.fault (.insertEncryptedData (Json.stringify encrypted)) = none
  fresh : db.encryptedData.lookup env.generatedId = none

/-- The row with the key gets through: no row of another credential has its id, and the credential
is stored. -/
structure SecondWrite (env : Env N) (db : Db) (credentialHash : Text) : Prop where
  saveThrough : env.fault (.saveCredentialEncryptedData (env.keyRow credentialHash)) = none
  unique : ∀ row ∈ db.credentialEncryptedData.rows,
    row.credentialHash = credentialHash ∨ row.encryptedDataId ≠ env.generatedId
  known : credentialHash ∈ db.credentialHashes

/-- The tables after the ciphertext is written. -/
def Db.withCiphertext (db : Db) (env : Env N) (encrypted : Json N) : Db :=
  { db with encryptedData := db.encryptedData.put ⟨env.generatedId, Json.stringify encrypted⟩ }

/-- Two states of the database with the same tables. -/
structure SameTables (db db' : Db) : Prop where
  encryptedData : db'.encryptedData = db.encryptedData
  credentialEncryptedData : db'.credentialEncryptedData = db.credentialEncryptedData

variable {computeEntryHash : Json N → Except JsError Text} {data : Json N} {credentialHash : Text}
  {encrypted : Json N}

/-- The constraints on the row with the key, once the ciphertext is there. -/
theorem admits_keyRow_iff :
    (db.withCiphertext env encrypted).admits (env.keyRow credentialHash) = true ↔
      (∀ row ∈ db.credentialEncryptedData.rows,
        row.credentialHash = credentialHash ∨ row.encryptedDataId ≠ env.generatedId) ∧
      credentialHash ∈ db.credentialHashes := by
  have hwritten : ((db.withCiphertext env encrypted).encryptedData.lookup
      (env.keyRow credentialHash).encryptedDataId).isSome = true := by
    have hself := Table.lookup_put_self db.encryptedData
      ⟨env.generatedId, Json.stringify encrypted⟩
    exact Option.isSome_iff_exists.2 ⟨_, hself⟩
  rw [Db.admits, hwritten, Bool.and_true, Bool.and_eq_true, List.all_eq_true, decide_eq_true_eq]
  refine and_congr_left' (forall₂_congr fun row _ => ?_)
  rw [Bool.or_eq_true, decide_eq_true_eq, decide_eq_true_eq]
  exact Iff.rfl

/-- The second write ends in an error exactly when it does not get through, and then it has changed
nothing. -/
theorem serve_keyRow (env : Env N) (db : Db) (credentialHash : Text) (encrypted : Json N) :
    (SecondWrite env db credentialHash ∧
      ∃ db', serve env (.saveCredentialEncryptedData (env.keyRow credentialHash))
        (db.withCiphertext env encrypted) = (.ok (env.keyRow credentialHash), db')) ∨
    (¬SecondWrite env db credentialHash ∧
      ∃ e, serve env (.saveCredentialEncryptedData (env.keyRow credentialHash))
        (db.withCiphertext env encrypted) = (.error e, db.withCiphertext env encrypted)) := by
  cases hfault : env.fault (.saveCredentialEncryptedData (env.keyRow credentialHash)) with
  | some e =>
      refine Or.inr ⟨fun h => ?_, e, ?_⟩
      · have hthrough := h.saveThrough
        rw [hfault] at hthrough
        cases hthrough
      · rw [serve, hfault]
  | none =>
      by_cases hadmits :
          (db.withCiphertext env encrypted).admits (env.keyRow credentialHash) = true
      · obtain ⟨hunique, hknown⟩ := admits_keyRow_iff.1 hadmits
        refine Or.inl ⟨⟨hfault, hunique, hknown⟩, { db.withCiphertext env encrypted with
          credentialEncryptedData :=
            db.credentialEncryptedData.put (env.keyRow credentialHash) }, ?_⟩
        rw [serve, hfault]
        exact if_pos hadmits
      · refine Or.inr ⟨fun h => hadmits (admits_keyRow_iff.2 ⟨h.unique, h.known⟩),
          constraintViolation "violates constraint".toList, ?_⟩
        rw [serve, hfault]
        exact if_neg hadmits

/-! ### How a call ends -/

/-- **Once the ciphertext is written**, the call ends as the second write does. -/
theorem run_of_firstWrite
    (h : FirstWrite computeEntryHash env data db credentialHash encrypted) :
    (SecondWrite env db credentialHash ∧
      ∃ db', Prog.run (serve env) (encryptAndStoreData computeEntryHash data) db =
        (.ok ⟨env.generatedId, env.generateEncryptionKey⟩, db')) ∨
    (¬SecondWrite env db credentialHash ∧
      ∃ e, Prog.run (serve env) (encryptAndStoreData computeEntryHash data) db =
        (.error e, db.withCiphertext env encrypted)) := by
  have hkey : Prog.run (serve env) (perform .generateEncryptionKey) db =
      (.ok env.generateEncryptionKey, db) := run_perform_of_through h.keyThrough db
  have hencrypt : Prog.run (serve env)
      (perform (.encryptString (Json.stringify data) env.generateEncryptionKey)) db =
      (.ok encrypted, db) := by
    rw [run_perform_of_through h.encryptThrough, serveOp, h.encryptString_ok]
  have hinsert : Prog.run (serve env) (perform (.insertEncryptedData (Json.stringify encrypted)))
      db = (.ok ⟨env.generatedId, Json.stringify encrypted⟩, db.withCiphertext env encrypted) := by
    have hnew : db.encryptedData.insert ⟨env.generatedId, Json.stringify encrypted⟩ =
        some (db.encryptedData.put ⟨env.generatedId, Json.stringify encrypted⟩) :=
      Table.insert_of_lookup_eq_none h.fresh
    rw [run_perform_of_through h.insertThrough, serveOp, hnew]
    rfl
  rw [encryptAndStoreData, h.hash, Prog.ofExcept_ok, Prog.ret_bind, Prog.run_bind_of_ok hkey,
    Prog.run_bind_of_ok hencrypt]
  -- what is left are the two writes
  rcases serve_keyRow env db credentialHash encrypted with
    ⟨hsecond, db', hsave⟩ | ⟨hsecond, e, hsave⟩
  · refine Or.inl ⟨hsecond, db', ?_⟩
    have hwrites : Prog.run (serve env) (saveEncryptedData credentialHash env.generateEncryptionKey
        (Json.stringify encrypted)) db =
        (.ok ⟨env.generatedId, Json.stringify encrypted⟩, db') := by
      rw [saveEncryptedData, Prog.run_bind_of_ok hinsert]
      exact (Prog.run_bind_of_ok ((run_perform_serve env _ _).trans hsave)).trans rfl
    rw [Prog.run_bind_of_ok hwrites]
    rfl
  · refine Or.inr ⟨hsecond, e, ?_⟩
    have hwrites : Prog.run (serve env) (saveEncryptedData credentialHash env.generateEncryptionKey
        (Json.stringify encrypted)) db = (.error e, db.withCiphertext env encrypted) := by
      rw [saveEncryptedData, Prog.run_bind_of_ok hinsert]
      exact Prog.run_bind_of_error ((run_perform_serve env _ _).trans hsave)
    exact Prog.run_bind_of_error hwrites

/-- **A call that does not get so far** is rejected and has changed nothing. -/
theorem run_of_not_firstWrite
    (h : ∀ credentialHash encrypted,
      ¬FirstWrite computeEntryHash env data db credentialHash encrypted) :
    ∃ e, Prog.run (serve env) (encryptAndStoreData computeEntryHash data) db = (.error e, db) := by
  rw [encryptAndStoreData]
  cases hhash : computeEntryHash data with
  | error e => exact ⟨e, rfl⟩
  | ok credentialHash =>
  rw [Prog.ofExcept_ok, Prog.ret_bind]
  cases hkey : env.fault .generateEncryptionKey with
  | some e => exact ⟨e, Prog.run_bind_of_error (run_perform_of_fault hkey db)⟩
  | none =>
  rw [Prog.run_bind_of_ok (run_perform_of_through hkey db)]
  cases hencrypt : env.fault (.encryptString (Json.stringify data) env.generateEncryptionKey) with
  | some e => exact ⟨e, Prog.run_bind_of_error (run_perform_of_fault hencrypt db)⟩
  | none =>
  cases hok : env.encryptString (Json.stringify data) env.generateEncryptionKey with
  | error e =>
      refine ⟨e, Prog.run_bind_of_error ?_⟩
      rw [run_perform_of_through hencrypt, serveOp, hok]
  | ok encrypted =>
  have hencrypted : Prog.run (serve env)
      (perform (.encryptString (Json.stringify data) env.generateEncryptionKey)) db =
      (.ok encrypted, db) := by
    rw [run_perform_of_through hencrypt, serveOp, hok]
  rw [Prog.run_bind_of_ok hencrypted, saveEncryptedData]
  cases hinsert : env.fault (.insertEncryptedData (Json.stringify encrypted)) with
  | some e =>
      exact ⟨e, Prog.run_bind_of_error
        (Prog.run_bind_of_error (run_perform_of_fault hinsert db))⟩
  | none =>
  cases hnew : db.encryptedData.insert ⟨env.generatedId, Json.stringify encrypted⟩ with
  | some encryptedData =>
      exact absurd ⟨hhash, hkey, hencrypt, hok, hinsert, (Table.insert_eq_some_iff.1 hnew).1⟩
        (h credentialHash encrypted)
  | none =>
      have hrefused : Prog.run (serve env)
          (perform (.insertEncryptedData (Json.stringify encrypted))) db =
          (.error (constraintViolation
            "duplicate key value violates unique constraint".toList), db) := by
        rw [run_perform_of_through hinsert, serveOp, hnew]
      exact ⟨_, Prog.run_bind_of_error (Prog.run_bind_of_error hrefused)⟩

/-- A new ciphertext changes its table. -/
theorem not_sameTables_withCiphertext (h : db.encryptedData.lookup env.generatedId = none) :
    ¬SameTables db (db.withCiphertext env encrypted) := by
  intro hsame
  have hself := Table.lookup_put_self db.encryptedData
    ⟨env.generatedId, Json.stringify encrypted⟩
  have htable : db.encryptedData.put ⟨env.generatedId, Json.stringify encrypted⟩ =
      db.encryptedData := hsame.encryptedData
  rw [htable, h] at hself
  cases hself

/-- **A rejected call leaves the tables as they were exactly when** the row with the key gets
through whenever the ciphertext does. -/
theorem rejected_unchanged_iff (computeEntryHash : Json N → Except JsError Text) (env : Env N)
    (data : Json N) (db : Db) :
    (∀ e db', Prog.run (serve env) (encryptAndStoreData computeEntryHash data) db =
      (.error e, db') → SameTables db db') ↔
    ∀ credentialHash encrypted, FirstWrite computeEntryHash env data db credentialHash encrypted →
      SecondWrite env db credentialHash := by
  constructor
  · intro h credentialHash encrypted hfirst
    rcases run_of_firstWrite hfirst with ⟨hsecond, -⟩ | ⟨-, e, hrun⟩
    · exact hsecond
    · exact absurd (h e _ hrun) (not_sameTables_withCiphertext hfirst.fresh)
  · intro h e db' hrun
    by_cases hfirst : ∃ credentialHash encrypted,
        FirstWrite computeEntryHash env data db credentialHash encrypted
    · obtain ⟨credentialHash, encrypted, hfirst⟩ := hfirst
      rcases run_of_firstWrite hfirst with ⟨-, db'', hrun'⟩ | ⟨hsecond, -⟩
      · rw [hrun'] at hrun
        cases congrArg Prod.fst hrun
      · exact absurd (h credentialHash encrypted hfirst) hsecond
    · obtain ⟨e', hrun'⟩ := run_of_not_firstWrite fun credentialHash encrypted hfirst' =>
        hfirst ⟨credentialHash, encrypted, hfirst'⟩
      rw [hrun'] at hrun
      obtain rfl : db = db' := congrArg Prod.snd hrun
      exact ⟨rfl, rfl⟩

/-- **A rejected call that leaves a ciphertext behind**: no credential with the hash of the value is
stored. -/
theorem rejected_orphan : ∃ e db',
    Prog.run (serve (plainEnv "1".toList "k".toList))
      (encryptAndStoreData plainHash (.bool false)) plainDb = (.error e, db') ∧
    db'.credentialEncryptedData = plainDb.credentialEncryptedData ∧
    plainDb.encryptedData.rows = [] ∧
    db'.encryptedData.rows.map EncryptedData.id = ["1".toList] := by
  refine ⟨_, _, rfl, rfl, rfl, ?_⟩
  decide +kernel

end EncryptedStorage
