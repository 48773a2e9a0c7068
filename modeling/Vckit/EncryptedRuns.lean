/-
**Every stored value stays readable.**

Each call of `encryptAndStoreData` writes a new row of `encrypted-data` and then the row of its hash
in `credential-encrypted-data`, which a later call for the same hash overwrites.  So ciphertexts are
never lost, and the second table holds, for each hash, the id and the key of the latest call.

Main definitions:

* `EncryptedStorage.StoreEnd` — how a call can end;
* `EncryptedStorage.StoreRun` — the calls that have succeeded, one after the other;
* `EncryptedStorage.Linked` — what the tables hold for the calls made so far.

Main results:

* `EncryptedStorage.run_encryptAndStoreData` — how a call ends;
* `EncryptedStorage.Linked.store` — a call keeps the tables linked;
* `EncryptedStorage.fetch_stored` — **every value is found again by its id, and the latest one with
  a hash by that hash**, each with the key that decrypts it.
-/

import Vckit.EncryptedStore

set_option relaxedAutoImplicit false
set_option autoImplicit false

namespace EncryptedStorage

variable {N : Type} (env : Env N) {db db' : Db}

@[simp] theorem run_perform_serve (o : Op N) (db : Db) :
    Prog.run (serve env) (perform o) db = serve env o db := Prog.run_perform _ o db

theorem serve_cases (o : Op N) (db : Db) :
    serve env o db = serveOp env o db ∨ ∃ e, serve env o db = (.error e, db) := by
  unfold serve
  cases env.fault o with
  | some e => exact Or.inr ⟨e, rfl⟩
  | none => exact Or.inl rfl

/-- How the two writes end. -/
theorem run_saveEncryptedData (credentialHash key data : Text) (db : Db) :
    (∃ e, Prog.run (serve env) (saveEncryptedData credentialHash key data) db = (.error e, db)) ∨
    ∃ encryptedData, db.encryptedData.insert ⟨env.generatedId, data⟩ = some encryptedData ∧
      ((∃ e, Prog.run (serve env) (saveEncryptedData credentialHash key data) db =
          (.error e, { db with encryptedData })) ∨
        Prog.run (serve env) (saveEncryptedData credentialHash key data) db =
          (.ok ⟨env.generatedId, data⟩,
            { db with
              encryptedData
              credentialEncryptedData := db.credentialEncryptedData.put
                ⟨credentialHash, env.generatedId, key⟩ })) := by
  rw [saveEncryptedData]
  rcases serve_cases env (.insertEncryptedData data) db with hserve | ⟨e, hserve⟩
  · rw [serveOp] at hserve
    cases hinsert : db.encryptedData.insert ⟨env.generatedId, data⟩ with
    | none =>
        rw [hinsert] at hserve
        exact Or.inl ⟨_, Prog.run_bind_of_error ((run_perform_serve env _ _).trans hserve)⟩
    | some encryptedData =>
        rw [hinsert] at hserve
        refine Or.inr ⟨encryptedData, rfl, ?_⟩
        rw [Prog.run_bind_of_ok ((run_perform_serve env _ _).trans hserve)]
        dsimp only
        rcases serve_cases env (.saveCredentialEncryptedData
          ⟨credentialHash, env.generatedId, key⟩) { db with encryptedData } with hsave | ⟨e, hsave⟩
        · rw [serveOp] at hsave
          split at hsave
          · exact Or.inr ((Prog.run_bind_of_ok ((run_perform_serve env _ _).trans hsave)).trans rfl)
          · exact Or.inl ⟨_, Prog.run_bind_of_error ((run_perform_serve env _ _).trans hsave)⟩
        · exact Or.inl ⟨e, Prog.run_bind_of_error ((run_perform_serve env _ _).trans hsave)⟩
  · exact Or.inl ⟨e, Prog.run_bind_of_error ((run_perform_serve env _ _).trans hserve)⟩

/-- A call that has succeeded. -/
structure StoredCall (N : Type) where
  data : Json N
  result : StoreResult

/-- The latest call whose value has a hash. -/
def IsLatest (computeEntryHash : Json N → Except JsError Text) (credentialHash : Text)
    (calls : List (StoredCall N)) (latest : StoredCall N) : Prop :=
  ∃ earlier later, calls = earlier ++ latest :: later ∧
    computeEntryHash latest.data = .ok credentialHash ∧
    ∀ call ∈ later, computeEntryHash call.data ≠ .ok credentialHash

/-- A latest call is one of the calls. -/
theorem IsLatest.mem {computeEntryHash : Json N → Except JsError Text} {credentialHash : Text}
    {calls : List (StoredCall N)} {latest : StoredCall N}
    (h : IsLatest computeEntryHash credentialHash calls latest) : latest ∈ calls := by
  obtain ⟨earlier, later, rfl, -, -⟩ := h
  simp

section Calls

variable [JsonNumber N] {computeEntryHash : Json N → Except JsError Text}
  {decryptString : Json N → Text → Option Text}

/-! ### One call -/

/-- **How `encryptAndStoreData` ends.** -/
inductive StoreEnd (computeEntryHash : Json N → Except JsError Text) (env : Env N) (data : Json N)
    (db : Db) : Except JsError StoreResult × Db → Prop
  /-- It throws before its first write. -/
  | failedEarly {e : JsError} : StoreEnd computeEntryHash env data db (.error e, db)
  /-- It throws after the ciphertext is written. -/
  | failedLate {e : JsError} {encrypted : Json N} {encryptedData : Table EncryptedData.id}
      (hinsert : db.encryptedData.insert ⟨env.generatedId, Json.stringify encrypted⟩ =
        some encryptedData) :
      StoreEnd computeEntryHash env data db (.error e, { db with encryptedData })
  /-- Both rows are written. -/
  | stored {credentialHash : Text} {encrypted : Json N} {encryptedData : Table EncryptedData.id}
      (hhash : computeEntryHash data = .ok credentialHash)
      (hencrypted :
        env.encryptString (Json.stringify data) env.generateEncryptionKey = .ok encrypted)
      (hinsert : db.encryptedData.insert ⟨env.generatedId, Json.stringify encrypted⟩ =
        some encryptedData) :
      StoreEnd computeEntryHash env data db
        (.ok ⟨env.generatedId, env.generateEncryptionKey⟩,
          { db with
            encryptedData
            credentialEncryptedData := db.credentialEncryptedData.put
              ⟨credentialHash, env.generatedId, env.generateEncryptionKey⟩ })

/-- **What a call can end in.** -/
theorem run_encryptAndStoreData (data : Json N) (db : Db) :
    StoreEnd computeEntryHash env data db
      (Prog.run (serve env) (encryptAndStoreData computeEntryHash data) db) := by
  rw [encryptAndStoreData]
  cases hhash : computeEntryHash data with
  | error e => exact StoreEnd.failedEarly
  | ok credentialHash =>
      rw [Prog.ofExcept_ok, Prog.ret_bind]
      rcases serve_cases env .generateEncryptionKey db with hkey | ⟨e, hkey⟩
      · rw [Prog.run_bind_of_ok ((run_perform_serve env _ _).trans hkey)]
        rcases serve_cases env (.encryptString (Json.stringify data)
          env.generateEncryptionKey) db with hserve | ⟨e, hserve⟩
        · rw [serveOp] at hserve
          cases hencrypted : env.encryptString (Json.stringify data) env.generateEncryptionKey with
          | error e =>
              rw [hencrypted] at hserve
              rw [Prog.run_bind_of_error ((run_perform_serve env _ _).trans hserve)]
              exact StoreEnd.failedEarly
          | ok encrypted =>
              rw [hencrypted] at hserve
              rw [Prog.run_bind_of_ok ((run_perform_serve env _ _).trans hserve)]
              rcases run_saveEncryptedData env credentialHash env.generateEncryptionKey
                (Json.stringify encrypted) db with
                ⟨e, hsave⟩ | ⟨encryptedData, hinsert, ⟨e, hsave⟩ | hsave⟩
              · rw [Prog.run_bind_of_error hsave]
                exact StoreEnd.failedEarly
              · rw [Prog.run_bind_of_error hsave]
                exact StoreEnd.failedLate hinsert
              · rw [Prog.run_bind_of_ok hsave]
                exact StoreEnd.stored hhash hencrypted hinsert
        · rw [Prog.run_bind_of_error ((run_perform_serve env _ _).trans hserve)]
          exact StoreEnd.failedEarly
      · rw [Prog.run_bind_of_error ((run_perform_serve env _ _).trans hkey)]
        exact StoreEnd.failedEarly

/-! ### Calls one after the other -/

variable {env}

/-- The calls that have succeeded since the tables were `db₀`, oldest first. -/
inductive StoreRun (computeEntryHash : Json N → Except JsError Text)
    (decryptString : Json N → Text → Option Text) (db₀ : Db) : List (StoredCall N) → Db → Prop
  | nil : StoreRun computeEntryHash decryptString db₀ [] db₀
  | call {calls : List (StoredCall N)} {db db' : Db} {env : Env N} {call : StoredCall N}
      (hrun : StoreRun computeEntryHash decryptString db₀ calls db)
      (henv : env.Lawful decryptString)
      (hcall : Prog.run (serve env) (encryptAndStoreData computeEntryHash call.data) db =
        (.ok call.result, db')) :
      StoreRun computeEntryHash decryptString db₀ (calls ++ [call]) db'

/-- A stored text, parsed and decrypted. -/
def decrypt (decryptString : Json N → Text → Option Text) (text key : Text) : Option Text :=
  (Json.parse text).bind fun encrypted => decryptString encrypted key

/-- The row of a call is there, and decrypts to its value. -/
def Readable (decryptString : Json N → Text → Option Text) (db : Db) (call : StoredCall N) :
    Prop :=
  ∃ row, db.encryptedData.lookup call.result.id = some row ∧ row.data ≠ [] ∧
    decrypt decryptString row.data call.result.key = some (Json.stringify call.data)

/-- **What the tables hold** for the calls made so far: every ciphertext, and for each hash the id
and the key of the latest call. -/
structure Linked (computeEntryHash : Json N → Except JsError Text)
    (decryptString : Json N → Text → Option Text) (calls : List (StoredCall N)) (db : Db) :
    Prop where
  readable : ∀ call ∈ calls, Readable decryptString db call
  linked : ∀ call ∈ calls, ∀ credentialHash, computeEntryHash call.data = .ok credentialHash →
    ∃ latest, IsLatest computeEntryHash credentialHash calls latest ∧
      db.credentialEncryptedData.lookup credentialHash =
        some ⟨credentialHash, latest.result.id, latest.result.key⟩

/-- A ciphertext that the library has made is read back. -/
theorem decrypt_stringify {document key : Text} {encrypted : Json N}
    (henv : env.Lawful decryptString) (h : env.encryptString document key = .ok encrypted) :
    decrypt decryptString (Json.stringify encrypted) key = some document := by
  obtain ⟨hcanonical, hdecrypt⟩ := henv.encryptString_ok h
  rw [decrypt, Json.parse_stringify hcanonical, Option.bind_some, hdecrypt]

/-- **A call keeps the tables linked.** -/
theorem Linked.store {calls : List (StoredCall N)} {call : StoredCall N}
    (h : Linked computeEntryHash decryptString calls db) (henv : env.Lawful decryptString)
    (hcall : Prog.run (serve env) (encryptAndStoreData computeEntryHash call.data) db =
      (.ok call.result, db')) :
    Linked computeEntryHash decryptString (calls ++ [call]) db' := by
  have hend : StoreEnd computeEntryHash env call.data db
      (Prog.run (serve env) (encryptAndStoreData computeEntryHash call.data) db) :=
    run_encryptAndStoreData env call.data db
  obtain ⟨data, result⟩ := call
  dsimp only at hcall hend
  rw [hcall] at hend
  cases hend with
  | @stored hash encrypted encryptedData hhash hencrypted hinsert =>
      obtain ⟨hfresh, rfl⟩ := Table.insert_eq_some_iff.1 hinsert
      constructor
      · intro call hmem
        rcases List.mem_append.1 hmem with hold | hnew
        · obtain ⟨row, hrow, hne, hdecrypt⟩ := h.readable call hold
          refine ⟨row, ?_, hne, hdecrypt⟩
          -- the new id is not the one of an earlier call: its row was there
          have hid : call.result.id ≠ env.generatedId := by
            intro heq
            rw [heq] at hrow
            rw [hrow] at hfresh
            cases hfresh
          have hkept := Table.lookup_put_of_ne (t := db.encryptedData)
            (r := ⟨env.generatedId, Json.stringify encrypted⟩) hid
          exact hkept.trans hrow
        · obtain rfl := List.mem_singleton.1 hnew
          obtain ⟨c, t, ht, -, -⟩ := Json.stringify_eq_cons encrypted
          exact ⟨_, Table.lookup_put_self _ _, by simp [ht], decrypt_stringify henv hencrypted⟩
      · intro call hmem credentialHash hcallHash
        -- for its own hash the new call is the latest, for every other one nothing changes
        by_cases heq : credentialHash = hash
        · subst heq
          exact ⟨⟨data, _⟩, ⟨calls, [], rfl, hhash, by simp⟩, Table.lookup_put_self _ _⟩
        · rcases List.mem_append.1 hmem with hold | hnew
          · obtain ⟨latest, ⟨earlier, later, hcalls, hlatest, hlater⟩, hlookup⟩ :=
              h.linked call hold credentialHash hcallHash
            refine ⟨latest, ⟨earlier,
              later ++ [⟨data, ⟨env.generatedId, env.generateEncryptionKey⟩⟩],
              by simp [hcalls], hlatest, ?_⟩,
              (Table.lookup_put_of_ne heq).trans hlookup⟩
            intro call' hmem'
            rcases List.mem_append.1 hmem' with hmem' | hmem'
            · exact hlater call' hmem'
            · obtain rfl := List.mem_singleton.1 hmem'
              rw [hhash]
              exact fun h => heq (Except.ok.inj h).symm
          · obtain rfl := List.mem_singleton.1 hnew
            rw [hhash] at hcallHash
            exact absurd (Except.ok.inj hcallHash).symm heq

/-- A run of calls leaves the tables linked. -/
theorem StoreRun.linked {db₀ : Db} {calls : List (StoredCall N)}
    (h : StoreRun computeEntryHash decryptString db₀ calls db) :
    Linked computeEntryHash decryptString calls db := by
  induction h with
  | nil => exact ⟨by simp, by simp⟩
  | call _ henv hcall ih => exact ih.store henv hcall

end Calls

/-! ### Fetching -/

variable {env}

/-- A query with one condition that is a string. -/
theorem findOneBy_single {α : Type} {entity property : Text} {columns : Columns α N}
    (test : α → Json N → Bool) (h : columns property = some test) (s : Text) (rows : List α) :
    findOneBy entity columns [(property, some (.str s))] rows =
      .ok (rows.find? fun row => test row (.str s)) := by
  have hconditions :
      Where.conditions [(property, some (.str s : Json N))] = [(property, .str s)] := rfl
  rw [findOneBy, hconditions]
  simp [h]

theorem findOneBy_id (id : Text) :
    findOneBy "EncryptedData".toList (encryptedDataColumns env) [("id".toList, some (.str id))]
      db.encryptedData.rows = .ok (db.encryptedData.lookup id) :=
  findOneBy_single (fun row : EncryptedData => env.textIs row.id) rfl id _

theorem findOneBy_credentialHash (credentialHash : Text) :
    findOneBy "CredentialEncryptedData".toList (credentialEncryptedDataColumns env)
      [("credentialHash".toList, some (.str credentialHash))] db.credentialEncryptedData.rows =
      .ok (db.credentialEncryptedData.lookup credentialHash) :=
  findOneBy_single (fun row : CredentialEncryptedData => env.textIs row.credentialHash) rfl
    credentialHash _

/-- The database answers. -/
def Env.Up (env : Env N) : Prop := ∀ o, env.fault o = none

theorem run_perform_of_up (hup : env.Up) (o : Op N) :
    Prog.run (serve env) (perform o) db = serveOp env o db := by
  rw [run_perform_serve, serve, hup o]

theorem run_getEncryptedData_id (hup : env.Up) (db : Db) (id : Text) :
    Prog.run (serve env) (getEncryptedData [("id".toList, some (.str id))]) db =
      (.ok ((db.encryptedData.lookup id).map EncryptedData.data), db) := by
  have hfind : Prog.run (serve env)
      (perform (.findEncryptedData [("id".toList, some (.str id))])) db =
      (.ok (db.encryptedData.lookup id), db) := by
    rw [run_perform_of_up hup, serveOp, findOneBy_id]
  rw [getEncryptedData, Prog.run_bind_of_ok hfind]
  rfl

theorem truthyText_of_ne_nil {text : Text} (h : text ≠ []) :
    truthyText (some text) = some text := by
  cases text with
  | nil => exact absurd rfl h
  | cons c text => rfl

/-- A fetch by id returns the text of its row. -/
theorem run_fetchEncryptedData {row : EncryptedData} {id : Text} (hup : env.Up)
    (hrow : db.encryptedData.lookup id = some row) (hne : row.data ≠ []) :
    Prog.run (serve env) (fetchEncryptedData [("id".toList, .str id)]) db =
      (.ok row.data, db) := by
  have hget := run_getEncryptedData_id hup db id
  rw [hrow, Option.map_some] at hget
  refine (Prog.run_bind_of_ok hget).trans ?_
  rw [truthyText_of_ne_nil hne]
  rfl

/-- A fetch by hash follows the id in the second table. -/
theorem run_fetchEncryptedDataByCredentialHash {row : EncryptedData} {credentialHash id key : Text}
    (hup : env.Up)
    (hlink : db.credentialEncryptedData.lookup credentialHash = some ⟨credentialHash, id, key⟩)
    (hrow : db.encryptedData.lookup id = some row) (hne : row.data ≠ []) :
    Prog.run (serve env)
      (fetchEncryptedDataByCredentialHash [("credentialHash".toList, .str credentialHash)]) db =
      (.ok ⟨row.data, id, key⟩, db) := by
  have hfind : Prog.run (serve env) (perform (.findCredentialEncryptedData
      [("credentialHash".toList, some (.str credentialHash))])) db =
      (.ok (some ⟨credentialHash, id, key⟩), db) := by
    rw [run_perform_of_up hup, serveOp, findOneBy_credentialHash, hlink]
  have hget := run_getEncryptedData_id hup db id
  rw [hrow, Option.map_some] at hget
  have hresult : Prog.run (serve env)
      (getEncryptedDataByCredentialHash (some (.str credentialHash))) db =
      (.ok (some ⟨row.data, id, key⟩), db) := by
    rw [getEncryptedDataByCredentialHash, Prog.run_bind_of_ok hfind]
    dsimp only
    rw [Prog.run_bind_of_ok hget, truthyText_of_ne_nil hne]
    rfl
  exact (Prog.run_bind_of_ok hresult).trans rfl

/-- **Every stored value is found again**: by its id for ever, and by its hash as long as no later
value has that hash.  Each is returned with the key that decrypts it to the value's text. -/
theorem fetch_stored [JsonNumber N] {computeEntryHash : Json N → Except JsError Text}
    {decryptString : Json N → Text → Option Text} {db₀ : Db} {calls : List (StoredCall N)}
    (hrun : StoreRun computeEntryHash decryptString db₀ calls db) (hup : env.Up) :
    (∀ call ∈ calls, ∃ text,
      Prog.run (serve env) (fetchEncryptedData [("id".toList, .str call.result.id)]) db =
        (.ok text, db) ∧
      decrypt decryptString text call.result.key = some (Json.stringify call.data)) ∧
    ∀ call ∈ calls, ∀ credentialHash, computeEntryHash call.data = .ok credentialHash →
      ∃ latest, IsLatest computeEntryHash credentialHash calls latest ∧ ∃ text,
        Prog.run (serve env) (fetchEncryptedDataByCredentialHash
          [("credentialHash".toList, .str credentialHash)]) db =
          (.ok ⟨text, latest.result.id, latest.result.key⟩, db) ∧
        Prog.run (serve env) (fetchEncryptedData [("id".toList, .str latest.result.id)]) db =
          (.ok text, db) ∧
        decrypt decryptString text latest.result.key = some (Json.stringify latest.data) := by
  have hlinked := hrun.linked
  constructor
  · intro call hcall
    obtain ⟨row, hrow, hne, hdecrypt⟩ := hlinked.readable call hcall
    exact ⟨row.data, run_fetchEncryptedData hup hrow hne, hdecrypt⟩
  · intro call hcall credentialHash hhash
    obtain ⟨latest, hlatest, hlink⟩ := hlinked.linked call hcall credentialHash hhash
    obtain ⟨row, hrow, hne, hdecrypt⟩ := hlinked.readable latest hlatest.mem
    exact ⟨latest, hlatest, row.data,
      run_fetchEncryptedDataByCredentialHash hup hlink hrow hne,
      run_fetchEncryptedData hup hrow hne, hdecrypt⟩

/-! ### A value that is stored twice -/

/-- An encryption that names the key in its tag. -/
def plainEncryptString (document key : Text) : Json ℤ :=
  .obj [("cipherText".toList, .str document), ("iv".toList, .str []), ("tag".toList, .str key),
    ("type".toList, .str "OPEN-ATTESTATION-TYPE-1".toList)]

/-- It decrypts under that key. -/
def plainDecryptString : Json ℤ → Text → Option Text
  | .obj [(_, .str document), _, (_, .str tag), _], key => if tag = key then some document else none
  | _, _ => none

/-- A call that draws this id and this key. -/
def plainEnv (id key : Text) : Env ℤ where
  generateEncryptionKey := key
  encryptString document key := .ok (plainEncryptString document key)
  generatedId := id
  sameText _ _ := false
  sameDate _ _ _ := false
  fault _ := none

theorem plainEnv_lawful (id key : Text) : (plainEnv id key).Lawful plainDecryptString where
  encryptString_ok := by
    intro document key encrypted h
    obtain rfl : plainEncryptString document key = encrypted := Except.ok.inj h
    refine ⟨⟨?_, trivial, trivial, trivial, trivial, trivial⟩, if_pos rfl⟩
    change List.Pairwise _ ["cipherText".toList, "iv".toList, "tag".toList, "type".toList]
    decide +kernel

/-- The hash of a value is its text. -/
def plainHash (data : Json ℤ) : Except JsError Text := .ok (Json.stringify data)

/-- Empty tables, and a stored credential. -/
def plainDb : Db := ⟨Table.empty, Table.empty, ["true".toList]⟩

/-- A call that stores `true`. -/
def plainStore (id key : Text) (db : Db) : Except JsError StoreResult × Db :=
  Prog.run (serve (plainEnv id key)) (encryptAndStoreData plainHash (.bool true)) db

/-- The tables after the first call. -/
def plainFirst : Db := (plainStore "1".toList "k".toList plainDb).2

/-- The tables after the second one. -/
def plainSecond : Db := (plainStore "2".toList "l".toList plainFirst).2

/-- Of a value that is stored twice, both ciphertexts are found by their ids, and the second one by
the hash. -/
theorem fetch_stored_twice :
    (∃ text, Prog.run (serve (plainEnv [] [])) (fetchEncryptedData [("id".toList, .str ['1'])])
        plainSecond = (.ok text, plainSecond) ∧
      decrypt plainDecryptString text ['k'] = some "true".toList) ∧
    ∃ text, Prog.run (serve (plainEnv [] [])) (fetchEncryptedDataByCredentialHash
        [("credentialHash".toList, .str "true".toList)]) plainSecond =
        (.ok ⟨text, ['2'], ['l']⟩, plainSecond) ∧
      decrypt plainDecryptString text ['l'] = some "true".toList := by
  have hfirst : StoreRun plainHash plainDecryptString plainDb [⟨.bool true, ⟨['1'], ['k']⟩⟩]
      plainFirst :=
    .call (.nil) (plainEnv_lawful "1".toList "k".toList) (Prod.ext (by decide +kernel) rfl)
  have hsecond : StoreRun plainHash plainDecryptString plainDb
      [⟨.bool true, ⟨['1'], ['k']⟩⟩, ⟨.bool true, ⟨['2'], ['l']⟩⟩] plainSecond :=
    .call hfirst (plainEnv_lawful "2".toList "l".toList) (Prod.ext (by decide +kernel) rfl)
  obtain ⟨hid, hhash⟩ := fetch_stored hsecond (fun _ => rfl : (plainEnv [] []).Up)
  refine ⟨hid ⟨.bool true, ⟨['1'], ['k']⟩⟩ (by simp), ?_⟩
  obtain ⟨latest, ⟨earlier, later, hcalls, -, hlater⟩, text, hfetch, -, hdecrypt⟩ :=
    hhash ⟨.bool true, ⟨['1'], ['k']⟩⟩ (by simp) "true".toList rfl
  rcases earlier with _ | ⟨first, _ | ⟨second, earlier⟩⟩
  · obtain ⟨rfl, rfl⟩ := List.cons.inj hcalls
    exact absurd rfl (hlater _ List.mem_cons_self)
  · obtain ⟨-, hrest⟩ := List.cons.inj hcalls
    obtain ⟨rfl, -⟩ := List.cons.inj hrest
    exact ⟨text, hfetch, hdecrypt⟩
  · simp at hcalls

end EncryptedStorage
