/-
**Calls of the storage that overlap.**

The methods of the plugin await the database between their steps and hold no transaction, so any
number of calls may overlap: the two writes of one call, the two queries of another.  What saves
them is that nothing goes away.  A row of `encrypted-data` is never overwritten, and a row of
`credential-encrypted-data` is written after the ciphertext that it leads to.  So at any moment
every link leads to a value with its hash, and whatever is fetched is decrypted by the key it comes
with.

Main definitions:

* `EncryptedStorage.StorageCall`, `EncryptedStorage.StorageAnswer` — the calls, and their results;
* `EncryptedStorage.Grows`, `EncryptedStorage.LinksRead` — what calls keep to;
* `EncryptedStorage.overlapping` — calls that have not started.

Main results:

* `EncryptedStorage.guarantees_encryptAndStoreData` and its companions — each method keeps to it;
* `EncryptedStorage.overlapping_calls` — **what overlapping calls return** belongs together.
-/

import Vckit.EncryptedRuns
import Vckit.RelyGuarantee

set_option relaxedAutoImplicit false
set_option autoImplicit false

namespace EncryptedStorage

open Prog (Discipline Guarantees guarantees_ofExcept guarantees_perform)

variable {N : Type}

/-! ### Queries -/

/-- A row that a query returns meets its conditions. -/
theorem of_findOneBy {α : Type} {entity : Text} {columns : Columns α N} {conditions : Where N}
    {rows : List α} {row : α} (h : findOneBy entity columns conditions rows = .ok (some row)) :
    row ∈ rows ∧ ∀ condition ∈ conditions.conditions,
      ∃ test, columns condition.1 = some test ∧ test row condition.2 = true := by
  rw [findOneBy] at h
  split at h
  · cases h
  · have hfound := Except.ok.inj h
    refine ⟨List.mem_of_find?_eq_some hfound, ?_⟩
    intro condition hcondition
    have hpass := List.find?_some hfound
    simp only [List.all_eq_true] at hpass
    have hall := hpass condition hcondition
    cases hcolumn : columns condition.1 with
    | none => simp [hcolumn] at hall
    | some test =>
        rw [hcolumn] at hall
        exact ⟨test, rfl, hall⟩

/-- A condition with a string is not dropped. -/
theorem mem_conditions {conditions : Where N} {property s : Text}
    (h : (property, some (.str s)) ∈ conditions) : (property, .str s) ∈ conditions.conditions :=
  List.mem_filterMap.2 ⟨_, h, rfl⟩

/-- An operation that only reads. -/
theorem snd_serve_eq {env : Env N} {db : Db} {o : Op N} (h : (serveOp env o db).2 = db) :
    (serve env o db).2 = db := by
  rcases serve_cases env o db with hserve | ⟨e, hserve⟩
  · rw [hserve, h]
  · rw [hserve]

/-! ### Calls -/

/-- A call of a method of the plugin. -/
inductive StorageCall (N : Type) where
  | encryptAndStoreData (data : Json N)
  | fetchEncryptedData (args : List (Text × Json N))
  | fetchEncryptedDataByCredentialHash (args : List (Text × Json N))

/-- What it resolves to. -/
inductive StorageAnswer where
  | stored (result : StoreResult)
  | fetched (text : Text)
  | found (result : FetchResult)
  deriving DecidableEq

variable [JsonNumber N]

/-- The method that is called. -/
def StorageCall.body (computeEntryHash : Json N → Except JsError Text) :
    StorageCall N → StoreM N StorageAnswer
  | .encryptAndStoreData data => do
      let result ← EncryptedStorage.encryptAndStoreData computeEntryHash data
      return .stored result
  | .fetchEncryptedData args => do
      let text ← EncryptedStorage.fetchEncryptedData args
      return .fetched text
  | .fetchEncryptedDataByCredentialHash args => do
      let result ← EncryptedStorage.fetchEncryptedDataByCredentialHash args
      return .found result

/-! ### What calls keep to -/

/-- **Nothing goes away**: the rows of `encrypted-data` stay as they are, and a hash that is found
stays found. -/
structure Grows (db db' : Db) : Prop where
  row : ∀ {id row}, db.encryptedData.lookup id = some row →
    db'.encryptedData.lookup id = some row
  hash : ∀ {credentialHash}, (db.credentialEncryptedData.lookup credentialHash).isSome →
    (db'.credentialEncryptedData.lookup credentialHash).isSome

theorem Grows.refl (db : Db) : Grows db db := ⟨id, id⟩

theorem Grows.trans {db db' db'' : Db} (h : Grows db db') (h' : Grows db' db'') : Grows db db'' :=
  ⟨fun hrow => h'.row (h.row hrow), fun hhash => h'.hash (h.hash hhash)⟩

/-- What can be read stays readable. -/
theorem Grows.readable {decryptString : Json N → Text → Option Text} {db db' : Db}
    {call : StoredCall N} (h : Grows db db') (hread : Readable decryptString db call) :
    Readable decryptString db' call := by
  obtain ⟨row, hrow, hrest⟩ := hread
  exact ⟨row, h.row hrow, hrest⟩

/-- The id and the key were drawn in calls whose answers are legal. -/
def Drawn (legal : Env N → Prop) (result : StoreResult) : Prop :=
  ∃ env env', legal env ∧ legal env' ∧ result = ⟨env.generatedId, env'.generateEncryptionKey⟩

/-- A link leads to a value with its hash, among the values that are stored. -/
def LinkReads (computeEntryHash : Json N → Except JsError Text)
    (decryptString : Json N → Text → Option Text) (legal : Env N → Prop) (stored : Json N → Prop)
    (db : Db) (link : CredentialEncryptedData) : Prop :=
  Drawn legal ⟨link.encryptedDataId, link.decryptedKey⟩ ∧
  ∃ data, stored data ∧ computeEntryHash data = .ok link.credentialHash ∧
    Readable decryptString db ⟨data, ⟨link.encryptedDataId, link.decryptedKey⟩⟩

/-- **Every link leads to a value with its hash.** -/
def LinksRead (computeEntryHash : Json N → Except JsError Text)
    (decryptString : Json N → Text → Option Text) (legal : Env N → Prop) (stored : Json N → Prop)
    (db : Db) : Prop :=
  ∀ link ∈ db.credentialEncryptedData.rows,
    LinkReads computeEntryHash decryptString legal stored db link

/-- What the methods of the plugin keep to. -/
def storageDiscipline (computeEntryHash : Json N → Except JsError Text)
    (decryptString : Json N → Text → Option Text) (legal : Env N → Prop)
    (stored : Json N → Prop) : Discipline Db where
  invariant := LinksRead computeEntryHash decryptString legal stored
  le := Grows
  le_refl := Grows.refl
  le_trans := Grows.trans

section Operations

variable {computeEntryHash : Json N → Except JsError Text}
  {decryptString : Json N → Text → Option Text} {legal : Env N → Prop} {stored : Json N → Prop}
  {env : Env N} {db : Db}

theorem LinkReads.mono {db' : Db} {link : CredentialEncryptedData}
    (h : LinkReads computeEntryHash decryptString legal stored db link) (hgrows : Grows db db') :
    LinkReads computeEntryHash decryptString legal stored db' link := by
  obtain ⟨hdrawn, data, hstored, hhash, hread⟩ := h
  exact ⟨hdrawn, data, hstored, hhash, hgrows.readable hread⟩

/-- An operation that leaves the links alone. -/
theorem keptBy_of_grows {o : Op N} (hgrows : Grows db (serve env o db).2)
    (hsame : (serve env o db).2.credentialEncryptedData = db.credentialEncryptedData)
    (hinv : LinksRead computeEntryHash decryptString legal stored db) :
    (storageDiscipline computeEntryHash decryptString legal stored).KeptBy serve env o db where
  le := hgrows
  invariant := by
    intro link hlink
    rw [hsame] at hlink
    exact (hinv link hlink).mono hgrows

/-- An operation that writes nothing. -/
theorem keptBy_of_snd_eq {o : Op N} (hsame : (serve env o db).2 = db)
    (hinv : LinksRead computeEntryHash decryptString legal stored db) :
    (storageDiscipline computeEntryHash decryptString legal stored).KeptBy serve env o db := by
  refine keptBy_of_grows ?_ ?_ hinv
  · rw [hsame]
    exact Grows.refl db
  · rw [hsame]

/-- The first write adds a row whose id is new. -/
theorem keptBy_insertEncryptedData (data : Text)
    (hinv : LinksRead computeEntryHash decryptString legal stored db) :
    (storageDiscipline computeEntryHash decryptString legal stored).KeptBy serve env
        (.insertEncryptedData data) db ∧
      ∀ row, (serve env (.insertEncryptedData data) db).1 = .ok row →
        row = ⟨env.generatedId, data⟩ ∧
        (serve env (.insertEncryptedData data) db).2.encryptedData.lookup row.id = some row := by
  rcases serve_cases env (.insertEncryptedData data) db with hserve | ⟨e, hserve⟩
  · rw [serveOp] at hserve
    cases hinsert : db.encryptedData.insert ⟨env.generatedId, data⟩ with
    | none =>
        rw [hinsert] at hserve
        refine ⟨keptBy_of_snd_eq (by rw [hserve]) hinv, ?_⟩
        rw [hserve]
        rintro row ⟨⟩
    | some encryptedData =>
        rw [hinsert] at hserve
        obtain ⟨hfresh, rfl⟩ := Table.insert_eq_some_iff.1 hinsert
        refine ⟨keptBy_of_grows ?_ (by rw [hserve]) hinv, ?_⟩
        · rw [hserve]
          refine ⟨?_, id⟩
          intro id row hrow
          have hne : id ≠ env.generatedId := by
            rintro rfl
            rw [hrow] at hfresh
            cases hfresh
          have hkept := Table.lookup_put_of_ne (t := db.encryptedData)
            (r := ⟨env.generatedId, data⟩) hne
          exact hkept.trans hrow
        · rw [hserve]
          rintro row hrow
          obtain rfl := Except.ok.inj hrow
          exact ⟨rfl, Table.lookup_put_self _ _⟩
  · refine ⟨keptBy_of_snd_eq (by rw [hserve]) hinv, ?_⟩
    rw [hserve]
    rintro row ⟨⟩

/-- The second write, of a link that leads to a value with its hash. -/
theorem keptBy_saveCredentialEncryptedData {link : CredentialEncryptedData}
    (hlink : LinkReads computeEntryHash decryptString legal stored db link)
    (hinv : LinksRead computeEntryHash decryptString legal stored db) :
    (storageDiscipline computeEntryHash decryptString legal stored).KeptBy serve env
        (.saveCredentialEncryptedData link) db ∧
      ∀ saved, (serve env (.saveCredentialEncryptedData link) db).1 = .ok saved →
        ((serve env (.saveCredentialEncryptedData link) db).2.credentialEncryptedData.lookup
          link.credentialHash).isSome := by
  rcases serve_cases env (.saveCredentialEncryptedData link) db with hserve | ⟨e, hserve⟩
  · rw [serveOp] at hserve
    split at hserve
    · have hgrows : Grows db { db with
          credentialEncryptedData := db.credentialEncryptedData.put link } := by
        refine ⟨id, ?_⟩
        intro credentialHash hfound
        by_cases heq : credentialHash = link.credentialHash
        · rw [heq, Table.lookup_put_self]
          rfl
        · rwa [Table.lookup_put_of_ne heq]
      refine ⟨⟨?_, ?_⟩, ?_⟩
      · rw [hserve]
        exact hgrows
      · rw [hserve]
        intro link' hlink'
        rcases Table.mem_put_iff.1 hlink' with rfl | ⟨hold, -⟩
        · exact hlink.mono hgrows
        · exact (hinv link' hold).mono hgrows
      · rw [hserve]
        intro _ _
        rw [Table.lookup_put_self]
        rfl
    · refine ⟨keptBy_of_snd_eq (by rw [hserve]) hinv, ?_⟩
      rw [hserve]
      rintro saved ⟨⟩
  · refine ⟨keptBy_of_snd_eq (by rw [hserve]) hinv, ?_⟩
    rw [hserve]
    rintro saved ⟨⟩

end Operations

/-! ### The methods -/

section Methods

variable {computeEntryHash : Json N → Except JsError Text}
  {decryptString : Json N → Text → Option Text} {legal : Env N → Prop} {stored : Json N → Prop}
  {db : Db}

variable (computeEntryHash decryptString legal stored) in
/-- A method of the plugin keeps to the discipline, and returns as it should. -/
abbrev Ensures {α : Type} (post : α → Db → Prop) (p : StoreM N α) (db : Db) : Prop :=
  Guarantees (storageDiscipline computeEntryHash decryptString legal stored) legal serve post p db

/-- What a call that has stored a value says of the tables. -/
structure StoredAs (computeEntryHash : Json N → Except JsError Text)
    (decryptString : Json N → Text → Option Text) (legal : Env N → Prop) (data : Json N)
    (result : StoreResult) (db : Db) : Prop where
  readable : Readable decryptString db ⟨data, result⟩
  linked : ∃ credentialHash, computeEntryHash data = .ok credentialHash ∧
    (db.credentialEncryptedData.lookup credentialHash).isSome
  drawn : Drawn legal result

theorem StoredAs.mono {db' : Db} {data : Json N} {result : StoreResult}
    (h : StoredAs computeEntryHash decryptString legal data result db) (hgrows : Grows db db') :
    StoredAs computeEntryHash decryptString legal data result db' where
  readable := hgrows.readable h.readable
  linked := by
    obtain ⟨credentialHash, hhash, hfound⟩ := h.linked
    exact ⟨credentialHash, hhash, hgrows.hash hfound⟩
  drawn := h.drawn

/-- What a fetch by id says of the tables. -/
def FetchedFrom (conditions : Where N) (text : Text) (db : Db) : Prop :=
  ∃ row, db.encryptedData.lookup row.id = some row ∧ row.data = text ∧
    ∀ id, ("id".toList, some (.str id)) ∈ conditions → row.id = id

/-- What a fetch by hash says of the tables. -/
structure FoundIn (computeEntryHash : Json N → Except JsError Text)
    (decryptString : Json N → Text → Option Text) (legal : Env N → Prop) (stored : Json N → Prop)
    (credentialHash : Option (Json N)) (result : FetchResult) (db : Db) : Prop where
  drawn : Drawn legal ⟨result.encryptedDataId, result.decryptedKey⟩
  row : db.encryptedData.lookup result.encryptedDataId =
    some ⟨result.encryptedDataId, result.encryptedData⟩
  ne_nil : result.encryptedData ≠ []
  reads : ∃ data hash, stored data ∧ computeEntryHash data = .ok hash ∧
    (∀ text, credentialHash = some (.str text) → hash = text) ∧
    decrypt decryptString result.encryptedData result.decryptedKey = some (Json.stringify data)

theorem guarantees_generateEncryptionKey :
    Ensures computeEntryHash decryptString legal stored
      (fun key _ => ∃ env, legal env ∧ key = env.generateEncryptionKey)
      (perform (N := N) .generateEncryptionKey) db := by
  refine guarantees_perform ?_
  rintro env db' henv - hinv
  refine ⟨keptBy_of_snd_eq (snd_serve_eq rfl) hinv, ?_⟩
  intro key hkey
  rcases serve_cases env .generateEncryptionKey db' with hserve | ⟨e, hserve⟩
  · rw [hserve] at hkey
    exact ⟨env, henv, (Except.ok.inj hkey).symm⟩
  · rw [hserve] at hkey
    cases hkey

theorem guarantees_encryptString (hlegal : ∀ env, legal env → env.Lawful decryptString)
    (document key : Text) :
    Ensures computeEntryHash decryptString legal stored
      (fun encrypted _ => decrypt decryptString (Json.stringify encrypted) key = some document)
      (perform (.encryptString document key)) db := by
  refine guarantees_perform ?_
  rintro env db' henv - hinv
  refine ⟨keptBy_of_snd_eq (snd_serve_eq rfl) hinv, ?_⟩
  intro encrypted hencrypted
  rcases serve_cases env (.encryptString document key) db' with hserve | ⟨e, hserve⟩
  · rw [hserve] at hencrypted
    exact decrypt_stringify (hlegal env henv) hencrypted
  · rw [hserve] at hencrypted
    cases hencrypted

/-- The two writes. -/
theorem guarantees_saveEncryptedData {credentialHash key data : Text} {value : Json N}
    (hkey : ∃ env : Env N, legal env ∧ key = env.generateEncryptionKey) (hstored : stored value)
    (hhash : computeEntryHash value = .ok credentialHash)
    (hne : data ≠ []) (hdecrypt : decrypt decryptString data key = some (Json.stringify value)) :
    Ensures computeEntryHash decryptString legal stored
      (fun saved db => Readable decryptString db ⟨value, ⟨saved.id, key⟩⟩ ∧
        (db.credentialEncryptedData.lookup credentialHash).isSome ∧ Drawn legal ⟨saved.id, key⟩)
      (saveEncryptedData credentialHash key data) db := by
  obtain ⟨envKey, henvKey, rfl⟩ := hkey
  have hinsert : Ensures computeEntryHash decryptString legal stored
      (fun saved db => Readable decryptString db ⟨value, ⟨saved.id, envKey.generateEncryptionKey⟩⟩ ∧
        Drawn legal ⟨saved.id, envKey.generateEncryptionKey⟩)
      (perform (N := N) (.insertEncryptedData data)) db := by
    refine guarantees_perform ?_
    rintro env db' henv - hinv
    obtain ⟨hkept, hrow⟩ := keptBy_insertEncryptedData data hinv
    refine ⟨hkept, ?_⟩
    intro saved hsaved
    obtain ⟨rfl, hlookup⟩ := hrow saved hsaved
    exact ⟨⟨_, hlookup, hne, hdecrypt⟩, env, envKey, henv, henvKey, rfl⟩
  refine hinsert.bind ?_
  rintro saved db₁ ⟨hread, hdrawn⟩
  -- the link is written when the ciphertext is there, whatever happened since
  have hsave : Ensures computeEntryHash decryptString legal stored
      (fun _ db => (db.credentialEncryptedData.lookup credentialHash).isSome)
      (perform (N := N) (.saveCredentialEncryptedData
        ⟨credentialHash, saved.id, envKey.generateEncryptionKey⟩)) db₁ := by
    refine guarantees_perform ?_
    rintro env db₂ - hle hinv
    have hlink : LinkReads computeEntryHash decryptString legal stored db₂
        ⟨credentialHash, saved.id, envKey.generateEncryptionKey⟩ :=
      ⟨hdrawn, value, hstored, hhash, Grows.readable hle hread⟩
    exact keptBy_saveCredentialEncryptedData hlink hinv
  refine (hsave.and_le (Grows.refl db₁)).bind ?_
  rintro link db₂ ⟨hgrows, hfound⟩
  exact ⟨Grows.readable hgrows hread, hfound, hdrawn⟩

/-- **A call that stores a value.** -/
theorem guarantees_encryptAndStoreData (hlegal : ∀ env, legal env → env.Lawful decryptString)
    {data : Json N} (hstored : stored data) :
    Ensures computeEntryHash decryptString legal stored
      (StoredAs computeEntryHash decryptString legal data)
      (encryptAndStoreData computeEntryHash data) db := by
  have hofExcept : Ensures computeEntryHash decryptString legal stored
      (fun credentialHash _ => computeEntryHash data = .ok credentialHash)
      (Prog.ofExcept (computeEntryHash data)) db := guarantees_ofExcept.2 fun _ h => h
  refine hofExcept.bind ?_
  intro credentialHash _ hhash
  refine guarantees_generateEncryptionKey.bind ?_
  intro key _ hkey
  refine (guarantees_encryptString hlegal _ _).bind ?_
  intro encrypted _ hdecrypt
  obtain ⟨c, t, ht, -, -⟩ := Json.stringify_eq_cons encrypted
  refine (guarantees_saveEncryptedData hkey hstored hhash (by simp [ht]) hdecrypt).bind ?_
  rintro saved db' ⟨hread, hfound, hdrawn⟩
  exact ⟨hread, ⟨credentialHash, hhash, hfound⟩, hdrawn⟩

theorem guarantees_getEncryptedData (conditions : Where N) :
    Ensures computeEntryHash decryptString legal stored
      (fun found db => ∀ text, found = some text → FetchedFrom conditions text db)
      (getEncryptedData conditions) db := by
  have hfind : Ensures computeEntryHash decryptString legal stored
      (fun found db => ∀ text, found.map EncryptedData.data = some text →
        FetchedFrom conditions text db) (perform (.findEncryptedData conditions)) db := by
    refine guarantees_perform ?_
    rintro env db' - - hinv
    refine ⟨keptBy_of_snd_eq (snd_serve_eq rfl) hinv, ?_⟩
    intro found hfound text htext
    obtain ⟨row, rfl, rfl⟩ := Option.map_eq_some_iff.1 htext
    rw [snd_serve_eq (o := .findEncryptedData conditions) rfl]
    rcases serve_cases env (.findEncryptedData conditions) db' with hserve | ⟨e, hserve⟩
    · rw [hserve] at hfound
      obtain ⟨hmem, hconditions⟩ := of_findOneBy hfound
      refine ⟨row, Table.lookup_eq_some_iff.2 ⟨hmem, rfl⟩, rfl, ?_⟩
      intro id hid
      obtain ⟨test, htest, hpass⟩ := hconditions _ (mem_conditions hid)
      obtain rfl : (fun row : EncryptedData => env.textIs row.id) = test := Option.some.inj htest
      exact of_decide_eq_true hpass
    · rw [hserve] at hfound
      cases hfound
  exact hfind.bind fun found _ h => h

/-- **A fetch by id.** -/
theorem guarantees_fetchEncryptedData (args : List (Text × Json N)) :
    Ensures computeEntryHash decryptString legal stored
      (FetchedFrom (argumentFields args)) (fetchEncryptedData args) db := by
  refine (guarantees_getEncryptedData (argumentFields args)).bind ?_
  intro found db' hfound
  rcases found with _ | _ | ⟨c, text⟩
  · exact trivial
  · exact trivial
  · exact hfound _ rfl

/-- The link that a query for a hash finds. -/
theorem guarantees_findCredentialEncryptedData (credentialHash : Option (Json N)) :
    Ensures computeEntryHash decryptString legal stored
      (fun found db => ∀ link, found = some link →
        LinkReads computeEntryHash decryptString legal stored db link ∧
        ∀ text, credentialHash = some (.str text) → link.credentialHash = text)
      (perform (.findCredentialEncryptedData [("credentialHash".toList, credentialHash)])) db := by
  refine guarantees_perform ?_
  rintro env db' - - hinv
  refine ⟨keptBy_of_snd_eq (snd_serve_eq rfl) hinv, ?_⟩
  rintro _ hfound link rfl
  rw [snd_serve_eq (o := .findCredentialEncryptedData _) rfl]
  rcases serve_cases env (.findCredentialEncryptedData _) db' with hserve | ⟨e, hserve⟩
  · rw [hserve] at hfound
    obtain ⟨hmem, hconditions⟩ := of_findOneBy hfound
    refine ⟨hinv link hmem, ?_⟩
    rintro text rfl
    obtain ⟨test, htest, hpass⟩ := hconditions _ (mem_conditions List.mem_cons_self)
    obtain rfl : (fun row : CredentialEncryptedData => env.textIs row.credentialHash) = test :=
      Option.some.inj htest
    exact of_decide_eq_true hpass
  · rw [hserve] at hfound
    cases hfound

/-- **A fetch by hash**: the ciphertext is the one that the link led to when it was found. -/
theorem guarantees_fetchEncryptedDataByCredentialHash (args : List (Text × Json N)) :
    Ensures computeEntryHash decryptString legal stored
      (FoundIn computeEntryHash decryptString legal stored (args.lookup "credentialHash".toList))
      (fetchEncryptedDataByCredentialHash args) db := by
  have hget : Ensures computeEntryHash decryptString legal stored
      (fun found db => ∀ result, found = some result → FoundIn computeEntryHash decryptString
        legal stored (args.lookup "credentialHash".toList) result db)
      (getEncryptedDataByCredentialHash (args.lookup "credentialHash".toList)) db := by
    refine (guarantees_findCredentialEncryptedData _).bind ?_
    intro found db₁ hfound
    cases found with
    | none => rintro result ⟨⟩
    | some link =>
        obtain ⟨⟨hdrawn, data, hstored, hhash, hread⟩, htext⟩ := hfound link rfl
        refine ((guarantees_getEncryptedData _).and_le (Grows.refl db₁)).bind ?_
        rintro encryptedData db₂ ⟨hgrows, hfetched⟩ result hresult
        obtain ⟨text, htruthy, rfl⟩ := Option.map_eq_some_iff.1 hresult
        have hsome : encryptedData = some text := by
          rcases encryptedData with _ | _ | ⟨c, t⟩
          · cases htruthy
          · cases htruthy
          · exact htruthy
        -- the row of the link is still there, and it is the one that was fetched
        obtain ⟨row, hrow, rfl, hid⟩ := hfetched text hsome
        obtain ⟨row', hrow', hne, hdecrypt⟩ := Grows.readable hgrows hread
        have hids := hid link.encryptedDataId List.mem_cons_self
        dsimp only at hrow' hdecrypt
        rw [← hids, hrow] at hrow'
        obtain rfl := Option.some.inj hrow'
        refine ⟨hdrawn, ?_, hne, data, link.credentialHash, hstored, hhash, htext, hdecrypt⟩
        rw [← hids]
        exact hrow
  refine hget.bind ?_
  intro found db' hfound
  cases found with
  | none => exact trivial
  | some result => exact hfound result rfl

end Methods

/-! ### Overlapping calls -/

section Overlapping

variable {ι : Type}

/-- Calls that have not started. -/
def overlapping (computeEntryHash : Json N → Except JsError Text) (call : ι → StorageCall N)
    (db : Db) : Threads.Config ι Db Unit (Op N) Op.Resp JsError StorageAnswer StorageAnswer :=
  Threads.pool (fun i => (call i).body computeEntryHash) db

/-- The configurations that overlapping calls reach, each operation with its own answers. -/
abbrev Overlap [DecidableEq ι] (computeEntryHash : Json N → Except JsError Text)
    (legal : Env N → Prop) (call : ι → StorageCall N) (db : Db) :
    Threads.Config ι Db Unit (Op N) Op.Resp JsError StorageAnswer StorageAnswer → Prop :=
  Threads.Reaches (Threads.sharedStore serve) Threads.once (fun _ env _ => legal env)
    (overlapping computeEntryHash call db)

/-- The values that calls store. -/
def Stores (call : ι → StorageCall N) (data : Json N) : Prop :=
  ∃ i, call i = .encryptAndStoreData data

variable {computeEntryHash : Json N → Except JsError Text}
  {decryptString : Json N → Text → Option Text} {legal : Env N → Prop}

/-- What a call that has returned says of the tables. -/
def ReturnedAs (computeEntryHash : Json N → Except JsError Text)
    (decryptString : Json N → Text → Option Text) (legal : Env N → Prop)
    (stored : Json N → Prop) : StorageCall N → StorageAnswer → Db → Prop
  | .encryptAndStoreData data, .stored result, db =>
      StoredAs computeEntryHash decryptString legal data result db
  | .fetchEncryptedData args, .fetched text, db => FetchedFrom (argumentFields args) text db
  | .fetchEncryptedDataByCredentialHash args, .found result, db =>
      FoundIn computeEntryHash decryptString legal stored (args.lookup "credentialHash".toList)
        result db
  | _, _, _ => False

/-- Each call keeps to the discipline. -/
theorem guarantees_body (hlegal : ∀ env, legal env → env.Lawful decryptString)
    (call : ι → StorageCall N) (i : ι) (db : Db) :
    Ensures computeEntryHash decryptString legal (Stores call)
      (ReturnedAs computeEntryHash decryptString legal (Stores call) (call i))
      ((call i).body computeEntryHash) db := by
  cases hcall : call i with
  | encryptAndStoreData data =>
      exact (guarantees_encryptAndStoreData hlegal ⟨i, hcall⟩).bind fun _ _ h => h
  | fetchEncryptedData args => exact (guarantees_fetchEncryptedData args).bind fun _ _ h => h
  | fetchEncryptedDataByCredentialHash args =>
      exact (guarantees_fetchEncryptedDataByCredentialHash args).bind fun _ _ h => h

variable [DecidableEq ι] {call : ι → StorageCall N} {db : Db}
  {c : Threads.Config ι Db Unit (Op N) Op.Resp JsError StorageAnswer StorageAnswer}

/-- What overlapping calls have done. -/
theorem overlap_guarantees (hlegal : ∀ env, legal env → env.Lawful decryptString)
    (hstart : db.credentialEncryptedData.rows = [])
    (hreach : Overlap computeEntryHash legal call db c) :
    LinksRead computeEntryHash decryptString legal (Stores call) c.shared ∧
    ∀ i answer, (c.thread i).result = some (.ok answer) → ∃ db', Grows db' c.shared ∧
      ReturnedAs computeEntryHash decryptString legal (Stores call) (call i) answer db' := by
  have hinv : LinksRead computeEntryHash decryptString legal (Stores call) db := by
    intro link hlink
    rw [hstart] at hlink
    cases hlink
  obtain ⟨hlinks, -, hreturned⟩ := Threads.Reaches.guarantees
    (D := storageDiscipline computeEntryHash decryptString legal (Stores call)) hreach hinv
    (fun i => guarantees_body hlegal call i db) fun _ _ _ henv => henv
  exact ⟨hlinks, hreturned⟩

/-- A value that was stored is there from then on. -/
theorem overlap_storedAs (hlegal : ∀ env, legal env → env.Lawful decryptString)
    (hstart : db.credentialEncryptedData.rows = [])
    (hreach : Overlap computeEntryHash legal call db c) {i : ι} {data : Json N}
    {result : StoreResult} (hcall : call i = .encryptAndStoreData data)
    (hresult : (c.thread i).result = some (.ok (.stored result))) :
    StoredAs computeEntryHash decryptString legal data result c.shared := by
  obtain ⟨db', hgrows, hreturned⟩ := (overlap_guarantees hlegal hstart hreach).2 i _ hresult
  rw [hcall] at hreturned
  exact StoredAs.mono hreturned hgrows

/-- **What overlapping calls return belongs together**, in every interleaving and whatever fails: at
any moment every link leads to a value with its hash; a value that was stored is found from then on,
by its id and by its hash, and decrypted by its key, and whoever has fetched its id has got it; and
whoever has fetched a hash has got a value with that hash and the key that decrypts it. -/
theorem overlapping_calls
    (hstart : db.credentialEncryptedData.rows = [])
    (hreach : Overlap computeEntryHash (Env.Lawful decryptString) call db c) :
    (∀ link ∈ c.shared.credentialEncryptedData.rows, ∃ i data,
      call i = .encryptAndStoreData data ∧ computeEntryHash data = .ok link.credentialHash ∧
      ∃ row, c.shared.encryptedData.lookup link.encryptedDataId = some row ∧
        decrypt decryptString row.data link.decryptedKey = some (Json.stringify data)) ∧
    (∀ i data result, call i = .encryptAndStoreData data →
      (c.thread i).result = some (.ok (.stored result)) →
      (∀ env : Env N, env.Up → ∃ text,
        Prog.run (serve env) (fetchEncryptedData [("id".toList, .str result.id)]) c.shared =
          (.ok text, c.shared) ∧
        decrypt decryptString text result.key = some (Json.stringify data)) ∧
      (∀ env : Env N, env.Up → ∃ credentialHash found i' data',
        computeEntryHash data = .ok credentialHash ∧
        Prog.run (serve env) (fetchEncryptedDataByCredentialHash
          [("credentialHash".toList, .str credentialHash)]) c.shared = (.ok found, c.shared) ∧
        call i' = .encryptAndStoreData data' ∧ computeEntryHash data' = .ok credentialHash ∧
        decrypt decryptString found.encryptedData found.decryptedKey =
          some (Json.stringify data')) ∧
      ∀ j args text, call j = .fetchEncryptedData args → ("id".toList, .str result.id) ∈ args →
        (c.thread j).result = some (.ok (.fetched text)) →
        decrypt decryptString text result.key = some (Json.stringify data)) ∧
    ∀ j args credentialHash found, call j = .fetchEncryptedDataByCredentialHash args →
      args.lookup "credentialHash".toList = some (.str credentialHash) →
      (c.thread j).result = some (.ok (.found found)) →
      ∃ i data, call i = .encryptAndStoreData data ∧ computeEntryHash data = .ok credentialHash ∧
        decrypt decryptString found.encryptedData found.decryptedKey =
          some (Json.stringify data) := by
  obtain ⟨hlinks, hreturned⟩ := overlap_guarantees (fun _ h => h) hstart hreach
  refine ⟨?_, ?_, ?_⟩
  · intro link hlink
    obtain ⟨-, data, ⟨i, hcall⟩, hhash, row, hrow, -, hdecrypt⟩ := hlinks link hlink
    exact ⟨i, data, hcall, hhash, row, hrow, hdecrypt⟩
  · intro i data result hcall hresult
    have hstored := overlap_storedAs (fun _ h => h) hstart hreach hcall hresult
    obtain ⟨row, hrow, hne, hdecrypt⟩ := hstored.readable
    refine ⟨fun env hup => ⟨row.data, run_fetchEncryptedData hup hrow hne, hdecrypt⟩, ?_, ?_⟩
    · intro env hup
      obtain ⟨credentialHash, hhash, hfound⟩ := hstored.linked
      obtain ⟨link, hlink⟩ := Option.isSome_iff_exists.1 hfound
      obtain ⟨hmem, rfl⟩ := Table.lookup_eq_some_iff.1 hlink
      obtain ⟨-, data', ⟨i', hcall'⟩, hhash', row', hrow', hne', hdecrypt'⟩ := hlinks link hmem
      exact ⟨_, _, i', data', hhash, run_fetchEncryptedDataByCredentialHash hup hlink hrow' hne',
        hcall', hhash', hdecrypt'⟩
    · intro j args text hcall' hid hfetched
      obtain ⟨db', hgrows, hreturned'⟩ := hreturned j _ hfetched
      rw [hcall'] at hreturned'
      obtain ⟨row', hrow', rfl, hids⟩ := hreturned'
      have hsame := hids result.id (List.mem_map.2 ⟨_, hid, rfl⟩)
      have hkept := hgrows.row hrow'
      rw [hsame, hrow] at hkept
      obtain rfl := Option.some.inj hkept
      exact hdecrypt
  · intro j args credentialHash found hcall' hargs hfound
    obtain ⟨db', -, hreturned'⟩ := hreturned j _ hfound
    rw [hcall'] at hreturned'
    obtain ⟨data, hash, ⟨i, hcall⟩, hhash, htext, hdecrypt⟩ := hreturned'.reads
    obtain rfl := htext credentialHash hargs
    exact ⟨i, data, hcall, hhash, hdecrypt⟩

end Overlapping

/-! ### Three calls -/

/-- Two calls that store `true`, and one that fetches its hash. -/
def threeCalls (i : Fin 3) : StorageCall ℤ :=
  if i.val = 2 then .fetchEncryptedDataByCredentialHash
    [("credentialHash".toList, .str "true".toList)]
  else .encryptAndStoreData (.bool true)

/-- What the calls draw. -/
def threeDraws (i : Fin 3) : Env ℤ :=
  if i.val = 0 then plainEnv "1".toList "k".toList else plainEnv "2".toList "l".toList

/-- What the third call gets when its queries are before and after the second write of the second
call. -/
def firstFound : FetchResult :=
  ⟨Json.stringify (plainEncryptString "true".toList "k".toList), "1".toList, "k".toList⟩

/-- The calls, run to their ends. -/
theorem threeCalls_end {legal : Env ℤ → Prop} (hlegal : ∀ i, legal (threeDraws i)) :
    ∃ c, Overlap plainHash legal threeCalls plainDb c ∧
      (c.thread 0).result = some (.ok (.stored ⟨"1".toList, "k".toList⟩)) ∧
      (c.thread 2).result = some (.ok (.found firstFound)) := by
  let order : List (Fin 3) := [0, 1, 0, 1, 0, 1, 0, 2, 1, 2, 2, 0, 1]
  have hexec : (Threads.exec (Threads.sharedStore serve) Threads.once (fun _ _ _ => true)
      (order.map fun i => (i, threeDraws i)) (overlapping plainHash threeCalls plainDb)).any
      (fun c => decide
        ((c.thread 0).result = some (.ok (.stored ⟨"1".toList, "k".toList⟩)) ∧
          (c.thread 2).result = some (.ok (.found firstFound)))) = true := by
    decide +kernel
  have hok : ∀ i env (c : Threads.Config (Fin 3) Db Unit (Op ℤ) Op.Resp JsError StorageAnswer
      StorageAnswer), (i, env) ∈ order.map (fun i => (i, threeDraws i)) → true = true →
      legal env := by
    intro i env c hmem _
    obtain ⟨j, -, heq⟩ := List.mem_map.1 hmem
    rw [← (Prod.mk.inj heq).2]
    exact hlegal j
  obtain ⟨c, hreach, hc⟩ := Threads.exists_reaches_of_exec hok hexec
  exact ⟨c, hreach, of_decide_eq_true hc⟩

theorem threeDraws_lawful (i : Fin 3) : (threeDraws i).Lawful plainDecryptString := by
  rw [threeDraws]
  split_ifs <;> exact plainEnv_lawful _ _

/-- Between its two queries, the link that the third call has found is overwritten; it gets the
ciphertext and the key of the first call. -/
theorem overlapping_calls_three :
    ∃ c, Overlap plainHash (Env.Lawful plainDecryptString) threeCalls plainDb c ∧
      (c.thread 2).result = some (.ok (.found firstFound)) ∧
      decrypt plainDecryptString firstFound.encryptedData firstFound.decryptedKey =
        some "true".toList := by
  obtain ⟨c, hreach, -, hfound⟩ := threeCalls_end threeDraws_lawful
  obtain ⟨-, -, hreads⟩ := overlapping_calls rfl hreach
  obtain ⟨i, data, -, hhash, hdecrypt⟩ := hreads 2 _ "true".toList firstFound rfl rfl hfound
  exact ⟨c, hreach, hfound, hdecrypt.trans (congrArg some (Except.ok.inj hhash))⟩

end EncryptedStorage
