/-
**What a fetch returns for the argument object it is given.**

`fetchEncryptedData` passes its argument object on as the `where` object of a query, and
`fetchEncryptedDataByCredentialHash` passes on its field `credentialHash`.  A condition that is
missing or `null` is dropped, so without it the query returns the first row, with the key of
whatever credential that is; and a field that is no column makes the query fail, as the field `key`
does that the route for a ciphertext adds.

Main definitions:

* `EncryptedStorage.given` — the text in a field of an argument object;
* `EncryptedStorage.expectedData`, `EncryptedStorage.expectedResult` — what a fetch should return;
* `EncryptedStorage.FetchableById`, `EncryptedStorage.FetchableByHash` — the tables and argument
  objects for which it does.

Main results:

* `EncryptedStorage.fetched_iff` — **both fetches return what they should exactly for these**;
* `EncryptedStorage.fetched_without_arguments` — a fetch without a hash returns a key, and one by an
  id and a key is rejected.
-/

import Vckit.EncryptedRuns

set_option relaxedAutoImplicit false
set_option autoImplicit false

namespace EncryptedStorage

variable {N : Type} {env : Env N} {db : Db}

/-! ### What a fetch should return -/

/-- The error of a fetch that finds nothing. -/
def dataNotFound : JsError := JsError.ofMessage "Data not found".toList

/-- A value, or that error. -/
def orNotFound {α : Type} : Option α → Except JsError α
  | none => .error dataNotFound
  | some a => .ok a

theorem orNotFound_inj {α : Type} {o o' : Option α} : orNotFound o = orNotFound o' ↔ o = o' := by
  constructor
  · intro h
    cases o with
    | none =>
        cases o' with
        | none => rfl
        | some a => cases h
    | some a =>
        cases o' with
        | none => cases h
        | some a' => exact congrArg some (Except.ok.inj h)
  · rintro rfl
    rfl

/-- The text in a field of an argument object: there is none if the field is missing or `null`, or
holds another value. -/
def given (args : List (Text × Json N)) (field : Text) : Option Text :=
  match args.lookup field with
  | some (.str text) => some text
  | _ => none

/-- The ciphertext of the row whose id is given. -/
def expectedData (db : Db) (args : List (Text × Json N)) : Except JsError Text :=
  orNotFound ((given args "id".toList).bind fun id =>
    (db.encryptedData.lookup id).map EncryptedData.data)

/-- The ciphertext and the key of the row whose hash is given. -/
def expectedResult (db : Db) (args : List (Text × Json N)) : Except JsError FetchResult :=
  orNotFound ((given args "credentialHash".toList).bind fun credentialHash =>
    (db.credentialEncryptedData.lookup credentialHash).bind fun link =>
      (db.encryptedData.lookup link.encryptedDataId).map fun row =>
        ⟨row.data, link.encryptedDataId, link.decryptedKey⟩)

/-! ### Queries -/

/-- A row meets all conditions of a query. -/
def selects {α : Type} (columns : Columns α N) (conditions : List (Text × Json N)) (row : α) :
    Bool :=
  conditions.all fun condition =>
    match columns condition.1 with
    | none => false
    | some test => test row condition.2

/-- Every condition of a query is one on a column. -/
def Known {α : Type} (columns : Columns α N) (conditions : Where N) : Prop :=
  ∀ condition ∈ conditions.conditions, (columns condition.1).isSome = true

/-- A query with conditions on columns returns the first row that meets them. -/
theorem findOneBy_of_known {α : Type} {columns : Columns α N} {conditions : Where N}
    (h : Known columns conditions) (entity : Text) (rows : List α) :
    findOneBy entity columns conditions rows =
      .ok (rows.find? (selects columns conditions.conditions)) := by
  have hnone : conditions.conditions.find? (fun condition => (columns condition.1).isNone) =
      none := by
    rw [List.find?_eq_none]
    intro condition hcondition
    have hsome := h condition hcondition
    rw [Option.isSome_iff_ne_none] at hsome
    simpa using hsome
  rw [findOneBy, hnone]
  rfl

/-- A query with another condition fails. -/
theorem findOneBy_of_not_known {α : Type} {columns : Columns α N} {conditions : Where N}
    (h : ¬Known columns conditions) (entity : Text) (rows : List α) :
    ∃ property, findOneBy entity columns conditions rows =
      .error (propertyNotFound property entity) := by
  rw [findOneBy]
  cases hfind : conditions.conditions.find? (fun condition => (columns condition.1).isNone) with
  | some condition => exact ⟨condition.1, rfl⟩
  | none =>
      refine absurd (fun condition hcondition => ?_) h
      have hsome := List.find?_eq_none.1 hfind condition hcondition
      rw [Option.isSome_iff_ne_none]
      simpa using hsome

theorem propertyNotFound_ne (property entity : Text) :
    propertyNotFound property entity ≠ dataNotFound := by
  have hname : "EntityPropertyNotFoundError".toList ≠ "Error".toList := by decide +kernel
  exact fun h => hname (congrArg JsError.name h)

/-- A text in a field is a condition on that column. -/
theorem mem_conditions_of_given {args : List (Text × Json N)} {field text : Text}
    (h : given args field = some text) :
    (field, .str text) ∈ (argumentFields args).conditions := by
  rw [given] at h
  split at h
  case h_1 text' hlookup =>
    obtain rfl := Option.some.inj h
    have hmem : (field, Json.str text') ∈ args := by
      obtain ⟨before, after, rfl, -⟩ := List.lookup_eq_some_iff.1 hlookup
      simp
    rw [argumentFields, Where.conditions, List.filterMap_map, List.mem_filterMap]
    exact ⟨_, hmem, rfl⟩
  case h_2 => cases h

/-- A row that is selected has the id that is given. -/
theorem id_of_selects {args : List (Text × Json N)} {id : Text} {row : EncryptedData}
    (hgiven : given args "id".toList = some id)
    (h : selects (encryptedDataColumns env) (argumentFields args).conditions row = true) :
    row.id = id := by
  rw [selects, List.all_eq_true] at h
  exact of_decide_eq_true (h _ (mem_conditions_of_given hgiven))

/-! ### Truthy texts -/

theorem truthyText_eq_self_iff {text : Text} : truthyText (some text) = some text ↔ text ≠ [] := by
  cases text <;> simp [truthyText]

theorem truthyText_eq_none_iff {text : Text} : truthyText (some text) = none ↔ text = [] := by
  cases text <;> simp [truthyText]

/-! ### A fetch by id -/

/-- The argument objects and tables for which a fetch by id returns what it should. -/
structure FetchableById (env : Env N) (db : Db) (args : List (Text × Json N)) : Prop where
  /-- Every field that is not `null` is a column. -/
  known : Known (encryptedDataColumns env) (argumentFields args)
  /-- If an id is given, then its row has a text and meets the conditions of the other fields. -/
  named : ∀ id, given args "id".toList = some id → ∀ row ∈ db.encryptedData.rows, row.id = id →
    row.data ≠ [] ∧
      selects (encryptedDataColumns env) (argumentFields args).conditions row = true
  /-- If no id is given, then the fields that are left select nothing, or a row without text. -/
  unnamed : given args "id".toList = none → ∀ row, db.encryptedData.rows.find?
    (selects (encryptedDataColumns env) (argumentFields args).conditions) = some row →
      row.data = []

/-- What a fetch by id returns, by the row that its query finds. -/
theorem run_fetchEncryptedData_of_ok (hup : env.Up) {args : List (Text × Json N)}
    {found : Option EncryptedData}
    (h : findOneBy "EncryptedData".toList (encryptedDataColumns env) (argumentFields args)
      db.encryptedData.rows = .ok found) :
    Prog.run (serve env) (fetchEncryptedData args) db =
      (orNotFound (truthyText (found.map EncryptedData.data)), db) := by
  have hfind : Prog.run (serve env) (perform (.findEncryptedData (argumentFields args))) db =
      (.ok found, db) := by
    rw [run_perform_of_up hup, serveOp, h]
  have hget : Prog.run (serve env) (getEncryptedData (argumentFields args)) db =
      (.ok (found.map EncryptedData.data), db) := by
    rw [getEncryptedData, Prog.run_bind_of_ok hfind]
    rfl
  rw [fetchEncryptedData, Prog.run_bind_of_ok hget]
  cases truthyText (found.map EncryptedData.data) <;> rfl

theorem run_fetchEncryptedData_of_error (hup : env.Up) {args : List (Text × Json N)} {e : JsError}
    (h : findOneBy "EncryptedData".toList (encryptedDataColumns env) (argumentFields args)
      db.encryptedData.rows = .error e) :
    Prog.run (serve env) (fetchEncryptedData args) db = (.error e, db) := by
  have hfind : Prog.run (serve env) (perform (.findEncryptedData (argumentFields args))) db =
      (.error e, db) := by
    rw [run_perform_of_up hup, serveOp, h]
  exact Prog.run_bind_of_error (Prog.run_bind_of_error hfind)

/-- The row that a query with an id finds is the row with that id, if it meets the conditions. -/
theorem find?_selects_of_lookup {args : List (Text × Json N)} {id : Text} {row : EncryptedData}
    (hgiven : given args "id".toList = some id) (hrow : db.encryptedData.lookup id = some row) :
    db.encryptedData.rows.find?
      (selects (encryptedDataColumns env) (argumentFields args).conditions) =
      if selects (encryptedDataColumns env) (argumentFields args).conditions row = true then
        some row else none := by
  obtain ⟨hmem, hid⟩ := Table.lookup_eq_some_iff.1 hrow
  have honly : ∀ other ∈ db.encryptedData.rows,
      selects (encryptedDataColumns env) (argumentFields args).conditions other = true →
        other = row := fun other hother hselects =>
    db.encryptedData.eq_of_key_eq hother hmem ((id_of_selects hgiven hselects).trans hid.symm)
  split_ifs with hselects
  · cases hfind : db.encryptedData.rows.find?
      (selects (encryptedDataColumns env) (argumentFields args).conditions) with
    | none => exact absurd hselects (List.find?_eq_none.1 hfind row hmem)
    | some other =>
        rw [honly other (List.mem_of_find?_eq_some hfind) (List.find?_some hfind)]
  · rw [List.find?_eq_none]
    intro other hother hother'
    rw [honly other hother hother'] at hother'
    exact hselects hother'

/-- **A fetch by id returns what it should exactly for these.** -/
theorem fetchEncryptedData_iff (hup : env.Up) (db : Db) (args : List (Text × Json N)) :
    (Prog.run (serve env) (fetchEncryptedData args) db).1 = expectedData db args ↔
      FetchableById env db args := by
  by_cases hknown : Known (encryptedDataColumns env) (argumentFields args)
  · rw [run_fetchEncryptedData_of_ok hup (findOneBy_of_known hknown _ _), expectedData,
      orNotFound_inj]
    cases hgiven : given args "id".toList with
    | none =>
        rw [Option.bind_none]
        constructor
        · intro h
          refine ⟨hknown, fun id hid => ?_, fun _ row hrow => ?_⟩
          · rw [hgiven] at hid
            cases hid
          · rw [hrow] at h
            exact truthyText_eq_none_iff.1 h
        · intro h
          cases hfind : db.encryptedData.rows.find?
            (selects (encryptedDataColumns env) (argumentFields args).conditions) with
          | none => rfl
          | some row => exact truthyText_eq_none_iff.2 (h.unnamed hgiven row hfind)
    | some id =>
        rw [Option.bind_some]
        cases hrow : db.encryptedData.lookup id with
        | none =>
            have hmissing := Table.lookup_eq_none_iff.1 hrow
            have hfind : db.encryptedData.rows.find?
                (selects (encryptedDataColumns env) (argumentFields args).conditions) = none := by
              rw [List.find?_eq_none]
              intro row hmem hselects
              exact hmissing row hmem (id_of_selects hgiven hselects)
            rw [hfind]
            refine iff_of_true rfl ⟨hknown, fun id' hid' row hmem hid => ?_, fun hnone => ?_⟩
            · obtain rfl : id = id' := Option.some.inj (hgiven.symm.trans hid')
              exact absurd hid (hmissing row hmem)
            · rw [hgiven] at hnone
              cases hnone
        | some row =>
            obtain ⟨hmem, hid⟩ := Table.lookup_eq_some_iff.1 hrow
            rw [find?_selects_of_lookup hgiven hrow]
            constructor
            · intro h
              split_ifs at h with hselects
              · refine ⟨hknown, fun id' hid' other hother hother' => ?_, fun hnone => ?_⟩
                · obtain rfl : id = id' := Option.some.inj (hgiven.symm.trans hid')
                  obtain rfl := db.encryptedData.eq_of_key_eq hother hmem (hother'.trans hid.symm)
                  exact ⟨truthyText_eq_self_iff.1 h, hselects⟩
                · rw [hgiven] at hnone
                  cases hnone
              · cases h
            · intro h
              obtain ⟨hne, hselects⟩ := h.named id hgiven row hmem hid
              rw [if_pos hselects]
              exact truthyText_eq_self_iff.2 hne
  · -- the query fails with another error
    refine iff_of_false ?_ fun h => hknown h.known
    obtain ⟨property, hfind⟩ := findOneBy_of_not_known hknown "EncryptedData".toList
      db.encryptedData.rows
    rw [run_fetchEncryptedData_of_error hup hfind, expectedData]
    intro h
    cases hresult : (given args "id".toList).bind fun id =>
      (db.encryptedData.lookup id).map EncryptedData.data with
    | none =>
        rw [hresult] at h
        exact propertyNotFound_ne _ _ (Except.error.inj h)
    | some data =>
        rw [hresult] at h
        cases h

/-! ### A fetch by hash -/

/-- The condition of a fetch by hash. -/
def hashCondition (args : List (Text × Json N)) : Where N :=
  [("credentialHash".toList, args.lookup "credentialHash".toList)]

/-- The argument objects and tables for which a fetch by hash returns what it should. -/
structure FetchableByHash (env : Env N) (db : Db) (args : List (Text × Json N)) : Prop where
  /-- If a hash is given, then the row that its row refers to has a text. -/
  named : ∀ credentialHash, given args "credentialHash".toList = some credentialHash →
    ∀ link ∈ db.credentialEncryptedData.rows, link.credentialHash = credentialHash →
      ∀ row ∈ db.encryptedData.rows, row.id = link.encryptedDataId → row.data ≠ []
  /-- If no hash is given, then the first row that the value of the field selects, if there is one,
  refers to no text. -/
  unnamed : given args "credentialHash".toList = none →
    ∀ link, db.credentialEncryptedData.rows.find?
        (selects (credentialEncryptedDataColumns env) (hashCondition args).conditions) =
      some link →
      ∀ row ∈ db.encryptedData.rows, row.id = link.encryptedDataId → row.data = []

/-- The result for a row of the second table. -/
def resultOf (db : Db) (link : CredentialEncryptedData) : Option FetchResult :=
  (truthyText ((db.encryptedData.lookup link.encryptedDataId).map EncryptedData.data)).map
    fun encryptedData => ⟨encryptedData, link.encryptedDataId, link.decryptedKey⟩

theorem known_hashCondition (env : Env N) (args : List (Text × Json N)) :
    Known (credentialEncryptedDataColumns env) (hashCondition args) := by
  intro condition hcondition
  obtain ⟨⟨field, value⟩, hmem, hsome⟩ := List.mem_filterMap.1 hcondition
  obtain ⟨rfl, rfl⟩ := Prod.mk.inj (List.mem_singleton.1 hmem)
  have hfield : condition.1 = "credentialHash".toList := by
    cases hvalue : args.lookup "credentialHash".toList with
    | none =>
        rw [hvalue] at hsome
        cases hsome
    | some value =>
        rw [hvalue] at hsome
        cases value <;> cases hsome <;> rfl
  rw [hfield]
  rfl

/-- What a fetch by hash returns. -/
theorem run_fetchByHash (hup : env.Up) (db : Db) (args : List (Text × Json N)) :
    Prog.run (serve env) (fetchEncryptedDataByCredentialHash args) db =
      (orNotFound ((db.credentialEncryptedData.rows.find?
        (selects (credentialEncryptedDataColumns env) (hashCondition args).conditions)).bind
          (resultOf db)), db) := by
  have hfind : Prog.run (serve env) (perform (.findCredentialEncryptedData (hashCondition args)))
      db = (.ok (db.credentialEncryptedData.rows.find?
        (selects (credentialEncryptedDataColumns env) (hashCondition args).conditions)), db) := by
    rw [run_perform_of_up hup, serveOp, findOneBy_of_known (known_hashCondition env args)]
  have hget : Prog.run (serve env)
      (getEncryptedDataByCredentialHash (args.lookup "credentialHash".toList)) db =
      (.ok ((db.credentialEncryptedData.rows.find?
        (selects (credentialEncryptedDataColumns env) (hashCondition args).conditions)).bind
          (resultOf db)), db) := by
    rw [getEncryptedDataByCredentialHash]
    refine (Prog.run_bind_of_ok hfind).trans ?_
    cases db.credentialEncryptedData.rows.find?
        (selects (credentialEncryptedDataColumns env) (hashCondition args).conditions) with
    | none => rfl
    | some link =>
        exact (Prog.run_bind_of_ok (run_getEncryptedData_id hup db link.encryptedDataId)).trans rfl
  rw [fetchEncryptedDataByCredentialHash, Prog.run_bind_of_ok hget]
  cases (db.credentialEncryptedData.rows.find?
    (selects (credentialEncryptedDataColumns env) (hashCondition args).conditions)).bind
      (resultOf db) <;> rfl

/-- There is no result for a row exactly when it refers to no text. -/
theorem resultOf_eq_none_iff {link : CredentialEncryptedData} :
    resultOf db link = none ↔
      ∀ row ∈ db.encryptedData.rows, row.id = link.encryptedDataId → row.data = [] := by
  rw [resultOf, Option.map_eq_none_iff]
  refine Iff.trans ?_ db.encryptedData.forall_key_iff.symm
  cases db.encryptedData.lookup link.encryptedDataId with
  | none => exact iff_of_true rfl nofun
  | some row =>
      rw [Option.map_some, truthyText_eq_none_iff]
      exact ⟨fun h other hother => Option.some.inj hother ▸ h, fun h => h row rfl⟩

/-- The result for a row is its text and key exactly when it refers to no empty text. -/
theorem resultOf_eq_iff {link : CredentialEncryptedData} :
    resultOf db link = ((db.encryptedData.lookup link.encryptedDataId).map fun row =>
      ⟨row.data, link.encryptedDataId, link.decryptedKey⟩) ↔
      ∀ row ∈ db.encryptedData.rows, row.id = link.encryptedDataId → row.data ≠ [] := by
  rw [resultOf]
  refine Iff.trans ?_ db.encryptedData.forall_key_iff.symm
  cases db.encryptedData.lookup link.encryptedDataId with
  | none => exact iff_of_true rfl nofun
  | some row =>
      rw [Option.map_some, Option.map_some]
      constructor
      · intro h other hother hdata
        rw [Option.some.inj hother, hdata] at h
        cases h
      · intro h
        rw [truthyText_of_ne_nil (h row rfl)]
        rfl

/-- **A fetch by hash returns what it should exactly for these.** -/
theorem fetchByHash_iff (hup : env.Up) (db : Db) (args : List (Text × Json N)) :
    (Prog.run (serve env) (fetchEncryptedDataByCredentialHash args) db).1 =
      expectedResult db args ↔ FetchableByHash env db args := by
  rw [run_fetchByHash hup, expectedResult, orNotFound_inj]
  cases hgiven : given args "credentialHash".toList with
  | none =>
      rw [Option.bind_none]
      constructor
      · intro h
        refine ⟨fun credentialHash hhash => ?_, fun _ link hlink => ?_⟩
        · rw [hgiven] at hhash
          cases hhash
        · rw [hlink, Option.bind_some] at h
          exact resultOf_eq_none_iff.1 h
      · intro h
        cases hfind : db.credentialEncryptedData.rows.find?
          (selects (credentialEncryptedDataColumns env) (hashCondition args).conditions) with
        | none => rfl
        | some link => exact resultOf_eq_none_iff.2 (h.unnamed hgiven link hfind)
  | some credentialHash =>
      have hlookup : args.lookup "credentialHash".toList = some (.str credentialHash) := by
        rw [given] at hgiven
        split at hgiven
        case h_1 text hlookup => rw [hlookup, Option.some.inj hgiven]
        case h_2 => cases hgiven
      have hfind : db.credentialEncryptedData.rows.find?
          (selects (credentialEncryptedDataColumns env) (hashCondition args).conditions) =
          db.credentialEncryptedData.lookup credentialHash := by
        have hquery := findOneBy_of_known (known_hashCondition env args)
          "CredentialEncryptedData".toList db.credentialEncryptedData.rows
        rw [hashCondition, hlookup, findOneBy_credentialHash] at hquery
        rw [hashCondition, hlookup]
        exact (Except.ok.inj hquery).symm
      rw [Option.bind_some, hfind]
      have hnone : given args "credentialHash".toList ≠ none := by
        rw [hgiven]
        exact Option.some_ne_none _
      cases hlink : db.credentialEncryptedData.lookup credentialHash with
      | none =>
          have hmissing := Table.lookup_eq_none_iff.1 hlink
          refine iff_of_true rfl ⟨fun hash hhash link hmem hid => ?_, fun h => absurd h hnone⟩
          obtain rfl : credentialHash = hash := Option.some.inj (hgiven.symm.trans hhash)
          exact absurd hid (hmissing link hmem)
      | some link =>
          obtain ⟨hmem, hid⟩ := Table.lookup_eq_some_iff.1 hlink
          rw [Option.bind_some, Option.bind_some, resultOf_eq_iff]
          constructor
          · intro h
            refine ⟨fun hash hhash other hother hother' => ?_, fun h => absurd h hnone⟩
            obtain rfl : credentialHash = hash := Option.some.inj (hgiven.symm.trans hhash)
            rw [db.credentialEncryptedData.eq_of_key_eq hother hmem (hother'.trans hid.symm)]
            exact h
          · exact fun h => h.named credentialHash hgiven link hmem hid

/-! ### Both fetches -/

/-- **Both fetches return what they should exactly for these** argument objects and tables. -/
theorem fetched_iff (hup : env.Up) (db : Db) (args : List (Text × Json N)) :
    ((Prog.run (serve env) (fetchEncryptedData args) db).1 = expectedData db args ↔
      FetchableById env db args) ∧
    ((Prog.run (serve env) (fetchEncryptedDataByCredentialHash args) db).1 =
      expectedResult db args ↔ FetchableByHash env db args) :=
  ⟨fetchEncryptedData_iff hup db args, fetchByHash_iff hup db args⟩

/-- Of the value that is stored twice, a fetch by the first id and a fetch by the hash return what
they should. -/
theorem fetched_stored_twice :
    (Prog.run (serve (plainEnv [] [])) (fetchEncryptedData [("id".toList, .str ['1'])])
      plainSecond).1 = expectedData plainSecond [("id".toList, (.str ['1'] : Json ℤ))] ∧
    (Prog.run (serve (plainEnv [] [])) (fetchEncryptedDataByCredentialHash
      [("credentialHash".toList, .str "true".toList)]) plainSecond).1 =
      expectedResult plainSecond [("credentialHash".toList, (.str "true".toList : Json ℤ))] := by
  have hup : (plainEnv [] []).Up := fun _ => rfl
  have htexts : plainSecond.encryptedData.rows.all (fun row => decide (row.data ≠ [])) = true := by
    decide +kernel
  have hne : ∀ row ∈ plainSecond.encryptedData.rows, row.data ≠ [] :=
    fun row hrow => of_decide_eq_true (List.all_eq_true.1 htexts row hrow)
  refine ⟨((fetched_iff hup _ _).1).2 ⟨?_, ?_, ?_⟩, ((fetched_iff hup _ _).2).2 ⟨?_, ?_⟩⟩
  · intro condition hcondition
    obtain rfl := List.mem_singleton.1 hcondition
    rfl
  · rintro id ⟨⟩ row hrow hid
    refine ⟨hne row hrow, ?_⟩
    have htest : decide (row.id = ['1']) = true := decide_eq_true hid
    exact List.all_eq_true.2 fun condition hcondition => by
      obtain rfl := List.mem_singleton.1 hcondition
      exact htest
  · rintro ⟨⟩
  · rintro hash ⟨⟩ link - - row hrow -
    exact hne row hrow
  · rintro ⟨⟩

/-- **A fetch without a hash returns a key**, that of the credential in the first row; **and a fetch
by an id and a key**, as the router makes it of a request with a key in its query, **is rejected**,
though the row is there. -/
theorem fetched_without_arguments :
    given ([] : List (Text × Json ℤ)) "credentialHash".toList = none ∧
    (Prog.run (serve (plainEnv [] [])) (fetchEncryptedDataByCredentialHash []) plainSecond).1 =
      .ok ⟨Json.stringify (plainEncryptString "true".toList ['l']), ['2'], ['l']⟩ ∧
    (Prog.run (serve (plainEnv [] [])) (fetchEncryptedDataByCredentialHash []) plainSecond).1 ≠
      expectedResult plainSecond ([] : List (Text × Json ℤ)) ∧
    (Prog.run (serve (plainEnv [] [])) (fetchEncryptedData
      [("id".toList, .str ['1']), ("key".toList, .str ['k'])]) plainSecond).1 =
      .error (propertyNotFound "key".toList "EncryptedData".toList) ∧
    (Prog.run (serve (plainEnv [] [])) (fetchEncryptedData
      [("id".toList, .str ['1']), ("key".toList, .str ['k'])]) plainSecond).1 ≠
      expectedData plainSecond
        [("id".toList, .str ['1']), ("key".toList, (.str ['k'] : Json ℤ))] := by
  refine ⟨rfl, ?_, ?_, ?_, ?_⟩
  all_goals decide +kernel

end EncryptedStorage
