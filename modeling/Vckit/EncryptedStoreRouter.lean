/-
**The router of the encrypted storage.**

The ciphertext of a credential is served to whoever asks for its id; it is of no use without the
key.  The handler passes `key`, as the query of the request has it, on to the plugin, which takes
its arguments for the conditions of a query.

Main definitions:

* `EncryptedStorage.StorageRequest`, `EncryptedStorage.StorageReply` — requests and answers;
* `EncryptedStorage.encryptedStoreRouter` — the router;
* `EncryptedStorage.documentUri` — where a document is found.

Main results:

* `EncryptedStorage.encryptedStoreRouter_documentPath` — what is answered for an id.
-/

import Vckit.EncryptedRuns
import Vckit.ExpressPaths
import Vckit.Url

set_option relaxedAutoImplicit false
set_option autoImplicit false

namespace EncryptedStorage

variable {N : Type}

/-! ### The router -/

/-- A request, and whether a middleware has attached an agent to it. -/
structure StorageRequest where
  method : Express.HttpMethod
  originalUrl : Text
  agent : Bool

/-- What becomes of it. -/
inductive StorageReply (N : Type) where
  /-- No route of the router accepts it. -/
  | next
  /-- A parameter cannot be decoded. -/
  | malformed
  /-- The handler throws before it responds. -/
  | threw (e : JsError)
  /-- `res.status(200).json({ document })` -/
  | document (document : Json N)
  /-- `res.status(500).json({ error })` -/
  | error (message : Text)

/-- The path under which the server mounts the router. -/
def storageMount : Text := "/encrypted-storage".toList

/-- `/encrypted-data/:id` -/
def documentRoute : List Express.Segment := [.fixed "encrypted-data".toList, .param]

/-- The fields of `{ id, key }`; a key that is `undefined` is none. -/
def documentArgs (id : Text) (key : Option (Json N)) : List (Text × Json N) :=
  ("id".toList, .str id) :: (key.map (Prod.mk "key".toList)).toList

section Code

variable [JsonNumber N] (syntaxMessage : Text → Text) (queryKey : Text → Option (Json N))
  (env : Env N)

/-- The handler of the route, for an id and what is `key` in the query. -/
def documentHandler (id : Text) (key : Option (Json N)) (agent : Bool) (db : Db) :
    StorageReply N :=
  if agent = false then .threw (JsError.ofMessage "Agent not available".toList)
  else
    match (Prog.run (serve env) (fetchEncryptedData (documentArgs id key)) db).1 with
    | .error e => .error e.message
    | .ok result =>
        match Json.parse result with
        | none => .error (syntaxMessage result)
        | some document => .document document

/-- `encryptedStoreRouter()`, mounted; `queryKey` is what the query parser finds for `key`.  A route
for `GET` handles `HEAD` as well. -/
def encryptedStoreRouter (req : StorageRequest) (db : Db) : StorageReply N :=
  if req.method = .get ∨ req.method = .head then
    match Express.unmount storageMount (Express.pathname req.originalUrl) with
    | none => .next
    | some path =>
        match Express.matchRoute documentRoute path with
        | .no => .next
        | .malformed => .malformed
        | .params values =>
            documentHandler syntaxMessage env (values.headD [])
              (queryKey (Express.queryString req.originalUrl)) req.agent db
  else .next

end Code

/-! ### The path of a document -/

/-- A character of a generated id. -/
def isUuidChar (c : Char) : Bool := c.isAlphanum || c = '-'

/-- The ids that the database generates. -/
structure IsUuid (id : Text) : Prop where
  ne_nil : id ≠ []
  chars : ∀ c ∈ id, isUuidChar c

/-- What the plugin relies on in the library and the database: ciphertexts are decrypted, a
generated id is a UUID, and a key is written in hexadecimal digits. -/
structure Env.Documented [JsonNumber N] (decryptString : Json N → Text → Option Text)
    (env : Env N) : Prop where
  lawful : env.Lawful decryptString
  uuid : IsUuid env.generatedId
  key_chars : ∀ c ∈ env.generateEncryptionKey, c.isAlphanum

/-- No percent sign is in a key. -/
theorem Env.Documented.percent_not_mem [JsonNumber N] {decryptString : Json N → Text → Option Text}
    {env : Env N} (h : env.Documented decryptString) : '%' ∉ env.generateEncryptionKey := by
  intro hmem
  exact absurd (h.key_chars _ hmem) (by decide)

/-- The path of a document. -/
def documentPath (id : Text) : Text := "/encrypted-storage/encrypted-data".toList ++ '/' :: id

theorem isPathChar_of_isUuidChar {c : Char} (h : isUuidChar c) :
    Url.isPathChar c ∧ Url.isSlash c = false := by
  rw [isUuidChar, Bool.or_eq_true, decide_eq_true_eq] at h
  rcases h with h | rfl
  · exact Url.isPathChar_of_isAlphanum h
  · decide

/-- No character of an id is one of these. -/
theorem IsUuid.not_mem {id : Text} (h : IsUuid id) {c : Char} (hc : isUuidChar c = false) :
    c ∉ id := by
  intro hmem
  have hchar := h.chars c hmem
  rw [hc] at hchar
  cases hchar

/-- The place of a document under the origin of the server. -/
def documentUri (origin : Url.Origin) (id : Text) : Text := origin.text ++ documentPath id

/-- The path of a document is requested as it is. -/
theorem requestTarget_documentUri (origin : Url.Origin) {id : Text} (hid : IsUuid id) :
    Url.requestTarget (documentUri origin id) = some (documentPath id) := by
  have hcut : documentPath id = '/' :: ("encrypted-storage/encrypted-data".toList ++ '/' :: id) :=
    rfl
  rw [documentUri, hcut]
  refine Url.requestTarget_origin_append origin ?_ ?_
  · have hfixed : "encrypted-storage/encrypted-data".toList.all Url.isPathChar = true := rfl
    intro c hc
    rcases List.mem_append.1 hc with hc | hc
    · exact List.all_eq_true.1 hfixed c hc
    · rcases List.mem_cons.1 hc with rfl | hc
      · rfl
      · exact (isPathChar_of_isUuidChar (hid.chars c hc)).1
  · have hslash : Url.isSlash '/' = true := rfl
    have hfixed : "encrypted-storage/encrypted-data".toList.splitOnP Url.isSlash =
        ["encrypted-storage".toList, "encrypted-data".toList] := by decide
    rw [List.splitOnP_append_cons _ _ hslash, hfixed, List.splitOnP_eq_singleton
      fun c hc => (isPathChar_of_isUuidChar (hid.chars c hc)).2]
    intro s hs
    rw [List.mem_append, List.mem_singleton] at hs
    rcases hs with hs | rfl
    · exact (by decide : ∀ s ∈ ["encrypted-storage".toList, "encrypted-data".toList],
        ¬Url.IsDotSegment s) s hs
    · obtain ⟨c, t, rfl⟩ := List.exists_cons_of_ne_nil hid.ne_nil
      refine Url.not_isDotSegment_cons ?_ ?_
      · rintro rfl
        exact hid.not_mem (by decide) List.mem_cons_self
      · rintro rfl
        exact hid.not_mem (by decide) List.mem_cons_self

/-- The path of a document has no query. -/
theorem IsUuid.question_not_mem {id : Text} (h : IsUuid id) : '?' ∉ documentPath id := by
  have hfixed : '?' ∉ "/encrypted-storage/encrypted-data".toList := by decide +kernel
  intro hmem
  rcases List.mem_append.1 hmem with hmem | hmem
  · exact hfixed hmem
  · rcases List.mem_cons.1 hmem with hslash | hmem
    · cases hslash
    · exact h.not_mem (by decide) hmem

/-- What the router sees of the path of a document. -/
theorem unmount_documentPath (id : Text) :
    Express.unmount storageMount (documentPath id) =
      some (Url.joinSegments ["encrypted-data".toList, id]) := by
  have hcut : documentPath id = storageMount ++ '/' :: ("encrypted-data".toList ++ '/' :: id) :=
    rfl
  rw [hcut, Express.unmount_append (by decide) (by simp)]
  simp [Url.joinSegments]

/-- The router accepts the path of a document. -/
theorem matchRoute_documentPath {id : Text} (hid : IsUuid id) :
    Express.matchRoute documentRoute (Url.joinSegments ["encrypted-data".toList, id]) =
      .params [id] := by
  have hslash : ∀ t ∈ ["encrypted-data".toList], '/' ∉ t := by decide
  have hdecode : Uri.decodeURIComponent id = some id :=
    Uri.decodeURIComponent_of_not_mem (hid.not_mem (by decide))
  rw [show ["encrypted-data".toList, id] = ["encrypted-data".toList] ++ [id] from rfl,
    Express.matchRoute,
    Express.matchPath_joinSegments hslash (hid.not_mem (by decide)) hid.ne_nil]
  simp [documentRoute, Express.matchSegments, hid.ne_nil, hdecode]

/-! ### What is answered -/

section Answers

variable [JsonNumber N] {syntaxMessage : Text → Text} {queryKey : Text → Option (Json N)}
  {env : Env N} {db : Db} {id : Text}

/-- **What is answered for an id**: the ciphertext that was stored under it. -/
theorem encryptedStoreRouter_documentPath (hquery : queryKey [] = none) (hid : IsUuid id)
    (hup : env.Up) {row : EncryptedData} {encrypted : Json N}
    (hrow : db.encryptedData.lookup id = some row) (hne : row.data ≠ [])
    (hparse : Json.parse row.data = some encrypted) :
    encryptedStoreRouter syntaxMessage queryKey env ⟨.get, documentPath id, true⟩ db =
      .document encrypted := by
  have hquestion := hid.question_not_mem
  have hfetch := run_fetchEncryptedData hup hrow hne
  rw [encryptedStoreRouter, if_pos (Or.inl rfl)]
  dsimp only
  rw [Express.pathname_of_not_mem hquestion, unmount_documentPath]
  dsimp only
  rw [matchRoute_documentPath hid, Express.queryString_of_not_mem hquestion, hquery]
  dsimp only
  rw [documentHandler, if_neg Bool.noConfusion, List.headD_cons, documentArgs, Option.map_none,
    Option.toList_none, hfetch]
  dsimp only
  rw [hparse]

end Answers

end EncryptedStorage
