/-
**The link of a QR code.**

A credential is shared as a link to the page of the verifier.  The link carries, as the parameter
`q`, the place of the encrypted credential and the key that decrypts it: a JSON text that was
percent-encoded once.  The page reads the parameter with `URLSearchParams`, which undoes that
encoding, and then decodes the value once more.  What is left of a text with percent signs after the
second decoding is shorter, so it is not the text that was encoded, and it is no other text of the
same place and key.

Main definitions:

* `QrLink.qrCodeValue`, `QrLink.inititalQrCodeValue` — the link;
* `QrLink.readPayload`, `QrLink.fetchEncryptedVC` — the page that reads it;
* `QrLink.readLink` — what the page reads from its URL.

Main results:

* `QrLink.readLink_qrCodeValue_iff` — **a place and a key are read back from their link exactly when
  no percent sign is in them**;
* `QrLink.readLink_of_percent` — a link that is not read, and one that is read as another place.
-/

import Vckit.JsonLength
import Vckit.ObjectCreator
import Vckit.Prog
import Vckit.UrlQuery

set_option relaxedAutoImplicit false
set_option autoImplicit false

namespace QrLink

open ObjectCreator (JsNumber property property_cons field isTruthy)
open Query (isBaseChar searchParam locationSearch searchParam_locationSearch)

variable {N : Type}

/-! ### The link -/

/-- The page of the verifier: a URL without query and fragment. -/
structure VerifyEndpoint where
  text : Text
  chars : ∀ c ∈ text, isBaseChar c

/-- `{ payload: { uri, decryptedKey } }` -/
def payloadJson (uri decryptedKey : Text) : Json N :=
  .obj [("payload".toList,
    .obj [("uri".toList, .str uri), ("decryptedKey".toList, .str decryptedKey)])]

section Code

variable [JsonNumber N]

variable (N) in
/-- The text of the payload. -/
def payloadText (uri decryptedKey : Text) : Text :=
  Json.stringify (payloadJson uri decryptedKey : Json N)

variable (N) in
/-- The link for a place and a key. -/
def qrCodeValue (qrCodeVerifyEndpoint : VerifyEndpoint) (uri decryptedKey : Text) : Text :=
  let encodedUrlPayload := Uri.encodeURIComponent (payloadText N uri decryptedKey)
  qrCodeVerifyEndpoint.text ++ "?q=".toList ++ encodedUrlPayload

/-- What the agent returns for the hash of a credential. -/
structure EncryptedCredentialData where
  encryptedDataId : Text
  decryptedKey : Text

variable (N) in
/-- The link that is shown for a credential. -/
def inititalQrCodeValue (encryptedEndpoint : Text) (qrCodeVerifyEndpoint : VerifyEndpoint)
    (encryptedCredentialData : EncryptedCredentialData) : Text :=
  let id := encryptedCredentialData.encryptedDataId
  let uri := encryptedEndpoint ++ "/".toList ++ id
  qrCodeValue N qrCodeVerifyEndpoint uri encryptedCredentialData.decryptedKey

/-! ### The page -/

variable (N) in
/-- What the page takes from the payload. -/
structure Shared where
  uri : Option (Json N)
  decryptedKey : Option (Json N)

/-- `queryParams.get('q')`, when it is not empty. -/
def queryOf (search : Text) : Option Text :=
  (searchParam search "q".toList).filter fun query => decide (query ≠ [])

variable (syntaxMessage : Text → Text)

/-- `JSON.parse`, with the error that it throws. -/
def jsonParse (text : Text) : Except JsError (Json N) :=
  match Json.parse text with
  | some j => .ok j
  | none => .error ⟨"SyntaxError".toList, syntaxMessage text⟩

/-- `const { uri, decryptedKey } = payload.payload` -/
def destructure (payload : Json N) : Except JsError (Shared N) :=
  match payload with
  | .null => .error ⟨"TypeError".toList,
      "Cannot read properties of null (reading 'payload')".toList⟩
  | payload =>
      match field "payload".toList (some payload) with
      | none => .error ⟨"TypeError".toList,
          "Cannot destructure property 'uri' of 'payload.payload' as it is undefined.".toList⟩
      | some .null => .error ⟨"TypeError".toList,
          "Cannot destructure property 'uri' of 'payload.payload' as it is null.".toList⟩
      | some shared =>
          .ok ⟨field "uri".toList (some shared), field "decryptedKey".toList (some shared)⟩

/-- What the page takes from its query. -/
def readPayload (query : Text) : Except JsError (Shared N) :=
  match Uri.decodeURIComponent query with
  | none => .error ⟨"URIError".toList, "URI malformed".toList⟩
  | some text => (jsonParse syntaxMessage text).bind destructure

/-- What the page reads from the query of its URL: nothing when there is no payload. -/
def readLink (search : Text) : Option (Except JsError (Shared N)) :=
  (queryOf search).map (readPayload syntaxMessage)

end Code

/-- What the page does. -/
inductive PageOp (N : Type) where
  | setIsVerifying (b : Bool)
  /-- `fetch(uri).then((res) => res.json())` -/
  | fetchDocument (uri : Option (Json N))
  /-- `decryptString({ ...document, key })` -/
  | decryptString (document key : Option (Json N))
  | routeVerificationCredential (credential : Json N)
  | setVerificationResult (result : Option (Json N))
  /-- `setVerificationResult`, with the credential added to the result that is there -/
  | addVerifiableCredential (credential : Json N)

/-- What it gets for that. -/
def PageOp.Resp : PageOp N → Type
  | fetchDocument _ => Json N
  | decryptString _ _ => Text
  | routeVerificationCredential _ => Option (Json N)
  | setIsVerifying _ | setVerificationResult _ | addVerifiableCredential _ => Unit

/-- What the page runs. -/
abbrev Page (N α : Type) := Prog (PageOp N) PageOp.Resp JsError α

/-- One thing that it does. -/
def act (o : PageOp N) : Page N o.Resp := Prog.perform o

section Page

variable [JsonNumber N] [JsNumber N] (syntaxMessage : Text → Text)

/-- `encryptedCredential.document` -/
def documentOf : Json N → Except JsError (Option (Json N))
  | .null => .error ⟨"TypeError".toList,
      "Cannot read properties of null (reading 'document')".toList⟩
  | encryptedCredential => .ok (field "document".toList (some encryptedCredential))

/-- `result?.verified`, as a condition. -/
def isVerified (result : Option (Json N)) : Bool := (field "verified".toList result).any isTruthy

/-- The result that is shown for an error. -/
def errorResult (e : JsError) : Json N :=
  .obj [("verified".toList, .bool false),
    ("error".toList, .obj [("message".toList, .str e.message)])]

/-- The verification of a credential, and what is shown of it. -/
def showResult (vc : Json N) : Page N Unit := do
  let result ← act (.routeVerificationCredential vc)
  act (.setVerificationResult result)
  if isVerified result then act (.addVerifiableCredential vc)
  else .ret ()

/-- What is done once the place and the key are known. -/
def openCredential (shared : Shared N) : Page N Unit := do
  let encryptedCredential ← act (.fetchDocument shared.uri)
  let document ← Prog.ofExcept (documentOf encryptedCredential)
  let stringifyVC ← act (.decryptString document shared.decryptedKey)
  let vc ← Prog.ofExcept (jsonParse syntaxMessage stringifyVC)
  (showResult vc).tryCatch fun e =>
    act (.setVerificationResult (some (errorResult e)))
  act (.setIsVerifying false)

/-- The page when it is opened. -/
def fetchEncryptedVC (search : Text) : Page N Unit :=
  match queryOf search with
  | none => .ret ()
  | some query => do
      act (.setIsVerifying true)
      let shared ← Prog.ofExcept (readPayload syntaxMessage query)
      openCredential syntaxMessage shared

end Page

/-! ### The text of a payload -/

/-- No escape has a percent sign. -/
theorem percent_mem_escapeChar_iff (c : Char) : '%' ∈ Json.escapeChar c ↔ c = '%' := by
  have hdigit : ∀ n, n < 16 → Json.hexDigit n ≠ '%' := by decide
  unfold Json.escapeChar
  split_ifs with hself hn hr ht hb hf hcontrol
  · rcases hself with rfl | rfl <;> decide
  · subst hn
    decide
  · subst hr
    decide
  · subst ht
    decide
  · have hne : c ≠ '%' := by
      rintro rfl
      exact absurd hb (by decide)
    simp [hne]
  · have hne : c ≠ '%' := by
      rintro rfl
      exact absurd hf (by decide)
    simp [hne]
  · have hne : c ≠ '%' := by
      rintro rfl
      exact absurd hcontrol (by decide)
    have hhigh := hdigit (c.toNat / 16) (by omega)
    have hlow := hdigit (c.toNat % 16) (by omega)
    simp [hne, hhigh.symm, hlow.symm]
  · rw [List.mem_singleton, eq_comm]

/-- A percent sign stands as it is in quotes. -/
theorem percent_mem_quote_iff (s : Text) : '%' ∈ Json.quote s ↔ '%' ∈ s := by
  have hchars : '%' ∈ s.flatMap Json.escapeChar ↔ '%' ∈ s := by
    rw [List.mem_flatMap]
    constructor
    · rintro ⟨c, hc, hmem⟩
      rwa [← (percent_mem_escapeChar_iff c).1 hmem]
    · intro hmem
      exact ⟨'%', hmem, (percent_mem_escapeChar_iff '%').2 rfl⟩
  rw [Json.quote, List.mem_cons, List.mem_append, hchars]
  simp

/-! ### Room for the strings of a payload -/

/-- A field of an object takes its characters. -/
theorem weight_le_weightFields {name : Text} {v : Json N} {fields : List (Text × Json N)}
    (h : property name fields = some v) :
    (Json.quote name).length + v.weight + 2 ≤ Json.weightFields fields := by
  induction fields with
  | nil => simp [property] at h
  | cons field fields ih =>
      obtain ⟨k, value⟩ := field
      rw [property_cons] at h
      rw [Json.weightFields]
      split_ifs at h with hk
      · dsimp only at hk h
        rw [hk, Option.some.inj h]
        omega
      · have hle := ih h
        omega

/-- Two fields of different names take them one beside the other. -/
theorem weight_add_le_weightFields {name name' : Text} (hne : name ≠ name') {v v' : Json N}
    {fields : List (Text × Json N)} (h : property name fields = some v)
    (h' : property name' fields = some v') :
    (Json.quote name).length + v.weight + 2 + ((Json.quote name').length + v'.weight + 2) ≤
      Json.weightFields fields := by
  induction fields with
  | nil => simp [property] at h
  | cons field fields ih =>
      obtain ⟨k, value⟩ := field
      rw [property_cons] at h h'
      rw [Json.weightFields]
      dsimp only at h h'
      split_ifs at h h' with hk hk' hk'
      · exact absurd (hk.symm.trans hk') hne
      · have hle := weight_le_weightFields h'
        rw [hk, Option.some.inj h]
        omega
      · have hle := weight_le_weightFields h
        rw [hk', Option.some.inj h']
        omega
      · have hle := ih h h'
        omega

theorem of_destructure {payload uri decryptedKey : Json N}
    (h : destructure payload = .ok ⟨some uri, some decryptedKey⟩) :
    ∃ fields shared, payload = .obj fields ∧ property "payload".toList fields = some (.obj shared) ∧
      property "uri".toList shared = some uri ∧
      property "decryptedKey".toList shared = some decryptedKey := by
  cases payload with
  | obj fields =>
      simp only [destructure, field] at h
      split at h
      · cases h
      · cases h
      · rename_i shared _ hpayload
        have hparts := Except.ok.inj h
        cases shared with
        | obj shared =>
            injection hparts with huri hkey
            exact ⟨fields, shared, rfl, hpayload, huri, hkey⟩
        | null | bool | num | str | arr => injection hparts with huri; cases huri
  | null | bool | num | str | arr => cases h

theorem canonical_payloadJson (uri decryptedKey : Text) :
    (payloadJson uri decryptedKey : Json N).Canonical := by
  have hpayload : Json.KeysInOrder ["payload".toList] := List.pairwise_singleton _ _
  have hshared : Json.KeysInOrder ["uri".toList, "decryptedKey".toList] := by
    unfold Json.KeysInOrder
    decide +kernel
  exact ⟨hpayload, ⟨hshared, trivial, trivial, trivial⟩, trivial⟩

section Page

variable [JsonNumber N] (syntaxMessage : Text → Text)

theorem payloadText_eq (uri decryptedKey : Text) :
    payloadText N uri decryptedKey =
      "\x7b\"payload\":\x7b\"uri\":".toList ++ Json.quote uri ++ ",\"decryptedKey\":".toList ++
        Json.quote decryptedKey ++ "\x7d\x7d".toList := by
  simp [payloadText, payloadJson, Json.stringify, Json.stringifyFields, Json.quote, Json.escapeChar]

theorem percent_mem_payloadText_iff (uri decryptedKey : Text) :
    '%' ∈ payloadText N uri decryptedKey ↔ '%' ∈ uri ∨ '%' ∈ decryptedKey := by
  simp [payloadText_eq, percent_mem_quote_iff]

/-- A value with this place and this key takes no less than the text of their payload. -/
theorem length_payloadText_le_weight {payload : Json N} {uri decryptedKey : Text}
    (h : destructure payload = .ok ⟨some (.str uri), some (.str decryptedKey)⟩) :
    (payloadText N uri decryptedKey).length ≤ payload.weight := by
  obtain ⟨fields, shared, rfl, hpayload, huri, hkey⟩ := of_destructure h
  have hfields := weight_le_weightFields hpayload
  have hshared := weight_add_le_weightFields (by decide) huri hkey
  have hpayloadName : (Json.quote "payload".toList).length = 9 := rfl
  have huriName : (Json.quote "uri".toList).length = 5 := rfl
  have hkeyName : (Json.quote "decryptedKey".toList).length = 14 := rfl
  simp only [Json.weight] at hfields hshared ⊢
  simp only [payloadText_eq, List.length_append, String.length_toList]
  have hparts : "\x7b\"payload\":\x7b\"uri\":".length = 18 ∧ ",\"decryptedKey\":".length = 16 ∧
      "\x7d\x7d".length = 2 := by decide
  omega

/-- **The payload is read back exactly when no percent sign is in it.** -/
theorem readPayload_payloadText_iff (uri decryptedKey : Text) :
    readPayload syntaxMessage (payloadText N uri decryptedKey) =
        .ok (⟨some (.str uri), some (.str decryptedKey)⟩ : Shared N) ↔
      '%' ∉ uri ∧ '%' ∉ decryptedKey := by
  rw [← not_or, ← percent_mem_payloadText_iff (N := N)]
  constructor
  · intro h hmem
    rw [readPayload] at h
    split at h
    · cases h
    · rename_i text hdecode
      -- what was decoded is too short for the place and the key
      have hshort := Uri.length_lt_of_decodeURIComponent hmem hdecode
      rw [jsonParse] at h
      split at h
      · rename_i payload hparse
        have hweight := Json.weight_le_of_parse hparse
        have hlong := length_payloadText_le_weight h
        omega
      · cases h
  · intro hmem
    rw [readPayload, Uri.decodeURIComponent_of_not_mem hmem]
    dsimp only
    rw [jsonParse, payloadText, Json.parse_stringify (canonical_payloadJson uri decryptedKey)]
    rfl

/-- The parameter of a link is the text that was encoded. -/
theorem queryOf_qrCodeValue (endpoint : VerifyEndpoint) (uri decryptedKey : Text) :
    queryOf (locationSearch (qrCodeValue N endpoint uri decryptedKey)) =
      some (payloadText N uri decryptedKey) := by
  have hq : ∀ c ∈ "q".toList, c.isAlphanum := List.all_eq_true.1 rfl
  have hlink : qrCodeValue N endpoint uri decryptedKey =
      endpoint.text ++ '?' :: ("q".toList ++ '=' ::
        Uri.encodeURIComponent (payloadText N uri decryptedKey)) := by
    simp [qrCodeValue]
  have hne : payloadText N uri decryptedKey ≠ [] := by simp [payloadText_eq]
  rw [queryOf, hlink, searchParam_locationSearch endpoint.chars hq]
  simp [Option.filter, hne]

/-- **A place and a key are read back from their link exactly when no percent sign is in them.** -/
theorem readLink_qrCodeValue_iff (endpoint : VerifyEndpoint) (uri decryptedKey : Text) :
    readLink syntaxMessage (locationSearch (qrCodeValue N endpoint uri decryptedKey)) =
        some (.ok (⟨some (.str uri), some (.str decryptedKey)⟩ : Shared N)) ↔
      '%' ∉ uri ∧ '%' ∉ decryptedKey := by
  rw [readLink, queryOf_qrCodeValue, Option.map_some, Option.some_inj]
  exact readPayload_payloadText_iff syntaxMessage uri decryptedKey

/-- The page opens what its link was made for. -/
theorem fetchEncryptedVC_qrCodeValue [JsNumber N] (endpoint : VerifyEndpoint)
    {uri decryptedKey : Text} (huri : '%' ∉ uri) (hkey : '%' ∉ decryptedKey) :
    fetchEncryptedVC syntaxMessage (locationSearch (qrCodeValue N endpoint uri decryptedKey)) =
      act (.setIsVerifying true) >>= fun _ =>
        openCredential syntaxMessage (⟨some (.str uri), some (.str decryptedKey)⟩ : Shared N) := by
  have hread := (readPayload_payloadText_iff (N := N) syntaxMessage uri decryptedKey).2
    ⟨huri, hkey⟩
  rw [fetchEncryptedVC, queryOf_qrCodeValue]
  dsimp only
  rw [hread]
  rfl

end Page

/-! ### Percent signs -/

theorem isBaseChar_verify : ∀ c ∈ "https://vckit.example/verify".toList, isBaseChar c :=
  List.all_eq_true.1 rfl

/-- The page of a verifier. -/
def verifyPage : VerifyEndpoint := ⟨"https://vckit.example/verify".toList, isBaseChar_verify⟩

/-- What `JSON.parse` says of every text. -/
def unexpectedToken (_ : Text) : Text := "Unexpected token".toList

/-- **A link that is not read, and one that is read as another place.** -/
theorem readLink_of_percent :
    readLink unexpectedToken (locationSearch (qrCodeValue ℤ verifyPage "https://s.example/1".toList
        "100%".toList)) =
      some (.error ⟨"URIError".toList, "URI malformed".toList⟩ : Except JsError (Shared ℤ)) ∧
    readLink unexpectedToken (locationSearch (qrCodeValue ℤ verifyPage
        "https://s.example/a%2Fb".toList "k".toList)) =
      some (.ok ⟨some (.str "https://s.example/a/b".toList), some (.str "k".toList)⟩ :
        Except JsError (Shared ℤ)) := by
  constructor
  · have hdecode : Uri.decodeURIComponent
        (payloadText ℤ "https://s.example/1".toList "100%".toList) = none := by
      decide +kernel
    rw [readLink, queryOf_qrCodeValue, Option.map_some, readPayload, hdecode]
  · have hdecode : Uri.decodeURIComponent
        (payloadText ℤ "https://s.example/a%2Fb".toList "k".toList) =
          some (payloadText ℤ "https://s.example/a/b".toList "k".toList) := by
      decide +kernel
    rw [readLink, queryOf_qrCodeValue, Option.map_some, readPayload, hdecode]
    dsimp only
    rw [jsonParse, payloadText, Json.parse_stringify (canonical_payloadJson _ _)]
    rfl

end QrLink
