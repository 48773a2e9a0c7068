/-
**A credential that is shared by a link.**

A credential that was stored is shared by a link to the verifier's page, with its place and its key.
The page fetches the ciphertext from the router of the storage, decrypts it, and has the credential
verified.  Between the calls that stored and found the credential and the moment at which the link
is opened any number of other calls may run, and they may overlap: what the page verifies is still
what was stored.

Main definitions:

* `QrLink.Browser`, `QrLink.PageState`, `QrLink.browse` — the page, its surroundings and its state;
* `QrLink.opened` — the page that opens a link;
* `QrLink.verifiedState` — what it shows in the end.

Main results:

* `QrLink.run_opened` — what the page does with a link that can be read;
* `QrLink.shared_credentials_verified` — **every link leads to the verification of the credential
  that was stored**, whatever other calls do;
* `QrLink.issued_response_verified` — the same for the id and the key in a response.
-/

import Vckit.ConcurrentStorage
import Vckit.EncryptedStoreRouter
import Vckit.JsonCanonical
import Vckit.ObjectInstance
import Vckit.QrLink
import Vckit.StatusUrl
import Vckit.StoreMiddleware

set_option relaxedAutoImplicit false
set_option autoImplicit false

namespace QrLink

open EncryptedStorage (Db Env StorageReply documentPath documentUri IsUuid)
open ObjectCreator (JsNumber field)
open Query (locationSearch)

variable {N : Type}

/-! ### The page in a browser -/

/-- The surroundings of the page: what the storage answers to a request target, the library, the
verifier, which returns the fields of its result, and the error of a `fetch` that gets no JSON. -/
structure Browser (N : Type) where
  server : Text → StorageReply N
  decryptString : Option (Json N) → Option (Json N) → Except JsError Text
  routeVerificationCredential : Json N → Except JsError (Option (List (Text × Json N)))
  fetchError : JsError

/-- The state of the page, and the credentials that were given to the verifier, newest first. -/
structure PageState (N : Type) where
  isVerifying : Bool
  verificationResult : Option (List (Text × Json N))
  routed : List (Json N)

/-- `res.json()`, if there is an answer with JSON. -/
def replyJson : StorageReply N → Option (Json N)
  | .document document => some (.obj [("document".toList, document)])
  | .error message => some (.obj [("error".toList, .str message)])
  | _ => none

/-- `fetch(uri).then((res) => res.json())` -/
def Browser.fetch (browser : Browser N) (uri : Option (Json N)) : Except JsError (Json N) :=
  match uri with
  | some (.str uri) =>
      match (Url.requestTarget uri).bind fun target => replyJson (browser.server target) with
      | some json => .ok json
      | none => .error browser.fetchError
  | _ => .error browser.fetchError

/-- The fields of a result. -/
def fieldsOf : Option (Json N) → Option (List (Text × Json N))
  | some (.obj fields) => some fields
  | _ => none

/-- What the page does, done. -/
def browse (browser : Browser N) :
    (o : PageOp N) → PageState N → Except JsError o.Resp × PageState N
  | .setIsVerifying b, s => (.ok (), { s with isVerifying := b })
  | .fetchDocument uri, s => (browser.fetch uri, s)
  | .decryptString document key, s => (browser.decryptString document key, s)
  | .routeVerificationCredential vc, s =>
      ((browser.routeVerificationCredential vc).map fun result => result.map .obj,
        { s with routed := vc :: s.routed })
  | .setVerificationResult result, s =>
      (.ok (), { s with verificationResult := fieldsOf result })
  | .addVerifiableCredential vc, s =>
      (.ok (), { s with
        verificationResult :=
          s.verificationResult.map (Json.setField "verifiableCredential".toList vc) })

section Page

variable [JsNumber N]

/-- The page, opened with a URL. -/
def opened [JsonNumber N] (syntaxMessage : Text → Text) (browser : Browser N) (url : Text)
    (s : PageState N) : Except JsError Unit × PageState N :=
  Prog.run (browse browser) (fetchEncryptedVC syntaxMessage (locationSearch url)) s

/-- The result that is shown of a verification. -/
def shownResult (browser : Browser N) (vc : Json N) : Option (List (Text × Json N)) :=
  match browser.routeVerificationCredential vc with
  | .error e => fieldsOf (some (errorResult e))
  | .ok result =>
      if isVerified (result.map .obj) then
        result.map (Json.setField "verifiableCredential".toList vc)
      else result

/-- **The state in which a credential was verified**: it was given to the verifier, once, and what
the verifier says of it is shown. -/
def verifiedState (browser : Browser N) (vc : Json N) (s : PageState N) : PageState N where
  isVerifying := false
  verificationResult := shownResult browser vc
  routed := vc :: s.routed

/-- The verification of a credential. -/
theorem run_showResult (browser : Browser N) (vc : Json N) (s : PageState N) :
    (Prog.run (browse browser) ((showResult vc).tryCatch fun e =>
      act (.setVerificationResult (some (errorResult e)))) s) =
      (.ok (), { s with
        verificationResult := shownResult browser vc
        routed := vc :: s.routed }) := by
  have hroute : Prog.run (browse browser) (act (.routeVerificationCredential vc)) s =
      ((browser.routeVerificationCredential vc).map fun result => result.map .obj,
        { s with routed := vc :: s.routed }) := Prog.run_perform _ _ _
  rw [shownResult]
  cases hverdict : browser.routeVerificationCredential vc with
  | error e =>
      rw [hverdict] at hroute
      have hshow : Prog.run (browse browser) (showResult vc) s =
          (.error e, { s with routed := vc :: s.routed }) := Prog.run_bind_of_error hroute
      exact (Prog.run_tryCatch_of_error hshow).trans (Prog.run_perform _ _ _)
  | ok result =>
      rw [hverdict] at hroute
      refine Prog.run_tryCatch_of_ok ?_
      refine (Prog.run_bind_of_ok hroute).trans ?_
      have hset : Prog.run (browse browser) (act (.setVerificationResult (result.map .obj)))
          { s with routed := vc :: s.routed } =
          (.ok (), { s with verificationResult := result, routed := vc :: s.routed }) := by
        refine (Prog.run_perform _ _ _).trans ?_
        cases result <;> rfl
      refine (Prog.run_bind_of_ok hset).trans ?_
      dsimp only
      by_cases hverified : isVerified (result.map Json.obj) = true
      · rw [if_pos hverified]
        refine (congrArg (fun p => Prog.run (browse browser) p _) (if_pos hverified)).trans ?_
        exact Prog.run_perform _ _ _
      · rw [if_neg hverified]
        exact congrArg (fun p => Prog.run (browse browser) p _) (if_neg hverified)

/-- No percent sign is in the place of a document. -/
theorem percent_not_mem_documentUri {origin : Url.Origin} (horigin : '%' ∉ origin.text) {id : Text}
    (hid : IsUuid id) : '%' ∉ documentUri origin id := by
  have hfixed : '%' ∉ "/encrypted-storage/encrypted-data".toList := by decide +kernel
  intro hmem
  rcases List.mem_append.1 hmem with hmem | hmem
  · exact horigin hmem
  · rcases List.mem_append.1 hmem with hmem | hmem
    · exact hfixed hmem
    · rcases List.mem_cons.1 hmem with hslash | hmem
      · cases hslash
      · exact hid.not_mem (by decide) hmem

variable [JsonNumber N] {syntaxMessage : Text → Text} {browser : Browser N} {origin : Url.Origin}
  {id key text : Text} {encrypted vc : Json N}

/-- **What the page does with a link that can be read**: it verifies what is decrypted. -/
theorem run_opened (endpoint : VerifyEndpoint) (horigin : '%' ∉ origin.text) (hid : IsUuid id)
    (hkey : '%' ∉ key) (hserver : browser.server (documentPath id) = .document encrypted)
    (hdecrypt : browser.decryptString (some encrypted) (some (.str key)) = .ok text)
    (hparse : Json.parse text = some vc) (s : PageState N) :
    opened syntaxMessage browser (qrCodeValue N endpoint (documentUri origin id) key) s =
      (.ok (), verifiedState browser vc s) := by
  have hset : ∀ b s, Prog.run (browse browser) (act (.setIsVerifying b)) s =
      (.ok (), { s with isVerifying := b }) := fun _ _ => Prog.run_perform _ _ _
  have hfetch : ∀ s, Prog.run (browse browser)
      (act (.fetchDocument (some (.str (documentUri origin id))))) s =
      (.ok (.obj [("document".toList, encrypted)]), s) := by
    intro s
    refine (Prog.run_perform _ _ _).trans ?_
    rw [browse, Browser.fetch, EncryptedStorage.requestTarget_documentUri origin hid,
      Option.bind_some, hserver]
    rfl
  have hlibrary : ∀ s, Prog.run (browse browser)
      (act (.decryptString (some encrypted) (some (.str key)))) s = (.ok text, s) := by
    intro s
    refine (Prog.run_perform _ _ _).trans ?_
    rw [browse, hdecrypt]
    rfl
  have hread : jsonParse syntaxMessage text = .ok vc := by rw [jsonParse, hparse]
  rw [opened, fetchEncryptedVC_qrCodeValue syntaxMessage endpoint
    (percent_not_mem_documentUri horigin hid) hkey]
  refine (Prog.run_bind_of_ok (hset true s)).trans ?_
  refine (Prog.run_bind_of_ok (hfetch _)).trans ?_
  refine (Prog.run_bind_of_ok (hlibrary _)).trans ?_
  rw [hread]
  refine (Prog.run_bind_of_ok (run_showResult browser vc _)).trans ?_
  exact hset false _

/-! ### Links to what was stored -/

variable {decryptString : Json N → Text → Option Text} {queryKey : Text → Option (Json N)}
  {db : Db} {data : Json N}

/-- The page is served by the storage with these tables, the database answers, and the page decrypts
with the library. -/
structure ServedBy (decryptString : Json N → Text → Option Text) (db : Db) (browser : Browser N) :
    Prop where
  server : ∃ (syntaxMessage : Text → Text) (queryKey : Text → Option (Json N)) (env : Env N),
    queryKey [] = none ∧ env.Up ∧ ∀ target, browser.server target =
      EncryptedStorage.encryptedStoreRouter syntaxMessage queryKey env ⟨.get, target, true⟩ db
  library : ∀ {encrypted key text}, decryptString encrypted key = some text →
    browser.decryptString (some encrypted) (some (.str key)) = .ok text

/-- A link to a value that can be read leads to its verification. -/
theorem opened_of_readable (endpoint : VerifyEndpoint) (horigin : '%' ∉ origin.text)
    (hread : EncryptedStorage.Readable decryptString db ⟨data, ⟨id, key⟩⟩)
    (hdrawn : EncryptedStorage.Drawn (Env.Documented decryptString) ⟨id, key⟩)
    (hcanonical : data.Canonical) (hserved : ServedBy decryptString db browser)
    (s : PageState N) :
    opened syntaxMessage browser (qrCodeValue N endpoint (documentUri origin id) key) s =
      (.ok (), verifiedState browser data s) := by
  obtain ⟨env, env', henv, henv', hresult⟩ := hdrawn
  obtain ⟨rfl, rfl⟩ := EncryptedStorage.StoreResult.mk.inj hresult
  obtain ⟨row, hrow, hne, hdecrypt⟩ := hread
  obtain ⟨encrypted, hparse, hdecrypt⟩ := Option.bind_eq_some_iff.1 hdecrypt
  obtain ⟨syntaxMessage', queryKey, serverEnv, hquery, hup, hserver⟩ := hserved.server
  have hdocument : browser.server (documentPath env.generatedId) = .document encrypted := by
    rw [hserver]
    exact EncryptedStorage.encryptedStoreRouter_documentPath hquery henv.uuid hup hrow hne hparse
  exact run_opened endpoint horigin henv.uuid henv'.percent_not_mem hdocument
    (hserved.library hdecrypt) (Json.parse_stringify hcanonical) s

omit [JsNumber N] in
/-- The link that is shown for what was found. -/
theorem inititalQrCodeValue_eq (endpoint : VerifyEndpoint) (origin : Url.Origin) (id key : Text) :
    inititalQrCodeValue N (origin.text ++ "/encrypted-storage/encrypted-data".toList) endpoint
      ⟨id, key⟩ = qrCodeValue N endpoint (documentUri origin id) key := by
  have hassoc : ∀ a b : Text, a ++ b ++ "/".toList ++ id = a ++ (b ++ '/' :: id) := by simp
  rw [inititalQrCodeValue]
  dsimp only
  rw [hassoc]
  rfl

end Page

section Sharing

open EncryptedStorage (Overlap Stores StorageCall StorageAnswer)

variable [JsNumber N] [JsonNumber N] {ι : Type} [DecidableEq ι] {syntaxMessage : Text → Text}
  {browser : Browser N} {origin : Url.Origin}
  {computeEntryHash : Json N → Except JsError Text} {decryptString : Json N → Text → Option Text}
  {call : ι → StorageCall N} {db : Db}
  {c : Threads.Config ι Db Unit (EncryptedStorage.Op N) EncryptedStorage.Op.Resp JsError
    StorageAnswer StorageAnswer}

/-- **Every link leads to the verification of the credential that was stored**, whatever other calls
do and however they overlap: be it made from the id and the key with which storing it resolved, or
from what was found for its hash. -/
theorem shared_credentials_verified (endpoint : VerifyEndpoint) (horigin : '%' ∉ origin.text)
    (hstart : db.credentialEncryptedData.rows = [])
    (hcanonical : ∀ data, Stores call data → data.Canonical)
    (hreach : Overlap computeEntryHash (Env.Documented decryptString) call db c)
    (hserved : ServedBy decryptString c.shared browser) (s : PageState N) :
    (∀ i data result, call i = .encryptAndStoreData data →
      (c.thread i).result = some (.ok (.stored result)) →
      opened syntaxMessage browser
        (qrCodeValue N endpoint (documentUri origin result.id) result.key) s =
        (.ok (), verifiedState browser data s)) ∧
    ∀ i args credentialHash found, call i = .fetchEncryptedDataByCredentialHash args →
      args.lookup "credentialHash".toList = some (.str credentialHash) →
      (c.thread i).result = some (.ok (.found found)) →
      ∃ data, Stores call data ∧ computeEntryHash data = .ok credentialHash ∧
        opened syntaxMessage browser
          (inititalQrCodeValue N (origin.text ++ "/encrypted-storage/encrypted-data".toList)
            endpoint ⟨found.encryptedDataId, found.decryptedKey⟩) s =
          (.ok (), verifiedState browser data s) := by
  have hlegal : ∀ env : Env N, env.Documented decryptString → env.Lawful decryptString :=
    fun _ h => h.lawful
  refine ⟨?_, ?_⟩
  · intro i data result hcall hresult
    have hstored := EncryptedStorage.overlap_storedAs hlegal hstart hreach hcall hresult
    exact opened_of_readable endpoint horigin hstored.readable hstored.drawn
      (hcanonical data ⟨i, hcall⟩) hserved s
  · intro i args credentialHash found hcall hargs hfound
    obtain ⟨db', hgrows, hreturned⟩ :=
      (EncryptedStorage.overlap_guarantees hlegal hstart hreach).2 i _ hfound
    rw [hcall] at hreturned
    obtain ⟨data, hash, hstores, hhash, htext, hdecrypt⟩ := hreturned.reads
    obtain rfl := htext credentialHash hargs
    refine ⟨data, hstores, hhash, ?_⟩
    have hread : EncryptedStorage.Readable decryptString c.shared
        ⟨data, ⟨found.encryptedDataId, found.decryptedKey⟩⟩ :=
      ⟨_, hgrows.row hreturned.row, hreturned.ne_nil, hdecrypt⟩
    rw [inititalQrCodeValue_eq]
    exact opened_of_readable endpoint horigin hread hreturned.drawn (hcanonical data hstores)
      hserved s

/-- **From a response to the verifier**: when a response with a credential is stored by the call of
one of the threads, the client is sent the credential with an id and a key, and a link made from
these leads to the verification of just that credential, whatever other calls do. -/
theorem issued_response_verified (endpoint : VerifyEndpoint) (horigin : '%' ∉ origin.text)
    (hstart : db.credentialEncryptedData.rows = [])
    (hreach : Overlap computeEntryHash (Env.Documented decryptString) call db c)
    (hserved : ServedBy decryptString c.shared browser) {syntaxError : Text → JsError}
    {apiRoutes : List Text} {response : EncryptedStorage.Response} {payload : Json N}
    {execute : EncryptedStorage.Execute N} {result : EncryptedStorage.StoreResult} {i : ι}
    (hstores : RemoteServer.storesResponse apiRoutes response.statusCode response.body
      response.path = true)
    (hparse : Json.parse response.body = some payload)
    (hcall : call i = .encryptAndStoreData payload)
    (hresult : (c.thread i).result = some (.ok (.stored result)))
    (hexecute : execute payload = .ok result) (s : PageState N) :
    ∃ sent received id key,
      (EncryptedStorage.intercept syntaxError apiRoutes (some execute) response).sent = [sent] ∧
      Json.parse sent = some received ∧ field "id".toList (some received) = some (.str id) ∧
      field "key".toList (some received) = some (.str key) ∧
      field "credential".toList (some received) = some payload ∧
      opened syntaxMessage browser (qrCodeValue N endpoint (documentUri origin id) key) s =
        (.ok (), verifiedState browser payload s) := by
  have hcanonical := Json.canonical_of_parse hparse
  have hsent : EncryptedStorage.updatedBody syntaxError apiRoutes (some execute) response =
      .ok (EncryptedStorage.storedBody payload result) := by
    rw [EncryptedStorage.updatedBody, if_pos hstores, hparse]
    dsimp only
    rw [EncryptedStorage.Middleware.encryptAndStoreData, hexecute]
    rfl
  have hbody : (Json.obj [("id".toList, .str result.id), ("key".toList, .str result.key),
      ("credential".toList, payload)]).Canonical := by
    have hkeys : Json.KeysInOrder ["id".toList, "key".toList, "credential".toList] := by
      unfold Json.KeysInOrder
      decide +kernel
    exact ⟨hkeys, trivial, trivial, hcanonical, trivial⟩
  have hlegal : ∀ env : Env N, env.Documented decryptString → env.Lawful decryptString :=
    fun _ h => h.lawful
  have hstored := EncryptedStorage.overlap_storedAs hlegal hstart hreach hcall hresult
  exact ⟨_, _, result.id, result.key, EncryptedStorage.sent_eq_singleton_iff.2 hsent,
    Json.parse_stringify hbody, rfl, rfl, rfl,
    opened_of_readable endpoint horigin hstored.readable hstored.drawn hcanonical hserved s⟩

end Sharing

/-! ### A link that is opened -/

/-- The answers of the storage with these tables. -/
def plainServer (db : Db) (target : Text) : StorageReply ℤ :=
  EncryptedStorage.encryptedStoreRouter unexpectedToken (fun _ => none)
    (EncryptedStorage.plainEnv [] []) ⟨.get, target, true⟩ db

/-- A verifier that accepts `true`. -/
def plainVerifier : Json ℤ → Except JsError (Option (List (Text × Json ℤ)))
  | .bool true => .ok (some [("verified".toList, .bool true)])
  | _ => .error (JsError.ofMessage "unknown".toList)

/-- A page with this storage. -/
def plainBrowser (db : Db) : Browser ℤ where
  server := plainServer db
  decryptString
    | some encrypted, some (.str key) =>
        match EncryptedStorage.plainDecryptString encrypted key with
        | some text => .ok text
        | none => .error (JsError.ofMessage "decrypt".toList)
    | _, _ => .error (JsError.ofMessage "decrypt".toList)
  routeVerificationCredential := plainVerifier
  fetchError := JsError.ofMessage "fetch".toList

theorem plainBrowser_servedBy (db : Db) :
    ServedBy EncryptedStorage.plainDecryptString db (plainBrowser db) where
  server := ⟨unexpectedToken, fun _ => none, EncryptedStorage.plainEnv [] [], rfl, fun _ => rfl,
    fun _ => rfl⟩
  library := by
    intro encrypted key text h
    simp only [plainBrowser, h]

theorem threeDraws_documented (i : Fin 3) :
    (EncryptedStorage.threeDraws i).Documented EncryptedStorage.plainDecryptString where
  lawful := EncryptedStorage.threeDraws_lawful i
  uuid := by
    rw [EncryptedStorage.threeDraws]
    split_ifs <;> exact ⟨List.cons_ne_nil _ _, List.all_eq_true.1 rfl⟩
  key_chars := by
    rw [EncryptedStorage.threeDraws]
    split_ifs <;> exact List.all_eq_true.1 rfl

theorem percent_not_mem_plainOrigin : '%' ∉ Revocation.plainOrigin.text := by decide +kernel

/-- Nothing but `true` is stored. -/
theorem eq_true_of_stores {data : Json ℤ}
    (h : EncryptedStorage.Stores EncryptedStorage.threeCalls data) : data = .bool true := by
  obtain ⟨i, hcall⟩ := h
  rw [EncryptedStorage.threeCalls] at hcall
  split_ifs at hcall
  exact (EncryptedStorage.StorageCall.encryptAndStoreData.inj hcall).symm

theorem threeCalls_canonical (data : Json ℤ)
    (h : EncryptedStorage.Stores EncryptedStorage.threeCalls data) : data.Canonical := by
  rw [eq_true_of_stores h]
  exact trivial

/-- The page before the link is opened. -/
def closedPage : PageState ℤ := ⟨false, none, []⟩

/-- The page after `true` was verified. -/
def verifiedPage : PageState ℤ :=
  ⟨false, some [("verified".toList, .bool true), ("verifiableCredential".toList, .bool true)],
    [.bool true]⟩

/-- The link to what the first call has stored, and the link to what the third one has found. -/
theorem shared_credentials_verified_plain :
    ∃ db, opened unexpectedToken (plainBrowser db) (qrCodeValue ℤ verifyPage
        (documentUri Revocation.plainOrigin "1".toList) "k".toList) closedPage =
          (.ok (), verifiedPage) ∧
      opened unexpectedToken (plainBrowser db) (inititalQrCodeValue ℤ
        (Revocation.plainOrigin.text ++ "/encrypted-storage/encrypted-data".toList) verifyPage
        ⟨EncryptedStorage.firstFound.encryptedDataId, EncryptedStorage.firstFound.decryptedKey⟩)
        closedPage = (.ok (), verifiedPage) := by
  obtain ⟨c, hreach, hstored, hfound⟩ := EncryptedStorage.threeCalls_end threeDraws_documented
  obtain ⟨hopened, hopened'⟩ := shared_credentials_verified verifyPage
    percent_not_mem_plainOrigin rfl threeCalls_canonical hreach (plainBrowser_servedBy c.shared)
    closedPage
  obtain ⟨data, hstores, -, hlink⟩ := hopened' 2 [("credentialHash".toList, .str "true".toList)]
    "true".toList EncryptedStorage.firstFound rfl rfl hfound
  obtain rfl := eq_true_of_stores hstores
  exact ⟨c.shared, hopened 0 (.bool true) ⟨"1".toList, "k".toList⟩ rfl hstored, hlink⟩

/-- A response with `true`. -/
def trueResponse : EncryptedStorage.Response :=
  ⟨200, "true".toList, '/' :: RemoteServer.creationMethod⟩

/-- The call that stores it. -/
def trueExecute : EncryptedStorage.Execute ℤ := fun _ => .ok ⟨"1".toList, "k".toList⟩

/-- The same link, made from the response that the client is sent. -/
theorem issued_response_verified_plain :
    ∃ db sent, (EncryptedStorage.intercept (fun body => ⟨"SyntaxError".toList, body⟩)
        RemoteServer.defaultApiRoutes (some trueExecute) trueResponse).sent = [sent] ∧
      ∃ id key, (opened unexpectedToken (plainBrowser db) (qrCodeValue ℤ verifyPage
        (documentUri Revocation.plainOrigin id) key) closedPage).2.routed = [.bool true] := by
  obtain ⟨c, hreach, hstored, -⟩ := EncryptedStorage.threeCalls_end threeDraws_documented
  have hstores : RemoteServer.storesResponse RemoteServer.defaultApiRoutes
      trueResponse.statusCode trueResponse.body trueResponse.path = true := by
    decide +kernel
  have hparse : Json.parse trueResponse.body = some (.bool true : Json ℤ) := by rfl
  have hexecute : trueExecute (.bool true) = .ok ⟨"1".toList, "k".toList⟩ := rfl
  obtain ⟨sent, _, id, key, hsent, -, -, -, -, hopened⟩ := issued_response_verified verifyPage
    percent_not_mem_plainOrigin rfl hreach (plainBrowser_servedBy c.shared) hstores hparse
    rfl hstored hexecute closedPage
  exact ⟨c.shared, sent, hsent, id, key, congrArg (fun ended => ended.2.routed) hopened⟩

end QrLink
