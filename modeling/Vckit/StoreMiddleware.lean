/-
**What the client gets when its response is stored.**

`encryptedStoreMiddleware` takes over the response of a request.  If its path is covered, the
credential in it is stored, and the response is replaced by one that also holds the id and the key;
otherwise it is sent as it is.  The call of `send` is inside the `try`, and an error is thrown
again: so when there is no agent, when the body is no JSON, or when storing is rejected, nothing is
sent, though the credential has been issued.

Main definitions:

* `EncryptedStorage.intercept` — what is sent, and how the interceptor ends;
* `EncryptedStorage.expectedBody` — what should be sent;
* `EncryptedStorage.Answered` — the agents and responses for which something is sent.

Main results:

* `EncryptedStorage.sent_iff` — **exactly for these the expected body is sent, and nothing else**;
* `EncryptedStorage.not_sent_rejected` — a credential that is issued and not sent.
-/

import Vckit.ApiRoutes
import Vckit.StoreAtomicity

set_option relaxedAutoImplicit false
set_option autoImplicit false

namespace EncryptedStorage

variable {N : Type} [JsonNumber N]

/-! ### The code -/

/-- A response on its way to the client, with the path of its request. -/
structure Response where
  statusCode : ℕ
  body : Text
  path : Text

/-- `agent.execute('encryptAndStoreData', { data: payload })`. -/
abbrev Execute (N : Type) := Json N → Except JsError StoreResult

/-- `JSON.stringify({ id, key, credential: payload })`. -/
def storedBody (payload : Json N) (result : StoreResult) : Text :=
  Json.stringify (.obj [("id".toList, .str result.id), ("key".toList, .str result.key),
    ("credential".toList, payload)])

/-- `encryptAndStoreData` of the middleware. -/
def Middleware.encryptAndStoreData (execute : Execute N) (payload : Json N) :
    Except JsError Text := do
  let result ← execute payload
  return storedBody payload result

/-- The `try` block up to the call of `send`; `syntaxError` is the error of `JSON.parse`. -/
def updatedBody (syntaxError : Text → JsError) (apiRoutes : List Text) (agent : Option (Execute N))
    (response : Response) : Except JsError Text :=
  match agent with
  | none => .error (JsError.ofMessage "Agent not available".toList)
  | some execute =>
      if RemoteServer.storesResponse apiRoutes response.statusCode response.body response.path then
        match Json.parse response.body with
        | none => .error (syntaxError response.body)
        | some payload => Middleware.encryptAndStoreData execute payload
      else .ok response.body

/-- The bodies that are sent, in their order, and how the interceptor ends. -/
structure Intercepted where
  sent : List Text
  ended : Except JsError Unit

/-- `intercept`. -/
def intercept (syntaxError : Text → JsError) (apiRoutes : List Text) (agent : Option (Execute N))
    (response : Response) : Intercepted :=
  match updatedBody syntaxError apiRoutes agent response with
  | .ok body => ⟨[body], .ok ()⟩
  | .error e => ⟨[], .error (JsError.ofMessage e.message)⟩

/-! ### What should be sent -/

/-- The credential in a response and the result of storing it, if that succeeds: there is an agent,
the body is JSON, and the call resolves. -/
def storedResult (agent : Option (Execute N)) (response : Response) :
    Option (Json N × StoreResult) := do
  let execute ← agent
  let payload ← Json.parse response.body
  let result ← (execute payload).toOption
  return (payload, result)

/-- The credential with its id and key, if the route is covered, the status is 200 and storing
succeeds; otherwise the body as it is. -/
def expectedBody (apiRoutes : List Text) (agent : Option (Execute N)) (response : Response) :
    Text :=
  if response.path ∈ apiRoutes ∧ response.statusCode = 200 then
    (storedResult agent response).elim response.body fun stored => storedBody stored.1 stored.2
  else response.body

/-- **The agents and responses for which something is sent**: there is an agent, and if the response
is to be stored, then its body is JSON and storing succeeds. -/
def Answered (apiRoutes : List Text) (agent : Option (Execute N)) (response : Response) : Prop :=
  ∃ execute, agent = some execute ∧
    (RemoteServer.storesResponse apiRoutes response.statusCode response.body response.path = true →
      ∃ payload result, Json.parse response.body = some payload ∧ execute payload = .ok result)

variable {apiRoutes : List Text} {agent : Option (Execute N)} {response : Response}

/-- When a response is to be stored. -/
theorem storesResponse_iff :
    RemoteServer.storesResponse apiRoutes response.statusCode response.body response.path = true ↔
      response.statusCode = 200 ∧ response.body ≠ [] ∧ response.path ∈ apiRoutes := by
  rw [RemoteServer.storesResponse, Bool.and_eq_true, Bool.and_eq_true, decide_eq_true_eq,
    decide_eq_true_eq, List.contains_iff_mem, and_assoc]

/-- An empty body is no JSON. -/
theorem storedResult_of_body_eq_nil (h : response.body = []) :
    storedResult agent response = none := by
  have hparse : Json.parse response.body = (none : Option (Json N)) := by
    rw [h]
    rfl
  rw [storedResult, hparse]
  cases agent <;> rfl

/-- Nothing is stored if the call rejects. -/
theorem storedResult_of_error {execute : Execute N} {payload : Json N} {e : JsError}
    (hparse : Json.parse response.body = some payload) (hexecute : execute payload = .error e) :
    storedResult (some execute) response = none := by
  rw [storedResult, hparse]
  change ((execute payload).toOption >>= fun result => some (payload, result)) = none
  rw [hexecute]
  rfl

/-- A response that is not to be stored should be sent as it is. -/
theorem expectedBody_of_not_stores (h : ¬RemoteServer.storesResponse apiRoutes response.statusCode
    response.body response.path = true) :
    expectedBody apiRoutes agent response = response.body := by
  rw [expectedBody]
  split_ifs with hcovered
  · have hempty : response.body = [] := by
      by_contra hne
      exact h (storesResponse_iff.2 ⟨hcovered.2, hne, hcovered.1⟩)
    rw [storedResult_of_body_eq_nil hempty, Option.elim_none]
  · rfl

/-- A credential that is stored should be sent with its id and key. -/
theorem expectedBody_of_stored {execute : Execute N} {payload : Json N} {result : StoreResult}
    (hstores : RemoteServer.storesResponse apiRoutes response.statusCode response.body
      response.path = true)
    (hparse : Json.parse response.body = some payload) (hexecute : execute payload = .ok result) :
    expectedBody apiRoutes (some execute) response = storedBody payload result := by
  obtain ⟨hstatus, -, hpath⟩ := storesResponse_iff.1 hstores
  have hstored : storedResult (some execute) response = some (payload, result) := by
    rw [storedResult, hparse]
    change ((execute payload).toOption >>= fun result => some (payload, result)) = _
    rw [hexecute]
    rfl
  rw [expectedBody, if_pos ⟨hpath, hstatus⟩, hstored, Option.elim_some]

/-- One body is sent, the one of the `try` block, unless that throws. -/
theorem sent_eq_singleton_iff {syntaxError : Text → JsError} {body : Text} :
    (intercept syntaxError apiRoutes agent response).sent = [body] ↔
      updatedBody syntaxError apiRoutes agent response = .ok body := by
  rw [intercept]
  cases updatedBody syntaxError apiRoutes agent response with
  | error e => exact iff_of_false (List.cons_ne_nil _ _).symm (by rintro ⟨⟩)
  | ok body' =>
      constructor
      · intro h
        rw [(List.cons.inj h).1]
      · intro h
        rw [Except.ok.inj h]

/-- **The expected body is sent, and nothing else, exactly when** there is an agent, and the body of
a response that is to be stored is JSON and storing it succeeds. -/
theorem sent_iff (syntaxError : Text → JsError) (apiRoutes : List Text) (agent : Option (Execute N))
    (response : Response) :
    (intercept syntaxError apiRoutes agent response).sent =
        [expectedBody apiRoutes agent response] ↔
      Answered apiRoutes agent response := by
  rw [sent_eq_singleton_iff]
  unfold updatedBody
  cases agent with
  | none =>
      refine iff_of_false (by rintro ⟨⟩) ?_
      rintro ⟨execute, hagent, -⟩
      cases hagent
  | some execute =>
      by_cases hstores : RemoteServer.storesResponse apiRoutes response.statusCode response.body
        response.path = true
      · dsimp only
        rw [if_pos hstores]
        cases hparse : (Json.parse response.body : Option (Json N)) with
        | none =>
            refine iff_of_false (by rintro ⟨⟩) ?_
            rintro ⟨execute', -, h⟩
            obtain ⟨payload, result, hpayload, -⟩ := h hstores
            rw [hparse] at hpayload
            cases hpayload
        | some payload =>
            dsimp only
            rw [Middleware.encryptAndStoreData]
            cases hexecute : execute payload with
            | error e =>
                refine iff_of_false (by rintro ⟨⟩) ?_
                rintro ⟨execute', hagent, h⟩
                obtain rfl : execute = execute' := Option.some.inj hagent
                obtain ⟨payload', result, hpayload, hresult⟩ := h hstores
                obtain rfl : payload = payload' := Option.some.inj (hparse.symm.trans hpayload)
                rw [hexecute] at hresult
                cases hresult
            | ok result =>
                rw [expectedBody_of_stored hstores hparse hexecute]
                exact iff_of_true rfl ⟨execute, rfl, fun _ => ⟨payload, result, hparse, hexecute⟩⟩
      · dsimp only
        rw [if_neg hstores, expectedBody_of_not_stores hstores]
        exact iff_of_true rfl ⟨execute, rfl, fun h => absurd h hstores⟩

/-! ### The agent with the plugin -/

/-- The plugin's own method, on tables. -/
def pluginExecute (computeEntryHash : Json N → Except JsError Text) (env : Env N) (db : Db) :
    Execute N :=
  fun payload => (Prog.run (serve env) (encryptAndStoreData computeEntryHash payload) db).1

/-- A response with a credential. -/
def credentialResponse : Response := ⟨200, "false".toList, '/' :: RemoteServer.creationMethod⟩

/-- **A credential that is issued and not sent**: its hash is not in the table of credentials, so
the plugin rejects it. -/
theorem not_sent_rejected :
    intercept (fun body => ⟨"SyntaxError".toList, body⟩) RemoteServer.defaultApiRoutes
      (some (pluginExecute plainHash (plainEnv "1".toList "k".toList) plainDb)) credentialResponse =
      ⟨[], .error (JsError.ofMessage "violates constraint".toList)⟩ ∧
    expectedBody RemoteServer.defaultApiRoutes
      (some (pluginExecute plainHash (plainEnv "1".toList "k".toList) plainDb)) credentialResponse =
      "false".toList := by
  have hparse : Json.parse "false".toList = some (.bool false : Json ℤ) := by rfl
  have hexecute : pluginExecute plainHash (plainEnv "1".toList "k".toList) plainDb (.bool false) =
      .error (constraintViolation "violates constraint".toList) := by rfl
  have hstores : RemoteServer.storesResponse RemoteServer.defaultApiRoutes
      credentialResponse.statusCode credentialResponse.body credentialResponse.path = true := by
    decide +kernel
  have hbody : credentialResponse.body = "false".toList := rfl
  obtain ⟨hstatus, -, hpath⟩ := storesResponse_iff.1 hstores
  constructor
  · unfold intercept updatedBody
    dsimp only
    rw [if_pos hstores, hbody, hparse]
    dsimp only
    rw [Middleware.encryptAndStoreData, hexecute]
    rfl
  · rw [expectedBody, if_pos ⟨hpath, hstatus⟩, storedResult_of_error hparse hexecute,
      Option.elim_none, hbody]

end EncryptedStorage
