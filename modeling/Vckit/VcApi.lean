/-
**The controllers of the VC API.**

A controller takes a request, executes methods of the agent, and answers with what they return; an
error is answered by `errorHandler`.  Two of the methods belong to the credential router, which
chooses a plugin for the credential and wraps what the plugin throws into an error of its own.

What the other plugins do is left open: their methods are operations, with arguments that are
objects whose properties may be undefined.

Main definitions:

* `VcApi.Args`, `VcApi.Call`, `VcApi.Agent` — arguments, methods, and programs that execute them;
* `VcApi.routeCreationVerifiableCredential`, `VcApi.routeVerificationCredential` — the credential
  router;
* `VcApi.issueCredential`, …, `VcApi.provePresentation` — the controllers;
* `VcApi.Endpoint` — a request to one of them; `VcApi.Endpoint.work` is what is done for it where
  errors are raised.

Main results:

* `VcApi.Endpoint.run_controller_of_error` — **what an error is answered with**: what the handler
  makes of it, after the router has wrapped it.
-/

import Vckit.HolderController
import Vckit.ObjectCreator

set_option relaxedAutoImplicit false
set_option autoImplicit false

namespace VcApi

open HolderController (WhereClause UniqueVerifiableCredential byId)
open ObjectCreator (field)

variable {N σ : Type}

/-! ### Arguments -/

/-- The properties of an argument; a property may be there and undefined. -/
abbrev Args (N : Type) := List (Text × Option (Json N))

/-- `args.name` -/
def Args.get (name : Text) (args : Args N) : Option (Json N) :=
  (ObjectCreator.property name args).join

/-- `{ ...target, ...args }` -/
def Args.assign (target args : Args N) : Args N :=
  args.foldl (fun target arg => Json.setField arg.1 arg.2 target) target

/-- The properties that `...value` adds.  The validator of requests lets objects through only. -/
def spread : Option (Json N) → Args N
  | some (.obj fields) => fields.map fun f => (f.1, some f.2)
  | _ => []

/-- `value === text` -/
def isText (text : Text) : Option (Json N) → Bool
  | some (.str s) => decide (s = text)
  | _ => false

/-- The configuration of the issuer. -/
def configuration : Args N :=
  [("proofFormat".toList, some (.str "lds".toList)),
    ("removeOriginalFields".toList, some (.bool false)),
    ("save".toList, some (.bool true)),
    ("fetchRemoteContexts".toList, some (.bool true))]

/-! ### The agent -/

/-- The methods that are executed with an object of arguments. -/
inductive Method
  | createVerifiableCredential
  | createVerifiableCredentialOA
  | verifyCredential
  | verifyCredentialOA
  | createVerifiablePresentation
  | verifyPresentation
  deriving DecidableEq

/-- A presentation in the data store. -/
structure UniqueVerifiablePresentation (N : Type) where
  hash : Text
  verifiablePresentation : Json N

/-- A method of the agent, with its arguments. -/
inductive Call (N : Type)
  | plugin (method : Method) (args : Args N)
  | dataStoreORMGetVerifiableCredentials
  | dataStoreORMGetVerifiablePresentations (where_ : Option (List WhereClause))
  | holder (call : HolderController.Call)

/-- The answer of a method. -/
@[reducible] def Call.Resp : Call N → Type
  | .plugin _ _ => Json N
  | .dataStoreORMGetVerifiableCredentials => List (UniqueVerifiableCredential (Json N))
  | .dataStoreORMGetVerifiablePresentations _ => List (UniqueVerifiablePresentation N)
  | .holder call => call.Resp (Json N)

/-- A program that executes methods of the agent. -/
abbrev Agent (N α : Type) := Prog (Call N) Call.Resp JsError α

/-- `agent.execute(method, args)` -/
def execute (call : Call N) : Agent N call.Resp := Prog.perform call

/-- A program for credentials that are looked up by their id. -/
def embed {α : Type} : HolderController.Agent (Json N) α → Agent N α
  | .ret a => .ret a
  | .throw e => .throw e
  | .call o k => .call (.holder o) fun r => embed (k r)

/-! ### The credential router -/

/-- The format of a document that decides which plugin verifies it. -/
inductive DocumentFormat
  | jwt
  | jsonld
  | eip712
  | oa
  deriving DecidableEq

/-- `if (value)` -/
def truthy [ObjectCreator.JsNumber N] (value : Option (Json N)) : Bool :=
  value.any ObjectCreator.isTruthy

/-- `typeof value === 'string'` -/
def isString : Option (Json N) → Bool
  | some (.str _) => true
  | _ => false

section Router

variable [ObjectCreator.JsNumber N]

def detectDocumentType (document : Option (Json N)) : DocumentFormat :=
  let proof := field "proof".toList document
  if isString document || truthy (field "jwt".toList proof) then .jwt
  else if isText "EthereumEip712Signature2021".toList (field "type".toList proof) then .eip712
  else if isText "OpenAttestationMerkleProofSignature2018".toList (field "type".toList proof) then
    .oa
  else .jsonld

/-- `throw new Error('invalid_setup: …')` -/
def invalidSetup (pluginName : Text) : JsError :=
  .ofMessage ("invalid_setup: your agent does not seem to have ".toList ++ pluginName ++
    " plugin installed".toList)

/-- The plugin of a method, as the router's errors name it. -/
def pluginOf : Method → Text
  | .createVerifiableCredentialOA | .verifyCredentialOA => "CredentialOA".toList
  | _ => "CredentialW3c".toList

/-- A method of the agent, if it is there. -/
def callInstalled (installed : Method → Bool) (method : Method) (args : Args N) :
    Agent N (Json N) :=
  if installed method then execute (.plugin method args)
  else .throw (invalidSetup (pluginOf method))

/-- The method that creates a credential. -/
def creationMethod (args : Args N) : Method :=
  if isText "OpenAttestationMerkleProofSignature2018".toList (args.get "proofFormat".toList) then
    .createVerifiableCredentialOA
  else .createVerifiableCredential

/-- The `try` block of `routeCreationVerifiableCredential`. -/
def createRouted (installed : Method → Bool) (args : Args N) : Agent N (Json N) :=
  callInstalled installed (creationMethod args)
    (args.assign [("credential".toList, args.get "credential".toList)])

def routeCreationVerifiableCredential (installed : Method → Bool) (args : Args N) :
    Agent N (Json N) :=
  (createRouted installed args).mapError JsError.rewrap

/-- The `try` block of `routeVerificationCredential`. -/
def verifyRouted (installed : Method → Bool) (args : Args N) : Agent N (Json N) :=
  if detectDocumentType (args.get "credential".toList) = .oa then
    callInstalled installed .verifyCredentialOA args
  else callInstalled installed .verifyCredential args

def routeVerificationCredential (installed : Method → Bool) (args : Args N) : Agent N (Json N) :=
  (verifyRouted installed args).mapError JsError.rewrap

end Router

/-! ### Responses -/

/-- What a response carries. -/
inductive Body (N : Type)
  | error (message : Option Text)
  | message (message : Text)
  | json (value : Json N)

/-- `res.status(status).json(body)` -/
structure Response (N : Type) where
  status : ℕ
  body : Body N

/-- A response about one credential. -/
def ofHolder : HolderController.Response (Json N) → Response N
  | ⟨status, .error message⟩ => ⟨status, .error message⟩
  | ⟨status, .message message⟩ => ⟨status, .message message⟩
  | ⟨status, .credential value⟩ => ⟨status, .json value⟩

/-- The response to an error. -/
def errorResponse (e : JsError) : Response N := ofHolder (HolderController.errorResponse e)

/-- The response with everything that was found. -/
def foundAll (result : List (Json N)) : Response N :=
  if result = [] then ⟨410, .error (some "Gone! There is no data here".toList)⟩
  else ⟨200, .json (.arr result)⟩

/-- The response with the presentation that was found. -/
def foundPresentation : Option (UniqueVerifiablePresentation N) → Response N
  | none => ⟨404, .error (some "Presentation not found".toList)⟩
  | some result => ⟨200, .json result.verifiablePresentation⟩

/-! ### Controllers -/

/-- A controller that answers errors with `errorHandler`. -/
def answering (available : Bool) (work : Agent N (Response N)) : Agent N (Response N) :=
  Prog.tryCatch (do
    embed (HolderController.requireAgent available)
    work) fun e => .ret (errorResponse e)

section Controllers

variable [ObjectCreator.JsNumber N] (installed : Method → Bool) (available : Bool)

/-- What the router is asked to create. -/
def creationPayload (body : Json N) : Args N :=
  Args.assign [("credential".toList, field "credential".toList (some body))] configuration

/-- `POST /credentials/issue` -/
def issueCredential (body : Json N) : Agent N (Response N) :=
  answering available do
    let verifiableCredential ← routeCreationVerifiableCredential installed (creationPayload body)
    .ret ⟨201, .json verifiableCredential⟩

/-- `POST /credentials/status` -/
def updateCredentialStatus : Agent N (Response N) :=
  answering available (.ret ⟨501, .error (some "Not implemented".toList)⟩)

/-- What the router is asked to verify. -/
def verificationPayload (body : Json N) : Args N :=
  [("credential".toList, field "verifiableCredential".toList (some body))]

/-- `POST /credentials/verify` -/
def verifyCredential (body : Json N) : Agent N (Response N) :=
  answering available do
    let result ← routeVerificationCredential installed (verificationPayload body)
    .ret ⟨200, .json result⟩

/-- What the agent is asked to verify: the presentation is passed as a credential. -/
def presentationPayload (body : Json N) : Args N :=
  [("credential".toList, field "verifiablePresentation".toList (some body))]

/-- `POST /presentations/verify` -/
def verifyPresentation (body : Json N) : Agent N (Response N) :=
  answering available do
    let result ← execute (.plugin .verifyPresentation (presentationPayload body))
    .ret ⟨200, .json result⟩

/-- `GET /credentials/:id` -/
def getCredential (id : Text) : Agent N (Response N) := do
  let response ← embed (HolderController.getCredential available id)
  .ret (ofHolder response)

/-- `DELETE /credentials/:id` -/
def deleteCredential (id : Text) : Agent N (Response N) := do
  let response ← embed (HolderController.deleteCredential available id)
  .ret (ofHolder response)

def getVerifiableCredentials : Agent N (List (Json N)) := do
  let result ← execute .dataStoreORMGetVerifiableCredentials
  .ret (result.map fun credential => credential.verifiableCredential)

/-- `GET /credentials` -/
def getCredentials : Agent N (Response N) :=
  answering available do
    let result ← getVerifiableCredentials
    .ret (foundAll result)

def getUniqueVerifiablePresentation (id : Text) :
    Agent N (Option (UniqueVerifiablePresentation N)) := do
  let result ← execute (.dataStoreORMGetVerifiablePresentations (some (byId id)))
  .ret result.head?

/-- `GET /presentations/:id` -/
def getPresentation (id : Text) : Agent N (Response N) :=
  answering available do
    let result ← getUniqueVerifiablePresentation id
    .ret (foundPresentation result)

def getVerifiablePresentations : Agent N (List (Json N)) := do
  let result ← execute (.dataStoreORMGetVerifiablePresentations none)
  .ret (result.map fun presentation => presentation.verifiablePresentation)

/-- `GET /presentations` -/
def getPresentations : Agent N (Response N) :=
  answering available do
    let result ← getVerifiablePresentations
    .ret (foundAll result)

/-- What the agent is asked to prove. -/
def provingParams (data : Json N) : Args N :=
  (Args.assign [("presentation".toList, field "presentation".toList (some data))]
    configuration).assign (spread (field "options".toList (some data)))

def proveVerifiablefPresentation (data : Json N) : Agent N (Json N) :=
  execute (.plugin .createVerifiablePresentation (provingParams data))

/-- `POST /presentations/prove` -/
def provePresentation (body : Json N) : Agent N (Response N) :=
  answering available do
    let result ← proveVerifiablefPresentation body
    .ret ⟨201, .json result⟩

end Controllers

/-! ### Endpoints -/

/-- A request to an endpoint that answers errors with `errorHandler`. -/
inductive Endpoint (N : Type)
  | issueCredential (body : Json N)
  | updateCredentialStatus
  | verifyCredential (body : Json N)
  | verifyPresentation (body : Json N)
  | getCredential (id : Text)
  | getCredentials
  | deleteCredential (id : Text)
  | getPresentation (id : Text)
  | getPresentations
  | provePresentation (body : Json N)

namespace Endpoint

/-- The endpoints behind the credential router. -/
def routed : Endpoint N → Bool
  | .issueCredential _ | .verifyCredential _ => true
  | _ => false

/-- The error that reaches the controller. -/
def thrown (ep : Endpoint N) (e : JsError) : JsError := if ep.routed then e.rewrap else e

variable [ObjectCreator.JsNumber N] (installed : Method → Bool)

def controller (available : Bool) : Endpoint N → Agent N (Response N)
  | .issueCredential body => VcApi.issueCredential installed available body
  | .updateCredentialStatus => VcApi.updateCredentialStatus available
  | .verifyCredential body => VcApi.verifyCredential installed available body
  | .verifyPresentation body => VcApi.verifyPresentation available body
  | .getCredential id => VcApi.getCredential available id
  | .getCredentials => VcApi.getCredentials available
  | .deleteCredential id => VcApi.deleteCredential available id
  | .getPresentation id => VcApi.getPresentation available id
  | .getPresentations => VcApi.getPresentations available
  | .provePresentation body => VcApi.provePresentation available body

/-- What is done for a request where the agent and its plugins raise errors, without the answer. -/
def work : Endpoint N → Agent N Unit
  | .issueCredential body => do
      let _ ← createRouted installed (creationPayload body)
      .ret ()
  | .updateCredentialStatus => .ret ()
  | .verifyCredential body => do
      let _ ← verifyRouted installed (verificationPayload body)
      .ret ()
  | .verifyPresentation body => do
      let _ ← execute (.plugin .verifyPresentation (presentationPayload body))
      .ret ()
  | .getCredential id => do
      let _ ← embed (HolderController.getUniqueVerifiableCredential id)
      .ret ()
  | .getCredentials => do
      let _ ← getVerifiableCredentials
      .ret ()
  | .deleteCredential id => do
      let _ ← embed (HolderController.deleteVerifiableCredential id)
      .ret ()
  | .getPresentation id => do
      let _ ← getUniqueVerifiablePresentation id
      .ret ()
  | .getPresentations => do
      let _ ← getVerifiablePresentations
      .ret ()
  | .provePresentation body => do
      let _ ← proveVerifiablefPresentation body
      .ret ()

end Endpoint

/-! ### Running the controllers -/

section Run

variable {h : (o : Call N) → σ → Except JsError o.Resp × σ} {s s' : σ} {e : JsError}

/-- Programs for credentials run as they do alone. -/
theorem run_embed {α : Type} (p : HolderController.Agent (Json N) α) (s : σ) :
    (embed p).run h s = p.run (fun o => h (.holder o)) s := by
  induction p generalizing s with
  | ret a => rfl
  | throw e => rfl
  | call o k ih => exact ih _ _

/-- An answer that is not read does not hide an error. -/
theorem run_of_run_unit {α : Type} {p : Agent N α}
    (herror : (do let _ ← p; Prog.ret () : Agent N Unit).run h s = (.error e, s')) :
    p.run h s = (.error e, s') := by
  rw [Prog.run_bind] at herror
  rcases hp : p.run h s with ⟨r, t⟩
  rw [hp] at herror
  cases r with
  | ok a => cases herror
  | error e' =>
      cases herror
      rfl

theorem run_answering_of_error {work : Agent N (Response N)}
    (herror : work.run h s = (.error e, s')) :
    (answering true work).run h s = (.ok (errorResponse e), s') :=
  Prog.run_tryCatch_of_error ((Prog.run_bind_of_ok rfl).trans herror)

/-- A controller whose method fails answers with its error. -/
theorem run_answering_bind {α : Type} {p : Agent N α} {f : α → Agent N (Response N)}
    (herror : (do let _ ← p; Prog.ret () : Agent N Unit).run h s = (.error e, s')) :
    (answering true (do let a ← p; f a)).run h s = (.ok (errorResponse e), s') :=
  run_answering_of_error (Prog.run_bind_of_error (run_of_run_unit herror))

/-- A controller behind the router answers with the wrapped error. -/
theorem run_answering_routed {p : Agent N (Json N)} {f : Json N → Agent N (Response N)}
    (herror : (do let _ ← p; Prog.ret () : Agent N Unit).run h s = (.error e, s')) :
    (answering true (do let a ← p.mapError JsError.rewrap; f a)).run h s =
      (.ok (errorResponse e.rewrap), s') :=
  run_answering_of_error
    (Prog.run_bind_of_error (Prog.run_mapError_of_error (run_of_run_unit herror)))

/-- **What an error is answered with.** -/
theorem Endpoint.run_controller_of_error [ObjectCreator.JsNumber N] {installed : Method → Bool}
    (ep : Endpoint N) (herror : (ep.work installed).run h s = (.error e, s')) :
    (ep.controller installed true).run h s = (.ok (errorResponse (ep.thrown e)), s') := by
  cases ep with
  | issueCredential body => exact run_answering_routed herror
  | updateCredentialStatus => cases herror
  | verifyCredential body => exact run_answering_routed herror
  | verifyPresentation body => exact run_answering_bind herror
  | getCredential id =>
      have hraised := run_of_run_unit herror
      rw [run_embed] at hraised
      refine Prog.run_bind_of_ok ((run_embed _ s).trans ?_)
      exact HolderController.run_getCredential_of_error hraised
  | getCredentials => exact run_answering_bind herror
  | deleteCredential id =>
      have hraised := run_of_run_unit herror
      rw [run_embed] at hraised
      refine Prog.run_bind_of_ok ((run_embed _ s).trans ?_)
      exact HolderController.run_deleteCredential_of_error hraised
  | getPresentation id => exact run_answering_bind herror
  | getPresentations => exact run_answering_bind herror
  | provePresentation body => exact run_answering_bind herror

end Run

end VcApi
