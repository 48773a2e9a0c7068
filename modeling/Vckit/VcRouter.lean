/-
**The router of the VC API.**

The router reads the body of a request, finds a route, lets the validator check the request against
the description of the API, and hands it to a controller.  A parameter is decoded before it gets
there, so the path that is made of the encoded id of a credential leads to that credential, and a
path such as `/credentials/issue` is an id for `GET` and a route of its own for `POST`.

The controllers that are not implemented have no `catch`: without an agent they are left without an
answer.

Main definitions:

* `VcApi.VcRequest`, `VcApi.Reply` — requests, and what becomes of them;
* `VcApi.vcRoutes`, `VcApi.routed`, `VcApi.VCRouter` — the routes, where a request goes, and the
  router;
* `VcApi.credentialPath` — the path of a credential.

Main results:

* `VcApi.routed_credentialPath` — **the path of a credential leads to its id**.
-/

import Vckit.ExpressPaths
import Vckit.UriRoundTrip
import Vckit.VcApi

set_option relaxedAutoImplicit false
set_option autoImplicit false

namespace VcApi

open Express (HttpMethod ParamRoute Segment)

variable {N : Type}

/-! ### Requests -/

/-- A request, whether an agent is attached to it, and what `json` makes of its body. -/
structure VcRequest (N : Type) where
  method : HttpMethod
  path : Text
  agent : Bool
  body : Except JsError (Json N)

/-- What becomes of a request. -/
inductive Reply (N : Type)
  /-- No route of the router accepts it. -/
  | next
  /-- A parameter cannot be decoded. -/
  | malformed
  /-- The body cannot be read, or the validator refuses the request: `next(e)`. -/
  | failed (e : JsError)
  | answered (response : Response N)
  /-- The controller throws before it responds. -/
  | threw (e : JsError)

/-- What the validator makes of the body of a request. -/
abbrev Validator (N : Type) := HttpMethod → Text → Json N → Except JsError (Json N)

/-! ### Controllers without an implementation -/

/-- A controller that is not implemented. -/
def notImplemented (available : Bool) : Agent N (Response N) := do
  embed (HolderController.requireAgent available)
  .ret ⟨501, .error (some "Not implemented".toList)⟩

/-- `POST /credentials/derive` -/
def deriveCredential (available : Bool) : Agent N (Response N) := notImplemented available

/-- `DELETE /presentations/:id` -/
def deletePresentation (available : Bool) : Agent N (Response N) := notImplemented available

/-- `GET /exchanges` -/
def getExchanges (available : Bool) : Agent N (Response N) := notImplemented available

/-- `POST /exchanges/:exchangeId` -/
def initiateExchange (available : Bool) : Agent N (Response N) := notImplemented available

/-- `POST /exchanges/:exchangeId/:transactionId` -/
def receiveExchange (available : Bool) : Agent N (Response N) := notImplemented available

/-! ### Routes -/

/-- What handles the requests of a route: an endpoint, made of the first parameter and the body, or
a controller without `catch`. -/
inductive Handler (N : Type)
  | endpoint (of : Text → Json N → Endpoint N)
  | bare (controller : Bool → Agent N (Response N))

def vcRoutes : List (ParamRoute (Handler N)) :=
  [ -- holder
    ⟨.get, [.fixed "credentials".toList, .param], .endpoint fun id _ => .getCredential id⟩,
    ⟨.get, [.fixed "credentials".toList], .endpoint fun _ _ => .getCredentials⟩,
    ⟨.delete, [.fixed "credentials".toList, .param], .endpoint fun id _ => .deleteCredential id⟩,
    ⟨.post, [.fixed "credentials".toList, .fixed "derive".toList], .bare deriveCredential⟩,
    ⟨.get, [.fixed "presentations".toList, .param], .endpoint fun id _ => .getPresentation id⟩,
    ⟨.get, [.fixed "presentations".toList], .endpoint fun _ _ => .getPresentations⟩,
    ⟨.post, [.fixed "presentations".toList, .fixed "prove".toList],
      .endpoint fun _ body => .provePresentation body⟩,
    ⟨.delete, [.fixed "presentations".toList, .param], .bare deletePresentation⟩,
    ⟨.get, [.fixed "exchanges".toList], .bare getExchanges⟩,
    ⟨.post, [.fixed "exchanges".toList, .param], .bare initiateExchange⟩,
    ⟨.post, [.fixed "exchanges".toList, .param, .param], .bare receiveExchange⟩,
    -- issuer
    ⟨.post, [.fixed "credentials".toList, .fixed "issue".toList],
      .endpoint fun _ body => .issueCredential body⟩,
    ⟨.post, [.fixed "credentials".toList, .fixed "status".toList],
      .endpoint fun _ _ => .updateCredentialStatus⟩,
    -- verifier
    ⟨.post, [.fixed "credentials".toList, .fixed "verify".toList],
      .endpoint fun _ body => .verifyCredential body⟩,
    ⟨.post, [.fixed "presentations".toList, .fixed "verify".toList],
      .endpoint fun _ body => .verifyPresentation body⟩]

/-- Where a request goes. -/
inductive Routed (N : Type)
  | reply (reply : Reply N)
  | endpoint (ep : Endpoint N)
  | bare (controller : Bool → Agent N (Response N))

/-- The handler, on the parameters and the body. -/
def Handler.apply (id : Text) (body : Json N) : Handler N → Routed N
  | .endpoint of => .endpoint (of id body)
  | .bare controller => .bare controller

def routed (validate : Validator N) (req : VcRequest N) : Routed N :=
  match req.body with
  | .error e => .reply (.failed e)
  | .ok body =>
      match Express.dispatchParams req.method req.path vcRoutes with
      | .none => .reply .next
      | .malformed => .reply .malformed
      | .route handler params =>
          match validate req.method req.path body with
          | .error e => .reply (.failed e)
          | .ok body => handler.apply (params.headD []) body

/-- What is done for a request, wherever it goes. -/
def Routed.run [ObjectCreator.JsNumber N] (installed : Method → Bool) (available : Bool) :
    Routed N → Agent N (Reply N)
  | .reply r => .ret r
  | .endpoint ep => do
      let response ← ep.controller installed available
      .ret (.answered response)
  | .bare controller => Prog.tryCatch (do
      let response ← controller available
      .ret (.answered response)) fun e => .ret (.threw e)

def VCRouter [ObjectCreator.JsNumber N] (installed : Method → Bool) (validate : Validator N)
    (req : VcRequest N) : Agent N (Reply N) :=
  (routed validate req).run installed req.agent

/-- **The controllers without `catch` are those without an implementation.** -/
theorem eq_notImplemented {validate : Validator N} {req : VcRequest N}
    {controller : Bool → Agent N (Response N)} (h : routed validate req = .bare controller) :
    controller = notImplemented := by
  have hendpoint : ∀ (of : Text → Json N → Endpoint N) controller,
      Handler.endpoint of = .bare controller → controller = notImplemented := by
    rintro _ _ ⟨⟩
  have hbare : ∀ controller : Bool → Agent N (Response N),
      Handler.bare notImplemented = .bare controller → controller = notImplemented := by
    rintro _ ⟨⟩
    rfl
  have hall : ∀ handler ∈ vcRoutes.map (ParamRoute.handler (H := Handler N)), ∀ controller,
      handler = .bare controller → controller = notImplemented := by
    simp only [vcRoutes, List.map_cons, List.map_nil, List.forall_mem_cons]
    exact ⟨hendpoint _, hendpoint _, hendpoint _, hbare, hendpoint _, hendpoint _, hendpoint _,
      hbare, hbare, hbare, hbare, hendpoint _, hendpoint _, hendpoint _, hendpoint _,
      List.forall_mem_nil _⟩
  unfold routed at h
  cases hbody : req.body with
  | error e =>
      rw [hbody] at h
      cases h
  | ok body =>
      rw [hbody] at h
      dsimp only at h
      cases hroute : Express.dispatchParams req.method req.path (vcRoutes (N := N)) with
      | none =>
          rw [hroute] at h
          cases h
      | malformed =>
          rw [hroute] at h
          cases h
      | route handler params =>
          rw [hroute] at h
          dsimp only at h
          cases hvalid : validate req.method req.path body with
          | error e =>
              rw [hvalid] at h
              cases h
          | ok body' =>
              rw [hvalid] at h
              cases handler with
              | endpoint of => cases h
              | bare c =>
                  cases h
                  exact hall _ (Express.exists_of_dispatchParams hroute) _ rfl

/-! ### The path of a credential -/

/-- `/credentials/${encodeURIComponent(id)}` -/
def credentialPath (id : Text) : Text :=
  Url.joinSegments (["credentials".toList] ++ [Uri.encodeURIComponent id])

theorem matchPath_credentialPath (pattern : List Segment) {id : Text} (hid : id ≠ []) :
    Express.matchPath pattern (credentialPath id) =
      Express.matchSegments pattern ["credentials".toList, Uri.encodeURIComponent id] := by
  have hfirst : ∀ t ∈ ["credentials".toList], '/' ∉ t := by decide +kernel
  exact Express.matchPath_joinSegments hfirst (Uri.slash_not_mem_encodeURIComponent id)
    (Uri.encodeURIComponent_ne_nil hid)

theorem matchRoute_credentialPath {id : Text} (hid : id ≠ []) :
    Express.matchRoute [.fixed "credentials".toList, .param] (credentialPath id) =
      .params [id] := by
  have hmatch : Express.matchPath [.fixed "credentials".toList, .param] (credentialPath id) =
      some [Uri.encodeURIComponent id] := by
    rw [matchPath_credentialPath _ hid, Express.matchSegments, if_pos rfl, Express.matchSegments,
      if_neg (Uri.encodeURIComponent_ne_nil hid)]
    rfl
  rw [Express.matchRoute, hmatch]
  simp [Uri.decodeURIComponent_encodeURIComponent]

theorem matchRoute_credentials {id : Text} (hid : id ≠ []) :
    Express.matchRoute [.fixed "credentials".toList] (credentialPath id) = .no := by
  rw [Express.matchRoute, matchPath_credentialPath _ hid, Express.matchSegments, if_pos rfl]
  rfl

theorem routed_of_dispatch {validate : Validator N} {method : HttpMethod} {path : Text}
    {agent : Bool} {body body' : Json N} {handler : Handler N} {params : List Text}
    (hvalid : validate method path body = .ok body')
    (hroute : Express.dispatchParams method path vcRoutes = .route handler params) :
    routed validate ⟨method, path, agent, .ok body⟩ = handler.apply (params.headD []) body' := by
  rw [routed]
  dsimp only
  rw [hroute]
  dsimp only
  rw [hvalid]

/-- The routes for the path of a credential. -/
theorem dispatchParams_credentialPath {id : Text} (hid : id ≠ []) :
    Express.dispatchParams .get (credentialPath id) (vcRoutes (N := N)) =
        .route (.endpoint fun id _ => .getCredential id) [id] ∧
      Express.dispatchParams .delete (credentialPath id) (vcRoutes (N := N)) =
        .route (.endpoint fun id _ => .deleteCredential id) [id] := by
  have hmatch := matchRoute_credentialPath hid
  refine ⟨Express.dispatchParams_cons_params hmatch rfl, ?_⟩
  -- the routes for `GET` come first
  have htail : Express.dispatchParams .delete (credentialPath id) (vcRoutes (N := N)).tail =
      .route (.endpoint fun id _ => .deleteCredential id) [id] :=
    (Express.dispatchParams_cons_no (matchRoute_credentials hid)).trans
      (Express.dispatchParams_cons_params hmatch rfl)
  exact (Express.dispatchParams_cons_skip hmatch rfl).trans htail

/-- **The path of a credential leads to its id.** -/
theorem routed_credentialPath {validate : Validator N} {method : HttpMethod} {id : Text}
    {agent : Bool} {body body' : Json N} (hid : id ≠ [])
    (hvalid : validate method (credentialPath id) body = .ok body') :
    (method = .get → routed validate ⟨method, credentialPath id, agent, .ok body⟩ =
      .endpoint (.getCredential id)) ∧
    (method = .delete → routed validate ⟨method, credentialPath id, agent, .ok body⟩ =
      .endpoint (.deleteCredential id)) := by
  obtain ⟨hget, hdelete⟩ := dispatchParams_credentialPath (N := N) hid
  constructor
  · rintro rfl
    exact routed_of_dispatch hvalid hget
  · rintro rfl
    exact routed_of_dispatch hvalid hdelete

end VcApi
