/-
**The paths a middleware covers and the paths a route accepts.**

`revocationList2020Middleware` and `encryptedStoreMiddleware` are mounted before `AgentRouter` and
act on the requests whose path is one of their `apiRoutes`.  They compare the path with the entries
of that list, while the route of an exposed method ignores letter case and a slash at the end.  So a
request can reach a method under a spelling of its path that no middleware covers.

Main definitions:

* `RemoteServer.injectsStatus`, `RemoteServer.storesResponse` — when the middlewares act;
* `RemoteServer.Covered` — neither passes over a request because of its path.

Main results:

* `RemoteServer.covered_iff` — **every path that a method's route accepts is covered exactly when
  `apiRoutes` lists every spelling of the route's path**;
* `RemoteServer.executed_uncovered` — a request for an issued credential that is not covered.
-/

import Vckit.AgentRouter

set_option relaxedAutoImplicit false
set_option autoImplicit false

namespace RemoteServer

/-! ### When the middlewares act -/

/-- The test with which `revocationList2020Middleware` decides to write a status entry into a
credential; otherwise it calls `next`. -/
def injectsStatus (apiRoutes supportedProofFormats : List Text) (body : Bool)
    (proofFormat : Option Text) (path : Text) : Bool :=
  !(!body || !apiRoutes.contains path ||
    !(match proofFormat with
      | none => false
      | some proofFormat => supportedProofFormats.contains proofFormat))

/-- The test with which `encryptedStoreMiddleware` decides to store a response. -/
def storesResponse (apiRoutes : List Text) (statusCode : ℕ) (body path : Text) : Bool :=
  decide (statusCode = 200) && decide (body ≠ []) && apiRoutes.contains path

/-- Neither middleware passes over a request because of its path. -/
structure Covered (apiRoutes : List Text) (path : Text) : Prop where
  status : ∀ supportedProofFormats, ∀ proofFormat ∈ supportedProofFormats,
    injectsStatus apiRoutes supportedProofFormats true (some proofFormat) path = true
  stored : ∀ body ≠ [], storesResponse apiRoutes 200 body path = true

variable {apiRoutes : List Text} {exposedMethod path : Text}

theorem covered_iff_mem : Covered apiRoutes path ↔ path ∈ apiRoutes := by
  constructor
  · intro h
    have hstored := h.stored ['x'] (by simp)
    simpa [storesResponse] using hstored
  · intro h
    refine ⟨fun supportedProofFormats proofFormat hformat => ?_, fun body hbody => ?_⟩
    · simp [injectsStatus, h, hformat]
    · simp [storesResponse, h, hbody]

/-! ### What the route of a method accepts -/

theorem methodRoute_accepts_iff {method : Express.HttpMethod} :
    (methodRoute exposedMethod).accepts Express.defaultMatcher method path = true ↔
      method = .post ∧ path ∈ Express.spellings ('/' :: exposedMethod) := by
  rw [Express.Route.accepts, Bool.and_eq_true, decide_eq_true_eq, Express.mem_spellings_iff,
    eq_comm]
  exact Iff.rfl

/-- **The paths of a method are covered exactly when all their spellings are listed**: each
combination of letter cases, with and without a slash at the end. -/
theorem covered_iff (apiRoutes : List Text) (exposedMethod : Text) :
    (∀ method path,
      (methodRoute exposedMethod).accepts Express.defaultMatcher method path = true →
        Covered apiRoutes path) ↔
      ∀ path ∈ Express.spellings ('/' :: exposedMethod), path ∈ apiRoutes := by
  constructor
  · intro h path hpath
    exact covered_iff_mem.1 (h .post path (methodRoute_accepts_iff.2 ⟨rfl, hpath⟩))
  · intro h method path haccepts
    exact covered_iff_mem.2 (h path (methodRoute_accepts_iff.1 haccepts).2)

/-! ### The method that issues credentials -/

/-- The method that issues credentials. -/
def creationMethod : Text := "routeCreationVerifiableCredential".toList

/-- The routes of the default configuration. -/
def defaultApiRoutes : List Text := ['/' :: creationMethod]

/-- A request for that method with a slash at the end of its path. -/
def slashRequest : AgentRequest ℤ :=
  ⟨.post, '/' :: creationMethod ++ ['/'], true, .ok .null⟩

/-- **A request for an issued credential that is not covered**: the method is executed, and no
middleware has acted. -/
theorem executed_uncovered :
    '/' :: creationMethod ∈ defaultApiRoutes ∧
    (methodRoute creationMethod).accepts Express.defaultMatcher slashRequest.method
      slashRequest.path = true ∧
    (handle Express.defaultMatcher plainAgent ⟨[creationMethod]⟩ slashRequest).executed =
      some (creationMethod, .null) ∧
    ¬Covered defaultApiRoutes slashRequest.path := by
  have hdispatch : Express.dispatch Express.defaultMatcher (AgentRouter ⟨[creationMethod]⟩)
      slashRequest.method slashRequest.path = some creationMethod := by decide +kernel
  refine ⟨by decide, by decide +kernel, handle_executed_iff.2 ⟨rfl, rfl, hdispatch⟩, ?_⟩
  rw [covered_iff_mem]
  decide

end RemoteServer
