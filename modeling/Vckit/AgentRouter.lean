/-
**The router that exposes the methods of the agent.**

`AgentRouter` registers routes in two loops over the exposed methods.  The second one registers a
route for each method; the first one registers, once for each method, a route for
`/credentials/issue` that executes `createVerifiableCredentialOA`, exposed or not.

Main definitions:

* `RemoteServer.AgentRequest`, `RemoteServer.Handled` — a request, and what becomes of it;
* `RemoteServer.AgentRouter` — the routes;
* `RemoteServer.handle` — how the router handles a request.

Main results:

* `RemoteServer.executed_agentRouter` — what a request can execute: an exposed method, or the method
  of the first loop;
* `RemoteServer.executesExposed_iff` — **the lists for which only exposed methods are executed**;
* `RemoteServer.agentRouter_hidden` — a request that executes a method that is not exposed.
-/

import Vckit.Express
import Vckit.Json

set_option relaxedAutoImplicit false
set_option autoImplicit false

namespace RemoteServer

variable {N : Type}

/-! ### Requests and responses -/

/-- A request, with the agent that an earlier middleware may have attached to it, and its body as
`json()` reads it. -/
structure AgentRequest (N : Type) where
  method : Express.HttpMethod
  path : Text
  agent : Bool
  body : Except JsError (Json N)

/-- The fields of an error of the agent that are sent back. -/
structure AgentError (N : Type) where
  name : Text
  message : Text
  method : Option (Json N)
  path : Option (Json N)
  code : Option (Json N)
  description : Option (Json N)

/-- `res.status(status).json(body)`. -/
structure Response (N : Type) where
  status : ℕ
  body : Json N

/-- How a request ends in a router. -/
inductive Outcome (N : Type) where
  /-- No route accepts it. -/
  | next
  /-- A middleware passes an error on. -/
  | failed (e : JsError)
  /-- The handler throws before it responds. -/
  | threw (e : JsError)
  | responded (response : Response N)

/-- What becomes of a request: the call of `agent.execute` it leads to, if any, and how it ends. -/
structure Handled (N : Type) where
  executed : Option (Text × Json N)
  outcome : Outcome N

/-- The agent: the result of `execute`. -/
abbrev Agent (N : Type) := Text → Json N → Except (AgentError N) (Json N)

/-- A field of `res.json`; `undefined` is left out. -/
def optionalField (key : Text) : Option (Json N) → List (Text × Json N)
  | none => []
  | some value => [(key, value)]

/-- The `catch` of a handler. -/
def errorResponse (e : AgentError N) : Response N :=
  if e.name = "ValidationError".toList then
    { status := 400
      body := .obj
        ([("name".toList, .str "ValidationError".toList), ("message".toList, .str e.message)] ++
          optionalField "method".toList e.method ++ optionalField "path".toList e.path ++
          optionalField "code".toList e.code ++
          optionalField "description".toList e.description) }
  else
    { status := 500
      body := .obj [("error".toList, .str e.message)] }

/-- The handler of a route that executes `method`. -/
def executeHandler (agent : Agent N) (method : Text) (available : Bool) (body : Json N) :
    Handled N :=
  if available = false then
    ⟨none, .threw (JsError.ofMessage "Agent not available".toList)⟩
  else
    { executed := some (method, body)
      outcome := .responded
        (match agent method body with
          | .ok result => ⟨200, result⟩
          | .error e => errorResponse e) }

/-! ### The router -/

/-- The options of the router. -/
structure AgentRouterOptions where
  exposedMethods : List Text

/-- The path that the first loop registers. -/
def issuePath : Text := "/credentials/issue".toList

/-- The method that its handler executes. -/
def issueMethod : Text := "createVerifiableCredentialOA".toList

/-- A route of the first loop; the handler is the method it executes. -/
def issueRoute : Express.Route Text := ⟨.post, issuePath, issueMethod⟩

/-- A route of the second loop. -/
def methodRoute (exposedMethod : Text) : Express.Route Text :=
  ⟨.post, '/' :: exposedMethod, exposedMethod⟩

/-- The routes of `AgentRouter(options)`. -/
def AgentRouter (options : AgentRouterOptions) : List (Express.Route Text) :=
  options.exposedMethods.map (fun _ => issueRoute) ++ options.exposedMethods.map methodRoute

/-- The router handles a request: `json()` comes first, then the first route that accepts it. -/
def handle (accepts : Express.Matcher) (agent : Agent N) (options : AgentRouterOptions)
    (req : AgentRequest N) : Handled N :=
  match req.body with
  | .error e => ⟨none, .failed e⟩
  | .ok body =>
      match Express.dispatch accepts (AgentRouter options) req.method req.path with
      | none => ⟨none, .next⟩
      | some method => executeHandler agent method req.agent body

/-! ### What is executed -/

variable {accepts : Express.Matcher} {agent : Agent N} {options : AgentRouterOptions}
  {req : AgentRequest N} {method : Text} {body : Json N}

theorem mem_agentRouter_iff {route : Express.Route Text} :
    route ∈ AgentRouter options ↔
      (options.exposedMethods ≠ [] ∧ route = issueRoute) ∨
        ∃ exposedMethod ∈ options.exposedMethods, route = methodRoute exposedMethod := by
  rw [AgentRouter, List.mem_append, List.mem_map, List.mem_map]
  constructor
  · rintro (⟨exposedMethod, hmem, rfl⟩ | ⟨exposedMethod, hmem, rfl⟩)
    · exact Or.inl ⟨List.ne_nil_of_mem hmem, rfl⟩
    · exact Or.inr ⟨exposedMethod, hmem, rfl⟩
  · rintro (⟨hne, rfl⟩ | ⟨exposedMethod, hmem, rfl⟩)
    · obtain ⟨exposedMethod, hmem⟩ := List.exists_mem_of_ne_nil _ hne
      exact Or.inl ⟨exposedMethod, hmem, rfl⟩
    · exact Or.inr ⟨exposedMethod, hmem, rfl⟩

/-- A call of the agent is made by the route that handles the request, with its body. -/
theorem handle_executed_iff :
    (handle accepts agent options req).executed = some (method, body) ↔
      req.body = .ok body ∧ req.agent = true ∧
        Express.dispatch accepts (AgentRouter options) req.method req.path = some method := by
  rw [handle]
  cases hbody : req.body with
  | error e => simp
  | ok body' =>
      dsimp only
      cases hdispatch : Express.dispatch accepts (AgentRouter options) req.method req.path with
      | none => simp
      | some method' =>
          dsimp only
          rw [executeHandler]
          cases hagent : req.agent with
          | false => simp
          | true =>
              simp only [Bool.true_eq_false, if_false, Option.some.injEq, Prod.mk.injEq,
                Except.ok.injEq, true_and]
              exact and_comm

/-- **What a request can execute**: an exposed method, or `createVerifiableCredentialOA` for a
`POST` on the path of the first loop. -/
theorem executed_agentRouter
    (h : (handle accepts agent options req).executed = some (method, body)) :
    method ∈ options.exposedMethods ∨
      (method = issueMethod ∧ options.exposedMethods ≠ [] ∧ req.method = .post ∧
        accepts issuePath req.path = true) := by
  obtain ⟨-, -, hdispatch⟩ := handle_executed_iff.1 h
  obtain ⟨route, hmem, haccepts, rfl⟩ := Express.dispatch_eq_some hdispatch
  rcases mem_agentRouter_iff.1 hmem with ⟨hne, rfl⟩ | ⟨exposedMethod, hexposed, rfl⟩
  · rw [Express.Route.accepts, Bool.and_eq_true, decide_eq_true_eq] at haccepts
    exact Or.inr ⟨rfl, hne, haccepts.1.symm, haccepts.2⟩
  · exact Or.inl hexposed

/-- Only exposed methods are executed, whatever is requested. -/
def ExecutesExposed (accepts : Express.Matcher) (agent : Agent N) (options : AgentRouterOptions) :
    Prop :=
  ∀ (req : AgentRequest N) (method : Text) (body : Json N),
    (handle accepts agent options req).executed = some (method, body) →
      method ∈ options.exposedMethods

/-- The first route that is registered handles every request it accepts. -/
theorem dispatch_issuePath (hne : options.exposedMethods ≠ [])
    (hself : accepts issuePath issuePath = true) :
    Express.dispatch accepts (AgentRouter options) .post issuePath = some issueMethod := by
  obtain ⟨exposedMethod, exposedMethods, hexposed⟩ := List.exists_cons_of_ne_nil hne
  have hroute : issueRoute.accepts accepts .post issuePath = true := by
    rw [Express.Route.accepts, Bool.and_eq_true, decide_eq_true_eq]
    exact ⟨rfl, hself⟩
  rw [Express.dispatch, AgentRouter, hexposed, List.map_cons, List.cons_append,
    List.find?_cons_of_pos
      (p := fun route => Express.Route.accepts accepts route .post issuePath) hroute]
  rfl

/-- **The lists for which only exposed methods are executed**: the empty one, and those with the
method of the first loop. -/
theorem executesExposed_iff (hself : accepts issuePath issuePath = true) :
    ExecutesExposed accepts agent options ↔
      options.exposedMethods = [] ∨ issueMethod ∈ options.exposedMethods := by
  constructor
  · intro h
    by_cases hnil : options.exposedMethods = []
    · exact Or.inl hnil
    · refine Or.inr (h ⟨.post, issuePath, true, .ok .null⟩ issueMethod .null ?_)
      exact handle_executed_iff.2 ⟨rfl, rfl, dispatch_issuePath hnil hself⟩
  · intro h req method body hexecuted
    rcases executed_agentRouter hexecuted with hmem | ⟨rfl, hne, -, -⟩
    · exact hmem
    · exact h.resolve_left hne

/-! ### A method that is not exposed -/

/-- An agent whose methods return their argument. -/
def plainAgent : Agent ℤ := fun _ body => .ok body

/-- A router that exposes `resolveDid`. -/
def plainOptions : AgentRouterOptions := ⟨["resolveDid".toList]⟩

/-- A request that issues a credential. -/
def issueRequest : AgentRequest ℤ := ⟨.post, issuePath, true, .ok .null⟩

/-- A router that exposes the method of the first loop as well. -/
def issuingOptions : AgentRouterOptions := ⟨["resolveDid".toList, issueMethod]⟩

/-- With the first list a method is executed that it does not hold, with the second one none. -/
theorem executesExposed_iff_plain :
    ¬ExecutesExposed Express.defaultMatcher plainAgent plainOptions ∧
      ExecutesExposed Express.defaultMatcher plainAgent issuingOptions := by
  have hself : Express.defaultMatcher issuePath issuePath = true := by decide +kernel
  have hplain : ¬(plainOptions.exposedMethods = [] ∨
      issueMethod ∈ plainOptions.exposedMethods) := by
    decide +kernel
  have hissuing : issueMethod ∈ issuingOptions.exposedMethods := by decide +kernel
  exact ⟨fun h => hplain ((executesExposed_iff hself).1 h),
    (executesExposed_iff hself).2 (Or.inr hissuing)⟩

/-- **A request that executes a method that is not exposed.** -/
theorem agentRouter_hidden :
    issueMethod ∉ plainOptions.exposedMethods ∧
    (handle Express.defaultMatcher plainAgent plainOptions issueRequest).executed =
      some (issueMethod, .null) := by
  have hdispatch : Express.dispatch Express.defaultMatcher (AgentRouter plainOptions) .post
      issuePath = some issueMethod := by decide +kernel
  exact ⟨by decide, handle_executed_iff.2 ⟨rfl, rfl, hdispatch⟩⟩

end RemoteServer
