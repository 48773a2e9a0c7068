/-
**The agent endpoint of the server.**

The server mounts these routers under `/agent`, one behind the other: the check of the API key, the
middleware that writes status entries into credentials, the one that stores responses, and the
router of the agent's methods.  Each sees a request only if the one before lets it pass; the one
that stores responses passes every request on as it is and sees to the response afterwards, so it
has no part in what follows.  A request without the key reaches neither the tables of the plugin nor
the agent, and the agent gets what the middleware made of the body.

Main definitions:

* `RemoteServer.EndpointConfig`, `RemoteServer.EndpointRun` — the configuration, and what becomes of
  a request;
* `RemoteServer.agentEndpoint` — the routers;
* `RemoteServer.EndpointStep` — requests, and calls of the plugin between them.

Main results:

* `RemoteServer.agentEndpoint_cases` — what one request does;
* `RemoteServer.endpoint_safe` — **in every run** only requests with the key do anything, and the
  agent executes a covered request with an entry that no other request or call was given.
-/

import Vckit.ApiKeyAuth
import Vckit.StatusMiddleware

set_option relaxedAutoImplicit false
set_option autoImplicit false

namespace RemoteServer

open ObjectCreator (JsNumber field property)
open Revocation (AttemptEnv Called Carries Db MiddlewareArgs MiddlewareEvent MiddlewareRun
  MiddlewareStep MiddlewareUtils PluginOptions RegistryCall SamePath VcStatusRl2020 covers
  revocationList2020Middleware)

variable {N : Type} [JsNumber N]

/-! ### The routers -/

/-- How the endpoint is set up: how its routes are matched, the router that checks the key and the
process it is in, and the arguments of the others. -/
structure EndpointConfig (N : Type) where
  accepts : Express.Matcher
  process : Process
  auth : AuthRouter
  middleware : MiddlewareArgs
  router : AgentRouterOptions
  utils : MiddlewareUtils N

/-- What becomes of a request: what the middleware did with it, if it got there, what the agent
executed, and how it ended. -/
structure EndpointRun (N : Type) where
  passed : Option (MiddlewareRun N)
  executed : Option (Text × Json N)
  outcome : Outcome N

/-- The answer of `passport` to a request that is not authenticated: the status and its text. -/
def unauthorized : Response N := ⟨401, .str "Unauthorized".toList⟩

/-- The routers under `/agent`. -/
def agentEndpoint (config : EndpointConfig N) (lib : VcStatusRl2020) (options : PluginOptions)
    (envs : ℕ → AttemptEnv) (agent : Agent N) (token : Text) (req : AgentRequest N) (db : Db) :
    EndpointRun N × Db :=
  match authenticate config.process config.auth token with
  | .fail => (⟨none, none, .responded unauthorized⟩, db)
  | .error e => (⟨none, none, .failed e⟩, db)
  | .success =>
      let passed := revocationList2020Middleware lib options config.utils config.middleware envs
        req db
      match passed.1.forwarded with
      | .failed e => (⟨some passed.1, none, .failed e⟩, passed.2)
      | .responded response => (⟨some passed.1, none, .responded response⟩, passed.2)
      | .next req' =>
          let handled := handle config.accepts agent config.router req'
          (⟨some passed.1, handled.executed, handled.outcome⟩, passed.2)

/-! ### One request -/

section Request

variable (config : EndpointConfig N) (lib : VcStatusRl2020) (options : PluginOptions)
  (envs : ℕ → AttemptEnv) (agent : Agent N) (token : Text) (req : AgentRequest N) (db : Db)

/-- **What one request does**: nothing, if it is not authenticated; else it goes through the
middleware, and what passes is executed with the body that the middleware made. -/
theorem agentEndpoint_cases :
    (authenticate config.process config.auth token ≠ .success ∧
      ∃ outcome, agentEndpoint config lib options envs agent token req db =
        (⟨none, none, outcome⟩, db)) ∨
    (authenticate config.process config.auth token = .success ∧
      ∃ passed db' executed outcome,
        revocationList2020Middleware lib options config.utils config.middleware envs req db =
          (passed, db') ∧
        agentEndpoint config lib options envs agent token req db =
          (⟨some passed, executed, outcome⟩, db') ∧
        ∀ method body, executed = some (method, body) → ∃ req', passed.forwarded = .next req' ∧
          (handle config.accepts agent config.router req').executed = some (method, body)) := by
  unfold agentEndpoint
  cases hauth : authenticate config.process config.auth token with
  | fail => exact Or.inl ⟨by rintro ⟨⟩, _, rfl⟩
  | error e => exact Or.inl ⟨by rintro ⟨⟩, _, rfl⟩
  | success =>
      obtain ⟨passed, db', hpassed⟩ : ∃ passed db', revocationList2020Middleware lib options
          config.utils config.middleware envs req db = (passed, db') := ⟨_, _, rfl⟩
      refine Or.inr ⟨rfl, passed, db', ?_⟩
      rw [hpassed]
      dsimp only
      cases hforwarded : passed.forwarded with
      | failed e => exact ⟨none, .failed e, rfl, rfl, by rintro _ _ ⟨⟩⟩
      | responded response => exact ⟨none, .responded response, rfl, rfl, by rintro _ _ ⟨⟩⟩
      | next req' => exact ⟨_, _, rfl, rfl, fun method body h => ⟨req', rfl, h⟩⟩

end Request

/-! ### Runs -/

/-- A request to the endpoint, or another call of the plugin. -/
inductive EndpointEvent (N : Type) where
  | request (token : Text) (req : AgentRequest N) (run : EndpointRun N)
  | called (call : RegistryCall)

/-- One of them, with the tables after it.  The agent answers each request as it likes. -/
inductive EndpointStep (config : EndpointConfig N) (lib : VcStatusRl2020) (path : Text)
    (managed : Text → Prop) : Db → EndpointEvent N → Db → Prop
  | request {db db' : Db} {n : ℕ} {envs : ℕ → AttemptEnv} {agent : Agent N} {token : Text}
      {req : AgentRequest N} {run : EndpointRun N} (henvs : ∀ k, (envs k).env.Lawful)
      (hmanaged : ∀ did k i, (envs k).env.didManagerGet did = .ok i → managed did)
      (h : agentEndpoint config lib ⟨path, n⟩ envs agent token req db = (run, db')) :
      EndpointStep config lib path managed db (.request token req run) db'
  | called {db db' : Db} {call : RegistryCall} (h : Called lib path managed db call db') :
      EndpointStep config lib path managed db (.called call) db'

/-- What the middleware sees of an event. -/
def middlewareOf : EndpointEvent N → Option (MiddlewareEvent N)
  | .request _ req run => run.passed.map fun passed => .passed req passed
  | .called call => some (.called call)

/-- The entry that an event hands out. -/
def allocated (event : EndpointEvent N) : Option Revocation.RevocationDataResult :=
  (middlewareOf event).bind Revocation.allocated

variable {config : EndpointConfig N} {lib : VcStatusRl2020} {path : Text} {managed : Text → Prop}
  {db db' : Db} {token : Text} {req : AgentRequest N} {run : EndpointRun N}

/-- What a request of a run does. -/
theorem EndpointStep.request_cases
    (h : EndpointStep config lib path managed db (.request token req run) db') :
    (authenticate config.process config.auth token ≠ .success ∧ run.passed = none ∧
      run.executed = none ∧ db' = db) ∨
    (authenticate config.process config.auth token = .success ∧ ∃ passed,
      run.passed = some passed ∧
      MiddlewareStep lib path managed config.utils config.middleware db (.passed req passed) db' ∧
      ∀ method body, run.executed = some (method, body) → ∃ agent req',
        passed.forwarded = .next req' ∧
        (handle config.accepts agent config.router req').executed = some (method, body)) := by
  cases h with
  | @request _ n envs agent _ _ _ henvs hmanaged h =>
      rcases agentEndpoint_cases config lib ⟨path, n⟩ envs agent token req db with
        ⟨hauth, outcome, hcase⟩ | ⟨hauth, passed, db₁, executed, outcome, hmiddleware, hcase, hexec⟩
      · rw [h] at hcase
        obtain ⟨rfl, rfl⟩ := Prod.mk.inj hcase
        exact Or.inl ⟨hauth, rfl, rfl, rfl⟩
      · rw [h] at hcase
        obtain ⟨rfl, rfl⟩ := Prod.mk.inj hcase
        exact Or.inr ⟨hauth, passed, rfl, .passed henvs hmanaged hmiddleware,
          fun method body hexecuted => ⟨agent, hexec method body hexecuted⟩⟩

/-- Requests go through the middleware, or do nothing. -/
theorem endpoint_forward :
    Simulation.Forward (EndpointStep config lib path managed)
      (MiddlewareStep lib path managed config.utils config.middleware) middlewareOf Eq := by
  constructor
  · rintro db _ event db' rfl hstep hnone
    cases event with
    | request token req run =>
        rcases hstep.request_cases with ⟨-, -, -, hdb⟩ | ⟨-, passed, hpassed, -, -⟩
        · exact hdb
        · rw [middlewareOf, hpassed] at hnone
          cases hnone
    | called call => cases hnone
  · rintro db _ event db' event' rfl hstep hevent
    refine ⟨db', ?_, rfl⟩
    cases event with
    | request token req run =>
        rcases hstep.request_cases with ⟨-, hnone, -, -⟩ | ⟨-, passed, hpassed, hmiddleware, -⟩
        · rw [middlewareOf, hnone] at hevent
          cases hevent
        · rw [middlewareOf, hpassed] at hevent
          obtain rfl := Option.some.inj hevent
          exact hmiddleware
    | called call =>
        cases hstep with
        | called h =>
            obtain rfl := Option.some.inj hevent
            exact .called h

omit [JsNumber N] in
/-- The entries of the events are those of the middleware. -/
theorem filterMap_allocated (trace : List (EndpointEvent N)) :
    trace.filterMap allocated =
      (trace.filterMap middlewareOf).filterMap Revocation.allocated := by
  rw [List.filterMap_filterMap]
  rfl

/-- **The agent endpoint in every run** of issuers with different paths, for a key that is not
empty: only requests with the key that was registered last are executed, and the others leave the
tables alone; no entry is handed out twice; what is executed for a covered request with a credential
carries the entry handed out for it, and for any request that is not covered it is the body that was
sent. -/
theorem endpoint_safe {events : List Event} {apiKey : Text} (hprocess : config.process =
      RemoteServer.run events) (hauth : config.auth ∈ (RemoteServer.run events).routers)
    (hlast : (constructedKeys events).getLast? = some apiKey) (hkey : apiKey ≠ [])
    (hlib : lib.Lawful) (hpad : lib.ZeroPadded)
    (hsep : ∀ did did', managed did → managed did' → did ≠ did' → ¬SamePath did did')
    {trace : List (EndpointEvent N)}
    (hrun : Simulation.Run (EndpointStep config lib path managed) Db.empty trace db) :
    (trace.filterMap allocated).Nodup ∧
    ∀ token req run, .request token req run ∈ trace →
      (token ≠ apiKey → run.executed = none ∧ allocated (.request token req run) = none ∧
        ∀ {db db'}, EndpointStep config lib path managed db (.request token req run) db' →
          db' = db) ∧
      ∀ method body, run.executed = some (method, body) → ∃ sent, req.body = .ok sent ∧
        if covers config.middleware req.path sent then
          ∀ fields, field "credential".toList (some sent) = some (.obj fields) →
            ∃ result, allocated (.request token req run) = some result ∧
              Carries config.utils body result
        else body = sent := by
  have hauthenticate : ∀ {token}, authenticate config.process config.auth token = .success →
      token = apiKey := by
    intro token h
    rw [hprocess, authenticate_run hauth hlast, Strategy.verify] at h
    split_ifs at h with hnil hverify
    simpa [hkey, eq_comm] using hverify
  obtain ⟨_, hmiddleware, rfl⟩ := endpoint_forward.run rfl hrun
  refine ⟨?_, ?_⟩
  · rw [filterMap_allocated]
    exact Revocation.allocated_nodup hlib hpad hsep hmiddleware
  intro token req run hmem
  refine ⟨?_, ?_⟩
  · intro hne
    have hstopped : ∀ {db db'}, EndpointStep config lib path managed db (.request token req run)
        db' → run.passed = none ∧ run.executed = none ∧ db' = db := by
      intro db db' hstep
      rcases hstep.request_cases with ⟨-, hpassed, hexecuted, hdb⟩ | ⟨hsuccess, -⟩
      · exact ⟨hpassed, hexecuted, hdb⟩
      · exact absurd (hauthenticate hsuccess) hne
    obtain ⟨_, _, hstep⟩ := hrun.exists_step hmem
    obtain ⟨hpassed, hexecuted, -⟩ := hstopped hstep
    refine ⟨hexecuted, ?_, fun h => (hstopped h).2.2⟩
    rw [allocated, middlewareOf, hpassed]
    rfl
  · intro method body hexecuted
    obtain ⟨_, _, hstep⟩ := hrun.exists_step hmem
    rcases hstep.request_cases with ⟨-, -, hnone, -⟩ | ⟨-, passed, hpassed, hpass, hexec⟩
    · rw [hnone] at hexecuted
      cases hexecuted
    · obtain ⟨agent, req', hnext, hhandled⟩ := hexec method body hexecuted
      have hbody' := (handle_executed_iff.1 hhandled).1
      have hevent : middlewareOf (.request token req run) = some (.passed req passed) := by
        rw [middlewareOf, hpassed]
        rfl
      obtain ⟨sent, hsent⟩ : ∃ sent, req.body = .ok sent := by
        rcases hpass.passed_cases with ⟨-, -, hcase, -⟩ | ⟨sent, _, _, hsent, -⟩
        · obtain ⟨-, sent, hsent, -⟩ := hcase req' hnext
          exact ⟨sent, hsent⟩
        · exact ⟨sent, hsent⟩
      refine ⟨sent, hsent, ?_⟩
      split_ifs with hcovers
      · intro fields hfields
        obtain ⟨result, body'', hresult, rfl, hcarry⟩ :=
          hpass.carries hnext hsent hcovers hfields
        obtain rfl := Except.ok.inj hbody'
        exact ⟨result, by rw [allocated, hevent]; exact hresult, hcarry⟩
      · have hnot : ∀ body, req.body = .ok body →
            covers config.middleware req.path body = false := by
          intro body₁ hbody₁
          obtain rfl := Except.ok.inj (hsent.symm.trans hbody₁)
          simpa using hcovers
        obtain rfl := (hpass.untouched hnot).2.1 req' hnext
        exact Except.ok.inj (hbody'.symm.trans hsent)

/-! ### A request with the key, and one without -/

/-- The key of the endpoint. -/
def endpointKey : Text := "kh14g04piduv".toList

/-- An endpoint that exposes the method that issues credentials. -/
def endpointConfig : EndpointConfig ℤ where
  accepts := Express.defaultMatcher
  process := RemoteServer.run [.construct endpointKey]
  auth := ⟨bearer⟩
  middleware := Revocation.plainMiddlewareArgs
  router := ⟨[creationMethod]⟩
  utils := Revocation.plainUtils

/-- A request to issue a credential, with some token. -/
def endpointRequest (token : Text) (db : Db) : EndpointRun ℤ × Db :=
  agentEndpoint endpointConfig Revocation.plainLib Revocation.plainOptions Revocation.readEnvs
    plainAgent token Revocation.plainRequest db

/-- The request is executed with the key, with an entry in its credential, and not without it. -/
theorem endpoint_safe_plain :
    (endpointRequest "x".toList (endpointRequest endpointKey Db.empty).2).1.executed = none ∧
    ∃ body result,
      (endpointRequest endpointKey Db.empty).1.executed = some (creationMethod, body) ∧
        Carries Revocation.plainUtils body result := by
  have hmanaged : ∀ did k i, (Revocation.readEnvs k).env.didManagerGet did = .ok i →
      Revocation.twoIssuers did := by
    intro did k i h
    change (if did ∈ [Revocation.plainDid, Revocation.otherDid] then _ else _) = _ at h
    split_ifs at h with hmem
    simpa [Revocation.twoIssuers] using hmem
  have hstep : ∀ token db, EndpointStep endpointConfig Revocation.plainLib Revocation.plainPath
      Revocation.twoIssuers db (.request token Revocation.plainRequest (endpointRequest token db).1)
      (endpointRequest token db).2 :=
    fun token db => .request Revocation.readEnvs_lawful hmanaged (n := 2) rfl
  have hrun := (Simulation.Run.nil.cons (hstep endpointKey Db.empty)).cons (hstep "x".toList _)
  have hlast : (constructedKeys [.construct endpointKey]).getLast? = some endpointKey := rfl
  have hsafe := (endpoint_safe rfl (List.mem_singleton.2 rfl) hlast (by decide)
    Revocation.plainLib_lawful Revocation.plainLib_zeroPadded Revocation.twoIssuers_separate hrun).2
  obtain ⟨body, hexecuted⟩ : ∃ body, (endpointRequest endpointKey Db.empty).1.executed =
      some (creationMethod, body) := ⟨_, rfl⟩
  have hcovers : covers endpointConfig.middleware Revocation.plainRequest.path
      Revocation.plainBody = true := by decide +kernel
  refine ⟨((hsafe _ _ _ List.mem_cons_self).1 (by decide)).1, body, ?_⟩
  obtain ⟨sent, hsent, hif⟩ := (hsafe _ _ _
    (List.mem_cons_of_mem _ List.mem_cons_self)).2 creationMethod body hexecuted
  obtain rfl := Except.ok.inj hsent
  rw [if_pos hcovers] at hif
  obtain ⟨result, -, hcarry⟩ := hif Revocation.plainFields rfl
  exact ⟨result, hexecuted, hcarry⟩

end RemoteServer
