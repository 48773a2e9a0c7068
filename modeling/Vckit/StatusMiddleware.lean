/-
**The middleware that writes status entries into credentials.**

`revocationList2020Middleware` stands before the router of the agent.  On the paths and proof
formats that it is configured for, it asks the plugin for an entry of the credential's issuer,
writes the entry and the context that goes with it into the credential, and lets the request pass;
other requests pass as they are.  When anything throws, it answers with the error and the request
does not pass, although an entry may have been handed out.

The body of a request is JSON.  A property that is set on an array is no part of it.

Main definitions:

* `Revocation.MiddlewareUtils`, `Revocation.MiddlewareArgs` — helpers of other packages, and the
  configuration;
* `Revocation.updatedBody` — the body with the entry in it;
* `Revocation.revocationList2020Middleware` — the middleware, on the tables;
* `Revocation.MiddlewareStep` — requests, and other calls of the plugin between them.

Main results:

* `Revocation.updatedBody_ok` — **what is written into a body**, and that nothing else changes;
* `Revocation.MiddlewareStep.passed_cases` — what a request does;
* `Revocation.requests_carry_own_entries` — **no two requests carry one entry**, in any run.
-/

import Vckit.ApiRoutes
import Vckit.ObjectInstance
import Vckit.RegistryRuns

set_option relaxedAutoImplicit false
set_option autoImplicit false

namespace Revocation

open ObjectCreator (JsNumber property field isTruthy property_setField_self
  property_setField_of_ne)
open RemoteServer (AgentRequest Response injectsStatus)

variable {N : Type}

/-! ### The code -/

/-- The helpers that the middleware takes from other packages, and numbers. -/
structure MiddlewareUtils (N : Type) where
  extractIssuer : Option (Json N) → Text
  asArray : Option (Json N) → List (Json N)
  ofNat : ℕ → N

/-- The arguments of `revocationList2020Middleware`. -/
structure MiddlewareArgs where
  apiRoutes : List Text
  supportedProofFormats : List Text

/-- `VC_REVOCATION_LIST_2020` -/
def vcRevocationList2020 : Text := "https://w3id.org/vc-revocation-list-2020/v1".toList

/-- `context === VC_REVOCATION_LIST_2020` -/
def isRevocationContext : Json N → Bool
  | .str context => decide (context = vcRevocationList2020)
  | _ => false

/-- The contexts of a credential, with the one of revocation lists among them. -/
def withRevocationContext (contexts : List (Json N)) : List (Json N) :=
  if contexts.any isRevocationContext then contexts else contexts ++ [.str vcRevocationList2020]

/-- The `credentialStatus` that is written. -/
def statusJson (utils : MiddlewareUtils N) (revocationData : RevocationDataResult) : Json N :=
  .obj [("id".toList, .str revocationData.revocationListFullUrl),
    ("type".toList, .str "RevocationList2020Status".toList),
    ("revocationListIndex".toList, .num (utils.ofNat revocationData.indexCounter)),
    ("revocationListCredential".toList, .str revocationData.revocationListFullUrl)]

/-- The error of a property that is read of `undefined` or `null`. -/
def cannotRead (value name : Text) : JsError :=
  ⟨"TypeError".toList, "Cannot read properties of ".toList ++ value ++ " (reading '".toList ++
    name ++ "')".toList⟩

/-- The error of a property that is created on a value that is no object. -/
def cannotCreate (kind value : Text) : JsError :=
  ⟨"TypeError".toList, "Cannot create property '@context' on ".toList ++ kind ++ " '".toList ++
    value ++ "'".toList⟩

/-- `req.body.credential['@context'] = …`, both assignments. -/
def setContext [JsNumber N] (utils : MiddlewareUtils N) :
    Option (Json N) → Except JsError (Json N)
  | none => .error (cannotRead "undefined".toList "@context".toList)
  | some .null => .error (cannotRead "null".toList "@context".toList)
  | some (.bool b) =>
      .error (cannotCreate "boolean".toList (if b then "true".toList else "false".toList))
  | some (.num n) => .error (cannotCreate "number".toList (JsNumber.toText n))
  | some (.str s) => .error (cannotCreate "string".toList s)
  | some (.arr items) => .ok (.arr items)
  | some (.obj fields) =>
      .ok (.obj (Json.setField "@context".toList
        (.arr (withRevocationContext (utils.asArray (property "@context".toList fields)))) fields))

/-- The assignment of a property; a value that is no object has none. -/
def setProperty (name : Text) (value : Json N) : Json N → Json N
  | .obj fields => .obj (Json.setField name value fields)
  | json => json

/-- The body after the entry is written into it. -/
def updatedBody [JsNumber N] (utils : MiddlewareUtils N)
    (revocationData : Option RevocationDataResult) (body : Json N) : Except JsError (Json N) := do
  let credential ← setContext utils (field "credential".toList (some body))
  match revocationData with
  | none => .error (cannotRead "undefined".toList "revocationListFullUrl".toList)
  | some result =>
      return setProperty "credential".toList
        (setProperty "credentialStatus".toList (statusJson utils result) credential) body

/-- What becomes of a request in the middleware. -/
inductive Forwarded (N : Type) where
  | next (req : AgentRequest N)
  /-- A parser of the body passes an error on. -/
  | failed (e : JsError)
  | responded (response : Response N)

/-- A request that went through the middleware: the call that was made for it, and what became of
it. -/
structure MiddlewareRun (N : Type) where
  allocation : Option (Text × Except JsError (Option RevocationDataResult))
  forwarded : Forwarded N

/-- `res.status(500).json({ error: err.message })` -/
def internalError (e : JsError) : Response N := ⟨500, .obj [("error".toList, .str e.message)]⟩

/-- A text, if it is one. -/
def textOf : Option (Json N) → Option Text
  | some (.str s) => some s
  | _ => none

/-- The middleware writes an entry into the credential of this body. -/
def covers [JsNumber N] (args : MiddlewareArgs) (path : Text) (body : Json N) : Bool :=
  injectsStatus args.apiRoutes args.supportedProofFormats (isTruthy body)
    (textOf (field "proofFormat".toList (some body))) path

/-- What becomes of a covered request once the call of the plugin has ended. -/
def forward [JsNumber N] (utils : MiddlewareUtils N) (req : AgentRequest N) (body : Json N) :
    Except JsError (Option RevocationDataResult) → Forwarded N
  | .error e => .responded (internalError e)
  | .ok revocationData =>
      match updatedBody utils revocationData body with
      | .error e => .responded (internalError e)
      | .ok body' => .next { req with body := .ok body' }

/-- `revocationList2020Middleware(args)`, on the tables of the plugin. -/
def revocationList2020Middleware [JsNumber N] (lib : VcStatusRl2020) (options : PluginOptions)
    (utils : MiddlewareUtils N) (args : MiddlewareArgs) (envs : ℕ → AttemptEnv)
    (req : AgentRequest N) (db : Db) : MiddlewareRun N × Db :=
  match req.body with
  | .error e => (⟨none, .failed e⟩, db)
  | .ok body =>
      if req.agent = false then
        (⟨none, .responded (internalError (JsError.ofMessage "Agent not available".toList))⟩, db)
      else if covers args req.path body = false then (⟨none, .next req⟩, db)
      else
        let revocationVCIssuer := utils.extractIssuer (field "credential".toList (some body))
        let called := getRevocationData lib options revocationVCIssuer ⟨true⟩ envs db
        (⟨some (revocationVCIssuer, called.1), forward utils req body called.1⟩, called.2)

/-! ### What is written -/

section Written

variable {utils : MiddlewareUtils N} {body body' : Json N}

/-- A body whose credential carries an entry. -/
def Carries (utils : MiddlewareUtils N) (body : Json N) (result : RevocationDataResult) : Prop :=
  ∃ credential, field "credential".toList (some body) = some (.obj credential) ∧
    property "credentialStatus".toList credential = some (statusJson utils result) ∧
    ∃ contexts, property "@context".toList credential = some (.arr contexts) ∧
      .str vcRevocationList2020 ∈ contexts

theorem mem_withRevocationContext (contexts : List (Json N)) :
    .str vcRevocationList2020 ∈ withRevocationContext contexts := by
  rw [withRevocationContext]
  split_ifs with hany
  · obtain ⟨context, hmem, hcontext⟩ := List.any_eq_true.1 hany
    cases context with
    | str s =>
        rw [isRevocationContext, decide_eq_true_eq] at hcontext
        rwa [← hcontext]
    | _ => cases hcontext
  · exact List.mem_append_right _ List.mem_cons_self

/-- Only an object has fields. -/
theorem field_eq_some {name : Text} {json value : Json N}
    (h : field name (some json) = some value) :
    ∃ fields, json = .obj fields ∧ property name fields = some value := by
  cases json with
  | obj fields => exact ⟨fields, rfl, h⟩
  | _ => cases h

variable [JsNumber N]

/-- **What is written into the body of a request whose credential is an object**: the entry, the
context of revocation lists, and nothing else. -/
theorem updatedBody_ok {revocationData : Option RevocationDataResult}
    (h : updatedBody utils revocationData body = .ok body') {fields : List (Text × Json N)}
    (hcredential : field "credential".toList (some body) = some (.obj fields)) :
    ∃ result, revocationData = some result ∧ Carries utils body' result ∧
      (∀ name, name ≠ "credential".toList →
        field name (some body') = field name (some body)) ∧
      ∀ name, name ≠ "@context".toList → name ≠ "credentialStatus".toList →
        field name (field "credential".toList (some body')) = property name fields := by
  have hnames : "@context".toList ≠ "credentialStatus".toList := by decide
  obtain ⟨bodyFields, rfl, hproperty⟩ := field_eq_some hcredential
  rw [updatedBody, hcredential] at h
  cases revocationData with
  | none => cases h
  | some result =>
      cases h
      refine ⟨result, rfl, ⟨_, property_setField_self _ _ _, property_setField_self _ _ _, _,
        (property_setField_of_ne hnames _ _).trans (property_setField_self _ _ _),
        mem_withRevocationContext _⟩, ?_, ?_⟩
      · intro name hname
        exact property_setField_of_ne hname _ _
      · intro name hcontext hstatus
        have hself : field "credential".toList (some (setProperty "credential".toList
            (setProperty "credentialStatus".toList (statusJson utils result)
              (.obj (Json.setField "@context".toList (.arr (withRevocationContext
                (utils.asArray (property "@context".toList fields)))) fields)))
            (.obj bodyFields))) = some (.obj (Json.setField "credentialStatus".toList
              (statusJson utils result) (Json.setField "@context".toList
                (.arr (withRevocationContext
                  (utils.asArray (property "@context".toList fields)))) fields))) :=
          property_setField_self _ _ _
        refine (congrArg (field name) hself).trans ?_
        exact (property_setField_of_ne hstatus _ _).trans (property_setField_of_ne hcontext _ _)

/-- Nothing is written without an entry. -/
theorem exists_result_of_updatedBody {revocationData : Option RevocationDataResult}
    (h : updatedBody utils revocationData body = .ok body') :
    ∃ result, revocationData = some result := by
  cases revocationData with
  | some result => exact ⟨result, rfl⟩
  | none =>
      rw [updatedBody] at h
      cases hcontext : setContext utils (field "credential".toList (some body)) with
      | error e =>
          rw [hcontext] at h
          cases h
      | ok credential =>
          rw [hcontext] at h
          cases h

end Written

/-! ### One request -/

section Passed

variable [JsNumber N] (lib : VcStatusRl2020) (options : PluginOptions) (utils : MiddlewareUtils N)
  (args : MiddlewareArgs) (envs : ℕ → AttemptEnv) (req : AgentRequest N) (db : Db)

/-- **What the middleware does with a request**: it makes no call, and lets the request pass, as it
is, only if it does not cover it and, with an agent and a body that parses, if it does not; or it
covers the request, and makes one call. -/
theorem middleware_cases :
    (∃ forwarded,
      revocationList2020Middleware lib options utils args envs req db = (⟨none, forwarded⟩, db) ∧
      (∀ req', forwarded = .next req' → req' = req ∧
        ∃ body, req.body = .ok body ∧ covers args req.path body = false) ∧
      ∀ body, req.body = .ok body → req.agent = true → forwarded = .next req) ∨
    ∃ body did out db', req.body = .ok body ∧ covers args req.path body = true ∧
      getRevocationData lib options did ⟨true⟩ envs db = (out, db') ∧
      revocationList2020Middleware lib options utils args envs req db =
        (⟨some (did, out), forward utils req body out⟩, db') := by
  unfold revocationList2020Middleware
  cases hbody : req.body with
  | error e => exact Or.inl ⟨_, rfl, fun _ h => (by cases h), fun _ h => (by cases h)⟩
  | ok body =>
      dsimp only
      split_ifs with hagent hcovers
      · refine Or.inl ⟨_, rfl, fun _ h => (by cases h), ?_⟩
        intro _ _ hpresent
        rw [hagent] at hpresent
        cases hpresent
      · refine Or.inl ⟨_, rfl, ?_, fun _ _ _ => rfl⟩
        intro req' h
        cases h
        exact ⟨rfl, body, rfl, hcovers⟩
      · exact Or.inr ⟨body, _, _, _, rfl, by simpa using hcovers, rfl, rfl⟩

/-- A covered request that passes carries the entry that was handed out for it. -/
theorem forward_eq_next {utils : MiddlewareUtils N} {req req' : AgentRequest N} {body : Json N}
    {out : Except JsError (Option RevocationDataResult)}
    (h : forward utils req body out = .next req') :
    ∃ result body', out = .ok (some result) ∧ updatedBody utils (some result) body = .ok body' ∧
      req' = { req with body := .ok body' } := by
  cases out with
  | error e => cases h
  | ok revocationData =>
      rw [forward] at h
      cases hbody : updatedBody utils revocationData body with
      | error e =>
          rw [hbody] at h
          cases h
      | ok body' =>
          rw [hbody] at h
          obtain ⟨result, rfl⟩ := exists_result_of_updatedBody hbody
          exact ⟨result, body', rfl, hbody, (Forwarded.next.inj h).symm⟩

end Passed

/-! ### Runs -/

/-- A request that went through the middleware, or another call of the plugin. -/
inductive MiddlewareEvent (N : Type) where
  | passed (req : AgentRequest N) (run : MiddlewareRun N)
  | called (call : RegistryCall)

/-- One of them, with the tables after it. -/
inductive MiddlewareStep [JsNumber N] (lib : VcStatusRl2020) (path : Text) (managed : Text → Prop)
    (utils : MiddlewareUtils N) (args : MiddlewareArgs) : Db → MiddlewareEvent N → Db → Prop
  | passed {db db' : Db} {n : ℕ} {envs : ℕ → AttemptEnv} {req : AgentRequest N}
      {run : MiddlewareRun N} (henvs : ∀ k, (envs k).env.Lawful)
      (hmanaged : ∀ did k i, (envs k).env.didManagerGet did = .ok i → managed did)
      (h : revocationList2020Middleware lib ⟨path, n⟩ utils args envs req db = (run, db')) :
      MiddlewareStep lib path managed utils args db (.passed req run) db'
  | called {db db' : Db} {call : RegistryCall} (h : Called lib path managed db call db') :
      MiddlewareStep lib path managed utils args db (.called call) db'

/-- The call of the plugin that an event makes. -/
def callOf : MiddlewareEvent N → Option RegistryCall
  | .passed _ run => run.allocation.map fun call => .getRevocationData call.1 call.2
  | .called call => some call

/-- The entry that an event hands out, be it written into a credential or lost. -/
def allocated (event : MiddlewareEvent N) : Option RevocationDataResult :=
  match callOf event with
  | some (.getRevocationData _ (.ok result)) => result
  | _ => none

section Runs

variable [JsNumber N] {lib : VcStatusRl2020} {path : Text} {managed : Text → Prop}
  {utils : MiddlewareUtils N} {args : MiddlewareArgs} {db : Db} {trace : List (MiddlewareEvent N)}

/-- **What a request does**: no call, and it passes, as it is, only if it is not covered; or one
call. -/
theorem MiddlewareStep.passed_cases {req : AgentRequest N} {run : MiddlewareRun N} {db' : Db}
    (h : MiddlewareStep lib path managed utils args db (.passed req run) db') :
    (run.allocation = none ∧ db' = db ∧
      (∀ req', run.forwarded = .next req' → req' = req ∧
        ∃ body, req.body = .ok body ∧ covers args req.path body = false) ∧
      ∀ body, req.body = .ok body → req.agent = true → run.forwarded = .next req) ∨
    ∃ body did out, req.body = .ok body ∧ covers args req.path body = true ∧
      Called lib path managed db (.getRevocationData did out) db' ∧
      run = ⟨some (did, out), forward utils req body out⟩ := by
  cases h with
  | @passed _ n envs _ _ henvs hmanaged h =>
      rcases middleware_cases lib ⟨path, n⟩ utils args envs req db with
        ⟨forwarded, hcase, hpass, hnext⟩ | ⟨body, did, out, db₁, hbody, hcovers, hget, hcase⟩
      · rw [h] at hcase
        obtain ⟨rfl, rfl⟩ := Prod.mk.inj hcase
        exact Or.inl ⟨rfl, rfl, hpass, hnext⟩
      · rw [h] at hcase
        obtain ⟨rfl, rfl⟩ := Prod.mk.inj hcase
        exact Or.inr ⟨body, did, out, hbody, hcovers,
          .getRevocationData henvs (hmanaged did) hget, rfl⟩

/-- Requests are calls of the plugin, or nothing. -/
theorem middleware_forward :
    Simulation.Forward (MiddlewareStep lib path managed utils args) (Called lib path managed)
      callOf Eq := by
  constructor
  · rintro db _ event db' rfl hstep hnone
    cases event with
    | passed req run =>
        rcases hstep.passed_cases with ⟨-, hdb, -⟩ | ⟨_, _, _, -, -, -, rfl⟩
        · exact hdb
        · cases hnone
    | called call => cases hnone
  · rintro db _ event db' call rfl hstep hcall
    refine ⟨db', ?_, rfl⟩
    cases event with
    | passed req run =>
        rcases hstep.passed_cases with ⟨hnone, -, -⟩ | ⟨_, _, _, -, -, hcalled, rfl⟩
        · rw [callOf, hnone] at hcall
          cases hcall
        · obtain rfl := Option.some.inj hcall
          exact hcalled
    | called call' =>
        cases hstep with
        | called h =>
            obtain rfl := Option.some.inj hcall
            exact h

omit [JsNumber N] in
/-- The entries handed out are the ones of the registry. -/
theorem map_entryPosition_allocated (trace : List (MiddlewareEvent N)) :
    (trace.filterMap allocated).map (entryPosition path) =
      StatusRegistry.handed ((trace.filterMap callOf).filterMap (seen path)) := by
  induction trace with
  | nil => rfl
  | cons event trace ih =>
      cases hcall : callOf event with
      | none =>
          have hnone : allocated event = none := by rw [allocated, hcall]
          rw [List.filterMap_cons_none hnone, List.filterMap_cons_none hcall, ih]
      | some call =>
          rw [List.filterMap_cons_some hcall]
          rcases call with ⟨did, _ | _ | result⟩ | ⟨credential, revoked, _ | _ | _⟩
          case getRevocationData.ok.some =>
              have hsome : allocated event = some result := by rw [allocated, hcall]
              rw [List.filterMap_cons_some hsome, List.map_cons, ih]
              rfl
          case setStatus.ok.some =>
              have hnone : allocated event = none := by rw [allocated, hcall]
              rw [List.filterMap_cons_none hnone, ih]
              cases hposition : statusPosition path credential with
              | none => simp [seen, hposition]
              | some position => simp [seen, hposition]
          all_goals
              have hnone : allocated event = none := by rw [allocated, hcall]
              rw [List.filterMap_cons_none hnone, ih]
              rfl

/-- No entry is handed out twice in a run. -/
theorem allocated_nodup (hlib : lib.Lawful) (hpad : lib.ZeroPadded)
    (hsep : ∀ did did', managed did → managed did' → did ≠ did' → ¬SamePath did did')
    (hrun : Simulation.Run (MiddlewareStep lib path managed utils args) Db.empty trace db) :
    (trace.filterMap allocated).Nodup := by
  obtain ⟨_, hcalls, rfl⟩ := middleware_forward.run rfl hrun
  have hnodup := handed_nodup_of_run hsep hlib hpad hcalls
  rw [← map_entryPosition_allocated] at hnodup
  exact hnodup.of_map _

/-- A covered request that passes carries the entry that was handed out for it. -/
theorem MiddlewareStep.carries {db' : Db} {req req' : AgentRequest N} {run : MiddlewareRun N}
    {body : Json N} {fields : List (Text × Json N)}
    (h : MiddlewareStep lib path managed utils args db (.passed req run) db')
    (hnext : run.forwarded = .next req') (hbody : req.body = .ok body)
    (hcovers : covers args req.path body = true)
    (hcredential : field "credential".toList (some body) = some (.obj fields)) :
    ∃ result body', allocated (.passed req run) = some result ∧
      req' = { req with body := .ok body' } ∧ Carries utils body' result := by
  rcases h.passed_cases with ⟨-, -, hpass, -⟩ | ⟨body₁, did, out, hbody₁, -, -, rfl⟩
  · obtain ⟨-, body₁, hbody₁, hnot⟩ := hpass req' hnext
    obtain rfl := Except.ok.inj (hbody.symm.trans hbody₁)
    rw [hcovers] at hnot
    cases hnot
  · obtain rfl := Except.ok.inj (hbody.symm.trans hbody₁)
    obtain ⟨result, body', rfl, hupdated, rfl⟩ := forward_eq_next hnext
    obtain ⟨result', hresult, hcarries, -, -⟩ := updatedBody_ok hupdated hcredential
    obtain rfl := Option.some.inj hresult
    exact ⟨result, body', rfl, rfl, hcarries⟩

/-- A request that is not covered makes no call; with an agent and a body that parses it passes, and
as it is. -/
theorem MiddlewareStep.untouched {db' : Db} {req : AgentRequest N} {run : MiddlewareRun N}
    (h : MiddlewareStep lib path managed utils args db (.passed req run) db')
    (hnot : ∀ body, req.body = .ok body → covers args req.path body = false) :
    run.allocation = none ∧ (∀ req', run.forwarded = .next req' → req' = req) ∧
      ∀ body, req.body = .ok body → req.agent = true → run.forwarded = .next req := by
  rcases h.passed_cases with ⟨hnone, -, hpass, hnext⟩ | ⟨body, did, out, hbody, hcovers, -, -⟩
  · exact ⟨hnone, fun req' hreq' => (hpass req' hreq').1, hnext⟩
  · rw [hnot body hbody] at hcovers
    cases hcovers

/-- **No entry is handed out twice**, to requests or to other calls, in any run of issuers with
different paths; a covered request with a credential that passes carries the entry that was handed
out for it; and a request that is not covered makes no call and is not changed: with an agent and a
body that parses it passes. -/
theorem requests_carry_own_entries (hlib : lib.Lawful) (hpad : lib.ZeroPadded)
    (hsep : ∀ did did', managed did → managed did' → did ≠ did' → ¬SamePath did did')
    (hrun : Simulation.Run (MiddlewareStep lib path managed utils args) Db.empty trace db) :
    (trace.filterMap allocated).Nodup ∧
    (∀ req run req' body fields, .passed req run ∈ trace → run.forwarded = .next req' →
      req.body = .ok body → covers args req.path body = true →
      field "credential".toList (some body) = some (.obj fields) →
      ∃ result body', allocated (.passed req run) = some result ∧
        req' = { req with body := .ok body' } ∧ Carries utils body' result) ∧
    (∀ req run, .passed req run ∈ trace →
      (∀ body, req.body = .ok body → covers args req.path body = false) →
      run.allocation = none ∧ (∀ req', run.forwarded = .next req' → req' = req) ∧
        ∀ body, req.body = .ok body → req.agent = true → run.forwarded = .next req) := by
  refine ⟨allocated_nodup hlib hpad hsep hrun, ?_, ?_⟩
  · intro req run req' body fields hmem hnext hbody hcovers hcredential
    obtain ⟨_, _, hstep⟩ := hrun.exists_step hmem
    exact hstep.carries hnext hbody hcovers hcredential
  · intro req run hmem hnot
    obtain ⟨_, _, hstep⟩ := hrun.exists_step hmem
    exact hstep.untouched hnot

end Runs

/-! ### Two requests -/

/-- Helpers that find the issuer as a text and take over lists. -/
def plainUtils : MiddlewareUtils ℤ where
  extractIssuer credential := (textOf (field "issuer".toList credential)).getD []
  asArray
    | some (.arr contexts) => contexts
    | some context => [context]
    | none => []
  ofNat n := n

/-- The configuration of the default server. -/
def plainMiddlewareArgs : MiddlewareArgs :=
  ⟨RemoteServer.defaultApiRoutes, ["jwt".toList, "lds".toList]⟩

/-- The fields of a credential of `plainDid`. -/
def plainFields : List (Text × Json ℤ) := [("issuer".toList, .str plainDid)]

/-- The body of a request to issue it. -/
def plainBody : Json ℤ :=
  .obj [("credential".toList, .obj plainFields), ("proofFormat".toList, .str "jwt".toList)]

/-- That request. -/
def plainRequest : AgentRequest ℤ :=
  ⟨.post, '/' :: RemoteServer.creationMethod, true, .ok plainBody⟩

/-- A request that is not covered. -/
def otherRequest : AgentRequest ℤ := ⟨.post, "/resolveDid".toList, true, .ok (.obj [])⟩

/-- A request in the middleware. -/
def plainPassed (req : AgentRequest ℤ) (db : Db) : MiddlewareRun ℤ × Db :=
  revocationList2020Middleware plainLib plainOptions plainUtils plainMiddlewareArgs readEnvs req db

/-- The tables after the first request. -/
def passedOnce : Db := (plainPassed plainRequest Db.empty).2

/-- The same request twice, another one between: the two copies carry different entries, and the
other request passes as it is. -/
theorem requests_carry_own_entries_plain :
    (∃ result result' req req' body body',
      (plainPassed plainRequest Db.empty).1.forwarded = .next req ∧ req.body = .ok body ∧
      (plainPassed plainRequest (plainPassed otherRequest passedOnce).2).1.forwarded = .next req' ∧
      req'.body = .ok body' ∧ Carries plainUtils body result ∧ Carries plainUtils body' result' ∧
      result ≠ result') ∧
    (plainPassed otherRequest passedOnce).1.forwarded = .next otherRequest := by
  have hmanaged : ∀ did k i, (readEnvs k).env.didManagerGet did = .ok i → twoIssuers did := by
    intro did k i h
    change (if did ∈ [plainDid, otherDid] then _ else _) = _ at h
    split_ifs at h with hmem
    · simpa [twoIssuers] using hmem
  have hstep : ∀ req db, MiddlewareStep plainLib plainPath twoIssuers plainUtils
      plainMiddlewareArgs db (.passed req (plainPassed req db).1) (plainPassed req db).2 :=
    fun req db => .passed readEnvs_lawful hmanaged (n := 2) rfl
  have hrun := ((Simulation.Run.nil.cons (hstep plainRequest Db.empty)).cons
    (hstep otherRequest passedOnce)).cons (hstep plainRequest _)
  obtain ⟨hnodup, hcarries, huncovered⟩ := requests_carry_own_entries plainLib_lawful
    plainLib_zeroPadded twoIssuers_separate hrun
  have hcovers : covers plainMiddlewareArgs plainRequest.path plainBody = true := by decide +kernel
  have hnot : covers plainMiddlewareArgs otherRequest.path (Json.obj [] : Json ℤ) = false := by
    decide +kernel
  obtain ⟨body, hnext⟩ : ∃ body, (plainPassed plainRequest Db.empty).1.forwarded =
      .next { plainRequest with body := .ok body } := ⟨_, rfl⟩
  obtain ⟨body', hnext'⟩ : ∃ body',
      (plainPassed plainRequest (plainPassed otherRequest passedOnce).2).1.forwarded =
        .next { plainRequest with body := .ok body' } := ⟨_, rfl⟩
  obtain ⟨result, _, hresult, hbody, hcarry⟩ := hcarries _ _ _ plainBody plainFields
    (List.mem_cons_of_mem _ (List.mem_cons_of_mem _ List.mem_cons_self)) hnext rfl hcovers rfl
  obtain ⟨result', _, hresult', hbody', hcarry'⟩ := hcarries _ _ _ plainBody plainFields
    List.mem_cons_self hnext' rfl hcovers rfl
  obtain ⟨hnone, -, hpasses⟩ := huncovered otherRequest _
    (List.mem_cons_of_mem _ List.mem_cons_self) (by rintro _ ⟨⟩; exact hnot)
  refine ⟨⟨result, result', _, _, _, _, hnext, rfl, hnext', rfl, ?_, ?_, ?_⟩, hpasses _ rfl rfl⟩
  · have hsame := congrArg AgentRequest.body hbody
    rwa [Except.ok.inj hsame]
  · have hsame := congrArg AgentRequest.body hbody'
    rwa [Except.ok.inj hsame]
  · rintro rfl
    have hother : allocated (.passed otherRequest (plainPassed otherRequest passedOnce).1) =
        none := by
      rw [allocated, callOf, hnone]
      rfl
    rw [List.filterMap_cons_some hresult', List.filterMap_cons_none hother,
      List.filterMap_cons_some hresult] at hnodup
    simp at hnodup

end Revocation
