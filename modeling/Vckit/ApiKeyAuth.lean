/-
**Routers that check an API key.**

`apiKeyAuth` registers a strategy that compares tokens with its key in the registry of the process,
under the name that every such strategy has, and returns a router that authenticates with the
strategy of that name.  The registry keeps one strategy for a name and is read when a request
arrives.  So all routers of a process compare with the key that was registered last.

Main definitions:

* `RemoteServer.Strategy`, `RemoteServer.Process` — a registered strategy, and the state of a
  process;
* `RemoteServer.apiKeyAuth`, `RemoteServer.authenticate` — the construction of a router, and a
  request to one;
* `RemoteServer.run` — the process after constructions and requests in any order.

Main results:

* `RemoteServer.strategy_run` — the registry holds the key of the latest construction;
* `RemoteServer.authenticate_run` — what a router lets through;
* `RemoteServer.letsThroughOwn_iff` — **a router lets through the token that is its key, and no
  other, exactly when its key is the one that was registered last**.
-/

import Vckit.Text
import Mathlib.Logic.Function.Basic

set_option relaxedAutoImplicit false
set_option autoImplicit false

namespace RemoteServer

/-! ### Strategies -/

/-- A `Bearer.Strategy` that closes over the key of its `apiKeyAuth`. -/
structure Strategy where
  apiKey : Text
  deriving DecidableEq

/-- The name under which every `Bearer.Strategy` is registered. -/
def bearer : Text := "bearer".toList

/-- The callback of the strategy: an empty key lets everybody through. -/
def Strategy.verify (strategy : Strategy) (token : Text) : Bool :=
  decide (strategy.apiKey = []) || decide (strategy.apiKey = token)

/-- A router that authenticates with the strategy of a name. -/
structure AuthRouter where
  strategyName : Text
  deriving DecidableEq

/-- The registry of the process, and the routers that were constructed, oldest first. -/
structure Process where
  strategies : Text → Option Strategy
  routers : List AuthRouter

/-- A process in which nothing is registered. -/
def Process.start : Process := ⟨fun _ => none, []⟩

/-- `passport.use(strategy)` for a strategy of this name. -/
def Process.use (process : Process) (name : Text) (strategy : Strategy) : Process :=
  { process with strategies := Function.update process.strategies name (some strategy) }

/-- `apiKeyAuth({ apiKey })`. -/
def apiKeyAuth (apiKey : Text) (process : Process) : AuthRouter × Process :=
  let router : AuthRouter := ⟨bearer⟩
  let process := process.use bearer ⟨apiKey⟩
  (router, { process with routers := process.routers ++ [router] })

/-- How authentication ends. -/
inductive AuthOutcome where
  | success
  | fail
  | error (e : JsError)
  deriving DecidableEq

/-- `passport.authenticate(name)` for a request with a token; the empty token is none. -/
def authenticate (process : Process) (router : AuthRouter) (token : Text) : AuthOutcome :=
  match process.strategies router.strategyName with
  | none =>
      .error (JsError.ofMessage
        ("Unknown authentication strategy \"".toList ++ router.strategyName ++ "\"".toList))
  | some strategy =>
      if token = [] then .fail else if strategy.verify token then .success else .fail

/-! ### Runs -/

/-- What happens in a process. -/
inductive Event where
  | construct (apiKey : Text)
  | request (router : ℕ) (token : Text)

/-- A construction changes the process; a request does not. -/
def step (process : Process) : Event → Process
  | .construct apiKey => (apiKeyAuth apiKey process).2
  | .request _ _ => process

/-- The process after these events. -/
def run (events : List Event) : Process := events.foldl step Process.start

/-- The keys of the constructions, oldest first. -/
def constructedKeys (events : List Event) : List Text :=
  events.filterMap fun
    | .construct apiKey => some apiKey
    | .request _ _ => none

/-- **The registry holds the key of the latest construction**, and every construction has returned
a router for the one name. -/
theorem strategy_run (events : List Event) :
    (run events).strategies bearer = (constructedKeys events).getLast?.map Strategy.mk ∧
      (run events).routers = (constructedKeys events).map fun _ => ⟨bearer⟩ := by
  induction events using List.reverseRecOn with
  | nil => exact ⟨rfl, rfl⟩
  | append_singleton events event ih =>
      have hrun : run (events ++ [event]) = step (run events) event := by
        rw [run, List.foldl_append]
        rfl
      rw [hrun, constructedKeys, List.filterMap_append, ← constructedKeys]
      cases event with
      | construct apiKey =>
          refine ⟨?_, ?_⟩
          · simp [step, apiKeyAuth, Process.use]
          · simp [step, apiKeyAuth, Process.use, ih.2]
      | request router token => simpa [step] using ih

/-- What the router of a construction answers. -/
theorem authenticate_run {events : List Event} {router : AuthRouter} {apiKey : Text}
    (hrouter : router ∈ (run events).routers)
    (hlast : (constructedKeys events).getLast? = some apiKey) (token : Text) :
    authenticate (run events) router token =
      if token = [] then .fail else if Strategy.verify ⟨apiKey⟩ token then .success else .fail := by
  obtain ⟨hstrategy, hrouters⟩ := strategy_run events
  rw [hrouters, List.mem_map] at hrouter
  obtain ⟨-, -, rfl⟩ := hrouter
  rw [authenticate, hstrategy, hlast]
  rfl

/-! ### Own keys -/

/-- Router number `i` lets a request through exactly when its token is `apiKey`. -/
def LetsThroughOwn (process : Process) (i : ℕ) (apiKey : Text) : Prop :=
  ∃ router, process.routers[i]? = some router ∧
    ∀ token, authenticate process router token = .success ↔ token = apiKey

/-- **A router accepts its own key, and no other token, exactly when its key is the one of the
latest construction**, at every moment of every run. -/
theorem letsThroughOwn_iff {events : List Event} {i : ℕ} {apiKey : Text}
    (hkeys : ∀ key ∈ constructedKeys events, key ≠ [])
    (hi : (constructedKeys events)[i]? = some apiKey) :
    LetsThroughOwn (run events) i apiKey ↔ (constructedKeys events).getLast? = some apiKey := by
  have hrouter : (run events).routers[i]? = some ⟨bearer⟩ := by
    rw [(strategy_run events).2, List.getElem?_map, hi]
    rfl
  -- there is a latest construction, since construction number `i` is one
  obtain ⟨last, hlast⟩ : ∃ last, (constructedKeys events).getLast? = some last := by
    cases hnil : (constructedKeys events).getLast? with
    | some last => exact ⟨last, rfl⟩
    | none =>
        rw [List.getLast?_eq_none_iff] at hnil
        rw [hnil] at hi
        cases hi
  have hne : last ≠ [] := hkeys last (List.mem_of_getLast? hlast)
  have hauthenticate : ∀ token,
      authenticate (run events) ⟨bearer⟩ token = .success ↔ token = last := by
    intro token
    rw [authenticate_run (List.mem_of_getElem? hrouter) hlast, Strategy.verify]
    by_cases htoken : token = []
    · rw [if_pos htoken]
      exact iff_of_false (by rintro ⟨⟩) (by rw [htoken]; exact Ne.symm hne)
    · rw [if_neg htoken]
      simp [hne, eq_comm]
  rw [hlast]
  constructor
  · rintro ⟨router, hget, hown⟩
    rw [hrouter] at hget
    obtain rfl := Option.some.inj hget
    exact congrArg some ((hown last).1 ((hauthenticate last).2 rfl))
  · intro h
    obtain rfl := Option.some.inj h
    exact ⟨⟨bearer⟩, hrouter, hauthenticate⟩

/-! ### Two keys -/

/-- Two routers with different keys, and a request between the constructions. -/
def twoKeys : List Event :=
  [.construct "a".toList, .request 0 "a".toList, .construct "b".toList]

/-- The router that was constructed last accepts its own key. -/
theorem letsThroughOwn_last : LetsThroughOwn (run twoKeys) 1 "b".toList :=
  (letsThroughOwn_iff (by decide) rfl).2 rfl

/-- **A router that accepts the key of another one, and refuses its own.** -/
theorem authenticate_twoKeys :
    (run twoKeys).routers[0]? = some ⟨bearer⟩ ∧
    authenticate (run twoKeys) ⟨bearer⟩ "b".toList = .success ∧
    authenticate (run twoKeys) ⟨bearer⟩ "a".toList = .fail ∧
    ¬LetsThroughOwn (run twoKeys) 0 "a".toList := by
  refine ⟨rfl, by decide, by decide, ?_⟩
  rintro ⟨router, hrouter, hown⟩
  obtain rfl := Option.some.inj hrouter
  exact absurd ((hown "a".toList).2 rfl) (by decide)

end RemoteServer
