/-
**What a call of `createObjects` returns.**

Without the cache, the result holds at every requested key the value of the requested pointer.  When
the requested and the referenced pointers do not overlap, the cache changes nothing of this, and
every one of them is evaluated once; the value at a key then depends neither on the other keys nor
on their order.

The cache is found by path, in a tree that is built as the pointers are evaluated.  When a pointer
below another is evaluated first, the object that is made on the way to it is found at the other,
and returned as if it were complete.

Main definitions:

* `ObjectCreator.resultOf` — the object with a value for every requested key.

Main results:

* `ObjectCreator.createObjects_cached` — **the cache is transparent**, and every requested or
  referenced pointer is evaluated once;
* `ObjectCreator.createObjects_get_eq` — **the value at a key does not depend on the other
  requests**;
* `ObjectCreator.objectFromPointer_above` — **above a pointer that was set nothing is evaluated**;
* `ObjectCreator.createObjects_partial` — after a request below it, an object is returned in part.
-/

import Vckit.CachedObjects
import Vckit.ObjectInstance

set_option relaxedAutoImplicit false
set_option autoImplicit false

namespace ObjectCreator

variable {N E S : Type}

/-! ### Results -/

/-- The object in which every requested key is assigned a value. -/
def resultOf (requests : List (Text × Text)) (values : List (Value N E)) : JsObject (Value N E) :=
  (requests.zip values).foldl (fun result a => result.assign a.1.1 a.2) {}

/-- What is read at a key to which a value was assigned, and nothing before. -/
def readBack (key : Text) (v : Value N E) : Option (Value N E) :=
  if key = "__proto__".toList ∧ v.isPrototype = false then none else some v

/-- Later assignments are to other keys. -/
theorem get_foldl_assign_of_not_mem {key : Text} {requests : List (Text × Text)}
    (h : key ∉ requests.map Prod.fst) (values : List (Value N E)) (o : JsObject (Value N E)) :
    ((requests.zip values).foldl (fun result a => result.assign a.1.1 a.2) o).get key =
      o.get key := by
  induction requests generalizing values o with
  | nil => rfl
  | cons request requests ih =>
      cases values with
      | nil => rfl
      | cons v values =>
          rw [List.map_cons, List.mem_cons, not_or] at h
          rw [List.zip_cons_cons, List.foldl_cons, ih h.2, JsObject.get_assign_of_ne _ h.1]

variable [JsNumber N]

section Results

variable {host : Host N} {modules : Modules N E} {config : Json N} {fuel : ℕ}
  {pointers : List (Text × Text)}

/-- The loop assigns the value of every requested pointer. -/
theorem uncached_createFrom_ok {start result : JsObject (Value N E)}
    (h : uncached modules (createFrom host config fuel pointers start) = .ok result) :
    ∃ values, List.Forall₂ (fun request v =>
        uncached modules (objectFromPointer host config fuel (.str request.2)) = .ok v)
        pointers values ∧
      result = (pointers.zip values).foldl (fun result a => result.assign a.1.1 a.2) start := by
  induction pointers generalizing start with
  | nil => exact ⟨[], .nil, (Except.ok.inj h).symm⟩
  | cons request pointers ih =>
      rw [createFrom, uncached_bind] at h
      cases hv : uncached modules (objectFromPointer host config fuel (.str request.2)) with
      | error e =>
          rw [hv] at h
          cases h
      | ok v =>
          rw [hv] at h
          obtain ⟨values, hvalues, hresult⟩ := ih h
          exact ⟨v :: values, .cons hv hvalues, hresult⟩

theorem uncached_createObjects_ok {result : JsObject (Value N E)}
    (h : uncached modules (createObjects host config fuel pointers) = .ok result) :
    ∃ values, List.Forall₂ (fun request v =>
        uncached modules (objectFromPointer host config fuel (.str request.2)) = .ok v)
        pointers values ∧ result = resultOf pointers values := by
  rw [createObjects] at h
  split_ifs at h with hhidden
  · cases h
  · exact uncached_createFrom_ok h

end Results

/-! ### The cache -/

section Cache

variable {host : Host N} {modules : Modules N E} {store : ObjectStore S N E} {config : Json N}
  {pointers : List (Text × Text)}

/-- **The cache is transparent.**  When no reached pointer is the root or a proper prefix of
another, none refers back to itself and their values are truthy, a call ends with the outcome of the
evaluators without the cache; a result holds at every requested key the value that these compute,
and every requested or referenced pointer was evaluated once. -/
theorem createObjects_cached (hhost : host.LawfulOn config (Reached host config pointers))
    (hlens : store.Lens .undefined (Reached host config pointers))
    (hpaths : PointerStore.Incomparable (Reached host config pointers))
    (hacyclic : ∀ p ∈ Reached host config pointers,
      ¬Relation.TransGen (Refers host config) p p)
    (htruthy : ValuesTruthy host modules config pointers) :
    ∃ bound, ∀ fuel ≥ bound, ∃ outcome objects evaluated,
      (createObjects host config fuel pointers).run (serve store.recorded modules)
          store.recorded.empty = (outcome, objects, evaluated) ∧
        outcome = uncached modules (createObjects host config fuel pointers) ∧
        outcome ≠ .error .outOfFuel ∧
        ∀ result, outcome = .ok result →
          (∃ values, List.Forall₂ (fun request v =>
              uncached modules (objectFromPointer host config fuel (.str request.2)) = .ok v)
              pointers values ∧ result = resultOf pointers values) ∧
            evaluated.Nodup ∧ ∀ p, p ∈ evaluated ↔ p ∈ Reached host config pointers := by
  obtain ⟨bound, hbound⟩ := uncached_createObjects_ends modules pointers hhost hacyclic
  refine ⟨bound, fun fuel hfuel => ?_⟩
  have hends := hbound fuel hfuel
  have hagrees := agrees_createObjects modules (hlens hpaths) hacyclic fuel
  rcases huncached : uncached modules (createObjects host config fuel pointers)
    with (_ | e) | result
  · exact absurd huncached hends
  · rw [huncached] at hagrees
    exact ⟨_, _, _, Prod.ext hagrees rfl, rfl, by simp, fun result h => by cases h⟩
  · rw [huncached] at hagrees
    obtain ⟨s, hrun, hs, hreached⟩ := hagrees
    refine ⟨_, s.1, s.2, hrun, rfl, by simp, fun result' h => ?_⟩
    rw [← Except.ok.inj h]
    exact ⟨uncached_createObjects_ok huncached, hs.nodup htruthy, hreached⟩

end Cache

/-- An endpoint whose URL is referred to. -/
def endpointConfig : Json ℤ :=
  .obj [("rpcUrl".toList, .str "http://localhost:8545".toList),
    ("endpoint".toList, .obj [("url".toList, .obj [("$ref".toList, .str "/rpcUrl".toList)])])]

/-- Requests of the endpoint and of its URL. -/
def endpointPointers : List (Text × Text) :=
  [("endpoint".toList, "/endpoint".toList), ("url".toList, "/rpcUrl".toList)]

theorem refers_endpoint {p q : Path} (h : Refers (plainHost : Host ℤ) endpointConfig p q) :
    q = ["rpcUrl".toList] := by
  obtain ⟨pointer, hpointer, hcompile⟩ :=
    exists_pointer_of_refers plainHost_lawful (Set.mem_univ p) h
  have hrefs : (subtrees endpointConfig).flatMap nodeRefs =
      List.replicate 3 (.str "/rpcUrl".toList) := rfl
  rw [hrefs] at hpointer
  rw [List.eq_of_mem_replicate hpointer] at hcompile
  exact (Except.ok.inj hcompile).symm

theorem not_transGen_endpoint (p : Path) :
    ¬Relation.TransGen (Refers (plainHost : Host ℤ) endpointConfig) p p := by
  intro hcycle
  obtain ⟨p', -, hlast⟩ := Relation.TransGen.tail'_iff.1 hcycle
  obtain ⟨q, ⟨node, hnode, pointer, hpointer, -⟩, -⟩ := Relation.TransGen.head'_iff.1 hcycle
  rw [refers_endpoint hlast] at hnode
  rw [← Option.some.inj hnode] at hpointer
  cases hpointer

theorem reached_endpoint {pointers : List (Text × Text)} {p : Path}
    (hpointers : ∀ request ∈ pointers, request ∈ endpointPointers)
    (h : p ∈ Reached (plainHost : Host ℤ) endpointConfig pointers) :
    p = ["endpoint".toList] ∨ p = ["rpcUrl".toList] := by
  obtain ⟨q, ⟨request, hrequest, hcompile⟩, hreach⟩ := h
  rcases Relation.ReflTransGen.cases_tail hreach with rfl | ⟨p', -, hlast⟩
  · rcases List.mem_cons.1 (hpointers request hrequest) with rfl | hrequest
    · exact Or.inl (Except.ok.inj hcompile).symm
    · rw [List.mem_singleton.1 hrequest] at hcompile
      exact Or.inr (Except.ok.inj hcompile).symm
  · exact Or.inr (refers_endpoint hlast)

theorem incomparable_endpoint {pointers : List (Text × Text)}
    (hpointers : ∀ request ∈ pointers, request ∈ endpointPointers) : PointerStore.Incomparable
    (Reached (plainHost : Host ℤ) endpointConfig pointers) := by
  constructor
  · intro h
    rcases reached_endpoint hpointers h with h | h <;> cases h
  · intro p hp q hq hprefix
    rcases reached_endpoint hpointers hp with rfl | rfl <;>
      rcases reached_endpoint hpointers hq with rfl | rfl <;>
      first
      | rfl
      | exact absurd hprefix (by decide)

theorem valuesTruthy_endpoint :
    ValuesTruthy (plainHost : Host ℤ) plainModules endpointConfig endpointPointers := by
  intro p hp v hv
  have hurl : uncached plainModules
      (objectFromPointer (plainHost : Host ℤ) endpointConfig 1 (.str "/rpcUrl".toList)) =
        .ok (.str "http://localhost:8545".toList) := rfl
  have hendpoint : uncached plainModules
      (objectFromPointer (plainHost : Host ℤ) endpointConfig 2 (.str "/endpoint".toList)) =
        .ok (.obj { fields := [("url".toList, .str "http://localhost:8545".toList)] }) := rfl
  rcases reached_endpoint (fun _ h => h) hp with rfl | rfl
  · have hvalue := hv.result_eq rfl (by rw [hendpoint]; exact fun h => by cases h)
    rw [← Except.ok.inj (hendpoint.symm.trans hvalue)]
    rfl
  · have hvalue := hv.result_eq rfl (by rw [hurl]; exact fun h => by cases h)
    rw [← Except.ok.inj (hurl.symm.trans hvalue)]
    rfl

/-- With the tree of objects, the endpoint and its URL are created, each once. -/
theorem createObjects_cached_endpoint :
    ∃ bound, ∀ fuel ≥ bound, ∃ outcome objects evaluated,
      (createObjects (plainHost : Host ℤ) endpointConfig fuel endpointPointers).run
          (serve treeStore.recorded plainModules) treeStore.recorded.empty =
          (outcome, objects, evaluated) ∧
        outcome = uncached plainModules
          (createObjects plainHost endpointConfig fuel endpointPointers) ∧
        outcome ≠ .error .outOfFuel ∧
        ∀ result, outcome = .ok result →
          (∃ values, List.Forall₂ (fun request v =>
              uncached plainModules
                (objectFromPointer plainHost endpointConfig fuel (.str request.2)) = .ok v)
              endpointPointers values ∧ result = resultOf endpointPointers values) ∧
            evaluated.Nodup ∧
              ∀ p, p ∈ evaluated ↔ p ∈ Reached (plainHost : Host ℤ) endpointConfig
                endpointPointers :=
  createObjects_cached plainHost_lawful treeStore_lens (incomparable_endpoint fun _ h => h)
    (fun p _ => not_transGen_endpoint p) valuesTruthy_endpoint

/-! ### The order of requests -/

section Order

/-- At a requested key the value of its pointer is read. -/
theorem get_foldl_assign {host : Host N} {modules : Modules N E} {config : Json N} {fuel : ℕ}
    {key pointer : Text} {requests : List (Text × Text)} {values : List (Value N E)}
    (hvalues : List.Forall₂ (fun request v =>
      uncached modules (objectFromPointer host config fuel (.str request.2)) = .ok v)
      requests values)
    (hkeys : (requests.map Prod.fst).Nodup) (hrequest : (key, pointer) ∈ requests)
    {o : JsObject (Value N E)} (ho : o.get key = none) :
    ∃ v, uncached modules (objectFromPointer host config fuel (.str pointer)) = .ok v ∧
      ((requests.zip values).foldl (fun result a => result.assign a.1.1 a.2) o).get key =
        readBack key v := by
  induction hvalues generalizing o with
  | nil => cases hrequest
  | @cons request v requests values hv hvalues ih =>
      rw [List.map_cons, List.nodup_cons] at hkeys
      rw [List.zip_cons_cons, List.foldl_cons]
      rcases List.mem_cons.1 hrequest with heq | hrequest
      · subst heq
        refine ⟨v, hv, ?_⟩
        rw [get_foldl_assign_of_not_mem hkeys.1, JsObject.get_assign_self, ho, readBack]
      · have hne : key ≠ request.1 := by
          intro heq
          exact hkeys.1 (heq ▸ List.mem_map_of_mem hrequest)
        exact ih hkeys.2 hrequest (by rw [JsObject.get_assign_of_ne _ hne, ho])

variable {host : Host N} {modules : Modules N E} {store : ObjectStore S N E} {config : Json N}
  {pointers₁ pointers₂ : List (Text × Text)}

/-- A call that gives a result gives at a requested key what its pointer gives without the cache. -/
theorem createObjects_get {pointers : List (Text × Text)}
    (hlens : store.Lens .undefined (Reached host config pointers))
    (hpaths : PointerStore.Incomparable (Reached host config pointers))
    (hacyclic : ∀ p, ¬Relation.TransGen (Refers host config) p p)
    (hkeys : (pointers.map Prod.fst).Nodup) {key pointer : Text}
    (hrequest : (key, pointer) ∈ pointers) {fuel : ℕ}
    (hends : uncached modules (createObjects host config fuel pointers) ≠ .error .outOfFuel)
    {result : JsObject (Value N E)}
    (hresult : ((createObjects host config fuel pointers).run (serve store.recorded modules)
      store.recorded.empty).1 = .ok result) :
    ∃ v, uncached modules (objectFromPointer host config fuel (.str pointer)) = .ok v ∧
      result.get key = readBack key v := by
  have hagrees := agrees_createObjects modules (hlens hpaths) (fun p _ => hacyclic p) fuel
  rcases huncached : uncached modules (createObjects host config fuel pointers)
    with (_ | e) | result'
  · exact absurd huncached hends
  · rw [huncached] at hagrees
    rw [hagrees] at hresult
    cases hresult
  · rw [huncached] at hagrees
    obtain ⟨s, hrun, -, -⟩ := hagrees
    rw [hrun] at hresult
    obtain ⟨values, hvalues, hassigned⟩ := uncached_createObjects_ok huncached
    rw [← Except.ok.inj hresult, hassigned]
    exact get_foldl_assign hvalues hkeys hrequest (by rw [JsObject.get]; split <;> rfl)

/-- **The value at a key does not depend on the other requests.**  When in neither of two calls a
reached pointer is the root or a proper prefix of another, the calls give the same value for a key
that both request with the same pointer. -/
theorem createObjects_get_eq
    (hhost₁ : host.LawfulOn config (Reached host config pointers₁))
    (hhost₂ : host.LawfulOn config (Reached host config pointers₂))
    (hlens₁ : store.Lens .undefined (Reached host config pointers₁))
    (hlens₂ : store.Lens .undefined (Reached host config pointers₂))
    (hacyclic : ∀ p, ¬Relation.TransGen (Refers host config) p p)
    (hpaths₁ : PointerStore.Incomparable (Reached host config pointers₁))
    (hpaths₂ : PointerStore.Incomparable (Reached host config pointers₂))
    (hkeys₁ : (pointers₁.map Prod.fst).Nodup) (hkeys₂ : (pointers₂.map Prod.fst).Nodup)
    {key pointer : Text} (hrequest₁ : (key, pointer) ∈ pointers₁)
    (hrequest₂ : (key, pointer) ∈ pointers₂) :
    ∃ bound, ∀ fuel ≥ bound, ∀ result₁ result₂,
      ((createObjects host config fuel pointers₁).run (serve store.recorded modules)
        store.recorded.empty).1 = .ok result₁ →
      ((createObjects host config fuel pointers₂).run (serve store.recorded modules)
        store.recorded.empty).1 = .ok result₂ →
      result₁.get key = result₂.get key := by
  obtain ⟨bound₁, hbound₁⟩ := uncached_createObjects_ends modules pointers₁ hhost₁
    fun p _ => hacyclic p
  obtain ⟨bound₂, hbound₂⟩ := uncached_createObjects_ends modules pointers₂ hhost₂
    fun p _ => hacyclic p
  refine ⟨max bound₁ bound₂, fun fuel hfuel result₁ result₂ h₁ h₂ => ?_⟩
  obtain ⟨v₁, hv₁, hget₁⟩ := createObjects_get hlens₁ hpaths₁ hacyclic hkeys₁ hrequest₁
    (hbound₁ fuel (le_trans (le_max_left bound₁ bound₂) hfuel)) h₁
  obtain ⟨v₂, hv₂, hget₂⟩ := createObjects_get hlens₂ hpaths₂ hacyclic hkeys₂ hrequest₂
    (hbound₂ fuel (le_trans (le_max_right bound₁ bound₂) hfuel)) h₂
  rw [hget₁, hget₂, Except.ok.inj (hv₁.symm.trans hv₂)]

end Order

/-- The URL of the endpoint does not matter to the endpoint. -/
theorem createObjects_get_eq_endpoint :
    ∃ bound, ∀ fuel ≥ bound, ∀ result₁ result₂,
      ((createObjects (plainHost : Host ℤ) endpointConfig fuel endpointPointers).run
        (serve treeStore.recorded plainModules) treeStore.recorded.empty).1 = .ok result₁ →
      ((createObjects (plainHost : Host ℤ) endpointConfig fuel
        [("endpoint".toList, "/endpoint".toList)]).run
        (serve treeStore.recorded plainModules) treeStore.recorded.empty).1 = .ok result₂ →
      result₁.get "endpoint".toList = result₂.get "endpoint".toList :=
  createObjects_get_eq plainHost_lawful plainHost_lawful treeStore_lens treeStore_lens
    not_transGen_endpoint (incomparable_endpoint fun _ h => h)
    (incomparable_endpoint fun _ h => List.mem_singleton.1 h ▸ List.mem_cons_self)
    (by decide +kernel) (List.nodup_singleton _) List.mem_cons_self (List.mem_singleton_self _)

/-- **A pointer above one that was set is not evaluated**: the object on the way to the other is
found and awaited, whatever the configuration holds. -/
theorem objectFromPointer_above {host : Host N} {modules : Modules N E} {config pointer : Json N}
    {s : Value N E} {path : Path} {token : Text} {rest : Path} (v : Value N E)
    (hcompile : host.compile pointer = .ok path) (hopen : Open s (path ++ token :: rest))
    (fuel : ℕ) :
    ∃ o, getTree (setTree s (path ++ token :: rest) v) path = .obj o ∧
      (objectFromPointer host config (fuel + 1) pointer).run (serve treeStore modules)
        (setTree s (path ++ token :: rest) v) =
        (settle (.obj o)).run (serve treeStore modules) (setTree s (path ++ token :: rest) v) := by
  obtain ⟨o, ho⟩ := exists_getTree_setTree_above v hopen
  refine ⟨o, ho, ?_⟩
  have hget : treeStore.get (setTree s (path ++ token :: rest) v) path = .obj o := ho
  rw [run_objectFromPointer hcompile, hget]
  rfl

/-- An object with two properties. -/
def pairConfig : Json ℤ :=
  .obj [("a".toList, .obj [("b".toList, .num 1), ("c".toList, .num 2)])]

/-- **After a request below it, an object is returned in part**: the configuration has no
references, and `y` is the pointer `/a` in both calls. -/
theorem createObjects_partial :
    (∀ p, ¬Relation.TransGen (Refers (plainHost : Host ℤ) pairConfig) p p) ∧
      ∀ fuel, ∃ result₁ result₂,
        ((createObjects (plainHost : Host ℤ) pairConfig (fuel + 1)
          [("x".toList, "/a/b".toList), ("y".toList, "/a".toList)]).run
          (serve treeStore.recorded plainModules) treeStore.recorded.empty).1 = .ok result₁ ∧
        ((createObjects (plainHost : Host ℤ) pairConfig (fuel + 1)
          [("y".toList, "/a".toList)]).run
          (serve treeStore.recorded plainModules) treeStore.recorded.empty).1 = .ok result₂ ∧
        result₁.get "y".toList = some (.obj { fields := [("b".toList, .num 1)] }) ∧
        result₂.get "y".toList =
          some (.obj { fields := [("b".toList, .num 1), ("c".toList, .num 2)] }) ∧
        result₁.get "y".toList ≠ result₂.get "y".toList := by
  constructor
  · exact not_transGen_of_refs_eq_nil plainHost_lawful rfl
  · intro fuel
    refine ⟨_, _, rfl, rfl, rfl, rfl, fun h => ?_⟩
    have hobject : ({ fields := [("b".toList, .num 1)] } : JsObject (Value ℤ Unit)) =
        { fields := [("b".toList, .num 1), ("c".toList, .num 2)] } :=
      Value.obj.inj (Option.some.inj h)
    exact absurd (congrArg (fun o => o.fields.length) hobject) (by decide)

end ObjectCreator
