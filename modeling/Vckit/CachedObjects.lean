/-
**The cache of created objects.**

When the requested and the referenced paths do not overlap, `objects` is a cache: at a path that was
evaluated it holds the value of that path, and elsewhere nothing.  This invariant is kept by every
computation of the evaluators, and under it a computation gives what it gives without the cache.  No
path is evaluated while it is being evaluated, since references have no cycle, and none whose value
is truthy is evaluated twice.

Main definitions:

* `ObjectCreator.CacheInv` — what `objects` holds, and which paths were evaluated;
* `ObjectCreator.Grown` — the paths that a computation adds;
* `ObjectCreator.Agrees` — a computation gives what another gives without the cache.

Main results:

* `ObjectCreator.agrees_objectFromPointer` — the invariant is kept at every pointer;
* `ObjectCreator.agrees_createObjects` — **a call gives what it gives without the cache**.
-/

import Vckit.UncachedObjects

set_option relaxedAutoImplicit false
set_option autoImplicit false

namespace ObjectCreator

variable {N E S : Type} [JsNumber N]

/-! ### The invariant -/

section Invariant

variable (host : Host N) (modules : Modules N E) (store : ObjectStore S N E) (config : Json N)
  (pointers : List (Text × Text))

/-- Every value that is requested or referenced is truthy. -/
def ValuesTruthy : Prop :=
  ∀ p ∈ Reached host config pointers, ∀ v, Evaluates host modules config p v → v.truthy = true

/-- What `objects` holds, with the paths that were evaluated. -/
structure CacheInv (s : S × List Path) : Prop where
  built : store.Built (Reached host config pointers) s.1
  reached : ∀ p ∈ s.2, p ∈ Reached host config pointers
  evaluates : ∀ p ∈ s.2, Evaluates host modules config p (store.get s.1 p)
  others : ∀ p ∈ Reached host config pointers, p ∉ s.2 → store.get s.1 p = .undefined
  closed : ∀ p ∈ s.2, ∀ q, Refers host config p q → q ∈ s.2
  nodup : ValuesTruthy host modules config pointers → s.2.Nodup

/-- The paths that are evaluated when some pointers are followed. -/
structure Grown (L : List (Json N)) (before after : List Path) : Prop where
  kept : ∀ p ∈ before, p ∈ after
  added : ∀ pointer ∈ L, ∀ p, host.compile pointer = .ok p → p ∈ after
  only : ∀ p ∈ after, p ∈ before ∨
    ∃ pointer ∈ L, ∃ q, host.compile pointer = .ok q ∧
      Relation.ReflTransGen (Refers host config) q p

/-- Started on a cache, a computation gives what another gives without one, and leaves a cache. -/
def Agrees (α : Type) (L : List (Json N)) (p q : Create N E α) : Prop :=
  (∀ pointer ∈ L, ∀ path, host.compile pointer = .ok path → path ∈ Reached host config pointers) →
    ∀ s, CacheInv host modules store config pointers s →
      match uncached modules q with
      | .ok a => ∃ s', p.run (serve store.recorded modules) s = (.ok a, s') ∧
          CacheInv host modules store config pointers s' ∧ Grown host config L s.2 s'.2
      | .error (.error e) => (p.run (serve store.recorded modules) s).1 = .error (.error e)
      | .error .outOfFuel => True

end Invariant

variable {host : Host N} {modules : Modules N E} {store : ObjectStore S N E} {config : Json N}
  {pointers : List (Text × Text)} {s s' s'' : S × List Path} {L L' : List (Json N)}

theorem cacheInv_empty (hlens : store.LensOn .undefined (Reached host config pointers)) :
    CacheInv host modules store config pointers (store.empty, []) where
  built := .empty
  reached _ h := by cases h
  evaluates _ h := by cases h
  others _ hp _ := hlens.get_empty hp
  closed _ h := by cases h
  nodup _ := List.nodup_nil

theorem Grown.refl (l : List Path) : Grown host config [] l l where
  kept _ h := h
  added _ h := by cases h
  only _ h := Or.inl h

theorem Grown.trans {l l' l'' : List Path} (h : Grown host config L l l')
    (h' : Grown host config L' l' l'') : Grown host config (L ++ L') l l'' where
  kept p hp := h'.kept p (h.kept p hp)
  added pointer hpointer p hcompile := by
    rcases List.mem_append.1 hpointer with hpointer | hpointer
    · exact h'.kept p (h.added pointer hpointer p hcompile)
    · exact h'.added pointer hpointer p hcompile
  only p hp := by
    rcases h'.only p hp with hp | ⟨pointer, hpointer, hreach⟩
    · rcases h.only p hp with hp | ⟨pointer, hpointer, hreach⟩
      · exact Or.inl hp
      · exact Or.inr ⟨pointer, List.mem_append_left _ hpointer, hreach⟩
    · exact Or.inr ⟨pointer, List.mem_append_right _ hpointer, hreach⟩

/-! ### What keeps the invariant -/

/-- A computation that does not touch `objects`. -/
theorem agrees_of_run {α : Type} {p : Create N E α}
    (h : ∀ s, p.run (serve store.recorded modules) s = (uncached modules p, s)) :
    Agrees host modules store config pointers _ [] p p := by
  intro _ s hs
  rw [h]
  rcases uncached modules p with (_ | e) | a
  · trivial
  · rfl
  · exact ⟨s, rfl, hs, .refl _⟩

theorem agrees_runCode (c : Code N E) :
    Agrees host modules store config pointers _ [] (runCode c) (runCode c) :=
  agrees_of_run ((runsOnly_runCode (C := fun _ => True) trivial).run_eq_uncached _ modules)

theorem agrees_tryInstantiate (module : Text) (name : Option Text) (kind : Text)
    (resolvedArgs : Value N E) :
    Agrees host modules store config pointers _ []
      (tryInstantiate module name kind resolvedArgs)
      (tryInstantiate module name kind resolvedArgs) := by
  refine agrees_of_run fun s => ?_
  have hrun := (runsOnly_instantiate module name kind resolvedArgs).run_eq_uncached
    store.recorded modules s
  rw [tryInstantiate, uncached_mapError]
  rcases hresult : uncached modules (instantiate module name kind resolvedArgs) with e | a
  · rw [hresult] at hrun
    exact Prog.run_mapError_of_error hrun
  · rw [hresult] at hrun
    exact Prog.run_mapError_of_ok hrun

theorem compatible_agrees : Compatible (Agrees host modules store config pointers) where
  ret _ _ s hs := ⟨s, rfl, hs, .refl _⟩
  fail _ _ _ _ := rfl
  settle _ := agrees_runCode _
  getMember _ _ := agrees_runCode _
  tryInstantiate := agrees_tryInstantiate
  bind := by
    intro _ _ L L' p q f g hp hf hreached s hs
    have hfirst := hp (fun pointer h => hreached pointer (List.mem_append_left _ h)) s hs
    rw [uncached_bind]
    rcases hresult : uncached modules q with (_ | e) | a
    · trivial
    · rw [hresult] at hfirst
      change (Prog.run _ (p >>= f) s).1 = _
      rw [Prog.run_bind]
      cases hrun : p.run (serve store.recorded modules) s with
      | mk r s' =>
          rw [hrun] at hfirst
          dsimp only at hfirst
          rw [hfirst]
    -- the second part starts on the cache that the first one leaves
    · rw [hresult] at hfirst
      obtain ⟨s', hrun, hs', hgrown⟩ := hfirst
      have hrest := hf a (fun pointer h => hreached pointer (List.mem_append_right _ h)) s' hs'
      change match uncached modules (g a) with
        | .ok a => _
        | .error (.error e) => _
        | .error .outOfFuel => _
      rw [Prog.run_bind_of_ok hrun]
      rcases hresult' : uncached modules (g a) with (_ | e) | b
      · trivial
      · rw [hresult'] at hrest
        exact hrest
      · rw [hresult'] at hrest
        obtain ⟨s'', hrun', hs'', hgrown'⟩ := hrest
        exact ⟨s'', hrun', hs'', hgrown.trans hgrown'⟩

/-- Setting the value of a path whose references were evaluated keeps the invariant. -/
theorem CacheInv.set (hlens : store.LensOn .undefined (Reached host config pointers)) {path : Path}
    {objects : S} {v : Value N E} (hs : CacheInv host modules store config pointers s)
    (hpath : path ∈ Reached host config pointers) (hset : store.set s.1 path v = .ok objects)
    (hv : Evaluates host modules config path v)
    (hclosed : ∀ q, Refers host config path q → q ∈ s.2)
    (hnew : ValuesTruthy host modules config pointers → path ∉ s.2) :
    CacheInv host modules store config pointers (objects, s.2 ++ [path]) where
  built := .set hs.built hpath hset
  reached p hp := by
    rcases List.mem_append.1 hp with hp | hp
    · exact hs.reached p hp
    · rwa [List.mem_singleton.1 hp]
  evaluates p hp := by
    by_cases heq : p = path
    · subst heq
      rwa [hlens.get_set_self hs.built hpath hset]
    · have hbefore : p ∈ s.2 := by simpa [heq] using hp
      rw [hlens.get_set_of_ne hs.built hpath (hs.reached p hbefore) heq hset]
      exact hs.evaluates p hbefore
  others p hp hnot := by
    rw [List.mem_append, List.mem_singleton, not_or] at hnot
    rw [hlens.get_set_of_ne hs.built hpath hp hnot.2 hset]
    exact hs.others p hp hnot.1
  closed p hp q hq := by
    rcases List.mem_append.1 hp with hp | hp
    · exact List.mem_append_left _ (hs.closed p hp q hq)
    · rw [List.mem_singleton.1 hp] at hq
      exact List.mem_append_left _ (hclosed q hq)
  nodup htruthy := by
    have hdisjoint : s.2.Disjoint [path] := List.disjoint_singleton.2 (hnew htruthy)
    exact (hs.nodup htruthy).append (List.nodup_singleton path) hdisjoint

/-- What is added when a path is evaluated after its references. -/
theorem Grown.path {pointer objectConfig : Json N} {path : Path} {before after : List Path}
    (hcompile : host.compile pointer = .ok path)
    (hnode : configAt host config path = some objectConfig)
    (h : Grown host config (nodeRefs objectConfig) before after) :
    Grown host config [pointer] before (after ++ [path]) where
  kept p hp := List.mem_append_left _ (h.kept p hp)
  added pointer' hpointer' p hcompile' := by
    rw [List.mem_singleton.1 hpointer', hcompile] at hcompile'
    rw [Except.ok.inj hcompile']
    exact List.mem_append_right _ (List.mem_singleton_self p)
  only p hp := by
    rcases List.mem_append.1 hp with hp | hp
    · rcases h.only p hp with hp | ⟨pointer', hpointer', q, hq, hreach⟩
      · exact Or.inl hp
      -- what a reference reaches is reached from the path
      · refine Or.inr ⟨pointer, List.mem_singleton_self pointer, path, hcompile, ?_⟩
        exact .head ⟨objectConfig, hnode, pointer', hpointer', hq⟩ hreach
    · rw [List.mem_singleton.1 hp]
      exact Or.inr ⟨pointer, List.mem_singleton_self pointer, path, hcompile, .refl⟩

/-- A path with truthy values that is not yet evaluated is not evaluated by its references. -/
theorem Grown.not_mem {objectConfig : Json N} {path : Path} {before after : List Path}
    (h : Grown host config (nodeRefs objectConfig) before after)
    (hnode : configAt host config path = some objectConfig) (hnot : path ∉ before)
    (hacyclic : ¬Relation.TransGen (Refers host config) path path) : path ∉ after := by
  intro hmem
  rcases h.only path hmem with hmem | ⟨pointer, hpointer, q, hq, hreach⟩
  · exact hnot hmem
  · exact hacyclic (.head' ⟨objectConfig, hnode, pointer, hpointer, hq⟩ hreach)

section Pointer

variable {path : Path} {pointer : Json N} {fuel : ℕ}

/-- Something truthy is found at evaluated paths only; it is their value, and awaiting it gives it
back. -/
theorem agrees_found (hs : CacheInv host modules store config pointers s)
    (hcompile : host.compile pointer = .ok path)
    (hpath : path ∈ Reached host config pointers) (htruthy : (store.get s.1 path).truthy = true)
    (hfuel : uncached modules (objectFromPointer host config fuel pointer) ≠ .error .outOfFuel) :
    uncached modules (objectFromPointer host config fuel pointer) = .ok (store.get s.1 path) ∧
      (settle (store.get s.1 path)).run (serve store.recorded modules) s =
        (.ok (store.get s.1 path), s) ∧
      Grown host config [pointer] s.2 s.2 := by
  have hmem : path ∈ s.2 := by
    by_contra hnot
    rw [hs.others path hpath hnot] at htruthy
    cases htruthy
  have hvalue := hs.evaluates path hmem
  refine ⟨hvalue.result_eq hcompile hfuel, ?_, fun _ h => h, ?_, fun _ h => Or.inl h⟩
  · rw [(runsOnly_settle _).run_eq_uncached, hvalue.settled]
  · intro pointer' hpointer' p hp
    rw [List.mem_singleton.1 hpointer', hcompile] at hp
    rwa [← Except.ok.inj hp]

/-- When the references of a path were evaluated, so is the path. -/
theorem agrees_evaluated (hlens : store.LensOn .undefined (Reached host config pointers))
    (hacyclic : ¬Relation.TransGen (Refers host config) path path) {objectConfig : Json N}
    (hnode : configAt host config path = some objectConfig)
    (hpath : path ∈ Reached host config pointers)
    (hcompile : host.compile pointer = .ok path) {v : Value N E}
    (hv : Evaluates host modules config path v)
    (hs : CacheInv host modules store config pointers s)
    (htruthy : (store.get s.1 path).truthy = false)
    (hs' : CacheInv host modules store config pointers s')
    (hgrown : Grown host config (nodeRefs objectConfig) s.2 s'.2) :
    ∃ objects, store.set s'.1 path v = .ok objects ∧
      CacheInv host modules store config pointers (objects, s'.2 ++ [path]) ∧
      Grown host config [pointer] s.2 (s'.2 ++ [path]) := by
  obtain ⟨objects, hset⟩ := hlens.set_ok v hs'.built hpath
  -- something truthy would have been found, and no reference leads back to the path
  have hnew : ValuesTruthy host modules config pointers → path ∉ s'.2 := by
    intro hvalues
    refine hgrown.not_mem hnode (fun hmem => ?_) hacyclic
    have hfound := hvalues path hpath _ (hs.evaluates path hmem)
    rw [htruthy] at hfound
    cases hfound
  have hclosed : ∀ q, Refers host config path q → q ∈ s'.2 := by
    rintro q ⟨node, hnode', pointer', hpointer', hq⟩
    rw [hnode, Option.some_inj] at hnode'
    subst hnode'
    exact hgrown.added pointer' hpointer' q hq
  exact ⟨objects, hset, hs'.set hlens hpath hset hv hclosed hnew, hgrown.path hcompile hnode⟩

end Pointer

/-- **The invariant is kept at every pointer**, and what is given is what is given without the
cache. -/
theorem agrees_objectFromPointer
    (hlens : store.LensOn .undefined (Reached host config pointers))
    (hacyclic : ∀ p ∈ Reached host config pointers,
      ¬Relation.TransGen (Refers host config) p p) (fuel : ℕ) (pointer : Json N) :
    Agrees host modules store config pointers _ [pointer]
      (objectFromPointer host config fuel pointer)
      (objectFromPointer host config fuel pointer) := by
  induction fuel generalizing pointer with
  | zero => exact fun _ _ _ => trivial
  | succ fuel ih =>
      intro hreached s hs
      cases hcompile : host.compile pointer with
      | error e =>
          rw [uncached_objectFromPointer_of_error hcompile, run_objectFromPointer_of_error hcompile]
      | ok path =>
          have hpath := hreached pointer (List.mem_singleton_self pointer) path hcompile
          rw [run_objectFromPointer hcompile, PointerStore.get_recorded]
          cases htruthy : (store.get s.1 path).truthy with
          | true =>
              by_cases hfuel : uncached modules (objectFromPointer host config (fuel + 1) pointer) =
                  .error .outOfFuel
              · rw [hfuel]
                trivial
              · obtain ⟨hresult, hsettled, hgrown⟩ := agrees_found hs hcompile hpath htruthy hfuel
                rw [hresult]
                exact ⟨s, hsettled, hs, hgrown⟩
          | false =>
              cases hnode : configAt host config path with
              | none =>
                  rw [uncached_objectFromPointer_of_none hcompile hnode]
                  rfl
              | some objectConfig =>
                  -- the references come first, on the cache as it is
                  have hpart := objectFromNode_rel compatible_agrees host _ _ objectConfig
                    (fun pointer' _ => ih pointer')
                    (fun pointer' hpointer' q hq => reached_of_refers hpath
                      ⟨objectConfig, hnode, pointer', hpointer', hq⟩) s hs
                  have hsome : uncached modules (objectFromPointer host config (fuel + 1) pointer) =
                      (uncached modules (objectFromNode host (objectFromPointer host config fuel)
                        objectConfig)).mapError (Failure.map (whileCreating pointer)) :=
                    uncached_objectFromPointer_of_some hcompile hnode fuel
                  rw [hsome]
                  rcases hresult : uncached modules (objectFromNode host
                    (objectFromPointer host config fuel) objectConfig) with (_ | e) | v
                  · trivial
                  · rw [hresult] at hpart
                    exact run_keep_of_error hpart
                  · rw [hresult] at hpart hsome
                    obtain ⟨s', hrun, hs', hgrown⟩ := hpart
                    obtain ⟨objects, hset, hinv, hadded⟩ := agrees_evaluated hlens
                      (hacyclic path hpath) hnode hpath hcompile
                      ⟨fuel + 1, pointer, hcompile, hsome⟩ hs htruthy hs' hgrown
                    exact ⟨_, run_keep_of_ok hrun
                      (serve_setObject_of_ok (PointerStore.set_recorded hset)), hinv, hadded⟩

/-! ### A call -/

/-- **A call gives what it gives without the cache**, as far as that evaluation ends. -/
theorem agrees_createObjects (modules : Modules N E)
    (hlens : store.LensOn .undefined (Reached host config pointers))
    (hacyclic : ∀ p ∈ Reached host config pointers,
      ¬Relation.TransGen (Refers host config) p p) (fuel : ℕ) :
    match uncached modules (createObjects host config fuel pointers) with
    | .ok result => ∃ s, (createObjects host config fuel pointers).run
          (serve store.recorded modules) store.recorded.empty = (.ok result, s) ∧
        CacheInv host modules store config pointers s ∧
        ∀ p, p ∈ s.2 ↔ p ∈ Reached host config pointers
    | .error (.error e) => ((createObjects host config fuel pointers).run
        (serve store.recorded modules) store.recorded.empty).1 = .error (.error e)
    | .error .outOfFuel => True := by
  rw [createObjects]
  split_ifs with hhidden
  · rfl
  have hpointers : Agrees host modules store config pointers _
      (pointers.map fun request => .str request.2)
      (createFrom host config fuel pointers {}) (createFrom host config fuel pointers {}) :=
    createFrom_rel compatible_agrees host config fuel fuel pointers {}
      fun request _ => agrees_objectFromPointer hlens hacyclic fuel (.str request.2)
  have hloop := hpointers
    (fun pointer hpointer path hcompile => by
      obtain ⟨request, hrequest, rfl⟩ := List.mem_map.1 hpointer
      exact reached_of_requested ⟨request, hrequest, hcompile⟩)
    (store.empty, []) (cacheInv_empty hlens)
  rcases hresult : uncached modules (createFrom host config fuel pointers {}) with (_ | e) | result
  · trivial
  · rw [hresult] at hloop
    exact hloop
  · rw [hresult] at hloop
    obtain ⟨s, hrun, hs, hgrown⟩ := hloop
    refine ⟨s, hrun, hs, fun p => ⟨hs.reached p, ?_⟩⟩
    rintro ⟨q, ⟨request, hrequest, hcompile⟩, hreach⟩
    have hq := hgrown.added (.str request.2) (List.mem_map_of_mem hrequest) q hcompile
    induction hreach with
    | refl => exact hq
    | tail _ hstep ih => exact hs.closed _ ih _ hstep

end ObjectCreator
