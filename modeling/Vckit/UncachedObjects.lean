/-
**Objects without a cache.**

The evaluators of `ObjectCreator` over a store in which nothing is found evaluate every pointer they
come to.  What they give for a pointer depends on the path it leads to only, apart from the texts of
errors; it does not change when more nested pointers are allowed for; and if no path that is reached
refers back to itself, a finite number of nested pointers is enough.  It was awaited, so it is
changed no more when it is found and awaited again.

Main definitions:

* `ObjectCreator.uncached` — the result of a computation without a cache;
* `ObjectCreator.Evaluates` — the value at a path;
* `ObjectCreator.GivesSettled` — a computation whose value is given back when it is awaited.

Main results:

* `ObjectCreator.uncached_objectFromPointer_of_le` — more nested pointers change no result;
* `ObjectCreator.Evaluates.result_eq` — **the value at a path is unique**;
* `ObjectCreator.Evaluates.settled` — awaiting it gives it back;
* `ObjectCreator.uncached_createObjects_ends` — **evaluation ends when references have no cycle**.
-/

import Vckit.ObjectFuel

set_option relaxedAutoImplicit false
set_option autoImplicit false

namespace ObjectCreator

variable {N E : Type} {modules : Modules N E} {α β : Type}

/-! ### Running without a cache -/

/-- The result of a computation when every pointer is evaluated again. -/
def uncached (modules : Modules N E) (p : Create N E α) : Except Failure α :=
  (p.run (serve (.forgetful .undefined) modules) ()).1

@[simp] theorem uncached_ret (a : α) : uncached modules (.ret a) = .ok a := rfl

@[simp] theorem uncached_fail (e : JsError) :
    uncached modules (fail e : Create N E α) = .error (.ofError e) := rfl

theorem uncached_perform (o : Op N E) :
    uncached modules (perform o) = (serve (.forgetful .undefined) modules o ()).1 := by
  rw [uncached, perform, Prog.run_perform]

/-- A sequence without a cache. -/
theorem uncached_bind (p : Create N E α) (f : α → Create N E β) :
    uncached modules (p >>= f) = (uncached modules p).bind fun a => uncached modules (f a) := by
  rw [uncached, uncached, Prog.run_bind]
  split
  · rename_i h
    rw [h]
    rfl
  · rename_i h
    rw [h]
    rfl

/-- A `catch` without a cache. -/
theorem uncached_mapError (p : Create N E α) (f : Failure → Failure) :
    uncached modules (p.mapError f) = (uncached modules p).mapError f := by
  rw [uncached, uncached, Prog.run_mapError]
  split
  · rename_i h
    rw [h]
    rfl
  · rename_i h
    rw [h]
    rfl

/-- What runs the code of modules needs no cache. -/
theorem RunsOnly.run_eq_uncached {S : Type} {C : Code N E → Prop} {p : Create N E α}
    (hp : RunsOnly C p) (store : ObjectStore S N E) (modules : Modules N E) (s : S) :
    p.run (serve store modules) s = (uncached modules p, s) :=
  hp.run_serve store modules s (.forgetful .undefined) ()

/-! ### Awaiting -/

/-- A computation whose value is given back when it is awaited. -/
def GivesSettled (modules : Modules N E) (p : Create N E (Value N E)) : Prop :=
  ∀ v, uncached modules p = .ok v → uncached modules (settle v) = .ok v

theorem givesSettled_bind {p : Create N E α} {f : α → Create N E (Value N E)}
    (hf : ∀ a, GivesSettled modules (f a)) : GivesSettled modules (p >>= f) := by
  intro v hv
  rw [uncached_bind] at hv
  obtain ⟨a, -, ha⟩ := bind_eq_ok.1 hv
  exact hf a v ha

theorem givesSettled_ret {v : Value N E} (h : uncached modules (settle v) = .ok v) :
    GivesSettled modules (.ret v) :=
  fun _ hv => Except.ok.inj hv ▸ h

theorem uncached_runCode (c : Code N E) :
    uncached modules (runCode c) = (modules.run c).mapError Failure.error := by
  rw [runCode, uncached_perform, serve]

/-- What awaiting a value gives. -/
theorem givesSettled_settle (v : Value N E) : GivesSettled modules (settle v) := by
  have hcode : ∀ v w : Value N E, uncached modules (runCode (.settle v)) = .ok w →
      uncached modules (settle w) = .ok w := by
    intro v w h
    rw [uncached_runCode, mapError_eq_ok] at h
    have hw := modules.settled h
    cases w with
    | ext e =>
        rw [settle, uncached_runCode, hw]
        rfl
    | obj o =>
        rw [settle]
        split
        · rfl
        · rw [uncached_runCode, hw]
          rfl
    | _ => rfl
  cases v with
  | ext e => exact hcode _
  | obj o =>
      intro w hw
      rw [settle] at hw
      split at hw
      · rename_i hplain
        rw [← Except.ok.inj hw, settle, if_pos hplain]
        rfl
      · exact hcode _ w hw
  | _ => exact givesSettled_ret rfl

theorem givesSettled_objectFromConfig (host : Host N) (require : Json N)
    (resolveArgs : Create N E (Value N E)) :
    GivesSettled modules (objectFromConfig host require resolveArgs) := by
  refine givesSettled_bind fun resolvedArgs => givesSettled_bind fun object => ?_
  split
  · exact givesSettled_settle object
  · exact givesSettled_settle object
  · exact givesSettled_bind givesSettled_settle

/-! ### The evaluators -/

variable [JsNumber N] {host : Host N} {config : Json N}

theorem uncached_objectFromPointer_of_error {pointer : Json N} {e : JsError}
    (hcompile : host.compile pointer = .error e) (fuel : ℕ) :
    uncached modules (objectFromPointer host config (fuel + 1) pointer) = .error (.ofError e) := by
  rw [uncached, run_objectFromPointer_of_error hcompile]

theorem uncached_objectFromPointer_of_none {pointer : Json N} {path : Path}
    (hcompile : host.compile pointer = .ok path) (hnode : configAt host config path = none)
    (fuel : ℕ) :
    uncached modules (objectFromPointer host config (fuel + 1) pointer) =
      .error (.ofError (pointerError "Pointer not found: ".toList pointer)) := by
  rw [uncached, run_objectFromPointer hcompile, hnode]
  rfl

/-- What a pointer gives is what the configuration describes there. -/
theorem uncached_objectFromPointer_of_some {pointer : Json N} {path : Path} {objectConfig : Json N}
    (hcompile : host.compile pointer = .ok path)
    (hnode : configAt host config path = some objectConfig) (fuel : ℕ) :
    uncached modules (objectFromPointer host config (fuel + 1) pointer) =
      (uncached modules (objectFromNode host (objectFromPointer host config fuel)
        objectConfig)).mapError (Failure.map (whileCreating pointer)) := by
  rw [uncached, run_objectFromPointer hcompile, hnode]
  change uncached modules (Prog.mapError (Failure.map (whileCreating pointer)) (_ >>= _)) = _
  rw [uncached_mapError, uncached_bind]
  cases uncached modules
    (objectFromNode host (objectFromPointer host config fuel) objectConfig) <;> rfl

/-- **More nested pointers change no result.** -/
theorem uncached_objectFromPointer_of_le {fuel fuel' : ℕ} {pointer : Json N} (hle : fuel ≤ fuel')
    (h : uncached modules (objectFromPointer host config fuel pointer) ≠ .error .outOfFuel) :
    uncached modules (objectFromPointer host config fuel' pointer) =
      uncached modules (objectFromPointer host config fuel pointer) :=
  congrArg Prod.fst (run_objectFromPointer_of_le hle h)

/-! ### The value at a path -/

/-- The value at a path: what a pointer that leads there gives, with some number of nested pointers
allowed for. -/
def Evaluates (host : Host N) (modules : Modules N E) (config : Json N) (path : Path)
    (v : Value N E) : Prop :=
  ∃ fuel pointer, host.compile pointer = .ok path ∧
    uncached modules (objectFromPointer host config fuel pointer) = .ok v

/-- A value is that of every pointer that leads to its path. -/
theorem uncached_objectFromPointer_of_compile_eq {fuel : ℕ} {pointer pointer' : Json N}
    {path : Path} {v : Value N E} (hcompile : host.compile pointer = .ok path)
    (hcompile' : host.compile pointer' = .ok path)
    (h : uncached modules (objectFromPointer host config fuel pointer) = .ok v) :
    uncached modules (objectFromPointer host config fuel pointer') = .ok v := by
  cases fuel with
  | zero => cases h
  | succ fuel =>
      cases hnode : configAt host config path with
      | none =>
          rw [uncached_objectFromPointer_of_none hcompile hnode] at h
          cases h
      | some objectConfig =>
          rw [uncached_objectFromPointer_of_some hcompile hnode, mapError_eq_ok] at h
          rw [uncached_objectFromPointer_of_some hcompile' hnode, h]
          rfl

/-- **The value at a path is unique**: every evaluation of it that has a result gives it. -/
theorem Evaluates.result_eq {path : Path} {v : Value N E} {fuel : ℕ} {pointer : Json N}
    (hv : Evaluates host modules config path v) (hcompile : host.compile pointer = .ok path)
    (h : uncached modules (objectFromPointer host config fuel pointer) ≠ .error .outOfFuel) :
    uncached modules (objectFromPointer host config fuel pointer) = .ok v := by
  obtain ⟨fuel', pointer', hcompile', hv⟩ := hv
  have hv' := uncached_objectFromPointer_of_compile_eq hcompile' hcompile hv
  -- both evaluations agree with the one that is allowed the larger number
  have hmax := uncached_objectFromPointer_of_le (le_max_left fuel fuel') h
  rw [← hmax, uncached_objectFromPointer_of_le (le_max_right fuel fuel') (by rw [hv']; simp), hv']

/-! ### The value was awaited -/

theorem givesSettled_processEnv (name : Json N) : GivesSettled modules (processEnv host name) := by
  refine givesSettled_bind fun name => givesSettled_ret ?_
  cases host.env name <;> rfl

section Evaluators

variable {ofPointer : Json N → Create N E (Value N E)}

theorem givesSettled_resolveFields (hof : ∀ pointer, GivesSettled modules (ofPointer pointer))
    {fromConfig : Json N → Create N E (Value N E)}
    (hfrom : ∀ require, GivesSettled modules (fromConfig require)) (fields : List (Text × Json N))
    (resolved : JsObject (Value N E)) :
    GivesSettled modules (resolveFields host ofPointer fromConfig fields resolved) := by
  induction fields generalizing resolved with
  | nil => exact givesSettled_settle _
  | cons field fields ih =>
      rw [resolveFields]
      split_ifs
      · exact hof field.2
      · exact hfrom field.2
      · exact givesSettled_processEnv field.2
      · exact givesSettled_bind fun value => ih _

theorem givesSettled_resolveRefs (hof : ∀ pointer, GivesSettled modules (ofPointer pointer))
    (input : Json N) : GivesSettled modules (resolveRefs host ofPointer input) := by
  cases input with
  | arr items => exact givesSettled_bind fun resolved => givesSettled_ret rfl
  | obj fields =>
      rw [resolveRefs]
      split_ifs
      · exact fun _ h => by cases h
      · exact givesSettled_resolveFields hof
          (fun require => givesSettled_objectFromConfig host require _) fields {}
  | _ => exact givesSettled_ret rfl

theorem givesSettled_objectFromNode (hof : ∀ pointer, GivesSettled modules (ofPointer pointer))
    (objectConfig : Json N) :
    GivesSettled modules (objectFromNode host ofPointer objectConfig) := by
  rw [objectFromNode]
  split
  · exact givesSettled_objectFromConfig host _ _
  · split
    · exact givesSettled_processEnv _
    · exact givesSettled_resolveRefs hof objectConfig

end Evaluators

theorem givesSettled_objectFromPointer (fuel : ℕ) (pointer : Json N) :
    GivesSettled modules (objectFromPointer host config fuel pointer) := by
  induction fuel generalizing pointer with
  | zero => exact fun _ h => by cases h
  | succ fuel ih =>
      intro v hv
      cases hcompile : host.compile pointer with
      | error e =>
          rw [uncached_objectFromPointer_of_error hcompile] at hv
          cases hv
      | ok path =>
          cases hnode : configAt host config path with
          | none =>
              rw [uncached_objectFromPointer_of_none hcompile hnode] at hv
              cases hv
          | some objectConfig =>
              rw [uncached_objectFromPointer_of_some hcompile hnode, mapError_eq_ok] at hv
              exact givesSettled_objectFromNode ih objectConfig v hv

/-- **Awaiting the value at a path gives it back.** -/
theorem Evaluates.settled {path : Path} {v : Value N E}
    (hv : Evaluates host modules config path v) : uncached modules (settle v) = .ok v := by
  obtain ⟨fuel, pointer, -, hv⟩ := hv
  exact givesSettled_objectFromPointer fuel pointer v hv

/-! ### Evaluation ends -/

variable {pointers : List (Text × Text)}

/-- **A call has a result** when no reached path refers back to itself. -/
theorem uncached_createObjects_ends (modules : Modules N E) (pointers : List (Text × Text))
    (hhost : host.LawfulOn config (Reached host config pointers))
    (hacyclic : ∀ p ∈ Reached host config pointers,
      ¬Relation.TransGen (Refers host config) p p) :
    ∃ bound, ∀ fuel ≥ bound,
      uncached modules (createObjects host config fuel pointers) ≠ .error .outOfFuel := by
  obtain ⟨bound, hbound⟩ := createObjects_ends_of_acyclic (.forgetful .undefined) modules hhost
    hacyclic
  exact ⟨bound, fun fuel hfuel => hbound fuel hfuel ()⟩

end ObjectCreator
