/-
**The number of nested pointers that is allowed for.**

The evaluators of `ObjectCreator` count the pointers they are inside of and give up when there are
more than were allowed for.  The number is no part of what they do: on every store, a run that does
not give up is the same with a larger number.  If no path that is reached refers back to itself,
some number is enough, whatever the store holds.

Main results:

* `ObjectCreator.run_objectFromPointer_of_le`, `ObjectCreator.run_createObjects_of_le` — **more
  nested pointers change no run that does not give up**;
* `ObjectCreator.objectFromPointer_ends`, `ObjectCreator.createObjects_ends_of_acyclic` — **no run
  gives up when references have no cycle**.
-/

import Vckit.ObjectReferences

set_option relaxedAutoImplicit false
set_option autoImplicit false

namespace ObjectCreator

variable {N E S : Type} {store : ObjectStore S N E} {modules : Modules N E} {α β : Type}

/-! ### Keeping an object -/

/-- An object is made, and kept at a path. -/
def keep (f : Failure → Failure) (path : Path) (p : Create N E (Value N E)) :
    Create N E (Value N E) :=
  Prog.mapError f (do
    let object ← p
    perform (.setObject path object)
    .ret object)

section Keep

variable {σ : Type} {h : (o : Op N E) → σ → Except Failure o.Resp × σ} {s s' s'' : σ}
  {f : Failure → Failure} {path : Path} {p : Create N E (Value N E)} {v : Value N E} {e : Failure}

/-- An object that is made is kept. -/
theorem run_keep_of_ok (hp : p.run h s = (.ok v, s'))
    (hset : h (.setObject path v) s' = (.ok (), s'')) :
    (keep f path p).run h s = (.ok v, s'') := by
  have hperform : (perform (.setObject path v)).run h s' = (.ok (), s'') := by
    rw [perform, Prog.run_perform, hset]
  exact Prog.run_mapError_of_ok ((Prog.run_bind_of_ok hp).trans (Prog.run_bind_of_ok hperform))

/-- Unless there is no place for it. -/
theorem run_keep_of_refused (hp : p.run h s = (.ok v, s'))
    (hset : h (.setObject path v) s' = (.error e, s'')) :
    (keep f path p).run h s = (.error (f e), s'') := by
  have hperform : (perform (.setObject path v)).run h s' = (.error e, s'') := by
    rw [perform, Prog.run_perform, hset]
  exact Prog.run_mapError_of_error
    ((Prog.run_bind_of_ok hp).trans (Prog.run_bind_of_error hperform))

/-- One that is not made is not. -/
theorem run_keep_of_throw (hp : p.run h s = (.error e, s')) :
    (keep f path p).run h s = (.error (f e), s') :=
  Prog.run_mapError_of_error (Prog.run_bind_of_error hp)

theorem run_keep_of_error (hp : (p.run h s).1 = .error e) :
    ((keep f path p).run h s).1 = .error (f e) := by
  rcases hrun : p.run h s with ⟨r, s'⟩
  rw [hrun] at hp
  rw [run_keep_of_throw (hrun.trans (congrArg (·, s') hp))]

/-- What is kept depends on the run that makes it only. -/
theorem run_keep_congr {q : Create N E (Value N E)} (hrun : p.run h s = q.run h s) :
    (keep f path p).run h s = (keep f path q).run h s := by
  rw [keep, keep, Prog.run_mapError, Prog.run_mapError, Prog.run_bind, Prog.run_bind, hrun]

end Keep

theorem serve_setObject_of_ok {s s' : S} {path : Path} {v : Value N E}
    (hset : store.set s path v = .ok s') :
    serve store modules (.setObject path v) s = (.ok (), s') := by
  rw [serve, hset]

/-! ### Running on a store -/

section Run

variable {s : S} {path : Path}

variable [JsNumber N] {host : Host N} {config : Json N} {pointer : Json N}

theorem run_objectFromPointer_of_error {e : JsError} (hcompile : host.compile pointer = .error e)
    (fuel : ℕ) :
    (objectFromPointer host config (fuel + 1) pointer).run (serve store modules) s =
      (.error (.ofError e), s) := by
  rw [objectFromPointer, lift, hcompile]
  rfl

/-- The reading of `objects` comes first. -/
theorem run_objectFromPointer (hcompile : host.compile pointer = .ok path) (fuel : ℕ) :
    (objectFromPointer host config (fuel + 1) pointer).run (serve store modules) s =
      if (store.get s path).truthy then (settle (store.get s path)).run (serve store modules) s
      else
        Prog.run (serve store modules)
          (match configAt host config path with
          | none => fail (pointerError "Pointer not found: ".toList pointer)
          | some objectConfig =>
              keep (Failure.map (whileCreating pointer)) path
                (objectFromNode host (objectFromPointer host config fuel) objectConfig)) s := by
  rw [objectFromPointer, lift, hcompile]
  change Prog.run (serve store modules) (if (store.get s path).truthy then _ else _) s = _
  split
  · rfl
  · rfl

end Run

/-! ### Giving up -/

/-- What runs the code of modules leaves `objects` alone, and gives the same on every store. -/
theorem RunsOnly.run_serve {S' : Type} {C : Code N E → Prop} {p : Create N E α}
    (hp : RunsOnly C p) (store : ObjectStore S N E) (modules : Modules N E) (s : S)
    (store' : ObjectStore S' N E) (s' : S') :
    p.run (serve store modules) s = ((p.run (serve store' modules) s').1, s) := by
  induction p with
  | ret a => rfl
  | throw e => exact hp.elim
  | call o k ih =>
      cases o with
      | code c =>
          rw [Prog.run_call, Prog.run_call, serve, serve]
          rcases modules.run c with e | a
          · change Prog.run _ (k (.error (.error e))) s = _
            change _ = ((Prog.run _ (k (.error (.error e))) s').1, s)
            rw [hp.2.2 (.error e)]
            rfl
          · exact ih (.ok a) (hp.2.1 a)
      | _ => exact hp.elim

/-- It does not give up. -/
theorem RunsOnly.run_ends {C : Code N E → Prop} {p : Create N E α} (hp : RunsOnly C p)
    (store : ObjectStore S N E) (modules : Modules N E) (s : S) :
    (p.run (serve store modules) s).1 ≠ .error .outOfFuel := by
  have hstays : ∀ c a s s', serve store modules (.code c) s = (.ok a, s') → s' = s := by
    intro c a s s' h
    exact (congrArg Prod.snd h).symm
  rcases hp.run_cases hstays s with ⟨a, hrun⟩ | ⟨c, -, e, s', hcode, hrun⟩
  · rw [hrun]
    exact (by cases ·)
  · rw [hrun]
    rintro heq
    cases heq
    have hfailed := congrArg Prod.fst hcode
    rw [serve] at hfailed
    cases hc : modules.run c with
    | ok a =>
        rw [hc] at hfailed
        cases hfailed
    | error e =>
        rw [hc] at hfailed
        cases hfailed

/-- A `catch` does not give up either. -/
theorem run_mapError_ends {p : Create N E α} {f : JsError → JsError} {s : S}
    (h : (p.run (serve store modules) s).1 ≠ .error .outOfFuel) :
    ((p.mapError (Failure.map f)).run (serve store modules) s).1 ≠ .error .outOfFuel := by
  rcases hrun : p.run (serve store modules) s with ⟨(_ | e) | a, s'⟩
  · rw [hrun] at h
    exact absurd rfl h
  · rw [Prog.run_mapError_of_error hrun]
    exact (by cases ·)
  · rw [Prog.run_mapError_of_ok hrun]
    exact (by cases ·)

/-- A run that does not give up stays. -/
theorem compatible_stays (store : ObjectStore S N E) (modules : Modules N E) :
    Compatible fun _ _ (p q : Create N E _) =>
      ∀ s, (p.run (serve store modules) s).1 ≠ .error .outOfFuel →
        q.run (serve store modules) s = p.run (serve store modules) s where
  ret _ _ _ := rfl
  fail _ _ _ := rfl
  settle _ _ _ := rfl
  getMember _ _ _ _ := rfl
  tryInstantiate _ _ _ _ _ _ := rfl
  bind := by
    intro _ _ _ _ p q f g hp hf s h
    rcases hrun : p.run (serve store modules) s with ⟨e | a, s'⟩
    · rw [Prog.run_bind_of_error hrun] at h ⊢
      have hne : (p.run (serve store modules) s).1 ≠ .error .outOfFuel := by
        rw [hrun]
        exact fun hfuel => h (congrArg _ (Except.error.inj hfuel))
      exact Prog.run_bind_of_error ((hp s hne).trans hrun)
    · rw [Prog.run_bind_of_ok hrun] at h ⊢
      have hne : (p.run (serve store modules) s).1 ≠ .error .outOfFuel := by
        rw [hrun]
        exact (by cases ·)
      rw [Prog.run_bind_of_ok ((hp s hne).trans hrun)]
      exact hf a s' h

/-- No run gives up. -/
theorem compatible_ends (store : ObjectStore S N E) (modules : Modules N E) :
    Compatible fun _ _ (p _ : Create N E _) =>
      ∀ s, (p.run (serve store modules) s).1 ≠ .error .outOfFuel where
  ret _ _ := (by cases ·)
  fail _ _ := (by cases ·)
  settle object s :=
    (runsOnly_runCode (C := fun _ => True) trivial).run_ends store modules s
  getMember object pointer s :=
    (runsOnly_runCode (C := fun _ => True) trivial).run_ends store modules s
  tryInstantiate module name kind resolvedArgs s := run_mapError_ends
    ((runsOnly_instantiate module name kind resolvedArgs).run_ends store modules s)
  bind := by
    intro _ _ _ _ p _ f _ hp hf s
    have hfirst := hp s
    rcases hrun : p.run (serve store modules) s with ⟨e | a, s'⟩
    · rw [hrun] at hfirst
      rw [Prog.run_bind_of_error hrun]
      exact fun h => hfirst (congrArg _ (Except.error.inj h))
    · rw [Prog.run_bind_of_ok hrun]
      exact hf a s'

/-- Keeping an object does not give up. -/
theorem run_keep_ends {p : Create N E (Value N E)} {f : JsError → JsError} {s : S} {path : Path}
    (h : (p.run (serve store modules) s).1 ≠ .error .outOfFuel) :
    ((keep (Failure.map f) path p).run (serve store modules) s).1 ≠ .error .outOfFuel := by
  rcases hrun : p.run (serve store modules) s with ⟨(_ | e) | v, s'⟩
  · rw [hrun] at h
    exact absurd rfl h
  · rw [run_keep_of_throw hrun]
    exact (by cases ·)
  · cases hset : store.set s' path v with
    | ok s'' =>
        rw [run_keep_of_ok hrun (serve_setObject_of_ok hset)]
        exact (by cases ·)
    | error e =>
        have hrefused : serve store modules (.setObject path v) s' = (.error (.error e), s') := by
          rw [serve, hset]
        rw [run_keep_of_refused hrun hrefused]
        exact (by cases ·)

/-! ### The evaluators -/

variable [JsNumber N] {host : Host N} {config : Json N}

theorem run_objectFromPointer_succ {fuel : ℕ} {pointer : Json N} {s : S}
    (h : ((objectFromPointer host config fuel pointer).run (serve store modules) s).1 ≠
      .error .outOfFuel) :
    (objectFromPointer host config (fuel + 1) pointer).run (serve store modules) s =
      (objectFromPointer host config fuel pointer).run (serve store modules) s := by
  induction fuel generalizing pointer s with
  | zero => exact absurd rfl h
  | succ fuel ih =>
      cases hcompile : host.compile pointer with
      | error e =>
          rw [run_objectFromPointer_of_error hcompile, run_objectFromPointer_of_error hcompile]
      | ok path =>
          rw [run_objectFromPointer hcompile] at h ⊢
          rw [run_objectFromPointer hcompile]
          split_ifs at h ⊢ with htruthy
          · rfl
          cases hnode : configAt host config path with
          | none => rfl
          | some objectConfig =>
              rw [hnode] at h
              refine run_keep_congr ?_
              refine objectFromNode_rel (compatible_stays store modules) host
                (objectFromPointer host config fuel) (objectFromPointer host config (fuel + 1))
                objectConfig (fun _ _ _ => ih) s fun hfuel => h ?_
              exact run_keep_of_error hfuel

/-- **More nested pointers change no run that does not give up.** -/
theorem run_objectFromPointer_of_le {fuel fuel' : ℕ} {pointer : Json N} {s : S}
    (hle : fuel ≤ fuel')
    (h : ((objectFromPointer host config fuel pointer).run (serve store modules) s).1 ≠
      .error .outOfFuel) :
    (objectFromPointer host config fuel' pointer).run (serve store modules) s =
      (objectFromPointer host config fuel pointer).run (serve store modules) s := by
  induction hle with
  | refl => rfl
  | step _ ih => rw [run_objectFromPointer_succ (by rw [ih]; exact h), ih]

/-- **Nor any call.** -/
theorem run_createObjects_of_le {fuel fuel' : ℕ} {pointers : List (Text × Text)} {s : S}
    (hle : fuel ≤ fuel')
    (h : ((createObjects host config fuel pointers).run (serve store modules) s).1 ≠
      .error .outOfFuel) :
    (createObjects host config fuel' pointers).run (serve store modules) s =
      (createObjects host config fuel pointers).run (serve store modules) s := by
  rw [createObjects] at h ⊢
  rw [createObjects]
  split_ifs at h ⊢
  · rfl
  · exact createFrom_rel (compatible_stays store modules) host config fuel fuel' pointers {}
      (fun _ _ _ => run_objectFromPointer_of_le hle) s h

/-! ### Runs end -/

/-- Finitely many bounds have a common one. -/
theorem exists_bound {ι : Type} {P : ι → ℕ → Prop} {l : List ι}
    (h : ∀ i ∈ l, ∃ bound, ∀ n ≥ bound, P i n) : ∃ bound, ∀ n ≥ bound, ∀ i ∈ l, P i n := by
  induction l with
  | nil => exact ⟨0, fun _ _ _ hi => by cases hi⟩
  | cons i l ih =>
      obtain ⟨first, hfirst⟩ := h i List.mem_cons_self
      obtain ⟨rest, hrest⟩ := ih fun j hj => h j (List.mem_cons_of_mem i hj)
      refine ⟨max first rest, fun n hn => List.forall_mem_cons.2 ⟨?_, ?_⟩⟩
      · exact hfirst n (le_trans (le_max_left first rest) hn)
      · exact hrest n (le_trans (le_max_right first rest) hn)

/-- A pointer that leads nowhere, or to a path whose runs do not give up, does not give up. -/
theorem objectFromPointer_ends_of_compile {pointer : Json N}
    (h : ∀ path, host.compile pointer = .ok path →
      ∃ bound, ∀ fuel ≥ bound, ∀ pointer, host.compile pointer = .ok path → ∀ s : S,
        ((objectFromPointer host config fuel pointer).run (serve store modules) s).1 ≠
          .error .outOfFuel) :
    ∃ bound, ∀ fuel ≥ bound, ∀ s : S,
      ((objectFromPointer host config fuel pointer).run (serve store modules) s).1 ≠
        .error .outOfFuel := by
  cases hcompile : host.compile pointer with
  | error e =>
      refine ⟨1, fun fuel hfuel s => ?_⟩
      obtain ⟨fuel, rfl⟩ := Nat.exists_eq_add_of_le' hfuel
      rw [run_objectFromPointer_of_error hcompile]
      exact (by cases ·)
  | ok path =>
      obtain ⟨bound, hbound⟩ := h path hcompile
      exact ⟨bound, fun fuel hfuel => hbound fuel hfuel pointer hcompile⟩

/-- A path below which references end does not give up. -/
theorem objectFromPointer_ends_of_acc (store : ObjectStore S N E) (modules : Modules N E)
    {path : Path} (hacc : Acc (fun q p => Refers host config p q) path) :
    ∃ bound, ∀ fuel ≥ bound, ∀ pointer, host.compile pointer = .ok path → ∀ s,
      ((objectFromPointer host config fuel pointer).run (serve store modules) s).1 ≠
        .error .outOfFuel := by
  induction hacc with
  | intro path _ ih =>
      cases hnode : configAt host config path with
      | none =>
          refine ⟨1, fun fuel hfuel pointer hcompile s => ?_⟩
          obtain ⟨fuel, rfl⟩ := Nat.exists_eq_add_of_le' hfuel
          rw [run_objectFromPointer hcompile, hnode]
          split
          · exact (runsOnly_settle _).run_ends store modules s
          · exact (by cases ·)
      | some objectConfig =>
          -- the pointers that are followed from here do not give up
          have hrefs : ∃ bound, ∀ fuel ≥ bound, ∀ pointer ∈ nodeRefs objectConfig, ∀ s,
              ((objectFromPointer host config fuel pointer).run (serve store modules) s).1 ≠
                .error .outOfFuel := by
            refine exists_bound fun pointer hpointer => ?_
            exact objectFromPointer_ends_of_compile fun q hcompile =>
              ih q ⟨objectConfig, hnode, pointer, hpointer, hcompile⟩
          obtain ⟨bound, hbound⟩ := hrefs
          refine ⟨bound + 1, fun fuel hfuel pointer hcompile s => ?_⟩
          obtain ⟨fuel, rfl⟩ := Nat.exists_eq_add_of_le' (show 1 ≤ fuel by omega)
          have hends := objectFromNode_rel (compatible_ends store modules) host
            (objectFromPointer host config fuel) (objectFromPointer host config fuel) objectConfig
            (hbound fuel (by omega)) s
          rw [run_objectFromPointer hcompile, hnode]
          split
          · exact (runsOnly_settle _).run_ends store modules s
          · exact run_keep_ends hends

variable {pointers : List (Text × Text)}

/-- **A path that is reached does not give up** when no reached path refers back to itself. -/
theorem objectFromPointer_ends (store : ObjectStore S N E) (modules : Modules N E)
    (hhost : host.LawfulOn config (Reached host config pointers))
    (hacyclic : ∀ p ∈ Reached host config pointers,
      ¬Relation.TransGen (Refers host config) p p)
    {path : Path} (hpath : path ∈ Reached host config pointers) :
    ∃ bound, ∀ fuel ≥ bound, ∀ pointer, host.compile pointer = .ok path → ∀ s,
      ((objectFromPointer host config fuel pointer).run (serve store modules) s).1 ≠
        .error .outOfFuel :=
  objectFromPointer_ends_of_acc store modules (acc_of_acyclic hhost hacyclic hpath)

/-- **Nor does a call.** -/
theorem createObjects_ends_of_acyclic (store : ObjectStore S N E) (modules : Modules N E)
    (hhost : host.LawfulOn config (Reached host config pointers))
    (hacyclic : ∀ p ∈ Reached host config pointers,
      ¬Relation.TransGen (Refers host config) p p) :
    ∃ bound, ∀ fuel ≥ bound, ∀ s,
      ((createObjects host config fuel pointers).run (serve store modules) s).1 ≠
        .error .outOfFuel := by
  have hrequests : ∃ bound, ∀ fuel ≥ bound, ∀ request ∈ pointers, ∀ s,
      ((objectFromPointer host config fuel (.str request.2)).run (serve store modules) s).1 ≠
        .error .outOfFuel := by
    refine exists_bound fun request hrequest => ?_
    exact objectFromPointer_ends_of_compile fun path hcompile =>
      objectFromPointer_ends store modules hhost hacyclic
        (reached_of_requested ⟨request, hrequest, hcompile⟩)
  obtain ⟨bound, hbound⟩ := hrequests
  refine ⟨bound, fun fuel hfuel s => ?_⟩
  rw [createObjects]
  split_ifs
  · exact (by cases ·)
  · exact createFrom_rel (compatible_ends store modules) host config fuel fuel pointers {}
      (hbound fuel hfuel) s

end ObjectCreator
