/-
**When a call of `createObjects` ends.**

The object at a pointer is kept when it is complete, so nothing marks the pointers whose objects are
being created.  When the evaluation comes back to such a pointer and finds nothing truthy there, it
starts again with the same part of the configuration, and a reference that leads back to itself is
followed for ever.

Since a configuration has finitely many pointers, this is the only way in which a call does not end:
a run in which no pointer is started inside of itself has an end, whatever modules do and whatever
the pointers have in common.  References without cycles never lead back.

Every pointer that is started and not finished is in a `try`, whose `catch` adds the pointer to the
message of what was thrown.  If the message cannot be read, as of a promise that was rejected with
`undefined`, the `catch` itself throws, and it is left to the next one around it.  What is found is
awaited outside of the `try` of its own pointer.  If something is thrown that no `catch` around it
can read, the call ends with an error that names no pointer; otherwise it ends with a value for
every requested pointer, or with an error that names one of them.

Main definitions:

* `ObjectCreator.Watch`, `ObjectCreator.watch` — `objects` with the pointers that were started and
  not finished, whether one of them was started again, and whether something was thrown that no
  `catch` can read;
* `ObjectCreator.Ended` — a value for every requested pointer, or an error that names one.

Main results:

* `ObjectCreator.leaves_objectFromPointer` — a run ends unless a path is started inside of itself;
* `ObjectCreator.leaves_named` — what is thrown can be read by a `catch` around it;
* `ObjectCreator.createObjects_ends` — **a call in which no pointer is started inside of itself
  ends, and its error names a pointer**;
* `ObjectCreator.neverReenters_of_acyclic` — without cycles, no pointer is started inside of itself;
* `ObjectCreator.createObjects_endless` — a call that never ends.
-/

import Vckit.CreateObjects

set_option relaxedAutoImplicit false
set_option autoImplicit false

namespace ObjectCreator

variable {N E S : Type} [JsNumber N]

/-! ### Watching a run -/

/-- `objects`, the paths that were started and not finished, the last one first, whether one of them
was started again, and whether something was thrown that no `catch` around it can read. -/
structure Watch (S : Type) where
  objects : S
  inside : List Path := []
  reentered : Bool := false
  unnamed : Bool := false

/-- Starting a path. -/
def Watch.start (w : Watch S) (path : Path) : Watch S :=
  { w with inside := path :: w.inside, reentered := w.reentered || decide (path ∈ w.inside) }

/-- Throwing something inside of so many `catch` more than there are paths. -/
def Watch.throw (w : Watch S) (catches : ℕ) (e : Thrown) : Watch S :=
  { w with unnamed := w.unnamed || decide (w.inside.length + catches ≤ e.depth) }

/-- The answers of `serve`.  A path at which nothing truthy is found is started, and the last one is
finished when its object is set. -/
def watch (store : ObjectStore S N E) (modules : Modules N E) :
    (o : Op N E) → Watch S → Except Failure o.Resp × Watch S
  | .getObject path, w =>
      (.ok (store.get w.objects path),
        if (store.get w.objects path).truthy then w else w.start path)
  | .setObject path object, w =>
      match store.set w.objects path object with
      | .ok objects => (.ok (), { w with objects := objects, inside := w.inside.tail })
      | .error e => (.error (.error e), w.throw 0 e)
  | .code c, w =>
      match modules.run c with
      | .ok a => (.ok a, w)
      -- `objectFromConfig` has a `catch` of its own, but not around everything
      | .error e => (.error (.error e), w.throw (if c.isTried then 1 else 0) e)

variable {store : ObjectStore S N E} {modules : Modules N E} {α : Type}

/-- Watching changes nothing. -/
theorem run_watch (p : Create N E α) (w : Watch S) :
    p.run (serve store modules) w.objects =
      ((p.run (watch store modules) w).1, (p.run (watch store modules) w).2.objects) := by
  refine Prog.run_project (π := Watch.objects) (fun o w => ?_) p w
  cases o with
  | getObject path =>
      rw [serve, watch]
      split <;> rfl
  | setObject path object =>
      rw [serve, watch]
      cases store.set w.objects path object <;> rfl
  | code c =>
      rw [serve, watch]
      cases modules.run c <;> rfl

theorem run_watch_empty (store : ObjectStore S N E) (modules : Modules N E) (p : Create N E α) :
    p.run (serve store modules) store.empty =
      ((p.run (watch store modules) { objects := store.empty }).1,
        (p.run (watch store modules) { objects := store.empty }).2.objects) :=
  run_watch p { objects := store.empty }

section Pointer

variable {host : Host N} {config pointer : Json N} {path : Path}

/-- A pointer is found, or started. -/
theorem run_watch_objectFromPointer (hcompile : host.compile pointer = .ok path) (fuel : ℕ)
    (w : Watch S) :
    (objectFromPointer host config (fuel + 1) pointer).run (watch store modules) w =
      if (store.get w.objects path).truthy then
        (settle (store.get w.objects path)).run (watch store modules) w
      else
        Prog.run (watch store modules)
          (match configAt host config path with
          | none => fail (pointerError "Pointer not found: ".toList pointer)
          | some objectConfig =>
              keep (Failure.map (whileCreating pointer)) path
                (objectFromNode host (objectFromPointer host config fuel) objectConfig))
          (w.start path) := by
  rw [objectFromPointer, lift, hcompile]
  change Prog.run (watch store modules) (if (store.get w.objects path).truthy then _ else _)
    (if (store.get w.objects path).truthy then w else w.start path) = _
  split
  · rfl
  · rfl

end Pointer

/-! ### What a run leaves -/

/-- An outcome: with a value what was started since is finished and the rest is as `kept` says, with
a failure it is as `thrown` says. -/
structure Leaves (kept : Watch S → Prop) (thrown : Failure → Watch S → Prop) (inside : List Path)
    (outcome : Except Failure α × Watch S) : Prop where
  ok {a : α} : outcome.1 = .ok a → outcome.2.inside = inside ∧ kept outcome.2
  error {e : Failure} : outcome.1 = .error e → thrown e outcome.2

/-- What may be thrown when some paths were started and not finished: errors of the evaluators, what
modules throw, and what is made of it by the `catch` of `objectFromConfig`. -/
structure Throws (kept : Watch S → Prop) (thrown : Failure → Watch S → Prop)
    (inside : List Path) : Prop where
  fail {w : Watch S} (e : JsError) (hw : w.inside = inside) (h : kept w) : thrown (.ofError e) w
  code {w : Watch S} (e : Thrown) (hw : w.inside = inside) (h : kept w) :
    thrown (.error e) (w.throw 0 e)
  tried {w : Watch S} (f : JsError → JsError) (e : Thrown) (hw : w.inside = inside) (h : kept w) :
    thrown (.error (e.rethrow f)) (w.throw 1 e)

section Leaves

variable {kept : Watch S → Prop} {thrown thrown' : Failure → Watch S → Prop} {L : List Path}

theorem leaves_ok (a : α) {w : Watch S} (hw : w.inside = L) (hkept : kept w) :
    Leaves kept thrown L (.ok a, w) :=
  ⟨fun _ => ⟨hw, hkept⟩, (by cases ·)⟩

theorem leaves_error {e : Failure} {w : Watch S} (h : thrown e w) :
    Leaves kept thrown L ((.error e, w) : Except Failure α × Watch S) :=
  ⟨(by cases ·), fun heq => Except.error.inj heq ▸ h⟩

theorem Leaves.imp {kept' : Watch S → Prop} {outcome : Except Failure α × Watch S}
    (h : Leaves kept thrown L outcome) (hkept : ∀ w, kept w → kept' w)
    (hthrown : ∀ e w, thrown e w → thrown' e w) : Leaves kept' thrown' L outcome :=
  ⟨fun heq => ⟨(h.ok heq).1, hkept _ (h.ok heq).2⟩, fun heq => hthrown _ _ (h.error heq)⟩

/-- Running code gives something and changes nothing, or throws. -/
theorem RunsOnly.run_watch {C : Code N E → Prop} {p : Create N E α} (hp : RunsOnly C p)
    (store : ObjectStore S N E) (modules : Modules N E) (w : Watch S) :
    (∃ a, p.run (watch store modules) w = (.ok a, w)) ∨
      ∃ c, C c ∧ ∃ e, p.run (watch store modules) w =
        (.error (.error e), w.throw (if c.isTried then 1 else 0) e) := by
  have hstays : ∀ c a w w', watch store modules (.code c) w = (.ok a, w') → w' = w := by
    intro c a w w' h
    rw [watch] at h
    cases hc : modules.run c with
    | ok a =>
        rw [hc] at h
        exact (congrArg Prod.snd h).symm
    | error e =>
        rw [hc] at h
        cases congrArg Prod.fst h
  rcases hp.run_cases hstays w with hok | ⟨c, hc, e, w', hcode, hrun⟩
  · exact Or.inl hok
  · refine Or.inr ⟨c, hc, ?_⟩
    rw [watch] at hcode
    cases hresult : modules.run c with
    | ok a =>
        rw [hresult] at hcode
        cases congrArg Prod.fst hcode
    | error e' =>
        rw [hresult] at hcode
        cases hcode
        exact ⟨e', hrun⟩

/-- Awaiting a value. -/
theorem leaves_of_not_tried (hthrows : Throws kept thrown L) {p : Create N E α}
    (hp : RunsOnly (fun c => c.isTried = false) p) {w : Watch S} (hw : w.inside = L)
    (hkept : kept w) : Leaves kept thrown L (p.run (watch store modules) w) := by
  rcases hp.run_watch store modules w with ⟨a, hrun⟩ | ⟨c, hc, e, hrun⟩
  · rw [hrun]
    exact leaves_ok a hw hkept
  · rw [hrun, hc]
    exact leaves_error (hthrows.code e hw hkept)

theorem compatible_leaves (hthrows : Throws kept thrown L) (store : ObjectStore S N E)
    (modules : Modules N E) :
    Compatible fun _ _ (p _ : Create N E _) =>
      ∀ w : Watch S, w.inside = L → kept w →
        Leaves kept thrown L (p.run (watch store modules) w) where
  ret a _ hw hkept := leaves_ok a hw hkept
  fail e _ hw hkept := leaves_error (hthrows.fail e hw hkept)
  settle object _ := leaves_of_not_tried hthrows (runsOnly_runCode rfl)
  getMember object pointer _ := leaves_of_not_tried hthrows (runsOnly_runCode rfl)
  tryInstantiate := by
    intro module name kind resolvedArgs w hw hkept
    rw [tryInstantiate]
    rcases (runsOnly_instantiate module name kind resolvedArgs).run_watch store modules w with
      ⟨a, hrun⟩ | ⟨c, hc, e, hrun⟩
    · rw [Prog.run_mapError_of_ok hrun]
      exact leaves_ok a hw hkept
    · rw [Prog.run_mapError_of_error hrun, hc]
      exact leaves_error (hthrows.tried _ e hw hkept)
  bind := by
    intro _ _ _ _ p _ f _ hp hf w hw hkept
    have hfirst := hp w hw hkept
    rcases hrun : p.run (watch store modules) w with ⟨e | a, w'⟩
    · rw [hrun] at hfirst
      rw [Prog.run_bind_of_error hrun]
      exact leaves_error (hfirst.error rfl)
    · rw [hrun] at hfirst
      rw [Prog.run_bind_of_ok hrun]
      exact hf a w' (hfirst.ok rfl).1 (hfirst.ok rfl).2

/-- An object that is made is kept, and its path is finished; what is thrown is caught. -/
theorem leaves_kept {w : Watch S} {path : Path} {f : JsError → JsError}
    {p : Create N E (Value N E)} (hthrows : Throws kept thrown (path :: w.inside))
    (hfinish : ∀ w' objects, kept w' →
      kept { w' with objects := objects, inside := w'.inside.tail })
    (hcatch : ∀ e w', thrown e w' → thrown' (Failure.map f e) w')
    (hp : Leaves kept thrown (path :: w.inside)
      (p.run (watch store modules) (w.start path))) :
    Leaves kept thrown' w.inside
      ((keep (Failure.map f) path p).run (watch store modules) (w.start path)) := by
  rcases hrun : p.run (watch store modules) (w.start path) with ⟨e | v, w'⟩
  · rw [hrun] at hp
    rw [run_keep_of_throw hrun]
    exact leaves_error (hcatch e w' (hp.error rfl))
  · rw [hrun] at hp
    obtain ⟨hinside, hkept⟩ := hp.ok rfl
    rcases hset : store.set w'.objects path v with e | objects
    · have hwatch : watch store modules (.setObject path v) w' =
          (.error (.error e), w'.throw 0 e) := by
        rw [watch, hset]
      rw [run_keep_of_refused hrun hwatch]
      exact leaves_error (hcatch _ _ (hthrows.code e hinside hkept))
    · have hwatch : watch store modules (.setObject path v) w' =
          (.ok (), { w' with objects := objects, inside := w'.inside.tail }) := by
        rw [watch, hset]
      rw [run_keep_of_ok hrun hwatch]
      exact leaves_ok v (congrArg List.tail hinside) (hfinish w' objects hkept)

end Leaves

/-! ### The end of a run -/

section End

variable {host : Host N} {config : Json N} {pointers : List (Text × Text)}

/-- There is room for as many paths to be started as fuel is left. -/
structure Room (paths : Finset Path) (fuel : ℕ) (inside : List Path) : Prop where
  nodup : inside.Nodup
  mem : ∀ p ∈ inside, p ∈ paths
  card_lt : paths.card < fuel + inside.length

theorem not_room_zero {paths : Finset Path} {inside : List Path} : ¬Room paths 0 inside := by
  intro h
  have hsubset : inside.toFinset ⊆ paths := fun p hp => h.mem p (List.mem_toFinset.1 hp)
  have hcard := Finset.card_le_card hsubset
  rw [List.toFinset_card_of_nodup h.nodup] at hcard
  have hlt := h.card_lt
  omega

theorem Room.start {paths : Finset Path} {fuel : ℕ} {inside : List Path} {path : Path}
    (h : Room paths (fuel + 1) inside) (hpath : path ∈ paths) (hnew : path ∉ inside) :
    Room paths fuel (path :: inside) where
  nodup := List.nodup_cons.2 ⟨hnew, h.nodup⟩
  mem := List.forall_mem_cons.2 ⟨hpath, h.mem⟩
  card_lt := by
    have hlt := h.card_lt
    rw [List.length_cons]
    omega

/-- A flag that was set stays set, and it is set when fuel runs out. -/
def flagged (before : Bool) (e : Failure) (w : Watch S) : Prop :=
  (before = true → w.reentered = true) ∧ (e = .outOfFuel → w.reentered = true)

theorem throws_flagged (before : Bool) (L : List Path) :
    Throws (fun w : Watch S => before = true → w.reentered = true) (flagged before) L where
  fail _ _ h := ⟨h, (by cases ·)⟩
  code _ _ h := ⟨h, (by cases ·)⟩
  tried _ _ _ h := ⟨h, (by cases ·)⟩

theorem flagged_map {before : Bool} (f : JsError → JsError) (e : Failure) (w : Watch S)
    (h : flagged before e w) : flagged before (Failure.map f e) w := by
  cases e with
  | outOfFuel => exact h
  | error e => exact ⟨h.1, (by cases ·)⟩

/-- **A run ends unless a path is started inside of itself**: with every path that is started and
not finished there is one less to come. -/
theorem leaves_objectFromPointer (store : ObjectStore S N E) (modules : Modules N E)
    {paths : Finset Path}
    (hpaths : ∀ p ∈ Reached host config pointers, p ∈ paths) (fuel : ℕ) (pointer : Json N)
    (hpointer : ∀ path, host.compile pointer = .ok path → path ∈ Reached host config pointers)
    (w : Watch S) (hroom : w.reentered = false → Room paths fuel w.inside) :
    Leaves (fun w' => w.reentered = true → w'.reentered = true) (flagged w.reentered) w.inside
      ((objectFromPointer host config fuel pointer).run (watch store modules) w) := by
  induction fuel generalizing pointer w with
  | zero =>
      have hflag : w.reentered = true := by
        by_contra hflag
        exact not_room_zero (hroom (Bool.eq_false_iff.2 hflag))
      exact leaves_error ⟨id, fun _ => hflag⟩
  | succ fuel ih =>
      cases hcompile : host.compile pointer with
      | error e =>
          rw [objectFromPointer, lift, hcompile]
          exact leaves_error ⟨id, (by cases ·)⟩
      | ok path =>
          rw [run_watch_objectFromPointer hcompile]
          split
          · exact leaves_of_not_tried (throws_flagged _ _) (runsOnly_settle _) rfl id
          have hstart : w.reentered = true → (w.start path).reentered = true := by
            intro h
            rw [Watch.start, h, Bool.true_or]
          cases hnode : configAt host config path with
          | none => exact leaves_error ⟨hstart, (by cases ·)⟩
          | some objectConfig =>
              have hpath := hpointer path hcompile
              have hinside : (w.start path).reentered = false →
                  Room paths fuel (path :: w.inside) := by
                intro hfalse
                rw [Watch.start, Bool.or_eq_false_iff, decide_eq_false_iff_not] at hfalse
                exact (hroom hfalse.1).start (hpaths path hpath) hfalse.2
              -- the references of the path are followed with the path inside
              have hrefs : ∀ pointer' ∈ nodeRefs objectConfig, ∀ w' : Watch S,
                  w'.inside = path :: w.inside →
                  ((w.start path).reentered = true → w'.reentered = true) →
                  Leaves (fun w'' => (w.start path).reentered = true → w''.reentered = true)
                    (flagged (w.start path).reentered) (path :: w.inside)
                    ((objectFromPointer host config fuel pointer').run (watch store modules)
                      w') := by
                intro pointer' hpointer' w' hw' hkept
                have hreached : ∀ q, host.compile pointer' = .ok q →
                    q ∈ Reached host config pointers := fun q hq =>
                  reached_of_refers hpath ⟨objectConfig, hnode, pointer', hpointer', hq⟩
                have hnested := ih pointer' hreached w' fun hfalse => hw' ▸ hinside
                  (Bool.eq_false_iff.2 fun h => Bool.eq_false_iff.1 hfalse (hkept h))
                rw [hw'] at hnested
                exact hnested.imp (fun _ h => h ∘ hkept) fun _ _ h => ⟨h.1 ∘ hkept, h.2⟩
              have hmade := objectFromNode_rel
                (compatible_leaves (throws_flagged (w.start path).reentered (path :: w.inside))
                  store modules) host (objectFromPointer host config fuel)
                (objectFromPointer host config fuel) objectConfig hrefs (w.start path) rfl id
              have hends := leaves_kept (f := whileCreating pointer) (throws_flagged _ _)
                (fun _ _ h => h) (flagged_map _) hmade
              exact hends.imp (fun _ h => h ∘ hstart) fun _ _ h => ⟨h.1 ∘ hstart, h.2⟩

/-! ### Names -/

/-- What was thrown can be read by a `catch` around it, of which there are as many as paths that
were started and not finished. -/
def Readable (inside : List Path) (e : Failure) (w : Watch S) : Prop :=
  w.unnamed = false → ∀ t, e = .error t → t.depth < inside.length

theorem throws_readable {L : List Path} (hL : 0 < L.length) :
    Throws (fun _ : Watch S => True) (Readable L) L where
  fail e _ _ _ t ht := by
    rw [← Failure.error.inj ht]
    exact hL
  code {w} e hw _ hnamed t ht := by
    rw [Watch.throw, Bool.or_eq_false_iff, decide_eq_false_iff_not, hw] at hnamed
    rw [← Failure.error.inj ht]
    omega
  -- one `catch` more is around it, and takes it off the number
  tried {w} f e hw _ hnamed t ht := by
    rw [Watch.throw, Bool.or_eq_false_iff, decide_eq_false_iff_not, hw] at hnamed
    rw [← Failure.error.inj ht, Thrown.depth_rethrow]
    omega

/-- A `catch` reads it, or leaves it to the one around it. -/
theorem readable_map {L : List Path} (hL : 0 < L.length) {path : Path} (f : JsError → JsError)
    (e : Failure) (w : Watch S) (h : Readable (path :: L) e w) :
    Readable L (Failure.map f e) w := by
  intro hnamed t ht
  cases e with
  | outOfFuel => cases ht
  | error e =>
      have hdepth := h hnamed e rfl
      rw [List.length_cons] at hdepth
      rw [← Failure.error.inj ht, Thrown.depth_rethrow]
      omega

/-- **What is thrown inside of a pointer can be read by a `catch` around it.** -/
theorem leaves_named (store : ObjectStore S N E) (modules : Modules N E) (host : Host N)
    (config : Json N) (fuel : ℕ) (pointer : Json N) (w : Watch S) (hw : 0 < w.inside.length) :
    Leaves (fun _ => True) (Readable w.inside) w.inside
      ((objectFromPointer host config fuel pointer).run (watch store modules) w) := by
  induction fuel generalizing pointer w with
  | zero => exact leaves_error fun _ _ ht => by cases ht
  | succ fuel ih =>
      cases hcompile : host.compile pointer with
      | error e =>
          rw [objectFromPointer, lift, hcompile]
          exact leaves_error ((throws_readable hw).fail e rfl trivial)
      | ok path =>
          rw [run_watch_objectFromPointer hcompile]
          split
          · exact leaves_of_not_tried (throws_readable hw) (runsOnly_settle _) rfl trivial
          cases hnode : configAt host config path with
          | none =>
              refine leaves_error fun _ t ht => ?_
              rw [← Failure.error.inj ht]
              exact hw
          | some objectConfig =>
              have hinside : 0 < (path :: w.inside).length := Nat.succ_pos _
              refine leaves_kept (throws_readable hinside) (fun _ _ _ => trivial)
                (readable_map hw _) ?_
              refine objectFromNode_rel (compatible_leaves (throws_readable hinside) store modules)
                host (objectFromPointer host config fuel) (objectFromPointer host config fuel)
                objectConfig (fun pointer' _ w' hw' _ => ?_) (w.start path) rfl trivial
              exact hw' ▸ ih pointer' w' (hw' ▸ hinside)

/-! ### What an end is -/

/-- The message of an error names a pointer. -/
def Names (pointer message : Text) : Prop :=
  message = "Pointer not found: ".toList ++ pointer ∨
    ∃ cause, message = cause ++ ". While creating object from pointer: ".toList ++ pointer

/-- A value for every requested pointer, or an error that names one of them. -/
def Ended (pointers : List (Text × Text)) : Except Failure (Value N E) → Prop
  | .ok v => ∃ values, values.length = pointers.length ∧ v = .obj (resultOf pointers values)
  | .error (.error t) => ∃ request ∈ pointers, ∃ e, t = .error e ∧ Names request.2 e.message
  | .error .outOfFuel => False

/-- What was thrown is an error that names a pointer. -/
def Named (pointer : Text) (e : Failure) (w : Watch S) : Prop :=
  w.unnamed = false → ∀ t, e = .error t → ∃ e, t = .error e ∧ Names pointer e.message

/-- The last `catch` adds the pointer to what it reads. -/
theorem named_map {path : Path} (pointer : Text) (e : Failure) (w : Watch S)
    (h : Readable [path] e w) :
    Named pointer (Failure.map (whileCreating (.str pointer : Json N)) e) w := by
  intro hnamed t ht
  cases e with
  | outOfFuel => cases ht
  | error cause =>
      cases cause with
      | error cause =>
          cases ht
          exact ⟨_, rfl, Or.inr ⟨cause.message, rfl⟩⟩
      | unreadable cause =>
          have hdepth := h hnamed _ rfl
          rw [Thrown.depth, List.length_singleton] at hdepth
          omega

/-- **The error of a requested pointer names it.** -/
theorem leaves_request (store : ObjectStore S N E) (modules : Modules N E) (config : Json N)
    {pointer : Text} {path : Path} (hcompile : host.compile (.str pointer) = .ok path) (fuel : ℕ)
    {w : Watch S} (hw : w.inside = []) :
    Leaves (fun _ => True) (Named pointer) []
      ((objectFromPointer host config fuel (.str pointer)).run (watch store modules) w) := by
  cases fuel with
  | zero => exact leaves_error fun _ _ ht => by cases ht
  | succ fuel =>
      rw [run_watch_objectFromPointer hcompile]
      split
      -- what is found is awaited without a `catch`
      · rcases (runsOnly_settle (store.get w.objects path)).run_watch store modules w with
          ⟨v, hrun⟩ | ⟨c, hc, e, hrun⟩
        · rw [hrun]
          exact leaves_ok v hw trivial
        · rw [hrun, hc]
          refine leaves_error fun hnamed => ?_
          rw [Watch.throw, Bool.or_eq_false_iff, decide_eq_false_iff_not, hw] at hnamed
          exact absurd (Nat.zero_le _) hnamed.2
      cases hnode : configAt host config path with
      | none =>
          refine leaves_error fun _ t ht => ?_
          cases ht
          exact ⟨_, rfl, Or.inl rfl⟩
      | some objectConfig =>
          have hinside : 0 < (path :: w.inside).length := Nat.succ_pos _
          have hmade := objectFromNode_rel
            (compatible_leaves (throws_readable hinside) store modules) host
            (objectFromPointer host config fuel) (objectFromPointer host config fuel) objectConfig
            (fun pointer' _ w' hw' _ =>
              hw' ▸ leaves_named store modules host config fuel pointer' w' (hw' ▸ hinside))
            (w.start path) rfl trivial
          have hcatch : ∀ e (w' : Watch S), Readable (path :: w.inside) e w' →
              Named pointer (Failure.map (whileCreating (.str pointer : Json N)) e) w' := by
            intro e w' h
            rw [hw] at h
            exact named_map pointer e w' h
          have hkept := leaves_kept (throws_readable hinside) (fun _ _ _ => trivial) hcatch hmade
          rw [hw] at hkept
          exact hkept

/-- Every requested text that the loop comes to is a JSON pointer. -/
def ReadsPointers (host : Host N) (modules : Modules N E) (store : ObjectStore S N E)
    (config : Json N) (pointers : List (Text × Text)) : Prop :=
  ∀ done request rest, pointers = done ++ request :: rest →
    (∃ fuel result, ((createFrom host config fuel done {}).run (serve store modules)
      store.empty).1 = .ok result) →
    ∃ path, host.compile (.str request.2) = .ok path

/-- The loop assigns a value for every requested pointer. -/
theorem exists_values_of_createFrom {fuel : ℕ} {start result : JsObject (Value N E)} {s s' : S}
    (h : (createFrom host config fuel pointers start).run (serve store modules) s =
      (.ok result, s')) :
    ∃ values, values.length = pointers.length ∧
      result = (pointers.zip values).foldl (fun result a => result.assign a.1.1 a.2) start := by
  induction pointers generalizing start s with
  | nil => exact ⟨[], rfl, (Except.ok.inj (congrArg Prod.fst h)).symm⟩
  | cons request pointers ih =>
      rw [createFrom] at h
      rcases hrun : (objectFromPointer host config fuel (.str request.2)).run
        (serve store modules) s with ⟨e | v, s''⟩
      · rw [Prog.run_bind_of_error hrun] at h
        cases h
      · rw [Prog.run_bind_of_ok hrun] at h
        obtain ⟨values, hlength, hresult⟩ := ih h
        exact ⟨v :: values, congrArg (· + 1) hlength, hresult⟩

/-- The loop stops with an error that names a requested pointer. -/
theorem exists_names_of_createFrom {fuel : ℕ} {start : JsObject (Value N E)} {w w' : Watch S}
    {t : Thrown} (hw : w.inside = [])
    (hread : ∀ done request rest, pointers = done ++ request :: rest →
      (∃ result, ((createFrom host config fuel done start).run (watch store modules) w).1 =
        .ok result) →
      ∃ path, host.compile (.str request.2) = .ok path)
    (h : (createFrom host config fuel pointers start).run (watch store modules) w =
      (.error (.error t), w')) (hnamed : w'.unnamed = false) :
    ∃ request ∈ pointers, ∃ e, t = .error e ∧ Names request.2 e.message := by
  induction pointers generalizing start w with
  | nil => cases h
  | cons request pointers ih =>
      obtain ⟨path, hcompile⟩ := hread [] request pointers rfl ⟨start, rfl⟩
      have hrequest := leaves_request store modules config hcompile fuel hw
      rw [createFrom] at h
      rcases hrun : (objectFromPointer host config fuel (.str request.2)).run
        (watch store modules) w with ⟨e | v, w''⟩
      · rw [hrun] at hrequest
        rw [Prog.run_bind_of_error hrun] at h
        cases h
        exact ⟨request, List.mem_cons_self, hrequest.error rfl hnamed t rfl⟩
      · rw [hrun] at hrequest
        rw [Prog.run_bind_of_ok hrun] at h
        have hrest : ∃ request ∈ pointers, ∃ e, t = .error e ∧ Names request.2 e.message := by
          refine ih (hrequest.ok rfl).1 (fun done other rest heq hdone => ?_) h
          refine hread (request :: done) other rest (congrArg (request :: ·) heq) ?_
          rw [createFrom, Prog.run_bind_of_ok hrun]
          exact hdone
        obtain ⟨other, hother, hnames⟩ := hrest
        exact ⟨other, List.mem_cons_of_mem request hother, hnames⟩

/-- No pointer is started inside of itself. -/
def NeverReenters (host : Host N) (modules : Modules N E) (store : ObjectStore S N E)
    (config : Json N) (pointers : List (Text × Text)) : Prop :=
  ∀ fuel, ((createObjects host config fuel pointers).run (watch store modules)
    { objects := store.empty }).2.reentered = false

/-- Nothing is thrown that no `catch` around it can read. -/
def NeverUnnamed (host : Host N) (modules : Modules N E) (store : ObjectStore S N E)
    (config : Json N) (pointers : List (Text × Text)) : Prop :=
  ∀ fuel, ((createObjects host config fuel pointers).run (watch store modules)
    { objects := store.empty }).2.unnamed = false

/-- The keys of a pointer map that hide the method that the loop calls, or can make a thenable of
the result. -/
def reservedKeys : List Text :=
  ["hasOwnProperty".toList, "then".toList, "__proto__".toList]

omit [JsNumber N] in
/-- Without them the result is given back when it is awaited. -/
theorem settle_resultOf (hkeys : ∀ key ∈ reservedKeys, key ∉ pointers.map Prod.fst)
    (values : List (Value N E)) :
    settle (.obj (resultOf pointers values)) = .ret (.obj (resultOf pointers values)) := by
  have hget : ∀ key ∈ reservedKeys, (resultOf pointers values).get key = none := by
    intro key hkey
    rw [resultOf, get_foldl_assign_of_not_mem (hkeys key hkey), JsObject.get]
    split <;> rfl
  have hproto : (resultOf pointers values).proto = none := by
    have h := hget "__proto__".toList (by decide)
    rwa [JsObject.get, if_pos rfl] at h
  have hthen : property "then".toList (resultOf pointers values).fields = none := by
    have h := hget "then".toList (by decide)
    rwa [JsObject.get, if_neg (by decide)] at h
  rw [settle, hproto, hthen]
  rfl

/-- **A call in which no pointer is started inside of itself ends**, with a value for every
requested pointer; or with an error that names one of them, if nothing is thrown that no `catch`
can read. -/
theorem createObjects_ends (hhost : host.LawfulOn config (Reached host config pointers))
    (hkeys : ∀ key ∈ reservedKeys, key ∉ pointers.map Prod.fst)
    (hread : ReadsPointers host modules store config pointers)
    (hnever : NeverReenters host modules store config pointers)
    (hnamed : NeverUnnamed host modules store config pointers) :
    ∃ outcome, Ended pointers outcome ∧ ∃ bound, ∀ fuel ≥ bound,
      ((awaitObjects host config fuel pointers).run (serve store modules) store.empty).1 =
        outcome := by
  have hcreate : ∀ fuel, (createObjects host config fuel pointers :
      Create N E (JsObject (Value N E))) = createFrom host config fuel pointers {} := by
    intro fuel
    rw [createObjects, property_eq_none_iff.2 (hkeys "hasOwnProperty".toList (by decide))]
    rfl
  have hfinite : (Reached host config pointers).Finite := finite_reached hhost
  -- one more than there are paths is enough
  let bound := hfinite.toFinset.card + 1
  have hends : ((createObjects host config bound pointers).run (serve store modules)
      store.empty).1 ≠ .error .outOfFuel := by
    have hroom : Room hfinite.toFinset bound [] := by
      refine ⟨List.nodup_nil, fun p hp => absurd hp List.not_mem_nil, ?_⟩
      exact Nat.lt_succ_self _
    have hloop := createFrom_rel (compatible_leaves (throws_flagged false []) store modules) host
      config bound bound pointers {}
      (fun request hrequest w hw _ => ?_) { objects := store.empty } rfl id
    · have hfalse := hnever bound
      rw [hcreate] at hfalse ⊢
      rw [run_watch_empty]
      intro hout
      rw [(hloop.error hout).2 rfl] at hfalse
      cases hfalse
    · have hrequest := leaves_objectFromPointer store modules
        (fun p hp => hfinite.mem_toFinset.2 hp) bound (.str request.2)
        (fun path hcompile => reached_of_requested ⟨request, hrequest, hcompile⟩) w
        fun _ => hw ▸ hroom
      rw [hw] at hrequest
      exact hrequest.imp (fun _ _ h => by cases h) fun _ _ h => ⟨(by cases ·), h.2⟩
  have hstays : ∀ fuel ≥ bound,
      (awaitObjects host config fuel pointers).run (serve store modules) store.empty =
        (awaitObjects host config bound pointers).run (serve store modules) store.empty := by
    intro fuel hfuel
    rw [awaitObjects, awaitObjects, Prog.run_bind, Prog.run_bind,
      run_createObjects_of_le hfuel hends]
  refine ⟨_, ?_, bound, fun fuel hfuel => congrArg Prod.fst (hstays fuel hfuel)⟩
  rw [awaitObjects, Prog.run_bind]
  rcases hrun : (createObjects host config bound pointers).run (serve store modules)
    store.empty with ⟨(_ | t) | result, s⟩
  · exact absurd (congrArg Prod.fst hrun) hends
  · have hfailed := run_watch_empty store modules (createObjects host config bound pointers)
    rw [hrun] at hfailed
    have hunnamed := hnamed bound
    rw [hcreate] at hfailed hunnamed
    have hinside : ({ objects := store.empty } : Watch S).inside = [] := rfl
    refine exists_names_of_createFrom hinside (fun done request rest heq hdone => ?_)
      (Prod.ext (congrArg Prod.fst hfailed).symm rfl) hunnamed
    obtain ⟨result, hresult⟩ := hdone
    refine hread done request rest heq ⟨bound, result, ?_⟩
    rw [run_watch_empty]
    exact hresult
  · rw [hcreate] at hrun
    obtain ⟨values, hlength, rfl⟩ := exists_values_of_createFrom hrun
    have hsettle := settle_resultOf hkeys values
    rw [resultOf] at hsettle
    dsimp only
    rw [hsettle]
    exact ⟨values, hlength, rfl⟩

/-! ### Without cycles -/

theorem throws_unflagged (L : List Path) :
    Throws (fun w : Watch S => w.reentered = false) (fun _ w => w.reentered = false) L where
  fail _ _ h := h
  code _ _ h := h
  tried _ _ _ h := h

/-- When the paths that were started and not finished lead to a path, and none leads back to itself,
no path is started again. -/
theorem unflagged_objectFromPointer
    (hacyclic : ∀ p ∈ Reached host config pointers,
      ¬Relation.TransGen (Refers host config) p p) (fuel : ℕ) (pointer : Json N) (w : Watch S)
    (hpointer : ∀ path, host.compile pointer = .ok path → path ∈ Reached host config pointers ∧
      ∀ p ∈ w.inside, Relation.TransGen (Refers host config) p path)
    (hw : w.reentered = false) :
    Leaves (fun w' => w'.reentered = false) (fun _ w' => w'.reentered = false) w.inside
      ((objectFromPointer host config fuel pointer).run (watch store modules) w) := by
  induction fuel generalizing pointer w with
  | zero => exact leaves_error hw
  | succ fuel ih =>
      cases hcompile : host.compile pointer with
      | error e =>
          rw [objectFromPointer, lift, hcompile]
          exact leaves_error hw
      | ok path =>
          rw [run_watch_objectFromPointer hcompile]
          split
          · exact leaves_of_not_tried (throws_unflagged _) (runsOnly_settle _) rfl hw
          obtain ⟨hpath, hleads⟩ := hpointer path hcompile
          have hnew : path ∉ w.inside := fun hmem => hacyclic path hpath (hleads path hmem)
          have hstart : (w.start path).reentered = false := by
            rw [Watch.start, hw, Bool.false_or]
            exact decide_eq_false hnew
          cases hnode : configAt host config path with
          | none => exact leaves_error hstart
          | some objectConfig =>
              refine leaves_kept (throws_unflagged _) (fun _ _ h => h) (fun _ _ h => h) ?_
              refine objectFromNode_rel (compatible_leaves (throws_unflagged _) store modules) host
                (objectFromPointer host config fuel) (objectFromPointer host config fuel)
                objectConfig (fun pointer' hpointer' w' hw' hfalse => ?_) (w.start path) rfl hstart
              rw [← hw']
              refine ih pointer' w' (fun q hq => ?_) hfalse
              have hrefers : Refers host config path q :=
                ⟨objectConfig, hnode, pointer', hpointer', hq⟩
              rw [hw']
              exact ⟨reached_of_refers hpath hrefers, List.forall_mem_cons.2
                ⟨.single hrefers, fun p hp => (hleads p hp).tail hrefers⟩⟩

/-- **Without cycles no pointer is started inside of itself.** -/
theorem neverReenters_of_acyclic
    (hacyclic : ∀ p ∈ Reached host config pointers,
      ¬Relation.TransGen (Refers host config) p p) :
    NeverReenters host modules store config pointers := by
  intro fuel
  rw [createObjects]
  split_ifs
  · rfl
  have hloop := createFrom_rel (compatible_leaves (throws_unflagged []) store modules) host config
    fuel fuel pointers {} (fun request hrequest w hw hfalse => hw ▸
      unflagged_objectFromPointer hacyclic fuel (.str request.2) w (fun path hcompile =>
        ⟨reached_of_requested ⟨request, hrequest, hcompile⟩, fun p hp => by
          rw [hw] at hp
          cases hp⟩) hfalse) { objects := store.empty } rfl rfl
  rcases hrun : (createFrom host config fuel pointers {}).run (watch store modules)
    { objects := store.empty } with ⟨e | result, w⟩
  · rw [hrun] at hloop
    exact hloop.error rfl
  · rw [hrun] at hloop
    exact (hloop.ok rfl).2

theorem readsPointers_of_compile
    (h : ∀ request ∈ pointers, ∃ path, host.compile (.str request.2) = .ok path) :
    ReadsPointers host modules store config pointers := by
  rintro done request rest rfl -
  exact h request (List.mem_append_right _ List.mem_cons_self)

end End

/-- The endpoint and its URL are created, or the call fails. -/
theorem createObjects_ends_endpoint :
    ∃ outcome, Ended endpointPointers outcome ∧ ∃ bound, ∀ fuel ≥ bound,
      ((awaitObjects (plainHost : Host ℤ) endpointConfig fuel endpointPointers).run
        (serve treeStore plainModules) treeStore.empty).1 = outcome := by
  refine createObjects_ends plainHost_lawful (by decide +kernel) (readsPointers_of_compile ?_)
    (neverReenters_of_acyclic fun p _ => not_transGen_endpoint p) ?_
  · exact List.forall_mem_cons.2 ⟨⟨_, rfl⟩, List.forall_mem_cons.2
      ⟨⟨_, rfl⟩, fun _ h => absurd h List.not_mem_nil⟩⟩
  · rintro (_ | _ | fuel) <;> rfl

/-! ### A call that does not end -/

/-- An array whose second item refers to the array. -/
def cyclicConfig : Json ℤ :=
  .obj [("a".toList, .arr [.str "x".toList, .obj [("$ref".toList, .str "/a".toList)]])]

theorem run_cyclicConfig (fuel : ℕ) :
    (objectFromPointer (plainHost : Host ℤ) cyclicConfig fuel (.str "/a".toList)).run
      (serve treeStore plainModules) treeStore.empty = (.error .outOfFuel, treeStore.empty) := by
  induction fuel with
  | zero => rfl
  | succ fuel ih =>
      have hrefs : (objectFromNode (plainHost : Host ℤ)
          (objectFromPointer plainHost cyclicConfig fuel)
          (.arr [.str "x".toList, .obj [("$ref".toList, .str "/a".toList)]])).run
          (serve treeStore plainModules) treeStore.empty =
            (.error .outOfFuel, treeStore.empty) := by
        -- the first item is awaited, the second one is the same pointer again
        refine Prog.run_bind_of_error ((Prog.run_bind_of_ok rfl).trans ?_)
        exact Prog.run_bind_of_error (Prog.run_bind_of_error ih)
      have hcompile : (plainHost : Host ℤ).compile (.str "/a".toList) = .ok ["a".toList] := rfl
      rw [run_objectFromPointer hcompile]
      exact Prog.run_mapError_of_error (f := Failure.map (whileCreating (.str "/a".toList)))
        (Prog.run_bind_of_error hrefs)

/-- **A call that never ends**: it gives no value and no error. -/
theorem createObjects_endless :
    (∀ fuel, ((awaitObjects (plainHost : Host ℤ) cyclicConfig fuel
      [("a".toList, "/a".toList)]).run (serve treeStore plainModules) treeStore.empty).1 =
        .error .outOfFuel) ∧
    ¬∃ outcome, Ended [("a".toList, "/a".toList)] outcome ∧ ∃ bound, ∀ fuel ≥ bound,
      ((awaitObjects (plainHost : Host ℤ) cyclicConfig fuel
        [("a".toList, "/a".toList)]).run (serve treeStore plainModules) treeStore.empty).1 =
          outcome := by
  have hendless : ∀ fuel, ((awaitObjects (plainHost : Host ℤ) cyclicConfig fuel
      [("a".toList, "/a".toList)]).run (serve treeStore plainModules) treeStore.empty).1 =
        .error .outOfFuel := by
    intro fuel
    have hrun : (createFrom (plainHost : Host ℤ) cyclicConfig fuel
        [("a".toList, "/a".toList)] {}).run (serve treeStore plainModules) treeStore.empty =
          (.error .outOfFuel, treeStore.empty) :=
      Prog.run_bind_of_error (run_cyclicConfig fuel)
    exact congrArg Prod.fst (Prog.run_bind_of_error hrun)
  refine ⟨hendless, ?_⟩
  rintro ⟨outcome, hended, bound, hbound⟩
  rw [← hbound bound le_rfl, hendless] at hended
  exact hended

end ObjectCreator
