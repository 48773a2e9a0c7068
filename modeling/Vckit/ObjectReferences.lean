/-
**References between the parts of a configuration.**

The pointers that the evaluators follow from a part of the configuration do not depend on what the
pointers stand for: `refs` collects them in the order of the evaluation, and leaves out what is
behind the first marker of an object.  They make the paths of the configuration a graph, and its
part that is reached from the requested pointers is finite, since every pointer in it was requested
or is written in the configuration.

A relation between computations that respects how they are put together relates the evaluators, if
it relates what they make of the pointers that they follow.

Main definitions:

* `ObjectCreator.refs`, `ObjectCreator.nodeRefs` — the pointers that `resolveRefs` and
  `objectFromNode` follow;
* `ObjectCreator.Refers`, `ObjectCreator.Reached` — one reference, and the paths that are requested
  or referenced;
* `ObjectCreator.subtrees`, `ObjectCreator.Host.LawfulOn` — the parts of a configuration, and the
  packages that find nothing else in it;
* `ObjectCreator.RunsOnly` — a computation that runs some code of modules;
* `ObjectCreator.Compatible` — a relation that respects how computations are put together.

Main results:

* `ObjectCreator.objectFromNode_rel` — such a relation relates the evaluators;
* `ObjectCreator.acc_of_acyclic` — **references without cycles end**.
-/

import Mathlib.Data.Set.Finite.Basic
import Mathlib.Logic.Relation
import Vckit.ObjectCreator

set_option relaxedAutoImplicit false
set_option autoImplicit false

namespace ObjectCreator

variable {N E : Type}

/-! ### Pointers that are followed -/

mutual

/-- The pointers that `resolveRefs` follows. -/
def refs : Json N → List (Json N)
  | .arr items => refsItems items
  | .obj fields =>
      if (property "hasOwnProperty".toList fields).isSome then []
      else refsFields (refsArgs fields) fields
  | _ => []

/-- The pointers that the loop over an array follows. -/
def refsItems : List (Json N) → List (Json N)
  | [] => []
  | item :: items => refs item ++ refsItems items

/-- The pointers that the loop over the properties of an object follows. -/
def refsFields (fromConfig : List (Json N)) : List (Text × Json N) → List (Json N)
  | [] => []
  | (name, value) :: fields =>
      if name = "$ref".toList then [value]
      else if name = "$require".toList then fromConfig
      else if name = "$env".toList then []
      else refs value ++ refsFields fromConfig fields

/-- The pointers that the resolution of `$args` follows. -/
def refsArgs : List (Text × Json N) → List (Json N)
  | [] => []
  | (name, value) :: fields => if name = "$args".toList then refs value else refsArgs fields

end

/-- The pointers that `objectFromNode` follows. -/
def nodeRefs [JsNumber N] (objectConfig : Json N) : List (Json N) :=
  match truthyProperty "$require".toList objectConfig with
  | some _ => refsArgs (fieldsOf objectConfig)
  | none =>
      match truthyProperty "$env".toList objectConfig with
      | some _ => []
      | none => refs objectConfig

/-! ### Running the code of modules -/

/-- A computation that does nothing but run some code of modules, and throws what that throws. -/
def RunsOnly {α : Type} (C : Code N E → Prop) : Create N E α → Prop
  | .ret _ => True
  | .throw _ => False
  | .call (.code c) k => C c ∧ (∀ a, RunsOnly C (k (.ok a))) ∧ ∀ e, k (.error e) = .throw e
  | .call _ _ => False

section RunsOnly

variable {C : Code N E → Prop} {α β : Type}

theorem runsOnly_runCode {c : Code N E} (hc : C c) : RunsOnly C (runCode c) :=
  ⟨hc, fun _ => trivial, fun _ => rfl⟩

theorem RunsOnly.bind {p : Create N E α} {f : α → Create N E β} (hp : RunsOnly C p)
    (hf : ∀ a, RunsOnly C (f a)) : RunsOnly C (p >>= f) := by
  induction p with
  | ret a => exact hf a
  | throw e => exact hp.elim
  | call o k ih =>
      cases o with
      | code c =>
          refine ⟨hp.1, fun a => ih (.ok a) (hp.2.1 a), fun e => ?_⟩
          change k (.error e) >>= f = _
          rw [hp.2.2 e, Prog.throw_bind]
      | _ => exact hp.elim

/-- The code that runs inside of the `try` of `objectFromConfig`. -/
def Code.isTried : Code N E → Bool
  | .importMember _ _ | .construct _ _ | .call _ _ | .iterate _ => true
  | .settle _ | .getMember _ _ => false

theorem runsOnly_settle (v : Value N E) : RunsOnly (fun c => c.isTried = false) (settle v) := by
  cases v with
  | ext e => exact runsOnly_runCode rfl
  | obj o =>
      rw [settle]
      split
      · trivial
      · exact runsOnly_runCode rfl
  | _ => trivial

theorem runsOnly_spread (v : Value N E) : RunsOnly (fun c => c.isTried = true) (spread v) := by
  cases v with
  | arr items => trivial
  | str s => trivial
  | _ => exact runsOnly_runCode rfl

theorem runsOnly_instantiate (module : Text) (name : Option Text) (kind : Text)
    (resolvedArgs : Value N E) :
    RunsOnly (fun c => c.isTried = true) (instantiate module name kind resolvedArgs) := by
  have himport : RunsOnly (fun c => c.isTried = true)
      (runCode (.importMember module name) : Create N E _) := runsOnly_runCode rfl
  refine himport.bind fun required => ?_
  split_ifs
  · exact (runsOnly_spread _).bind fun _ => runsOnly_runCode rfl
  · exact (runsOnly_spread _).bind fun _ => runsOnly_runCode rfl
  · trivial
  · trivial

/-- On a state that code leaves alone as long as it gives something, it gives something or fails as
some code does. -/
theorem RunsOnly.run_cases {σ : Type} {h : (o : Op N E) → σ → Except Failure o.Resp × σ}
    (hstays : ∀ c a s s', h (.code c) s = (.ok a, s') → s' = s) {p : Create N E α}
    (hp : RunsOnly C p) (s : σ) :
    (∃ a, p.run h s = (.ok a, s)) ∨
      ∃ c, C c ∧ ∃ e s', h (.code c) s = (.error e, s') ∧ p.run h s = (.error e, s') := by
  induction p with
  | ret a => exact Or.inl ⟨a, rfl⟩
  | throw e => exact hp.elim
  | call o k ih =>
      cases o with
      | code c =>
          rw [Prog.run_call]
          rcases hcode : h (.code c) s with ⟨e | a, s'⟩
          · refine Or.inr ⟨c, hp.1, e, s', hcode, ?_⟩
            rw [hp.2.2 e]
            rfl
          · rw [hstays c a s s' hcode]
            exact ih (.ok a) (hp.2.1 a)
      | _ => exact hp.elim

end RunsOnly

/-! ### Relations between computations -/

/-- A relation between computations, with the pointers they follow, that respects how computations
are put together. -/
structure Compatible (Rel : (α : Type) → List (Json N) → Create N E α → Create N E α → Prop) :
    Prop where
  ret {α : Type} (a : α) : Rel α [] (.ret a) (.ret a)
  fail {α : Type} (e : JsError) : Rel α [] (fail e) (fail e)
  settle (object : Value N E) :
    Rel _ [] (runCode (.settle object)) (runCode (.settle object))
  getMember (object : Value N E) (pointer : Text) :
    Rel _ [] (runCode (.getMember object pointer)) (runCode (.getMember object pointer))
  tryInstantiate (module : Text) (name : Option Text) (kind : Text) (resolvedArgs : Value N E) :
    Rel _ [] (tryInstantiate module name kind resolvedArgs)
      (tryInstantiate module name kind resolvedArgs)
  bind {α β : Type} {L L' : List (Json N)} {p q : Create N E α} {f g : α → Create N E β}
    (hp : Rel α L p q) (hf : ∀ a, Rel β L' (f a) (g a)) : Rel β (L ++ L') (p >>= f) (q >>= g)

section Relation

variable {Rel : (α : Type) → List (Json N) → Create N E α → Create N E α → Prop}

/-- What follows a part without pointers. -/
theorem Compatible.bind_nil (hRel : Compatible Rel) {α β : Type} {L : List (Json N)}
    {p q : Create N E α} {f g : α → Create N E β} (hp : Rel α [] p q)
    (hf : ∀ a, Rel β L (f a) (g a)) : Rel β L (p >>= f) (q >>= g) :=
  hRel.bind hp hf

/-- A part without pointers that comes last. -/
theorem Compatible.bind_last (hRel : Compatible Rel) {α β : Type} {L : List (Json N)}
    {p q : Create N E α} {f g : α → Create N E β} (hp : Rel α L p q)
    (hf : ∀ a, Rel β [] (f a) (g a)) : Rel β L (p >>= f) (q >>= g) := by
  have h := hRel.bind hp hf
  rwa [List.append_nil] at h

theorem Compatible.lift (hRel : Compatible Rel) {α : Type} (r : Except JsError α) :
    Rel α [] (lift r) (lift r) := by
  cases r with
  | ok a => exact hRel.ret a
  | error e => exact hRel.fail e

theorem Compatible.settleValue (hRel : Compatible Rel) (v : Value N E) :
    Rel _ [] (ObjectCreator.settle v) (ObjectCreator.settle v) := by
  cases v with
  | ext e => exact hRel.settle _
  | obj o =>
      rw [ObjectCreator.settle]
      split
      · exact hRel.ret _
      · exact hRel.settle _
  | _ => exact hRel.ret _

variable {host : Host N}

theorem objectFromConfig_rel (hRel : Compatible Rel) (require : Json N) {L : List (Json N)}
    {resolveArgs resolveArgs' : Create N E (Value N E)} (hargs : Rel _ L resolveArgs resolveArgs') :
    Rel _ L (objectFromConfig host require resolveArgs)
      (objectFromConfig host require resolveArgs') := by
  refine hRel.bind_last hargs fun resolvedArgs => ?_
  refine hRel.bind_nil (hRel.tryInstantiate _ _ _ _) fun object => ?_
  split
  · exact hRel.settleValue _
  · exact hRel.settleValue _
  · exact hRel.bind_nil (hRel.getMember _ _) fun _ => hRel.settleValue _

variable [JsNumber N]

theorem processEnv_rel (hRel : Compatible Rel) (name : Json N) :
    Rel _ [] (processEnv host name) (processEnv host name) :=
  hRel.bind_nil (hRel.lift _) fun _ => hRel.ret _

variable {ofPointer ofPointer' : Json N → Create N E (Value N E)}

mutual

/-- **The evaluators are related** when what they make of pointers is. -/
theorem resolveRefs_rel (hRel : Compatible Rel) (input : Json N)
    (hof : ∀ pointer ∈ refs input, Rel _ [pointer] (ofPointer pointer) (ofPointer' pointer)) :
    Rel _ (refs input) (resolveRefs host ofPointer input) (resolveRefs host ofPointer' input) := by
  cases input with
  | null => exact hRel.ret _
  | bool b => exact hRel.ret _
  | num n => exact hRel.ret _
  | str s => exact hRel.ret _
  | arr items =>
      rw [refs] at hof ⊢
      rw [resolveRefs, resolveRefs]
      exact hRel.bind_last (resolveItems_rel hRel items hof) fun _ => hRel.ret _
  | obj fields =>
      rw [refs] at hof ⊢
      rw [resolveRefs, resolveRefs]
      split_ifs at hof ⊢ with hhidden
      · exact hRel.fail _
      -- the pointers of `$args` are followed only if the loop comes to `$require`
      · exact resolveFields_rel hRel fields {} hof fun hargs require =>
          objectFromConfig_rel hRel require (resolveArgs_rel hRel fields hargs)

theorem resolveItems_rel (hRel : Compatible Rel) (items : List (Json N))
    (hof : ∀ pointer ∈ refsItems items, Rel _ [pointer] (ofPointer pointer) (ofPointer' pointer)) :
    Rel _ (refsItems items) (resolveItems host ofPointer items)
      (resolveItems host ofPointer' items) := by
  cases items with
  | nil => exact hRel.ret _
  | cons item items =>
      rw [refsItems] at hof ⊢
      rw [resolveItems, resolveItems]
      refine hRel.bind (resolveRefs_rel hRel item fun pointer h =>
        hof pointer (List.mem_append_left _ h)) fun _ => ?_
      exact hRel.bind_last (resolveItems_rel hRel items fun pointer h =>
        hof pointer (List.mem_append_right _ h)) fun _ => hRel.ret _

theorem resolveFields_rel (hRel : Compatible Rel) (fields : List (Text × Json N))
    (resolved : JsObject (Value N E)) {L : List (Json N)}
    {fromConfig fromConfig' : Json N → Create N E (Value N E)}
    (hof : ∀ pointer ∈ refsFields L fields,
      Rel _ [pointer] (ofPointer pointer) (ofPointer' pointer))
    (hfrom : (∀ pointer ∈ L, Rel _ [pointer] (ofPointer pointer) (ofPointer' pointer)) →
      ∀ require, Rel _ L (fromConfig require) (fromConfig' require)) :
    Rel _ (refsFields L fields) (resolveFields host ofPointer fromConfig fields resolved)
      (resolveFields host ofPointer' fromConfig' fields resolved) := by
  match fields with
  | [] => exact hRel.settleValue _
  | (name, value) :: fields =>
      rw [refsFields] at hof ⊢
      rw [resolveFields, resolveFields]
      split_ifs at hof ⊢ with href hrequire henv
      · exact hof value (List.mem_singleton_self value)
      · exact hfrom hof value
      · exact processEnv_rel hRel value
      · refine hRel.bind (resolveRefs_rel hRel value fun pointer h =>
          hof pointer (List.mem_append_left _ h)) fun _ => ?_
        exact resolveFields_rel hRel fields _
          (fun pointer h => hof pointer (List.mem_append_right _ h)) hfrom

theorem resolveArgs_rel (hRel : Compatible Rel) (fields : List (Text × Json N))
    (hof : ∀ pointer ∈ refsArgs fields, Rel _ [pointer] (ofPointer pointer) (ofPointer' pointer)) :
    Rel _ (refsArgs fields) (resolveArgs host ofPointer fields)
      (resolveArgs host ofPointer' fields) := by
  match fields with
  | [] => exact hRel.ret _
  | (name, value) :: fields =>
      rw [refsArgs] at hof ⊢
      rw [resolveArgs, resolveArgs]
      split_ifs at hof ⊢
      · exact resolveRefs_rel hRel value hof
      · exact resolveArgs_rel hRel fields hof

end

/-- **So are the objects that parts of the configuration describe.** -/
theorem objectFromNode_rel (hRel : Compatible Rel) (host : Host N)
    (ofPointer ofPointer' : Json N → Create N E (Value N E)) (objectConfig : Json N)
    (hof : ∀ pointer ∈ nodeRefs objectConfig,
      Rel _ [pointer] (ofPointer pointer) (ofPointer' pointer)) :
    Rel _ (nodeRefs objectConfig) (objectFromNode host ofPointer objectConfig)
      (objectFromNode host ofPointer' objectConfig) := by
  rw [nodeRefs] at hof ⊢
  rw [objectFromNode, objectFromNode]
  cases hrequire : truthyProperty "$require".toList objectConfig with
  | some require =>
      rw [hrequire] at hof
      exact objectFromConfig_rel hRel require (resolveArgs_rel hRel _ hof)
  | none =>
      rw [hrequire] at hof
      cases henv : truthyProperty "$env".toList objectConfig with
      | some name => exact processEnv_rel hRel name
      | none =>
          rw [henv] at hof
          exact resolveRefs_rel hRel objectConfig hof

/-- And the loops over the requested pointers. -/
theorem createFrom_rel (hRel : Compatible Rel) (host : Host N) (config : Json N)
    (fuel fuel' : ℕ) (pointers : List (Text × Text)) (result : JsObject (Value N E))
    (hof : ∀ request ∈ pointers, Rel _ [.str request.2]
      (objectFromPointer host config fuel (.str request.2))
      (objectFromPointer host config fuel' (.str request.2))) :
    Rel _ (pointers.map fun request => .str request.2)
      (createFrom host config fuel pointers result)
      (createFrom host config fuel' pointers result) := by
  induction pointers generalizing result with
  | nil => exact hRel.ret _
  | cons request pointers ih =>
      rw [createFrom, createFrom, List.map_cons, ← List.singleton_append]
      exact hRel.bind (hof request List.mem_cons_self) fun object =>
        ih _ fun other h => hof other (List.mem_cons_of_mem request h)

end Relation

/-! ### Parts of the configuration -/

mutual

/-- The parts of a configuration. -/
def subtrees : Json N → List (Json N)
  | .arr items => .arr items :: subtreesItems items
  | .obj fields => .obj fields :: subtreesFields fields
  | leaf => [leaf]

/-- The parts of the items of an array. -/
def subtreesItems : List (Json N) → List (Json N)
  | [] => []
  | item :: items => subtrees item ++ subtreesItems items

/-- The parts of the properties of an object. -/
def subtreesFields : List (Text × Json N) → List (Json N)
  | [] => []
  | (_, value) :: fields => subtrees value ++ subtreesFields fields

end

theorem mem_subtrees_self (j : Json N) : j ∈ subtrees j := by
  cases j <;> simp [subtrees]

mutual

/-- The parts of a part are parts. -/
theorem mem_subtrees_trans {i j : Json N} (hi : i ∈ subtrees j) (k : Json N)
    (hj : j ∈ subtrees k) : i ∈ subtrees k := by
  cases k with
  | arr items =>
      rcases List.mem_cons.1 hj with rfl | hj
      · exact hi
      · exact List.mem_cons_of_mem _ (mem_subtreesItems_trans hi items hj)
  | obj fields =>
      rcases List.mem_cons.1 hj with rfl | hj
      · exact hi
      · exact List.mem_cons_of_mem _ (mem_subtreesFields_trans hi fields hj)
  | _ => exact List.mem_singleton.1 hj ▸ hi

theorem mem_subtreesItems_trans {i j : Json N} (hi : i ∈ subtrees j) (items : List (Json N))
    (hj : j ∈ subtreesItems items) : i ∈ subtreesItems items := by
  cases items with
  | nil => cases hj
  | cons item items =>
      rcases List.mem_append.1 hj with hj | hj
      · exact List.mem_append_left _ (mem_subtrees_trans hi item hj)
      · exact List.mem_append_right _ (mem_subtreesItems_trans hi items hj)

theorem mem_subtreesFields_trans {i j : Json N} (hi : i ∈ subtrees j)
    (fields : List (Text × Json N)) (hj : j ∈ subtreesFields fields) :
    i ∈ subtreesFields fields := by
  match fields with
  | [] => cases hj
  | (name, value) :: fields =>
      rcases List.mem_append.1 hj with hj | hj
      · exact List.mem_append_left _ (mem_subtrees_trans hi value hj)
      · exact List.mem_append_right _ (mem_subtreesFields_trans hi fields hj)

end

variable [JsNumber N]

/-! ### The graph of references -/

/-- What `jsonpointer` finds at some paths of a configuration is a part of it. -/
def Host.LawfulOn (host : Host N) (config : Json N) (P : Set Path) : Prop :=
  ∀ p ∈ P, ∀ node, host.getConfig config p = some node → node ∈ subtrees config

/-- What is at a path refers to another path. -/
def Refers (host : Host N) (config : Json N) (p q : Path) : Prop :=
  ∃ node, configAt host config p = some node ∧
    ∃ pointer ∈ nodeRefs node, host.compile pointer = .ok q

/-- A path that is requested. -/
def Requested (host : Host N) (pointers : List (Text × Text)) (p : Path) : Prop :=
  ∃ request ∈ pointers, host.compile (.str request.2) = .ok p

/-- The paths that are requested or referenced. -/
def Reached (host : Host N) (config : Json N) (pointers : List (Text × Text)) : Set Path :=
  {q | ∃ p, Requested host pointers p ∧ Relation.ReflTransGen (Refers host config) p q}

variable {host : Host N} {config : Json N} {pointers : List (Text × Text)} {p q : Path}

theorem reached_of_requested (h : Requested host pointers p) : p ∈ Reached host config pointers :=
  ⟨p, h, .refl⟩

theorem reached_of_refers (hp : p ∈ Reached host config pointers) (h : Refers host config p q) :
    q ∈ Reached host config pointers := by
  obtain ⟨p', hp', hreach⟩ := hp
  exact ⟨p', hp', hreach.tail h⟩

/-- A path that is referred to has a pointer that some part of the configuration follows. -/
theorem exists_pointer_of_refers {P : Set Path} (hhost : host.LawfulOn config P) (hp : p ∈ P)
    (h : Refers host config p q) :
    ∃ pointer ∈ (subtrees config).flatMap nodeRefs, host.compile pointer = .ok q := by
  obtain ⟨node, hnode, pointer, hpointer, hcompile⟩ := h
  have hpart := hhost p hp node (Option.filter_eq_some_iff.1 hnode).1
  exact ⟨pointer, List.mem_flatMap.2 ⟨node, hpart, hpointer⟩, hcompile⟩

/-- Without pointers in the configuration there are no cycles. -/
theorem not_transGen_of_refs_eq_nil (hhost : host.LawfulOn config Set.univ)
    (h : (subtrees config).flatMap nodeRefs = []) (p : Path) :
    ¬Relation.TransGen (Refers host config) p p := by
  intro hcycle
  obtain ⟨q, hrefers, -⟩ := Relation.TransGen.head'_iff.1 hcycle
  obtain ⟨pointer, hpointer, -⟩ := exists_pointer_of_refers hhost (Set.mem_univ p) hrefers
  rw [h] at hpointer
  cases hpointer

/-- From finitely many paths finitely many are reached: the others have a pointer that is written in
the configuration. -/
theorem finite_reached_from {start : Set Path} (hstart : start.Finite)
    (hhost : host.LawfulOn config
      {q | ∃ p ∈ start, Relation.ReflTransGen (Refers host config) p q}) :
    {q | ∃ p ∈ start, Relation.ReflTransGen (Refers host config) p q}.Finite := by
  let paths := ((subtrees config).flatMap nodeRefs).filterMap fun pointer =>
    (host.compile pointer).toOption
  refine (hstart.union (List.finite_toSet paths)).subset ?_
  rintro q ⟨p, hp, hreach⟩
  rcases Relation.ReflTransGen.cases_tail hreach with rfl | ⟨p', hreach, hrefers⟩
  · exact Or.inl hp
  · obtain ⟨pointer, hpointer, hcompile⟩ := exists_pointer_of_refers hhost ⟨p, hp, hreach⟩ hrefers
    exact Or.inr (List.mem_filterMap.2 ⟨pointer, hpointer, by rw [hcompile]; rfl⟩)

omit [JsNumber N] in
theorem finite_requested (host : Host N) (pointers : List (Text × Text)) :
    {p | Requested host pointers p}.Finite := by
  let paths := pointers.filterMap fun request => (host.compile (.str request.2)).toOption
  refine (List.finite_toSet paths).subset ?_
  rintro p ⟨request, hrequest, hcompile⟩
  exact List.mem_filterMap.2 ⟨request, hrequest, by rw [hcompile]; rfl⟩

theorem finite_reached (hhost : host.LawfulOn config (Reached host config pointers)) :
    (Reached host config pointers).Finite :=
  finite_reached_from (finite_requested host pointers) hhost

/-- In a finite set of paths that references do not leave, references without cycles end. -/
theorem acc_of_finite {P : Set Path} (hfinite : Finite P)
    (hclosed : ∀ p ∈ P, ∀ q, Refers host config p q → q ∈ P)
    (hacyclic : ∀ p ∈ P, ¬Relation.TransGen (Refers host config) p p) (hp : p ∈ P) :
    Acc (fun q p => Refers host config p q) p := by
  -- being referred to, at any distance, is a strict order on a finite set
  let below (x y : P) : Prop := Relation.TransGen (Refers host config) y.1 x.1
  have htrans : IsTrans _ below := ⟨fun _ _ _ h h' => h'.trans h⟩
  have hirrefl : Std.Irrefl below := ⟨fun x => hacyclic x.1 x.2⟩
  have hwf : WellFounded below := Finite.wellFounded_of_trans_of_irrefl below
  have hacc : ∀ x : P, Acc (fun q p => Refers host config p q) x.1 := by
    intro x
    induction x using hwf.induction with
    | _ x ih =>
        refine Acc.intro _ fun q hq => ?_
        exact ih ⟨q, hclosed x.1 x.2 q hq⟩ (.single hq)
  exact hacc ⟨p, hp⟩

/-- **References without cycles end.** -/
theorem acc_of_acyclic (hhost : host.LawfulOn config (Reached host config pointers))
    (hacyclic : ∀ p ∈ Reached host config pointers,
      ¬Relation.TransGen (Refers host config) p p) (hp : p ∈ Reached host config pointers) :
    Acc (fun q p => Refers host config p q) p :=
  acc_of_finite (finite_reached hhost) (fun _ hp _ hrefers => reached_of_refers hp hrefers)
    hacyclic hp

/-- And so they do from every path, if there is no cycle at all. -/
theorem acc_of_forall_acyclic {path : Path}
    (hhost : host.LawfulOn config {q | Relation.ReflTransGen (Refers host config) path q})
    (hacyclic : ∀ p, ¬Relation.TransGen (Refers host config) p p) :
    Acc (fun q p => Refers host config p q) path := by
  have hfrom : {q | ∃ p ∈ ({path} : Set Path), Relation.ReflTransGen (Refers host config) p q} =
      {q | Relation.ReflTransGen (Refers host config) path q} := by
    ext q
    simp
  have hfinite := finite_reached_from (Set.finite_singleton path) (hfrom.symm ▸ hhost)
  rw [hfrom] at hfinite
  exact acc_of_finite hfinite (fun _ hp _ hrefers => hp.tail hrefers) (fun p _ => hacyclic p) .refl

end ObjectCreator
