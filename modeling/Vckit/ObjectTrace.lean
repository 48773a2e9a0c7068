/-
**Which modules a call uses.**

The operations of the evaluators do not tell at which part of the configuration a module is used:
two parts may name the same one.  Here the evaluators carry the path of the part that they are at,
and note before they use the module of a part with `$require` which part it is, after that what it
gave, and at the end of a pointer what this receives.  Without their notes they are the evaluators
of `ObjectCreator`, on every store and with modules whose code has a state.

What is resolved at a place below a part stays there if there is nothing but arrays and plain
objects on the way to it: these are rebuilt as they are, while an object with a marker becomes
something else.

Main definitions:

* `ObjectCreator.LiveModules`, `ObjectCreator.serveLive` — modules that may give something else
  every time, and the answers of a store and of such modules;
* `ObjectCreator.Note`, `ObjectCreator.TraceOp`, `ObjectCreator.Traced` — notes, operations and
  notes, and their programs;
* `ObjectCreator.erase` — a program without its notes;
* `ObjectCreator.UsesAtMost` — how often a computation instantiates or calls what a module exports;
* `ObjectCreator.createObjectsAt` — `createObjects` with notes;
* `ObjectCreator.visits`, `ObjectCreator.nodeVisits` — the parts that are visited;
* `ObjectCreator.stays` — what is resolved at a place stays there.

Main results:

* `ObjectCreator.erase_createObjectsAt` — **without notes it is `createObjects`**;
* `ObjectCreator.usesAtMost_objectFromConfig` — after a visit a module is used once at most;
* `ObjectCreator.prefix_of_mem_nodeVisits` — what is visited is below.
-/

import Vckit.PlainData

set_option relaxedAutoImplicit false
set_option autoImplicit false

namespace ObjectCreator

variable {N E α β : Type}

/-! ### Modules with a state -/

/-- What running the code of modules gives, and what it does to their state. -/
structure LiveModules (M N E : Type) where
  run : (c : Code N E) → M → Except Thrown c.Resp × M

/-- The answers of a store and of modules with a state. -/
def serveLive {S M : Type} (store : ObjectStore S N E) (modules : LiveModules M N E) :
    (o : Op N E) → S × M → Except Failure o.Resp × S × M
  | .getObject path, s => (.ok (store.get s.1 path), s)
  | .setObject path object, s =>
      match store.set s.1 path object with
      | .ok s' => (.ok (), s', s.2)
      | .error e => (.error (.error e), s)
  | .code c, s => ((modules.run c s.2).1.mapError Failure.error, s.1, (modules.run c s.2).2)

/-! ### Programs with notes -/

/-- What the evaluators note: the module of the part at a path is used next, it gave an object, or a
pointer that leads to a path receives one. -/
inductive Note (N E : Type)
  | visited (node : Path)
  | gave (node : Path) (object : Value N E)
  | received (path : Path) (object : Value N E)

/-- An operation of the evaluators, or a note. -/
inductive TraceOp (N E : Type)
  | op (o : Op N E)
  | note (n : Note N E)

/-- The answer of an operation. -/
@[reducible] def TraceOp.Resp : TraceOp N E → Type
  | .op o => o.Resp
  | .note _ => Unit

/-- A computation with notes. -/
abbrev Traced (N E α : Type) := Prog (TraceOp N E) TraceOp.Resp Failure α

/-- Noting something. -/
def note (n : Note N E) : Traced N E Unit := Prog.perform (TraceOp.note n)

/-- A computation without notes as one with notes. -/
def embed : Create N E α → Traced N E α
  | .ret a => .ret a
  | .throw e => .throw e
  | .call o k => .call (.op o) fun r => embed (k r)

/-- A computation without its notes. -/
def erase : Traced N E α → Create N E α
  | .ret a => .ret a
  | .throw e => .throw e
  | .call (.op o) k => .call o fun r => erase (k r)
  | .call (.note _) k => erase (k (.ok ()))

@[simp] theorem erase_embed (p : Create N E α) : erase (embed p) = p := by
  induction p with
  | ret a => rfl
  | throw e => rfl
  | call o k ih => exact congrArg (Prog.call o) (funext ih)

theorem run_embed_perform {σ : Type}
    (h : (o : TraceOp N E) → σ → Except Failure o.Resp × σ) (o : Op N E) (s : σ) :
    (embed (perform o)).run h s = h (.op o) s := by
  change Prog.run h (embed (Prog.ofExcept (h (.op o) s).1)) (h (.op o) s).2 = h (.op o) s
  cases h (.op o) s with
  | mk r s' => cases r <;> rfl

@[simp] theorem erase_bind (p : Traced N E α) (f : α → Traced N E β) :
    erase (p >>= f) = erase p >>= fun a => erase (f a) := by
  induction p with
  | ret a => rfl
  | throw e => rfl
  | call o k ih =>
      cases o with
      | op o => exact congrArg (Prog.call o) (funext ih)
      | note n => exact ih (.ok ())

@[simp] theorem erase_mapError (f : Failure → Failure) (p : Traced N E α) :
    erase (p.mapError f) = (erase p).mapError f := by
  induction p with
  | ret a => rfl
  | throw e => rfl
  | call o k ih =>
      cases o with
      | op o => exact congrArg (Prog.call o) (funext ih)
      | note n => exact ih (.ok ())

/-- A run without notes can be read from one with notes that leave it alone. -/
theorem run_erase {σ τ : Type} {h : (o : Op N E) → τ → Except Failure o.Resp × τ}
    {h' : (o : TraceOp N E) → σ → Except Failure o.Resp × σ} {π : σ → τ}
    (hop : ∀ o s, h o (π s) = ((h' (.op o) s).1, π (h' (.op o) s).2))
    (hnote : ∀ n s, (h' (.note n) s).1 = .ok () ∧ π (h' (.note n) s).2 = π s)
    (p : Traced N E α) (s : σ) :
    (erase p).run h (π s) = ((p.run h' s).1, π (p.run h' s).2) := by
  induction p generalizing s with
  | ret a => rfl
  | throw e => rfl
  | call o k ih =>
      cases o with
      | op o =>
          rw [erase, Prog.run_call, Prog.run_call, hop]
          exact ih _ _
      | note n =>
          rw [erase, Prog.run_call, (hnote n s).1, ← (hnote n s).2]
          exact ih _ _

/-! ### Modules that are used -/

/-- Reading or writing `objects`. -/
def Op.isAccess : Op N E → Bool
  | .getObject _ | .setObject _ _ => true
  | _ => false

/-- Instantiating or calling what a module exports. -/
def Op.isUse : Op N E → Bool
  | .code (.construct _ _) | .code (.call _ _) => true
  | _ => false

/-- A computation that does not touch `objects`, and uses a module so many times at most. -/
def UsesAtMost : ℕ → Create N E α → Prop
  | _, .ret _ | _, .throw _ => True
  | n, .call o k =>
      o.isAccess = false ∧ (o.isUse = true → 0 < n) ∧
        ∀ r, UsesAtMost (if o.isUse then n - 1 else n) (k r)

theorem UsesAtMost.mono {m n : ℕ} {p : Create N E α} (h : UsesAtMost m p) (hle : m ≤ n) :
    UsesAtMost n p := by
  induction p generalizing m n with
  | ret a => trivial
  | throw e => trivial
  | call o k ih =>
      refine ⟨h.1, fun huse => (h.2.1 huse).trans_le hle, fun r => ih r (h.2.2 r) ?_⟩
      split_ifs
      · exact Nat.sub_le_sub_right hle 1
      · exact hle

/-- What two parts use together. -/
theorem UsesAtMost.bind {m n : ℕ} {p : Create N E α} {f : α → Create N E β}
    (hp : UsesAtMost m p) (hf : ∀ a, UsesAtMost n (f a)) : UsesAtMost (m + n) (p >>= f) := by
  induction p generalizing m with
  | ret a => exact (hf a).mono (Nat.le_add_left n m)
  | throw e => trivial
  | call o k ih =>
      refine ⟨hp.1, fun huse => Nat.add_pos_left (hp.2.1 huse) n, fun r => ?_⟩
      refine (ih r (hp.2.2 r)).mono ?_
      split_ifs with huse
      · have hpos := hp.2.1 huse
        omega
      · exact le_rfl

/-- What follows a part that uses no module. -/
theorem UsesAtMost.bind_zero {n : ℕ} {p : Create N E α} {f : α → Create N E β}
    (hp : UsesAtMost 0 p) (hf : ∀ a, UsesAtMost n (f a)) : UsesAtMost n (p >>= f) :=
  (hp.bind hf).mono (Nat.zero_add n).le

/-- A part that uses no module and comes last. -/
theorem UsesAtMost.bind_last {n : ℕ} {p : Create N E α} {f : α → Create N E β}
    (hp : UsesAtMost n p) (hf : ∀ a, UsesAtMost 0 (f a)) : UsesAtMost n (p >>= f) :=
  hp.bind hf

theorem UsesAtMost.mapError {n : ℕ} {p : Create N E α} (hp : UsesAtMost n p)
    (f : Failure → Failure) : UsesAtMost n (p.mapError f) := by
  induction p generalizing n with
  | ret a => trivial
  | throw e => trivial
  | call o k ih => exact ⟨hp.1, hp.2.1, fun r => ih r (hp.2.2 r)⟩

theorem usesAtMost_ret (a : α) : UsesAtMost 0 (.ret a : Create N E α) := trivial

theorem usesAtMost_lift (r : Except JsError α) : UsesAtMost 0 (lift r : Create N E α) := by
  cases r <;> trivial

theorem usesAtMost_runCode (c : Code N E) :
    UsesAtMost (if (Op.code c).isUse then 1 else 0) (runCode c) := by
  refine ⟨rfl, fun huse => by simp [huse], fun r => ?_⟩
  cases r <;> trivial

theorem usesAtMost_settle (v : Value N E) : UsesAtMost 0 (settle v) := by
  cases v with
  | ext e => exact usesAtMost_runCode (.settle _)
  | obj o =>
      rw [settle]
      split
      · trivial
      · exact usesAtMost_runCode (.settle _)
  | _ => trivial

theorem usesAtMost_spread (v : Value N E) : UsesAtMost 0 (spread v) := by
  cases v with
  | arr items => trivial
  | str s => trivial
  | _ => exact usesAtMost_runCode (.iterate _)

theorem usesAtMost_instantiate (module : Text) (name : Option Text) (kind : Text)
    (resolvedArgs : Value N E) :
    UsesAtMost 1 (instantiate module name kind resolvedArgs) := by
  have himport : UsesAtMost 0 (runCode (.importMember module name) : Create N E _) :=
    usesAtMost_runCode (.importMember module name)
  refine himport.bind_zero fun required => ?_
  split_ifs
  · exact (usesAtMost_spread _).bind_zero fun args => usesAtMost_runCode (.construct required args)
  · exact (usesAtMost_spread _).bind_zero fun args => usesAtMost_runCode (.call required args)
  · trivial
  · trivial

/-- **A module is used once at most** after its arguments are resolved. -/
theorem usesAtMost_objectFromConfig (host : Host N) (require : Json N)
    (resolvedArgs : Value N E) :
    UsesAtMost 1 (objectFromConfig host require (.ret resolvedArgs)) := by
  refine (usesAtMost_ret resolvedArgs).bind_zero fun _ => ?_
  refine UsesAtMost.bind_last ((usesAtMost_instantiate _ _ _ _).mapError _) fun object => ?_
  split
  · exact usesAtMost_settle object
  · exact usesAtMost_settle object
  · exact (usesAtMost_runCode (.getMember _ _)).bind_zero fun part => usesAtMost_settle part

theorem usesAtMost_processEnv [JsNumber N] (host : Host N) (name : Json N) :
    UsesAtMost 0 (processEnv host name : Create N E (Value N E)) :=
  (usesAtMost_lift (toText name)).bind_zero fun _ => usesAtMost_ret _

/-! ### Evaluators with notes -/

section

variable (host : Host N)

/-- `objectFromConfig` of the part at a path. -/
def objectFromConfigAt (node : Path) (require : Json N) (resolveArgs : Traced N E (Value N E)) :
    Traced N E (Value N E) := do
  let resolvedArgs ← resolveArgs
  note (.visited node)
  let object ← embed (objectFromConfig host require (.ret resolvedArgs))
  note (.gave node object)
  .ret object

theorem bind_ret (p : Create N E α) : (p >>= fun a => .ret a) = p := by
  induction p with
  | ret a => rfl
  | throw e => rfl
  | call o k ih => exact congrArg (Prog.call o) (funext ih)

theorem erase_objectFromConfigAt (node : Path) (require : Json N)
    (resolveArgs : Traced N E (Value N E)) :
    erase (objectFromConfigAt host node require resolveArgs) =
      objectFromConfig host require (erase resolveArgs) := by
  rw [objectFromConfigAt, erase_bind]
  refine congrArg (erase resolveArgs >>= ·) (funext fun resolvedArgs => ?_)
  change erase (embed (objectFromConfig host require (.ret resolvedArgs)) >>= _) = _
  rw [erase_bind, erase_embed]
  exact bind_ret (objectFromConfig host require (.ret resolvedArgs))

variable [JsNumber N] (ofPointer : Json N → Traced N E (Value N E))

mutual

/-- `resolveRefs` of the part at a path. -/
def resolveRefsAt (node : Path) : Json N → Traced N E (Value N E)
  | .null => .ret (.obj {})
  | .bool b => .ret (.bool b)
  | .num n => .ret (.num n)
  | .str s => .ret (.str s)
  | .arr items => do
      let resolved ← resolveItemsAt node 0 items
      .ret (.arr resolved)
  | .obj fields =>
      if (property "hasOwnProperty".toList fields).isSome then
        embed (fail (hasOwnPropertyHidden "input".toList))
      else
        resolveFieldsAt node
          (fun require => objectFromConfigAt host node require (resolveArgsAt node fields)) fields
          {}

/-- The loop over an array, from an index on. -/
def resolveItemsAt (node : Path) : ℕ → List (Json N) → Traced N E (List (Value N E))
  | _, [] => .ret []
  | i, item :: items => do
      let item ← resolveRefsAt (node ++ [Text.ofNat i]) item
      let items ← resolveItemsAt node (i + 1) items
      .ret (item :: items)

/-- The loop over the properties of an object. -/
def resolveFieldsAt (node : Path) (fromConfig : Json N → Traced N E (Value N E)) :
    List (Text × Json N) → JsObject (Value N E) → Traced N E (Value N E)
  | [], resolved => embed (settle (.obj resolved))
  | (name, value) :: fields, resolved =>
      if name = "$ref".toList then ofPointer value
      else if name = "$require".toList then fromConfig value
      else if name = "$env".toList then embed (processEnv host value)
      else do
        let value ← resolveRefsAt (node ++ [name]) value
        resolveFieldsAt node fromConfig fields (resolved.assign name value)

/-- The resolved `$args` of an object. -/
def resolveArgsAt (node : Path) : List (Text × Json N) → Traced N E (Value N E)
  | [] => .ret (.arr [])
  | (name, value) :: fields =>
      if name = "$args".toList then resolveRefsAt (node ++ [name]) value
      else resolveArgsAt node fields

end

/-- The object that the part at a path describes. -/
def objectFromNodeAt (node : Path) (objectConfig : Json N) : Traced N E (Value N E) :=
  match truthyProperty "$require".toList objectConfig with
  | some require =>
      objectFromConfigAt host node require
        (resolveArgsAt host ofPointer node (fieldsOf objectConfig))
  | none =>
      match truthyProperty "$env".toList objectConfig with
      | some name => embed (processEnv host name)
      | none => resolveRefsAt host ofPointer node objectConfig

/-- `objectFromPointer`, inside of at most `fuel` others. -/
def objectFromPointerAt (config : Json N) : ℕ → Json N → Traced N E (Value N E)
  | 0, _ => .throw .outOfFuel
  | fuel + 1, pointer => do
      let path ← embed (lift (host.compile pointer))
      let existingObject ← embed (perform (.getObject path))
      if existingObject.truthy then do
        let object ← embed (settle existingObject)
        note (.received path object)
        .ret object
      else
        match configAt host config path with
        | none => embed (fail (pointerError "Pointer not found: ".toList pointer))
        | some objectConfig =>
            Prog.mapError (Failure.map (whileCreating pointer)) (do
              let object ←
                objectFromNodeAt host (objectFromPointerAt config fuel) path objectConfig
              embed (perform (.setObject path object))
              note (.received path object)
              .ret object)

/-- The loop over the requested pointers. -/
def createFromAt (config : Json N) (fuel : ℕ) :
    List (Text × Text) → JsObject (Value N E) → Traced N E (JsObject (Value N E))
  | [], result => .ret result
  | (key, pointer) :: pointers, result => do
      let object ← objectFromPointerAt host config fuel (.str pointer)
      createFromAt config fuel pointers (result.assign key object)

/-- `createObjects` with notes. -/
def createObjectsAt (config : Json N) (fuel : ℕ) (pointers : List (Text × Text)) :
    Traced N E (JsObject (Value N E)) :=
  if (property "hasOwnProperty".toList pointers).isSome then
    embed (fail (hasOwnPropertyHidden "pointers".toList))
  else createFromAt host config fuel pointers {}

/-! ### Without notes -/

mutual

theorem erase_resolveRefsAt (node : Path) (j : Json N) :
    erase (resolveRefsAt host ofPointer node j) =
      resolveRefs host (fun pointer => erase (ofPointer pointer)) j := by
  cases j with
  | null => rfl
  | bool b => rfl
  | num n => rfl
  | str s => rfl
  | arr items =>
      rw [resolveRefsAt, resolveRefs, erase_bind, erase_resolveItemsAt]
      rfl
  | obj fields =>
      rw [resolveRefsAt, resolveRefs]
      split_ifs
      · rfl
      · refine erase_resolveFieldsAt node fields {} fun require => ?_
        rw [erase_objectFromConfigAt, erase_resolveArgsAt]

theorem erase_resolveItemsAt (node : Path) (i : ℕ) (items : List (Json N)) :
    erase (resolveItemsAt host ofPointer node i items) =
      resolveItems host (fun pointer => erase (ofPointer pointer)) items := by
  cases items with
  | nil => rfl
  | cons item items =>
      rw [resolveItemsAt, resolveItems, erase_bind, erase_resolveRefsAt]
      refine congrArg (_ >>= ·) (funext fun v => ?_)
      rw [erase_bind, erase_resolveItemsAt]
      rfl

theorem erase_resolveFieldsAt (node : Path) (fields : List (Text × Json N))
    (resolved : JsObject (Value N E)) {fromConfigAt : Json N → Traced N E (Value N E)}
    {fromConfig : Json N → Create N E (Value N E)}
    (hfrom : ∀ require, erase (fromConfigAt require) = fromConfig require) :
    erase (resolveFieldsAt host ofPointer node fromConfigAt fields resolved) =
      resolveFields host (fun pointer => erase (ofPointer pointer)) fromConfig fields resolved := by
  match fields with
  | [] => exact erase_embed _
  | (name, value) :: fields =>
      rw [resolveFieldsAt, resolveFields]
      split_ifs
      · rfl
      · exact hfrom value
      · exact erase_embed _
      · rw [erase_bind, erase_resolveRefsAt]
        refine congrArg (_ >>= ·) (funext fun v => ?_)
        exact erase_resolveFieldsAt node fields _ hfrom

theorem erase_resolveArgsAt (node : Path) (fields : List (Text × Json N)) :
    erase (resolveArgsAt host ofPointer node fields) =
      resolveArgs host (fun pointer => erase (ofPointer pointer)) fields := by
  match fields with
  | [] => rfl
  | (name, value) :: fields =>
      rw [resolveArgsAt, resolveArgs]
      split_ifs
      · exact erase_resolveRefsAt _ value
      · exact erase_resolveArgsAt node fields

end

theorem erase_objectFromNodeAt (node : Path) (objectConfig : Json N) :
    erase (objectFromNodeAt host ofPointer node objectConfig) =
      objectFromNode host (fun pointer => erase (ofPointer pointer)) objectConfig := by
  rw [objectFromNodeAt, objectFromNode]
  cases truthyProperty "$require".toList objectConfig with
  | some require => rw [erase_objectFromConfigAt, erase_resolveArgsAt]
  | none =>
      cases truthyProperty "$env".toList objectConfig with
      | some name => exact erase_embed _
      | none => exact erase_resolveRefsAt host ofPointer node objectConfig

theorem erase_objectFromPointerAt (config : Json N) (fuel : ℕ) (pointer : Json N) :
    erase (objectFromPointerAt host config fuel pointer) =
      (objectFromPointer host config fuel pointer : Create N E (Value N E)) := by
  induction fuel generalizing pointer with
  | zero => rfl
  | succ fuel ih =>
      rw [objectFromPointerAt, objectFromPointer, erase_bind, erase_embed]
      refine congrArg (_ >>= ·) (funext fun path => ?_)
      rw [erase_bind, erase_embed]
      refine congrArg (_ >>= ·) (funext fun existingObject => ?_)
      split
      · rw [erase_bind, erase_embed]
        exact bind_ret (settle existingObject)
      cases hnode : configAt host config path with
      | none => exact erase_embed _
      | some objectConfig =>
          have hof : (fun pointer => erase (objectFromPointerAt host config fuel pointer)) =
              objectFromPointer host config fuel := funext ih
          change erase (Prog.mapError _ _) = _
          rw [erase_mapError, erase_bind, erase_objectFromNodeAt, hof]
          refine congrArg (Prog.mapError _) (congrArg (_ >>= ·) (funext fun object => ?_))
          rw [erase_bind, erase_embed]
          rfl

theorem erase_createFromAt (config : Json N) (fuel : ℕ) (pointers : List (Text × Text))
    (result : JsObject (Value N E)) :
    erase (createFromAt host config fuel pointers result) =
      createFrom host config fuel pointers result := by
  induction pointers generalizing result with
  | nil => rfl
  | cons request pointers ih =>
      rw [createFromAt, createFrom, erase_bind, erase_objectFromPointerAt]
      exact congrArg (_ >>= ·) (funext fun object => ih _)

/-- **Without notes it is `createObjects`.** -/
theorem erase_createObjectsAt (config : Json N) (fuel : ℕ) (pointers : List (Text × Text)) :
    erase (createObjectsAt host config fuel pointers) =
      (createObjects host config fuel pointers : Create N E (JsObject (Value N E))) := by
  rw [createObjectsAt, createObjects]
  split_ifs
  · exact erase_embed _
  · exact erase_createFromAt host config fuel pointers {}

end

/-! ### Parts that are visited -/

mutual

/-- The parts that `resolveRefs` of the part at a path visits, but for those behind pointers. -/
def visits (node : Path) : Json N → List Path
  | .arr items => visitsItems node 0 items
  | .obj fields =>
      if (property "hasOwnProperty".toList fields).isSome then []
      else visitsFields node (visitsArgs node fields ++ [node]) fields
  | _ => []

/-- The parts that the loop over an array visits. -/
def visitsItems (node : Path) : ℕ → List (Json N) → List Path
  | _, [] => []
  | i, item :: items => visits (node ++ [Text.ofNat i]) item ++ visitsItems node (i + 1) items

/-- The parts that the loop over the properties of an object visits. -/
def visitsFields (node : Path) (fromConfig : List Path) : List (Text × Json N) → List Path
  | [] => []
  | (name, value) :: fields =>
      if name = "$ref".toList then []
      else if name = "$require".toList then fromConfig
      else if name = "$env".toList then []
      else visits (node ++ [name]) value ++ visitsFields node fromConfig fields

/-- The parts that the resolution of `$args` visits. -/
def visitsArgs (node : Path) : List (Text × Json N) → List Path
  | [] => []
  | (name, value) :: fields =>
      if name = "$args".toList then visits (node ++ [name]) value else visitsArgs node fields

end

/-- The parts that `objectFromNode` of the part at a path visits. -/
def nodeVisits [JsNumber N] (node : Path) (objectConfig : Json N) : List Path :=
  match truthyProperty "$require".toList objectConfig with
  | some _ => visitsArgs node (fieldsOf objectConfig) ++ [node]
  | none =>
      match truthyProperty "$env".toList objectConfig with
      | some _ => []
      | none => visits node objectConfig

theorem prefix_of_append_singleton {node x : Path} {token : Text} (h : node ++ [token] <+: x) :
    node <+: x :=
  (List.prefix_append node [token]).trans h

/-- The token after a path is the only one. -/
theorem token_eq_of_prefixes {node x : Path} {token token' : Text} (h : node ++ [token] <+: x)
    (h' : node ++ [token'] <+: x) : token = token' := by
  have hlength : (node ++ [token]).length = (node ++ [token']).length := by
    rw [List.length_append, List.length_append, List.length_singleton, List.length_singleton]
  have heq := (List.prefix_of_prefix_length_le h h' hlength.le).eq_of_length hlength
  exact List.singleton_injective (List.append_cancel_left heq)

theorem not_prefix_append_singleton (node : Path) (token : Text) : ¬node ++ [token] <+: node := by
  intro h
  have hlength := h.length_le
  rw [List.length_append, List.length_singleton] at hlength
  omega

mutual

/-- What is visited is below. -/
theorem prefix_of_mem_visits {node x : Path} (j : Json N) (h : x ∈ visits node j) :
    node <+: x := by
  cases j with
  | arr items =>
      obtain ⟨k, -, hk⟩ := exists_prefix_of_mem_visitsItems items h
      exact prefix_of_append_singleton hk
  | obj fields =>
      rw [visits] at h
      split_ifs at h with hhidden
      · cases h
      rcases exists_prefix_of_mem_visitsFields fields h with ⟨name, -, hname⟩ | ⟨-, hx⟩
      · exact prefix_of_append_singleton hname
      · rcases List.mem_append.1 hx with hx | hx
        · exact prefix_of_append_singleton (prefix_of_mem_visitsArgs fields hx)
        · rw [List.mem_singleton.1 hx]
  | _ => cases h

theorem exists_prefix_of_mem_visitsItems {node x : Path} {i : ℕ} (items : List (Json N))
    (h : x ∈ visitsItems node i items) : ∃ k, i ≤ k ∧ node ++ [Text.ofNat k] <+: x := by
  cases items with
  | nil => cases h
  | cons item items =>
      rcases List.mem_append.1 h with h | h
      · exact ⟨i, le_rfl, prefix_of_mem_visits item h⟩
      · obtain ⟨k, hle, hk⟩ := exists_prefix_of_mem_visitsItems items h
        exact ⟨k, Nat.le_of_succ_le hle, hk⟩

theorem exists_prefix_of_mem_visitsFields {node x : Path} {L : List Path}
    (fields : List (Text × Json N)) (h : x ∈ visitsFields node L fields) :
    (∃ name ∈ fields.map Prod.fst, node ++ [name] <+: x) ∨
      ("$require".toList ∈ fields.map Prod.fst ∧ x ∈ L) := by
  match fields with
  | [] => cases h
  | (name, value) :: fields =>
      rw [visitsFields] at h
      split_ifs at h with href hrequire henv
      · cases h
      · exact Or.inr ⟨hrequire ▸ List.mem_cons_self, h⟩
      · cases h
      · rcases List.mem_append.1 h with h | h
        · exact Or.inl ⟨name, List.mem_cons_self, prefix_of_mem_visits value h⟩
        · refine (exists_prefix_of_mem_visitsFields fields h).imp ?_ ?_
          · rintro ⟨other, hmem, hother⟩
            exact ⟨other, List.mem_cons_of_mem _ hmem, hother⟩
          · rintro ⟨hmem, hx⟩
            exact ⟨List.mem_cons_of_mem _ hmem, hx⟩

theorem prefix_of_mem_visitsArgs {node x : Path} (fields : List (Text × Json N))
    (h : x ∈ visitsArgs node fields) : node ++ ["$args".toList] <+: x := by
  match fields with
  | [] => cases h
  | (name, value) :: fields =>
      rw [visitsArgs] at h
      split_ifs at h with hname
      · exact hname ▸ prefix_of_mem_visits value h
      · exact prefix_of_mem_visitsArgs fields h

end

theorem prefix_of_mem_nodeVisits [JsNumber N] {node x : Path} {objectConfig : Json N}
    (h : x ∈ nodeVisits node objectConfig) : node <+: x := by
  rw [nodeVisits] at h
  split at h
  · rcases List.mem_append.1 h with h | h
    · exact prefix_of_append_singleton (prefix_of_mem_visitsArgs _ h)
    · rw [List.mem_singleton.1 h]
  · split at h
    · cases h
    · exact prefix_of_mem_visits objectConfig h

/-! ### What stays where it was resolved -/

/-- The names of properties with which an object is not rebuilt as it is. -/
def specialNames : List Text :=
  markers ++ ["hasOwnProperty".toList, "then".toList, "__proto__".toList]

/-- The properties of an object that is rebuilt as it is. -/
def Plain (fields : List (Text × Json N)) : Prop :=
  (fields.map Prod.fst).Nodup ∧ ∀ name ∈ fields.map Prod.fst, name ∉ specialNames

instance (fields : List (Text × Json N)) : Decidable (Plain fields) :=
  inferInstanceAs (Decidable (_ ∧ _))

theorem Plain.tail {field : Text × Json N} {fields : List (Text × Json N)}
    (h : Plain (field :: fields)) : Plain fields :=
  ⟨(List.nodup_cons.1 h.1).2, fun name hname => h.2 name (List.mem_cons_of_mem _ hname)⟩

/-- An object that is given back when it is awaited. -/
def JsObject.Clean {V : Type} (o : JsObject V) : Prop :=
  o.proto = none ∧ property "then".toList o.fields = none

theorem fields_assign {name : Text} (hname : name ∉ specialNames) (v : Value N E)
    (o : JsObject (Value N E)) :
    o.assign name v = { o with fields := Json.setField name v o.fields } := by
  rw [JsObject.assign, if_neg]
  rintro rfl
  exact hname (by decide)

/-- An assignment of another name. -/
theorem JsObject.Clean.assign {o : JsObject (Value N E)} (ho : o.Clean) {name : Text}
    (hname : name ∉ specialNames) (v : Value N E) : (o.assign name v).Clean := by
  rw [fields_assign hname]
  refine ⟨ho.1, (property_setField_of_ne ?_ v o.fields).trans ho.2⟩
  rintro rfl
  exact hname (by decide)

/-- Arrays, and objects that are rebuilt as they are. -/
def isContainer : Json N → Bool
  | .arr _ => true
  | .obj fields => decide (Plain fields)
  | _ => false

/-- What is resolved at a place below a part stays there. -/
def stays : Json N → Path → Bool
  | _, [] => true
  | j, token :: path => isContainer j && (childAt token j).any fun child => stays child path

/-- A way goes through a container. -/
theorem exists_child_of_stays {j : Json N} {token : Text} {path : Path}
    (h : stays j (token :: path) = true) :
    isContainer j = true ∧ ∃ child, childAt token j = some child ∧ stays child path = true := by
  rw [stays, Bool.and_eq_true, Option.any_eq_true] at h
  exact ⟨h.1, h.2.imp fun child hchild => hchild⟩

end ObjectCreator
