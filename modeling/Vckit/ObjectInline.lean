/-
**References and what they refer to, written inline.**

A reference to a part of the configuration and the part itself are resolved by different code.
`objectFromPointer` tests the part by truthiness, then its `$require`, then its `$env`;
`resolveRefs` walks its properties in order and stops at the first marker.  With nothing in
`objects` they agree when the part is truthy and the marker that is tested first is also the first
one in order, after nothing but data.  A part that is present but falsy is resolved to a value when
it is written inline, and is not found when it is referred to.

Main definitions:

* `ObjectCreator.SameOutcome` — the same value, or the same failure as the `catch` of a reference
  passes it on;
* `ObjectCreator.MarkersInOrder` — parts at which both find the same marker;
* `ObjectCreator.Inlines` — the references that can be written out.

Main results:

* `ObjectCreator.run_resolveRefs_of_markersInOrder` — on such parts both evaluators run alike;
* `ObjectCreator.resolve_ref_eq_inline` — **a reference that can be written out gives what the part
  gives inline; one to a falsy part never does**.
-/

import Vckit.CreateObjects
import Vckit.PlainData

set_option relaxedAutoImplicit false
set_option autoImplicit false

namespace ObjectCreator

variable {N E : Type}

/-! ### Data before a marker -/

/-- A part with no property `hasOwnProperty` at any depth. -/
def Unhidden (j : Json N) : Prop := ∀ part ∈ subtrees j, "hasOwnProperty".toList ∉ keys part

mutual

/-- Without such a property, a part can be rebuilt. -/
theorem exists_rebuilt (j : Json N) (h : Unhidden j) :
    ∃ v, (rebuilt j : Except JsError (Value N E)) = .ok v := by
  cases j with
  | null => exact ⟨_, rfl⟩
  | bool b => exact ⟨_, rfl⟩
  | num n => exact ⟨_, rfl⟩
  | str s => exact ⟨_, rfl⟩
  | arr items =>
      obtain ⟨values, hvalues⟩ := exists_rebuiltItems items fun part hpart =>
        h part (List.mem_cons_of_mem _ hpart)
      exact ⟨_, map_eq_ok.2 ⟨values, hvalues, rfl⟩⟩
  | obj fields =>
      obtain ⟨assignments, hassignments⟩ := exists_rebuiltFields fields fun part hpart =>
        h part (List.mem_cons_of_mem _ hpart)
      have hself : "hasOwnProperty".toList ∉ fields.map Prod.fst := h _ (mem_subtrees_self _)
      rw [rebuilt, property_eq_none_iff.2 hself]
      exact ⟨_, map_eq_ok.2 ⟨assignments, hassignments, rfl⟩⟩

theorem exists_rebuiltItems (items : List (Json N))
    (h : ∀ part ∈ subtreesItems items, "hasOwnProperty".toList ∉ keys part) :
    ∃ values, (rebuiltItems items : Except JsError (List (Value N E))) = .ok values := by
  cases items with
  | nil => exact ⟨_, rfl⟩
  | cons item items =>
      rw [subtreesItems, List.forall_mem_append] at h
      obtain ⟨v, hv⟩ := exists_rebuilt item h.1
      obtain ⟨values, hvalues⟩ := exists_rebuiltItems items h.2
      exact ⟨_, bind_eq_ok.2 ⟨v, hv, map_eq_ok.2 ⟨values, hvalues, rfl⟩⟩⟩

theorem exists_rebuiltFields (fields : List (Text × Json N))
    (h : ∀ part ∈ subtreesFields fields, "hasOwnProperty".toList ∉ keys part) :
    ∃ assignments, (rebuiltFields fields : Except JsError (List (Text × Value N E))) =
      .ok assignments := by
  match fields with
  | [] => exact ⟨_, rfl⟩
  | (name, value) :: fields =>
      rw [subtreesFields, List.forall_mem_append] at h
      obtain ⟨v, hv⟩ := exists_rebuilt value h.1
      obtain ⟨assignments, hassignments⟩ := exists_rebuiltFields fields h.2
      exact ⟨_, bind_eq_ok.2 ⟨v, hv, map_eq_ok.2 ⟨assignments, hassignments, rfl⟩⟩⟩

end

variable [JsNumber N] {S : Type} (store : ObjectStore S N E) {modules : Modules N E}
  (host : Host N) (ofPointer : Json N → Create N E (Value N E))

/-- Data is resolved, and nothing else happens. -/
theorem run_resolveRefs_of_data (hsettle : SettlesData modules) (j : Json N) (hfree : MarkerFree j)
    (hunhidden : Unhidden j) (s : S) :
    ∃ v, (resolveRefs host ofPointer j).run (serve store modules) s = (.ok v, s) := by
  obtain ⟨v, hv⟩ := exists_rebuilt j hunhidden
  refine ⟨v, ?_⟩
  rw [run_resolveRefs_of_markerFree hsettle j hfree, hv]
  rfl

/-- A property that is data. -/
def DataField (field : Text × Json N) : Prop :=
  field.1 ∉ markers ∧ MarkerFree field.2 ∧ Unhidden field.2

/-- The loop over the properties passes over data. -/
theorem run_resolveFields_append (hsettle : SettlesData modules)
    (fromConfig : Json N → Create N E (Value N E)) (before after : List (Text × Json N))
    (hbefore : ∀ field ∈ before, DataField field) (resolved : JsObject (Value N E)) (s : S) :
    ∃ resolved', (resolveFields host ofPointer fromConfig (before ++ after) resolved).run
        (serve store modules) s =
      (resolveFields host ofPointer fromConfig after resolved').run (serve store modules) s := by
  induction before generalizing resolved with
  | nil => exact ⟨resolved, rfl⟩
  | cons field before ih =>
      obtain ⟨⟨hname, hfree, hunhidden⟩, hbefore⟩ := List.forall_mem_cons.1 hbefore
      obtain ⟨v, hrun⟩ := run_resolveRefs_of_data store host ofPointer hsettle field.2 hfree
        hunhidden s
      obtain ⟨resolved', hrest⟩ := ih hbefore (resolved.assign field.1 v)
      refine ⟨resolved', ?_⟩
      rw [List.cons_append, resolveFields_cons_of_not_mem hname, Prog.run_bind_of_ok hrun, hrest]

/-- So an object is resolved from the first property on that is not data. -/
theorem run_resolveRefs_append (hsettle : SettlesData modules)
    {fields before after : List (Text × Json N)} {first : Text × Json N}
    (hhidden : "hasOwnProperty".toList ∉ keys (.obj fields))
    (hfields : fields = before ++ first :: after) (hbefore : ∀ field ∈ before, DataField field)
    (s : S) :
    ∃ resolved, (resolveRefs host ofPointer (.obj fields)).run (serve store modules) s =
      (resolveFields host ofPointer
        (fun require => objectFromConfig host require (resolveArgs host ofPointer fields))
        (first :: after) resolved).run (serve store modules) s := by
  have hproperty : property "hasOwnProperty".toList fields = none :=
    property_eq_none_iff.2 hhidden
  rw [resolveRefs, hproperty]
  obtain ⟨resolved, hrun⟩ := run_resolveFields_append store host ofPointer hsettle
    (fun require => objectFromConfig host require (resolveArgs host ofPointer fields)) before
    (first :: after) hbefore {} s
  rw [← hfields] at hrun
  exact ⟨resolved, hrun⟩

/-! ### The first marker -/

/-- The marker that `objectFromPointer` acts on. -/
def preferred (node : Json N) : Option Text :=
  if (truthyProperty "$require".toList node).isSome then some "$require".toList
  else if (truthyProperty "$env".toList node).isSome then some "$env".toList
  else none

/-- If `objectFromPointer` acts on a marker, `resolveRefs` comes to it first, and to nothing but
data before. -/
def MarkersInOrder (node : Json N) : Prop :=
  ∀ marker, preferred node = some marker → "hasOwnProperty".toList ∉ keys node ∧
    ∃ before value after, fieldsOf node = before ++ (marker, value) :: after ∧
      ∀ field ∈ before, DataField field

theorem property_append_cons {V : Type} {name : Text} {before after : List (Text × V)} {value : V}
    (h : ∀ field ∈ before, field.1 ≠ name) :
    property name (before ++ (name, value) :: after) = some value := by
  have hbefore : before.find? (fun f => decide (f.1 = name)) = none :=
    List.find?_eq_none.2 fun field hfield heq => h field hfield (of_decide_eq_true heq)
  rw [property, List.find?_append, hbefore, Option.none_or, List.find?_cons, decide_eq_true rfl,
    Option.map_some]

/-- The value of the first marker. -/
theorem value_eq_of_truthyProperty {name : Text} (hname : name ∈ markers)
    {fields before after : List (Text × Json N)} {value found : Json N}
    (hfields : fields = before ++ (name, value) :: after)
    (hbefore : ∀ field ∈ before, DataField field)
    (h : truthyProperty name (.obj fields) = some found) : value = found := by
  have hproperty := (Option.filter_eq_some_iff.1 h).1
  rw [hfields, property_append_cons fun field hfield heq => (hbefore field hfield).1 (heq ▸ hname)]
    at hproperty
  exact Option.some.inj hproperty

/-- **When the markers are in order, both evaluators run alike.** -/
theorem run_resolveRefs_of_markersInOrder (hsettle : SettlesData modules) {node : Json N}
    (hnode : MarkersInOrder node) (s : S) :
    (resolveRefs host ofPointer node).run (serve store modules) s =
      (objectFromNode host ofPointer node).run (serve store modules) s := by
  cases node with
  | obj fields =>
      rw [objectFromNode]
      cases hrequire : truthyProperty "$require".toList (.obj fields) with
      | some require =>
          obtain ⟨hhidden, before, value, after, hfields, hbefore⟩ := hnode "$require".toList (by
            rw [preferred, hrequire]
            rfl)
          obtain ⟨resolved, hrun⟩ := run_resolveRefs_append store host ofPointer hsettle hhidden
            hfields hbefore s
          rw [hrun, value_eq_of_truthyProperty (by decide +kernel) hfields hbefore hrequire]
          rfl
      | none =>
          cases henv : truthyProperty "$env".toList (.obj fields) with
          | some name =>
              obtain ⟨hhidden, before, value, after, hfields, hbefore⟩ := hnode "$env".toList (by
                rw [preferred, hrequire, henv]
                rfl)
              obtain ⟨resolved, hrun⟩ := run_resolveRefs_append store host ofPointer hsettle
                hhidden hfields hbefore s
              rw [hrun, value_eq_of_truthyProperty (by decide +kernel) hfields hbefore henv]
              rfl
          | none => rfl
  | _ => rfl

/-! ### References -/

/-- An object that refers to a pointer. -/
def reference (pointer : Text) : Json N := .obj [("$ref".toList, .str pointer)]

/-- What a part is resolved to with nothing in `objects`. -/
def resolvedTo (modules : Modules N E) (config : Json N) (fuel : ℕ) (part : Json N) :
    Except Failure (Value N E) :=
  ((resolveRefs host (objectFromPointer host config fuel) part).run (serve store modules)
    store.empty).1

/-- What a reference and a part give is the same value, or the same failure as the `catch` of the
reference passes it on: with the pointer added to its message, if that can be read. -/
inductive SameOutcome (pointer : Text) :
    Except Failure (Value N E) → Except Failure (Value N E) → Prop
  | value (v : Value N E) : SameOutcome pointer (.ok v) (.ok v)
  | failure (e : Thrown) :
      SameOutcome pointer (.error (.error (e.rethrow (whileCreating (.str pointer : Json N)))))
        (.error (.error e))

theorem not_sameOutcome_error_ok {pointer : Text} {e : Failure} {v : Value N E} :
    ¬SameOutcome pointer (.error e) (.ok v) := by
  intro h
  cases h

/-- A reference to the part at a path can be written out. -/
structure Inlines (path : Path) (node : Json N) : Prop where
  /-- Nothing is found at the path before anything was created. -/
  fresh : (store.get store.empty path).truthy = false
  /-- An object can be set there. -/
  settable (s : S) (v : Value N E) : ∃ s', store.set s path v = .ok s'
  truthy : isTruthy node = true
  markersInOrder : MarkersInOrder node

variable {config node : Json N} {pointer : Text} {path : Path}

theorem configAt_of_truthy (hnode : host.getConfig config path = some node)
    (htruthy : isTruthy node = true) : configAt host config path = some node := by
  rw [configAt, hnode]
  exact Option.filter_eq_some_iff.2 ⟨rfl, htruthy⟩

/-- A reference that can be written out runs as the part does. -/
theorem sameOutcome_of_inlines (hsettle : SettlesData modules)
    (hcompile : host.compile (.str pointer) = .ok path)
    (hnode : host.getConfig config path = some node) (h : Inlines store path node) {fuel : ℕ}
    (hends : ((objectFromPointer host config (fuel + 1) (.str pointer)).run (serve store modules)
      store.empty).1 ≠ .error .outOfFuel) :
    SameOutcome pointer (resolvedTo store host modules config (fuel + 1) (reference pointer))
      (resolvedTo store host modules config (fuel + 1) node) := by
  change SameOutcome pointer ((objectFromPointer host config (fuel + 1) (.str pointer)).run
    (serve store modules) store.empty).1 _
  rw [run_objectFromPointer hcompile, h.fresh, if_neg Bool.false_ne_true,
    configAt_of_truthy host hnode h.truthy] at hends ⊢
  dsimp only at hends ⊢
  rw [resolvedTo, run_resolveRefs_of_markersInOrder store host _ hsettle h.markersInOrder]
  -- one more nested pointer makes no difference to the part
  have hstays := objectFromNode_rel (compatible_stays store modules) host
    (objectFromPointer host config fuel) (objectFromPointer host config (fuel + 1)) node
    (fun _ _ _ => run_objectFromPointer_succ) store.empty fun hfuel =>
      hends (run_keep_of_error hfuel)
  rw [hstays]
  rcases hrun : (objectFromNode host (objectFromPointer host config fuel) node).run
    (serve store modules) store.empty with ⟨(_ | e) | v, s⟩
  · exact absurd (run_keep_of_error (congrArg Prod.fst hrun)) hends
  · rw [run_keep_of_error (congrArg Prod.fst hrun)]
    exact .failure e
  · obtain ⟨s', hset⟩ := h.settable s v
    rw [run_keep_of_ok hrun (serve_setObject_of_ok hset)]
    exact .value v

/-- A falsy part is resolved to a value. -/
theorem exists_resolvedTo_of_falsy (modules : Modules N E) (config : Json N) (fuel : ℕ)
    (hfalsy : isTruthy node = false) :
    ∃ v, resolvedTo store host modules config fuel node = .ok v := by
  cases node with
  | arr items => cases hfalsy
  | obj fields => cases hfalsy
  | _ => exact ⟨_, rfl⟩

/-- **A reference that can be written out gives what the part gives inline; one to a part that is
falsy never does.** -/
theorem resolve_ref_eq_inline
    (hhost : host.LawfulOn config {q | Relation.ReflTransGen (Refers host config) path q})
    (hsettle : SettlesData modules)
    (hacyclic : ∀ p, ¬Relation.TransGen (Refers host config) p p)
    (hcompile : host.compile (.str pointer) = .ok path)
    (hnode : host.getConfig config path = some node) :
    ∃ bound, ∀ fuel ≥ bound,
      (Inlines store path node →
        SameOutcome pointer (resolvedTo store host modules config fuel (reference pointer))
          (resolvedTo store host modules config fuel node)) ∧
      ((store.get store.empty path).truthy = false → isTruthy node = false →
        ¬SameOutcome pointer (resolvedTo store host modules config fuel (reference pointer))
          (resolvedTo store host modules config fuel node)) := by
  obtain ⟨bound, hbound⟩ := objectFromPointer_ends_of_acc store modules
    (acc_of_forall_acyclic hhost hacyclic)
  refine ⟨bound + 1, fun fuel hfuel => ?_⟩
  obtain ⟨fuel, rfl⟩ := Nat.exists_eq_add_of_le' (show 1 ≤ fuel by omega)
  constructor
  · intro h
    exact sameOutcome_of_inlines store host hsettle hcompile hnode h
      (hbound (fuel + 1) (by omega) _ hcompile store.empty)
  · intro hfresh hfalsy hsame
    obtain ⟨v, hv⟩ := exists_resolvedTo_of_falsy store host modules config (fuel + 1) hfalsy
    have hnone : configAt host config path = none := by
      rw [configAt, hnode]
      exact Option.filter_eq_none_iff.2 fun _ h => by
        rw [← Option.some.inj h, hfalsy]
        exact Bool.false_ne_true
    have href : resolvedTo store host modules config (fuel + 1) (reference pointer) =
        .error (.ofError (pointerError "Pointer not found: ".toList (.str pointer : Json N))) := by
      change ((objectFromPointer host config (fuel + 1) (.str pointer)).run (serve store modules)
        store.empty).1 = _
      rw [run_objectFromPointer hcompile, hfresh, if_neg Bool.false_ne_true, hnone]
      rfl
    rw [hv, href] at hsame
    exact not_sameOutcome_error_ok hsame

/-- The label of a database, and its address in the environment. -/
def databaseConfig : Json ℤ :=
  .obj [("db".toList,
    .obj [("label".toList, .str "main".toList), ("$env".toList, .str "DATABASE".toList)])]

/-- The address is the same for a reference and inline. -/
theorem resolve_ref_eq_inline_database :
    ∃ bound, ∀ fuel ≥ bound,
      SameOutcome "/db".toList
        (resolvedTo treeStore (plainHost : Host ℤ) plainModules databaseConfig fuel
          (reference "/db".toList))
        (resolvedTo treeStore plainHost plainModules databaseConfig fuel
          (.obj [("label".toList, .str "main".toList),
            ("$env".toList, .str "DATABASE".toList)])) := by
  have hsettle : SettlesData (plainModules : Modules ℤ Unit) := fun _ _ => rfl
  have hacyclic : ∀ p, ¬Relation.TransGen (Refers (plainHost : Host ℤ) databaseConfig) p p :=
    not_transGen_of_refs_eq_nil plainHost_lawful rfl
  have hcompile : (plainHost : Host ℤ).compile (.str "/db".toList) = .ok ["db".toList] := rfl
  obtain ⟨bound, hbound⟩ := resolve_ref_eq_inline treeStore plainHost plainHost_lawful hsettle
    hacyclic hcompile rfl
  refine ⟨bound, fun fuel hfuel => (hbound fuel hfuel).1 ⟨rfl, fun s v => ⟨_, rfl⟩, rfl, ?_⟩⟩
  intro marker hmarker
  have hdata : ∀ part ∈ subtrees (.str "main".toList : Json ℤ), ∀ name ∈ keys part,
      name ∉ markers := by
    decide +kernel
  have hpreferred : preferred (.obj [("label".toList, .str "main".toList),
      ("$env".toList, .str "DATABASE".toList)] : Json ℤ) = some "$env".toList := rfl
  obtain rfl := Option.some.inj (hpreferred.symm.trans hmarker)
  refine ⟨by decide +kernel, [("label".toList, .str "main".toList)], _, [], rfl, ?_⟩
  rintro field hfield
  rw [List.mem_singleton.1 hfield]
  exact ⟨by decide +kernel, hdata, by unfold Unhidden; decide +kernel⟩

/-- A switch that is off. -/
def loggingConfig : Json ℤ := .obj [("logging".toList, .bool false)]

/-- **A reference to `false` is not found, and inline it is `false`.** -/
theorem resolve_ref_false :
    (∀ p, ¬Relation.TransGen (Refers (plainHost : Host ℤ) loggingConfig) p p) ∧
      (plainHost : Host ℤ).compile (.str "/logging".toList) = .ok ["logging".toList] ∧
      (plainHost : Host ℤ).getConfig loggingConfig ["logging".toList] = some (.bool false) ∧
      ∀ fuel,
        resolvedTo treeStore (plainHost : Host ℤ) plainModules loggingConfig (fuel + 1)
            (reference "/logging".toList) =
          .error (.ofError (.ofMessage "Pointer not found: /logging".toList)) ∧
        resolvedTo treeStore (plainHost : Host ℤ) plainModules loggingConfig (fuel + 1)
          (.bool false) = .ok (.bool false) ∧
        ¬SameOutcome "/logging".toList
          (resolvedTo treeStore (plainHost : Host ℤ) plainModules loggingConfig (fuel + 1)
            (reference "/logging".toList))
          (resolvedTo treeStore plainHost plainModules loggingConfig (fuel + 1)
            (.bool false)) := by
  refine ⟨not_transGen_of_refs_eq_nil plainHost_lawful rfl, rfl, rfl, fun fuel => ⟨rfl, rfl, ?_⟩⟩
  exact not_sameOutcome_error_ok

end ObjectCreator
