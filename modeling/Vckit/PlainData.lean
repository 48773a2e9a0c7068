/-
**Parts of a configuration without markers.**

A part of a configuration in which no key is `$ref`, `$require` or `$env` is rebuilt by
`resolveRefs` alone: no pointer is followed, no module is used, and `objects` is not touched.  What
it gives is the part itself unless something in it cannot be rebuilt: `typeof null` is `object`, so
`null` becomes an object without properties; a property `hasOwnProperty` hides the method that the
loop calls, which ends the call with an error; and the assignment to `__proto__` makes no property.

Main definitions:

* `ObjectCreator.MarkerFree` — parts without markers;
* `ObjectCreator.ofJson`, `ObjectCreator.rebuilt` — the value that a part is, and the one that is
  built from it;
* `ObjectCreator.Rebuildable` — parts without `null` and without the two names.

Main results:

* `ObjectCreator.run_resolveRefs_of_markerFree` — without markers, `resolveRefs` gives what is
  rebuilt and changes nothing;
* `ObjectCreator.resolveRefs_eq_iff` — **it gives a value equal to the part exactly when the part is
  rebuildable**.
-/

import Vckit.ObjectInstance

set_option relaxedAutoImplicit false
set_option autoImplicit false

namespace ObjectCreator

variable {N E : Type}

/-! ### Markers -/

/-- The names of the properties of an object, in the order of enumeration. -/
def keys (j : Json N) : List Text := (fieldsOf j).map Prod.fst

/-- The names that make an object more than data. -/
def markers : List Text := ["$ref".toList, "$require".toList, "$env".toList]

/-- A part of a configuration with no marker at any depth. -/
def MarkerFree (j : Json N) : Prop := ∀ part ∈ subtrees j, ∀ name ∈ keys part, name ∉ markers

theorem MarkerFree.of_mem {i j : Json N} (h : MarkerFree j) (hi : i ∈ subtrees j) :
    MarkerFree i :=
  fun part hpart => h part (mem_subtrees_trans hpart j hi)

/-- The fields of an object without markers. -/
theorem MarkerFree.fields {fields : List (Text × Json N)} (h : MarkerFree (.obj fields)) :
    ∀ field ∈ fields, field.1 ∉ markers ∧ MarkerFree field.2 := by
  intro field hfield
  refine ⟨h _ (mem_subtrees_self _) _ (List.mem_map_of_mem hfield), h.of_mem ?_⟩
  exact List.mem_cons_of_mem _ (mem_subtreesFields_of_mem hfield)

theorem MarkerFree.items {items : List (Json N)} (h : MarkerFree (.arr items)) :
    ∀ item ∈ items, MarkerFree item :=
  fun _ hitem => h.of_mem (List.mem_cons_of_mem _ (mem_subtreesItems_of_mem hitem))

/-! ### Data -/

mutual

/-- The value that a part of a configuration is. -/
def ofJson : Json N → Value N E
  | .null => .null
  | .bool b => .bool b
  | .num n => .num n
  | .str s => .str s
  | .arr items => .arr (ofItems items)
  | .obj fields => .obj { fields := ofFields fields }

/-- The items of an array. -/
def ofItems : List (Json N) → List (Value N E)
  | [] => []
  | item :: items => ofJson item :: ofItems items

/-- The properties of an object. -/
def ofFields : List (Text × Json N) → List (Text × Value N E)
  | [] => []
  | (name, value) :: fields => (name, ofJson value) :: ofFields fields

end

theorem ofFields_eq_map (fields : List (Text × Json N)) :
    (ofFields fields : List (Text × Value N E)) = fields.map fun f => (f.1, ofJson f.2) := by
  induction fields with
  | nil => rfl
  | cons field fields ih => rw [ofFields, ih, List.map_cons]

/-- Values without functions, instances and modules. -/
inductive IsData : Value N E → Prop
  | null : IsData .null
  | bool (b : Bool) : IsData (.bool b)
  | num (n : N) : IsData (.num n)
  | str (s : Text) : IsData (.str s)
  | arr {items : List (Value N E)} (hitems : ∀ v ∈ items, IsData v) : IsData (.arr items)
  | obj {o : JsObject (Value N E)} (hproto : ∀ v, o.proto = some v → IsData v)
      (hfields : ∀ f ∈ o.fields, IsData f.2) : IsData (.obj o)

/-- Awaiting data gives it back: a property `then` of it is no function. -/
def SettlesData (modules : Modules N E) : Prop :=
  ∀ v, IsData v → modules.run (.settle v) = .ok v

theorem mem_setField {V : Type} {name : Text} {v : V} {fields : List (Text × V)} {f : Text × V}
    (h : f ∈ Json.setField name v fields) : f = (name, v) ∨ f ∈ fields := by
  induction fields with
  | nil => exact Or.inl (List.mem_singleton.1 h)
  | cons field fields ih =>
      rw [Json.setField] at h
      split_ifs at h with heq hbefore
      · exact (List.mem_cons.1 h).imp id (List.mem_cons_of_mem field)
      · exact List.mem_cons.1 h
      · rcases List.mem_cons.1 h with rfl | h
        · exact Or.inr List.mem_cons_self
        · exact (ih h).imp id (List.mem_cons_of_mem field)

/-- Assigning data to a property of data. -/
theorem IsData.assign {o : JsObject (Value N E)} {v : Value N E} (ho : IsData (.obj o))
    (name : Text) (hv : IsData v) : IsData (.obj (o.assign name v)) := by
  cases ho with
  | obj hproto hfields =>
      rw [JsObject.assign]
      split_ifs
      · exact .obj (fun w hw => Option.some.inj hw ▸ hv) hfields
      · exact .obj hproto hfields
      · refine .obj hproto fun f hf => ?_
        rcases mem_setField hf with rfl | hf
        · exact hv
        · exact hfields f hf

/-- The object that assignments build. -/
def assigned (assignments : List (Text × Value N E)) (o : JsObject (Value N E)) :
    JsObject (Value N E) :=
  assignments.foldl (fun o a => o.assign a.1 a.2) o

theorem IsData.assigned {assignments : List (Text × Value N E)} {o : JsObject (Value N E)}
    (ho : IsData (.obj o)) (h : ∀ a ∈ assignments, IsData a.2) :
    IsData (.obj (ObjectCreator.assigned assignments o)) := by
  induction assignments generalizing o with
  | nil => exact ho
  | cons a assignments ih =>
      exact ih (ho.assign a.1 (h a List.mem_cons_self)) fun b hb => h b (List.mem_cons_of_mem a hb)

/-! ### Rebuilding -/

mutual

/-- What `resolveRefs` builds from a part without markers. -/
def rebuilt : Json N → Except JsError (Value N E)
  | .null => .ok (.obj {})
  | .bool b => .ok (.bool b)
  | .num n => .ok (.num n)
  | .str s => .ok (.str s)
  | .arr items => (rebuiltItems items).map .arr
  | .obj fields =>
      if (property "hasOwnProperty".toList fields).isSome then
        .error (hasOwnPropertyHidden "input".toList)
      else (rebuiltFields fields).map fun assignments => .obj (assigned assignments {})

/-- The items that are built. -/
def rebuiltItems : List (Json N) → Except JsError (List (Value N E))
  | [] => .ok []
  | item :: items => do
      let v ← rebuilt item
      (rebuiltItems items).map fun values => v :: values

/-- The values that are assigned. -/
def rebuiltFields : List (Text × Json N) → Except JsError (List (Text × Value N E))
  | [] => .ok []
  | (name, value) :: fields => do
      let v ← rebuilt value
      (rebuiltFields fields).map fun assignments => (name, v) :: assignments

end

mutual

/-- What is built is data. -/
theorem isData_of_rebuilt (j : Json N) {v : Value N E} (h : rebuilt j = .ok v) : IsData v := by
  cases j with
  | null =>
      rw [← Except.ok.inj h]
      exact .obj (fun _ h => by cases h) fun _ h => by cases h
  | bool b => exact Except.ok.inj h ▸ .bool b
  | num n => exact Except.ok.inj h ▸ .num n
  | str s => exact Except.ok.inj h ▸ .str s
  | arr items =>
      obtain ⟨values, hvalues, rfl⟩ := map_eq_ok.1 h
      exact .arr (isData_of_rebuiltItems items hvalues)
  | obj fields =>
      rw [rebuilt] at h
      split_ifs at h
      obtain ⟨assignments, hassignments, rfl⟩ := map_eq_ok.1 h
      refine IsData.assigned ?_ (isData_of_rebuiltFields fields hassignments)
      exact .obj (fun _ h => by cases h) fun _ h => by cases h

theorem isData_of_rebuiltItems (items : List (Json N)) {values : List (Value N E)}
    (h : rebuiltItems items = .ok values) : ∀ v ∈ values, IsData v := by
  cases items with
  | nil =>
      rw [← Except.ok.inj h]
      exact fun _ h => by cases h
  | cons item items =>
      obtain ⟨v, hv, h⟩ := bind_eq_ok.1 h
      obtain ⟨values, hvalues, rfl⟩ := map_eq_ok.1 h
      exact List.forall_mem_cons.2
        ⟨isData_of_rebuilt item hv, isData_of_rebuiltItems items hvalues⟩

theorem isData_of_rebuiltFields (fields : List (Text × Json N))
    {assignments : List (Text × Value N E)} (h : rebuiltFields fields = .ok assignments) :
    ∀ a ∈ assignments, IsData a.2 := by
  match fields with
  | [] =>
      rw [← Except.ok.inj h]
      exact fun _ h => by cases h
  | (name, value) :: fields =>
      obtain ⟨v, hv, h⟩ := bind_eq_ok.1 h
      obtain ⟨assignments, hassignments, rfl⟩ := map_eq_ok.1 h
      exact List.forall_mem_cons.2
        ⟨isData_of_rebuilt value hv, isData_of_rebuiltFields fields hassignments⟩

end

/-! ### Running without markers -/

section Run

variable {S : Type} {store : ObjectStore S N E} {modules : Modules N E}

/-- Data is not changed by being awaited. -/
theorem run_settle_of_isData (hsettle : SettlesData modules) {v : Value N E} (hv : IsData v)
    (s : S) : (settle v).run (serve store modules) s = (.ok v, s) := by
  cases v with
  | obj o =>
      rw [settle]
      split_ifs
      · rfl
      · rw [runCode, perform, Prog.run_perform, serve, hsettle _ hv]
        rfl
  | ext e => cases hv
  | _ => rfl

variable [JsNumber N] {host : Host N} {ofPointer : Json N → Create N E (Value N E)}

/-- A property that is no marker is resolved and assigned. -/
theorem resolveFields_cons_of_not_mem {fromConfig : Json N → Create N E (Value N E)}
    {field : Text × Json N} (h : field.1 ∉ markers) (fields : List (Text × Json N))
    (resolved : JsObject (Value N E)) :
    resolveFields host ofPointer fromConfig (field :: fields) resolved =
      resolveRefs host ofPointer field.2 >>= fun value =>
        resolveFields host ofPointer fromConfig fields (resolved.assign field.1 value) := by
  have hmarkers : field.1 ≠ "$ref".toList ∧ field.1 ≠ "$require".toList ∧
      field.1 ≠ "$env".toList := by
    simpa [markers] using h
  rw [resolveFields, if_neg hmarkers.1, if_neg hmarkers.2.1, if_neg hmarkers.2.2]

mutual

/-- **Without markers, `resolveRefs` gives what is rebuilt and changes nothing.** -/
theorem run_resolveRefs_of_markerFree (hsettle : SettlesData modules) (j : Json N)
    (hfree : MarkerFree j) (s : S) :
    (resolveRefs host ofPointer j).run (serve store modules) s =
      ((rebuilt j).mapError Failure.ofError, s) := by
  cases j with
  | null => rfl
  | bool b => rfl
  | num n => rfl
  | str s => rfl
  | arr items =>
      rw [resolveRefs, rebuilt]
      have hrun := run_resolveItems_of_markerFree hsettle items hfree.items s
      cases hitems : (rebuiltItems items : Except JsError (List (Value N E))) with
      | error e =>
          rw [hitems] at hrun
          exact Prog.run_bind_of_error hrun
      | ok values =>
          rw [hitems] at hrun
          exact Prog.run_bind_of_ok hrun
  | obj fields =>
      rw [resolveRefs, rebuilt]
      split_ifs
      · rfl
      · exact run_resolveFields_of_markerFree hsettle fields hfree.fields
          (.obj (fun _ h => by cases h) fun _ h => by cases h) s

theorem run_resolveItems_of_markerFree (hsettle : SettlesData modules) (items : List (Json N))
    (hfree : ∀ item ∈ items, MarkerFree item) (s : S) :
    (resolveItems host ofPointer items).run (serve store modules) s =
      ((rebuiltItems items).mapError Failure.ofError, s) := by
  cases items with
  | nil => rfl
  | cons item items =>
      obtain ⟨hitem, hitems⟩ := List.forall_mem_cons.1 hfree
      have hfirst := run_resolveRefs_of_markerFree hsettle item hitem s
      have hrest := run_resolveItems_of_markerFree hsettle items hitems s
      rw [resolveItems, rebuiltItems]
      cases hv : (rebuilt item : Except JsError (Value N E)) with
      | error e =>
          rw [hv] at hfirst
          exact Prog.run_bind_of_error hfirst
      | ok v =>
          rw [hv] at hfirst
          rw [Prog.run_bind_of_ok hfirst]
          cases hvalues : (rebuiltItems items : Except JsError (List (Value N E))) with
          | error e =>
              rw [hvalues] at hrest
              exact Prog.run_bind_of_error hrest
          | ok values =>
              rw [hvalues] at hrest
              exact Prog.run_bind_of_ok hrest

theorem run_resolveFields_of_markerFree (hsettle : SettlesData modules)
    {fromConfig : Json N → Create N E (Value N E)} (fields : List (Text × Json N))
    (hfree : ∀ field ∈ fields, field.1 ∉ markers ∧ MarkerFree field.2)
    {resolved : JsObject (Value N E)} (hresolved : IsData (.obj resolved)) (s : S) :
    (resolveFields host ofPointer fromConfig fields resolved).run (serve store modules) s =
      (((rebuiltFields fields).map fun assignments =>
        Value.obj (assigned assignments resolved)).mapError Failure.ofError, s) := by
  match fields with
  | [] => exact run_settle_of_isData hsettle hresolved s
  | (name, value) :: fields =>
      obtain ⟨⟨hname, hvalue⟩, hfields⟩ := List.forall_mem_cons.1 hfree
      have hfirst := run_resolveRefs_of_markerFree hsettle value hvalue s
      rw [resolveFields_cons_of_not_mem hname, rebuiltFields]
      cases hv : (rebuilt value : Except JsError (Value N E)) with
      | error e =>
          rw [hv] at hfirst
          exact Prog.run_bind_of_error hfirst
      | ok v =>
          rw [hv] at hfirst
          rw [Prog.run_bind_of_ok hfirst, run_resolveFields_of_markerFree hsettle fields hfields
            (hresolved.assign name (isData_of_rebuilt value hv)) s]
          cases (rebuiltFields fields : Except JsError (List (Text × Value N E))) <;> rfl

end

end Run

/-! ### What is rebuilt as it is -/

/-- A part that is rebuilt as it is, when the parts below it are. -/
def Kept (part : Json N) : Prop :=
  match part with
  | .null => False
  | part => "__proto__".toList ∉ keys part ∧ "hasOwnProperty".toList ∉ keys part

/-- A part of a configuration without `null`, and without properties `__proto__` and
`hasOwnProperty`, at any depth. -/
def Rebuildable (j : Json N) : Prop := ∀ part ∈ subtrees j, Kept part

theorem JsObject.eq_of_proto_none {V : Type} {o : JsObject V} {fields : List (Text × V)}
    (hproto : o.proto = none) (hfields : o.fields = fields) : o = { fields := fields } := by
  rcases o with ⟨proto, fields'⟩
  cases hproto
  cases hfields
  rfl

/-- The properties that assignments make; one to `__proto__` makes none. -/
theorem assigned_fields (assignments : List (Text × Value N E)) (o : JsObject (Value N E)) :
    (assigned assignments o).fields =
      (assignments.filter fun a => decide (a.1 ≠ "__proto__".toList)).foldl
        (fun fields a => Json.setField a.1 a.2 fields) o.fields := by
  induction assignments generalizing o with
  | nil => rfl
  | cons a assignments ih =>
      rw [assigned, List.foldl_cons]
      refine (ih (o.assign a.1 a.2)).trans ?_
      by_cases hname : a.1 = "__proto__".toList
      · have hdropped : ¬decide (a.1 ≠ "__proto__".toList) = true := fun h =>
          of_decide_eq_true h hname
        rw [List.filter_cons, if_neg hdropped, JsObject.assign, if_pos hname]
        split <;> rfl
      · rw [List.filter_cons, if_pos (decide_eq_true hname), List.foldl_cons, JsObject.assign,
          if_neg hname]

/-- In the order of enumeration, they are listed as they were assigned. -/
theorem assigned_fields_of_keysInOrder {assignments : List (Text × Value N E)}
    (h : Json.KeysInOrder (assignments.map Prod.fst)) :
    (assigned assignments {}).fields =
      assignments.filter fun a => decide (a.1 ≠ "__proto__".toList) := by
  rw [assigned_fields]
  refine Json.ofAssignments_of_keysInOrder ?_
  exact List.Pairwise.sublist ((List.filter_sublist (l := assignments)).map Prod.fst) h

/-- Assignments to other properties set no prototype. -/
theorem assigned_proto {assignments : List (Text × Value N E)} {o : JsObject (Value N E)}
    (h : "__proto__".toList ∉ assignments.map Prod.fst) :
    (assigned assignments o).proto = o.proto := by
  induction assignments generalizing o with
  | nil => rfl
  | cons a assignments ih =>
      rw [List.map_cons, List.mem_cons, not_or] at h
      rw [assigned, List.foldl_cons]
      refine (ih h.2).trans ?_
      rw [JsObject.assign, if_neg fun heq => h.1 heq.symm]

theorem map_fst_ofFields (fields : List (Text × Json N)) :
    (ofFields fields : List (Text × Value N E)).map Prod.fst = fields.map Prod.fst := by
  rw [ofFields_eq_map, List.map_map]
  rfl

theorem map_fst_of_rebuiltFields {fields : List (Text × Json N)}
    {assignments : List (Text × Value N E)} (h : rebuiltFields fields = .ok assignments) :
    assignments.map Prod.fst = fields.map Prod.fst := by
  induction fields generalizing assignments with
  | nil =>
      rw [← Except.ok.inj h]
      rfl
  | cons field fields ih =>
      obtain ⟨v, -, h⟩ := bind_eq_ok.1 h
      obtain ⟨assignments, hassignments, rfl⟩ := map_eq_ok.1 h
      rw [List.map_cons, List.map_cons, ih hassignments]

/-- The object that is built has the same properties exactly when the values are the same and no
name is `__proto__`. -/
theorem obj_assigned_eq_iff {fields : List (Text × Json N)} {assignments : List (Text × Value N E)}
    (hkeys : Json.KeysInOrder (fields.map Prod.fst))
    (hnames : assignments.map Prod.fst = fields.map Prod.fst) :
    (Value.obj (assigned assignments {}) : Value N E) = .obj { fields := ofFields fields } ↔
      "__proto__".toList ∉ fields.map Prod.fst ∧ assignments = ofFields fields := by
  have hfields := assigned_fields_of_keysInOrder (hnames ▸ hkeys)
  constructor
  · intro h
    rw [Value.obj.inj h] at hfields
    -- nothing was left out, since there are as many properties as assignments
    have hlength : (assignments.filter fun a => decide (a.1 ≠ "__proto__".toList)).length =
        assignments.length := by
      rw [← hfields, ← List.length_map Prod.fst, map_fst_ofFields, ← hnames, List.length_map]
    have hall := List.length_filter_eq_length_iff.1 hlength
    refine ⟨fun hproto => ?_, ?_⟩
    · rw [← hnames] at hproto
      obtain ⟨a, ha, hname⟩ := List.mem_map.1 hproto
      exact of_decide_eq_true (hall a ha) hname
    · rw [List.filter_eq_self.2 hall] at hfields
      exact hfields.symm
  · rintro ⟨hproto, rfl⟩
    rw [← hnames] at hproto
    have hall : ∀ a ∈ (ofFields fields : List (Text × Value N E)),
        decide (a.1 ≠ "__proto__".toList) = true := by
      intro a ha
      exact decide_eq_true fun hname => hproto (hname ▸ List.mem_map_of_mem ha)
    rw [List.filter_eq_self.2 hall] at hfields
    exact congrArg Value.obj (JsObject.eq_of_proto_none (assigned_proto hproto) hfields)

mutual

/-- **A part is rebuilt as it is exactly when it is rebuildable.** -/
theorem rebuilt_eq_iff (j : Json N) (hj : j.Canonical) :
    (rebuilt j : Except JsError (Value N E)) = .ok (ofJson j) ↔ Rebuildable j := by
  cases j with
  | null => exact ⟨(by cases ·), fun h => (h .null (mem_subtrees_self _)).elim⟩
  | bool b => simp [rebuilt, ofJson, Rebuildable, subtrees, Kept, keys, fieldsOf]
  | num n => simp [rebuilt, ofJson, Rebuildable, subtrees, Kept, keys, fieldsOf]
  | str s => simp [rebuilt, ofJson, Rebuildable, subtrees, Kept, keys, fieldsOf]
  | arr items =>
      have hself : Kept (.arr items) := ⟨List.not_mem_nil, List.not_mem_nil⟩
      rw [rebuilt, ofJson, map_eq_ok, Rebuildable, subtrees, List.forall_mem_cons,
        ← rebuiltItems_eq_iff items hj]
      constructor
      · rintro ⟨values, hvalues, heq⟩
        exact ⟨hself, hvalues.trans (congrArg Except.ok (Value.arr.inj heq))⟩
      · exact fun h => ⟨_, h.2, rfl⟩
  | obj fields =>
      rw [rebuilt, ofJson, Rebuildable, subtrees, List.forall_mem_cons,
        ← rebuiltFields_eq_iff fields hj.2]
      cases hhidden : property "hasOwnProperty".toList fields with
      | some value =>
          have hmem : "hasOwnProperty".toList ∈ fields.map Prod.fst := by
            by_contra hnot
            rw [property_eq_none_iff.2 hnot] at hhidden
            cases hhidden
          exact ⟨(by cases ·), fun h => absurd hmem h.1.2⟩
      | none =>
          rw [if_neg (by simp), map_eq_ok]
          constructor
          · rintro ⟨assignments, hassignments, heq⟩
            obtain ⟨hproto, rfl⟩ :=
              (obj_assigned_eq_iff hj.1 (map_fst_of_rebuiltFields hassignments)).1 heq
            exact ⟨⟨hproto, property_eq_none_iff.1 hhidden⟩, hassignments⟩
          · rintro ⟨⟨hproto, -⟩, hassignments⟩
            exact ⟨_, hassignments,
              (obj_assigned_eq_iff hj.1 (map_fst_ofFields fields)).2 ⟨hproto, rfl⟩⟩

theorem rebuiltItems_eq_iff (items : List (Json N)) (hitems : Json.CanonicalItems items) :
    (rebuiltItems items : Except JsError (List (Value N E))) = .ok (ofItems items) ↔
      ∀ part ∈ subtreesItems items, Kept part := by
  cases items with
  | nil => simp [rebuiltItems, ofItems, subtreesItems]
  | cons item items =>
      have hfirst := rebuilt_eq_iff item hitems.1
      have hrest := rebuiltItems_eq_iff items hitems.2
      rw [rebuiltItems, ofItems, subtreesItems, List.forall_mem_append, ← hrest, ← Rebuildable,
        ← hfirst, bind_eq_ok]
      constructor
      · rintro ⟨v, hv, h⟩
        obtain ⟨values, hvalues, heq⟩ := map_eq_ok.1 h
        obtain ⟨rfl, rfl⟩ := List.cons.inj heq
        exact ⟨hv, hvalues⟩
      · rintro ⟨hv, hvalues⟩
        exact ⟨_, hv, map_eq_ok.2 ⟨_, hvalues, rfl⟩⟩

theorem rebuiltFields_eq_iff (fields : List (Text × Json N))
    (hfields : Json.CanonicalFields fields) :
    (rebuiltFields fields : Except JsError (List (Text × Value N E))) = .ok (ofFields fields) ↔
      ∀ part ∈ subtreesFields fields, Kept part := by
  match fields with
  | [] => simp [rebuiltFields, ofFields, subtreesFields]
  | (name, value) :: fields =>
      have hfirst := rebuilt_eq_iff value hfields.1
      have hrest := rebuiltFields_eq_iff fields hfields.2
      rw [rebuiltFields, ofFields, subtreesFields, List.forall_mem_append, ← hrest, ← Rebuildable,
        ← hfirst, bind_eq_ok]
      constructor
      · rintro ⟨v, hv, h⟩
        obtain ⟨values, hvalues, heq⟩ := map_eq_ok.1 h
        obtain ⟨hfield, rfl⟩ := List.cons.inj heq
        obtain ⟨-, rfl⟩ := Prod.mk.inj hfield
        exact ⟨hv, hvalues⟩
      · rintro ⟨hv, hvalues⟩
        exact ⟨_, hv, map_eq_ok.2 ⟨_, hvalues, rfl⟩⟩

end

/-! ### Resolving plain data -/

section Resolve

variable [JsNumber N] {S : Type} {modules : Modules N E}

/-- **A part without markers is resolved to a value equal to it, with the same keys, order and
leaves, exactly when it is rebuildable.** -/
theorem resolveRefs_eq_iff (hsettle : SettlesData modules) (host : Host N)
    (ofPointer : Json N → Create N E (Value N E)) (store : ObjectStore S N E) (s : S) {j : Json N}
    (hj : j.Canonical) (hfree : MarkerFree j) :
    ((resolveRefs host ofPointer j).run (serve store modules) s).1 = .ok (ofJson j) ↔
      Rebuildable j := by
  rw [run_resolveRefs_of_markerFree hsettle j hfree, mapError_eq_ok,
    rebuilt_eq_iff j hj]

end Resolve

/-- The options of a database connection. -/
def connectionOptions (cache : Json ℤ) : Json ℤ :=
  .obj [("type".toList, .str "sqlite".toList), ("entities".toList, .arr [.str "a".toList]),
    ("cache".toList, cache)]

theorem canonical_connectionOptions {cache : Json ℤ} (h : cache.Canonical) :
    (connectionOptions cache).Canonical := by
  have hkeys : Json.KeysInOrder ["type".toList, "entities".toList, "cache".toList] := by
    unfold Json.KeysInOrder
    decide +kernel
  exact ⟨hkeys, trivial, ⟨trivial, trivial⟩, h, trivial⟩

/-- With `cache` switched off, the options are resolved to themselves. -/
theorem resolveRefs_eq_iff_options :
    ((resolveRefs plainHost (fun _ => .ret .undefined) (connectionOptions (.bool false))).run
      (serve treeStore plainModules) treeStore.empty).1 =
        .ok (ofJson (connectionOptions (.bool false)) : Value ℤ Unit) ↔
      Rebuildable (connectionOptions (.bool false)) := by
  have hfree : ∀ part ∈ subtrees (connectionOptions (.bool false)), ∀ name ∈ keys part,
      name ∉ markers := by
    decide +kernel
  exact resolveRefs_eq_iff (fun _ _ => rfl) plainHost _ treeStore treeStore.empty
    (canonical_connectionOptions trivial) hfree

/-- **With `cache: null` they are not**: the option becomes an object. -/
theorem resolveRefs_null :
    (connectionOptions .null).Canonical ∧ MarkerFree (connectionOptions .null) ∧
      ∀ (ofPointer : Json ℤ → Create ℤ Unit (Value ℤ Unit)),
        ((resolveRefs plainHost ofPointer (connectionOptions .null)).run
          (serve treeStore plainModules) treeStore.empty).1 =
            .ok (.obj { fields := [("type".toList, .str "sqlite".toList),
              ("entities".toList, .arr [.str "a".toList]), ("cache".toList, .obj {})] }) ∧
        ((resolveRefs plainHost ofPointer (connectionOptions .null)).run
          (serve treeStore plainModules) treeStore.empty).1 ≠
            .ok (ofJson (connectionOptions .null)) := by
  have hfree : ∀ part ∈ subtrees (connectionOptions .null), ∀ name ∈ keys part,
      name ∉ markers := by
    decide +kernel
  refine ⟨canonical_connectionOptions trivial, hfree, fun ofPointer => ⟨rfl, fun h => ?_⟩⟩
  have hobject := JsObject.mk.inj (Value.obj.inj (Except.ok.inj h))
  have hcache := congrArg (fun fields => fields.map Prod.snd) hobject.2
  cases hcache

end ObjectCreator
