/-
**A tree of objects, and a configuration without modules.**

`objects` is itself an object: setting a value at a path makes the objects on the way that are not
there yet, and reading follows the path as far as it leads.  On incomparable paths these operations
are lenses, because the objects on the way to a path are never the values that were set at another.

The packages are given as far as configurations of plain data need them: pointers are cut at their
slashes, and a configuration is read at a path through its properties and items.

Main definitions:

* `ObjectCreator.getTree`, `ObjectCreator.setTree`, `ObjectCreator.treeStore` — objects as a tree;
* `ObjectCreator.plainHost`, `ObjectCreator.plainModules` — packages, and no modules.

Main results:

* `ObjectCreator.treeStore_lens` — **the operations of a tree are lenses on incomparable paths**;
* `ObjectCreator.treeStore_nestedOn` — and find a path through the paths above it;
* `ObjectCreator.plainHost_lawful` — what is found in a configuration is a part of it.
-/

import Vckit.ObjectReferences

set_option relaxedAutoImplicit false
set_option autoImplicit false

namespace ObjectCreator

variable {N E : Type}

/-! ### Trees -/

/-- A property or an item of a value. -/
def member (token : Text) : Value N E → Value N E
  | .obj o => (property token o.fields).getD .undefined
  | .arr items => ((Json.readNat token).bind fun i => items[i]?).getD .undefined
  | _ => .undefined

/-- What is at a path below a value. -/
def getTree : Value N E → Path → Value N E
  | v, [] => v
  | v, token :: path => getTree (member token v) path

/-- A new object where there is nothing. -/
def orObject : Value N E → Value N E
  | .undefined => .obj {}
  | v => v

/-- A value with a property set. -/
def setMember (token : Text) (w : Value N E) : Value N E → Value N E
  | .obj o => .obj { o with fields := Json.setField token w o.fields }
  | v => v

/-- A value with something set at a path below it. -/
def setTree : Value N E → Path → Value N E → Value N E
  | _, [], w => w
  | v, token :: path, w => setMember token (setTree (orObject (member token v)) path w) v

/-- `objects` as a tree. -/
def treeStore : ObjectStore (Value N E) N E where
  empty := .obj {}
  get := getTree
  set s path v := .ok (setTree s path v)

theorem member_setMember_self (token : Text) (w : Value N E) (o : JsObject (Value N E)) :
    member token (setMember token w (.obj o)) = w := by
  rw [setMember, member, property_setField_self, Option.getD_some]

theorem member_setMember_of_ne {token other : Text} (hne : other ≠ token) (w v : Value N E) :
    member other (setMember token w v) = member other v := by
  cases v with
  | obj o => rw [setMember, member, property_setField_of_ne hne, member]
  | _ => rfl

@[simp] theorem getTree_undefined (path : Path) :
    getTree (.undefined : Value N E) path = .undefined := by
  induction path with
  | nil => rfl
  | cons token path ih => exact ih

theorem getTree_empty {path : Path} (h : path ≠ []) :
    getTree (.obj {} : Value N E) path = .undefined := by
  cases path with
  | nil => exact absurd rfl h
  | cons token path => exact getTree_undefined path

theorem getTree_orObject {path : Path} (h : path ≠ []) (v : Value N E) :
    getTree (orObject v) path = getTree v path := by
  cases v with
  | undefined => rw [orObject, getTree_empty h, getTree_undefined]
  | _ => rfl

/-- There are objects on the way to a path, as far as there is anything. -/
def Open : Value N E → Path → Prop
  | _, [] => True
  | v, token :: path => (∃ o, v = .obj o) ∧ Open (orObject (member token v)) path

theorem open_empty (path : Path) : Open (.obj {} : Value N E) path := by
  induction path with
  | nil => trivial
  | cons token path ih => exact ⟨⟨_, rfl⟩, ih⟩

theorem Open.orObject {v : Value N E} {path : Path} (h : Open v path) :
    Open (orObject v) path := by
  cases v with
  | undefined => exact open_empty path
  | _ => exact h

/-- What was set is read. -/
theorem getTree_setTree_self {v : Value N E} {path : Path} (w : Value N E) (h : Open v path) :
    getTree (setTree v path w) path = w := by
  induction path generalizing v with
  | nil => rfl
  | cons token path ih =>
      obtain ⟨⟨o, rfl⟩, hrest⟩ := h
      rw [setTree, getTree, member_setMember_self, ih hrest]

/-- What is set at another path changes nothing at a path. -/
theorem getTree_setTree_of_incomparable {v : Value N E} {path other : Path} (w : Value N E)
    (h : Open v path) (hpath : ¬path <+: other) (hother : ¬other <+: path) :
    getTree (setTree v path w) other = getTree v other := by
  induction path generalizing v other with
  | nil => exact absurd (List.nil_prefix) hpath
  | cons token path ih =>
      cases other with
      | nil => exact absurd (List.nil_prefix) hother
      | cons token' other =>
          obtain ⟨⟨o, rfl⟩, hrest⟩ := h
          rw [setTree, getTree, getTree]
          -- the paths part here, or both go on below the same property
          by_cases htoken : token' = token
          · subst htoken
            rw [List.cons_prefix_cons, not_and] at hpath hother
            have hne : other ≠ [] := by
              rintro rfl
              exact hother rfl List.nil_prefix
            rw [member_setMember_self, ih hrest (hpath rfl) (hother rfl), getTree_orObject hne]
          · rw [member_setMember_of_ne htoken]

/-- The way to a path stays open. -/
theorem Open.setTree {v : Value N E} {path other : Path} (w : Value N E) (h : Open v path)
    (h' : Open v other) (hne : other ≠ path → ¬path <+: other) : Open (setTree v path w) other := by
  induction path generalizing v other with
  | nil =>
      cases other with
      | nil => trivial
      | cons token other => exact absurd List.nil_prefix (hne (List.cons_ne_nil _ _))
  | cons token path ih =>
      cases other with
      | nil => trivial
      | cons token' other =>
          obtain ⟨⟨o, rfl⟩, hrest⟩ := h
          refine ⟨⟨_, rfl⟩, ?_⟩
          by_cases htoken : token' = token
          · subst htoken
            rw [ObjectCreator.setTree, member_setMember_self]
            refine (ih hrest h'.2 fun hother hprefix => ?_).orObject
            exact hne (fun heq => hother (List.cons_inj_right token' |>.1 heq))
              (List.cons_prefix_cons.2 ⟨rfl, hprefix⟩)
          · rw [ObjectCreator.setTree, member_setMember_of_ne htoken]
            exact h'.2

/-- Above a place that was set there is an object. -/
theorem exists_getTree_setTree_above {v : Value N E} {path : Path} {token : Text} {rest : Path}
    (w : Value N E) (h : Open v (path ++ token :: rest)) :
    ∃ o, getTree (setTree v (path ++ token :: rest) w) path = .obj o := by
  induction path generalizing v with
  | nil =>
      obtain ⟨⟨o, rfl⟩, -⟩ := h
      exact ⟨_, rfl⟩
  | cons token' path ih =>
      obtain ⟨⟨o, rfl⟩, hrest⟩ := h
      obtain ⟨o', ho'⟩ := ih hrest
      refine ⟨o', ?_⟩
      rw [List.cons_append, setTree, getTree, member_setMember_self, ho']

/-- In a tree that is built at incomparable paths, the way to each of them is open. -/
theorem open_of_built {P : Set Path} (hP : PointerStore.Incomparable P) {s : Value N E}
    (hs : treeStore.Built P s) {path : Path} (hpath : path ∈ P) : Open s path := by
  induction hs generalizing path with
  | empty => exact open_empty path
  | @set s s' p v hs hp hset ih =>
      rw [← Except.ok.inj hset]
      exact (ih hp).setTree v (ih hpath) fun hne hprefix => hne (hP.2 p hp path hpath hprefix).symm

/-- **The operations of a tree are lenses on incomparable paths.** -/
theorem treeStore_lens {P : Set Path} :
    (treeStore : ObjectStore (Value N E) N E).Lens .undefined P := by
  intro hP
  constructor
  case get_empty =>
    intro p hp
    refine getTree_empty ?_
    rintro rfl
    exact hP.1 hp
  case set_ok =>
    intro s p v _ _
    exact ⟨_, rfl⟩
  case get_set_self =>
    intro s s' p v hs hp hset
    rw [← Except.ok.inj hset]
    exact getTree_setTree_self v (open_of_built hP hs hp)
  case get_set_of_ne =>
    intro s s' p q v hs hp hq hne hset
    rw [← Except.ok.inj hset]
    exact getTree_setTree_of_incomparable v (open_of_built hP hs hp)
      (fun h => hne (hP.2 p hp q hq h).symm) fun h => hne (hP.2 q hq p hp h)

theorem getTree_append (v : Value N E) (p q : Path) :
    getTree v (p ++ q) = getTree (getTree v p) q := by
  induction p generalizing v with
  | nil => rfl
  | cons token p ih => exact ih _

/-- **And what is found below a path is what is below the value there.** -/
theorem treeStore_nestedOn {P Q : Set Path} (hP : PointerStore.Incomparable P) (hQ : [] ∉ Q) :
    (treeStore : ObjectStore (Value N E) N E).NestedOn getTree .undefined P Q where
  get_empty hq := getTree_empty fun hnil => hQ (hnil ▸ hq)
  get_set_self hs hp hset := by
    rw [← Except.ok.inj hset]
    exact getTree_setTree_self _ (open_of_built hP hs hp)
  get_set_of_apart hs hp _ hset hapart := by
    rw [← Except.ok.inj hset]
    exact getTree_setTree_of_incomparable _ (open_of_built hP hs hp) hapart.1 hapart.2
  get_append := getTree_append

/-! ### Packages -/

/-- A token without its escapes; a tilde that is no escape stays. -/
def untilde : Text → Text
  | [] => []
  | '~' :: '0' :: token => '~' :: untilde token
  | '~' :: '1' :: token => '/' :: untilde token
  | c :: token => c :: untilde token

/-- The tokens of a pointer. -/
def compilePointer : Json N → Except JsError Path
  | .str s =>
      match Text.split s ['/'] with
      | [] :: tokens => .ok (tokens.map untilde)
      | _ => .error (.ofMessage "Invalid JSON pointer.".toList)
  | _ => .error (.ofMessage "Invalid JSON pointer.".toList)

/-- A property or an item of a part of the configuration. -/
def childAt (token : Text) : Json N → Option (Json N)
  | .obj fields => property token fields
  | .arr items => (Json.readNat token).bind fun i => items[i]?
  | _ => none

/-- What a configuration holds at a path. -/
def getAt : Json N → Path → Option (Json N)
  | j, [] => some j
  | j, token :: path => (childAt token j).bind fun child => getAt child path

theorem mem_subtreesFields_of_mem {field : Text × Json N} {fields : List (Text × Json N)}
    (h : field ∈ fields) : field.2 ∈ subtreesFields fields := by
  induction fields with
  | nil => cases h
  | cons first fields ih =>
      rcases List.mem_cons.1 h with rfl | h
      · exact List.mem_append_left _ (mem_subtrees_self _)
      · exact List.mem_append_right _ (ih h)

theorem mem_subtreesFields_of_property {name : Text} {fields : List (Text × Json N)} {j : Json N}
    (h : property name fields = some j) : j ∈ subtreesFields fields := by
  obtain ⟨field, hfield, rfl⟩ := Option.map_eq_some_iff.1 h
  exact mem_subtreesFields_of_mem (List.mem_of_find?_eq_some hfield)

theorem mem_subtreesItems_of_mem {items : List (Json N)} {j : Json N} (h : j ∈ items) :
    j ∈ subtreesItems items := by
  induction items with
  | nil => cases h
  | cons item items ih =>
      rcases List.mem_cons.1 h with rfl | h
      · exact List.mem_append_left _ (mem_subtrees_self j)
      · exact List.mem_append_right _ (ih h)

theorem mem_subtrees_of_childAt {token : Text} {i j : Json N} (h : childAt token j = some i) :
    i ∈ subtrees j := by
  cases j with
  | obj fields => exact List.mem_cons_of_mem _ (mem_subtreesFields_of_property h)
  | arr items =>
      obtain ⟨n, -, hn⟩ := Option.bind_eq_some_iff.1 h
      exact List.mem_cons_of_mem _ (mem_subtreesItems_of_mem (List.mem_of_getElem? hn))
  | _ => cases h

theorem mem_subtrees_of_getAt {path : Path} {config node : Json N}
    (h : getAt config path = some node) : node ∈ subtrees config := by
  induction path generalizing config with
  | nil =>
      rw [← Option.some.inj h]
      exact mem_subtrees_self config
  | cons token path ih =>
      obtain ⟨child, hchild, hrest⟩ := Option.bind_eq_some_iff.1 h
      exact mem_subtrees_trans (ih hrest) config (mem_subtrees_of_childAt hchild)

/-- Packages for configurations of plain data. -/
def plainHost : Host N where
  parse _ := ⟨[], [], fun _ => none⟩
  resolve path := path
  compile := compilePointer
  getConfig := getAt
  env _ := none

theorem plainHost_lawful {config : Json N} {P : Set Path} :
    (plainHost : Host N).LawfulOn config P :=
  fun _ _ _ => mem_subtrees_of_getAt

/-- No modules. -/
def plainModules : Modules ℤ Unit where
  run
    | .importMember _ _ => .error (.error (.ofMessage "Cannot find module".toList))
    | .construct _ _ => .error (.error ⟨"TypeError".toList, "not a constructor".toList⟩)
    | .call _ _ => .error (.error ⟨"TypeError".toList, "not a function".toList⟩)
    | .settle object => .ok object
    | .getMember _ _ => .ok .undefined
    | .iterate _ => .error (.error ⟨"TypeError".toList, "not iterable".toList⟩)
  settled _ := rfl

instance : JsNumber ℤ where
  truthy n := decide (n ≠ 0)
  toText n := (toString n).toList

end ObjectCreator
