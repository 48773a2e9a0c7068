/-
**Stores that are addressed by pointers.**

A pointer is a list of tokens that leads from the root of a tree of values to a place in it.  A
store answers `get` at every pointer and changes under `set`; a place and the places below it
overlap, so a value that is set at one of them is seen at the other.  On pointers none of which is a
prefix of another, `get` and `set` of a store that starts empty are expected to be lenses: a place
holds what was set there last, and is undefined before.

Main definitions:

* `PointerStore` — the operations of a store;
* `PointerStore.Incomparable` — no pointer is the root or a proper prefix of another;
* `PointerStore.Built` — the stores that values set at some pointers build;
* `PointerStore.LensOn`, `PointerStore.Lens` — the laws on given pointers, and the same if they are
  incomparable;
* `PointerStore.NestedOn` — the laws of a store that finds a place through the places above it;
* `PointerStore.recorded` — a store that also keeps the pointers at which it was set;
* `PointerStore.forgetful` — a store that keeps nothing.
-/

import Mathlib.Data.Set.Defs
import Mathlib.Tactic.Common

set_option relaxedAutoImplicit false
set_option autoImplicit false

/-- A store `S` of values `V` at pointers of tokens `T`; `set` may fail with an `ε`. -/
structure PointerStore (S T V ε : Type) where
  empty : S
  get : S → List T → V
  set : S → List T → V → Except ε S

namespace PointerStore

variable {S T V ε : Type}

/-- No pointer of a set is the root or a proper prefix of another. -/
def Incomparable (P : Set (List T)) : Prop :=
  [] ∉ P ∧ ∀ p ∈ P, ∀ q ∈ P, p <+: q → p = q

/-- The stores that are built by setting values at pointers of `P`. -/
inductive Built (store : PointerStore S T V ε) (P : Set (List T)) : S → Prop
  | empty : Built store P store.empty
  | set {s s' : S} {p : List T} {v : V} (hs : Built store P s) (hp : p ∈ P)
      (hset : store.set s p v = .ok s') : Built store P s'

/-- `get` and `set` are lenses at the pointers of `P`, in the stores built there. -/
structure LensOn (store : PointerStore S T V ε) (undefined : V) (P : Set (List T)) : Prop where
  get_empty {p : List T} (hp : p ∈ P) : store.get store.empty p = undefined
  set_ok {s : S} {p : List T} (v : V) (hs : store.Built P s) (hp : p ∈ P) :
    ∃ s', store.set s p v = .ok s'
  get_set_self {s s' : S} {p : List T} {v : V} (hs : store.Built P s) (hp : p ∈ P)
    (hset : store.set s p v = .ok s') : store.get s' p = v
  get_set_of_ne {s s' : S} {p q : List T} {v : V} (hs : store.Built P s) (hp : p ∈ P) (hq : q ∈ P)
    (hne : q ≠ p) (hset : store.set s p v = .ok s') : store.get s' q = store.get s q

/-- `get` and `set` are lenses at the pointers of `P`, if they are incomparable. -/
def Lens (store : PointerStore S T V ε) (undefined : V) (P : Set (List T)) : Prop :=
  Incomparable P → store.LensOn undefined P

/-- Neither of two pointers leads to a place on the way to the other. -/
def Apart (p q : List T) : Prop := ¬p <+: q ∧ ¬q <+: p

instance [DecidableEq T] (p q : List T) : Decidable (Apart p q) :=
  inferInstanceAs (Decidable (_ ∧ _))

theorem Apart.symm {p q : List T} (h : Apart p q) : Apart q p := ⟨h.2, h.1⟩

theorem not_apart_self (p : List T) : ¬Apart p p := fun h => h.1 (List.prefix_refl p)

/-- Of two pointers that are apart one at most is a prefix of a third. -/
theorem Apart.not_below {p q r : List T} (h : Apart p q) (hp : p <+: r) : ¬q <+: r :=
  fun hq => (List.prefix_or_prefix_of_prefix hp hq).elim h.1 h.2

/-- What lies below one of them is apart from the other. -/
theorem Apart.of_below {p q r : List T} (h : Apart p q) (hq : q <+: r) : Apart p r :=
  ⟨fun hp => h.not_below hp hq, fun hr => h.2 (hq.trans hr)⟩

/-- Setting a value at a pointer of `P` changes what is found at no pointer of `Q` apart from it,
and what is found below a pointer is what is `below` the value found there. -/
structure NestedOn (store : PointerStore S T V ε) (below : V → List T → V) (undefined : V)
    (P Q : Set (List T)) : Prop where
  get_empty {q : List T} (hq : q ∈ Q) : store.get store.empty q = undefined
  get_set_self {s s' : S} {p : List T} {v : V} (hs : store.Built P s) (hp : p ∈ P)
    (hset : store.set s p v = .ok s') : store.get s' p = v
  get_set_of_apart {s s' : S} {p q : List T} {v : V} (hs : store.Built P s) (hp : p ∈ P)
    (hq : q ∈ Q) (hset : store.set s p v = .ok s') (hapart : Apart p q) :
    store.get s' q = store.get s q
  get_append (s : S) (p q : List T) : store.get s (p ++ q) = below (store.get s p) q

theorem Built.mono {store : PointerStore S T V ε} {P P' : Set (List T)} {s : S}
    (hs : store.Built P s) (h : ∀ p ∈ P, p ∈ P') : store.Built P' s := by
  induction hs with
  | empty => exact .empty
  | set _ hp hset ih => exact .set ih (h _ hp) hset

/-- Nothing is found apart from what was set. -/
theorem NestedOn.get_of_apart {store : PointerStore S T V ε} {below : V → List T → V}
    {undefined : V} {P P' Q : Set (List T)} {s : S} {q : List T}
    (hstore : store.NestedOn below undefined P Q) (hs : store.Built P' s) (h : ∀ p ∈ P', p ∈ P)
    (hq : q ∈ Q) (hapart : ∀ p ∈ P', Apart p q) : store.get s q = undefined := by
  induction hs with
  | empty => exact hstore.get_empty hq
  | set hs hp hset ih =>
      rw [hstore.get_set_of_apart (hs.mono h) (h _ hp) hq hset (hapart _ hp), ih]

/-- A store with the pointers at which it was set, the first one first. -/
def recorded (store : PointerStore S T V ε) : PointerStore (S × List (List T)) T V ε where
  empty := (store.empty, [])
  get s p := store.get s.1 p
  set s p v := (store.set s.1 p v).map fun s' => (s', s.2 ++ [p])

/-- A store in which nothing is found. -/
def forgetful (undefined : V) : PointerStore Unit T V ε where
  empty := ()
  get _ _ := undefined
  set _ _ _ := .ok ()

@[simp] theorem get_recorded (store : PointerStore S T V ε) (s : S × List (List T)) (p : List T) :
    store.recorded.get s p = store.get s.1 p := rfl

theorem set_recorded {store : PointerStore S T V ε} {s : S × List (List T)} {s' : S} {p : List T}
    {v : V} (h : store.set s.1 p v = .ok s') :
    store.recorded.set s p v = .ok (s', s.2 ++ [p]) := by
  simp [recorded, h, Except.map]

end PointerStore
