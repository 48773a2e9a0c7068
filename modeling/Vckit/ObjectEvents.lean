/-
**The events of a call of `createObjects`.**

A run is recorded with what is found, started, made, visited, given, used and received.  Two
conditions are put on its steps: a pointer that is started overlaps none that was started before,
and one that is found where there are parts with `$require` is at or below a pointer that was
started, at a place where what was resolved stays; and what is found there is no thenable.

With them `objects` holds, for every path that was started, what the parts below it gave.  Here this
is said of a recording and kept by its events, one after the other.

Main definitions:

* `ObjectCreator.Event`, `ObjectCreator.Recording` — the events of a run, and a run with them;
* `ObjectCreator.Layout` — the parts that are visited where a path leads, and the places at which
  what is resolved stays;
* `ObjectCreator.Separate`, `ObjectCreator.Awaited` — the conditions on the steps of a run;
* `ObjectCreator.Ready`, `ObjectCreator.Within` — the parts that may be visited, and those that
  events visit;
* `ObjectCreator.Consistent` — what `objects` and the events of a run have in common.

Main results:

* `ObjectCreator.Separate.eq_of_below` — one path that was started leads to a place;
* `ObjectCreator.Consistent.make` — an object that is kept changes nothing that has parts elsewhere;
* `ObjectCreator.Consistent.below_eq_given` — **a pointer receives what the part gave**.
-/

import Vckit.ObjectTrace

set_option relaxedAutoImplicit false
set_option autoImplicit false

namespace ObjectCreator

open PointerStore (Apart)

variable {N E S M : Type}

/-! ### Events -/

/-- What happens in a run: something truthy is found at a path, in some state of the modules, a path
at which nothing truthy is found is started, its object is made and kept, the module of a part is
instantiated or called, and what the evaluators note. -/
inductive Event (M N E : Type)
  | found (path : Path) (object : Value N E) (state : M)
  | started (path : Path)
  | made (path : Path) (object : Value N E)
  | used (node : Path)
  | note (n : Note N E)

/-- The path that is started. -/
def Event.startedPath? : Event M N E → Option Path
  | .started path => some path
  | _ => none

/-- The path that is found or started. -/
def Event.askedPath? : Event M N E → Option Path
  | .found path _ _ | .started path => some path
  | _ => none

/-- The path whose object is made. -/
def Event.madePath? : Event M N E → Option Path
  | .made path _ => some path
  | _ => none

/-- The part whose module is instantiated or called. -/
def Event.usedPart? : Event M N E → Option Path
  | .used node => some node
  | _ => none

/-- The part that is visited. -/
def Event.visitedPart? : Event M N E → Option Path
  | .note (.visited node) => some node
  | _ => none

/-- What a part gives. -/
def Event.given? : Event M N E → Option (Path × Value N E)
  | .note (.gave node object) => some (node, object)
  | _ => none

/-- What a pointer receives, with the path it leads to. -/
def Event.received? : Event M N E → Option (Path × Value N E)
  | .note (.received path object) => some (path, object)
  | _ => none

/-- The paths that were started. -/
def startedPaths (log : List (Event M N E)) : List Path := log.filterMap Event.startedPath?

/-- The paths that were found or started. -/
def askedPaths (log : List (Event M N E)) : List Path := log.filterMap Event.askedPath?

/-- The paths whose objects were made. -/
def madePaths (log : List (Event M N E)) : List Path := log.filterMap Event.madePath?

/-- The parts whose modules were instantiated or called. -/
def usedParts (log : List (Event M N E)) : List Path := log.filterMap Event.usedPart?

/-- The parts that were visited. -/
def visitedParts (log : List (Event M N E)) : List Path := log.filterMap Event.visitedPart?

/-- What parts gave. -/
def givenObjects (log : List (Event M N E)) : List (Path × Value N E) := log.filterMap Event.given?

/-- What pointers received. -/
def receivedObjects (log : List (Event M N E)) : List (Path × Value N E) :=
  log.filterMap Event.received?

/-- Where a configuration resolves parts: those that are visited where a path leads, and whether
what is resolved at a place below a path stays there. -/
structure Layout where
  parts : Path → List Path
  stays : Path → Path → Bool
  prefix_of_mem : ∀ p, ∀ x ∈ parts p, p <+: x
  stays_nil : ∀ p, stays p [] = true

section Events

variable (layout : Layout)

/-- An event that keeps parts separate.  A path that is started has no part twice, and overlaps no
path that was started before, unless it is the same one and has no parts.  A path that is found has
no parts, or every path that was started and overlaps it is at or above it, has parts, and leaves
the object there where it was resolved. -/
def Event.Separate : Event M N E → List (Event M N E) → Prop
  | .found path _ _, log =>
      layout.parts path = [] ∨
        (path ≠ [] ∧ ∀ p ∈ startedPaths log, Apart p path ∨
          (p <+: path ∧ layout.parts p ≠ [] ∧ layout.stays p (path.drop p.length) = true))
  | .started path, log =>
      (layout.parts path).Nodup ∧ path ≠ [] ∧
        ∀ p ∈ startedPaths log, Apart path p ∨ (path = p ∧ layout.parts path = [])
  | .made _ _, _ | .used _, _ | .note _, _ => True

/-- Every event keeps parts separate after those before it; the last one comes first. -/
def Separate : List (Event M N E) → Prop
  | [] => True
  | e :: log => e.Separate layout log ∧ Separate log

instance (e : Event M N E) (log : List (Event M N E)) : Decidable (e.Separate layout log) :=
  match e with
  | .found _ _ _ => inferInstanceAs (Decidable (_ ∨ _))
  | .started _ => inferInstanceAs (Decidable (_ ∧ _))
  | .made _ _ => .isTrue trivial
  | .used _ => .isTrue trivial
  | .note _ => .isTrue trivial

instance decidableSeparate : (log : List (Event M N E)) → Decidable (Separate layout log)
  | [] => .isTrue trivial
  | e :: log =>
      have : Decidable (Separate layout log) := decidableSeparate log
      inferInstanceAs (Decidable (e.Separate layout log ∧ Separate layout log))

/-- What is found where there are parts is no thenable: awaiting it gives it back. -/
def Awaited (modules : LiveModules M N E) (log : List (Event M N E)) : Prop :=
  ∀ path object state, .found path object state ∈ log → layout.parts path ≠ [] →
    modules.run (.settle object) state = (.ok object, state)

variable {layout} {e : Event M N E} {new log : List (Event M N E)} {p q : Path}

@[simp] theorem startedPaths_append :
    startedPaths (new ++ log) = startedPaths new ++ startedPaths log := List.filterMap_append

theorem mem_startedPaths_append_right (h : p ∈ startedPaths log) :
    p ∈ startedPaths (new ++ log) := by
  rw [startedPaths_append]
  exact List.mem_append_right _ h

theorem mem_startedPaths_append_left (h : p ∈ startedPaths new) :
    p ∈ startedPaths (new ++ log) := by
  rw [startedPaths_append]
  exact List.mem_append_left _ h

@[simp] theorem askedPaths_append :
    askedPaths (new ++ log) = askedPaths new ++ askedPaths log := List.filterMap_append

@[simp] theorem madePaths_append :
    madePaths (new ++ log) = madePaths new ++ madePaths log := List.filterMap_append

@[simp] theorem usedParts_append :
    usedParts (new ++ log) = usedParts new ++ usedParts log := List.filterMap_append

@[simp] theorem visitedParts_append :
    visitedParts (new ++ log) = visitedParts new ++ visitedParts log := List.filterMap_append

@[simp] theorem givenObjects_append :
    givenObjects (new ++ log) = givenObjects new ++ givenObjects log :=
  List.filterMap_append

/-- A start is no visit, gives nothing and makes nothing. -/
@[simp] theorem visitedParts_append_started (path : Path) :
    visitedParts (new ++ [.started path]) = visitedParts new := by
  rw [visitedParts_append]
  exact List.append_nil _

@[simp] theorem usedParts_append_started (path : Path) :
    usedParts (new ++ [.started path]) = usedParts new := by
  rw [usedParts_append]
  exact List.append_nil _

@[simp] theorem givenObjects_append_started (path : Path) :
    givenObjects (new ++ [.started path]) = givenObjects new := by
  rw [givenObjects_append]
  exact List.append_nil _

@[simp] theorem madePaths_append_started (path : Path) :
    madePaths (new ++ [.started path]) = madePaths new := by
  rw [madePaths_append]
  exact List.append_nil _

/-- What is started is asked for. -/
theorem mem_askedPaths_of_started (h : p ∈ startedPaths log) : p ∈ askedPaths log := by
  obtain ⟨e, he, hp⟩ := List.mem_filterMap.1 h
  refine List.mem_filterMap.2 ⟨e, he, ?_⟩
  cases e with
  | started path => exact hp
  | _ => cases hp

theorem Separate.of_append (h : Separate layout (new ++ log)) : Separate layout log := by
  induction new with
  | nil => exact h
  | cons e new ih => exact ih h.2

/-- What is started later is apart from what was started, or has no parts. -/
theorem Separate.apart (h : Separate layout (new ++ log)) (hp : p ∈ startedPaths new)
    (hq : q ∈ startedPaths log) : Apart p q ∨ (p = q ∧ layout.parts p = []) := by
  induction new with
  | nil => cases hp
  | cons e new ih =>
      cases e with
      | started path =>
          have hlater : q ∈ startedPaths (new ++ log) := mem_startedPaths_append_right hq
          rcases List.mem_cons.1 hp with rfl | hp'
          · exact h.1.2.2 q hlater
          · exact ih h.2 hp'
      | _ => exact ih h.2 hp

/-- Different paths that were started are apart. -/
theorem Separate.apart_of_ne (h : Separate layout log) (hp : p ∈ startedPaths log)
    (hq : q ∈ startedPaths log) (hne : p ≠ q) : Apart p q := by
  induction log with
  | nil => cases hp
  | cons e log ih =>
      cases e with
      | started path =>
          rcases List.mem_cons.1 hp with rfl | hp'
          · rcases List.mem_cons.1 hq with rfl | hq'
            · exact absurd rfl hne
            · exact (h.1.2.2 q hq').resolve_right fun heq => hne heq.1
          · rcases List.mem_cons.1 hq with rfl | hq'
            · exact ((h.1.2.2 p hp').resolve_right fun heq => hne heq.1.symm).symm
            · exact ih h.2 hp' hq'
      | _ => exact ih h.2 hp hq

/-- One path that was started leads to a place. -/
theorem Separate.eq_of_below {x : Path} (h : Separate layout log) (hp : p ∈ startedPaths log)
    (hq : q ∈ startedPaths log) (hxp : p <+: x) (hxq : q <+: x) : p = q := by
  by_contra hne
  exact (h.apart_of_ne hp hq hne).not_below hxp hxq

theorem Separate.ne_nil (h : Separate layout log) (hp : p ∈ startedPaths log) : p ≠ [] := by
  induction log with
  | nil => cases hp
  | cons e log ih =>
      cases e with
      | started path =>
          rcases List.mem_cons.1 hp with rfl | hp'
          · exact h.1.2.1
          · exact ih h.2 hp'
      | _ => exact ih h.2 hp

/-- Nor is the root found where there are parts. -/
theorem Separate.ne_nil_of_asked (h : Separate layout log) (hp : p ∈ askedPaths log)
    (hparts : layout.parts p ≠ []) : p ≠ [] := by
  induction log with
  | nil => cases hp
  | cons e log ih =>
      cases e with
      | started path =>
          rcases List.mem_cons.1 hp with rfl | hp'
          · exact h.1.2.1
          · exact ih h.2 hp'
      | found path object state =>
          rcases List.mem_cons.1 hp with rfl | hp'
          · exact (h.1.resolve_left hparts).1
          · exact ih h.2 hp'
      | _ => exact ih h.2 hp

theorem Separate.incomparable (h : Separate layout log) :
    PointerStore.Incomparable {p | p ∈ startedPaths log} := by
  refine ⟨fun hnil => h.ne_nil hnil rfl, fun p hp q hq hprefix => ?_⟩
  by_contra hne
  exact (h.apart_of_ne hp hq hne).1 hprefix

end Events

/-! ### Parts that are visited -/

section Parts

/-- Events that keep parts separate, of paths in two sets: those that are started, and those where
there are parts. -/
structure Orderly (layout : Layout) (modules : LiveModules M N E) (P Q : Set Path)
    (log : List (Event M N E)) : Prop where
  separate : Separate layout log
  awaited : Awaited layout modules log
  started : ∀ p ∈ startedPaths log, p ∈ P
  asked : ∀ p ∈ askedPaths log, layout.parts p ≠ [] → p ∈ Q

/-- Parts that may be visited: they are parts of paths whose objects are not made yet, and were not
visited. -/
structure Ready (layout : Layout) (V : List Path) (log : List (Event M N E)) : Prop where
  nodup : V.Nodup
  fresh : ∀ x ∈ V, x ∉ visitedParts log
  mem : ∀ x ∈ V, ∃ p ∈ startedPaths log, p ∉ madePaths log ∧ x ∈ layout.parts p

/-- Events that visit some parts, or parts of the paths that they start, which alone give something,
and make the objects of these paths only. -/
structure Within (layout : Layout) (V : List Path) (new : List (Event M N E)) : Prop where
  visited : ∀ x ∈ visitedParts new, x ∈ V ∨ ∃ p ∈ startedPaths new, x ∈ layout.parts p
  given : ∀ g ∈ givenObjects new, g.1 ∈ visitedParts new
  made : ∀ p ∈ madePaths new, p ∈ startedPaths new

variable {layout : Layout} {modules : LiveModules M N E} {P Q : Set Path} {V V' : List Path}
  {new log : List (Event M N E)}

theorem Orderly.of_append (h : Orderly layout modules P Q (new ++ log)) :
    Orderly layout modules P Q log where
  separate := h.separate.of_append
  awaited path object state hmem :=
    h.awaited path object state (List.mem_append_right _ hmem)
  started p hp := h.started p (mem_startedPaths_append_right hp)
  asked p hp := h.asked p (by rw [askedPaths_append]; exact List.mem_append_right _ hp)

/-- Of two paths that are apart one at most has a part. -/
theorem not_mem_parts_of_apart {p q x : Path} (hapart : Apart p q) (hp : x ∈ layout.parts p) :
    x ∉ layout.parts q :=
  fun hq => hapart.not_below (layout.prefix_of_mem p x hp) (layout.prefix_of_mem q x hq)

/-- What was started has no part of what is started later. -/
theorem Separate.not_mem_parts {p q x : Path} (h : Separate layout (new ++ log))
    (hp : p ∈ startedPaths new) (hq : q ∈ startedPaths log) (hx : x ∈ layout.parts p) :
    x ∉ layout.parts q := by
  rcases h.apart hp hq with hapart | ⟨rfl, hnil⟩
  · exact not_mem_parts_of_apart hapart hx
  · rw [hnil] at hx
    cases hx

theorem ready_nil : Ready layout [] log where
  nodup := List.nodup_nil
  fresh _ hx := by cases hx
  mem _ hx := by cases hx

/-- What is visited of a path that was started before is one of the parts that may be. -/
theorem Within.mem_of_started {x q : Path} (h : Within layout V new)
    (hseparate : Separate layout (new ++ log)) (hx : x ∈ visitedParts new)
    (hq : q ∈ startedPaths log) (hxq : x ∈ layout.parts q) : x ∈ V := by
  refine (h.visited x hx).resolve_right ?_
  rintro ⟨p, hp, hxp⟩
  exact hseparate.not_mem_parts hp hq hxp hxq

theorem Ready.first (h : Ready layout (V ++ V') log) : Ready layout V log where
  nodup := (List.nodup_append.1 h.nodup).1
  fresh x hx := h.fresh x (List.mem_append_left _ hx)
  mem x hx := h.mem x (List.mem_append_left _ hx)

theorem Ready.not_mem_second {x : Path} (h : Ready layout (V ++ V') log) (hx : x ∈ V) : x ∉ V' :=
  fun hx' => (List.nodup_append.1 h.nodup).2.2 x hx x hx' rfl

/-- What comes first visits nothing of what comes second. -/
theorem Ready.second (h : Ready layout (V ++ V') log) (hseparate : Separate layout (new ++ log))
    (hnew : Within layout V new) : Ready layout V' (new ++ log) where
  nodup := (List.nodup_append.1 h.nodup).2.1
  fresh x hx hvisited := by
    obtain ⟨q, hq, -, hxq⟩ := h.mem x (List.mem_append_right _ hx)
    rw [visitedParts_append] at hvisited
    rcases List.mem_append.1 hvisited with hvisited | hvisited
    · exact h.not_mem_second (hnew.mem_of_started hseparate hvisited hq hxq) hx
    · exact h.fresh x (List.mem_append_right _ hx) hvisited
  mem x hx := by
    obtain ⟨q, hq, hmade, hxq⟩ := h.mem x (List.mem_append_right _ hx)
    refine ⟨q, mem_startedPaths_append_right hq, ?_, hxq⟩
    rw [madePaths_append, List.mem_append, not_or]
    refine ⟨fun hq' => ?_, hmade⟩
    -- its object would have been made after it was started again
    rcases hseparate.apart (hnew.made q hq') hq with hapart | ⟨-, hnil⟩
    · exact PointerStore.not_apart_self q hapart
    · rw [hnil] at hxq
      cases hxq

theorem within_nil : Within layout V ([] : List (Event M N E)) where
  visited _ h := by cases h
  given _ h := by cases h
  made _ h := by cases h

theorem Within.append {later : List (Event M N E)} (hlater : Within layout V' later)
    (h : Within layout V new) : Within layout (V ++ V') (later ++ new) where
  visited x hx := by
    rw [visitedParts_append] at hx
    rcases List.mem_append.1 hx with hx | hx
    · rcases hlater.visited x hx with hx | ⟨p, hp, hxp⟩
      · exact Or.inl (List.mem_append_right _ hx)
      · exact Or.inr ⟨p, mem_startedPaths_append_left hp, hxp⟩
    · rcases h.visited x hx with hx | ⟨p, hp, hxp⟩
      · exact Or.inl (List.mem_append_left _ hx)
      · exact Or.inr ⟨p, mem_startedPaths_append_right hp, hxp⟩
  given g hg := by
    rw [givenObjects_append] at hg
    rw [visitedParts_append]
    rcases List.mem_append.1 hg with hg | hg
    · exact List.mem_append_left _ (hlater.given g hg)
    · exact List.mem_append_right _ (h.given g hg)
  made p hp := by
    rw [madePaths_append] at hp
    rcases List.mem_append.1 hp with hp | hp
    · exact mem_startedPaths_append_left (hlater.made p hp)
    · exact mem_startedPaths_append_right (h.made p hp)

theorem Within.mono (h : Within layout V new) (hsub : ∀ x ∈ V, x ∈ V') : Within layout V' new where
  visited x hx := (h.visited x hx).imp_left (hsub x)
  given := h.given
  made := h.made

/-- What is visited where a path was started. -/
theorem Within.start {path : Path} (h : Within layout (layout.parts path) new) :
    Within layout [] (new ++ [.started path]) where
  visited x hx := by
    rw [visitedParts_append_started] at hx
    refine Or.inr ((h.visited x hx).elim (fun hx => ?_) ?_)
    · exact ⟨path, mem_startedPaths_append_right List.mem_cons_self, hx⟩
    · rintro ⟨p, hp, hxp⟩
      exact ⟨p, mem_startedPaths_append_left hp, hxp⟩
  given g hg := by
    rw [givenObjects_append_started] at hg
    rw [visitedParts_append_started]
    exact h.given g hg
  made p hp := by
    rw [madePaths_append_started] at hp
    exact mem_startedPaths_append_left (h.made p hp)

/-- The object of a path with parts is made after the path was started, and so at most once. -/
theorem Within.not_mem_madePaths {path : Path} (h : Within layout V new)
    (hseparate : Separate layout (new ++ .started path :: log))
    (hmade : ∀ p ∈ madePaths log, p ∈ startedPaths log) (hparts : layout.parts path ≠ []) :
    path ∉ madePaths (new ++ .started path :: log) := by
  have hnot : ¬(Apart path path ∨ (path = path ∧ layout.parts path = [])) := by
    rintro (hapart | ⟨-, hnil⟩)
    · exact PointerStore.not_apart_self path hapart
    · exact hparts hnil
  rw [madePaths_append, List.mem_append, not_or]
  refine ⟨fun hpath => ?_, fun hpath => ?_⟩
  · exact hnot (hseparate.apart (h.made path hpath) List.mem_cons_self)
  · exact hnot (hseparate.of_append.1.2.2 path (hmade path hpath))

/-- What a path receives when its object is made. -/
theorem Within.make {path : Path} {object : Value N E} (h : Within layout V new)
    (hpath : path ∈ startedPaths new) :
    Within layout V (.note (.received path object) :: .made path object :: new) where
  visited := h.visited
  given := h.given
  made := List.forall_mem_cons.2 ⟨hpath, h.made⟩

end Parts

/-! ### Recordings -/

/-- `objects`, the state of the modules, and the events so far. -/
structure Recording (S M N E : Type) where
  objects : S
  modules : M
  log : List (Event M N E) := []

/-- A recording with one more event. -/
def Recording.add (w : Recording S M N E) (e : Event M N E) : Recording S M N E :=
  { w with log := e :: w.log }

/-- `objects` holds what was made, and what pointers to parts received is still there; a part was
visited once at most, and belongs to a path that was started; and what parts gave is in the objects
that were made of them, where it stays. -/
structure Consistent (layout : Layout) (store : ObjectStore S N E)
    (below : Value N E → Path → Value N E) (w : Recording S M N E) : Prop where
  built : store.Built {p | p ∈ madePaths w.log} w.objects
  made : ∀ p ∈ madePaths w.log, p ∈ startedPaths w.log
  nodup : (visitedParts w.log).Nodup
  visited : ∀ x ∈ visitedParts w.log, ∃ p ∈ startedPaths w.log, x ∈ layout.parts p
  given : ∀ g ∈ givenObjects w.log, g.1 ∈ visitedParts w.log
  placed : ∀ p ∈ madePaths w.log, ∀ rest u, (p ++ rest, u) ∈ givenObjects w.log →
    p ++ rest ∈ layout.parts p → layout.stays p rest = true →
      below (store.get w.objects p) rest = u
  asked : ∀ a ∈ receivedObjects w.log, a.1 ∈ askedPaths w.log
  received : ∀ a ∈ receivedObjects w.log, layout.parts a.1 ≠ [] →
    store.get w.objects a.1 = a.2 ∧ ∃ p ∈ madePaths w.log, ∃ rest, a.1 = p ++ rest ∧
      layout.parts p ≠ [] ∧ layout.stays p rest = true

section Consistent

variable {layout : Layout} {store : ObjectStore S N E} {below : Value N E → Path → Value N E}
  {w : Recording S M N E} {path node : Path}

theorem consistent_empty (layout : Layout) (store : ObjectStore S N E)
    (below : Value N E → Path → Value N E) (m : M) :
    Consistent layout store below ⟨store.empty, m, []⟩ where
  built := .empty
  made _ h := by cases h
  nodup := List.nodup_nil
  visited _ h := by cases h
  given _ h := by cases h
  placed _ h := by cases h
  asked _ h := by cases h
  received _ h := by cases h

/-- The state of the modules does not matter. -/
theorem Consistent.congr {w' : Recording S M N E} (hw : Consistent layout store below w)
    (hobjects : w'.objects = w.objects) (hlog : w'.log = w.log) :
    Consistent layout store below w' where
  built := by rw [hlog, hobjects]; exact hw.built
  made := by rw [hlog]; exact hw.made
  nodup := by rw [hlog]; exact hw.nodup
  visited := by rw [hlog]; exact hw.visited
  given := by rw [hlog]; exact hw.given
  placed := by rw [hlog, hobjects]; exact hw.placed
  asked := by rw [hlog]; exact hw.asked
  received := by rw [hlog, hobjects]; exact hw.received

/-- A part that may be visited is. -/
theorem Consistent.visit (hw : Consistent layout store below w)
    (hready : Ready layout [node] w.log) :
    Consistent layout store below (w.add (.note (.visited node))) where
  built := hw.built
  made := hw.made
  nodup := List.nodup_cons.2 ⟨hready.fresh node (List.mem_singleton_self node), hw.nodup⟩
  visited := by
    obtain ⟨p, hp, -, hnode⟩ := hready.mem node (List.mem_singleton_self node)
    exact List.forall_mem_cons.2 ⟨⟨p, hp, hnode⟩, hw.visited⟩
  given g hg := List.mem_cons_of_mem node (hw.given g hg)
  placed := hw.placed
  asked := hw.asked
  received := hw.received

theorem Consistent.use (hw : Consistent layout store below w) (node : Path) :
    Consistent layout store below (w.add (.used node)) :=
  { hw with }

/-- What a part gives is in no object that was made. -/
theorem Consistent.give {u : Value N E} (hw : Consistent layout store below w)
    (hnode : node ∈ visitedParts w.log) (hmade : ∀ p ∈ madePaths w.log, node ∉ layout.parts p) :
    Consistent layout store below (w.add (.note (.gave node u))) where
  built := hw.built
  made := hw.made
  nodup := hw.nodup
  visited := hw.visited
  given := List.forall_mem_cons.2 ⟨hnode, hw.given⟩
  placed p hp rest u' hu hparts := by
    rcases List.mem_cons.1 hu with heq | hu
    · rw [(Prod.mk.inj heq).1] at hparts
      exact absurd hparts (hmade p hp)
    · exact hw.placed p hp rest u' hu hparts
  asked := hw.asked
  received := hw.received

theorem Consistent.start (hw : Consistent layout store below w) (path : Path) :
    Consistent layout store below (w.add (.started path)) where
  built := hw.built
  made p hp := List.mem_cons_of_mem path (hw.made p hp)
  nodup := hw.nodup
  visited x hx := by
    obtain ⟨p, hp, hxp⟩ := hw.visited x hx
    exact ⟨p, List.mem_cons_of_mem path hp, hxp⟩
  given := hw.given
  placed := hw.placed
  asked a ha := List.mem_cons_of_mem path (hw.asked a ha)
  received := hw.received

theorem Consistent.find (hw : Consistent layout store below w) (path : Path) (object : Value N E)
    (state : M) : Consistent layout store below (w.add (.found path object state)) where
  built := hw.built
  made := hw.made
  nodup := hw.nodup
  visited := hw.visited
  given := hw.given
  placed := hw.placed
  asked a ha := List.mem_cons_of_mem path (hw.asked a ha)
  received := hw.received

/-- A pointer to a part receives what `objects` holds. -/
theorem Consistent.receive {object : Value N E} (hw : Consistent layout store below w)
    (hasked : path ∈ askedPaths w.log)
    (hobject : layout.parts path ≠ [] → store.get w.objects path = object ∧
      ∃ p ∈ madePaths w.log, ∃ rest, path = p ++ rest ∧ layout.parts p ≠ [] ∧
        layout.stays p rest = true) :
    Consistent layout store below (w.add (.note (.received path object))) where
  built := hw.built
  made := hw.made
  nodup := hw.nodup
  visited := hw.visited
  given := hw.given
  placed := hw.placed
  asked := List.forall_mem_cons.2 ⟨hasked, hw.asked⟩
  received := List.forall_mem_cons.2 ⟨hobject, hw.received⟩

variable {modules : LiveModules M N E} {P Q : Set Path}

/-- Where a path is started nothing was visited. -/
theorem Consistent.ready (hw : Consistent layout store below w)
    (horderly : Orderly layout modules P Q (.started path :: w.log)) :
    Ready layout (layout.parts path) (.started path :: w.log) where
  nodup := horderly.separate.1.1
  fresh x hx hvisited := by
    obtain ⟨p, hp, hxp⟩ := hw.visited x hvisited
    have hseparate : Separate layout ([.started path] ++ w.log) := horderly.separate
    exact hseparate.not_mem_parts List.mem_cons_self hp hx hxp
  mem x hx := by
    refine ⟨path, List.mem_cons_self, fun hmade => ?_, hx⟩
    rcases horderly.separate.1.2.2 path (hw.made path hmade) with hapart | ⟨-, hnil⟩
    · exact PointerStore.not_apart_self path hapart
    · rw [hnil] at hx
      cases hx

/-- What is kept at a path that was started is found there, and changes nothing that has parts
elsewhere. -/
theorem Consistent.make {object : Value N E} {objects : S}
    (hw : Consistent layout store below w) (hstore : store.NestedOn below .undefined P Q)
    (horderly : Orderly layout modules P Q w.log) (hpath : path ∈ startedPaths w.log)
    (hfirst : layout.parts path ≠ [] → path ∉ madePaths w.log)
    (hplaced : ∀ rest u, (path ++ rest, u) ∈ givenObjects w.log → path ++ rest ∈ layout.parts path →
      layout.stays path rest = true → below object rest = u)
    (hset : store.set w.objects path object = .ok objects) :
    Consistent layout store below
      { w with objects := objects
               log := .note (.received path object) :: .made path object :: w.log } := by
  have hbuilt : store.Built P w.objects :=
    hw.built.mono fun p hp => horderly.started p (hw.made p hp)
  have hself : store.get objects path = object :=
    hstore.get_set_self hbuilt (horderly.started path hpath) hset
  -- with parts it is made once, and what was made elsewhere is apart from it
  have hother : ∀ p ∈ madePaths w.log, layout.parts p ≠ [] → Apart path p := by
    intro p hp hparts
    refine horderly.separate.apart_of_ne hpath (hw.made p hp) ?_
    rintro rfl
    exact hfirst hparts hp
  have hmade : Consistent layout store below
      { w with objects := objects, log := .made path object :: w.log } := by
    constructor
    case built =>
      exact .set (hw.built.mono fun p hp => List.mem_cons_of_mem path hp) List.mem_cons_self hset
    case made => exact List.forall_mem_cons.2 ⟨hpath, hw.made⟩
    case nodup => exact hw.nodup
    case visited => exact hw.visited
    case given => exact hw.given
    case placed =>
      refine List.forall_mem_cons.2 ⟨fun rest u hu hx hstays => ?_,
        fun p hp rest u hu hx hstays => ?_⟩
      · rw [hself]
        exact hplaced rest u hu hx hstays
      · have hparts : layout.parts p ≠ [] := List.ne_nil_of_mem hx
        have hQ := horderly.asked p (mem_askedPaths_of_started (hw.made p hp)) hparts
        rw [hstore.get_set_of_apart hbuilt (horderly.started path hpath) hQ hset
          (hother p hp hparts)]
        exact hw.placed p hp rest u hu hx hstays
    case asked => exact hw.asked
    case received =>
      intro a ha hparts
      obtain ⟨hget, p, hp, rest, heq, hne, hstays⟩ := hw.received a ha hparts
      refine ⟨?_, p, List.mem_cons_of_mem path hp, rest, heq, hne, hstays⟩
      have hapart : Apart path a.1 := (hother p hp hne).of_below ⟨rest, heq.symm⟩
      rw [hstore.get_set_of_apart hbuilt (horderly.started path hpath)
        (horderly.asked a.1 (hw.asked a ha) hparts) hset hapart, hget]
  refine hmade.receive (mem_askedPaths_of_started hpath) fun hparts => ⟨hself, path,
    List.mem_cons_self, [], (List.append_nil path).symm, hparts, layout.stays_nil path⟩

/-- What a pointer to a part, or to an object that holds it, receives is what the part gave. -/
theorem Consistent.below_eq_given (hw : Consistent layout store below w)
    (hseparate : Separate layout w.log)
    (hstore : store.NestedOn below .undefined P Q) {x : Path} {u : Value N E}
    (hx : (x, u) ∈ givenObjects w.log) {a : Path × Value N E} (ha : a ∈ receivedObjects w.log)
    (hxa : x ∈ layout.parts a.1) {rest : Path} (hrest : x = a.1 ++ rest)
    (hstays : rest = [] ∨ ∀ p ∈ startedPaths w.log, ∀ way, x = p ++ way →
      layout.stays p way = true) : below a.2 rest = u := by
  obtain ⟨hget, p, hp, way, hway, -, hopen⟩ := hw.received a ha (List.ne_nil_of_mem hxa)
  obtain ⟨q, hq, hxq⟩ := hw.visited x (hw.given _ hx)
  have hbelowp : x = p ++ (way ++ rest) := by rw [hrest, hway, List.append_assoc]
  -- the part was resolved in the object in which the pointer found it
  have heq : q = p := hseparate.eq_of_below hq (hw.made p hp) (layout.prefix_of_mem q x hxq)
    ⟨_, hbelowp.symm⟩
  have hplace : layout.stays p (way ++ rest) = true := by
    rcases hstays with rfl | hstays
    · rwa [List.append_nil]
    · exact hstays p (hw.made p hp) _ hbelowp
  rw [heq, hbelowp] at hxq
  rw [hbelowp] at hx
  rw [← hw.placed p hp (way ++ rest) u hx hxq hplace, ← hget, hway, ← hstore.get_append,
    ← hstore.get_append, List.append_assoc]

end Consistent

end ObjectCreator
