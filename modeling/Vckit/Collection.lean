/-
**A collection of documents that are found by their ids.**

What a store of documents is for, without requests, hashes or tables: documents are added, an id
leads to some document that has it, and a removal by an id takes one such document out.  Several
documents may have one id, and a document may have none.

Main definitions:

* `Collection.Event`, `Collection.Step` — what happens to a collection, and when;
* `Collection.added` — the documents that a run added;
* `Collection.History` — what every event of a run says about the events before it.

Main results:

* `Collection.mem_of_run`, `Collection.mem_or_removed` — where a document comes from, and where it
  is gone;
* `Collection.count_removed_le` — **no id is removed more often than documents with it came in**;
* `Collection.history` — **the history of a run**.
-/

import Mathlib.Data.Finset.Card
import Mathlib.Data.Finset.Dedup
import Vckit.Simulation

set_option relaxedAutoImplicit false
set_option autoImplicit false

namespace Collection

open Simulation

variable {D I : Type*}

/-- What happens to a collection. -/
inductive Event (D I : Type*)
  /-- Documents are added; they may be there already. -/
  | added (ds : List D)
  /-- A document with this id is taken out. -/
  | removed (id : I)
  /-- The id leads to this document. -/
  | found (id : I) (d : D)
  /-- The id leads nowhere. -/
  | missed (id : I)
  /-- These are the documents. -/
  | listed (ds : List D)

/-- The documents that an event adds. -/
def Event.documents : Event D I → List D
  | .added ds => ds
  | _ => []

/-- The documents that a run added. -/
def added (trace : List (Event D I)) : List D := trace.flatMap Event.documents

@[simp] theorem added_cons (e : Event D I) (trace : List (Event D I)) :
    added (e :: trace) = e.documents ++ added trace := rfl

variable [DecidableEq D] {idOf : D → Option I} {docs docs' : Finset D} {trace : List (Event D I)}
  {d : D} {id : I}

/-- When it happens, and what follows. -/
inductive Step (idOf : D → Option I) (docs : Finset D) : Event D I → Finset D → Prop
  | added (ds : List D) : Step idOf docs (.added ds) (docs ∪ ds.toFinset)
  | removed {id : I} {d : D} (hd : d ∈ docs) (hid : idOf d = some id) :
      Step idOf docs (.removed id) (docs.erase d)
  | found {id : I} {d : D} (hd : d ∈ docs) (hid : idOf d = some id) :
      Step idOf docs (.found id d) docs
  | missed {id : I} (hnone : ∀ d ∈ docs, idOf d ≠ some id) : Step idOf docs (.missed id) docs
  | listed {ds : List D} (hds : ∀ d, d ∈ ds ↔ d ∈ docs) : Step idOf docs (.listed ds) docs

/-! ### Where documents come from, and where they go -/

/-- A document was there at the start, or the run added it. -/
theorem mem_of_run (hrun : Run (Step idOf) docs trace docs') (hd : d ∈ docs') :
    d ∈ docs ∨ d ∈ added trace := by
  induction hrun with
  | nil => exact Or.inl hd
  | cons _ hstep ih =>
      cases hstep with
      | added ds =>
          rcases Finset.mem_union.1 hd with hd | hd
          · exact (ih hd).imp_right fun hmem => List.mem_append_right ds hmem
          · exact Or.inr (List.mem_append_left _ (List.mem_toFinset.1 hd))
      | removed _ _ => exact ih (Finset.mem_of_mem_erase hd)
      | found _ _ => exact ih hd
      | missed _ => exact ih hd
      | listed _ => exact ih hd

/-- A document that the run added is still there, or its id was removed. -/
theorem mem_or_removed (hrun : Run (Step idOf) docs trace docs') (hd : d ∈ docs) :
    d ∈ docs' ∨ ∃ id, idOf d = some id ∧ .removed id ∈ trace := by
  induction hrun with
  | nil => exact Or.inl hd
  | cons _ hstep ih =>
      rcases ih with hmem | ⟨id, hid, hremoved⟩
      · cases hstep with
        | added ds => exact Or.inl (Finset.mem_union_left _ hmem)
        | @removed id d' hd' hid =>
            by_cases heq : d = d'
            · exact Or.inr ⟨id, by rw [heq, hid], List.mem_cons_self⟩
            · exact Or.inl (Finset.mem_erase.2 ⟨heq, hmem⟩)
        | found _ _ => exact Or.inl hmem
        | missed _ => exact Or.inl hmem
        | listed _ => exact Or.inl hmem
      · exact Or.inr ⟨id, hid, List.mem_cons_of_mem _ hremoved⟩

/-! ### How often an id is removed -/

variable [DecidableEq I]

/-- The removals by an id. -/
def isRemoval (id : I) : Event D I → Bool
  | .removed id' => decide (id' = id)
  | _ => false

/-- The documents with an id. -/
def withId (idOf : D → Option I) (id : I) (docs : Finset D) : Finset D :=
  docs.filter fun d => idOf d = some id

theorem card_withId_union_le (idOf : D → Option I) (id : I) (docs : Finset D) (ds : List D) :
    (withId idOf id (docs ∪ ds.toFinset)).card ≤
      (withId idOf id docs).card + ds.countP fun d => decide (idOf d = some id) := by
  have hunion : withId idOf id (docs ∪ ds.toFinset) =
      withId idOf id docs ∪ (ds.filter fun d => decide (idOf d = some id)).toFinset := by
    rw [withId, Finset.filter_union, List.toFinset_filter]
    simp only [decide_eq_true_eq]
    rfl
  rw [hunion, List.countP_eq_length_filter]
  exact (Finset.card_union_le _ _).trans (Nat.add_le_add_left (List.toFinset_card_le _) _)

/-- **No id is removed more often than documents with it came in.** -/
theorem count_removed_le (hrun : Run (Step idOf) docs trace docs') (id : I) :
    (withId idOf id docs').card + trace.countP (isRemoval id) ≤
      (withId idOf id docs).card + (added trace).countP fun d => decide (idOf d = some id) := by
  induction hrun with
  | nil => exact le_rfl
  | @cons trace _ docs₁ _ _ hstep ih =>
      cases hstep with
      | added ds =>
          have hcard := card_withId_union_le idOf id docs₁ ds
          rw [added_cons, Event.documents, List.countP_append,
            List.countP_cons_of_neg Bool.false_ne_true]
          omega
      | @removed id' d hd hid =>
          have hadded : added (Event.removed id' :: trace) = added trace := rfl
          rw [hadded]
          by_cases heq : id' = id
          · subst heq
            have hmem : d ∈ withId idOf id' docs₁ := Finset.mem_filter.2 ⟨hd, hid⟩
            have herase : withId idOf id' (docs₁.erase d) = (withId idOf id' docs₁).erase d :=
              Finset.filter_erase _ _ _
            have hcard := Finset.card_erase_add_one hmem
            have hcount : (Event.removed id' :: trace).countP (isRemoval id') =
                trace.countP (isRemoval id') + 1 := List.countP_cons_of_pos (decide_eq_true rfl)
            rw [herase, hcount]
            omega
          · have hle : (withId idOf id (docs₁.erase d)).card ≤ (withId idOf id docs₁).card :=
              Finset.card_le_card (Finset.filter_subset_filter _ (Finset.erase_subset _ _))
            have hcount : (Event.removed id' :: trace).countP (isRemoval id) =
                trace.countP (isRemoval id) :=
              List.countP_cons_of_neg fun h => heq (of_decide_eq_true h)
            rw [hcount]
            omega
      | found _ _ => exact ih
      | missed _ => exact ih
      | listed _ => exact ih

/-! ### Histories -/

/-- **What the events of a run say about the events before them**, newest first. -/
structure History (idOf : D → Option I) (docs : Finset D) (trace : List (Event D I)) : Prop where
  /-- A document that is found has the id, and was there at the start or was added before. -/
  found {later earlier : List (Event D I)} {id : I} {d : D}
    (h : trace = later ++ .found id d :: earlier) :
    idOf d = some id ∧ (d ∈ docs ∨ d ∈ added earlier)
  /-- So were the documents that are listed. -/
  listed {later earlier : List (Event D I)} {ds : List D} {d : D}
    (h : trace = later ++ .listed ds :: earlier) (hd : d ∈ ds) : d ∈ docs ∨ d ∈ added earlier
  /-- An id that leads nowhere was removed after every addition of a document that has it. -/
  missed {later between earlier : List (Event D I)} {id : I} {ds : List D} {d : D}
    (h : trace = later ++ .missed id :: (between ++ .added ds :: earlier)) (hd : d ∈ ds)
    (hid : idOf d = some id) : .removed id ∈ between
  /-- A document that is not listed was taken out after every addition of it. -/
  unlisted {later between earlier : List (Event D I)} {ds ds' : List D} {d : D}
    (h : trace = later ++ .listed ds' :: (between ++ .added ds :: earlier)) (hd : d ∈ ds)
    (hnone : d ∉ ds') : ∃ id, idOf d = some id ∧ .removed id ∈ between
  /-- No id is removed more often than documents with it came in. -/
  removed (id : I) : trace.countP (isRemoval id) ≤
    (withId idOf id docs).card + (added trace).countP fun d => decide (idOf d = some id)

omit [DecidableEq I] in
/-- A step inside a run. -/
theorem exists_step_of_run {later earlier : List (Event D I)} {e : Event D I}
    (hrun : Run (Step idOf) docs (later ++ e :: earlier) docs') :
    ∃ docs₁ docs₂, Run (Step idOf) docs earlier docs₁ ∧ Step idOf docs₁ e docs₂ := by
  obtain ⟨docs₂, hrun, -⟩ := run_append_iff.1 hrun
  obtain ⟨docs₁, hrun, hstep⟩ := run_cons_iff.1 hrun
  exact ⟨docs₁, docs₂, hrun, hstep⟩

omit [DecidableEq I] in
/-- A document that is added in a run is there later on, or its id was removed. -/
theorem mem_or_removed_of_added {between earlier : List (Event D I)} {ds : List D}
    (hrun : Run (Step idOf) docs (between ++ .added ds :: earlier) docs') (hd : d ∈ ds) :
    d ∈ docs' ∨ ∃ id, idOf d = some id ∧ .removed id ∈ between := by
  obtain ⟨docs₂, hrun, hrest⟩ := run_append_iff.1 hrun
  obtain ⟨docs₁, -, hstep⟩ := run_cons_iff.1 hrun
  cases hstep with
  | added => exact mem_or_removed hrest (Finset.mem_union_right _ (List.mem_toFinset.2 hd))

/-- **The history of a run.** -/
theorem history (hrun : Run (Step idOf) docs trace docs') : History idOf docs trace where
  found := by
    rintro later earlier id d rfl
    obtain ⟨docs₁, _, hearlier, hstep⟩ := exists_step_of_run hrun
    cases hstep with
    | found hd hid => exact ⟨hid, mem_of_run hearlier hd⟩
  listed := by
    rintro later earlier ds d rfl hd
    obtain ⟨docs₁, _, hearlier, hstep⟩ := exists_step_of_run hrun
    cases hstep with
    | listed hds => exact mem_of_run hearlier ((hds d).1 hd)
  missed := by
    rintro later between earlier id ds d rfl hd hid
    obtain ⟨docs₁, _, hbetween, hstep⟩ := exists_step_of_run hrun
    cases hstep with
    | missed hnone =>
        rcases mem_or_removed_of_added hbetween hd with hmem | ⟨id', hid', hremoved⟩
        · exact absurd hid (hnone d hmem)
        · rwa [Option.some.inj (hid.symm.trans hid')]
  unlisted := by
    rintro later between earlier ds ds' d rfl hd hnone
    obtain ⟨docs₁, _, hbetween, hstep⟩ := exists_step_of_run hrun
    cases hstep with
    | listed hds =>
        exact (mem_or_removed_of_added hbetween hd).resolve_left fun hmem => hnone ((hds d).2 hmem)
  removed id := (Nat.le_add_left _ _).trans (count_removed_le hrun id)

end Collection
