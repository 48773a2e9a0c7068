/-
**Tables whose rows are told apart by a key.**

A table is the list of its rows in the order in which they were inserted, together with the
proof that no two of them share a key; the proof is a field, so a table that violates its unique
index cannot be built.  Queries test the key only and return the first row that matches, as an
unordered `SELECT … LIMIT 1` does.

Main definitions:

* `Table`, `Table.empty` — a table and the empty one;
* `Table.findOne`, `Table.lookup` — the first row whose key passes a test, and the row of a key;
* `Table.put` — write a row: in place when its key is present, at the end when it is not;
* `Table.insert` — write a row whose key must be new;
* `Table.erase` — drop the row of a key.

Main results:

* `Table.lookup_eq_some_iff` — the row of a key is the only one that has it;
* `Table.mem_put_iff`, `Table.lookup_put` — a write changes the row of its own key and no other;
* `Table.findOne_put_of_false`, `Table.findOne_put_self`, `Table.findOne_put_of_ne` — what a
  query returns after a write;
* `Table.put_of_mem` — writing a row back unchanged changes nothing.
-/

import Mathlib.Data.List.Find
import Mathlib.Data.List.Nodup
import Mathlib.Tactic.Common

set_option relaxedAutoImplicit false
set_option autoImplicit false

/-- A table of rows `α` with a unique index on `key`. -/
structure Table {α κ : Type} (key : α → κ) where
  /-- The rows, oldest first. -/
  rows : List α
  /-- No two rows share a key. -/
  nodup : (rows.map key).Nodup

namespace Table

variable {α κ : Type} {key : α → κ}

@[ext] theorem ext {t u : Table key} (h : t.rows = u.rows) : t = u := by
  cases t; cases u; simp_all

/-- The table without rows. -/
def empty : Table key := ⟨[], by simp⟩

@[simp] theorem rows_empty : (empty : Table key).rows = [] := rfl

/-- The first row whose key passes the test. -/
def findOne (t : Table key) (q : κ → Bool) : Option α := t.rows.find? fun r => q (key r)

theorem mem_of_findOne {t : Table key} {q : κ → Bool} {r : α} (h : t.findOne q = some r) :
    r ∈ t.rows := List.mem_of_find?_eq_some h

theorem key_of_findOne {t : Table key} {q : κ → Bool} {r : α} (h : t.findOne q = some r) :
    q (key r) = true := by
  simpa using List.find?_some h

theorem findOne_eq_none_iff {t : Table key} {q : κ → Bool} :
    t.findOne q = none ↔ ∀ r ∈ t.rows, q (key r) = false := by
  simp [findOne]

@[simp] theorem findOne_empty (q : κ → Bool) : (empty : Table key).findOne q = none := rfl

/-- Tests that agree on the rows of a table find the same row. -/
theorem findOne_congr {t : Table key} {q q' : κ → Bool}
    (h : ∀ r ∈ t.rows, q (key r) = q' (key r)) : t.findOne q = t.findOne q' :=
  List.find?_congr h

/-- Two rows of a table with one key are the same row. -/
theorem eq_of_key_eq (t : Table key) {r s : α} (hr : r ∈ t.rows) (hs : s ∈ t.rows)
    (h : key r = key s) : r = s := List.inj_on_of_nodup_map t.nodup hr hs h

section Writes

variable [DecidableEq κ]

/-- The row with key `k`. -/
def lookup (t : Table key) (k : κ) : Option α := t.findOne fun k' => decide (k' = k)

theorem lookup_eq_some_iff {t : Table key} {k : κ} {r : α} :
    t.lookup k = some r ↔ r ∈ t.rows ∧ key r = k := by
  constructor
  · intro h
    exact ⟨mem_of_findOne h, by simpa using key_of_findOne h⟩
  · rintro ⟨hr, rfl⟩
    cases h : t.lookup (key r) with
    | none =>
        have := findOne_eq_none_iff.1 h r hr
        simp at this
    | some s =>
        have hs : key s = key r := by simpa using key_of_findOne h
        rw [t.eq_of_key_eq (mem_of_findOne h) hr hs]

/-- What is true of the rows of a key is true of the row that is found. -/
theorem forall_key_iff (t : Table key) {k : κ} {P : α → Prop} :
    (∀ r ∈ t.rows, key r = k → P r) ↔ ∀ r, t.lookup k = some r → P r := by
  simp only [lookup_eq_some_iff, and_imp]

theorem lookup_eq_none_iff {t : Table key} {k : κ} :
    t.lookup k = none ↔ ∀ r ∈ t.rows, key r ≠ k := by
  simp [lookup, findOne_eq_none_iff]

@[simp] theorem lookup_empty (k : κ) : (empty : Table key).lookup k = none := rfl

variable (key) in
/-- The rows after writing `r`: in place when its key is present, else at the end. -/
def putRows (r : α) : List α → List α
  | [] => [r]
  | s :: rows => if key s = key r then r :: rows else s :: putRows r rows

theorem key_mem_putRows {r : α} {rows : List α} {k : κ} :
    k ∈ (putRows key r rows).map key ↔ k = key r ∨ k ∈ rows.map key := by
  induction rows with
  | nil => simp [putRows]
  | cons s rows ih =>
      by_cases h : key s = key r
      · rw [putRows, if_pos h, List.map_cons, List.map_cons, List.mem_cons, List.mem_cons, h]
        tauto
      · rw [putRows, if_neg h, List.map_cons, List.map_cons, List.mem_cons, List.mem_cons, ih]
        tauto

theorem nodup_putRows {r : α} {rows : List α} (h : (rows.map key).Nodup) :
    ((putRows key r rows).map key).Nodup := by
  induction rows with
  | nil => simp [putRows]
  | cons s rows ih =>
      simp only [List.map_cons, List.nodup_cons] at h
      by_cases hk : key s = key r
      · rwa [putRows, if_pos hk, List.map_cons, List.nodup_cons, ← hk]
      · rw [putRows, if_neg hk, List.map_cons, List.nodup_cons]
        refine ⟨fun hmem => ?_, ih h.2⟩
        rcases key_mem_putRows.1 hmem with hr | hs
        · exact hk hr
        · exact h.1 hs

/-- Write a row: `UPDATE` when its key is present, `INSERT` when it is not. -/
def put (t : Table key) (r : α) : Table key := ⟨putRows key r t.rows, nodup_putRows t.nodup⟩

/-- Write a row whose key must be new; `none` when the unique index refuses it. -/
def insert (t : Table key) (r : α) : Option (Table key) :=
  match t.lookup (key r) with
  | none => some (t.put r)
  | some _ => none

theorem insert_eq_some_iff {t t' : Table key} {r : α} :
    t.insert r = some t' ↔ t.lookup (key r) = none ∧ t' = t.put r := by
  unfold insert
  cases t.lookup (key r) with
  | none => simp [eq_comm]
  | some s => simp

theorem insert_of_lookup_eq_none {t : Table key} {r : α} (h : t.lookup (key r) = none) :
    t.insert r = some (t.put r) := by
  simp only [insert, h]

/-- Drop the row of a key. -/
def erase (t : Table key) (k : κ) : Table key :=
  ⟨t.rows.filter fun r => decide (key r ≠ k),
    t.nodup.sublist (List.Sublist.map key List.filter_sublist)⟩

/-- The row of a key is again what it was. -/
def restore (t : Table key) (k : κ) : Option α → Table key
  | none => t.erase k
  | some r => t.put r

theorem mem_put_iff {t : Table key} {r s : α} :
    s ∈ (t.put r).rows ↔ s = r ∨ (s ∈ t.rows ∧ key s ≠ key r) := by
  obtain ⟨rows, hnd⟩ := t
  show s ∈ putRows key r rows ↔ _
  induction rows with
  | nil => simp [putRows]
  | cons x rows ih =>
      simp only [List.map_cons, List.nodup_cons, List.mem_map, not_exists, not_and] at hnd
      by_cases h : key x = key r
      · simp only [putRows, if_pos h, List.mem_cons]
        constructor
        · rintro (rfl | hs)
          · exact Or.inl rfl
          · exact Or.inr ⟨Or.inr hs, fun hk => hnd.1 s hs (hk.trans h.symm)⟩
        · rintro (rfl | ⟨rfl | hs, hk⟩)
          · exact Or.inl rfl
          · exact absurd h hk
          · exact Or.inr hs
      · simp only [putRows, if_neg h, List.mem_cons, ih hnd.2]
        constructor
        · rintro (rfl | rfl | ⟨hs, hk⟩)
          · exact Or.inr ⟨Or.inl rfl, h⟩
          · exact Or.inl rfl
          · exact Or.inr ⟨Or.inr hs, hk⟩
        · rintro (rfl | ⟨rfl | hs, hk⟩)
          · exact Or.inr (Or.inl rfl)
          · exact Or.inl rfl
          · exact Or.inr (Or.inr ⟨hs, hk⟩)

theorem mem_put_self (t : Table key) (r : α) : r ∈ (t.put r).rows := mem_put_iff.2 (Or.inl rfl)

theorem lookup_put_self (t : Table key) (r : α) : (t.put r).lookup (key r) = some r :=
  lookup_eq_some_iff.2 ⟨mem_put_self t r, rfl⟩

/-- **A write changes the row of its own key only.** -/
theorem lookup_put_of_ne {t : Table key} {r : α} {k : κ} (h : k ≠ key r) :
    (t.put r).lookup k = t.lookup k := by
  ext s
  simp only [lookup_eq_some_iff, mem_put_iff]
  constructor
  · rintro ⟨rfl | ⟨hs, -⟩, rfl⟩
    · exact absurd rfl h
    · exact ⟨hs, rfl⟩
  · rintro ⟨hs, rfl⟩
    exact ⟨Or.inr ⟨hs, h⟩, rfl⟩

theorem lookup_put (t : Table key) (r : α) (k : κ) :
    (t.put r).lookup k = if k = key r then some r else t.lookup k := by
  by_cases h : k = key r
  · rw [if_pos h, h, lookup_put_self]
  · rw [if_neg h, lookup_put_of_ne h]

/-- A query that the written key does not pass returns what it returned before. -/
theorem findOne_put_of_false {t : Table key} {r : α} {q : κ → Bool} (h : q (key r) = false) :
    (t.put r).findOne q = t.findOne q := by
  obtain ⟨rows, hnd⟩ := t
  show (putRows key r rows).find? _ = rows.find? _
  clear hnd
  induction rows with
  | nil => simp [putRows, h]
  | cons x rows ih =>
      by_cases hk : key x = key r
      · simp [putRows, hk, h]
      · simp only [putRows, if_neg hk, List.find?_cons, ih]

/-- A query that returned the row of the written key returns the row written. -/
theorem findOne_put_self {t : Table key} {r s : α} {q : κ → Bool} (h : t.findOne q = some s)
    (hk : key s = key r) : (t.put r).findOne q = some r := by
  obtain ⟨rows, hnd⟩ := t
  change rows.find? _ = some s at h
  show (putRows key r rows).find? _ = some r
  clear hnd
  induction rows with
  | nil => simp at h
  | cons x rows ih =>
      by_cases hq : q (key x) = true
      · simp only [List.find?_cons, hq, Option.some.injEq] at h
        subst h
        rw [hk] at hq
        rw [putRows, if_pos hk, List.find?_cons, hq]
      · simp only [List.find?_cons, hq] at h
        have hne : key x ≠ key r := by
          intro hx
          have hs : q (key s) = true := by simpa using List.find?_some h
          rw [hk, ← hx] at hs
          exact hq hs
        simp only [putRows, if_neg hne, List.find?_cons, hq]
        exact ih h

/-- A query that returned the row of another key still returns it. -/
theorem findOne_put_of_ne {t : Table key} {r s : α} {q : κ → Bool} (h : t.findOne q = some s)
    (hk : key s ≠ key r) : (t.put r).findOne q = some s := by
  obtain ⟨rows, hnd⟩ := t
  change rows.find? _ = some s at h
  show (putRows key r rows).find? _ = some s
  clear hnd
  induction rows with
  | nil => simp at h
  | cons x rows ih =>
      by_cases hq : q (key x) = true
      · simp only [List.find?_cons, hq, Option.some.injEq] at h
        subst h
        rw [putRows, if_neg hk, List.find?_cons, hq]
      · simp only [List.find?_cons, hq] at h
        by_cases hx : key x = key r
        · rw [hx] at hq
          simp [putRows, hx, hq, h]
        · simp only [putRows, if_neg hx, List.find?_cons, hq]
          exact ih h

/-- A query that found nothing returns the row written when the row passes it. -/
theorem findOne_put_of_none {t : Table key} {r : α} {q : κ → Bool} (h : t.findOne q = none)
    (hq : q (key r) = true) : (t.put r).findOne q = some r := by
  obtain ⟨rows, hnd⟩ := t
  change rows.find? _ = none at h
  show (putRows key r rows).find? _ = some r
  clear hnd
  induction rows with
  | nil => simp [putRows, hq]
  | cons x rows ih =>
      simp only [List.find?_eq_none, List.mem_cons, forall_eq_or_imp] at h
      have hne : key x ≠ key r := by
        intro hx
        rw [← hx] at hq
        exact h.1 hq
      simp only [putRows, if_neg hne, List.find?_cons, h.1]
      exact ih (by simpa using h.2)

/-- **Writing a row back unchanged changes nothing.** -/
theorem put_of_mem {t : Table key} {r : α} (h : r ∈ t.rows) : t.put r = t := by
  obtain ⟨rows, hnd⟩ := t
  apply ext
  show putRows key r rows = rows
  change r ∈ rows at h
  induction rows with
  | nil => simp at h
  | cons x rows ih =>
      simp only [List.map_cons, List.nodup_cons, List.mem_map, not_exists, not_and] at hnd
      rcases List.mem_cons.1 h with rfl | h
      · simp [putRows]
      · have hne : key x ≠ key r := fun hx => hnd.1 r h hx.symm
        rw [putRows, if_neg hne, ih hnd.2 h]

end Writes

end Table
