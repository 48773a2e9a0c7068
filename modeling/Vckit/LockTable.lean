/-
**A table with row locks.**

Transactions read what is committed together with what they have written themselves.  A shared lock
on the rows that pass a test waits while another transaction has written one of them; a write waits
while another transaction has locked or written its row; locks and writes last until the
transaction ends.  That a write excludes the locks and writes of others is a field of the
structure, so a table on which it fails cannot be built.

A transaction that has locked or written a row can rely on it: no other transaction changes it
before the first one ends.  A row that was found without a lock keeps its key only.

Main definitions:

* `LockTable` — committed rows, locks and uncommitted writes;
* `LockTable.visible` — what a transaction reads;
* `LockTable.lock`, `LockTable.insert`, `LockTable.update`, `LockTable.commit`,
  `LockTable.rollback` — what a transaction does; `none` is a wait;
* `LockTable.Operation` — any of these before the commit;
* `LockTable.Rests`, `LockTable.Pending`, `LockTable.Fresh` — a transaction that has found a row,
  has updated it, or has inserted one;
* `LockTable.Rules`, `LockTable.Session` — a transaction that reads one row and then writes one.

Main results:

* `LockTable.Operation.kept`, `LockTable.Kept.commit` — **what a transaction relies on, the steps
  of others keep**;
* `LockTable.Rests.update`, `LockTable.fresh_of_insert` — a write makes a transaction pending;
* `LockTable.Pending.commit`, `LockTable.Fresh.commit` — **a commit writes the row on top of the
  one the transaction found**;
* `LockTable.Session.kept` — the steps of others keep a session; `LockTable.Session.updated` and its
  companions say what its own steps do.
-/

import Vckit.Table

set_option relaxedAutoImplicit false
set_option autoImplicit false

/-- A table of rows `α` that transactions `ι` read and write under row locks. -/
structure LockTable (ι : Type) {α κ : Type} (key : α → κ) where
  committed : Table key
  /-- The keys of locked rows, with their holders. -/
  locks : List (ι × κ)
  /-- The uncommitted writes, newest first. -/
  writes : List (ι × α)
  /-- A written row is locked by its writer only. -/
  exclusive : ∀ w ∈ writes, ∀ l ∈ locks, l.2 = key w.2 → l.1 = w.1
  /-- A row is written by one transaction only. -/
  one_writer : ∀ w ∈ writes, ∀ w' ∈ writes, key w'.2 = key w.2 → w'.1 = w.1

namespace LockTable

variable {ι α κ : Type} {key : α → κ}

/-- A table that no transaction uses. -/
def start (t : Table key) : LockTable ι key where
  committed := t
  locks := []
  writes := []
  exclusive := by simp
  one_writer := by simp

/-- The transaction has locked the row. -/
def Holds (t : LockTable ι key) (i : ι) (k : κ) : Prop := (i, k) ∈ t.locks

/-- Another transaction has written the row. -/
def WrittenByOther (t : LockTable ι key) (i : ι) (k : κ) : Prop :=
  ∃ w ∈ t.writes, w.1 ≠ i ∧ key w.2 = k

/-- Another transaction has locked the row. -/
def LockedByOther (t : LockTable ι key) (i : ι) (k : κ) : Prop :=
  ∃ l ∈ t.locks, l.1 ≠ i ∧ l.2 = k

section Decide

variable [DecidableEq ι] [DecidableEq κ]

instance (t : LockTable ι key) (i : ι) (k : κ) : Decidable (t.Holds i k) :=
  inferInstanceAs (Decidable (_ ∈ _))

instance (t : LockTable ι key) (i : ι) (k : κ) : Decidable (t.WrittenByOther i k) :=
  inferInstanceAs (Decidable (∃ w ∈ t.writes, w.1 ≠ i ∧ key w.2 = k))

instance (t : LockTable ι key) (i : ι) (k : κ) : Decidable (t.LockedByOther i k) :=
  inferInstanceAs (Decidable (∃ l ∈ t.locks, l.1 ≠ i ∧ l.2 = k))

end Decide

/-- Write a row nobody else has locked or written. -/
def write (t : LockTable ι key) (i : ι) (r : α)
    (h : ¬ (t.WrittenByOther i (key r) ∨ t.LockedByOther i (key r))) : LockTable ι key where
  committed := t.committed
  locks := t.locks
  writes := (i, r) :: t.writes
  exclusive := by
    intro w hw l hl hkey
    rcases List.mem_cons.1 hw with rfl | hw
    · by_contra hne
      exact h (Or.inr ⟨l, hl, hne, hkey⟩)
    · exact t.exclusive w hw l hl hkey
  one_writer := by
    intro w hw w' hw' hkey
    rcases List.mem_cons.1 hw with rfl | hw <;> rcases List.mem_cons.1 hw' with rfl | hw'
    · rfl
    · by_contra hne
      exact h (Or.inl ⟨w', hw', hne, hkey⟩)
    · by_contra hne
      exact h (Or.inl ⟨w, hw, Ne.symm hne, hkey.symm⟩)
    · exact t.one_writer w hw w' hw' hkey

/-! ### The parts of each transaction -/

section Parts

variable [DecidableEq ι]

/-- The rows a transaction has written, newest first. -/
def own (t : LockTable ι key) (i : ι) : List α :=
  t.writes.filterMap fun w => if w.1 = i then some w.2 else none

/-- The locks of other transactions. -/
def locksOfOthers (t : LockTable ι key) (i : ι) : List (ι × κ) :=
  t.locks.filter fun l => decide (l.1 ≠ i)

/-- The writes of other transactions. -/
def writesOfOthers (t : LockTable ι key) (i : ι) : List (ι × α) :=
  t.writes.filter fun w => decide (w.1 ≠ i)

/-- End a transaction on the given rows. -/
def close (t : LockTable ι key) (i : ι) (rows : Table key) : LockTable ι key where
  committed := rows
  locks := t.locksOfOthers i
  writes := t.writesOfOthers i
  exclusive w hw l hl := t.exclusive w (List.mem_of_mem_filter hw) l (List.mem_of_mem_filter hl)
  one_writer w hw w' hw' :=
    t.one_writer w (List.mem_of_mem_filter hw) w' (List.mem_of_mem_filter hw')

variable {t : LockTable ι key} {i j : ι}

theorem mem_own {r : α} : r ∈ t.own i ↔ (i, r) ∈ t.writes := by
  simp only [own, List.mem_filterMap, Option.ite_none_right_eq_some, Option.some.injEq]
  constructor
  · rintro ⟨⟨j, s⟩, hmem, rfl, rfl⟩
    exact hmem
  · intro hmem
    exact ⟨(i, r), hmem, rfl, rfl⟩

theorem own_write_self {r : α} {h} : (t.write i r h).own i = r :: t.own i := by
  simp [own, write]

theorem own_write_of_ne (hij : j ≠ i) {r : α} {h} : (t.write i r h).own j = t.own j := by
  simp [own, write, Ne.symm hij]

theorem own_close_self {rows : Table key} : (t.close i rows).own i = [] := by
  simp [own, close, writesOfOthers]

theorem own_close_of_ne (hij : j ≠ i) {rows : Table key} : (t.close i rows).own j = t.own j := by
  show (t.writesOfOthers i).filterMap _ = t.writes.filterMap _
  unfold writesOfOthers
  induction t.writes with
  | nil => rfl
  | cons w writes ih =>
      by_cases hw : w.1 = i
      · rw [List.filter_cons_of_neg (by simpa using hw), ih, List.filterMap_cons, hw,
          if_neg (Ne.symm hij)]
      · rw [List.filter_cons_of_pos (by simpa using hw), List.filterMap_cons, List.filterMap_cons,
          ih]

theorem holds_close_of_ne (hij : j ≠ i) {rows : Table key} {k : κ} :
    (t.close i rows).Holds j k ↔ t.Holds j k := by
  simp [Holds, close, locksOfOthers, hij]

end Parts

/-! ### Operations -/

section Operations

variable [DecidableEq ι] [DecidableEq κ]

/-- What a transaction reads. -/
def visible (t : LockTable ι key) (i : ι) : Table key :=
  (t.own i).foldr (fun r rows => rows.put r) t.committed

/-- Lock the rows that pass the test. -/
def lock (t : LockTable ι key) (i : ι) (q : κ → Bool) : Option (LockTable ι key) :=
  if h : ∃ r ∈ (t.visible i).rows, q (key r) = true ∧ t.WrittenByOther i (key r) then none
  else some {
    committed := t.committed
    locks := (((t.visible i).rows.filter fun r => q (key r)).map fun r => (i, key r)) ++ t.locks
    writes := t.writes
    exclusive := by
      intro w hw l hl hkey
      rcases List.mem_append.1 hl with hl | hl
      · obtain ⟨r, hr, rfl⟩ := List.mem_map.1 hl
        obtain ⟨hmem, hq⟩ := List.mem_filter.1 hr
        by_contra hne
        exact h ⟨r, hmem, hq, w, hw, Ne.symm hne, hkey.symm⟩
      · exact t.exclusive w hw l hl hkey
    one_writer := t.one_writer }

/-- `INSERT`: it waits, or is refused by the unique index. -/
def insert (t : LockTable ι key) (i : ι) (r : α) : Option (Option (LockTable ι key)) :=
  if h : t.WrittenByOther i (key r) ∨ t.LockedByOther i (key r) then none
  else
    match (t.visible i).lookup (key r) with
    | some _ => some none
    | none => some (some (t.write i r h))

/-- `UPDATE`; a row that would not change is not written. -/
def update [DecidableEq α] (t : LockTable ι key) (i : ι) (r : α) : Option (LockTable ι key) :=
  if (t.visible i).lookup (key r) = some r then some t
  else if h : t.WrittenByOther i (key r) ∨ t.LockedByOther i (key r) then none
  else some (t.write i r h)

/-- Commit: what the transaction reads is what everyone reads now. -/
def commit (t : LockTable ι key) (i : ι) : LockTable ι key := t.close i (t.visible i)

/-- Roll back. -/
def rollback (t : LockTable ι key) (i : ι) : LockTable ι key := t.close i t.committed

/-- What a transaction does with a table before it commits. -/
inductive Operation [DecidableEq α] (i : ι) (t : LockTable ι key) : LockTable ι key → Prop
  | refl : Operation i t t
  | lock {q : κ → Bool} {t' : LockTable ι key} (h : t.lock i q = some t') : Operation i t t'
  | insert {r : α} {t' : LockTable ι key} (h : t.insert i r = some (some t')) : Operation i t t'
  | update {r : α} {t' : LockTable ι key} (h : t.update i r = some t') : Operation i t t'
  | rollback : Operation i t (t.rollback i)

variable {t t' : LockTable ι key} {i : ι}

theorem visible_of_own_eq_nil (h : t.own i = []) : t.visible i = t.committed := by
  rw [visible, h]
  rfl

/-- Locking changes nothing but the locks. -/
theorem lock_eq_some {q : κ → Bool} (h : t.lock i q = some t') :
    t'.committed = t.committed ∧ t'.writes = t.writes ∧
      (∀ k, t.Holds i k → t'.Holds i k) ∧ ∀ j k, j ≠ i → (t'.Holds j k ↔ t.Holds j k) := by
  unfold lock at h
  split at h
  · cases h
  · simp only [Option.some.injEq] at h
    subst h
    refine ⟨rfl, rfl, fun k hk => List.mem_append_right _ hk, ?_⟩
    intro j k hij
    constructor
    · intro hk
      rcases List.mem_append.1 hk with hk | hk
      · obtain ⟨r, -, heq⟩ := List.mem_map.1 hk
        exact absurd (Prod.mk.inj heq).1.symm hij
      · exact hk
    · exact fun hk => List.mem_append_right _ hk

/-- An insert that gets through writes a row that was not there. -/
theorem insert_eq_some {r : α} (h : t.insert i r = some (some t')) :
    (t.visible i).lookup (key r) = none ∧ ∃ hfree, t' = t.write i r hfree := by
  unfold insert at h
  split at h
  · cases h
  · split at h
    · cases h
    · rename_i hfree _ hnone
      simp only [Option.some.injEq] at h
      exact ⟨hnone, hfree, h.symm⟩

/-- An update that gets through writes the row, or changes nothing. -/
theorem update_eq_some [DecidableEq α] {r : α} (h : t.update i r = some t') :
    ((t.visible i).lookup (key r) = some r ∧ t' = t) ∨ ∃ hfree, t' = t.write i r hfree := by
  unfold update at h
  split at h
  · rename_i hsame
    exact Or.inl ⟨hsame, (Option.some.inj h).symm⟩
  · split at h
    · cases h
    · rename_i hfree
      exact Or.inr ⟨hfree, (Option.some.inj h).symm⟩

/-! ### What the steps of others keep -/

/-- The transaction has locked or written the row. -/
def Owns (t : LockTable ι key) (i : ι) (k : κ) : Prop := t.Holds i k ∨ ∃ r ∈ t.own i, key r = k

/-- **What transaction `i` can rely on.**  Its locks and writes stay.  A row it owns stays, and
another row keeps its key.  A row it has inserted is not inserted by anyone else. -/
structure Kept (i : ι) (t t' : LockTable ι key) : Prop where
  own : t'.own i = t.own i
  holds : ∀ {k}, t'.Holds i k ↔ t.Holds i k
  found : ∀ {q r}, t.Owns i (key r) → t.committed.findOne q = some r →
    t'.committed.findOne q = some r
  key_found : ∀ {q r}, t.committed.findOne q = some r →
    ∃ r', t'.committed.findOne q = some r' ∧ key r' = key r
  absent : ∀ {r}, r ∈ t.own i → t.committed.lookup (key r) = none →
    t'.committed.lookup (key r) = none

/-- As long as nothing is committed, rows stay. -/
theorem Kept.of_committed_eq (hown : t'.own i = t.own i)
    (hholds : ∀ {k}, t'.Holds i k ↔ t.Holds i k) (hcommitted : t'.committed = t.committed) :
    Kept i t t' where
  own := hown
  holds := hholds
  found _ h := by rwa [hcommitted]
  key_found {_ r} h := ⟨r, by rwa [hcommitted], rfl⟩
  absent _ h := by rwa [hcommitted]

/-- A row found among the committed ones is found under other writes. -/
theorem findOne_foldr_put {rows : List α} {t : Table key} {q : κ → Bool} {r : α}
    (hne : ∀ s ∈ rows, key r ≠ key s) (h : t.findOne q = some r) :
    (rows.foldr (fun s rows => rows.put s) t).findOne q = some r := by
  induction rows with
  | nil => exact h
  | cons s rows ih =>
      rw [List.foldr_cons]
      exact Table.findOne_put_of_ne (ih fun s' hs => hne s' (List.mem_cons_of_mem s hs))
        (hne s List.mem_cons_self)

/-- A row found among the committed ones keeps its key under writes. -/
theorem key_foldr_put {rows : List α} {t : Table key} {q : κ → Bool} {r : α}
    (h : t.findOne q = some r) :
    ∃ r', (rows.foldr (fun s rows => rows.put s) t).findOne q = some r' ∧ key r' = key r := by
  induction rows with
  | nil => exact ⟨r, h, rfl⟩
  | cons s rows ih =>
      obtain ⟨r', hr', hkey⟩ := ih
      rw [List.foldr_cons]
      by_cases hs : key r' = key s
      · exact ⟨s, Table.findOne_put_self hr' hs, hs.symm.trans hkey⟩
      · exact ⟨r', Table.findOne_put_of_ne hr' hs, hkey⟩

/-- A row that is not there is not there under the writes of other rows. -/
theorem lookup_foldr_put {rows : List α} {t : Table key} {k : κ} (hne : ∀ s ∈ rows, k ≠ key s) :
    (rows.foldr (fun s rows => rows.put s) t).lookup k = t.lookup k := by
  induction rows with
  | nil => rfl
  | cons s rows ih =>
      rw [List.foldr_cons, Table.lookup_put_of_ne (hne s List.mem_cons_self)]
      exact ih fun s' hs => hne s' (List.mem_cons_of_mem s hs)

omit [DecidableEq κ] in
/-- A row that one transaction owns is not written by another. -/
theorem key_ne_of_owns {j : ι} (hij : i ≠ j) {k : κ} (h : t.Owns i k) :
    ∀ s ∈ t.own j, k ≠ key s := by
  intro s hs hk
  rcases h with hlock | ⟨r, hr, hrk⟩
  · exact hij (t.exclusive (j, s) (mem_own.1 hs) (i, k) hlock hk)
  · exact hij (t.one_writer (j, s) (mem_own.1 hs) (i, r) (mem_own.1 hr) (hrk.trans hk))

theorem Kept.write {j : ι} (hij : i ≠ j) {r : α} {h} : Kept i t (t.write j r h) :=
  Kept.of_committed_eq (own_write_of_ne hij) Iff.rfl rfl

/-- Nothing is committed by an operation. -/
theorem Operation.committed_eq [DecidableEq α] (h : Operation i t t') :
    t'.committed = t.committed := by
  cases h with
  | refl => rfl
  | lock h => exact (lock_eq_some h).1
  | insert h =>
      obtain ⟨-, hfree, rfl⟩ := insert_eq_some h
      rfl
  | update h =>
      rcases update_eq_some h with ⟨-, rfl⟩ | ⟨hfree, rfl⟩
      · rfl
      · rfl
  | rollback => rfl

/-- **What a transaction relies on, the operations of others keep.** -/
theorem Operation.kept [DecidableEq α] {j : ι} (hij : i ≠ j) (h : Operation j t t') :
    Kept i t t' := by
  have hcommitted := h.committed_eq
  cases h with
  | refl => exact Kept.of_committed_eq rfl Iff.rfl rfl
  | lock h =>
      obtain ⟨-, hwrites, -, hholds⟩ := lock_eq_some h
      refine Kept.of_committed_eq ?_ (hholds i _ hij) hcommitted
      rw [LockTable.own, hwrites, LockTable.own]
  | insert h =>
      obtain ⟨-, hfree, rfl⟩ := insert_eq_some h
      exact Kept.write hij
  | update h =>
      rcases update_eq_some h with ⟨-, rfl⟩ | ⟨hfree, rfl⟩
      · exact Kept.of_committed_eq rfl Iff.rfl rfl
      · exact Kept.write hij
  | rollback =>
      exact Kept.of_committed_eq (own_close_of_ne hij) (holds_close_of_ne hij) hcommitted

/-- **What a transaction relies on, the commits of others keep.** -/
theorem Kept.commit {j : ι} (hij : i ≠ j) : Kept i t (t.commit j) where
  own := own_close_of_ne hij
  holds := holds_close_of_ne hij
  found howns hfound := findOne_foldr_put (key_ne_of_owns hij howns) hfound
  key_found hfound := key_foldr_put hfound
  absent hr hnone :=
    (lookup_foldr_put (key_ne_of_owns hij (Or.inr ⟨_, hr, rfl⟩))).trans hnone

/-! ### Finding and writing a row -/

/-- The transaction has found row `r`; the row is still there if it is locked, and its key is in
any case. -/
def Rests (t : LockTable ι key) (i : ι) (q : κ → Bool) (r : α) : Prop :=
  ∃ r', t.committed.findOne q = some r' ∧ key r' = key r ∧ (t.Holds i (key r) → r' = r)

/-- The transaction has replaced row `r` by row `w`, or has locked it and left it as it is. -/
structure Pending (t : LockTable ι key) (i : ι) (q : κ → Bool) (r w : α) : Prop where
  found : t.committed.findOne q = some r
  key_eq : key w = key r
  own : t.own i = [w] ∨ (t.own i = [] ∧ w = r ∧ t.Holds i (key r))

/-- The transaction has inserted row `w`. -/
structure Fresh (t : LockTable ι key) (i : ι) (w : α) : Prop where
  absent : t.committed.lookup (key w) = none
  own : t.own i = [w]

theorem Rests.kept {q : κ → Bool} {r : α} (h : t.Rests i q r) (hkept : Kept i t t') :
    t'.Rests i q r := by
  obtain ⟨r', hr', hkey, hholds⟩ := h
  obtain ⟨r'', hr'', hkey'⟩ := hkept.key_found hr'
  refine ⟨r'', hr'', hkey'.trans hkey, ?_⟩
  intro hlock
  have hlock' := hkept.holds.1 hlock
  obtain rfl := hholds hlock'
  exact Option.some.inj (hr''.symm.trans (hkept.found (Or.inl hlock') hr'))

omit [DecidableEq κ] in
theorem Pending.owns {q : κ → Bool} {r w : α} (h : t.Pending i q r w) : t.Owns i (key r) := by
  rcases h.own with hown | ⟨-, -, hholds⟩
  · exact Or.inr ⟨w, by rw [hown]; exact List.mem_cons_self, h.key_eq⟩
  · exact Or.inl hholds

theorem Pending.kept {q : κ → Bool} {r w : α} (h : t.Pending i q r w) (hkept : Kept i t t') :
    t'.Pending i q r w where
  found := hkept.found h.owns h.found
  key_eq := h.key_eq
  own := by
    rw [hkept.own, hkept.holds]
    exact h.own

theorem Fresh.kept {w : α} (h : t.Fresh i w) (hkept : Kept i t t') : t'.Fresh i w where
  absent := hkept.absent (by rw [h.own]; exact List.mem_cons_self) h.absent
  own := hkept.own.trans h.own

/-- A row that a transaction without writes finds. -/
theorem rests_of_findOne (hown : t.own i = []) {q : κ → Bool} {r : α}
    (h : (t.visible i).findOne q = some r) : t.Rests i q r := by
  rw [visible_of_own_eq_nil hown] at h
  exact ⟨r, h, rfl, fun _ => rfl⟩

/-- **An update of a row that is locked or has not changed.** -/
theorem Rests.update [DecidableEq α] {q : κ → Bool} {r w : α} (h : t.Rests i q r)
    (hown : t.own i = []) (hkey : key w = key r)
    (hstill : t.Holds i (key r) ∨ (t.committed.lookup (key r) = some r ∧ w ≠ r))
    (hupdate : t.update i w = some t') : t'.Pending i q r w := by
  obtain ⟨r', hr', hkey', hholds⟩ := h
  have hsame : r' = r := by
    rcases hstill with hlock | ⟨hlookup, -⟩
    · exact hholds hlock
    · exact t.committed.eq_of_key_eq (Table.mem_of_findOne hr')
        (Table.lookup_eq_some_iff.1 hlookup).1 hkey'
  subst hsame
  rcases update_eq_some hupdate with ⟨hunchanged, rfl⟩ | ⟨hfree, rfl⟩
  · rw [visible_of_own_eq_nil hown, hkey] at hunchanged
    have hw : w = r' := t'.committed.eq_of_key_eq (Table.lookup_eq_some_iff.1 hunchanged).1
      (Table.mem_of_findOne hr') hkey
    rcases hstill with hlock | ⟨-, hne⟩
    · exact ⟨hr', hkey, Or.inr ⟨hown, hw, hlock⟩⟩
    · exact absurd hw hne
  · refine ⟨hr', hkey, Or.inl ?_⟩
    rw [own_write_self, hown]

/-- **An insert that gets through.** -/
theorem fresh_of_insert (hown : t.own i = []) {w : α} (h : t.insert i w = some (some t')) :
    t'.Fresh i w := by
  obtain ⟨hnone, hfree, rfl⟩ := insert_eq_some h
  rw [visible_of_own_eq_nil hown] at hnone
  exact ⟨hnone, by rw [own_write_self, hown]⟩

/-- A lock does not touch what the transaction has written. -/
theorem own_lock {q : κ → Bool} (hlock : t.lock i q = some t') : t'.own i = t.own i := by
  rw [LockTable.own, (lock_eq_some hlock).2.1, LockTable.own]

theorem Pending.lock {q q' : κ → Bool} {r w : α} (h : t.Pending i q r w)
    (hlock : t.lock i q' = some t') : t'.Pending i q r w := by
  obtain ⟨hcommitted, -, hholds, -⟩ := lock_eq_some hlock
  refine ⟨by rw [hcommitted]; exact h.found, h.key_eq, ?_⟩
  rw [own_lock hlock]
  exact h.own.imp_right fun hunchanged =>
    ⟨hunchanged.1, hunchanged.2.1, hholds _ hunchanged.2.2⟩

theorem Fresh.lock {q : κ → Bool} {w : α} (h : t.Fresh i w) (hlock : t.lock i q = some t') :
    t'.Fresh i w := by
  obtain ⟨hcommitted, -, -, -⟩ := lock_eq_some hlock
  exact ⟨by rw [hcommitted]; exact h.absent, (own_lock hlock).trans h.own⟩

/-! ### Ends of transactions -/

theorem commit_of_own_eq_nil (h : t.own i = []) : (t.commit i).committed = t.committed :=
  visible_of_own_eq_nil h

theorem visible_of_own_eq_singleton {w : α} (h : t.own i = [w]) :
    t.visible i = t.committed.put w := by
  rw [visible, h]
  rfl

/-- **A commit writes the row on top of the one that was found.** -/
theorem Pending.commit {q : κ → Bool} {r w : α} (h : t.Pending i q r w) :
    (t.commit i).committed = t.committed.put w := by
  rcases h.own with hown | ⟨hown, rfl, -⟩
  · exact visible_of_own_eq_singleton hown
  · rw [Table.put_of_mem (Table.mem_of_findOne h.found)]
    exact visible_of_own_eq_nil hown

theorem Fresh.commit {w : α} (h : t.Fresh i w) :
    (t.commit i).committed = t.committed.put w :=
  visible_of_own_eq_singleton h.own

/-! ### Sessions -/

/-- What a transaction may do with a table: the tests it reads with, whether it inserts, how the
row it writes depends on the row it has found, and whether it may save a row it has not locked as
it is. -/
structure Rules (α κ : Type) where
  queries : (κ → Bool) → Prop
  inserts : Prop
  rewrites : α → α → Prop
  copies : Prop

/-- The transaction has written row `w` by its rules. -/
inductive Written (rules : Rules α κ) (t : LockTable ι key) (i : ι) (w : α) : Prop
  | inserted (hinserts : rules.inserts) (hfresh : t.Fresh i w)
  | updated {q : κ → Bool} {r : α} (hquery : rules.queries q) (hpending : t.Pending i q r w)
      (hrewrites : rules.rewrites r w)
  | copied (hcopies : rules.copies) (hown : t.own i = [])

/-- **A transaction between two of its operations**: `found` and `saved` are what it last found and
saved, and it is not `healthy` once an operation has failed. -/
structure Session (rules : Rules α κ) (t : LockTable ι key) (i : ι) (healthy : Prop)
    (found : Option (Option α)) (saved : Option α) : Prop where
  own_of_unsaved : saved = none → t.own i = []
  own : t.own i = [] ∨ ∃ w, Written rules t i w
  written : healthy → ∀ w, saved = some w → Written rules t i w
  rests : healthy → saved = none → ∀ r, found = some (some r) →
    ∃ q, rules.queries q ∧ t.Rests i q r

section Sessions

variable {rules : Rules α κ} {healthy healthy' : Prop} {found : Option (Option α)}
  {saved : Option α} {r w : α}

theorem Written.kept (h : Written rules t i w) (hkept : Kept i t t') : Written rules t' i w := by
  cases h with
  | inserted hinserts hfresh => exact Written.inserted hinserts (hfresh.kept hkept)
  | updated hquery hpending hrewrites =>
      exact Written.updated hquery (hpending.kept hkept) hrewrites
  | copied hcopies hown => exact Written.copied hcopies (hkept.own.trans hown)

theorem Written.lock (h : Written rules t i w) {q : κ → Bool} (hlock : t.lock i q = some t') :
    Written rules t' i w := by
  cases h with
  | inserted hinserts hfresh => exact Written.inserted hinserts (hfresh.lock hlock)
  | updated hquery hpending hrewrites =>
      exact Written.updated hquery (hpending.lock hlock) hrewrites
  | copied hcopies hown => exact Written.copied hcopies ((own_lock hlock).trans hown)

/-- A commit writes what the transaction has written, unless that is a copy. -/
theorem Written.commit (h : Written rules t i w) (hcopies : ¬ rules.copies) :
    (t.commit i).committed = t.committed.put w := by
  cases h with
  | inserted _ hfresh => exact hfresh.commit
  | updated _ hpending _ => exact hpending.commit
  | copied h => exact absurd h hcopies

theorem Session.start (h : t.own i = []) : Session rules t i healthy none none where
  own_of_unsaved _ := h
  own := Or.inl h
  written _ _ hsaved := by cases hsaved
  rests _ _ _ hfound := by cases hfound

/-- **The steps of others keep a session.** -/
theorem Session.kept (h : Session rules t i healthy found saved) (hkept : Kept i t t') :
    Session rules t' i healthy found saved where
  own_of_unsaved hsaved := hkept.own.trans (h.own_of_unsaved hsaved)
  own := h.own.imp (fun hown => hkept.own.trans hown) fun ⟨w, hw⟩ => ⟨w, hw.kept hkept⟩
  written hhealthy w hsaved := (h.written hhealthy w hsaved).kept hkept
  rests hhealthy hsaved r hfound := by
    obtain ⟨q, hquery, hrests⟩ := h.rests hhealthy hsaved r hfound
    exact ⟨q, hquery, hrests.kept hkept⟩

/-- An operation that does not concern the table. -/
theorem Session.other (h : Session rules t i healthy found saved) (hhealthy : healthy' → healthy) :
    Session rules t i healthy' found saved where
  own_of_unsaved := h.own_of_unsaved
  own := h.own
  written hh := h.written (hhealthy hh)
  rests hh := h.rests (hhealthy hh)

/-- An operation that is aborted. -/
theorem Session.aborted (hfailed : ¬ healthy) :
    Session rules (t.rollback i) i healthy found saved where
  own_of_unsaved _ := own_close_self
  own := Or.inl own_close_self
  written hhealthy := absurd hhealthy hfailed
  rests hhealthy := absurd hhealthy hfailed

/-- A lock, before anything has been found. -/
theorem Session.locked (h : Session rules t i healthy none saved) (hhealthy : healthy' → healthy)
    {q : κ → Bool} (hlock : t.lock i q = some t') : Session rules t' i healthy' none saved := by
  have hown := own_lock hlock
  constructor
  case own_of_unsaved => exact fun hsaved => hown.trans (h.own_of_unsaved hsaved)
  case own => exact h.own.imp (fun hnil => hown.trans hnil) fun ⟨w, hw⟩ => ⟨w, hw.lock hlock⟩
  case written => exact fun hh w hsaved => (h.written (hhealthy hh) w hsaved).lock hlock
  case rests =>
      intro _ _ r hfound
      cases hfound

/-- A query. -/
theorem Session.queried (h : Session rules t i healthy found none) {q : κ → Bool}
    (hquery : rules.queries q) :
    Session rules t i healthy' (some ((t.visible i).findOne q)) none where
  own_of_unsaved := h.own_of_unsaved
  own := h.own
  written _ _ hsaved := by cases hsaved
  rests _ _ _ hfound :=
    ⟨q, hquery, rests_of_findOne (h.own_of_unsaved rfl) (Option.some.inj hfound)⟩

/-- The session of a transaction that has written a row. -/
theorem Session.of_written (h : Written rules t i w) :
    Session rules t i healthy found (some w) where
  own_of_unsaved hsaved := by cases hsaved
  own := Or.inr ⟨w, h⟩
  written _ _ hsaved := by
    rw [← Option.some.inj hsaved]
    exact h
  rests _ hsaved := by cases hsaved

/-- An insert. -/
theorem Session.inserted (h : Session rules t i healthy found none) (hinserts : rules.inserts)
    (hinsert : t.insert i w = some (some t')) : Session rules t' i healthy' found (some w) :=
  Session.of_written (Written.inserted hinserts (fresh_of_insert (h.own_of_unsaved rfl) hinsert))

/-- An update of the row that was found: it is locked, or it has not changed, and the update
changes it unless a copy is allowed. -/
theorem Session.updated [DecidableEq α] (h : Session rules t i healthy (some (some r)) none)
    (hhealthy : healthy) (hrewrites : rules.rewrites r w) (hkey : key w = key r)
    (hstill : t.Holds i (key r) ∨ (t.committed.lookup (key r) = some r ∧ (rules.copies ∨ w ≠ r)))
    (hupdate : t.update i w = some t') :
    Session rules t' i healthy' (some (some r)) (some w) := by
  have hown := h.own_of_unsaved rfl
  obtain ⟨q, hquery, hrests⟩ := h.rests hhealthy rfl _ rfl
  have hpending : t.Holds i (key r) ∨ (t.committed.lookup (key r) = some r ∧ w ≠ r) →
      Session rules t' i healthy' (some (some r)) (some w) := fun hstill =>
    Session.of_written (Written.updated hquery (hrests.update hown hkey hstill hupdate) hrewrites)
  rcases hstill with hholds | ⟨hlookup, hcopies | hne⟩
  · exact hpending (Or.inl hholds)
  · by_cases hne : w = r
    · -- nothing is written
      subst hne
      rw [LockTable.update, visible_of_own_eq_nil hown, if_pos hlookup,
        Option.some.injEq] at hupdate
      subst hupdate
      exact Session.of_written (Written.copied hcopies hown)
    · exact hpending (Or.inr ⟨hlookup, hne⟩)
  · exact hpending (Or.inr ⟨hlookup, hne⟩)

end Sessions

end Operations

end LockTable
