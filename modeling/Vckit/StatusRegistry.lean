/-
**A registry of entries that can be revoked and activated again.**

What a revocation list is for, without lists, counters or bits: entries are handed out, no entry
twice; an entry is revoked when it is active, and activated when it is revoked.  Nothing is said of
what an entry is.

Main definitions:

* `StatusRegistry.Registry`, `StatusRegistry.Act`, `StatusRegistry.Step` — the registry, what it
  does, and when;
* `StatusRegistry.handed`, `StatusRegistry.changes` — the entries a run handed out, and the changes
  it made to one entry.

Main results:

* `StatusRegistry.handed_nodup`, `StatusRegistry.mem_handed_iff` — **no entry is handed out twice**,
  and the registry knows those that were;
* `StatusRegistry.changes_alternate` — **the changes of an entry alternate**, a revocation first;
* `StatusRegistry.mem_revoked_iff` — an entry is revoked when its last change was a revocation;
* `StatusRegistry.count_changes` — an active entry was activated as often as it was revoked.
-/

import Vckit.Simulation
import Mathlib.Data.Set.Insert
import Mathlib.Data.List.Chain

set_option relaxedAutoImplicit false
set_option autoImplicit false

namespace StatusRegistry

open Simulation

variable {E : Type*}

/-- The entries handed out, and those that are revoked. -/
@[ext] structure Registry (E : Type*) where
  handed : Set E
  revoked : Set E

/-- Nothing is handed out, and nothing is revoked. -/
def Registry.empty : Registry E := ⟨∅, ∅⟩

/-- What the registry does. -/
inductive Act (E : Type*) where
  /-- An entry is handed out. -/
  | hand (e : E)
  /-- An entry is revoked, or activated again. -/
  | change (e : E) (revoked : Bool)

/-- When it does it, and what follows. -/
inductive Step : Registry E → Act E → Registry E → Prop
  | hand {r : Registry E} {e : E} (hnew : e ∉ r.handed) :
      Step r (.hand e) { r with handed := insert e r.handed }
  | revoke {r : Registry E} {e : E} (hactive : e ∉ r.revoked) :
      Step r (.change e true) { r with revoked := insert e r.revoked }
  | activate {r : Registry E} {e : E} (hrevoked : e ∈ r.revoked) :
      Step r (.change e false) { r with revoked := r.revoked \ {e} }

/-- The entries that a run handed out, newest first. -/
def handed : List (Act E) → List E
  | [] => []
  | .hand e :: acts => e :: handed acts
  | .change _ _ :: acts => handed acts

@[simp] theorem handed_nil : handed ([] : List (Act E)) = [] := rfl

@[simp] theorem handed_hand (e : E) (acts : List (Act E)) :
    handed (.hand e :: acts) = e :: handed acts := rfl

@[simp] theorem handed_change (e : E) (b : Bool) (acts : List (Act E)) :
    handed (.change e b :: acts) = handed acts := rfl

/-- They are the ones that the run hands out. -/
theorem mem_handed {acts : List (Act E)} {e : E} : e ∈ handed acts ↔ .hand e ∈ acts := by
  induction acts with
  | nil => simp
  | cons act acts ih => cases act <;> simp [ih]

section Changes

variable [DecidableEq E]

/-- The changes that a run made to one entry, newest first. -/
def changes (e : E) : List (Act E) → List Bool
  | [] => []
  | .hand _ :: acts => changes e acts
  | .change e' revoked :: acts => if e' = e then revoked :: changes e acts else changes e acts

@[simp] theorem changes_nil (e : E) : changes e ([] : List (Act E)) = [] := rfl

@[simp] theorem changes_hand (e e' : E) (acts : List (Act E)) :
    changes e (.hand e' :: acts) = changes e acts := rfl

@[simp] theorem changes_change_self (e : E) (b : Bool) (acts : List (Act E)) :
    changes e (.change e b :: acts) = b :: changes e acts := if_pos rfl

theorem changes_change_of_ne {e e' : E} (h : e' ≠ e) (b : Bool) (acts : List (Act E)) :
    changes e (.change e' b :: acts) = changes e acts := if_neg h

end Changes

variable {acts : List (Act E)} {r : Registry E}

/-! ### What was handed out -/

/-- The registry knows the entries that were handed out. -/
theorem mem_handed_iff (hrun : Run Step Registry.empty acts r) {e : E} :
    e ∈ handed acts ↔ e ∈ r.handed := by
  induction hrun with
  | nil => simp [Registry.empty]
  | cons _ hstep ih =>
      cases hstep with
      | hand => simp [ih]
      | revoke => exact ih
      | activate => exact ih

/-- **No entry is handed out twice.** -/
theorem handed_nodup (hrun : Run Step Registry.empty acts r) : (handed acts).Nodup := by
  induction hrun with
  | nil => exact List.nodup_nil
  | cons hrun hstep ih =>
      cases hstep with
      | hand hnew => exact List.nodup_cons.2 ⟨fun hmem => hnew ((mem_handed_iff hrun).1 hmem), ih⟩
      | revoke => exact ih
      | activate => exact ih

/-! ### What was changed -/

variable [DecidableEq E]

/-- An entry is revoked when its last change was a revocation. -/
theorem mem_revoked_iff (hrun : Run Step Registry.empty acts r) (e : E) :
    e ∈ r.revoked ↔ (changes e acts).head? = some true := by
  induction hrun with
  | nil => simp [Registry.empty]
  | cons _ hstep ih =>
      cases hstep with
      | hand => exact ih
      | @revoke e' _ =>
          by_cases h : e' = e
          · subst h
            simp
          · rw [changes_change_of_ne h, ← ih, Set.mem_insert_iff]
            exact or_iff_right (Ne.symm h)
      | @activate e' _ =>
          by_cases h : e' = e
          · subst h
            simp
          · rw [changes_change_of_ne h, ← ih, Set.mem_sdiff, Set.mem_singleton_iff]
            exact and_iff_left (Ne.symm h)

/-- **The changes of an entry alternate**, a revocation first. -/
theorem changes_alternate (hrun : Run Step Registry.empty acts r) (e : E) :
    (changes e acts ++ [false]).IsChain (· ≠ ·) := by
  -- a change differs from the one before it
  have hcons : ∀ {acts : List (Act E)} {b : Bool},
      (changes e acts ++ [false]).IsChain (· ≠ ·) →
      ((changes e acts).head? = some true ↔ b = false) →
      (b :: changes e acts ++ [false]).IsChain (· ≠ ·) := by
    intro acts b hchain hhead
    cases hc : changes e acts with
    | nil =>
        rw [hc] at hhead
        cases b <;> simp_all
    | cons b' bs =>
        rw [hc] at hhead hchain
        refine List.IsChain.cons_cons ?_ hchain
        cases b <;> cases b' <;> simp_all
  induction hrun with
  | nil => simp
  | cons hrun hstep ih =>
      cases hstep with
      | hand => exact ih
      | @revoke e' hactive =>
          by_cases h : e' = e
          · subst h
            rw [changes_change_self]
            refine hcons ih ?_
            simpa [mem_revoked_iff hrun] using hactive
          · rwa [changes_change_of_ne h]
      | @activate e' hrevoked =>
          by_cases h : e' = e
          · subst h
            rw [changes_change_self]
            refine hcons ih ?_
            simpa [mem_revoked_iff hrun] using hrevoked
          · rwa [changes_change_of_ne h]

/-- **An active entry was activated as often as it was revoked**, and a revoked one once less. -/
theorem count_changes (hrun : Run Step Registry.empty acts r) (e : E) :
    (changes e acts).count true =
      (changes e acts).count false + if (changes e acts).head? = some true then 1 else 0 := by
  have hchain := changes_alternate hrun e
  generalize changes e acts = bs at hchain
  induction bs with
  | nil => simp
  | cons b bs ih =>
      have ih' := ih (List.IsChain.tail hchain)
      cases bs with
      | nil => cases b <;> simp_all
      | cons b' bs =>
          have hne : b ≠ b' := (List.isChain_cons_cons.1 hchain).1
          cases b <;> cases b' <;> simp_all

end StatusRegistry
