/-
**Two counters that roll over.**

Slots are handed out page by page: the next slot of the page while it has one, else slot zero of
the next page.  The length of a page is chosen anew with every slot handed out, and asking for a
length other than the one in force closes the page as well.  Nothing here depends on what the
slots are used for.

Main definitions:

* `RollingCounter.next` — the pair `(page, slot)` after a pair, for the length in force and the
  length asked for;
* `RollingCounter.nth` — the `k`-th pair handed out, for the lengths asked for.

Main results:

* `RollingCounter.lt_next`, `RollingCounter.strictMono_nth` — **no pair is handed out twice**:
  the pairs increase lexicographically;
* `RollingCounter.snd_nth_lt` — a slot lies inside its page;
* `RollingCounter.fst_nth_succ_ne_iff` — a page is closed exactly when it is full or another
  length is asked for;
* `RollingCounter.nth_const` — for one length throughout, pair `k` is `(k / len, k % len)`.
-/

import Mathlib.Data.Prod.Lex
import Mathlib.Order.Monotone.Basic
import Mathlib.Tactic.Common

set_option relaxedAutoImplicit false
set_option autoImplicit false

namespace RollingCounter

/-- The pair handed out after `c`: `len` is the length of the page of `c`, `len'` the length asked
for now. -/
def next (len len' : ℕ) (c : ℕ × ℕ) : ℕ × ℕ :=
  if len' ≠ len ∨ len ≤ c.2 + 1 then (c.1 + 1, 0) else (c.1, c.2 + 1)

theorem next_of_full {len len' : ℕ} {c : ℕ × ℕ} (h : len' ≠ len ∨ len ≤ c.2 + 1) :
    next len len' c = (c.1 + 1, 0) := if_pos h

theorem next_of_room {len len' : ℕ} {c : ℕ × ℕ} (h : ¬ (len' ≠ len ∨ len ≤ c.2 + 1)) :
    next len len' c = (c.1, c.2 + 1) := if_neg h

/-- **The next pair is larger.** -/
theorem lt_next (len len' : ℕ) (c : ℕ × ℕ) : toLex c < toLex (next len len' c) := by
  rw [Prod.Lex.toLex_lt_toLex]
  by_cases h : len' ≠ len ∨ len ≤ c.2 + 1
  · rw [next_of_full h]
    exact Or.inl (Nat.lt_succ_self _)
  · rw [next_of_room h]
    exact Or.inr ⟨rfl, Nat.lt_succ_self _⟩

/-- The slot handed out lies inside the page of the length asked for. -/
theorem snd_next_lt (len : ℕ) {len' : ℕ} (hlen' : 0 < len') (c : ℕ × ℕ) :
    (next len len' c).2 < len' := by
  by_cases h : len' ≠ len ∨ len ≤ c.2 + 1
  · rw [next_of_full h]
    exact hlen'
  · rw [next_of_room h]
    push Not at h
    obtain ⟨rfl, hroom⟩ := h
    exact hroom

/-- The `k`-th pair handed out when `len k` is the length asked for with it. -/
def nth (len : ℕ → ℕ) : ℕ → ℕ × ℕ
  | 0 => (0, 0)
  | k + 1 => next (len k) (len (k + 1)) (nth len k)

/-- **The pairs increase lexicographically.** -/
theorem strictMono_nth (len : ℕ → ℕ) : StrictMono fun k => toLex (nth len k) :=
  strictMono_nat_of_lt_succ fun _ => lt_next _ _ _

theorem snd_nth_lt {len : ℕ → ℕ} {k : ℕ} (hk : 0 < len k) : (nth len k).2 < len k := by
  cases k with
  | zero => exact hk
  | succ k => exact snd_next_lt _ hk _

/-- **A page is closed exactly when it is full or another length is asked for.** -/
theorem fst_nth_succ_ne_iff {len : ℕ → ℕ} {k : ℕ} (hk : 0 < len k) :
    (nth len (k + 1)).1 ≠ (nth len k).1 ↔ (nth len k).2 + 1 = len k ∨ len (k + 1) ≠ len k := by
  have hlt := snd_nth_lt hk
  rw [nth]
  by_cases h : len (k + 1) ≠ len k ∨ len k ≤ (nth len k).2 + 1
  · rw [next_of_full h]
    refine iff_of_true (Nat.succ_ne_self _) ?_
    rcases h with h | h
    · exact Or.inr h
    · exact Or.inl (by omega)
  · rw [next_of_room h]
    push Not at h
    refine iff_of_false (fun hne => hne rfl) ?_
    rintro (hfull | hne)
    · omega
    · exact hne h.1

/-- Within a page the slots are consecutive, and a new page starts at slot zero. -/
theorem nth_succ (len : ℕ → ℕ) (k : ℕ) :
    nth len (k + 1) = ((nth len k).1, (nth len k).2 + 1) ∨
      nth len (k + 1) = ((nth len k).1 + 1, 0) := by
  by_cases h : len (k + 1) ≠ len k ∨ len k ≤ (nth len k).2 + 1
  · exact Or.inr (next_of_full h)
  · exact Or.inl (next_of_room h)

/-- The first `k` pairs depend on the lengths asked for with them only. -/
theorem nth_congr {len len' : ℕ → ℕ} {k : ℕ} (h : ∀ j ≤ k, len j = len' j) :
    nth len k = nth len' k := by
  induction k with
  | zero => rfl
  | succ k ih =>
      rw [nth, nth, ih fun j hj => h j (by omega), h k (by omega), h (k + 1) le_rfl]

/-- **One length throughout**: pair `k` is the quotient and the remainder of `k`. -/
theorem nth_const {len : ℕ} (hlen : 0 < len) (k : ℕ) :
    nth (fun _ => len) k = (k / len, k % len) := by
  induction k with
  | zero => simp [nth]
  | succ k ih =>
      have hmod := Nat.mod_lt k hlen
      have hdiv := Nat.div_add_mod k len
      rw [nth, ih]
      by_cases h : len ≤ k % len + 1
      · -- the page is full: `k + 1` is a multiple of the length
        have hk : (k + 1) / len = k / len + 1 ∧ (k + 1) % len = 0 :=
          (Nat.div_mod_unique hlen).2 ⟨by rw [Nat.mul_succ]; omega, hlen⟩
        rw [next_of_full (Or.inr h), hk.1, hk.2]
      · have hk : (k + 1) / len = k / len ∧ (k + 1) % len = k % len + 1 :=
          (Nat.div_mod_unique hlen).2 ⟨by omega, by omega⟩
        rw [next_of_room (by tauto), hk.1, hk.2]

end RollingCounter
