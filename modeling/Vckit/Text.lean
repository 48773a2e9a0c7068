/-
**Strings and errors as TypeScript code handles them.**

A string is its list of characters.  The operations are the ones of the language's standard
library that programs call on strings they store or parse: `split` by a separator, `replaceAll`
of one character, `includes`, and the decimal rendering of a counter inside a template literal.
An error is its name and its message; `throw new Error(err)` turns both into a new message.

Main definitions:

* `Text.split` — `String.prototype.split` with a string separator;
* `Text.replaceAll` — `String.prototype.replaceAll` with one-character arguments;
* `Text.includes` — `String.prototype.includes`;
* `Text.ofNat` — a natural number inside a template literal;
* `JsError`, `JsError.rewrap` — an error, and `new Error(err)`.

Main results:

* `Text.split_self_append` — a separator followed by a text in which one of its characters does
  not occur splits into the empty string and that text;
* `Text.ofNat_injective` — different counters are rendered differently;
* `Text.append_sep_ofNat_inj` — a text, a separator that is no digit, and a counter can be read
  back from their concatenation;
* `Text.replaceAll_eq_iff` — two texts are identified by `replaceAll` exactly when they have the
  same length and differ only in places where each holds one of the two characters.
-/

import Mathlib.Data.List.Basic
import Mathlib.Data.List.Forall2
import Mathlib.Data.List.Infix
import Mathlib.Tactic.Common

set_option relaxedAutoImplicit false
set_option autoImplicit false

/-- A string, as the list of its characters. -/
abbrev Text := List Char

namespace Text

/-- Comparing texts decides their equality. -/
instance instLawfulBEqText : LawfulBEq Text := inferInstance

/-! ### Splitting -/

/-- The loop of `split`: `skip` characters of the last separator found are still to be passed
over, and `acc` holds the current piece in reverse. -/
def splitGo (sep : Text) : ℕ → Text → Text → List Text
  | _, acc, [] => [acc.reverse]
  | skip + 1, acc, _ :: cs => splitGo sep skip acc cs
  | 0, acc, c :: cs =>
      if sep <+: c :: cs then acc.reverse :: splitGo sep (sep.length - 1) [] cs
      else splitGo sep 0 (c :: acc) cs

/-- `s.split(sep)`.  The empty separator cuts the string into its characters. -/
def split (s sep : Text) : List Text :=
  if sep = [] then s.map fun c => [c] else splitGo sep 0 [] s

/-- The characters of the separator are passed over. -/
theorem splitGo_skip (sep acc t : Text) :
    ∀ u : Text, splitGo sep u.length acc (u ++ t) = splitGo sep 0 acc t := by
  intro u
  induction u with
  | nil => rfl
  | cons c u ih => simpa [splitGo] using ih

/-- A text that misses a character of the separator is not cut. -/
theorem splitGo_of_not_mem {sep : Text} {c : Char} (hc : c ∈ sep) :
    ∀ (t acc : Text), c ∉ t → splitGo sep 0 acc t = [acc.reverse ++ t] := by
  intro t
  induction t with
  | nil => intro acc _; simp [splitGo]
  | cons d t ih =>
      intro acc ht
      have hpre : ¬ sep <+: d :: t := fun h => ht (h.subset hc)
      rw [splitGo, if_neg hpre, ih (d :: acc) (fun h => ht (List.mem_cons_of_mem d h))]
      simp

/-- **A separator followed by a text that misses one of its characters** splits into the empty
string and that text. -/
theorem split_self_append {sep t : Text} {c : Char} (hc : c ∈ sep) (ht : c ∉ t) :
    split (sep ++ t) sep = [[], t] := by
  obtain ⟨d, u, rfl⟩ : ∃ d u, sep = d :: u := by
    cases sep with
    | nil => simp at hc
    | cons d u => exact ⟨d, u, rfl⟩
  have hpre : (d :: u) <+: d :: (u ++ t) := List.prefix_append (d :: u) t
  have hlen : (d :: u).length - 1 = u.length := by simp
  rw [split, if_neg (by simp), List.cons_append, splitGo, if_pos hpre, hlen, splitGo_skip,
    splitGo_of_not_mem hc t [] ht]
  simp

/-- A text that misses the separator is one piece. -/
theorem split_of_not_mem {c : Char} {t : Text} (h : c ∉ t) : split t [c] = [t] :=
  splitGo_of_not_mem (List.mem_singleton.2 rfl) t [] h

/-- **The pieces before and after a separator.** -/
theorem split_append_cons (c : Char) (s t : Text) :
    split (s ++ c :: t) [c] = split s [c] ++ split t [c] := by
  have hgo : ∀ acc,
      splitGo [c] 0 acc (s ++ c :: t) = splitGo [c] 0 acc s ++ splitGo [c] 0 [] t := by
    induction s with
    | nil =>
        intro acc
        have hsep : [c] <+: c :: t := List.cons_prefix_cons.2 ⟨rfl, List.nil_prefix⟩
        simp only [List.nil_append, splitGo, if_pos hsep]
        rfl
    | cons d s ih =>
        intro acc
        by_cases hd : [c] <+: d :: (s ++ c :: t)
        · have hd' : [c] <+: d :: s :=
            List.cons_prefix_cons.2 ⟨(List.cons_prefix_cons.1 hd).1, List.nil_prefix⟩
          rw [List.cons_append, splitGo, if_pos hd, splitGo, if_pos hd', List.cons_append]
          exact congrArg _ (ih [])
        · have hd' : ¬[c] <+: d :: s := fun h => hd
            (List.cons_prefix_cons.2 ⟨(List.cons_prefix_cons.1 h).1, List.nil_prefix⟩)
          rw [List.cons_append, splitGo, if_neg hd, splitGo, if_neg hd', ih]
  exact hgo []

theorem splitGo_ne_nil (sep : Text) : ∀ (t : Text) (skip : ℕ) (acc : Text),
    splitGo sep skip acc t ≠ [] := by
  intro t
  induction t with
  | nil =>
      intro skip acc
      cases skip <;> exact List.cons_ne_nil _ _
  | cons c t ih =>
      intro skip acc
      cases skip with
      | succ skip => exact ih skip acc
      | zero =>
          rw [splitGo]
          split_ifs
          · exact List.cons_ne_nil _ _
          · exact ih 0 _

theorem split_singleton_ne_nil (c : Char) (t : Text) : split t [c] ≠ [] := splitGo_ne_nil [c] t 0 []

/-! ### Replacing a character -/

/-- One character of `s.replaceAll(a, b)`. -/
def replaceChar (a b c : Char) : Char := if c = a then b else c

/-- `s.replaceAll(a, b)` for one-character `a` and `b`. -/
def replaceAll (a b : Char) (s : Text) : Text := s.map (replaceChar a b)

theorem not_mem_replaceAll {a b : Char} (hab : b ≠ a) (s : Text) : a ∉ replaceAll a b s := by
  intro h
  obtain ⟨c, -, hc⟩ := List.mem_map.1 h
  by_cases hca : c = a <;> simp_all [replaceChar]

theorem replaceChar_eq_iff {a b c d : Char} :
    replaceChar a b c = replaceChar a b d ↔ c = d ∨ ((c = a ∨ c = b) ∧ (d = a ∨ d = b)) := by
  unfold replaceChar
  by_cases hc : c = a <;> by_cases hd : d = a <;> simp [hc, hd] <;> grind

/-- **What `replaceAll` identifies**: texts of one length that differ only where each of them
holds one of the two characters. -/
theorem replaceAll_eq_iff {a b : Char} {s t : Text} :
    replaceAll a b s = replaceAll a b t ↔
      List.Forall₂ (fun c d => c = d ∨ ((c = a ∨ c = b) ∧ (d = a ∨ d = b))) s t := by
  induction s generalizing t with
  | nil => cases t <;> simp [replaceAll, List.forall₂_nil_left_iff]
  | cons c s ih =>
      cases t with
      | nil => simp [replaceAll, List.forall₂_nil_right_iff]
      | cons d t =>
          have ih' := @ih t
          simp only [replaceAll, List.map_cons, List.cons.injEq, List.forall₂_cons] at ih' ⊢
          rw [ih', replaceChar_eq_iff]

/-! ### Searching -/

/-- `s.includes(t)`. -/
def includes (s t : Text) : Bool := decide (t <:+: s)

/-! ### Counters -/

/-- A natural number inside a template literal. -/
def ofNat (n : ℕ) : Text := Nat.toDigits 10 n

theorem ofNat_ne_nil (n : ℕ) : ofNat n ≠ [] := Nat.toDigits_ne_nil

theorem ofNat_injective : Function.Injective ofNat := by
  intro m n h
  have hm : Nat.ofDigitChars 10 (ofNat m) 0 = m := Nat.ofDigitChars_ten_toDigits
  have hn : Nat.ofDigitChars 10 (ofNat n) 0 = n := Nat.ofDigitChars_ten_toDigits
  rw [← hm, ← hn, h]

/-- The rendering of a counter holds digits only. -/
theorem not_mem_ofNat {c : Char} (hc : c.isDigit = false) (n : ℕ) : c ∉ ofNat n := by
  intro h
  have := Nat.isDigit_of_mem_toDigits (by omega) (by omega) h
  simp [hc] at this

/-- Two texts cut at the first occurrence of one character. -/
theorem append_cons_inj {c : Char} {s t : Text} :
    ∀ {u v : Text}, c ∉ u → c ∉ v → u ++ c :: s = v ++ c :: t → u = v ∧ s = t := by
  intro u
  induction u with
  | nil =>
      intro v _ hv h
      cases v with
      | nil => simpa using h
      | cons d v =>
          simp only [List.nil_append, List.cons_append, List.cons.injEq] at h
          exact absurd (h.1 ▸ List.mem_cons_self) hv
  | cons e u ih =>
      intro v hu hv h
      cases v with
      | nil =>
          simp only [List.nil_append, List.cons_append, List.cons.injEq] at h
          exact absurd (h.1 ▸ List.mem_cons_self) hu
      | cons d v =>
          simp only [List.mem_cons, not_or] at hu hv
          simp only [List.cons_append, List.cons.injEq] at h
          obtain ⟨huv, hst⟩ := ih hu.2 hv.2 h.2
          exact ⟨by rw [h.1, huv], hst⟩

/-- Two texts cut at the last occurrence of one character. -/
theorem append_cons_inj_last {c : Char} {s t u v : Text} (hs : c ∉ s) (ht : c ∉ t)
    (h : u ++ c :: s = v ++ c :: t) : u = v ∧ s = t := by
  have hreverse : s.reverse ++ c :: u.reverse = t.reverse ++ c :: v.reverse := by
    simpa using congrArg List.reverse h
  have hs' : c ∉ s.reverse := by rwa [List.mem_reverse]
  have ht' : c ∉ t.reverse := by rwa [List.mem_reverse]
  obtain ⟨hst, huv⟩ := append_cons_inj hs' ht' hreverse
  exact ⟨List.reverse_injective huv, List.reverse_injective hst⟩

/-- A text and a counter can be read back when a character that is no digit separates them. -/
theorem append_sep_ofNat_inj {c : Char} (hc : c.isDigit = false) {s t : Text} {m n : ℕ} :
    s ++ c :: ofNat m = t ++ c :: ofNat n ↔ s = t ∧ m = n := by
  constructor
  · intro h
    have hr : (ofNat m).reverse ++ c :: s.reverse = (ofNat n).reverse ++ c :: t.reverse := by
      simpa using congrArg List.reverse h
    have hm : c ∉ (ofNat m).reverse := by simpa using not_mem_ofNat hc m
    have hn : c ∉ (ofNat n).reverse := by simpa using not_mem_ofNat hc n
    obtain ⟨hdig, htext⟩ := append_cons_inj hm hn hr
    exact ⟨List.reverse_injective htext, ofNat_injective (List.reverse_injective hdig)⟩
  · rintro ⟨rfl, rfl⟩; rfl

end Text

/-! ### Errors -/

/-- An error object: its `name` and its `message`. -/
structure JsError where
  name : Text
  message : Text
  deriving DecidableEq

namespace JsError

/-- `new Error(message)`. -/
def ofMessage (message : Text) : JsError := ⟨"Error".toList, message⟩

/-- `Error.prototype.toString`. -/
def toText (e : JsError) : Text :=
  if e.name = [] then e.message
  else if e.message = [] then e.name
  else e.name ++ ": ".toList ++ e.message

/-- `new Error(err)`: the message is the string the error converts to. -/
def rewrap (e : JsError) : JsError := ofMessage e.toText

@[simp] theorem message_ofMessage (m : Text) : (ofMessage m).message = m := rfl

end JsError
