/-
**`encodeURIComponent` and `decodeURIComponent`.**

Encoding escapes the bytes of every character outside a small set.  Decoding reads an escape as a
byte, joins the bytes of a character, and fails on an escape that is no byte and on bytes that are
no character.  Every escape that is decoded makes a text shorter, so decoding changes nothing in a
text exactly when no percent sign is in it.

Main definitions:

* `Uri.encodeURIComponent`, `Uri.decodeURIComponent`.

Main results:

* `Uri.decodeURIComponent_of_not_mem` — a text without percent signs is decoded to itself;
* `Uri.length_lt_of_decodeURIComponent` — **a text with percent signs is decoded to a shorter one**,
  if it is decoded at all.
-/

import Vckit.Url

set_option relaxedAutoImplicit false
set_option autoImplicit false

namespace Uri

/-! ### Encoding -/

/-- The characters that are not escaped. -/
def isComponentChar (c : Char) : Bool := c.isAlphanum || "-_.!~*'()".toList.contains c

/-- `encodeURIComponent`. -/
def encodeURIComponent (s : Text) : Text := Url.percentEncode (fun c => !isComponentChar c) s

theorem encodeURIComponent_append (s t : Text) :
    encodeURIComponent (s ++ t) = encodeURIComponent s ++ encodeURIComponent t :=
  Url.percentEncode_append s t

theorem encodeURIComponent_of_forall {s : Text} (h : ∀ c ∈ s, isComponentChar c) :
    encodeURIComponent s = s :=
  Url.percentEncode_of_forall fun c hc => by rw [h c hc, Bool.not_true]

/-! ### Decoding -/

/-- The value of a hexadecimal digit. -/
def hexValue (c : Char) : Option ℕ :=
  if 48 ≤ c.toNat ∧ c.toNat ≤ 57 then some (c.toNat - 48)
  else if 65 ≤ c.toNat ∧ c.toNat ≤ 70 then some (c.toNat - 55)
  else if 97 ≤ c.toNat ∧ c.toNat ≤ 102 then some (c.toNat - 87)
  else none

/-- The byte of an escape. -/
def hexByte (a b : Char) : Option ℕ := do
  let high ← hexValue a
  let low ← hexValue b
  return 16 * high + low

/-- A character of which bytes are missing: how many, the value of those that were read, and the
least value that takes so many bytes. -/
structure Pending where
  missing : ℕ
  value : ℕ
  least : ℕ

/-- The first byte of a character. -/
def firstByte (n : ℕ) : Option (Char ⊕ Pending) :=
  if n < 0x80 then some (.inl (Char.ofNat n))
  else if n < 0xc0 then none
  else if n < 0xe0 then some (.inr ⟨1, n % 32, 0x80⟩)
  else if n < 0xf0 then some (.inr ⟨2, n % 16, 0x800⟩)
  else if n < 0xf8 then some (.inr ⟨3, n % 8, 0x10000⟩)
  else none

/-- A further byte of a character.  A value that takes fewer bytes is refused, and so is a
surrogate. -/
def nextByte (pending : Pending) (n : ℕ) : Option (Char ⊕ Pending) :=
  let value := pending.value * 64 + n % 64
  if n < 0x80 ∨ 0xc0 ≤ n then none
  else if pending.missing ≠ 1 then some (.inr ⟨pending.missing - 1, value, pending.least⟩)
  else if pending.least ≤ value ∧ value.isValidChar then some (.inl (Char.ofNat value))
  else none

/-- The loop of `decodeURIComponent`. -/
def decodeGo (pending : Option Pending) : Text → Option Text
  | [] => if pending.isNone then some [] else none
  | c :: s =>
      if c = '%' then
        match s with
        | a :: b :: rest => do
            let n ← hexByte a b
            match ← pending.elim (firstByte n) fun pending => nextByte pending n with
            | .inl d => (d :: ·) <$> decodeGo none rest
            | .inr pending => decodeGo (some pending) rest
        | _ => none
      else if pending.isNone then (c :: ·) <$> decodeGo none s
      else none

/-- `decodeURIComponent`; `none` for a `URIError`. -/
def decodeURIComponent (s : Text) : Option Text := decodeGo none s

example : decodeURIComponent "a%20%C3%bc%e2%82%AC".toList = some "a ü€".toList := by decide +kernel

example : decodeURIComponent "%C0%AF".toList = none := by decide +kernel

theorem decodeGo_char {c : Char} (hc : c ≠ '%') (pending : Option Pending) (s : Text) :
    decodeGo pending (c :: s) =
      if pending.isNone then (c :: ·) <$> decodeGo none s else none := by
  rcases s with _ | ⟨a, _ | ⟨b, rest⟩⟩ <;> simp [decodeGo, hc]

theorem decodeGo_escape (pending : Option Pending) (a b : Char) (rest : Text) :
    decodeGo pending ('%' :: a :: b :: rest) = (do
      let n ← hexByte a b
      match ← pending.elim (firstByte n) fun pending => nextByte pending n with
      | .inl d => (d :: ·) <$> decodeGo none rest
      | .inr pending => decodeGo (some pending) rest) := by
  rw [decodeGo, if_pos rfl]

/-- **A text without percent signs is decoded to itself.** -/
theorem decodeURIComponent_of_not_mem {s : Text} (h : '%' ∉ s) :
    decodeURIComponent s = some s := by
  rw [decodeURIComponent]
  induction s with
  | nil => rfl
  | cons c s ih =>
      rw [List.mem_cons, not_or] at h
      rw [decodeGo_char (Ne.symm h.1), if_pos Option.isNone_none, ih h.2]
      rfl

/-- Every escape that is decoded makes the text shorter. -/
theorem length_of_decodeGo : ∀ {s t : Text} {pending : Option Pending},
    decodeGo pending s = some t → t.length ≤ s.length ∧ ('%' ∈ s → t.length < s.length)
  | [], t, pending, h => by
      rw [decodeGo] at h
      split_ifs at h
      obtain rfl := Option.some.inj h
      simp
  | c :: s, t, pending, h => by
      by_cases hc : c = '%'
      · subst hc
        match s, h with
        | [], h => simp [decodeGo] at h
        | [a], h => simp [decodeGo] at h
        | a :: b :: rest, h =>
            rw [decodeGo_escape] at h
            obtain ⟨n, -, h⟩ := Option.bind_eq_some_iff.1 h
            obtain ⟨next, -, h⟩ := Option.bind_eq_some_iff.1 h
            cases next with
            | inl d =>
                obtain ⟨u, hu, rfl⟩ := Option.map_eq_some_iff.1 h
                have hlength := (length_of_decodeGo hu).1
                simp only [List.length_cons]
                omega
            | inr pending =>
                have hlength := (length_of_decodeGo h).1
                simp only [List.length_cons]
                omega
      · rw [decodeGo_char hc] at h
        split_ifs at h
        obtain ⟨u, hu, rfl⟩ := Option.map_eq_some_iff.1 h
        obtain ⟨hle, hlt⟩ := length_of_decodeGo hu
        simp only [List.length_cons, List.mem_cons]
        refine ⟨by omega, ?_⟩
        rintro (rfl | hmem)
        · exact absurd rfl hc
        · have := hlt hmem
          omega

/-- **A text with percent signs is decoded to a shorter one.** -/
theorem length_lt_of_decodeURIComponent {s t : Text} (hmem : '%' ∈ s)
    (h : decodeURIComponent s = some t) : t.length < s.length :=
  (length_of_decodeGo h).2 hmem

end Uri
