/-
**Decentralized identifiers.**

A DID is `did:`, the name of a method, and an identifier of that method, in which colons separate
parts of letters, digits, a few marks and percent escapes.

Main definitions:

* `Did.IdChars`, `Did.IsDid` — the syntax.

Main results:

* `Did.IsDid.isDidChar` — the characters that occur in a DID.
-/

import Vckit.Text

set_option relaxedAutoImplicit false
set_option autoImplicit false

namespace Did

/-- A character of a method name. -/
def isMethodChar (c : Char) : Bool := c.isLower || c.isDigit

/-- A character of an identifier that is not escaped. -/
def isIdChar (c : Char) : Bool := c.isAlphanum || c = '.' || c = '-' || c = '_'

/-- A hexadecimal digit. -/
def isHexDigit (c : Char) : Bool := c.isDigit || "abcdefABCDEF".toList.contains c

/-- A run of characters, escaped or not. -/
inductive IdChars : Text → Prop
  | nil : IdChars []
  | char {c : Char} {s : Text} (hc : isIdChar c) (hs : IdChars s) : IdChars (c :: s)
  | escape {a b : Char} {s : Text} (ha : isHexDigit a) (hb : isHexDigit b) (hs : IdChars s) :
      IdChars ('%' :: a :: b :: s)

/-- `did:method:id`, where the identifier may hold colons but does not end with one. -/
inductive IsDid : Text → Prop
  | mk {method last : Text} {ids : List Text} (hmethod : method ≠ [])
      (hmethodChars : ∀ c ∈ method, isMethodChar c) (hids : ∀ id ∈ ids, IdChars id)
      (hlast : IdChars last) (hne : last ≠ []) :
      IsDid ("did:".toList ++ method ++ ':' :: (ids.flatMap (fun id => id ++ [':']) ++ last))

/-- The characters that occur in a DID. -/
def isDidChar (c : Char) : Bool := isIdChar c || c = ':' || c = '%'

theorem isIdChar_of_isMethodChar {c : Char} (h : isMethodChar c) : isIdChar c := by
  have halphanum : (c.isUpper || c.isLower || c.isDigit) = true := by
    rw [isMethodChar] at h
    rw [Bool.or_assoc, h, Bool.or_true]
  have hmethod : c.isAlphanum = true := halphanum
  simp [isIdChar, hmethod]

theorem isIdChar_of_isHexDigit {c : Char} (h : isHexDigit c) : isIdChar c := by
  rw [isHexDigit, Bool.or_eq_true, List.contains_iff_mem] at h
  rcases h with h | h
  · simp [isIdChar, Char.isAlphanum, h]
  · have hall : "abcdefABCDEF".toList.all isIdChar = true := rfl
    exact List.all_eq_true.1 hall c h

theorem isDidChar_of_isIdChar {c : Char} (h : isIdChar c) : isDidChar c := by
  simp [isDidChar, h]

theorem IdChars.isDidChar {s : Text} (h : IdChars s) : ∀ c ∈ s, isDidChar c := by
  induction h with
  | nil => simp
  | char hc _ ih =>
      intro d hd
      rcases List.mem_cons.1 hd with rfl | hd
      · exact isDidChar_of_isIdChar hc
      · exact ih d hd
  | escape ha hb _ ih =>
      intro d hd
      simp only [List.mem_cons] at hd
      rcases hd with rfl | rfl | rfl | hd
      · decide
      · exact isDidChar_of_isIdChar (isIdChar_of_isHexDigit ha)
      · exact isDidChar_of_isIdChar (isIdChar_of_isHexDigit hb)
      · exact ih d hd

theorem IsDid.isDidChar {did : Text} (h : IsDid did) : ∀ c ∈ did, isDidChar c := by
  cases h with
  | @mk method last ids _ hmethodChars hids hlast _ =>
      intro c hc
      simp only [List.mem_append, List.mem_cons, List.mem_flatMap] at hc
      rcases hc with (hc | hc) | rfl | ⟨id, hid, hc⟩ | hc
      · have hall : "did:".toList.all Did.isDidChar = true := rfl
        exact List.all_eq_true.1 hall c hc
      · exact isDidChar_of_isIdChar (isIdChar_of_isMethodChar (hmethodChars c hc))
      · decide
      · rcases hc with hc | hc
        · exact (hids id hid).isDidChar c hc
        · simp only [List.not_mem_nil, or_false] at hc
          subst hc
          decide
      · exact hlast.isDidChar c hc

theorem IsDid.exists_cons {did : Text} (h : IsDid did) : ∃ s, did = 'd' :: s := by
  cases h
  exact ⟨_, rfl⟩

end Did
