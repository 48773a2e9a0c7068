/-
**What is read from a text is not longer than the text.**

`Json.parse` takes at least as many characters for a string as `Json.quote` writes for it, and at
least two more for every field of an object: a colon, and a comma or a brace.  So the strings and
keys of a value that was read fit into the text it was read from.  A text that is too short for some
strings is the text of no value that holds them.

Main definitions:

* `Json.weight` — the characters that the strings of a value take at least, those of keys included.

Main results:

* `Json.weight_le_of_parse` — **a value that was read takes no more than its text**.
-/

import Vckit.Json

set_option relaxedAutoImplicit false
set_option autoImplicit false

namespace Json

variable {N : Type}

/-! ### Weights -/

mutual

/-- The characters that a value takes at least.  Only strings, and fields of objects, count. -/
def weight : Json N → ℕ
  | .str s => (quote s).length
  | .obj fields => 1 + weightFields fields
  | .null | .bool _ | .num _ | .arr _ => 0

/-- The characters that fields take at least, a colon and what follows the field included. -/
def weightFields : List (Text × Json N) → ℕ
  | [] => 0
  | (k, v) :: fields => (quote k).length + weight v + 2 + weightFields fields

end

/-- An assignment adds no more than its own field. -/
theorem weightFields_setField_le (k : Text) (v : Json N) (fields : List (Text × Json N)) :
    weightFields (setField k v fields) ≤
      (quote k).length + weight v + 2 + weightFields fields := by
  induction fields with
  | nil => simp [setField, weightFields]
  | cons field fields ih =>
      obtain ⟨k', v'⟩ := field
      rw [setField]
      split_ifs with hkey hbefore
      · simp only [weightFields]
        omega
      · simp only [weightFields]
        omega
      · simp only [weightFields]
        omega

theorem weightFields_ofAssignments_le (assignments : List (Text × Json N)) :
    weightFields (ofAssignments assignments) ≤ weightFields assignments := by
  have hfold : ∀ (later done : List (Text × Json N)),
      weightFields (later.foldl (fun fields a => setField a.1 a.2 fields) done) ≤
        weightFields later + weightFields done := by
    intro later
    induction later with
    | nil => intro done; simp [weightFields]
    | cons a later ih =>
        intro done
        obtain ⟨k, v⟩ := a
        have hlater := ih (setField k v done)
        have hset := weightFields_setField_le k v done
        rw [List.foldl_cons, weightFields]
        dsimp only
        omega
  have hassign := hfold assignments []
  rw [ofAssignments]
  rw [weightFields] at hassign
  omega

/-! ### Tokens -/

theorem length_of_dropToken {token text rest : Text} (h : dropToken token text = some rest) :
    rest.length + token.length = text.length := by
  rw [dropToken] at h
  split_ifs at h with hprefix
  obtain rfl := Option.some.inj h
  have hle := hprefix.length_le
  rw [List.length_drop]
  omega

theorem length_dropWhile_isBlank_le (text : Text) :
    (text.dropWhile isBlank).length ≤ text.length :=
  (List.dropWhile_sublist isBlank).length_le

theorem length_of_dropChar {c : Char} {text rest : Text} (h : dropChar c text = some rest) :
    rest.length + 1 ≤ text.length := by
  have htoken := length_of_dropToken h
  have hblank := length_dropWhile_isBlank_le text
  rw [List.length_singleton] at htoken
  omega

/-! ### Strings -/

theorem length_escapeChar_le (c : Char) : (escapeChar c).length ≤ 6 := by
  unfold escapeChar
  split_ifs <;> simp

/-- A character that may stand in a string is not escaped. -/
theorem escapeChar_of_plain {c : Char} (hquote : c ≠ '"') (hback : c ≠ '\\')
    (hcontrol : ¬c.toNat < 0x20) : escapeChar c = [c] := by
  have hne : ∀ {d : Char}, d.toNat < 0x20 → c ≠ d := by
    rintro d hd rfl
    exact hcontrol hd
  rw [escapeChar, if_neg (by simp [hquote, hback]), if_neg (hne (by decide)),
    if_neg (hne (by decide)), if_neg (hne (by decide)), if_neg (by omega), if_neg (by omega),
    if_neg hcontrol]

theorem length_of_readHex {text rest : Text} {u : ℕ} (h : readHex text = some (u, rest)) :
    rest.length + 4 = text.length := by
  rcases text with _ | ⟨a, _ | ⟨b, _ | ⟨c, _ | ⟨d, text⟩⟩⟩⟩
  · simp [readHex] at h
  · simp [readHex] at h
  · simp [readHex] at h
  · simp [readHex] at h
  · rw [readHex] at h
    obtain ⟨_, -, h⟩ := Option.bind_eq_some_iff.1 h
    obtain ⟨_, -, h⟩ := Option.bind_eq_some_iff.1 h
    obtain ⟨_, -, h⟩ := Option.bind_eq_some_iff.1 h
    obtain ⟨_, -, h⟩ := Option.bind_eq_some_iff.1 h
    rw [(Prod.mk.inj (Option.some.inj h)).2]
    rfl

theorem length_of_readUnicode {text rest : Text} {c : Char}
    (h : readUnicode text = some (c, rest)) : rest.length + 4 ≤ text.length := by
  rw [readUnicode] at h
  split at h
  · cases h
  · rename_i u later hhex
    have hlater := length_of_readHex hhex
    split_ifs at h with hplain
    · rw [← (Prod.mk.inj (Option.some.inj h)).2]
      omega
    · split at h
      · rename_i second
        split at h
        · cases h
        · rename_i v last hhex'
          have hlast := length_of_readHex hhex'
          split_ifs at h with hpair
          rw [← (Prod.mk.inj (Option.some.inj h)).2]
          simp only [List.length_cons] at hlater
          omega
      · cases h

/-- An escape is not shorter than the one that is written for its character. -/
theorem length_of_readEscape {text rest : Text} {c : Char}
    (h : readEscape text = some (c, rest)) :
    (escapeChar c).length + rest.length ≤ text.length + 1 := by
  cases text with
  | nil => simp [readEscape] at h
  | cons d text =>
      have hshort : ∀ {e : Char}, (escapeChar e).length ≤ 2 → some (e, text) = some (c, rest) →
          (escapeChar c).length + rest.length ≤ (d :: text).length + 1 := by
        intro e he heq
        obtain ⟨rfl, rfl⟩ := Prod.mk.inj (Option.some.inj heq)
        rw [List.length_cons]
        omega
      rw [readEscape] at h
      split_ifs at h with hu hself hn hr ht hb hf
      · have hlength := length_of_readUnicode h
        have hsix := length_escapeChar_le c
        rw [List.length_cons]
        omega
      · refine hshort ?_ h
        rcases hself with rfl | rfl | rfl <;> decide
      · exact hshort (by decide) h
      · exact hshort (by decide) h
      · exact hshort (by decide) h
      · exact hshort (by decide) h
      · exact hshort (by decide) h

/-- **A string takes no fewer characters than are written for it**; its opening quote is not in
the text. -/
theorem length_of_parseChars {fuel : ℕ} {text s rest : Text}
    (h : parseChars fuel text = some (s, rest)) :
    (quote s).length + rest.length ≤ text.length + 1 := by
  induction fuel generalizing text s with
  | zero => simp [parseChars] at h
  | succ fuel ih =>
      have hcons : ∀ {later : Text} {d : Char},
          (parseChars fuel later).map (fun p => (d :: p.1, p.2)) = some (s, rest) →
          (quote s).length + rest.length ≤ (escapeChar d).length + later.length + 1 := by
        intro later d hmap
        obtain ⟨p, hp, heq⟩ := Option.map_eq_some_iff.1 hmap
        obtain ⟨rfl, rfl⟩ := Prod.mk.inj heq
        have hlater := ih hp
        simp only [quote, List.length_cons, List.flatMap_cons, List.length_append] at hlater ⊢
        omega
      cases text with
      | nil => simp [parseChars] at h
      | cons c text =>
          rw [parseChars] at h
          split_ifs at h with hquote hback hcontrol
          · obtain ⟨rfl, rfl⟩ := Prod.mk.inj (Option.some.inj h)
            simp [quote]
            omega
          · split at h
            · cases h
            · rename_i d later hescape
              have hd := length_of_readEscape hescape
              have hs := hcons h
              rw [List.length_cons]
              omega
          · have hs := hcons h
            rw [escapeChar_of_plain hquote hback hcontrol] at hs
            simp only [List.length_cons, List.length_nil] at hs ⊢
            omega

/-! ### Values -/

section Text

variable [JsonNumber N]

mutual

theorem length_of_parseValue : ∀ {fuel : ℕ} {text rest : Text} {j : Json N},
    parseValue fuel text = some (j, rest) → weight j + rest.length ≤ text.length
  | 0, text, rest, j, h => by simp [parseValue] at h
  | fuel + 1, text, rest, j, h => by
      have hblank := length_dropWhile_isBlank_le text
      rw [parseValue] at h
      split at h
      · cases h
      · rename_i c later hlater
        rw [hlater, List.length_cons] at hblank
        have hliteral : ∀ {token : Text} {v : Json N}, weight v = 0 →
            (dropToken token later).map (fun rest => (v, rest)) = some (j, rest) →
            weight j + rest.length ≤ text.length := by
          intro token v hv hmap
          obtain ⟨t, ht, heq⟩ := Option.map_eq_some_iff.1 hmap
          obtain ⟨rfl, rfl⟩ := Prod.mk.inj heq
          have htoken := length_of_dropToken ht
          omega
        split_ifs at h with hstr harr hobj hnull htrue hfalse
        · obtain ⟨p, hp, heq⟩ := Option.map_eq_some_iff.1 h
          obtain ⟨rfl, rfl⟩ := Prod.mk.inj heq
          have hchars := length_of_parseChars hp
          rw [weight]
          omega
        · obtain ⟨p, hp, heq⟩ := Option.map_eq_some_iff.1 h
          obtain ⟨rfl, rfl⟩ := Prod.mk.inj heq
          have hitems := length_of_parseItems hp
          rw [weight]
          omega
        · obtain ⟨p, hp, heq⟩ := Option.map_eq_some_iff.1 h
          obtain ⟨rfl, rfl⟩ := Prod.mk.inj heq
          have hfields := length_of_parseFields hp
          have hassign := weightFields_ofAssignments_le p.1
          rw [weight]
          omega
        · exact hliteral (by rw [weight]) h
        · exact hliteral (by rw [weight]) h
        · exact hliteral (by rw [weight]) h
        · obtain ⟨n, -, heq⟩ := Option.map_eq_some_iff.1 h
          obtain ⟨rfl, rfl⟩ := Prod.mk.inj heq
          have hdrop := (List.dropWhile_sublist isNumberChar (l := c :: later)).length_le
          rw [List.length_cons] at hdrop
          rw [weight]
          omega

theorem length_of_parseItems : ∀ {fuel : ℕ} {first : Bool} {text rest : Text}
    {items : List (Json N)},
    parseItems fuel first text = some (items, rest) → rest.length ≤ text.length
  | 0, first, text, rest, items, h => by simp [parseItems] at h
  | fuel + 1, first, text, rest, items, h => by
      rw [parseItems] at h
      split at h
      · rename_i later hclose
        obtain ⟨rfl, rfl⟩ := Prod.mk.inj (Option.some.inj h)
        have hlength := length_of_dropChar hclose
        omega
      · split at h
        · cases h
        · rename_i start hstart
          have hstart_le : start.length ≤ text.length := by
            split_ifs at hstart
            · rw [Option.some.inj hstart]
            · have hlength := length_of_dropChar hstart
              omega
          split at h
          · cases h
          · rename_i item later hvalue
            obtain ⟨p, hp, heq⟩ := Option.map_eq_some_iff.1 h
            obtain ⟨rfl, rfl⟩ := Prod.mk.inj heq
            have hitem := length_of_parseValue hvalue
            have hitems := length_of_parseItems hp
            omega

/-- A comma or a brace stands before what follows a field. -/
theorem length_of_parseFields : ∀ {fuel : ℕ} {first : Bool} {text rest : Text}
    {fields : List (Text × Json N)},
    parseFields fuel first text = some (fields, rest) →
      weightFields fields + rest.length + (if first then 0 else 1) ≤ text.length
  | 0, first, text, rest, fields, h => by simp [parseFields] at h
  | fuel + 1, first, text, rest, fields, h => by
      rw [parseFields] at h
      split at h
      · rename_i later hclose
        obtain ⟨rfl, rfl⟩ := Prod.mk.inj (Option.some.inj h)
        have hlength := length_of_dropChar hclose
        rw [weightFields]
        split_ifs <;> omega
      · split at h
        · cases h
        · rename_i key hkey
          obtain ⟨start, hstart, hopen⟩ := Option.bind_eq_some_iff.1 hkey
          have hstart_le : start.length + (if first then 0 else 1) ≤ text.length := by
            split_ifs at hstart ⊢
            · rw [Option.some.inj hstart]
              omega
            · exact length_of_dropChar hstart
          have hopen_le := length_of_dropChar hopen
          split at h
          · cases h
          · rename_i k afterKey hchars
            have hchars_le := length_of_parseChars hchars
            split at h
            · cases h
            · rename_i value hcolon
              have hcolon_le := length_of_dropChar hcolon
              split at h
              · cases h
              · rename_i v later hvalue
                obtain ⟨p, hp, heq⟩ := Option.map_eq_some_iff.1 h
                obtain ⟨rfl, rfl⟩ := Prod.mk.inj heq
                have hvalue_le := length_of_parseValue hvalue
                have hlater := length_of_parseFields hp
                rw [if_neg Bool.false_ne_true] at hlater
                rw [weightFields]
                omega

end

/-- **A value that was read takes no more than its text.** -/
theorem weight_le_of_parse {text : Text} {j : Json N} (h : parse text = some j) :
    weight j ≤ text.length := by
  rw [parse] at h
  split at h
  · cases h
  · rename_i v rest hvalue
    split_ifs at h
    obtain rfl := Option.some.inj h
    have hlength := length_of_parseValue hvalue
    omega

end Text

end Json
