/-
**JSON values and their texts.**

A JSON value is a tree; `stringify` writes it without blanks, as `JSON.stringify` does, and `parse`
reads a text as `JSON.parse` does: blanks between tokens, every escape, and objects whose keys may
repeat, where the last value of a key counts.  An object enumerates its keys in the order of the
language: array indices first, in increasing order, then the others in the order in which they were
written.  The fields of a value are listed in that order; a value in which they are is `Canonical`,
and a canonical value is read back from its text.

Numbers are a parameter, with their rendering and its inverse.  Texts are sequences of Unicode
scalar values: an escape of half a surrogate pair is not read.

Main definitions:

* `Json` — JSON values, over numbers `N`;
* `JsonNumber` — how numbers are written and read;
* `Json.stringify`, `Json.parse` — the text of a value, and back;
* `Json.setField` — the assignment of a key;
* `Json.Canonical` — fields in the order in which objects enumerate them.

Main results:

* `Json.parse_stringify` — **a canonical value is read back from its text**.
-/

import Mathlib.Tactic.IntervalCases
import Vckit.Text

set_option relaxedAutoImplicit false
set_option autoImplicit false

/-- JSON values over numbers `N`. -/
inductive Json (N : Type) where
  | null
  | bool (b : Bool)
  | num (n : N)
  | str (s : Text)
  | arr (items : List (Json N))
  | obj (fields : List (Text × Json N))

/-- The characters of a number. -/
def isNumberChar (c : Char) : Bool :=
  c.isDigit || c = '-' || c = '+' || c = '.' || c = 'e' || c = 'E'

/-- Numbers that JSON texts can hold. -/
class JsonNumber (N : Type) where
  render : N → Text
  /-- The number a token stands for, if it is one. -/
  read : Text → Option N
  render_ne_nil : ∀ n, render n ≠ []
  render_chars : ∀ n, ∀ c ∈ render n, isNumberChar c
  read_render : ∀ n, read (render n) = some n

namespace Json

variable {N : Type}

/-! ### Strings -/

/-- A lower-case hexadecimal digit. -/
def hexDigit (n : ℕ) : Char := Char.ofNat (if n < 10 then 0x30 + n else 0x61 + n - 10)

/-- A character inside quotes. -/
def escapeChar (c : Char) : Text :=
  if c = '"' ∨ c = '\\' then ['\\', c]
  else if c = '\n' then ['\\', 'n']
  else if c = '\r' then ['\\', 'r']
  else if c = '\t' then ['\\', 't']
  else if c.toNat = 0x08 then ['\\', 'b']
  else if c.toNat = 0x0c then ['\\', 'f']
  else if c.toNat < 0x20 then
    ['\\', 'u', '0', '0', hexDigit (c.toNat / 16), hexDigit (c.toNat % 16)]
  else [c]

/-- A string in quotes. -/
def quote (s : Text) : Text := '"' :: (s.flatMap escapeChar ++ ['"'])

/-- The value of a hexadecimal digit. -/
def hexValue (c : Char) : Option ℕ :=
  if c.isDigit then some (c.toNat - 0x30)
  else if 'a' ≤ c ∧ c ≤ 'f' then some (c.toNat - 0x61 + 10)
  else if 'A' ≤ c ∧ c ≤ 'F' then some (c.toNat - 0x41 + 10)
  else none

/-- Four hexadecimal digits. -/
def readHex : Text → Option (ℕ × Text)
  | a :: b :: c :: d :: rest => do
      let a ← hexValue a
      let b ← hexValue b
      let c ← hexValue c
      let d ← hexValue d
      some (((a * 16 + b) * 16 + c) * 16 + d, rest)
  | _ => none

/-- The rest of a `\u` escape; the first half of a surrogate pair takes the second with it. -/
def readUnicode (text : Text) : Option (Char × Text) :=
  match readHex text with
  | none => none
  | some (u, rest) =>
      if u < 0xd800 ∨ 0xdfff < u then some (Char.ofNat u, rest)
      else
        match rest with
        | '\\' :: 'u' :: rest =>
            match readHex rest with
            | none => none
            | some (v, rest) =>
                if u < 0xdc00 ∧ 0xdc00 ≤ v ∧ v ≤ 0xdfff then
                  some (Char.ofNat (0x10000 + (u - 0xd800) * 0x400 + (v - 0xdc00)), rest)
                else none
        | _ => none

/-- The rest of an escape. -/
def readEscape : Text → Option (Char × Text)
  | [] => none
  | c :: rest =>
      if c = 'u' then readUnicode rest
      else if c = '"' ∨ c = '\\' ∨ c = '/' then some (c, rest)
      else if c = 'n' then some ('\n', rest)
      else if c = 'r' then some ('\r', rest)
      else if c = 't' then some ('\t', rest)
      else if c = 'b' then some (Char.ofNat 0x08, rest)
      else if c = 'f' then some (Char.ofNat 0x0c, rest)
      else none

/-- The rest of a string, up to its closing quote. -/
def parseChars : ℕ → Text → Option (Text × Text)
  | 0, _ => none
  | _ + 1, [] => none
  | fuel + 1, c :: rest =>
      if c = '"' then some ([], rest)
      else if c = '\\' then
        match readEscape rest with
        | none => none
        | some (d, rest) => (parseChars fuel rest).map fun p => (d :: p.1, p.2)
      else if c.toNat < 0x20 then none
      else (parseChars fuel rest).map fun p => (c :: p.1, p.2)

/-! ### Objects -/

/-- The natural number with these digits, without leading zeros. -/
def readNat (digits : Text) : Option ℕ :=
  if Text.ofNat (Nat.ofDigitChars 10 digits 0) = digits then some (Nat.ofDigitChars 10 digits 0)
  else none

theorem readNat_ofNat (n : ℕ) : readNat (Text.ofNat n) = some n := by
  have hread : Nat.ofDigitChars 10 (Text.ofNat n) 0 = n := Nat.ofDigitChars_ten_toDigits
  rw [readNat, hread, if_pos rfl]

/-- The array index that a key is, if it is one. -/
def indexOf (k : Text) : Option ℕ := (readNat k).filter fun n => n < 2 ^ 32 - 1

/-- A new key `k` is enumerated before the key `k'`. -/
def before (k k' : Text) : Bool :=
  match indexOf k, indexOf k' with
  | some m, some n => decide (m < n)
  | some _, none => true
  | none, _ => false

/-- `object[k] = v`. -/
def setField {α : Type} (k : Text) (v : α) : List (Text × α) → List (Text × α)
  | [] => [(k, v)]
  | (k', v') :: fields =>
      if k' = k then (k, v) :: fields
      else if before k k' then (k, v) :: (k', v') :: fields
      else (k', v') :: setField k v fields

/-- The object that assignments build. -/
def ofAssignments {α : Type} (assignments : List (Text × α)) : List (Text × α) :=
  assignments.foldl (fun fields a => setField a.1 a.2 fields) []

/-- Keys in the order of enumeration. -/
def KeysInOrder (keys : List Text) : Prop :=
  keys.Pairwise fun k k' => k ≠ k' ∧ before k' k = false

/-- A key that comes last is added at the end. -/
theorem setField_of_last {α : Type} {k : Text} {v : α} {fields : List (Text × α)}
    (h : ∀ a ∈ fields, a.1 ≠ k ∧ before k a.1 = false) :
    setField k v fields = fields ++ [(k, v)] := by
  induction fields with
  | nil => rfl
  | cons a fields ih =>
      obtain ⟨hne, hbefore⟩ := h a List.mem_cons_self
      rw [setField, if_neg hne, hbefore, if_neg (by simp),
        ih fun b hb => h b (List.mem_cons_of_mem a hb), List.cons_append]

/-- Assigning keys in the order of enumeration lists them. -/
theorem ofAssignments_of_keysInOrder {α : Type} {fields : List (Text × α)}
    (h : KeysInOrder (fields.map Prod.fst)) : ofAssignments fields = fields := by
  have hfold : ∀ (later done : List (Text × α)),
      KeysInOrder ((done ++ later).map Prod.fst) →
      later.foldl (fun fields a => setField a.1 a.2 fields) done = done ++ later := by
    intro later
    induction later with
    | nil => intro done _; simp
    | cons a later ih =>
        intro done hdone
        have hlast : ∀ b ∈ done, b.1 ≠ a.1 ∧ before a.1 b.1 = false := by
          intro b hb
          rw [KeysInOrder, List.map_append, List.pairwise_append] at hdone
          exact hdone.2.2 b.1 (List.mem_map_of_mem hb) a.1 (by simp)
        have hassoc : done ++ [(a.1, a.2)] ++ later = done ++ a :: later := by simp
        rw [List.foldl_cons, setField_of_last hlast, ih _ (by rw [hassoc]; exact hdone), hassoc]
  exact hfold fields [] h

/-! ### Writing and reading -/

section Text

variable [JsonNumber N]

mutual

/-- `JSON.stringify`. -/
def stringify : Json N → Text
  | .null => "null".toList
  | .bool b => if b then "true".toList else "false".toList
  | .num n => JsonNumber.render n
  | .str s => quote s
  | .arr items => '[' :: stringifyItems [] items
  | .obj fields => '{' :: stringifyFields [] fields

/-- The items of an array and its closing bracket; `sep` stands before the next item. -/
def stringifyItems : Text → List (Json N) → Text
  | _, [] => [']']
  | sep, item :: items => sep ++ stringify item ++ stringifyItems [','] items

/-- The fields of an object and its closing brace; `sep` stands before the next field. -/
def stringifyFields : Text → List (Text × Json N) → Text
  | _, [] => ['}']
  | sep, (k, v) :: fields => sep ++ quote k ++ ':' :: (stringify v ++ stringifyFields [','] fields)

end

/-- The blanks between tokens. -/
def isBlank (c : Char) : Bool := c = ' ' || c = '\n' || c = '\r' || c = '\t'

/-- The text after a token. -/
def dropToken (token text : Text) : Option Text :=
  if token <+: text then some (text.drop token.length) else none

/-- The text after blanks and one character. -/
def dropChar (c : Char) (text : Text) : Option Text := dropToken [c] (text.dropWhile isBlank)

/-- A number at the start of a text. -/
def parseNumber (text : Text) : Option (Json N × Text) :=
  (JsonNumber.read (text.takeWhile isNumberChar)).map fun n =>
    (.num n, text.dropWhile isNumberChar)

mutual

/-- A value at the start of a text, and the rest of the text. -/
def parseValue : ℕ → Text → Option (Json N × Text)
  | 0, _ => none
  | fuel + 1, text =>
      match text.dropWhile isBlank with
      | [] => none
      | c :: rest =>
          if c = '"' then (parseChars fuel rest).map fun p => (.str p.1, p.2)
          else if c = '[' then (parseItems fuel true rest).map fun p => (.arr p.1, p.2)
          else if c = '{' then
            (parseFields fuel true rest).map fun p => (.obj (ofAssignments p.1), p.2)
          else if c = 'n' then (dropToken "ull".toList rest).map fun rest => (.null, rest)
          else if c = 't' then (dropToken "rue".toList rest).map fun rest => (.bool true, rest)
          else if c = 'f' then (dropToken "alse".toList rest).map fun rest => (.bool false, rest)
          else parseNumber (c :: rest)

/-- The items of an array up to its closing bracket; a comma stands before all but the first. -/
def parseItems : ℕ → Bool → Text → Option (List (Json N) × Text)
  | 0, _, _ => none
  | fuel + 1, first, text =>
      match dropChar ']' text with
      | some rest => some ([], rest)
      | none =>
          match if first then some text else dropChar ',' text with
          | none => none
          | some text =>
              match parseValue fuel text with
              | none => none
              | some (item, rest) =>
                  (parseItems fuel false rest).map fun p => (item :: p.1, p.2)

/-- The fields of an object up to its closing brace. -/
def parseFields : ℕ → Bool → Text → Option (List (Text × Json N) × Text)
  | 0, _, _ => none
  | fuel + 1, first, text =>
      match dropChar '}' text with
      | some rest => some ([], rest)
      | none =>
          match (if first then some text else dropChar ',' text).bind (dropChar '"') with
          | none => none
          | some text =>
              match parseChars fuel text with
              | none => none
              | some (k, rest) =>
                  match dropChar ':' rest with
                  | none => none
                  | some rest =>
                      match parseValue fuel rest with
                      | none => none
                      | some (v, rest) =>
                          (parseFields fuel false rest).map fun p => ((k, v) :: p.1, p.2)

end

/-- `JSON.parse`; `none` where it throws. -/
def parse (text : Text) : Option (Json N) :=
  match parseValue (text.length + 1) text with
  | none => none
  | some (j, rest) => if rest.dropWhile isBlank = [] then some j else none

end Text

/-! ### Reading what was written -/

/-- The digits of an escape are read back. -/
theorem readEscape_control {n : ℕ} (hn : n < 0x20) (rest : Text) :
    readEscape ('u' :: '0' :: '0' :: hexDigit (n / 16) :: hexDigit (n % 16) :: rest) =
      some (Char.ofNat n, rest) := by
  interval_cases n <;> rfl

/-- **A character in quotes is read back.** -/
theorem parseChars_escapeChar (fuel : ℕ) (c : Char) (rest : Text) :
    parseChars (fuel + 1) (escapeChar c ++ rest) =
      (parseChars fuel rest).map fun p => (c :: p.1, p.2) := by
  have hescape : ∀ {d : Char} {t : Text}, readEscape t = some (d, rest) →
      parseChars (fuel + 1) ('\\' :: t) = (parseChars fuel rest).map fun p => (d :: p.1, p.2) := by
    intro d t ht
    rw [parseChars, if_neg (by decide), if_pos rfl, ht]
  have hofNat : ∀ {n : ℕ}, c.toNat = n → Char.ofNat n = c := by
    rintro n rfl
    exact Char.ofNat_toNat c
  unfold escapeChar
  split
  · rename_i h
    rcases h with rfl | rfl <;> exact hescape rfl
  split
  · subst_vars
    exact hescape rfl
  split
  · subst_vars
    exact hescape rfl
  split
  · subst_vars
    exact hescape rfl
  split
  · rename_i h
    exact hescape (by rw [← hofNat h]; rfl)
  split
  · rename_i h
    exact hescape (by rw [← hofNat h]; rfl)
  split
  · rename_i h
    have hread := readEscape_control h rest
    rw [Char.ofNat_toNat] at hread
    exact hescape hread
  · rename_i h1 _ _ _ _ _ h7
    rw [not_or] at h1
    rw [List.singleton_append, parseChars, if_neg h1.1, if_neg h1.2, if_neg h7]

/-- The characters of a string and its closing quote are read back. -/
theorem parseChars_quoted (s : Text) {fuel : ℕ} (hfuel : s.length < fuel) (rest : Text) :
    parseChars fuel (s.flatMap escapeChar ++ '"' :: rest) = some (s, rest) := by
  induction s generalizing fuel with
  | nil =>
      obtain ⟨n, rfl⟩ := Nat.exists_eq_succ_of_ne_zero (Nat.ne_of_gt hfuel)
      rfl
  | cons c s ih =>
      obtain ⟨n, rfl⟩ := Nat.exists_eq_succ_of_ne_zero (Nat.ne_of_gt (Nat.zero_lt_of_lt hfuel))
      rw [List.length_cons] at hfuel
      rw [List.flatMap_cons, List.append_assoc, parseChars_escapeChar,
        ih (Nat.lt_of_succ_lt_succ hfuel)]
      rfl

theorem length_escapeChar_pos (c : Char) : 0 < (escapeChar c).length := by
  unfold escapeChar
  split_ifs <;> simp

theorem length_lt_quote (s : Text) : s.length + 1 < (quote s).length := by
  have hle : s.length ≤ (s.flatMap escapeChar).length := by
    induction s with
    | nil => simp
    | cons c s ih =>
        have := length_escapeChar_pos c
        rw [List.flatMap_cons, List.length_append, List.length_cons]
        omega
  rw [quote, List.length_cons, List.length_append, List.length_singleton]
  omega

theorem dropToken_append (token rest : Text) : dropToken token (token ++ rest) = some rest := by
  rw [dropToken, if_pos (List.prefix_append token rest), List.drop_left]

theorem dropChar_cons {c : Char} (hc : isBlank c = false) (text : Text) :
    dropChar c (c :: text) = some text := by
  rw [dropChar, List.dropWhile_cons_of_neg (by simp [hc])]
  exact dropToken_append [c] text

theorem dropChar_cons_of_ne {c d : Char} (hd : isBlank d = false) (hne : c ≠ d) (text : Text) :
    dropChar c (d :: text) = none := by
  rw [dropChar, List.dropWhile_cons_of_neg (by simp [hd]), dropToken, if_neg]
  rintro ⟨t, ht⟩
  exact hne (List.cons.inj ht).1

section Text

variable [JsonNumber N]

/-- A number ends where no number goes on. -/
theorem parseNumber_render (n : N) {rest : Text} (hrest : rest.takeWhile isNumberChar = []) :
    parseNumber (JsonNumber.render n ++ rest) = some (.num n, rest) := by
  have hchars := JsonNumber.render_chars n
  have hdrop : rest.dropWhile isNumberChar = rest := by
    have happend := List.takeWhile_append_dropWhile (p := isNumberChar) (l := rest)
    rwa [hrest] at happend
  rw [parseNumber, List.takeWhile_append_of_pos hchars, List.dropWhile_append_of_pos hchars, hrest,
    hdrop, List.append_nil, JsonNumber.read_render, Option.map_some]

theorem ne_of_isNumberChar {c d : Char} (hc : isNumberChar c = true)
    (hd : isNumberChar d = false) : c ≠ d := by
  rintro rfl
  rw [hc] at hd
  cases hd

theorem isBlank_of_isNumberChar {c : Char} (hc : isNumberChar c = true) : isBlank c = false := by
  simp [isBlank, ne_of_isNumberChar hc (d := ' ') rfl, ne_of_isNumberChar hc (d := '\n') rfl,
    ne_of_isNumberChar hc (d := '\r') rfl, ne_of_isNumberChar hc (d := '\t') rfl]

/-- The text of a value starts with no blank and no closing bracket. -/
theorem stringify_eq_cons (j : Json N) :
    ∃ c t, stringify j = c :: t ∧ isBlank c = false ∧ c ≠ ']' := by
  cases j with
  | null => exact ⟨'n', _, by rw [stringify]; rfl, rfl, by decide⟩
  | bool b =>
      cases b with
      | true => exact ⟨'t', _, by rw [stringify]; rfl, rfl, by decide⟩
      | false => exact ⟨'f', _, by rw [stringify]; rfl, rfl, by decide⟩
  | num n =>
      obtain ⟨c, t, ht⟩ := List.exists_cons_of_ne_nil (JsonNumber.render_ne_nil n)
      have hc : isNumberChar c = true := JsonNumber.render_chars n c (by simp [ht])
      exact ⟨c, t, by rw [stringify, ht], isBlank_of_isNumberChar hc, ne_of_isNumberChar hc rfl⟩
  | str s => exact ⟨'"', _, by rw [stringify, quote], rfl, by decide⟩
  | arr items => exact ⟨'[', _, by rw [stringify], rfl, by decide⟩
  | obj fields => exact ⟨'{', _, by rw [stringify], rfl, by decide⟩

theorem length_stringify_pos (j : Json N) : 0 < (stringify j).length := by
  obtain ⟨c, t, ht, -, -⟩ := stringify_eq_cons j
  simp [ht]

theorem length_stringifyItems_pos (sep : Text) (items : List (Json N)) :
    0 < (stringifyItems sep items).length := by
  cases items with
  | nil => simp [stringifyItems]
  | cons item items =>
      have := length_stringify_pos item
      simp only [stringifyItems, List.length_append]
      omega

theorem length_stringifyFields_pos (sep : Text) (fields : List (Text × Json N)) :
    0 < (stringifyFields sep fields).length := by
  cases fields with
  | nil => simp [stringifyFields]
  | cons field fields => simp [stringifyFields]

/-- What follows an item ends a number. -/
theorem takeWhile_stringifyItems (items : List (Json N)) (rest : Text) :
    (stringifyItems [','] items ++ rest).takeWhile isNumberChar = [] := by
  cases items with
  | nil => rfl
  | cons item items => rw [stringifyItems]; rfl

theorem takeWhile_stringifyFields (fields : List (Text × Json N)) (rest : Text) :
    (stringifyFields [','] fields ++ rest).takeWhile isNumberChar = [] := by
  cases fields with
  | nil => rfl
  | cons field fields => rw [stringifyFields]; rfl

end Text

/-! ### Canonical values -/

mutual

/-- Every object lists its fields in the order of enumeration. -/
def Canonical : Json N → Prop
  | .null | .bool _ | .num _ | .str _ => True
  | .arr items => CanonicalItems items
  | .obj fields => KeysInOrder (fields.map Prod.fst) ∧ CanonicalFields fields

/-- The items are canonical. -/
def CanonicalItems : List (Json N) → Prop
  | [] => True
  | item :: items => Canonical item ∧ CanonicalItems items

/-- The values of the fields are canonical. -/
def CanonicalFields : List (Text × Json N) → Prop
  | [] => True
  | (_, v) :: fields => Canonical v ∧ CanonicalFields fields

end

section Text

variable [JsonNumber N]

mutual

/-- A value is read back, whatever follows it. -/
theorem parseValue_stringify (j : Json N) (hj : j.Canonical) (fuel : ℕ) (rest : Text)
    (hfuel : (stringify j).length ≤ fuel) (hrest : rest.takeWhile isNumberChar = []) :
    parseValue (fuel + 1) (stringify j ++ rest) = some (j, rest) := by
  cases j with
  | null =>
      exact congrArg (Option.map fun rest => (Json.null, rest))
        (dropToken_append "ull".toList rest)
  | bool b =>
      cases b with
      | true =>
          exact congrArg (Option.map fun rest => (Json.bool true, rest))
            (dropToken_append "rue".toList rest)
      | false =>
          exact congrArg (Option.map fun rest => (Json.bool false, rest))
            (dropToken_append "alse".toList rest)
  | num n =>
      obtain ⟨c, t, ht⟩ := List.exists_cons_of_ne_nil (JsonNumber.render_ne_nil n)
      have hc : isNumberChar c = true := JsonNumber.render_chars n c (by simp [ht])
      have hblank : ¬isBlank c = true := by simp [isBlank_of_isNumberChar hc]
      -- the first character of a number starts no other kind of value
      rw [stringify, ← parseNumber_render n hrest, ht, List.cons_append, parseValue,
        List.dropWhile_cons_of_neg hblank]
      dsimp only
      rw [if_neg (ne_of_isNumberChar hc rfl), if_neg (ne_of_isNumberChar hc rfl),
        if_neg (ne_of_isNumberChar hc rfl), if_neg (ne_of_isNumberChar hc rfl),
        if_neg (ne_of_isNumberChar hc rfl), if_neg (ne_of_isNumberChar hc rfl)]
  | str s =>
      rw [stringify] at hfuel ⊢
      have hlen := length_lt_quote s
      have hchars := parseChars_quoted s (show s.length < fuel by omega) rest
      have htext : quote s ++ rest = '"' :: (s.flatMap escapeChar ++ '"' :: rest) := by
        simp [quote]
      rw [htext]
      exact congrArg (Option.map fun p => (Json.str p.1, p.2)) hchars
  | arr items =>
      rw [stringify, List.length_cons] at hfuel
      rw [Canonical] at hj
      obtain ⟨m, rfl⟩ := Nat.exists_eq_succ_of_ne_zero (Nat.ne_of_gt (Nat.zero_lt_of_lt hfuel))
      have hitems := parseItems_stringifyItems items hj true m rest (Nat.le_of_succ_le_succ hfuel)
      rw [stringify]
      exact congrArg (Option.map fun p => (Json.arr p.1, p.2)) hitems
  | obj fields =>
      rw [stringify, List.length_cons] at hfuel
      rw [Canonical] at hj
      obtain ⟨m, rfl⟩ := Nat.exists_eq_succ_of_ne_zero (Nat.ne_of_gt (Nat.zero_lt_of_lt hfuel))
      have hfields := parseFields_stringifyFields fields hj.2 true m rest
        (Nat.le_of_succ_le_succ hfuel)
      have hobj := congrArg
        (Option.map fun p => (Json.obj (ofAssignments p.1), p.2)) hfields
      rw [Option.map_some, ofAssignments_of_keysInOrder hj.1] at hobj
      rw [stringify]
      exact hobj

/-- Items are read back, the first of them or later ones. -/
theorem parseItems_stringifyItems (items : List (Json N)) (hitems : CanonicalItems items)
    (first : Bool) (fuel : ℕ) (rest : Text)
    (hfuel : (stringifyItems (if first then [] else [',']) items).length ≤ fuel) :
    parseItems (fuel + 1) first (stringifyItems (if first then [] else [',']) items ++ rest) =
      some (items, rest) := by
  cases items with
  | nil =>
      rw [stringifyItems, parseItems, List.singleton_append, dropChar_cons rfl]
  | cons item items =>
      rw [CanonicalItems] at hitems
      rw [stringifyItems] at hfuel ⊢
      simp only [List.length_append] at hfuel
      have hitem_pos := length_stringify_pos item
      have hitems_pos := length_stringifyItems_pos [','] items
      obtain ⟨m, rfl⟩ : ∃ m, fuel = m + 1 := ⟨fuel - 1, by omega⟩
      have hvalue := parseValue_stringify item hitems.1 m (stringifyItems [','] items ++ rest)
        (by omega) (takeWhile_stringifyItems items rest)
      have hlater := parseItems_stringifyItems items hitems.2 false m rest (by simpa using by omega)
      have hend : ∀ text, dropChar ']' text = none →
          (if first then some text else dropChar ',' text) =
            some (stringify item ++ (stringifyItems [','] items ++ rest)) →
          parseItems (m + 2) first text = some (item :: items, rest) := by
        intro text hclose hcomma
        rw [parseItems, hclose]
        dsimp only
        rw [hcomma]
        dsimp only
        rw [hvalue]
        dsimp only
        exact congrArg (Option.map fun p => (item :: p.1, p.2)) hlater
      -- a first item follows the bracket, a later one a comma
      cases first with
      | true =>
          obtain ⟨c, t, ht, hblank, hne⟩ := stringify_eq_cons item
          refine hend _ ?_ ?_
          · rw [ht]
            exact dropChar_cons_of_ne hblank (Ne.symm hne) _
          · simp
      | false =>
          refine hend _ ?_ ?_
          · exact dropChar_cons_of_ne rfl (by decide) _
          · refine (dropChar_cons rfl _).trans ?_
            simp

/-- Fields are read back, the first of them or later ones. -/
theorem parseFields_stringifyFields (fields : List (Text × Json N))
    (hfields : CanonicalFields fields) (first : Bool) (fuel : ℕ) (rest : Text)
    (hfuel : (stringifyFields (if first then [] else [',']) fields).length ≤ fuel) :
    parseFields (fuel + 1) first (stringifyFields (if first then [] else [',']) fields ++ rest) =
      some (fields, rest) := by
  cases fields with
  | nil =>
      rw [stringifyFields, parseFields, List.singleton_append, dropChar_cons rfl]
  | cons field fields =>
      obtain ⟨k, v⟩ := field
      rw [CanonicalFields] at hfields
      rw [stringifyFields] at hfuel ⊢
      simp only [List.length_append, List.length_cons] at hfuel
      have hkey_pos := length_lt_quote k
      have hvalue_pos := length_stringify_pos v
      have hfields_pos := length_stringifyFields_pos [','] fields
      obtain ⟨m, rfl⟩ : ∃ m, fuel = m + 1 := ⟨fuel - 1, by omega⟩
      have hkey := parseChars_quoted k (show k.length < m + 1 by omega)
        (':' :: (stringify v ++ (stringifyFields [','] fields ++ rest)))
      have hvalue := parseValue_stringify v hfields.1 m (stringifyFields [','] fields ++ rest)
        (by omega) (takeWhile_stringifyFields fields rest)
      have hlater := parseFields_stringifyFields fields hfields.2 false m rest
        (by simpa using by omega)
      have hend : ∀ text, dropChar '}' text = none →
          (if first then some text else dropChar ',' text).bind (dropChar '"') =
            some (k.flatMap escapeChar ++ '"' ::
              ':' :: (stringify v ++ (stringifyFields [','] fields ++ rest))) →
          parseFields (m + 2) first text = some ((k, v) :: fields, rest) := by
        intro text hclose hquote
        rw [parseFields, hclose]
        dsimp only
        rw [hquote]
        dsimp only
        rw [hkey]
        dsimp only
        rw [dropChar_cons rfl]
        dsimp only
        rw [hvalue]
        exact congrArg (Option.map fun p => ((k, v) :: p.1, p.2)) hlater
      have hopen : quote k ++ ':' :: (stringify v ++ stringifyFields [','] fields) ++ rest =
          '"' :: (k.flatMap escapeChar ++ '"' ::
            ':' :: (stringify v ++ (stringifyFields [','] fields ++ rest))) := by
        simp [quote]
      cases first with
      | true =>
          refine hend _ ?_ ?_
          · exact dropChar_cons_of_ne (d := '"') rfl (by decide) _
          · refine (congrArg (dropChar '"') hopen).trans (dropChar_cons rfl _)
      | false =>
          refine hend _ ?_ ?_
          · exact dropChar_cons_of_ne (d := ',') rfl (by decide) _
          · refine (congrArg (fun text => (dropChar ',' (',' :: text)).bind (dropChar '"'))
              hopen).trans ?_
            rw [dropChar_cons rfl, Option.bind_some, dropChar_cons rfl]

end

/-- **A canonical value is read back from its text.** -/
theorem parse_stringify {j : Json N} (hj : j.Canonical) : parse (stringify j) = some j := by
  have hvalue := parseValue_stringify j hj (stringify j).length [] le_rfl rfl
  rw [List.append_nil] at hvalue
  rw [parse, hvalue]
  rfl

end Text

end Json

/-! ### Integers -/

/-- The integers, in decimal. -/
instance : JsonNumber ℤ where
  render
    | .ofNat n => Text.ofNat n
    | .negSucc n => '-' :: Text.ofNat (n + 1)
  read text :=
    match text with
    -- `-0` is a number of its own, and no integer
    | '-' :: digits => (Json.readNat digits).bind fun n => if n = 0 then none else some (-(n : ℤ))
    | digits => (Json.readNat digits).map Int.ofNat
  render_ne_nil := by
    rintro (n | n)
    · exact Text.ofNat_ne_nil n
    · exact List.cons_ne_nil _ _
  render_chars := by
    have hdigits : ∀ n, ∀ c ∈ Text.ofNat n, isNumberChar c := by
      intro n c hc
      have hdigit := Nat.isDigit_of_mem_toDigits (by omega) (by omega) hc
      simp [isNumberChar, hdigit]
    rintro (n | n) c hc
    · exact hdigits n c hc
    · rcases List.mem_cons.1 hc with rfl | hc
      · rfl
      · exact hdigits (n + 1) c hc
  read_render := by
    rintro (n | n)
    · dsimp only
      split
      · rename_i digits hminus
        have hmem : '-' ∈ Text.ofNat n := by simp [hminus]
        exact absurd hmem (Text.not_mem_ofNat rfl n)
      · rw [Json.readNat_ofNat]
        rfl
    · change (Json.readNat (Text.ofNat (n + 1))).bind _ = _
      rw [Json.readNat_ofNat]
      rfl
