/-
**Reading the query of a URL.**

`location.search` is the query of the URL that a browser has loaded, from its question mark on, with
some characters percent-encoded.  `URLSearchParams` cuts a query into names and values and decodes
them: a plus sign is a blank, an escape is a byte, and the bytes are decoded as UTF-8, where what is
no character becomes a replacement character.  So `URLSearchParams` never fails, and it undoes one
layer of percent-encoding.

Main definitions:

* `Query.utf8Decode` — UTF-8 with replacement characters;
* `Query.formDecode` — the decoding of names and values;
* `Query.searchParam` — `new URLSearchParams(search).get(name)`;
* `Query.locationSearch` — the `location.search` of a URL.

Main results:

* `Query.utf8Decode_flatMap` — **the bytes of a text are decoded to it**;
* `Query.searchParam_locationSearch` — **a value that was encoded with `encodeURIComponent` is read
  back from the URL it was put into**.
-/

import Mathlib.Tactic.IntervalCases
import Vckit.UriComponent

set_option relaxedAutoImplicit false
set_option autoImplicit false

namespace Query

open Url (percentEncode_cons percentEncode_append)

/-! ### UTF-8 -/

/-- What stands for bytes that are no character. -/
def replacement : Char := Char.ofNat 0xfffd

/-- A character of which bytes are missing: how many, the value of those that were read, and the
range of the next one. -/
structure Pending where
  missing : ℕ
  value : ℕ
  lower : ℕ
  upper : ℕ

/-- A byte at the start of a character. -/
def leadByte (b : ℕ) : Option (Char ⊕ Pending) :=
  if b < 0x80 then some (.inl (Char.ofNat b))
  else if b < 0xc2 then none
  else if b < 0xe0 then some (.inr ⟨1, b - 0xc0, 0x80, 0xbf⟩)
  else if b < 0xf0 then
    some (.inr ⟨2, b - 0xe0, if b = 0xe0 then 0xa0 else 0x80, if b = 0xed then 0x9f else 0xbf⟩)
  else if b < 0xf5 then
    some (.inr ⟨3, b - 0xf0, if b = 0xf0 then 0x90 else 0x80, if b = 0xf4 then 0x8f else 0xbf⟩)
  else none

/-- What is decoded from a byte at the start of a character on. -/
def decodeLead (rest : Option Pending → Text) (b : ℕ) : Text :=
  match leadByte b with
  | some (.inl c) => c :: rest none
  | some (.inr pending) => rest (some pending)
  | none => replacement :: rest none

/-- The loop of the decoder. -/
def utf8Go : Option Pending → List ℕ → Text
  | none, [] => []
  | some _, [] => [replacement]
  | none, b :: bytes => decodeLead (fun pending => utf8Go pending bytes) b
  | some pending, b :: bytes =>
      if pending.lower ≤ b ∧ b ≤ pending.upper then
        if pending.missing = 1 then
          Char.ofNat (pending.value * 64 + (b - 0x80)) :: utf8Go none bytes
        else
          utf8Go (some ⟨pending.missing - 1, pending.value * 64 + (b - 0x80), 0x80, 0xbf⟩) bytes
      -- the byte may start a character of its own
      else replacement :: decodeLead (fun pending => utf8Go pending bytes) b

/-- UTF-8 decoding. -/
def utf8Decode (bytes : List ℕ) : Text := utf8Go none bytes

example : utf8Decode [0xe2, 0x82, 0xac, 0xe2, 0x82, 0x41] = ['€', replacement, 'A'] := by
  decide +kernel

/-- The bytes of a character. -/
def utf8Bytes (c : Char) : List ℕ := (String.utf8EncodeChar c).map UInt8.toNat

theorem utf8Go_lead_inl {b : ℕ} {c : Char} (h : leadByte b = some (.inl c)) (bytes : List ℕ) :
    utf8Go none (b :: bytes) = c :: utf8Go none bytes := by
  rw [utf8Go, decodeLead, h]

theorem utf8Go_lead_inr {b : ℕ} {pending : Pending} (h : leadByte b = some (.inr pending))
    (bytes : List ℕ) : utf8Go none (b :: bytes) = utf8Go (some pending) bytes := by
  rw [utf8Go, decodeLead, h]

theorem utf8Go_more {pending : Pending} {b : ℕ} (hb : pending.lower ≤ b ∧ b ≤ pending.upper)
    (hmissing : pending.missing ≠ 1) (bytes : List ℕ) :
    utf8Go (some pending) (b :: bytes) =
      utf8Go (some ⟨pending.missing - 1, pending.value * 64 + (b - 0x80), 0x80, 0xbf⟩) bytes := by
  rw [utf8Go, if_pos hb, if_neg hmissing]

theorem utf8Go_last {pending : Pending} {b : ℕ} (hb : pending.lower ≤ b ∧ b ≤ pending.upper)
    (hmissing : pending.missing = 1) (bytes : List ℕ) :
    utf8Go (some pending) (b :: bytes) =
      Char.ofNat (pending.value * 64 + (b - 0x80)) :: utf8Go none bytes := by
  rw [utf8Go, if_pos hb, if_pos hmissing]

/-- The range of a character. -/
theorem toNat_range (c : Char) :
    c.toNat < 0xd800 ∨ 0xdfff < c.toNat ∧ c.toNat < 0x110000 := c.valid

/-- The bytes of a character, by its size. -/
theorem utf8Bytes_eq (c : Char) :
    utf8Bytes c =
      if c.toNat ≤ 0x7f then [c.toNat]
      else if c.toNat ≤ 0x7ff then [c.toNat / 64 + 0xc0, c.toNat % 64 + 0x80]
      else if c.toNat ≤ 0xffff then
        [c.toNat / 4096 + 0xe0, c.toNat / 64 % 64 + 0x80, c.toNat % 64 + 0x80]
      else
        [c.toNat / 262144 + 0xf0, c.toNat / 4096 % 64 + 0x80, c.toNat / 64 % 64 + 0x80,
          c.toNat % 64 + 0x80] := by
  have hrange := toNat_range c
  have hbyte : ∀ {n m : ℕ}, n = m → m < 256 → (UInt8.ofNat n).toNat = m := by
    rintro n m rfl hlt
    rw [UInt8.toNat_ofNat', Nat.mod_eq_of_lt hlt]
  have hval : c.val.toNat = c.toNat := rfl
  unfold utf8Bytes String.utf8EncodeChar
  simp only [hval]
  split_ifs with h1 h2 h3
  · rw [List.map_singleton, hbyte rfl (by omega)]
  · rw [List.map_cons, List.map_singleton, hbyte (m := c.toNat / 64 + 0xc0) (by omega) (by omega),
      hbyte rfl (by omega)]
  · rw [List.map_cons, List.map_cons, List.map_singleton,
      hbyte (m := c.toNat / 4096 + 0xe0) (by omega) (by omega), hbyte rfl (by omega),
      hbyte rfl (by omega)]
  · rw [List.map_cons, List.map_cons, List.map_cons, List.map_singleton,
      hbyte (m := c.toNat / 262144 + 0xf0) (by omega) (by omega), hbyte rfl (by omega),
      hbyte rfl (by omega), hbyte rfl (by omega)]

/-- **The bytes of a character are decoded to it.** -/
theorem utf8Go_utf8Bytes (c : Char) (bytes : List ℕ) :
    utf8Go none (utf8Bytes c ++ bytes) = c :: utf8Go none bytes := by
  have hrange := toNat_range c
  have hchar : ∀ {n : ℕ}, n = c.toNat → Char.ofNat n = c := by
    rintro n rfl
    exact Char.ofNat_toNat c
  rw [utf8Bytes_eq]
  split_ifs with h1 h2 h3
  · have hlead : leadByte c.toNat = some (.inl (Char.ofNat c.toNat)) := if_pos (by omega)
    rw [List.singleton_append, utf8Go_lead_inl hlead, hchar rfl]
  · have hlead : leadByte (c.toNat / 64 + 0xc0) = some (.inr ⟨1, c.toNat / 64, 0x80, 0xbf⟩) := by
      rw [leadByte, if_neg (by omega), if_neg (by omega), if_pos (by omega), Nat.add_sub_cancel]
    rw [List.cons_append, List.singleton_append, utf8Go_lead_inr hlead,
      utf8Go_last (by simp only; omega) rfl]
    rw [hchar (by simp only; omega)]
  · have hlead : leadByte (c.toNat / 4096 + 0xe0) =
        some (.inr ⟨2, c.toNat / 4096 + 0xe0 - 0xe0,
          if c.toNat / 4096 + 0xe0 = 0xe0 then 0xa0 else 0x80,
          if c.toNat / 4096 + 0xe0 = 0xed then 0x9f else 0xbf⟩) := by
      rw [leadByte, if_neg (by omega), if_neg (by omega), if_neg (by omega), if_pos (by omega)]
    rw [List.cons_append, List.cons_append, List.singleton_append, utf8Go_lead_inr hlead,
      utf8Go_more (by simp only; split_ifs <;> omega) (Nat.succ_ne_self 1),
      utf8Go_last (by simp only; omega) rfl]
    rw [hchar (by simp only; omega)]
  · have hlead : leadByte (c.toNat / 262144 + 0xf0) =
        some (.inr ⟨3, c.toNat / 262144 + 0xf0 - 0xf0,
          if c.toNat / 262144 + 0xf0 = 0xf0 then 0x90 else 0x80,
          if c.toNat / 262144 + 0xf0 = 0xf4 then 0x8f else 0xbf⟩) := by
      rw [leadByte, if_neg (by omega), if_neg (by omega), if_neg (by omega), if_neg (by omega),
        if_pos (by omega)]
    rw [List.cons_append, List.cons_append, List.cons_append, List.singleton_append,
      utf8Go_lead_inr hlead, utf8Go_more (by simp only; split_ifs <;> omega)
        (Nat.ne_of_beq_eq_false rfl),
      utf8Go_more (by simp only; omega) (Nat.succ_ne_self 1),
      utf8Go_last (by simp only; omega) rfl]
    rw [hchar (by simp only; omega)]

/-- **The bytes of a text are decoded to it.** -/
theorem utf8Decode_flatMap (s : Text) : utf8Decode (s.flatMap utf8Bytes) = s := by
  rw [utf8Decode]
  induction s with
  | nil => rfl
  | cons c s ih => rw [List.flatMap_cons, utf8Go_utf8Bytes, ih]

/-! ### Names and values -/

/-- The bytes that a name or a value stands for. -/
def formBytes : Text → List ℕ
  | '%' :: a :: b :: rest =>
      match Uri.hexByte a b with
      | some n => n :: formBytes rest
      | none => utf8Bytes '%' ++ formBytes (a :: b :: rest)
  | c :: rest => (if c = '+' then [0x20] else utf8Bytes c) ++ formBytes rest
  | [] => []

/-- A name or a value. -/
def formDecode (s : Text) : Text := utf8Decode (formBytes s)

/-- The name and the value of a piece of the query. -/
def formPair (piece : Text) : Text × Text :=
  (formDecode (piece.takeWhile fun c => decide (c ≠ '=')),
    formDecode ((piece.dropWhile fun c => decide (c ≠ '=')).drop 1))

/-- The names and values of a query. -/
def formPairs (query : Text) : List (Text × Text) :=
  ((Text.split query ['&']).filter fun piece => decide (piece ≠ [])).map formPair

/-- A query without the question mark before it. -/
def dropQuestion : Text → Text
  | '?' :: query => query
  | query => query

/-- `new URLSearchParams(search).get(name)` -/
def searchParam (search name : Text) : Option Text :=
  ((formPairs (dropQuestion search)).find? fun pair => decide (pair.1 = name)).map Prod.snd

/-- `location.search` -/
def locationSearch (url : Text) : Text :=
  Url.requestQuery (((Url.stripBlanks url).takeWhile fun c => decide (c ≠ '#')).dropWhile
    fun c => decide (c ≠ '?'))

example : searchParam "?a=1&q=%7B+%27x%27%zz%E2&q=2".toList "q".toList =
    some ("\x7b 'x'%zz".toList ++ [replacement]) := by
  decide +kernel

/-! ### A value in a query -/

/-- A digit of an escape. -/
theorem isAlphanum_hexDigit {n : ℕ} (h : n < 16) : (Url.hexDigit n).isAlphanum := by
  interval_cases n <;> rfl

theorem hexValue_hexDigit {n : ℕ} (h : n < 16) : Uri.hexValue (Url.hexDigit n) = some n := by
  interval_cases n <;> rfl

theorem hexByte_hexDigit {n : ℕ} (h : n < 256) :
    Uri.hexByte (Url.hexDigit (n / 16)) (Url.hexDigit (n % 16)) = some n := by
  have hhigh := hexValue_hexDigit (show n / 16 < 16 by omega)
  have hlow := hexValue_hexDigit (show n % 16 < 16 by omega)
  rw [Uri.hexByte, hhigh, hlow]
  exact congrArg some (Nat.div_add_mod n 16)

theorem formBytes_char {c : Char} (hpct : c ≠ '%') (hplus : c ≠ '+') (rest : Text) :
    formBytes (c :: rest) = utf8Bytes c ++ formBytes rest := by
  rcases rest with _ | ⟨a, _ | ⟨b, rest⟩⟩ <;> simp [formBytes, hpct, hplus]

/-- An escape is read as its byte. -/
theorem formBytes_percentEncodeByte (b : UInt8) (rest : Text) :
    formBytes (Url.percentEncodeByte b ++ rest) = b.toNat :: formBytes rest := by
  rw [Url.percentEncodeByte, List.cons_append, List.cons_append, List.singleton_append, formBytes,
    hexByte_hexDigit b.toNat_lt_size]

theorem formBytes_flatMap (bytes : List UInt8) (rest : Text) :
    formBytes (bytes.flatMap Url.percentEncodeByte ++ rest) =
      bytes.map UInt8.toNat ++ formBytes rest := by
  induction bytes with
  | nil => rfl
  | cons b bytes ih =>
      rw [List.flatMap_cons, List.append_assoc, formBytes_percentEncodeByte, ih]
      rfl

section Escapes

variable {inSet : Char → Bool}

/-- **What was escaped is decoded to itself**, if percent signs and plus signs were escaped. -/
theorem formDecode_percentEncode (hpct : inSet '%') (hplus : inSet '+') (s : Text) :
    formDecode (Url.percentEncode inSet s) = s := by
  have hbytes : formBytes (Url.percentEncode inSet s) = s.flatMap utf8Bytes := by
    induction s with
    | nil => rfl
    | cons c s ih =>
        rw [percentEncode_cons, List.flatMap_cons]
        by_cases hc : inSet c
        · rw [if_pos hc, formBytes_flatMap, ih, utf8Bytes]
        · have hne : ∀ {d : Char}, inSet d → c ≠ d := by
            rintro d hd rfl
            exact hc hd
          rw [if_neg hc, List.singleton_append, formBytes_char (hne hpct) (hne hplus), ih]
  rw [formDecode, hbytes, utf8Decode_flatMap]

/-- A character of an escaped text was left as it is, or it is of an escape. -/
theorem of_mem_percentEncode {c : Char} {s : Text} (hc : c ∈ Url.percentEncode inSet s) :
    inSet c = false ∨ c = '%' ∨ c.isAlphanum := by
  obtain ⟨d, -, hc⟩ := List.mem_flatMap.1 hc
  split_ifs at hc with hd
  · obtain ⟨b, -, hc⟩ := List.mem_flatMap.1 hc
    have hb := b.toNat_lt_size
    rw [Url.percentEncodeByte, List.mem_cons, List.mem_cons, List.mem_singleton] at hc
    rcases hc with rfl | rfl | rfl
    · exact .inr (.inl rfl)
    · exact .inr (.inr (isAlphanum_hexDigit (Nat.div_lt_of_lt_mul hb)))
    · exact .inr (.inr (isAlphanum_hexDigit (Nat.mod_lt _ (by omega))))
  · rw [List.mem_singleton.1 hc]
    exact .inl (by simpa using hd)

end Escapes

/-- The characters that a browser finds escaped in a component of a query: it escapes the
apostrophe, which `encodeURIComponent` leaves. -/
def inComponentSet (c : Char) : Bool := !Uri.isComponentChar c || decide (c = '\'')

/-- The query of a URL leaves what escapes are made of. -/
theorem inQuerySet_of_escape {c : Char} (h : c = '%' ∨ c.isAlphanum) :
    Url.inQuerySet c = false := by
  rcases h with rfl | h
  · rfl
  · have hrange := Url.toNat_of_isAlphanum h
    simp only [Url.inQuerySet, Bool.or_eq_false_iff, decide_eq_false_iff_not, List.contains_cons,
      List.contains_nil, beq_eq_false_iff_ne]
    refine ⟨⟨?_, ?_⟩, ?_, ?_, ?_, ?_, ?_, ?_, trivial⟩ <;> omega

/-- Of the characters of a component, the query of a URL escapes the apostrophe. -/
theorem inQuerySet_of_isComponentChar {c : Char} (h : Uri.isComponentChar c) :
    Url.inQuerySet c = decide (c = '\'') := by
  rw [Uri.isComponentChar, Bool.or_eq_true] at h
  rcases h with h | h
  · have hne : c ≠ '\'' := by
      rintro rfl
      exact absurd h (by decide)
    rw [inQuerySet_of_escape (.inr h), decide_eq_false hne]
  · have hall : "-_.!~*'()".toList.all (fun c => Url.inQuerySet c == decide (c = '\'')) = true :=
      rfl
    exact eq_of_beq (List.all_eq_true.1 hall c (List.contains_iff_mem.1 h))

/-- A component in the query of a URL. -/
theorem percentEncode_encodeURIComponent (s : Text) :
    Url.percentEncode Url.inQuerySet (Uri.encodeURIComponent s) =
      Url.percentEncode inComponentSet s := by
  induction s with
  | nil => rfl
  | cons c s ih =>
      rw [Uri.encodeURIComponent, percentEncode_cons, percentEncode_append]
      rw [Uri.encodeURIComponent] at ih
      rw [ih, percentEncode_cons]
      congr 1
      by_cases hc : Uri.isComponentChar c
      · rw [if_neg (by simp [hc]), percentEncode_cons, inQuerySet_of_isComponentChar hc,
          inComponentSet, hc]
        exact List.append_nil _
      · have hset : inComponentSet c := by simp [inComponentSet, hc]
        rw [if_pos (by simp [hc]), if_pos hset]
        refine Url.percentEncode_of_forall fun d hd => inQuerySet_of_escape ?_
        -- the escapes of all characters are escapes, those of `c` among them
        have hmem : d ∈ Url.percentEncode (fun _ => true) [c] := by
          rw [percentEncode_cons]
          exact List.mem_append_left _ hd
        exact (of_mem_percentEncode hmem).resolve_left (by simp)

/-- A character before the query of a URL: no blank, no question mark and no hash. -/
def isBaseChar (c : Char) : Bool := !Url.isControlOrSpace c && c ≠ '?' && c ≠ '#'

theorem of_isBaseChar {c : Char} (h : isBaseChar c) :
    Url.isControlOrSpace c = false ∧ c ≠ '?' ∧ c ≠ '#' := by
  simpa [isBaseChar, and_assoc] using h

/-- Letters, digits, percent signs and the characters of a component are no delimiters. -/
theorem of_mem_encodeURIComponent {c : Char} {s : Text} (hc : c ∈ Uri.encodeURIComponent s) :
    Url.isControlOrSpace c = false ∧ c ≠ '#' := by
  have hcases : Url.inQuerySet c = false ∨ c = '\'' := by
    rcases of_mem_percentEncode hc with h | h
    · have hquery := inQuerySet_of_isComponentChar (c := c) (by simpa using h)
      by_cases hapos : c = '\''
      · exact .inr hapos
      · rw [decide_eq_false hapos] at hquery
        exact .inl hquery
    · exact .inl (inQuerySet_of_escape h)
  rcases hcases with h | rfl
  · refine ⟨?_, ?_⟩
    · simp only [Url.inQuerySet, Bool.or_eq_false_iff, decide_eq_false_iff_not] at h
      refine Url.isControlOrSpace_of_not_control h.1.1 fun hc => ?_
      rw [hc] at h
      exact absurd h.2 (by decide)
    · rintro rfl
      exact absurd h (by decide)
  · decide

theorem locationSearch_append {base : Text} (hbase : ∀ c ∈ base, isBaseChar c) {name : Text}
    (hname : ∀ c ∈ name, c.isAlphanum) (value : Text) :
    locationSearch (base ++ '?' :: (name ++ '=' :: Uri.encodeURIComponent value)) =
      '?' :: (name ++ '=' :: Url.percentEncode inComponentSet value) := by
  have hnameChars : ∀ c ∈ name, Url.isControlOrSpace c = false ∧ c ≠ '#' := by
    intro c hc
    have hrange := Url.toNat_of_isAlphanum (hname c hc)
    refine ⟨?_, ?_⟩
    · rw [Url.isControlOrSpace, decide_eq_false_iff_not]
      omega
    · rintro rfl
      exact absurd (hname _ hc) (by decide)
  have hquery : ∀ c ∈ '?' :: (name ++ '=' :: Uri.encodeURIComponent value),
      Url.isControlOrSpace c = false ∧ c ≠ '#' := by
    intro c hc
    rw [List.mem_cons, List.mem_append, List.mem_cons] at hc
    rcases hc with rfl | hc | rfl | hc
    · decide
    · exact hnameChars c hc
    · decide
    · exact of_mem_encodeURIComponent hc
  have hchars : ∀ c ∈ base ++ '?' :: (name ++ '=' :: Uri.encodeURIComponent value),
      Url.isControlOrSpace c = false ∧ c ≠ '#' := by
    intro c hc
    rcases List.mem_append.1 hc with hc | hc
    · have hbaseChar := of_isBaseChar (hbase c hc)
      exact ⟨hbaseChar.1, hbaseChar.2.2⟩
    · exact hquery c hc
  have hnameSent : Url.percentEncode Url.inQuerySet name = name :=
    Url.percentEncode_of_forall fun c hc => inQuerySet_of_escape (.inr (hname c hc))
  rw [locationSearch, Url.stripBlanks_of_forall fun c hc => (hchars c hc).1,
    List.takeWhile_eq_self_iff.2 fun c hc => decide_eq_true (hchars c hc).2,
    List.dropWhile_append_of_pos fun c hc => decide_eq_true (of_isBaseChar (hbase c hc)).2.1,
    List.dropWhile_cons_of_neg (by decide), Url.requestQuery, if_neg (by simp),
    percentEncode_cons, percentEncode_append, hnameSent, percentEncode_cons,
    percentEncode_encodeURIComponent]
  rfl

/-- **A value that was encoded with `encodeURIComponent` is read back from the URL it was put
into.** -/
theorem searchParam_locationSearch {base : Text} (hbase : ∀ c ∈ base, isBaseChar c) {name : Text}
    (hname : ∀ c ∈ name, c.isAlphanum) (value : Text) :
    searchParam (locationSearch (base ++ '?' :: (name ++ '=' :: Uri.encodeURIComponent value)))
      name = some value := by
  have hnameSent : Url.percentEncode inComponentSet name = name := by
    refine Url.percentEncode_of_forall fun c hc => ?_
    have hne : c ≠ '\'' := by
      rintro rfl
      exact absurd (hname _ hc) (by decide)
    simp [inComponentSet, Uri.isComponentChar, hname c hc, hne]
  have hamp : '&' ∉ name ++ '=' :: Url.percentEncode inComponentSet value := by
    rw [List.mem_append, List.mem_cons]
    rintro (hmem | hmem | hmem)
    · exact absurd (hname _ hmem) (by decide)
    · exact absurd hmem (by decide)
    · exact absurd (of_mem_percentEncode hmem) (by decide)
  have heq : ∀ c ∈ name, decide (c ≠ '=') = true := by
    intro c hc
    refine decide_eq_true ?_
    rintro rfl
    exact absurd (hname _ hc) (by decide)
  have hpair : formPair (name ++ '=' :: Url.percentEncode inComponentSet value) =
      (name, value) := by
    rw [formPair, List.takeWhile_append_of_pos heq, List.dropWhile_append_of_pos heq,
      List.takeWhile_cons_of_neg (by decide), List.dropWhile_cons_of_neg (by decide),
      List.append_nil, List.drop_one, List.tail_cons, formDecode_percentEncode rfl rfl]
    conv_lhs => rw [← hnameSent]
    rw [formDecode_percentEncode rfl rfl]
  rw [locationSearch_append hbase hname, searchParam, dropQuestion, formPairs,
    Text.split_of_not_mem hamp]
  simp [hpair]

end Query
