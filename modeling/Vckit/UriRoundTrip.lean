/-
**`decodeURIComponent` undoes `encodeURIComponent`.**

A character that is escaped becomes its bytes in UTF-8, and the loop of `decodeURIComponent` joins
exactly these bytes to the character again: a first byte says how many follow, the value is not
shorter than it could be, and it is no surrogate.  So a text that is put into a path as a component
is what a route reads out of it.

Main results:

* `Uri.decodeGo_escapes` — the escapes of a character are decoded to it;
* `Uri.decodeURIComponent_encodeURIComponent` — **decoding undoes encoding**;
* `Uri.slash_not_mem_encodeURIComponent` — an encoded text is one segment of a path.
-/

import Vckit.UrlQuery

set_option relaxedAutoImplicit false
set_option autoImplicit false

namespace Uri

open Query (utf8Bytes utf8Bytes_eq toNat_range hexByte_hexDigit)

/-! ### One character -/

/-- The escape of a byte. -/
def escapeByte (n : ℕ) : Text := ['%', Url.hexDigit (n / 16), Url.hexDigit (n % 16)]

theorem flatMap_percentEncodeByte (c : Char) :
    (String.utf8EncodeChar c).flatMap Url.percentEncodeByte = (utf8Bytes c).flatMap escapeByte := by
  rw [utf8Bytes, List.flatMap_map]
  rfl

/-- What a byte is read as, if others of its character were read. -/
def readByte (pending : Option Pending) (n : ℕ) : Option (Char ⊕ Pending) :=
  pending.elim (firstByte n) fun pending => nextByte pending n

theorem decodeGo_escapeByte (pending : Option Pending) {n : ℕ} (hn : n < 256) (rest : Text) :
    decodeGo pending (escapeByte n ++ rest) =
      (readByte pending n).bind fun next =>
        next.elim (fun c => (c :: ·) <$> decodeGo none rest)
          fun pending => decodeGo (some pending) rest := by
  have hcut : escapeByte n ++ rest =
      '%' :: Url.hexDigit (n / 16) :: Url.hexDigit (n % 16) :: rest := rfl
  rw [hcut, decodeGo_escape, hexByte_hexDigit hn]
  change (readByte pending n).bind _ = _
  refine congrArg _ (funext fun next => ?_)
  cases next <;> rfl

/-- A byte that is the last one of a character. -/
theorem decodeGo_last {pending : Option Pending} {n : ℕ} {c : Char} (hn : n < 256)
    (h : readByte pending n = some (.inl c)) (rest : Text) :
    decodeGo pending (escapeByte n ++ rest) = (c :: ·) <$> decodeGo none rest := by
  rw [decodeGo_escapeByte pending hn, h]
  rfl

/-- A byte with others to follow. -/
theorem decodeGo_more {pending : Option Pending} {n : ℕ} {pending' : Pending} (hn : n < 256)
    (h : readByte pending n = some (.inr pending')) (rest : Text) :
    decodeGo pending (escapeByte n ++ rest) = decodeGo (some pending') rest := by
  rw [decodeGo_escapeByte pending hn, h]
  rfl

/-- A further byte with others to follow. -/
theorem readByte_more (missing value least : ℕ) {n : ℕ} (hn : n < 64) :
    readByte (some ⟨missing + 2, value, least⟩) (n + 0x80) =
      some (.inr ⟨missing + 1, value * 64 + n, least⟩) := by
  have hmod : (n + 0x80) % 64 = n := by omega
  have hmissing : missing + 2 ≠ 1 := by omega
  rw [readByte, Option.elim_some, nextByte, hmod, if_neg (by omega), if_pos hmissing]
  rfl

/-- The last byte of a character. -/
theorem readByte_last {value n : ℕ} {c : Char} (least : ℕ) (hn : n < 64)
    (hc : value * 64 + n = c.toNat) (hleast : least ≤ c.toNat) :
    readByte (some ⟨1, value, least⟩) (n + 0x80) = some (.inl c) := by
  have hmod : (n + 0x80) % 64 = n := by omega
  have hvalid : c.toNat.isValidChar := c.valid
  rw [readByte, Option.elim_some, nextByte, hmod, hc, if_neg (by omega), if_neg (by simp),
    if_pos ⟨hleast, hvalid⟩, Char.ofNat_toNat]

/-- **The escapes of a character are decoded to it.** -/
theorem decodeGo_escapes (c : Char) (rest : Text) :
    decodeGo none ((utf8Bytes c).flatMap escapeByte ++ rest) =
      (c :: ·) <$> decodeGo none rest := by
  have hrange := toNat_range c
  rw [utf8Bytes_eq]
  split_ifs with h1 h2 h3
  · have hfirst : readByte none c.toNat = some (.inl c) := by
      rw [readByte, Option.elim_none, firstByte, if_pos (by omega), Char.ofNat_toNat]
    simp only [List.flatMap_cons, List.flatMap_nil, List.append_nil]
    rw [decodeGo_last (by omega) hfirst]
  · have hfirst : readByte none (c.toNat / 64 + 0xc0) = some (.inr ⟨1, c.toNat / 64, 0x80⟩) := by
      have hmod : (c.toNat / 64 + 0xc0) % 32 = c.toNat / 64 := by omega
      rw [readByte, Option.elim_none, firstByte, if_neg (by omega), if_neg (by omega),
        if_pos (by omega), hmod]
    have hlast : readByte (some ⟨1, c.toNat / 64, 0x80⟩) (c.toNat % 64 + 0x80) = some (.inl c) :=
      readByte_last _ (by omega) (by omega) (by omega)
    simp only [List.flatMap_cons, List.flatMap_nil, List.append_assoc, List.nil_append]
    rw [decodeGo_more (by omega) hfirst, decodeGo_last (by omega) hlast]
  · have hfirst : readByte none (c.toNat / 4096 + 0xe0) =
        some (.inr ⟨2, c.toNat / 4096, 0x800⟩) := by
      have hmod : (c.toNat / 4096 + 0xe0) % 16 = c.toNat / 4096 := by omega
      rw [readByte, Option.elim_none, firstByte, if_neg (by omega), if_neg (by omega),
        if_neg (by omega), if_pos (by omega), hmod]
    have hnext := readByte_more 0 (c.toNat / 4096) 0x800 (n := c.toNat / 64 % 64) (by omega)
    have hlast : readByte (some ⟨1, c.toNat / 4096 * 64 + c.toNat / 64 % 64, 0x800⟩)
        (c.toNat % 64 + 0x80) = some (.inl c) :=
      readByte_last _ (by omega) (by omega) (by omega)
    simp only [List.flatMap_cons, List.flatMap_nil, List.append_assoc, List.nil_append]
    rw [decodeGo_more (by omega) hfirst, decodeGo_more (by omega) hnext,
      decodeGo_last (by omega) hlast]
  · have hfirst : readByte none (c.toNat / 262144 + 0xf0) =
        some (.inr ⟨3, c.toNat / 262144, 0x10000⟩) := by
      have hmod : (c.toNat / 262144 + 0xf0) % 8 = c.toNat / 262144 := by omega
      rw [readByte, Option.elim_none, firstByte, if_neg (by omega), if_neg (by omega),
        if_neg (by omega), if_neg (by omega), if_pos (by omega), hmod]
    have hnext := readByte_more 1 (c.toNat / 262144) 0x10000 (n := c.toNat / 4096 % 64) (by omega)
    have hnext' := readByte_more 0 (c.toNat / 262144 * 64 + c.toNat / 4096 % 64) 0x10000
      (n := c.toNat / 64 % 64) (by omega)
    have hlast : readByte (some ⟨1, (c.toNat / 262144 * 64 + c.toNat / 4096 % 64) * 64 +
        c.toNat / 64 % 64, 0x10000⟩) (c.toNat % 64 + 0x80) = some (.inl c) :=
      readByte_last _ (by omega) (by omega) (by omega)
    simp only [List.flatMap_cons, List.flatMap_nil, List.append_assoc, List.nil_append]
    rw [decodeGo_more (by omega) hfirst, decodeGo_more (by omega) hnext,
      decodeGo_more (by omega) hnext', decodeGo_last (by omega) hlast]

/-! ### Texts -/

/-- **Decoding undoes encoding.** -/
theorem decodeURIComponent_encodeURIComponent (s : Text) :
    decodeURIComponent (encodeURIComponent s) = some s := by
  rw [decodeURIComponent, encodeURIComponent]
  induction s with
  | nil => rfl
  | cons c s ih =>
      rw [Url.percentEncode_cons]
      split_ifs with hc
      · rw [flatMap_percentEncodeByte, decodeGo_escapes, ih]
        rfl
      · have hne : c ≠ '%' := by
          rintro rfl
          exact hc rfl
        rw [List.singleton_append, decodeGo_char hne, if_pos Option.isNone_none, ih]
        rfl

/-- An encoded text is one segment of a path. -/
theorem slash_not_mem_encodeURIComponent (s : Text) : '/' ∉ encodeURIComponent s := by
  intro hmem
  exact absurd (Query.of_mem_percentEncode hmem) (by decide)

theorem encodeURIComponent_ne_nil {s : Text} (h : s ≠ []) : encodeURIComponent s ≠ [] := by
  intro hnil
  have hdecode := decodeURIComponent_encodeURIComponent s
  rw [hnil] at hdecode
  exact h (Option.some.inj hdecode).symm

end Uri
