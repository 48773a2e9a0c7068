/-
**The request a client makes for a URL.**

A client that fetches a URL parses it first: tabs and newlines are removed, the scheme and the
authority are cut off, dot segments of the path are resolved, characters that may not stand in a
path or a query are percent-encoded, and the fragment is dropped.  What is left is the request
target, and a server sees only that.  So a server finds the path that was appended to an origin only
if parsing changes nothing in it.

A backslash separates segments as `/` does, as in the schemes `http` and `https`.

Main definitions:

* `Url.requestTarget` — the request target of a URL;
* `Url.Origin` — a scheme and an authority, with nothing after them;
* `Url.IsDotSegment` — the segments that are resolved and not sent.

Main results:

* `Url.requestTarget_origin_append` — **a path without dot segments, of characters that need no
  encoding, is its own request target** under every origin.
-/

import Mathlib.Data.List.DropRight
import Vckit.Text

set_option relaxedAutoImplicit false
set_option autoImplicit false

namespace Url

/-! ### Characters -/

/-- A control character or a space. -/
def isControlOrSpace (c : Char) : Bool := decide (c.toNat ≤ 0x20)

/-- The characters that are removed wherever they stand. -/
def isTabOrNewline (c : Char) : Bool := c = '\t' || c = '\n' || c = '\r'

/-- The separators of path segments. -/
def isSlash (c : Char) : Bool := c = '/' || c = '\\'

/-- The characters an authority ends before. -/
def endsAuthority (c : Char) : Bool := isSlash c || c = '?' || c = '#'

/-- The query percent-encode set: controls, what is not ASCII, space, `"`, `#`, `<`, `>`, `'`. -/
def inQuerySet (c : Char) : Bool :=
  decide (c.toNat < 0x20) || decide (0x7e < c.toNat) ||
    [0x20, 0x22, 0x23, 0x27, 0x3c, 0x3e].contains c.toNat

/-- The path percent-encode set: controls, what is not ASCII, space, `"`, `#`, `<`, `>`, `?`, `^`,
the backquote and braces. -/
def inPathSet (c : Char) : Bool :=
  decide (c.toNat < 0x20) || decide (0x7e < c.toNat) ||
    [0x20, 0x22, 0x23, 0x3c, 0x3e, 0x3f, 0x5e, 0x60, 0x7b, 0x7d].contains c.toNat

/-- An upper-case hexadecimal digit. -/
def hexDigit (n : ℕ) : Char := Char.ofNat (if n < 10 then 0x30 + n else 0x41 + n - 10)

/-- A byte as `%XX`. -/
def percentEncodeByte (b : UInt8) : Text :=
  ['%', hexDigit (b.toNat / 16), hexDigit (b.toNat % 16)]

/-- Percent-encode the characters of a set. -/
def percentEncode (inSet : Char → Bool) (s : Text) : Text :=
  s.flatMap fun c => if inSet c then (String.utf8EncodeChar c).flatMap percentEncodeByte else [c]

theorem percentEncode_cons {inSet : Char → Bool} (c : Char) (s : Text) :
    percentEncode inSet (c :: s) =
      (if inSet c then (String.utf8EncodeChar c).flatMap percentEncodeByte else [c]) ++
        percentEncode inSet s :=
  List.flatMap_cons

theorem percentEncode_append {inSet : Char → Bool} (s t : Text) :
    percentEncode inSet (s ++ t) = percentEncode inSet s ++ percentEncode inSet t :=
  List.flatMap_append

theorem percentEncode_of_forall {inSet : Char → Bool} {s : Text}
    (h : ∀ c ∈ s, inSet c = false) : percentEncode inSet s = s := by
  induction s with
  | nil => rfl
  | cons c s ih =>
      have hs := ih fun d hd => h d (List.mem_cons_of_mem c hd)
      rw [percentEncode_cons, hs, h c List.mem_cons_self]
      rfl

/-! ### Segments -/

/-- The segments that stand for the directory itself. -/
def singleDots : List Text := [".".toList, "%2e".toList, "%2E".toList]

/-- The segments that stand for the parent directory. -/
def doubleDots : List Text :=
  ["..".toList, ".%2e".toList, ".%2E".toList, "%2e.".toList, "%2E.".toList, "%2e%2e".toList,
    "%2e%2E".toList, "%2E%2e".toList, "%2E%2E".toList]

/-- A segment that is resolved and not sent. -/
def IsDotSegment (s : Text) : Prop := s ∈ singleDots ∨ s ∈ doubleDots

instance (s : Text) : Decidable (IsDotSegment s) := inferInstanceAs (Decidable (_ ∨ _))

/-- A dot segment starts with a dot or a percent sign. -/
theorem not_isDotSegment_cons {c : Char} {s : Text} (hdot : c ≠ '.') (hpct : c ≠ '%') :
    ¬IsDotSegment (c :: s) := by
  rintro (h | h) <;> simp [singleDots, doubleDots, hdot, hpct] at h

/-- Resolve dot segments; `acc` holds the segments so far, the last one first.  A dot segment at the
end leaves an empty segment. -/
def resolveDots : List Text → List Text → List Text
  | acc, [] => acc.reverse
  | acc, s :: ss =>
      if s ∈ doubleDots then
        resolveDots (if ss = [] then [] :: acc.tail else acc.tail) ss
      else if s ∈ singleDots then resolveDots (if ss = [] then [] :: acc else acc) ss
      else resolveDots (s :: acc) ss

theorem resolveDots_of_forall {ss : List Text} (h : ∀ s ∈ ss, ¬IsDotSegment s) :
    ∀ acc : List Text, resolveDots acc ss = acc.reverse ++ ss := by
  induction ss with
  | nil => intro acc; simp [resolveDots]
  | cons s ss ih =>
      intro acc
      have hs := h s List.mem_cons_self
      rw [IsDotSegment, not_or] at hs
      rw [resolveDots, if_neg hs.2, if_neg hs.1, ih fun t ht => h t (List.mem_cons_of_mem s ht)]
      simp

/-- A path of segments. -/
def joinSegments (ss : List Text) : Text := ss.flatMap fun s => '/' :: s

/-- Cutting a path at its slashes is undone by joining. -/
theorem joinSegments_splitOnP {p : Text} (h : '\\' ∉ p) :
    joinSegments (p.splitOnP isSlash) = '/' :: p := by
  induction p with
  | nil => rfl
  | cons c p ih =>
      rw [List.mem_cons, not_or] at h
      have hp := ih h.2
      rw [List.splitOnP_cons_eq_if_modifyHead]
      by_cases hc : c = '/'
      · subst hc
        rw [if_pos (by decide), joinSegments, List.flatMap_cons]
        rw [joinSegments] at hp
        rw [hp]
        rfl
      · have hslash : isSlash c = false := by simp [isSlash, hc, Ne.symm h.1]
        rw [hslash, if_neg (by simp)]
        obtain ⟨s, ss, hss⟩ := List.exists_cons_of_ne_nil (List.splitOnP_ne_nil isSlash p)
        rw [hss] at hp ⊢
        simp only [joinSegments, List.modifyHead_cons, List.flatMap_cons, List.cons_append,
          List.cons.injEq, true_and] at hp ⊢
        rw [hp]

/-! ### The request target -/

/-- What stands after the scheme, without the slashes before the authority. -/
def afterScheme (url : Text) : Option Text :=
  match url.dropWhile fun c => c ≠ ':' with
  | [] => none
  | _ :: rest => some (rest.dropWhile isSlash)

/-- The path that is sent. -/
def requestPath (path : Text) : Text :=
  joinSegments (resolveDots [] (((percentEncode inPathSet path).drop 1).splitOnP isSlash))

/-- The query that is sent: nothing for a `?` at the end. -/
def requestQuery (query : Text) : Text :=
  if query.length ≤ 1 then [] else percentEncode inQuerySet query

/-- A URL as it is read: blanks at the ends and line breaks are removed. -/
def stripBlanks (url : Text) : Text :=
  ((url.dropWhile isControlOrSpace).rdropWhile isControlOrSpace).filter fun c => !isTabOrNewline c

/-- The request target of a URL. -/
def requestTarget (url : Text) : Option Text :=
  (afterScheme (stripBlanks url)).map fun rest =>
    let pathAndQuery :=
      (rest.dropWhile fun c => !endsAuthority c).takeWhile fun c => c ≠ '#'
    requestPath (pathAndQuery.takeWhile fun c => c ≠ '?') ++
      requestQuery (pathAndQuery.dropWhile fun c => c ≠ '?')

/-! ### A path under an origin -/

/-- A character of a scheme. -/
def isSchemeChar (c : Char) : Bool := c.isAlphanum || c = '+' || c = '-' || c = '.'

/-- A character of an authority. -/
def isAuthorityChar (c : Char) : Bool := !endsAuthority c && !isControlOrSpace c

/-- `scheme://authority`. -/
structure Origin where
  scheme : Text
  authority : Text
  scheme_ne_nil : scheme ≠ []
  scheme_chars : ∀ c ∈ scheme, isSchemeChar c
  authority_ne_nil : authority ≠ []
  authority_chars : ∀ c ∈ authority, isAuthorityChar c

/-- An origin as text. -/
def Origin.text (origin : Origin) : Text := origin.scheme ++ "://".toList ++ origin.authority

/-- A character that stays as it is in a path. -/
def isPathChar (c : Char) : Bool := !inPathSet c && c ≠ '\\'

theorem isControlOrSpace_of_not_control {c : Char} (hcontrol : ¬c.toNat < 0x20)
    (hspace : c.toNat ≠ 0x20) : isControlOrSpace c = false := by
  rw [isControlOrSpace, decide_eq_false_iff_not]
  omega

/-- The character of a path that is sent as it is ends no path and is no blank. -/
theorem of_inPathSet_eq_false {c : Char} (h : inPathSet c = false) :
    isControlOrSpace c = false ∧ c ≠ '#' ∧ c ≠ '?' := by
  refine ⟨?_, ?_, ?_⟩
  · simp only [inPathSet, Bool.or_eq_false_iff, decide_eq_false_iff_not] at h
    refine isControlOrSpace_of_not_control h.1.1 fun hc => ?_
    rw [hc] at h
    exact absurd h.2 (by decide)
  · rintro rfl
    exact absurd h (by decide)
  · rintro rfl
    exact absurd h (by decide)

theorem toNat_of_isAlphanum {c : Char} (h : c.isAlphanum) :
    65 ≤ c.toNat ∧ c.toNat ≤ 90 ∨ 97 ≤ c.toNat ∧ c.toNat ≤ 122 ∨ 48 ≤ c.toNat ∧ c.toNat ≤ 57 := by
  have hupper : c.isUpper = decide ('A'.val ≤ c.val ∧ c.val ≤ 'Z'.val) := rfl
  have hlower : c.isLower = (decide ('a'.val ≤ c.val) && decide (c.val ≤ 'z'.val)) := rfl
  have hdigit : c.isDigit = (decide ('0'.val ≤ c.val) && decide (c.val ≤ '9'.val)) := rfl
  have hcases : (c.isUpper || c.isLower || c.isDigit) = true := h
  simp only [hupper, hlower, hdigit, Bool.or_eq_true, Bool.and_eq_true, decide_eq_true_eq,
    UInt32.le_iff_toNat_le, or_assoc] at hcases
  exact hcases

/-- Letters and digits are sent as they are. -/
theorem isPathChar_of_isAlphanum {c : Char} (h : c.isAlphanum) :
    isPathChar c ∧ isSlash c = false := by
  have hrange := toNat_of_isAlphanum h
  have hset : inPathSet c = false := by
    simp only [inPathSet, Bool.or_eq_false_iff, decide_eq_false_iff_not, List.contains_cons,
      List.contains_nil, beq_eq_false_iff_ne]
    refine ⟨⟨?_, ?_⟩, ?_, ?_, ?_, ?_, ?_, ?_, ?_, ?_, ?_, ?_, trivial⟩ <;> omega
  have hback : c ≠ '\\' := by
    rintro rfl
    exact absurd h (by decide)
  have hslash : c ≠ '/' := by
    rintro rfl
    exact absurd h (by decide)
  simp [isPathChar, isSlash, hset, hback, hslash]

theorem isControlOrSpace_of_isSchemeChar {c : Char} (h : isSchemeChar c) :
    isControlOrSpace c = false := by
  rw [isControlOrSpace, decide_eq_false_iff_not, not_le]
  simp only [isSchemeChar, Bool.or_eq_true, decide_eq_true_eq] at h
  rcases h with ((h | rfl) | rfl) | rfl
  · rcases toNat_of_isAlphanum h with h | h | h <;> omega
  · decide
  · decide
  · decide

theorem Origin.colon_mem (origin : Origin) : ':' ∈ origin.text := by
  simp [Origin.text]

theorem Origin.isControlOrSpace_eq_false (origin : Origin) {c : Char} (hc : c ∈ origin.text) :
    isControlOrSpace c = false := by
  rw [Origin.text, List.mem_append, List.mem_append] at hc
  rcases hc with (hc | hc) | hc
  · exact isControlOrSpace_of_isSchemeChar (origin.scheme_chars c hc)
  · have hall : "://".toList.all (fun c => !isControlOrSpace c) = true := rfl
    simpa using List.all_eq_true.1 hall c hc
  · have := origin.authority_chars c hc
    simp only [isAuthorityChar, Bool.and_eq_true, Bool.not_eq_true'] at this
    exact this.2

theorem stripBlanks_of_forall {url : Text} (h : ∀ c ∈ url, isControlOrSpace c = false) :
    stripBlanks url = url := by
  have hdrop : url.dropWhile isControlOrSpace = url := by
    rw [List.dropWhile_eq_self_iff]
    intro hlen
    simp [h _ (List.getElem_mem hlen)]
  have hrdrop : url.rdropWhile isControlOrSpace = url := by
    rw [List.rdropWhile_eq_self_iff]
    intro hne
    simp [h _ (List.getLast_mem hne)]
  rw [stripBlanks, hdrop, hrdrop, List.filter_eq_self]
  intro c hc
  have hblank := h c hc
  simp only [isControlOrSpace, decide_eq_false_iff_not, not_le] at hblank
  simp only [isTabOrNewline, Bool.not_eq_true', Bool.or_eq_false_iff, decide_eq_false_iff_not]
  refine ⟨⟨?_, ?_⟩, ?_⟩ <;> rintro rfl <;> exact absurd hblank (by decide)

theorem afterScheme_origin_append (origin : Origin) (path : Text) :
    afterScheme (origin.text ++ path) = some (origin.authority ++ path) := by
  have hcolon : (origin.text ++ path).dropWhile (fun c => c ≠ ':') =
      ':' :: '/' :: '/' :: (origin.authority ++ path) := by
    rw [Origin.text, List.append_assoc, List.append_assoc, List.dropWhile_append_of_pos]
    · rfl
    · intro c hc
      have hscheme := origin.scheme_chars c hc
      rw [decide_eq_true_eq]
      rintro rfl
      exact absurd hscheme (by decide)
  obtain ⟨c, authority, hauthority⟩ := List.exists_cons_of_ne_nil origin.authority_ne_nil
  have hc : isSlash c = false := by
    have := origin.authority_chars c (by rw [hauthority]; exact List.mem_cons_self)
    simp only [isAuthorityChar, endsAuthority, Bool.and_eq_true, Bool.not_eq_true',
      Bool.or_eq_false_iff] at this
    exact this.1.1.1
  have hslashes : ('/' :: '/' :: (c :: authority ++ path)).dropWhile isSlash =
      c :: authority ++ path := by
    rw [List.dropWhile_cons_of_pos (by decide), List.dropWhile_cons_of_pos (by decide),
      List.cons_append, List.dropWhile_cons_of_neg (by simp [hc])]
  rw [afterScheme, hcolon, hauthority]
  exact congrArg some hslashes

/-- **The path appended to an origin is the request target**, when parsing has nothing to change in
it. -/
theorem requestTarget_origin_append (origin : Origin) {p : Text}
    (hchars : ∀ c ∈ p, isPathChar c)
    (hdots : ∀ s ∈ p.splitOnP isSlash, ¬IsDotSegment s) :
    requestTarget (origin.text ++ '/' :: p) = some ('/' :: p) := by
  have hpath : ∀ c ∈ '/' :: p, isPathChar c := by
    intro c hc
    rcases List.mem_cons.1 hc with rfl | hc
    · decide
    · exact hchars c hc
  have hset : ∀ c ∈ '/' :: p, inPathSet c = false := by
    intro c hc
    have := hpath c hc
    simp only [isPathChar, Bool.and_eq_true, Bool.not_eq_true'] at this
    exact this.1
  have hblank : ∀ c ∈ origin.text ++ '/' :: p, isControlOrSpace c = false := by
    intro c hc
    rw [List.mem_append] at hc
    rcases hc with hc | hc
    · exact origin.isControlOrSpace_eq_false hc
    · exact (of_inPathSet_eq_false (hset c hc)).1
  have hauthority : (origin.authority ++ '/' :: p).dropWhile (fun c => !endsAuthority c) =
      '/' :: p := by
    rw [List.dropWhile_append_of_pos]
    · rfl
    · intro c hc
      have := origin.authority_chars c hc
      simp only [isAuthorityChar, Bool.and_eq_true] at this
      exact this.1
  have hhash : ('/' :: p).takeWhile (fun c => c ≠ '#') = '/' :: p := by
    rw [List.takeWhile_eq_self_iff]
    exact fun c hc => decide_eq_true (of_inPathSet_eq_false (hset c hc)).2.1
  have hquestion : ∀ c ∈ '/' :: p, decide (c ≠ '?') = true :=
    fun c hc => decide_eq_true (of_inPathSet_eq_false (hset c hc)).2.2
  have hsegments : requestPath ('/' :: p) = '/' :: p := by
    have hback : '\\' ∉ p := by
      intro hmem
      exact absurd (hchars _ hmem) (by decide)
    rw [requestPath, percentEncode_of_forall hset, List.drop_one, List.tail_cons,
      resolveDots_of_forall hdots, List.reverse_nil, List.nil_append, joinSegments_splitOnP hback]
  rw [requestTarget, stripBlanks_of_forall hblank, afterScheme_origin_append, Option.map_some]
  dsimp only
  rw [hauthority, hhash, List.takeWhile_eq_self_iff.2 hquestion,
    List.dropWhile_eq_nil_iff.2 hquestion, hsegments]
  simp [requestQuery]

end Url
