/-
**Routers of a web framework.**

A router keeps its routes in the order in which they were registered, and a request is handled by
the first route of its method whose path accepts the path of the request.  How a path that was
registered accepts one that was requested is a parameter; by default letter case is ignored, and so
is one slash at the end of either of them, so a registered path without parameters accepts finitely
many paths, its spellings.

Main definitions:

* `Express.HttpMethod`, `Express.Route`, `Express.Matcher` — methods, routes, and how paths are
  matched;
* `Express.dispatch` — the handler of a request;
* `Express.defaultMatcher`, `Express.spellings` — matching by default, and the paths it accepts.

Main results:

* `Express.dispatch_eq_some` — the handler is that of a registered route;
* `Express.mem_spellings_iff` — **the paths that are accepted by default are the spellings**.
-/

import Mathlib.Data.List.Sections
import Vckit.Text

set_option relaxedAutoImplicit false
set_option autoImplicit false

namespace Express

/-! ### Routes -/

/-- The methods of requests. -/
inductive HttpMethod where
  | get
  | head
  | post
  | put
  | patch
  | delete
  | options
  deriving DecidableEq

/-- `router.method(path, handler)`. -/
structure Route (H : Type) where
  method : HttpMethod
  path : Text
  handler : H

/-- Whether a registered path accepts the path of a request. -/
abbrev Matcher := Text → Text → Bool

variable {H : Type}

/-- The route handles requests of this method and path. -/
def Route.accepts (accepts : Matcher) (route : Route H) (method : HttpMethod) (path : Text) :
    Bool :=
  decide (route.method = method) && accepts route.path path

/-- The handler of a request. -/
def dispatch (accepts : Matcher) (routes : List (Route H)) (method : HttpMethod) (path : Text) :
    Option H :=
  (routes.find? fun route => route.accepts accepts method path).map Route.handler

variable {accepts : Matcher} {routes : List (Route H)} {method : HttpMethod} {path : Text}

theorem dispatch_eq_some {handler : H} (h : dispatch accepts routes method path = some handler) :
    ∃ route ∈ routes, route.accepts accepts method path = true ∧ route.handler = handler := by
  obtain ⟨route, hfind, rfl⟩ := Option.map_eq_some_iff.1 h
  exact ⟨route, List.mem_of_find?_eq_some hfind, by simpa using List.find?_some hfind, rfl⟩

/-! ### Matching by default -/

/-- A text without the difference between letter cases. -/
def foldCase (s : Text) : Text := s.map Char.toLower

/-- A registered path without one slash at its end. -/
def dropTrailingSlash (path : Text) : Text :=
  if path.getLast? = some '/' then path.dropLast else path

/-- Matching by default, for a path without parameters. -/
def defaultMatcher : Matcher := fun registered path =>
  decide (foldCase path = foldCase (dropTrailingSlash registered)) ||
    decide (foldCase path = foldCase (dropTrailingSlash registered ++ ['/']))

/-- Both cases of a letter. -/
def letterCases (c : Char) : List Char := [c.toLower, c.toUpper]

/-- A text in every combination of letter cases. -/
def caseSpellings (s : Text) : List Text := (s.map letterCases).sections

/-- The paths that a registered path accepts by default. -/
def spellings (registered : Text) : List Text :=
  caseSpellings (dropTrailingSlash registered) ++
    caseSpellings (dropTrailingSlash registered ++ ['/'])

theorem toNat_toLower (c : Char) :
    c.toLower.toNat = if 65 ≤ c.toNat ∧ c.toNat ≤ 90 then c.toNat + 32 else c.toNat := by
  have hupper : ('A'.val ≤ c.val ∧ c.val ≤ 'Z'.val) ↔ 65 ≤ c.toNat ∧ c.toNat ≤ 90 := Iff.rfl
  by_cases h : 65 ≤ c.toNat ∧ c.toNat ≤ 90
  · rw [if_pos h, show c.toLower = _ from dif_pos (hupper.2 h)]
    change (c.val + ('a'.val - 'A'.val)).toNat = c.toNat + 32
    have hoffset : ('a'.val - 'A'.val).toNat = 32 := rfl
    rw [UInt32.toNat_add, hoffset]
    change (c.toNat + 32) % 2 ^ 32 = c.toNat + 32
    omega
  · rw [if_neg h, show c.toLower = c from dif_neg fun h' => h (hupper.1 h')]

theorem toNat_toUpper (c : Char) :
    c.toUpper.toNat = if 97 ≤ c.toNat ∧ c.toNat ≤ 122 then c.toNat - 32 else c.toNat := by
  have hlower : ('a'.val ≤ c.val ∧ c.val ≤ 'z'.val) ↔ 97 ≤ c.toNat ∧ c.toNat ≤ 122 := Iff.rfl
  by_cases h : 97 ≤ c.toNat ∧ c.toNat ≤ 122
  · rw [if_pos h, show c.toUpper = _ from dif_pos (hlower.2 h)]
    change (c.val + ('A'.val - 'a'.val)).toNat = c.toNat - 32
    -- the offset is negative and wraps around
    have hoffset : ('A'.val - 'a'.val).toNat = 2 ^ 32 - 32 := rfl
    rw [UInt32.toNat_add, hoffset]
    change (c.toNat + (2 ^ 32 - 32)) % 2 ^ 32 = c.toNat - 32
    omega
  · rw [if_neg h, show c.toUpper = c from dif_neg fun h' => h (hlower.1 h')]

/-- The characters that differ from a letter at most in case are its two cases. -/
theorem mem_letterCases_iff {c d : Char} : d ∈ letterCases c ↔ d.toLower = c.toLower := by
  have hext : ∀ {a b : Char}, a = b ↔ a.toNat = b.toNat :=
    fun {a b} => ⟨congrArg Char.toNat, fun h => Char.toNat_inj.1 h⟩
  rw [letterCases, List.mem_pair, hext, hext, hext, toNat_toLower, toNat_toLower, toNat_toUpper]
  split_ifs <;> omega

theorem mem_caseSpellings_iff {s t : Text} : t ∈ caseSpellings s ↔ foldCase t = foldCase s := by
  rw [caseSpellings, List.mem_sections, List.forall₂_map_right_iff]
  induction s generalizing t with
  | nil => cases t <;> simp [foldCase]
  | cons c s ih =>
      cases t with
      | nil => simp [foldCase]
      | cons d t =>
          have hrest := @ih t
          simp only [foldCase, List.map_cons, List.cons.injEq, List.forall₂_cons] at hrest ⊢
          rw [hrest, mem_letterCases_iff]

/-- **The paths that are accepted by default are the spellings.** -/
theorem mem_spellings_iff {registered : Text} :
    path ∈ spellings registered ↔ defaultMatcher registered path = true := by
  rw [spellings, List.mem_append, mem_caseSpellings_iff, mem_caseSpellings_iff, defaultMatcher,
    Bool.or_eq_true, decide_eq_true_eq, decide_eq_true_eq]

end Express
