/-
**Mounted routers and parameters in paths.**

A router that is mounted under a path sees the rest of the path of a request.  A route with
parameters accepts a path segment by segment: a fixed segment up to letter case, a parameter any
segment that is not empty; one slash at the end is ignored.  The segments that the parameters stand
for are decoded, and a request whose segments cannot be decoded is a bad one.

Main definitions:

* `Express.pathname`, `Express.unmount` — the path of a request target, and what a mounted router
  sees of it;
* `Express.Segment`, `Express.matchPath` — routes with parameters, and what they capture;
* `Express.Matched`, `Express.matchRoute` — a route that is tried on a path;
* `Express.dispatchParams` — the route of a request.

Main results:

* `Express.unmount_append` — the rest of a path after the mount path;
* `Express.matchPath_joinSegments` — **a path that is built of segments is matched segment by
  segment**.
-/

import Vckit.Express
import Vckit.UriComponent

set_option relaxedAutoImplicit false
set_option autoImplicit false

namespace Express

/-! ### Mounting -/

/-- The path of a request target. -/
def pathname (target : Text) : Text := target.takeWhile fun c => decide (c ≠ '?')

/-- The query string of a request target. -/
def queryString (target : Text) : Text := (target.dropWhile fun c => decide (c ≠ '?')).drop 1

/-- What stands after the mount path: it ends at a slash or at the end of the path, and takes one
slash with it if it can. -/
def afterMount : Text → Option Text
  | [] => some ['/']
  | c :: rest =>
      if c = '/' then
        (match rest with
          | [] => some ['/']
          | d :: rest' => some (if d = '/' then d :: rest' else c :: d :: rest'))
      else none

/-- What a router that is mounted under `mount` sees of a path. -/
def unmount (mount path : Text) : Option Text :=
  let base := dropTrailingSlash mount
  if foldCase (path.take base.length) = foldCase base then afterMount (path.drop base.length)
  else none

/-! ### Parameters -/

/-- A segment of a registered path. -/
inductive Segment where
  | fixed (text : Text)
  | param

/-- The segments that the parameters stand for. -/
def matchSegments : List Segment → List Text → Option (List Text)
  | [], [] => some []
  | .fixed text :: pattern, s :: ss =>
      if foldCase s = foldCase text then matchSegments pattern ss else none
  | .param :: pattern, s :: ss => if s = [] then none else (s :: ·) <$> matchSegments pattern ss
  | _, _ => none

/-- The same, for a path. -/
def matchPath (pattern : List Segment) (path : Text) : Option (List Text) :=
  match Text.split (dropTrailingSlash path) ['/'] with
  | [] :: ss => matchSegments pattern ss
  | _ => none

/-- A route that is tried on a path. -/
inductive Matched where
  /-- It does not accept the path. -/
  | no
  /-- It accepts the path, but a parameter cannot be decoded: `400 Bad Request`. -/
  | malformed
  | params (values : List Text)
  deriving DecidableEq

/-- The parameters of a path, decoded. -/
def matchRoute (pattern : List Segment) (path : Text) : Matched :=
  match matchPath pattern path with
  | none => .no
  | some captured =>
      match captured.mapM Uri.decodeURIComponent with
      | none => .malformed
      | some values => .params values

/-- `router.method(path, handler)`, for a path with parameters. -/
structure ParamRoute (H : Type) where
  method : HttpMethod
  path : List Segment
  handler : H

/-- A route for `GET` handles `HEAD` as well. -/
def HttpMethod.handles (registered requested : HttpMethod) : Bool :=
  decide (registered = requested) || (decide (registered = .get) && decide (requested = .head))

/-- Where a request is handled. -/
inductive Dispatched (H : Type) where
  | none
  | malformed
  | route (handler : H) (params : List Text)

/-- The routes are tried in turn.  A parameter that cannot be decoded ends the search, also when the
route is one of another method. -/
def dispatchParams {H : Type} (method : HttpMethod) (path : Text) :
    List (ParamRoute H) → Dispatched H
  | [] => .none
  | route :: routes =>
      match matchRoute route.path path with
      | .no => dispatchParams method path routes
      | .malformed => .malformed
      | .params values =>
          if route.method.handles method then .route route.handler values
          else dispatchParams method path routes

section Dispatch

variable {H : Type} {method : HttpMethod} {path : Text} {route : ParamRoute H}
  {routes : List (ParamRoute H)} {values : List Text}

theorem dispatchParams_cons_no (h : matchRoute route.path path = .no) :
    dispatchParams method path (route :: routes) = dispatchParams method path routes := by
  rw [dispatchParams, h]

/-- A route of another method. -/
theorem dispatchParams_cons_skip (h : matchRoute route.path path = .params values)
    (hmethod : route.method.handles method = false) :
    dispatchParams method path (route :: routes) = dispatchParams method path routes := by
  rw [dispatchParams, h]
  dsimp only
  rw [hmethod, if_neg Bool.false_ne_true]

theorem dispatchParams_cons_params (h : matchRoute route.path path = .params values)
    (hmethod : route.method.handles method = true) :
    dispatchParams method path (route :: routes) = .route route.handler values := by
  rw [dispatchParams, h]
  dsimp only
  rw [hmethod, if_pos rfl]

/-- No route accepts the path. -/
theorem dispatchParams_eq_none (h : ∀ route ∈ routes, matchRoute route.path path = .no) :
    dispatchParams method path routes = .none := by
  induction routes with
  | nil => rfl
  | cons route routes ih =>
      rw [dispatchParams_cons_no (h route List.mem_cons_self)]
      exact ih fun route' hmem => h route' (List.mem_cons_of_mem _ hmem)

/-- A request is handled by one of the routes. -/
theorem exists_of_dispatchParams {handler : H}
    (h : dispatchParams method path routes = .route handler values) :
    handler ∈ routes.map ParamRoute.handler := by
  induction routes with
  | nil => cases h
  | cons route routes ih =>
      rw [dispatchParams] at h
      cases hmatch : matchRoute route.path path with
      | no =>
          rw [hmatch] at h
          exact List.mem_cons_of_mem _ (ih h)
      | malformed =>
          rw [hmatch] at h
          cases h
      | params captured =>
          rw [hmatch] at h
          dsimp only at h
          split_ifs at h with hmethod
          · cases h
            exact List.mem_cons_self
          · exact List.mem_cons_of_mem _ (ih h)

end Dispatch

/-! ### Paths that are built of segments -/

theorem pathname_of_not_mem {target : Text} (h : '?' ∉ target) : pathname target = target := by
  rw [pathname, List.takeWhile_eq_self_iff]
  intro c hc
  rw [decide_eq_true_eq]
  rintro rfl
  exact h hc

theorem queryString_of_not_mem {target : Text} (h : '?' ∉ target) : queryString target = [] := by
  have hdrop : target.dropWhile (fun c => decide (c ≠ '?')) = [] := by
    rw [List.dropWhile_eq_nil_iff]
    intro c hc
    rw [decide_eq_true_eq]
    rintro rfl
    exact h hc
  rw [queryString, hdrop]
  rfl

theorem dropTrailingSlash_of_getLast? {path : Text} (h : path.getLast? ≠ some '/') :
    dropTrailingSlash path = path := if_neg h

/-- The rest of a path after the mount path. -/
theorem unmount_append {mount rest : Text} (hmount : mount.getLast? ≠ some '/')
    (hrest : rest.head? ≠ some '/') :
    unmount mount (mount ++ '/' :: rest) = some ('/' :: rest) := by
  rw [unmount, dropTrailingSlash_of_getLast? hmount, List.take_left, if_pos rfl, List.drop_left]
  cases rest with
  | nil => rfl
  | cons d rest =>
      have hd : d ≠ '/' := fun hd => hrest (by rw [hd]; rfl)
      simp only [afterMount, if_true, if_neg hd]

/-- A router sees nothing of a path that starts otherwise than its mount path. -/
theorem unmount_of_take {mount path : Text} {n : ℕ} (hn : n ≤ (dropTrailingSlash mount).length)
    (hne : foldCase (path.take n) ≠ foldCase ((dropTrailingSlash mount).take n)) :
    unmount mount path = none := by
  rw [unmount]
  refine if_neg fun heq => hne ?_
  have htake := congrArg (List.take n) heq
  rw [foldCase, foldCase, ← List.map_take, ← List.map_take, List.take_take, min_eq_left hn] at htake
  exact htake

/-- A pattern accepts as many segments as it has. -/
theorem length_of_matchSegments {pattern : List Segment} :
    ∀ {ss captured : List Text}, matchSegments pattern ss = some captured →
      pattern.length = ss.length := by
  induction pattern with
  | nil =>
      intro ss captured h
      cases ss with
      | nil => rfl
      | cons s ss => cases h
  | cons segment pattern ih =>
      intro ss captured h
      cases ss with
      | nil => cases segment <;> cases h
      | cons s ss =>
          rw [List.length_cons, List.length_cons]
          cases segment with
          | fixed text =>
              rw [matchSegments] at h
              split_ifs at h
              rw [ih h]
          | param =>
              rw [matchSegments] at h
              split_ifs at h
              obtain ⟨captured', hrest, -⟩ := Option.map_eq_some_iff.1 h
              rw [ih hrest]

theorem matchRoute_of_matchPath {pattern : List Segment} {path : Text}
    (h : matchPath pattern path = none) : matchRoute pattern path = .no := by
  rw [matchRoute, h]

theorem split_append_joinSegments {ss : List Text} (hss : ∀ s ∈ ss, '/' ∉ s) :
    ∀ {t : Text}, '/' ∉ t → Text.split (t ++ Url.joinSegments ss) ['/'] = t :: ss := by
  induction ss with
  | nil =>
      intro t ht
      simpa [Url.joinSegments] using Text.split_of_not_mem ht
  | cons s ss ih =>
      intro t ht
      have hrest := ih (fun s' hs' => hss s' (List.mem_cons_of_mem s hs'))
        (hss s List.mem_cons_self)
      have hcut : t ++ Url.joinSegments (s :: ss) = t ++ '/' :: (s ++ Url.joinSegments ss) := rfl
      rw [hcut, Text.split_append_cons, Text.split_of_not_mem ht, hrest]
      rfl

/-- A path built of segments does not end with a slash, unless its last segment is empty. -/
theorem getLast?_joinSegments {ss : List Text} {s : Text} (hslash : '/' ∉ s) (hne : s ≠ []) :
    (Url.joinSegments (ss ++ [s])).getLast? ≠ some '/' := by
  have hlast : (Url.joinSegments (ss ++ [s])).getLast? = s.getLast? := by
    rw [Url.joinSegments, List.flatMap_append, List.flatMap_singleton,
      List.getLast?_append_of_ne_nil _ (List.cons_ne_nil _ _)]
    obtain ⟨c, t, rfl⟩ := List.exists_cons_of_ne_nil hne
    exact List.getLast?_cons_cons
  rw [hlast]
  exact fun h => hslash (List.mem_of_getLast? h)

/-- **A path that is built of segments is matched segment by segment.** -/
theorem matchPath_joinSegments {pattern : List Segment} {ss : List Text} {s : Text}
    (hss : ∀ t ∈ ss, '/' ∉ t) (hslash : '/' ∉ s) (hne : s ≠ []) :
    matchPath pattern (Url.joinSegments (ss ++ [s])) = matchSegments pattern (ss ++ [s]) := by
  have hall : ∀ t ∈ ss ++ [s], '/' ∉ t := by
    intro t ht
    rcases List.mem_append.1 ht with ht | ht
    · exact hss t ht
    · rwa [List.mem_singleton.1 ht]
  have hsplit := split_append_joinSegments hall (t := []) List.not_mem_nil
  rw [List.nil_append] at hsplit
  rw [matchPath, dropTrailingSlash_of_getLast? (getLast?_joinSegments hslash hne), hsplit]

end Express
