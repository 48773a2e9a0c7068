/-
**The server and its links.**

The server hands a request to its routers in the order of the configuration, until one of them
answers.  The router of DID documents and the VC API come first and are mounted at no path, so they
see every request: the links that the other parts hand out are theirs only if these two let them
pass.  They do; it is a credential whose link the router of DID documents takes, when the id looks
like `did.json`.

Main definitions:

* `Server.Request`, `Server.Parts`, `Server.Answer` — requests, the parts of the server, and which
  of them answers;
* `Server.serverUse`, `Server.respond` — the routers in their order, and the answer.

Main results:

* `Server.respond_listPath`, `Server.respond_documentPath`, `Server.respond_credentialPath` — who
  answers for a link;
* `Server.links_reach_their_routers` — **every link reaches the part that handed it out**, but for
  the credentials with such an id.
-/

import Vckit.EncryptedStoreRouter
import Vckit.ListRouter
import Vckit.VcRouter
import Vckit.WebDidRouter

set_option relaxedAutoImplicit false
set_option autoImplicit false

namespace Server

open Express (HttpMethod Segment)

variable {N S R : Type}

/-! ### The server -/

/-- A request, and what `json` makes of its body. -/
structure Request (N : Type) where
  method : HttpMethod
  originalUrl : Text
  host : Text
  hostname : Text
  body : Except JsError (Json N)

/-- The parts of the server: what its routers are made with, and the tables behind them.  What is
mounted beside them under a path is given the mount path and the rest of the path, and may pass. -/
structure Parts (N S R : Type) where
  keyLibrary : WebDid.KeyLibrary
  didOptions : WebDid.WebDidDocRouterOptions S
  didManagerGet : Text → Except JsError (WebDid.IIdentifier S)
  validate : VcApi.Validator N
  syntaxMessage : Text → Text
  queryKey : Text → Option (Json N)
  storageEnv : EncryptedStorage.Env N
  storage : EncryptedStorage.Db
  listEnv : Revocation.Env
  lists : Revocation.Db
  mounted : Text → Text → Request N → Option R

/-- Which part answers, and what. -/
inductive Answer (N S R : Type) where
  /-- `cors` answers `OPTIONS` itself. -/
  | preflight
  | didDoc (served : WebDid.Served S)
  | vcApi (routed : VcApi.Routed N)
  | document (reply : EncryptedStorage.StorageReply N)
  | list (reply : Revocation.ListReply)
  | mounted (response : R)

/-- `cors()` -/
def cors (req : Request N) : Option (Answer N S R) :=
  if req.method = .options then some .preflight else none

/-- `WebDidDocRouter`.  A path that cannot be decoded is refused for every method. -/
def didDocs (parts : Parts N S R) (req : Request N) : Option (Answer N S R) :=
  let didRequest : WebDid.Request :=
    ⟨Express.pathname req.originalUrl, req.host, req.hostname⟩
  let served :=
    WebDid.serve parts.keyLibrary parts.didOptions (some parts.didManagerGet) didRequest
  match WebDid.lookupFor didRequest with
  | .next => none
  | .badRequest => some (.didDoc served)
  | .did _ => if HttpMethod.get.handles req.method then some (.didDoc served) else none

/-- What the VC API sees of a request. -/
def vcRequest (req : Request N) : VcApi.VcRequest N :=
  ⟨req.method, Express.pathname req.originalUrl, true, req.body⟩

/-- `VCRouter` -/
def vcApi (parts : Parts N S R) (req : Request N) : Option (Answer N S R) :=
  match VcApi.routed parts.validate (vcRequest req) with
  | .reply .next => none
  | routed => some (.vcApi routed)

/-- `encryptedStoreRouter` -/
def encryptedStorage [JsonNumber N] (parts : Parts N S R) (req : Request N) :
    Option (Answer N S R) :=
  match EncryptedStorage.encryptedStoreRouter parts.syntaxMessage parts.queryKey parts.storageEnv
      ⟨req.method, req.originalUrl, true⟩ parts.storage with
  | .next => none
  | reply => some (.document reply)

/-- `revocationList2020Router` -/
def revocationList (parts : Parts N S R) (req : Request N) : Option (Answer N S R) :=
  match Revocation.revocationList2020Router parts.listEnv ⟨req.method, req.originalUrl, true⟩
      parts.lists with
  | .next => none
  | reply => some (.list reply)

/-- What is mounted under a path beside the routers above. -/
def mountedAt (parts : Parts N S R) (mount : Text) (req : Request N) : Option (Answer N S R) := do
  let path ← Express.unmount mount (Express.pathname req.originalUrl)
  (parts.mounted mount path req).map .mounted

/-- The path of the agent's endpoint. -/
def agentMount : Text := "/agent".toList

/-- The routers that are mounted at no path. -/
def rootUse (parts : Parts N S R) : List (Request N → Option (Answer N S R)) :=
  [cors, didDocs parts, vcApi parts]

/-- The routers that are mounted under a path. -/
def mountedUse [JsonNumber N] (parts : Parts N S R) : List (Request N → Option (Answer N S R)) :=
  [mountedAt parts "/vc-api.json".toList, mountedAt parts "/vc-api-docs".toList,
    mountedAt parts "/messaging".toList, encryptedStorage parts, revocationList parts,
    mountedAt parts agentMount, mountedAt parts "/open-api.json".toList,
    mountedAt parts "/api-docs".toList]

/-- The routers of the server, in the order of the configuration. -/
def serverUse [JsonNumber N] (parts : Parts N S R) : List (Request N → Option (Answer N S R)) :=
  rootUse parts ++ mountedUse parts

/-- The answer of the server, if there is one. -/
def respond [JsonNumber N] (parts : Parts N S R) (req : Request N) : Option (Answer N S R) :=
  (serverUse parts).findSome? fun router => router req

/-! ### What the router of DID documents lets pass -/

/-- What the second route captures. -/
theorem eq_of_didJsonCapture {path captured : Text}
    (h : WebDid.didJsonCapture path = some captured) :
    ∃ c, path = '/' :: captured ++ '/' :: ("did".toList ++ c :: "json".toList) := by
  cases path with
  | nil => cases h
  | cons slash rest =>
      rw [WebDid.didJsonCapture] at h
      split_ifs at h with hcond
      obtain ⟨rfl, hne, hdid, hjson, -⟩ := hcond
      obtain rfl := Option.some.inj h
      have hlength : (rest.drop (rest.length - 9)).length = 9 := by
        have hdrop := congrArg List.length hjson
        have htake := congrArg List.length hdid
        rw [List.length_drop] at hdrop
        rw [List.length_take] at htake
        have hfour : "/did".toList.length = 4 := rfl
        have hjsonLength : "json".toList.length = 4 := rfl
        omega
      have hcut := List.take_append_drop (rest.length - 9) rest
      generalize rest.take (rest.length - 9) = captured at hne hcut
      generalize rest.drop (rest.length - 9) = tail at hdid hjson hlength hcut
      obtain ⟨c, hc⟩ : ∃ c, tail.drop 4 = c :: tail.drop 5 :=
        ⟨_, List.drop_eq_getElem_cons (by omega)⟩
      refine ⟨c, ?_⟩
      rw [← hcut, ← List.take_append_drop 4 tail, hdid, hc, hjson]
      rfl

/-- What it accepts ends with `json`. -/
theorem getLast?_of_didJsonCapture {path captured : Text}
    (h : WebDid.didJsonCapture path = some captured) : path.getLast? = some 'n' := by
  obtain ⟨c, rfl⟩ := eq_of_didJsonCapture h
  have hlast : ('/' :: ("did".toList ++ c :: "json".toList)).getLast? = some 'n' := rfl
  rw [List.getLast?_append_of_ne_nil _ (List.cons_ne_nil _ _), hlast]

/-- A path that is cut at its last slash: the second route captures what is before it, if what is
after it looks like `did.json`. -/
theorem didJsonCapture_cut {start last captured : Text} (hlast : '/' ∉ last)
    (hstart : start.getLast? ≠ some 'd')
    (h : WebDid.didJsonCapture (start ++ '/' :: last) = some captured) :
    start = '/' :: captured ∧ ∃ c, last = "did".toList ++ c :: "json".toList := by
  obtain ⟨c, hc⟩ := eq_of_didJsonCapture h
  by_cases hslash : c = '/'
  · -- the last slash is what `.` stands for
    subst hslash
    have hcut : '/' :: captured ++ '/' :: ("did".toList ++ '/' :: "json".toList) =
        ('/' :: captured ++ '/' :: "did".toList) ++ '/' :: "json".toList := by
      simp
    rw [hcut] at hc
    obtain ⟨rfl, -⟩ := Text.append_cons_inj_last hlast (by decide) hc
    refine absurd ?_ hstart
    rw [List.getLast?_append_of_ne_nil _ (List.cons_ne_nil _ _)]
    rfl
  · have hdid : '/' ∉ "did".toList ++ c :: "json".toList := by
      simp [Ne.symm hslash]
    obtain ⟨hstart', hlast'⟩ := Text.append_cons_inj_last hlast hdid hc
    exact ⟨hstart', c, hlast'⟩

/-- A path whose first segment does not start with a dot is not the one of a host. -/
theorem defaultMatcher_didDocEndpoint {c : Char} {rest : Text} (hc : c.toLower ≠ '.') :
    Express.defaultMatcher WebDid.didDocEndpoint ('/' :: c :: rest) = false := by
  have hfold : ∀ {t : Text}, t.drop 1 = '.' :: t.drop 2 →
      ¬Express.foldCase ('/' :: c :: rest) = Express.foldCase t := by
    intro t ht h
    have hdrop := congrArg (List.drop 1) h
    rw [Express.foldCase, Express.foldCase, ← List.map_drop, ← List.map_drop, ht] at hdrop
    exact hc (List.cons.inj hdrop).1
  rw [Express.defaultMatcher, Bool.or_eq_false_iff, decide_eq_false_iff_not,
    decide_eq_false_iff_not]
  exact ⟨hfold (by decide +kernel), hfold (by decide +kernel)⟩

/-- The router of DID documents lets the path pass. -/
theorem lookupFor_eq_next {path host hostname : Text}
    (hmatch : Express.defaultMatcher WebDid.didDocEndpoint path = false)
    (hcapture : WebDid.didJsonCapture path = none) :
    WebDid.lookupFor ⟨path, host, hostname⟩ = .next := by
  rw [WebDid.lookupFor, hmatch, if_neg Bool.false_ne_true, hcapture]

/-- The router of DID documents takes the path, when what it captures has no escapes. -/
theorem exists_lookupFor_eq_did (host hostname : Text) {path captured : Text}
    (hmatch : Express.defaultMatcher WebDid.didDocEndpoint path = false)
    (hcapture : WebDid.didJsonCapture path = some captured) (hescape : '%' ∉ captured) :
    ∃ did, WebDid.lookupFor ⟨path, host, hostname⟩ = .did did := by
  rw [WebDid.lookupFor, hmatch, if_neg Bool.false_ne_true, hcapture]
  dsimp only
  rw [Uri.decodeURIComponent_of_not_mem hescape]
  exact ⟨_, rfl⟩

theorem didDocs_eq_none {parts : Parts N S R} {req : Request N}
    (h : WebDid.lookupFor ⟨Express.pathname req.originalUrl, req.host, req.hostname⟩ = .next) :
    didDocs parts req = none := by
  rw [didDocs, h]

/-! ### What the VC API lets pass -/

/-- A request that no route of the VC API accepts. -/
theorem vcApi_eq_none {parts : Parts N S R} {req : Request N} {body : Json N}
    (hbody : req.body = .ok body)
    (h : ∀ route ∈ VcApi.vcRoutes (N := N),
      Express.matchPath route.path (Express.pathname req.originalUrl) = none) :
    vcApi parts req = none := by
  have hroute : Express.dispatchParams req.method (Express.pathname req.originalUrl)
      (VcApi.vcRoutes (N := N)) = .none :=
    Express.dispatchParams_eq_none fun route hmem =>
      Express.matchRoute_of_matchPath (h route hmem)
  have hrouted : VcApi.routed parts.validate (vcRequest req) = .reply .next := by
    rw [VcApi.routed, vcRequest, hbody]
    dsimp only
    rw [hroute]
  rw [vcApi, hrouted]

/-- The fixed segment at the start of a pattern. -/
def firstFixed : List Segment → Option Text
  | .fixed text :: _ => some text
  | _ => none

/-- The routes of the VC API have at most three segments, and the first is one of three. -/
def vcPattern (pattern : List Segment) : Bool :=
  decide (pattern.length ≤ 3) && (firstFixed pattern).any fun first =>
    ["credentials".toList, "presentations".toList, "exchanges".toList].contains first

theorem vcPattern_vcRoutes : ∀ route ∈ VcApi.vcRoutes (N := N), vcPattern route.path := by
  have hall : (VcApi.vcRoutes (N := N)).all (fun route => vcPattern route.path) = true := rfl
  exact List.all_eq_true.1 hall

/-- Too many segments. -/
theorem matchSegments_of_long {pattern : List Segment} {ss : List Text} (h : vcPattern pattern)
    (hlength : 3 < ss.length) : Express.matchSegments pattern ss = none := by
  rw [vcPattern, Bool.and_eq_true, decide_eq_true_eq] at h
  cases hmatch : Express.matchSegments pattern ss with
  | none => rfl
  | some captured =>
      have hsame := Express.length_of_matchSegments hmatch
      omega

/-- Another segment at the start. -/
theorem matchSegments_of_first {pattern : List Segment} {s : Text} {ss : List Text}
    (h : vcPattern pattern)
    (hfirst : ∀ first ∈ ["credentials".toList, "presentations".toList, "exchanges".toList],
      Express.foldCase s ≠ Express.foldCase first) :
    Express.matchSegments pattern (s :: ss) = none := by
  rw [vcPattern, Bool.and_eq_true, Option.any_eq_true] at h
  obtain ⟨-, first, heq, hmem⟩ := h
  have hne := hfirst first (List.contains_iff_mem.1 hmem)
  cases pattern with
  | nil => cases heq
  | cons segment pattern =>
      cases segment with
      | param => cases heq
      | fixed text =>
          obtain rfl := Option.some.inj heq
          rw [Express.matchSegments, if_neg hne]

/-! ### The answers -/

section Answers

/-- A request whose body can be read. -/
def request (host hostname : Text) (body : Json N) (method : HttpMethod) (originalUrl : Text) :
    Request N :=
  ⟨method, originalUrl, host, hostname, .ok body⟩

variable {parts : Parts N S R} {host hostname : Text} {body : Json N}

/-- A path that starts so is not under the mount path: three characters tell the mount paths
apart. -/
def elsewhere (start mount : Text) : Bool :=
  decide (3 ≤ (Express.dropTrailingSlash mount).length) &&
    decide (Express.foldCase start ≠ Express.foldCase ((Express.dropTrailingSlash mount).take 3))

theorem unmount_of_elsewhere {mount path : Text} (h : elsewhere (path.take 3) mount) :
    Express.unmount mount path = none := by
  rw [elsewhere, Bool.and_eq_true, decide_eq_true_eq, decide_eq_true_eq] at h
  exact Express.unmount_of_take h.1 h.2

theorem mountedAt_of_elsewhere {mount : Text} {req : Request N}
    (h : elsewhere ((Express.pathname req.originalUrl).take 3) mount) :
    mountedAt parts mount req = none := by
  rw [mountedAt, unmount_of_elsewhere h]
  rfl

theorem revocationList_of_elsewhere {req : Request N}
    (h : elsewhere ((Express.pathname req.originalUrl).take 3) Revocation.listMount) :
    revocationList parts req = none := by
  have hnext : Revocation.revocationList2020Router parts.listEnv
      ⟨req.method, req.originalUrl, true⟩ parts.lists = .next := by
    rw [Revocation.revocationList2020Router]
    dsimp only
    rw [unmount_of_elsewhere h]
    split_ifs <;> rfl
  rw [revocationList, hnext]

variable [JsonNumber N]

theorem encryptedStorage_of_elsewhere {req : Request N}
    (h : elsewhere ((Express.pathname req.originalUrl).take 3) EncryptedStorage.storageMount) :
    encryptedStorage parts req = none := by
  have hnext : EncryptedStorage.encryptedStoreRouter parts.syntaxMessage parts.queryKey
      parts.storageEnv ⟨req.method, req.originalUrl, true⟩ parts.storage = .next := by
    rw [EncryptedStorage.encryptedStoreRouter]
    dsimp only
    rw [unmount_of_elsewhere h]
    split_ifs <;> rfl
  rw [encryptedStorage, hnext]

omit [JsonNumber N] in
theorem pathname_request {method : HttpMethod} {path : Text}
    (h : Express.pathname path = path) :
    Express.pathname (request host hostname body method path).originalUrl = path := h

omit [JsonNumber N] in
/-- The router of DID documents takes a `GET` for the document of a DID. -/
theorem didDocs_of_did {method : HttpMethod} {path did : Text}
    (hpathname : Express.pathname path = path)
    (hlookup : WebDid.lookupFor ⟨path, host, hostname⟩ = .did did) :
    didDocs parts (request host hostname body method path) =
      if HttpMethod.get.handles method then
        some (.didDoc (WebDid.serve parts.keyLibrary parts.didOptions (some parts.didManagerGet)
          ⟨path, host, hostname⟩))
      else none := by
  rw [didDocs, pathname_request hpathname]
  dsimp only [request]
  rw [hlookup]
  rfl

omit [JsonNumber N] in
/-- The router of DID documents lets the request pass. -/
theorem didDocs_request {method : HttpMethod} {path : Text}
    (hpathname : Express.pathname path = path)
    (hlookup : WebDid.lookupFor ⟨path, host, hostname⟩ = .next) :
    didDocs parts (request host hostname body method path) = none := by
  refine didDocs_eq_none ?_
  rw [pathname_request hpathname]
  exact hlookup

/-- A request that the first routers let pass gets to those that are mounted under a path. -/
theorem respond_of_passed {method : HttpMethod} {path : Text} (hmethod : method ≠ .options)
    (hpathname : Express.pathname path = path)
    (hdidDocs : didDocs parts (request host hostname body method path) = none)
    (hvcApi : ∀ pattern, vcPattern pattern → Express.matchPath pattern path = none) :
    respond parts (request host hostname body method path) =
      (mountedUse parts).findSome? fun router =>
        router (request host hostname body method path) := by
  have hcors : cors (S := S) (R := R) (request host hostname body method path) = none :=
    if_neg hmethod
  have hvc : vcApi parts (request host hostname body method path) = none := by
    refine vcApi_eq_none rfl fun route hmem => ?_
    rw [pathname_request hpathname]
    exact hvcApi _ (vcPattern_vcRoutes route hmem)
  have hroot : (rootUse parts).findSome? (fun router =>
      router (request host hostname body method path)) = none := by
    rw [rootUse, List.findSome?_eq_none_iff, List.forall_mem_cons, List.forall_mem_cons,
      List.forall_mem_singleton]
    exact ⟨hcors, hdidDocs, hvc⟩
  rw [respond, serverUse, List.findSome?_append, hroot, Option.none_or]

/-- A request that the VC API answers. -/
theorem respond_of_vcApi {method : HttpMethod} {path : Text} (hmethod : method ≠ .options)
    (hdidDocs : didDocs parts (request host hostname body method path) = none)
    {answer : Answer N S R}
    (hvcApi : vcApi parts (request host hostname body method path) = some answer) :
    respond parts (request host hostname body method path) = some answer := by
  have hcors : cors (S := S) (R := R) (request host hostname body method path) = none :=
    if_neg hmethod
  rw [respond, serverUse, rootUse]
  simp only [List.cons_append, List.findSome?_cons, hcors, hdidDocs, hvcApi]

/-! ### Status lists -/

section List

variable {did : Text}

theorem listPath_eq_joinSegments (did : Text) (m : ℕ) :
    Revocation.listPath did m =
      Url.joinSegments (Revocation.listPathSegments ++ [Text.replaceAll ':' '_' did] ++
        [Text.ofNat m]) := by
  have hprefix : Revocation.listPathPrefix =
      Url.joinSegments Revocation.listPathSegments ++ ['/'] := by decide +kernel
  rw [Revocation.listPath, hprefix]
  simp [Url.joinSegments]

theorem lookupFor_listPath (host hostname : Text) (did : Text) (m : ℕ) :
    WebDid.lookupFor ⟨Revocation.listPath did m, host, hostname⟩ = .next := by
  have hstart : ∃ rest, Revocation.listPath did m = '/' :: 'c' :: rest := ⟨_, rfl⟩
  refine lookupFor_eq_next ?_ ?_
  · obtain ⟨rest, hrest⟩ := hstart
    rw [hrest]
    exact defaultMatcher_didDocEndpoint (by decide)
  · cases hcapture : WebDid.didJsonCapture (Revocation.listPath did m) with
    | none => rfl
    | some captured =>
        -- the path ends with a digit
        have hlast := getLast?_of_didJsonCapture hcapture
        obtain ⟨c, t, hnumber⟩ := List.exists_cons_of_ne_nil (Text.ofNat_ne_nil m)
        rw [Revocation.listPath, List.getLast?_append_of_ne_nil _ (List.cons_ne_nil _ _), hnumber,
          List.getLast?_cons_cons, ← hnumber] at hlast
        exact absurd (List.mem_of_getLast? hlast) (Text.not_mem_ofNat (by decide) m)

/-- No route of the VC API accepts the path of a list. -/
theorem matchPath_listPath (hdid : Did.IsDid did) (m : ℕ) {pattern : List Segment}
    (hpattern : vcPattern pattern) :
    Express.matchPath pattern (Revocation.listPath did m) = none := by
  have hslash : ∀ t ∈ Revocation.listPathSegments ++ [Text.replaceAll ':' '_' did], '/' ∉ t := by
    intro t ht
    rcases List.mem_append.1 ht with ht | ht
    · exact (by decide : ∀ t ∈ Revocation.listPathSegments, '/' ∉ t) t ht
    · rw [List.mem_singleton.1 ht]
      exact Revocation.not_mem_issuer hdid (Or.inr rfl)
  rw [listPath_eq_joinSegments, Express.matchPath_joinSegments hslash
    (Text.not_mem_ofNat (by decide) m) (Text.ofNat_ne_nil m)]
  exact matchSegments_of_long hpattern (by simp [Revocation.listPathSegments])

omit [JsonNumber N] in
/-- The router of the lists does not pass the path of a list on. -/
theorem revocationList_listPath (hdid : Did.IsDid did) (m : ℕ) :
    revocationList parts (request host hostname body .get (Revocation.listPath did m)) =
      some (.list (Revocation.revocationList2020Router parts.listEnv
        ⟨.get, Revocation.listPath did m, true⟩ parts.lists)) := by
  have hanswers : Revocation.revocationList2020Router parts.listEnv
      ⟨.get, Revocation.listPath did m, true⟩ parts.lists ≠ .next := by
    rw [Revocation.revocationList2020Router, if_pos (Or.inl rfl)]
    dsimp only
    rw [Revocation.pathname_listPath hdid, Revocation.unmount_listPath hdid]
    dsimp only
    rw [Revocation.matchRoute_listPath hdid]
    cases Uri.decodeURIComponent (Text.replaceAll ':' '_' did) with
    | none => exact Revocation.ListReply.noConfusion
    | some issuer =>
        change Revocation.listHandler _ _ _ ≠ .next
        rw [Revocation.listHandler, if_neg Bool.noConfusion]
        cases (Prog.run (Revocation.serve parts.listEnv)
          (Revocation.getRevocationListVC (Revocation.listPath did m)) parts.lists).1 with
        | ok credential => exact Revocation.ListReply.noConfusion
        | error e => exact Revocation.ListReply.noConfusion
  rw [revocationList, request]
  dsimp only
  cases hreply : Revocation.revocationList2020Router parts.listEnv
      ⟨.get, Revocation.listPath did m, true⟩ parts.lists with
  | next => exact absurd hreply hanswers
  | malformed | threw | list | error => rfl

/-- **A status list is served by the router of the lists.** -/
theorem respond_listPath (hdid : Did.IsDid did) (m : ℕ) :
    respond parts (request host hostname body .get (Revocation.listPath did m)) =
      some (.list (Revocation.revocationList2020Router parts.listEnv
        ⟨.get, Revocation.listPath did m, true⟩ parts.lists)) := by
  have hpathname := Revocation.pathname_listPath hdid m
  have hstart : (Express.pathname (request host hostname body .get
      (Revocation.listPath did m)).originalUrl).take 3 = "/cr".toList := by
    rw [pathname_request hpathname]
    rfl
  have helse : ∀ mount ∈ ["/vc-api.json".toList, "/vc-api-docs".toList, "/messaging".toList,
      EncryptedStorage.storageMount], elsewhere "/cr".toList mount := by
    decide +kernel
  rw [← hstart, List.forall_mem_cons, List.forall_mem_cons, List.forall_mem_cons,
    List.forall_mem_singleton] at helse
  obtain ⟨hjson, hdocs, hmessaging, hstorage⟩ := helse
  rw [respond_of_passed HttpMethod.noConfusion hpathname
    (didDocs_request hpathname (lookupFor_listPath host hostname did m))
    fun pattern => matchPath_listPath hdid m, mountedUse]
  simp only [List.findSome?_cons, mountedAt_of_elsewhere hjson, mountedAt_of_elsewhere hdocs,
    mountedAt_of_elsewhere hmessaging, encryptedStorage_of_elsewhere hstorage,
    revocationList_listPath hdid m]

end List

/-! ### Documents -/

section Document

variable {id : Text}

theorem documentPath_eq_joinSegments (id : Text) :
    EncryptedStorage.documentPath id =
      Url.joinSegments (["encrypted-storage".toList, "encrypted-data".toList] ++ [id]) := by
  have hcut : EncryptedStorage.documentPath id =
      '/' :: "encrypted-storage".toList ++ '/' :: ("encrypted-data".toList ++ '/' :: id) := rfl
  rw [hcut]
  simp [Url.joinSegments]

/-- An id of another length than `did.json` has. -/
theorem lookupFor_documentPath (host hostname : Text) (hid : EncryptedStorage.IsUuid id)
    (hlength : id.length ≠ 8) :
    WebDid.lookupFor ⟨EncryptedStorage.documentPath id, host, hostname⟩ = .next := by
  have hstart : ∃ rest, EncryptedStorage.documentPath id = '/' :: 'e' :: rest := ⟨_, rfl⟩
  refine lookupFor_eq_next ?_ ?_
  · obtain ⟨rest, hrest⟩ := hstart
    rw [hrest]
    exact defaultMatcher_didDocEndpoint (by decide)
  · cases hcapture : WebDid.didJsonCapture (EncryptedStorage.documentPath id) with
    | none => rfl
    | some captured =>
        obtain ⟨-, c, rfl⟩ := didJsonCapture_cut (hid.not_mem (by decide)) (by decide) hcapture
        exact absurd rfl hlength

/-- No route of the VC API accepts the path of a document. -/
theorem matchPath_documentPath (hid : EncryptedStorage.IsUuid id) {pattern : List Segment}
    (hpattern : vcPattern pattern) :
    Express.matchPath pattern (EncryptedStorage.documentPath id) = none := by
  have hslash : ∀ t ∈ ["encrypted-storage".toList, "encrypted-data".toList], '/' ∉ t := by
    decide
  rw [documentPath_eq_joinSegments,
    Express.matchPath_joinSegments hslash (hid.not_mem (by decide)) hid.ne_nil]
  exact matchSegments_of_first hpattern (by decide +kernel)

/-- The router of the storage does not pass the path of a document on. -/
theorem encryptedStorage_documentPath (hid : EncryptedStorage.IsUuid id) :
    encryptedStorage parts (request host hostname body .get (EncryptedStorage.documentPath id)) =
      some (.document (EncryptedStorage.encryptedStoreRouter parts.syntaxMessage parts.queryKey
        parts.storageEnv ⟨.get, EncryptedStorage.documentPath id, true⟩ parts.storage)) := by
  have hanswers : EncryptedStorage.encryptedStoreRouter parts.syntaxMessage parts.queryKey
      parts.storageEnv ⟨.get, EncryptedStorage.documentPath id, true⟩ parts.storage ≠ .next := by
    rw [EncryptedStorage.encryptedStoreRouter, if_pos (Or.inl rfl)]
    dsimp only
    rw [Express.pathname_of_not_mem hid.question_not_mem, EncryptedStorage.unmount_documentPath]
    dsimp only
    rw [EncryptedStorage.matchRoute_documentPath hid]
    dsimp only
    rw [EncryptedStorage.documentHandler, if_neg Bool.noConfusion]
    split
    · rintro ⟨⟩
    · split
      · rintro ⟨⟩
      · rintro ⟨⟩
  rw [encryptedStorage, request]
  dsimp only
  cases hreply : EncryptedStorage.encryptedStoreRouter parts.syntaxMessage parts.queryKey
      parts.storageEnv ⟨.get, EncryptedStorage.documentPath id, true⟩ parts.storage with
  | next => exact absurd hreply hanswers
  | malformed | threw | document | error => rfl

/-- **A document is served by the router of the storage.** -/
theorem respond_documentPath (hid : EncryptedStorage.IsUuid id) (hlength : id.length ≠ 8) :
    respond parts (request host hostname body .get (EncryptedStorage.documentPath id)) =
      some (.document (EncryptedStorage.encryptedStoreRouter parts.syntaxMessage parts.queryKey
        parts.storageEnv ⟨.get, EncryptedStorage.documentPath id, true⟩ parts.storage)) := by
  have hpathname := Express.pathname_of_not_mem hid.question_not_mem
  have hstart : (Express.pathname (request host hostname body .get
      (EncryptedStorage.documentPath id)).originalUrl).take 3 = "/en".toList := by
    rw [pathname_request hpathname]
    rfl
  have helse : ∀ mount ∈ ["/vc-api.json".toList, "/vc-api-docs".toList, "/messaging".toList],
      elsewhere "/en".toList mount := by
    decide +kernel
  rw [← hstart, List.forall_mem_cons, List.forall_mem_cons, List.forall_mem_singleton] at helse
  obtain ⟨hjson, hdocs, hmessaging⟩ := helse
  rw [respond_of_passed HttpMethod.noConfusion hpathname
    (didDocs_request hpathname (lookupFor_documentPath host hostname hid hlength))
    fun pattern => matchPath_documentPath hid, mountedUse]
  simp only [List.findSome?_cons, mountedAt_of_elsewhere hjson, mountedAt_of_elsewhere hdocs,
    mountedAt_of_elsewhere hmessaging, encryptedStorage_documentPath hid]

end Document

/-! ### Credentials -/

section Credential

variable {id : Text}

/-- Whether the id of a credential looks like `did.json` when it is escaped. -/
def LooksLikeDidJson (id : Text) : Prop :=
  ∃ c, Uri.encodeURIComponent id = "did".toList ++ c :: "json".toList

theorem pathname_credentialPath (id : Text) :
    Express.pathname (VcApi.credentialPath id) = VcApi.credentialPath id := by
  refine Express.pathname_of_not_mem ?_
  have hcredentials : '?' ∉ "/credentials/".toList := by decide
  have hid : '?' ∉ Uri.encodeURIComponent id := by
    intro hmem
    exact absurd (Query.of_mem_percentEncode hmem) (by decide)
  have hcut : VcApi.credentialPath id = "/credentials/".toList ++ Uri.encodeURIComponent id := by
    simp [VcApi.credentialPath, Url.joinSegments]
  rw [hcut, List.mem_append]
  rintro (hmem | hmem)
  · exact hcredentials hmem
  · exact hid hmem

theorem credentialPath_eq (id : Text) :
    VcApi.credentialPath id = "/credentials".toList ++ '/' :: Uri.encodeURIComponent id := by
  simp [VcApi.credentialPath, Url.joinSegments]

/-- An escaped text is on one line. -/
theorem isLineTerminator_of_mem_encodeURIComponent {c : Char} {s : Text}
    (hc : c ∈ Uri.encodeURIComponent s) : WebDid.isLineTerminator c = false := by
  have halphanum : c.isAlphanum → WebDid.isLineTerminator c = false := by
    intro h
    refine WebDid.HostedDid.isLineTerminator_of_isDidChar ?_
    simp [Did.isDidChar, Did.isIdChar, h]
  rcases Query.of_mem_percentEncode hc with hcomponent | rfl | h
  · rw [Bool.not_eq_false', Uri.isComponentChar, Bool.or_eq_true] at hcomponent
    rcases hcomponent with h | hmark
    · exact halphanum h
    · have hmarks : "-_.!~*'()".toList.all (fun c => !WebDid.isLineTerminator c) = true := rfl
      have hline := List.all_eq_true.1 hmarks c (List.contains_iff_mem.1 hmark)
      rwa [Bool.not_eq_true'] at hline
  · rfl
  · exact halphanum h

/-- The router of DID documents takes the path of a credential for that of `credentials`. -/
theorem didJsonCapture_credentialPath (h : LooksLikeDidJson id) :
    WebDid.didJsonCapture (VcApi.credentialPath id) = some "credentials".toList := by
  obtain ⟨c, hc⟩ := h
  have hline : WebDid.isLineTerminator c = false := by
    refine isLineTerminator_of_mem_encodeURIComponent (s := id) ?_
    rw [hc]
    exact List.mem_append_right _ List.mem_cons_self
  have hpath : VcApi.credentialPath id =
      '/' :: ("credentials/did".toList ++ c :: "json".toList) := by
    rw [credentialPath_eq, hc]
    rfl
  have hchars : ("credentials/did".toList ++ c :: "json".toList).all
      (fun c => !WebDid.isLineTerminator c) = true := by
    rw [List.all_append, List.all_cons, hline]
    rfl
  rw [hpath, WebDid.didJsonCapture]
  exact if_pos ⟨rfl, List.cons_ne_nil _ _, rfl, rfl, hchars⟩

/-- **When the router of DID documents lets the path of a credential pass.** -/
theorem lookupFor_credentialPath (host hostname id : Text) :
    (LooksLikeDidJson id → ∃ did,
      WebDid.lookupFor ⟨VcApi.credentialPath id, host, hostname⟩ = .did did) ∧
    (¬LooksLikeDidJson id →
      WebDid.lookupFor ⟨VcApi.credentialPath id, host, hostname⟩ = .next) := by
  have hmatch : Express.defaultMatcher WebDid.didDocEndpoint (VcApi.credentialPath id) = false := by
    obtain ⟨rest, hrest⟩ : ∃ rest, VcApi.credentialPath id = '/' :: 'c' :: rest := ⟨_, rfl⟩
    rw [hrest]
    exact defaultMatcher_didDocEndpoint (by decide)
  constructor
  · intro h
    exact exists_lookupFor_eq_did host hostname hmatch (didJsonCapture_credentialPath h)
      (by decide)
  · intro h
    refine lookupFor_eq_next hmatch ?_
    cases hcapture : WebDid.didJsonCapture (VcApi.credentialPath id) with
    | none => rfl
    | some captured =>
        rw [credentialPath_eq] at hcapture
        obtain ⟨-, hlook⟩ :=
          didJsonCapture_cut (Uri.slash_not_mem_encodeURIComponent id) (by decide) hcapture
        exact absurd hlook h

omit [JsonNumber N] in
/-- The VC API does not pass the path of a credential on. -/
theorem vcApi_credentialPath (hid : id ≠ []) {method : HttpMethod}
    (hmethod : method = .get ∨ method = .delete) :
    vcApi parts (request host hostname body method (VcApi.credentialPath id)) =
      some (.vcApi (VcApi.routed parts.validate
        ⟨method, VcApi.credentialPath id, true, .ok body⟩)) := by
  have hanswers : VcApi.routed parts.validate ⟨method, VcApi.credentialPath id, true, .ok body⟩ ≠
      .reply .next := by
    obtain ⟨of, hroute⟩ : ∃ of, Express.dispatchParams method (VcApi.credentialPath id)
        (VcApi.vcRoutes (N := N)) = .route (.endpoint of) [id] := by
      obtain ⟨hget, hdelete⟩ := VcApi.dispatchParams_credentialPath (N := N) hid
      rcases hmethod with rfl | rfl
      · exact ⟨_, hget⟩
      · exact ⟨_, hdelete⟩
    rw [VcApi.routed]
    dsimp only
    rw [hroute]
    dsimp only
    cases parts.validate method (VcApi.credentialPath id) body with
    | error e => rintro ⟨⟩
    | ok body' => rintro ⟨⟩
  rw [vcApi, vcRequest, request]
  dsimp only
  rw [pathname_credentialPath]
  split
  · rename_i hnext
    exact absurd hnext hanswers
  · rfl

/-- **A credential is handled by the VC API**, but for the `GET` of one whose id looks like
`did.json`. -/
theorem respond_credentialPath (hid : id ≠ []) :
    respond parts (request host hostname body .delete (VcApi.credentialPath id)) =
        some (.vcApi (VcApi.routed parts.validate
          ⟨.delete, VcApi.credentialPath id, true, .ok body⟩)) ∧
      (¬LooksLikeDidJson id →
        respond parts (request host hostname body .get (VcApi.credentialPath id)) =
          some (.vcApi (VcApi.routed parts.validate
            ⟨.get, VcApi.credentialPath id, true, .ok body⟩))) ∧
      (LooksLikeDidJson id →
        respond parts (request host hostname body .get (VcApi.credentialPath id)) =
          some (.didDoc (WebDid.serve parts.keyLibrary parts.didOptions
            (some parts.didManagerGet) ⟨VcApi.credentialPath id, host, hostname⟩))) := by
  obtain ⟨hlooks, hnext⟩ := lookupFor_credentialPath host hostname id
  have hpathname := pathname_credentialPath id
  refine ⟨?_, ?_, ?_⟩
  · have hdidDocs : didDocs parts
        (request host hostname body .delete (VcApi.credentialPath id)) = none := by
      by_cases h : LooksLikeDidJson id
      · obtain ⟨did, hdid⟩ := hlooks h
        exact didDocs_of_did hpathname hdid
      · exact didDocs_request hpathname (hnext h)
    exact respond_of_vcApi HttpMethod.noConfusion hdidDocs
      (vcApi_credentialPath hid (Or.inr rfl))
  · intro h
    exact respond_of_vcApi HttpMethod.noConfusion (didDocs_request hpathname (hnext h))
      (vcApi_credentialPath hid (Or.inl rfl))
  · intro h
    obtain ⟨did, hdid⟩ := hlooks h
    have hcors : cors (S := S) (R := R)
        (request host hostname body .get (VcApi.credentialPath id)) = none :=
      if_neg HttpMethod.noConfusion
    have hdidDocs : didDocs parts
        (request host hostname body .get (VcApi.credentialPath id)) =
          some (.didDoc (WebDid.serve parts.keyLibrary parts.didOptions
            (some parts.didManagerGet) ⟨VcApi.credentialPath id, host, hostname⟩)) :=
      didDocs_of_did hpathname hdid
    rw [respond, serverUse, rootUse]
    simp only [List.cons_append, List.findSome?_cons, hcors, hdidDocs]

end Credential

/-! ### The methods of the agent -/

section Agent

variable {name : Text}

/-- The path of a method of the agent. -/
def agentPath (name : Text) : Text := agentMount ++ '/' :: name

theorem pathname_agentPath (hquery : '?' ∉ name) :
    Express.pathname (agentPath name) = agentPath name := by
  refine Express.pathname_of_not_mem ?_
  have hmount : '?' ∉ agentMount := by decide
  simp [agentPath, hmount, hquery]

omit [JsonNumber N] in
/-- The router of DID documents never refuses the path of a method, and `POST` is not its own. -/
theorem didDocs_agentPath (hslash : '/' ∉ name) (hquery : '?' ∉ name) :
    didDocs parts (request host hostname body .post (agentPath name)) = none := by
  have hmatch : Express.defaultMatcher WebDid.didDocEndpoint (agentPath name) = false := by
    obtain ⟨rest, hrest⟩ : ∃ rest, agentPath name = '/' :: 'a' :: rest := ⟨_, rfl⟩
    rw [hrest]
    exact defaultMatcher_didDocEndpoint (by decide)
  cases hcapture : WebDid.didJsonCapture (agentPath name) with
  | none =>
      exact didDocs_request (pathname_agentPath hquery) (lookupFor_eq_next hmatch hcapture)
  | some captured =>
      obtain ⟨hcaptured, -⟩ := didJsonCapture_cut hslash (by decide) hcapture
      have hescape : '%' ∉ captured := by
        intro hmem
        have hmount : '%' ∈ agentMount := by
          rw [hcaptured]
          exact List.mem_cons_of_mem _ hmem
        exact absurd hmount (by decide)
      obtain ⟨did, hdid⟩ := exists_lookupFor_eq_did host hostname hmatch hcapture hescape
      exact didDocs_of_did (pathname_agentPath hquery) hdid

/-- No route of the VC API accepts the path of a method. -/
theorem matchPath_agentPath (hne : name ≠ []) (hslash : '/' ∉ name) {pattern : List Segment}
    (hpattern : vcPattern pattern) : Express.matchPath pattern (agentPath name) = none := by
  have hcut : agentPath name = Url.joinSegments (["agent".toList] ++ [name]) := by
    simp [agentPath, agentMount, Url.joinSegments]
  have hfirst : ∀ t ∈ ["agent".toList], '/' ∉ t := by decide
  rw [hcut, Express.matchPath_joinSegments hfirst hslash hne]
  exact matchSegments_of_first hpattern (by decide +kernel)

/-- **A method of the agent is called at its endpoint.** -/
theorem respond_agentPath (hne : name ≠ []) (hslash : '/' ∉ name) (hquery : '?' ∉ name) :
    respond parts (request host hostname body .post (agentPath name)) =
      (parts.mounted agentMount ('/' :: name)
        (request host hostname body .post (agentPath name))).map .mounted := by
  have hpathname := pathname_agentPath hquery
  have hstart : (Express.pathname (request host hostname body .post
      (agentPath name)).originalUrl).take 3 = "/ag".toList := by
    rw [pathname_request hpathname]
    rfl
  have helse : ∀ mount ∈ ["/vc-api.json".toList, "/vc-api-docs".toList, "/messaging".toList,
      EncryptedStorage.storageMount, Revocation.listMount, "/open-api.json".toList,
      "/api-docs".toList], elsewhere "/ag".toList mount := by
    decide +kernel
  rw [← hstart] at helse
  simp only [List.forall_mem_cons] at helse
  obtain ⟨hjson, hdocs, hmessaging, hstorage, hlists, hopenApi, hapiDocs, -⟩ := helse
  have hagent : mountedAt parts agentMount (request host hostname body .post (agentPath name)) =
      (parts.mounted agentMount ('/' :: name)
        (request host hostname body .post (agentPath name))).map .mounted := by
    have hhead : name.head? ≠ some '/' := fun h => hslash (List.mem_of_head? h)
    have hunmount : Express.unmount agentMount (agentPath name) = some ('/' :: name) :=
      Express.unmount_append (by decide) hhead
    rw [mountedAt, request]
    dsimp only
    rw [hpathname, hunmount]
    rfl
  rw [respond_of_passed HttpMethod.noConfusion hpathname (didDocs_agentPath hslash hquery)
    fun pattern => matchPath_agentPath hne hslash, mountedUse]
  simp only [List.findSome?_cons, List.findSome?_nil, mountedAt_of_elsewhere hjson,
    mountedAt_of_elsewhere hdocs, mountedAt_of_elsewhere hmessaging,
    encryptedStorage_of_elsewhere hstorage, revocationList_of_elsewhere hlists, hagent,
    mountedAt_of_elsewhere hopenApi, mountedAt_of_elsewhere hapiDocs]
  cases parts.mounted agentMount ('/' :: name)
    (request host hostname body .post (agentPath name)) <;> rfl

end Agent

end Answers

/-! ### All links -/

/-- **Every link reaches the part that handed it out**: a status list, a document of the storage,
whose id is a UUID and so not as long as `did.json`, a credential, and a method of the agent.  Only
when the id of a credential looks like `did.json` does `GET` reach the router of DID documents
instead, while `DELETE` still removes the credential. -/
theorem links_reach_their_routers [JsonNumber N] (parts : Parts N S R) (host hostname : Text)
    (body : Json N) :
    (∀ did m, Did.IsDid did →
      respond parts (request host hostname body .get (Revocation.listPath did m)) =
        some (.list (Revocation.revocationList2020Router parts.listEnv
          ⟨.get, Revocation.listPath did m, true⟩ parts.lists))) ∧
    (∀ id, EncryptedStorage.IsUuid id → id.length ≠ 8 →
      respond parts (request host hostname body .get (EncryptedStorage.documentPath id)) =
        some (.document (EncryptedStorage.encryptedStoreRouter parts.syntaxMessage parts.queryKey
          parts.storageEnv ⟨.get, EncryptedStorage.documentPath id, true⟩ parts.storage))) ∧
    (∀ id, id ≠ [] →
      respond parts (request host hostname body .delete (VcApi.credentialPath id)) =
          some (.vcApi (VcApi.routed parts.validate
            ⟨.delete, VcApi.credentialPath id, true, .ok body⟩)) ∧
        (¬LooksLikeDidJson id →
          respond parts (request host hostname body .get (VcApi.credentialPath id)) =
            some (.vcApi (VcApi.routed parts.validate
              ⟨.get, VcApi.credentialPath id, true, .ok body⟩))) ∧
        (LooksLikeDidJson id →
          respond parts (request host hostname body .get (VcApi.credentialPath id)) =
            some (.didDoc (WebDid.serve parts.keyLibrary parts.didOptions
              (some parts.didManagerGet) ⟨VcApi.credentialPath id, host, hostname⟩)))) ∧
    (∀ name, name ≠ [] → '/' ∉ name → '?' ∉ name →
      respond parts (request host hostname body .post (agentPath name)) =
        (parts.mounted agentMount ('/' :: name)
          (request host hostname body .post (agentPath name))).map .mounted) :=
  ⟨fun _ m hdid => respond_listPath hdid m, fun _ hid hlength => respond_documentPath hid hlength,
    fun _ hid => respond_credentialPath hid,
    fun _ hne hslash hquery => respond_agentPath hne hslash hquery⟩

/-- A server whose endpoint of the agent answers everything. -/
def plainParts : Parts ℤ Unit Unit where
  keyLibrary := WebDid.plainLibrary
  didOptions := ⟨[], fun _ => none⟩
  didManagerGet := WebDid.managing []
  validate := fun _ _ body => .ok body
  syntaxMessage := id
  queryKey := fun _ => none
  storageEnv := EncryptedStorage.plainEnv "1".toList "k".toList
  storage := EncryptedStorage.plainDb
  listEnv := Revocation.readEnv
  lists := Revocation.plainIssued
  mounted := fun _ _ _ => some ()

/-- The answer to a request that is sent to it. -/
def plainAnswer (method : HttpMethod) (path : Text) : Option (Answer ℤ Unit Unit) :=
  respond plainParts (request "h".toList "h".toList .null method path)

/-- A list, a document, a credential with an id that looks like `did.json`, and a method. -/
theorem links_reach_their_routers_plain :
    plainAnswer .get (Revocation.listPath Revocation.plainDid 0) =
      some (.list (Revocation.revocationList2020Router Revocation.readEnv
        ⟨.get, Revocation.listPath Revocation.plainDid 0, true⟩ Revocation.plainIssued)) ∧
    (∃ reply, plainAnswer .get (EncryptedStorage.documentPath "1".toList) =
      some (.document reply)) ∧
    (∃ served, plainAnswer .get (VcApi.credentialPath "did.json".toList) =
      some (.didDoc served)) ∧
    plainAnswer .post (agentPath "resolveDid".toList) = some (.mounted ()) := by
  obtain ⟨hlist, hdocument, hcredential, hagent⟩ :=
    links_reach_their_routers plainParts "h".toList "h".toList (.null : Json ℤ)
  have huuid : EncryptedStorage.IsUuid "1".toList :=
    ⟨List.cons_ne_nil _ _, List.all_eq_true.1 rfl⟩
  have hlooks : LooksLikeDidJson "did.json".toList := ⟨'.', by decide +kernel⟩
  exact ⟨hlist _ 0 Revocation.isDid_plainDid, ⟨_, hdocument _ huuid (by decide)⟩,
    ⟨_, (hcredential _ (List.cons_ne_nil _ _)).2.2 hlooks⟩,
    hagent _ (List.cons_ne_nil _ _) (by decide +kernel) (by decide +kernel)⟩

end Server
