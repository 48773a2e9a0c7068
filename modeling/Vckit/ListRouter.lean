/-
**The router that serves status lists.**

A verifier fetches the URL of a status entry.  The router is mounted under the start of every list
path and hands the request target to the agent as it was sent; the two parameters of its route, the
issuer and the number of the list, are decoded by the framework and not used.  The answer is the
list credential that is stored under the request target.

So for every entry that was handed out, whoever the issuers are and however the calls before
ended, the URL of the entry leads to a list credential of the entry's issuer that has that URL as
its `id`, and whose bit at the entry's index is the status that was last committed.

Main definitions:

* `Revocation.ListRequest`, `Revocation.ListReply` — requests and answers;
* `Revocation.revocationList2020Router` — the router.

Main results:

* `Revocation.matchRoute_listPath` — the router accepts the path of a list;
* `Revocation.list_served` — **what a verifier gets at the URL of an entry**.
-/

import Vckit.ExpressPaths
import Vckit.RegistryRuns
import Vckit.StatusUrl

set_option relaxedAutoImplicit false
set_option autoImplicit false

namespace Revocation

open StatusRegistry (Registry)

variable {lib : VcStatusRl2020} {env : Env} {managed : Text → Prop} {db : Db}

/-! ### The router -/

/-- A request, and whether a middleware has attached an agent to it. -/
structure ListRequest where
  method : Express.HttpMethod
  originalUrl : Text
  agent : Bool

/-- What becomes of it. -/
inductive ListReply where
  /-- No route of the router accepts it. -/
  | next
  /-- A parameter cannot be decoded. -/
  | malformed
  /-- The handler throws before it responds. -/
  | threw (e : JsError)
  /-- `res.status(200).json({ ...result })` -/
  | list (credential : ListCredential)
  /-- `res.status(500).json({ error: e.message })` -/
  | error (message : Text)
  deriving DecidableEq

/-- The path under which the server mounts the router. -/
def listMount : Text := "/credentials/status/revocation-list-2020".toList

/-- `/:issuer/:id` -/
def listRoute : List Express.Segment := [.param, .param]

/-- The handler of the route. -/
def listHandler (env : Env) (req : ListRequest) (db : Db) : ListReply :=
  if req.agent = false then .threw (JsError.ofMessage "Agent not available".toList)
  else
    match (Prog.run (serve env) (getRevocationListVC req.originalUrl) db).1 with
    | .ok credential => .list credential
    | .error e => .error e.message

/-- `revocationList2020Router()`, mounted.  A route for `GET` handles `HEAD` as well. -/
def revocationList2020Router (env : Env) (req : ListRequest) (db : Db) : ListReply :=
  if req.method = .get ∨ req.method = .head then
    match Express.unmount listMount (Express.pathname req.originalUrl) with
    | none => .next
    | some path =>
        match Express.matchRoute listRoute path with
        | .no => .next
        | .malformed => .malformed
        | .params _ => listHandler env req db
  else .next

/-! ### The path of a list -/

variable {did : Text}

/-- The characters of a list path after the mount path. -/
theorem not_mem_issuer {c : Char} (hdid : Did.IsDid did) (hc : Url.isPathChar c = false ∨
    Url.isSlash c = true) : c ∉ Text.replaceAll ':' '_' did := by
  intro hmem
  obtain ⟨d, hd, rfl⟩ := List.mem_map.1 hmem
  obtain ⟨hchar, hslash⟩ := isPathChar_of_isDidChar (hdid.isDidChar d hd)
  rcases hc with hc | hc
  · rw [hchar] at hc
    cases hc
  · rw [hslash] at hc
    cases hc

/-- A list path has no query. -/
theorem pathname_listPath (hdid : Did.IsDid did) (m : ℕ) :
    Express.pathname (listPath did m) = listPath did m := by
  refine Express.pathname_of_not_mem ?_
  have hpre : '?' ∉ listPathPrefix := by decide
  have hissuer : '?' ∉ Text.replaceAll ':' '_' did := not_mem_issuer hdid (Or.inl (by decide))
  have hnumber : '?' ∉ Text.ofNat m := Text.not_mem_ofNat (by decide) m
  simp [listPath, hpre, hissuer, hnumber]

/-- What the router sees of a list path. -/
theorem unmount_listPath (hdid : Did.IsDid did) (m : ℕ) :
    Express.unmount listMount (listPath did m) =
      some (Url.joinSegments [Text.replaceAll ':' '_' did, Text.ofNat m]) := by
  have hcut : listPath did m =
      listMount ++ '/' :: (Text.replaceAll ':' '_' did ++ '/' :: Text.ofNat m) := by
    rw [listPath, show listPathPrefix = listMount ++ ['/'] from rfl]
    simp
  have hfirst : (Text.replaceAll ':' '_' did ++ '/' :: Text.ofNat m).head? ≠ some '/' := by
    obtain ⟨s, rfl⟩ := hdid.exists_cons
    rw [show Text.replaceAll ':' '_' ('d' :: s) = 'd' :: Text.replaceAll ':' '_' s from rfl]
    simp
  rw [hcut, Express.unmount_append (by decide) hfirst]
  simp [Url.joinSegments]

/-- **The router accepts the path of a list** when the escapes of its issuer can be decoded; the
issuer's colons are gone, so nothing else of it changes. -/
theorem matchRoute_listPath (hdid : Did.IsDid did) (m : ℕ) :
    Express.matchRoute listRoute
        (Url.joinSegments [Text.replaceAll ':' '_' did, Text.ofNat m]) =
      (Uri.decodeURIComponent (Text.replaceAll ':' '_' did)).elim .malformed
        fun issuer => .params [issuer, Text.ofNat m] := by
  have hnumber : Uri.decodeURIComponent (Text.ofNat m) = some (Text.ofNat m) :=
    Uri.decodeURIComponent_of_not_mem (Text.not_mem_ofNat (by decide) m)
  have hissuer : Text.replaceAll ':' '_' did ≠ [] := by
    obtain ⟨s, rfl⟩ := hdid.exists_cons
    exact List.cons_ne_nil _ _
  have hslash : ∀ t ∈ [Text.replaceAll ':' '_' did], '/' ∉ t := by
    intro t ht
    rw [List.mem_singleton.1 ht]
    exact not_mem_issuer hdid (Or.inr rfl)
  have hmatch : Express.matchPath listRoute
      (Url.joinSegments [Text.replaceAll ':' '_' did, Text.ofNat m]) =
        some [Text.replaceAll ':' '_' did, Text.ofNat m] := by
    have hnoslash : '/' ∉ Text.ofNat m := Text.not_mem_ofNat (by decide) m
    rw [show [Text.replaceAll ':' '_' did, Text.ofNat m] =
      [Text.replaceAll ':' '_' did] ++ [Text.ofNat m] from rfl,
      Express.matchPath_joinSegments hslash hnoslash (Text.ofNat_ne_nil m), listRoute]
    simp [Express.matchSegments, hissuer, Text.ofNat_ne_nil]
  rw [Express.matchRoute, hmatch]
  cases hdecode : Uri.decodeURIComponent (Text.replaceAll ':' '_' did) with
  | none => simp [hdecode]
  | some issuer => simp [hdecode, hnumber]

/-! ### What a verifier gets -/

/-- An entry that is returned is one of the issuer's. -/
theorem Called.entry_eq {path : Text} {db' : Db} {result : RevocationDataResult}
    (h : Called lib path managed db (.getRevocationData did (.ok (some result))) db') :
    managed did ∧ ∃ m i, result = ⟨path ++ listPath did m, i⟩ := by
  cases h with
  | getRevocationData henvs hmanaged h =>
      obtain ⟨k, -, -, hend⟩ := getRevocationData_ok h
      generalize leftBy _ db k = dbk at hend
      cases hend with
      | issued _ _ hget _ _ =>
          have hdid := hmanaged k _ hget
          obtain rfl := (henvs k).didManagerGet_ok hget
          exact ⟨hdid, _, _, rfl⟩

/-- The router returns the list that is found under the request target. -/
theorem listHandler_of_findOne {req : ListRequest} {row : RevocationList}
    (hagent : req.agent = true)
    (hup : env.fault (.findOneList ⟨req.originalUrl, none⟩) = none)
    (hrow : db.lists.findOne (ListQuery.accepts ⟨req.originalUrl, none⟩) = some row) :
    listHandler env req db = .list row.verifiableCredential := by
  have hfind : Prog.run (serve env) (perform (.findOneList ⟨req.originalUrl, none⟩)) db =
      (.ok (some row), db) := by
    rw [run_perform_serve, serve, hup]
    exact congrArg (fun found => (Except.ok found, db)) hrow
  have hget : Prog.run (serve env) (getRevocationList req.originalUrl) db = (.ok row, db) :=
    Prog.run_mapError_of_ok ((Prog.run_bind_of_ok hfind).trans rfl)
  have hvc : Prog.run (serve env) (getRevocationListVC req.originalUrl) db =
      (.ok row.verifiableCredential, db) := by
    rw [getRevocationListVC_eq]
    exact (Prog.run_bind_of_ok hget).trans rfl
  rw [listHandler, if_neg (by simp [hagent]), hvc]

/-- What the router answers for the path of a list that is found. -/
theorem revocationList2020Router_listPath (hdid : Did.IsDid did) {m : ℕ} {row : RevocationList}
    (hup : env.fault (.findOneList ⟨listPath did m, none⟩) = none)
    (hrow : db.lists.findOne (ListQuery.accepts ⟨listPath did m, none⟩) = some row) :
    revocationList2020Router env ⟨.get, listPath did m, true⟩ db =
      (Uri.decodeURIComponent (Text.replaceAll ':' '_' did)).elim .malformed
        fun _ => .list row.verifiableCredential := by
  rw [revocationList2020Router, if_pos (Or.inl rfl)]
  dsimp only
  rw [pathname_listPath hdid, unmount_listPath hdid]
  dsimp only
  rw [matchRoute_listPath hdid]
  cases Uri.decodeURIComponent (Text.replaceAll ':' '_' did) with
  | none => rfl
  | some issuer => exact listHandler_of_findOne rfl hup hrow

/-- **What a verifier gets at the URL of an entry** that was handed out, after any run of calls: if
the escapes of the issuer can be decoded, the list credential of the issuer with that URL as its
`id`, in which the bit of the entry is the status that was last committed; else a bad request. -/
theorem list_served (origin : Url.Origin) (hlib : lib.Lawful) (hpad : lib.ZeroPadded)
    (hsep : ∀ did did', managed did → managed did' → did ≠ did' → ¬SamePath did did')
    {calls : List RegistryCall}
    (hrun : Simulation.Run (Called lib origin.text managed) Db.empty calls db)
    {result : RevocationDataResult} (hdid : Did.IsDid did)
    (hissued : .getRevocationData did (.ok (some result)) ∈ calls) :
    ∃ target, Url.requestTarget result.revocationListFullUrl = some target ∧
      ∀ env : Env, env.fault (.findOneList ⟨target, none⟩) = none →
        (Uri.decodeURIComponent (Text.replaceAll ':' '_' did) = none →
          revocationList2020Router env ⟨.get, target, true⟩ db = .malformed) ∧
        ∀ issuer, Uri.decodeURIComponent (Text.replaceAll ':' '_' did) = some issuer →
          ∃ credential,
            revocationList2020Router env ⟨.get, target, true⟩ db = .list credential ∧
            credential.id = result.revocationListFullUrl ∧ credential.issuer = did ∧
            getBit lib credential result.indexCounter =
              some ((StatusRegistry.changes (entryPosition origin.text result)
                (calls.filterMap (seen origin.text))).headD false) := by
  obtain ⟨_, _, hcall⟩ := hrun.exists_step hissued
  obtain ⟨hmanaged, m, i, rfl⟩ := hcall.entry_eq
  -- the list of the entry is found by the path that is requested
  obtain ⟨registry, hregistry, hrefines⟩ := (called_forward hsep hlib hpad).run refines_empty hrun
  have hhanded : (listPath did m, i) ∈
      StatusRegistry.handed (calls.filterMap (seen origin.text)) := by
    refine StatusRegistry.mem_handed.2 (List.mem_filterMap.2 ⟨_, hissued, ?_⟩)
    rw [seen, entryPosition_listPath]
  have hbit := hrefines.storedBit_eq hregistry hhanded
  obtain ⟨row, hrow, hread⟩ := Option.bind_eq_some_iff.1 hbit
  have hpath : row.revocationListFullUrlPath = listPath did m :=
    ListQuery.accepts_path_iff.1 (Table.key_of_findOne hrow)
  have hissuer : row.revocationVCIssuer = did := by
    rw [hrefines.own.findOne_listPath hsep hmanaged] at hrow
    exact congrArg ListKey.revocationVCIssuer (Table.lookup_eq_some_iff.1 hrow).2
  have hnamed := hrefines.own.named (Table.mem_of_findOne hrow)
  refine ⟨listPath did m, requestTarget_listPath origin hdid m, ?_⟩
  intro env hup
  have hroute := revocationList2020Router_listPath hdid hup hrow
  refine ⟨fun hdecode => ?_, fun issuer hdecode => ?_⟩
  · rw [hroute, hdecode, Option.elim_none]
  · rw [hdecode, Option.elim_some] at hroute
    refine ⟨row.verifiableCredential, hroute, ?_, hnamed.issuer_eq.trans hissuer, ?_⟩
    · rw [hnamed.id_eq, hpath]
    · rw [hread, entryPosition_listPath]

theorem isDid_plainDid : Did.IsDid plainDid := by
  have hlast : Did.IdChars "a".toList := .char rfl .nil
  have hdid : Did.IsDid ("did:".toList ++ "web".toList ++
      ':' :: (([] : List Text).flatMap (fun id => id ++ [':']) ++ "a".toList)) :=
    .mk (by decide) (List.all_eq_true.1 rfl) (fun _ h => by cases h) hlast (by decide)
  exact hdid

/-- After its revocation, the list at the URL of the first issuer's entry has the bit set. -/
theorem list_served_plain :
    ∃ credential, revocationList2020Router readEnv
        ⟨.get, "/credentials/status/revocation-list-2020/did_web_a/0".toList, true⟩ firstRevoked =
          .list credential ∧
      credential.issuer = plainDid ∧ getBit plainLib credential 0 = some true := by
  have hissued : .getRevocationData plainDid (.ok (some ⟨plainPath ++ listPath plainDid 0, 0⟩)) ∈
      twoIssuersCalls := List.mem_cons_of_mem _ (List.mem_cons_of_mem _ List.mem_cons_self)
  obtain ⟨target, htarget, hserved⟩ := list_served plainOrigin plainLib_lawful plainLib_zeroPadded
    twoIssuers_separate run_twoIssuersCalls isDid_plainDid hissued
  have hexpected : Url.requestTarget (plainPath ++ listPath plainDid 0) =
      some "/credentials/status/revocation-list-2020/did_web_a/0".toList :=
    requestTarget_listPath plainOrigin isDid_plainDid 0
  obtain rfl := Option.some.inj (htarget.symm.trans hexpected)
  have hdecode : Uri.decodeURIComponent (Text.replaceAll ':' '_' plainDid) = some _ :=
    Uri.decodeURIComponent_of_not_mem (by decide)
  obtain ⟨credential, hlist, -, hissuer, hbit⟩ := (hserved readEnv rfl).2 _ hdecode
  exact ⟨credential, hlist, hissuer, hbit.trans (by decide +kernel)⟩

end Revocation
