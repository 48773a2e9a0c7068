/-
**Status checks through the server.**

To tell whether a credential is revoked, the plugin does not look into its tables.  It hands the
credential to the library, which asks a loader for the list that the entry names; the loader knows
some documents by their address, resolves DIDs, and fetches what else starts with `http`; and the
address of a list is one of the server that the plugin runs in.  Its routers serve the list that is
stored.  So the guard of a status change reads, over all these parts, what the changes before have
written.

Main definitions:

* `Revocation.Loader`, `Revocation.resolve`, `Revocation.documentLoader` — the loader;
* `Revocation.Site` — where the plugin runs: the server, and what else the loader asks;
* `Revocation.ReadsLists` — what the library documents about its check;
* `Revocation.SiteCall` — calls whose checks go through the server.

Main results:

* `Revocation.documentLoader_list` — the loader returns the list that is stored;
* `Revocation.checksList_of_site` — **a check through the server has read the list**;
* `Revocation.checkStatus_through_server` — **in every run** the changes of an entry alternate, and
  the status of its credential is the last of them.
-/

import Vckit.ServerRoutes

set_option relaxedAutoImplicit false
set_option autoImplicit false

namespace Revocation

open StatusRegistry (changes)

/-! ### The loader -/

/-- What a loader returns. -/
inductive Document (X : Type) where
  | list (credential : ListCredential)
  | other (document : X)
  deriving DecidableEq

/-- What the loader is made of: two maps of contexts, the resolvers of two DID methods, and
`fetch(iri).then((res) => res.json())`. -/
structure Loader (X : Type) where
  contexts : Text → Option (Document X)
  ldDefaultContexts : Text → Option (Document X)
  didKey : Text → Except JsError (Document X)
  didWeb : Text → Except JsError (Document X)
  fetch : Text → Except JsError (Document X)

variable {X : Type}

/-- `resolve` -/
def resolve (loader : Loader X) (did : Text) : Except JsError (Document X) :=
  if "did:key".toList.isPrefixOf did then loader.didKey ((Text.split did ['#']).headD [])
  else if "did:web".toList.isPrefixOf did then loader.didWeb did
  else .error (JsError.ofMessage "Unsupported did method".toList)

/-- `documentLoader` -/
def documentLoader (loader : Loader X) (iri : Text) : Except JsError (Document X) :=
  let unsupported := JsError.ofMessage ("Unsupported iri: ".toList ++ iri)
  if iri = [] then .error unsupported
  else
    match loader.contexts iri with
    | some document => .ok document
    | none =>
        match loader.ldDefaultContexts iri with
        | some document => .ok document
        | none =>
            if "did:".toList.isPrefixOf iri then resolve loader iri
            else if "http".toList.isPrefixOf iri then loader.fetch iri
            else .error unsupported

/-- An address that the loader fetches. -/
theorem documentLoader_of_http {loader : Loader X} {iri : Text}
    (hhttp : "http".toList.isPrefixOf iri) (hcontexts : loader.contexts iri = none)
    (hdefault : loader.ldDefaultContexts iri = none) :
    documentLoader loader iri = loader.fetch iri := by
  obtain ⟨rest, rfl⟩ := List.isPrefixOf_iff_prefix.1 hhttp
  have hne : "http".toList ++ rest ≠ [] := List.cons_ne_nil _ _
  have hdid : ("did:".toList.isPrefixOf ("http".toList ++ rest)) = false := rfl
  rw [documentLoader, if_neg hne, hcontexts, hdefault]
  dsimp only
  rw [hdid, if_neg Bool.false_ne_true, if_pos hhttp]

/-! ### The place where the plugin runs -/

section Site

variable {N S R : Type}

/-- **Where the plugin runs**: the origin of the server and its parts, and the answers of everything
else that the loader asks.  `bodyOf` is what `res.json()` makes of an answer that is no list. -/
structure Site (N S R X : Type) where
  origin : Url.Origin
  parts : Server.Parts N S R
  host : Text
  hostname : Text
  contexts : Text → Option (Document X)
  ldDefaultContexts : Text → Option (Document X)
  didKey : Text → Except JsError (Document X)
  didWeb : Text → Except JsError (Document X)
  bodyOf : Option (Server.Answer N S R) → Except JsError (Document X)
  elsewhere : Text → Except JsError (Document X)
  /-- The library's `checkStatus`, with a loader. -/
  transmuteCheckStatus : (Text → Except JsError (Document X)) → Credential → Except JsError Bool

variable [JsonNumber N] (site : Site N S R X)

/-- The answer of the server to a `GET` without a body, over the lists that are stored. -/
def Site.respond (db : Db) (target : Text) : Option (Server.Answer N S R) :=
  Server.respond { site.parts with lists := db }
    (Server.request site.host site.hostname (.obj []) .get target)

/-- `fetch(iri).then((res) => res.json())` -/
def Site.fetch (db : Db) (iri : Text) : Except JsError (Document X) :=
  if (site.origin.text ++ ['/']).isPrefixOf iri then
    match Url.requestTarget iri with
    | none => .error ⟨"TypeError".toList, "Failed to parse URL".toList⟩
    | some target =>
        match site.respond db target with
        | some (.list (.list credential)) => .ok (.list credential)
        | answer => site.bodyOf answer
  else site.elsewhere iri

/-- The loader, over the lists that are stored. -/
def Site.loader (db : Db) : Loader X where
  contexts := site.contexts
  ldDefaultContexts := site.ldDefaultContexts
  didKey := site.didKey
  didWeb := site.didWeb
  fetch := site.fetch db

/-- The check of a credential, over the lists that are stored. -/
def Site.check (db : Db) (credential : Credential) : Except JsError Bool :=
  site.transmuteCheckStatus (documentLoader (site.loader db)) credential

/-- **What a site needs to serve its lists**: its address starts with `http` and is no context, its
database answers, and the issuers are DIDs whose escapes can be decoded. -/
structure Site.Serves (managed : Text → Prop) : Prop where
  http : "http".toList.isPrefixOf site.origin.text
  contexts : ∀ p, site.contexts (site.origin.text ++ p) = none
  ldDefaultContexts : ∀ p, site.ldDefaultContexts (site.origin.text ++ p) = none
  up : ∀ query, site.parts.listEnv.fault (.findOneList query) = none
  isDid : ∀ {did}, managed did → Did.IsDid did
  decoded : ∀ {did}, managed did →
    ∃ issuer, Uri.decodeURIComponent (Text.replaceAll ':' '_' did) = some issuer

variable {site} {lib : VcStatusRl2020} {managed : Text → Prop} {db : Db}

/-- **The loader returns the list that is stored** under the path of an issuer. -/
theorem documentLoader_list (hserves : site.Serves managed) {did : Text} (hmanaged : managed did)
    {m : ℕ} {row : RevocationList}
    (hrow : db.lists.findOne (ListQuery.accepts ⟨listPath did m, none⟩) = some row) :
    documentLoader (site.loader db) (site.origin.text ++ listPath did m) =
      .ok (.list row.verifiableCredential) := by
  have hdid := hserves.isDid hmanaged
  obtain ⟨issuer, hdecoded⟩ := hserves.decoded hmanaged
  have hhttp : "http".toList.isPrefixOf (site.origin.text ++ listPath did m) :=
    List.isPrefixOf_iff_prefix.2
      ((List.isPrefixOf_iff_prefix.1 hserves.http).trans (List.prefix_append _ _))
  have horigin : (site.origin.text ++ ['/']).isPrefixOf (site.origin.text ++ listPath did m) := by
    obtain ⟨rest, hrest⟩ : ∃ rest, listPath did m = '/' :: rest := ⟨_, rfl⟩
    rw [List.isPrefixOf_iff_prefix, hrest, List.prefix_append_right_inj]
    exact ⟨rest, rfl⟩
  have hlist : site.respond db (listPath did m) =
      some (.list (.list row.verifiableCredential)) := by
    have hreply := revocationList2020Router_listPath hdid (hserves.up _) hrow
    rw [hdecoded, Option.elim_some] at hreply
    rw [Site.respond, Server.respond_listPath hdid m]
    exact congrArg (fun reply => some (Server.Answer.list reply)) hreply
  rw [documentLoader_of_http hhttp (hserves.contexts _) (hserves.ldDefaultContexts _)]
  change site.fetch db _ = _
  rw [Site.fetch, if_pos horigin, requestTarget_listPath site.origin hdid m]
  dsimp only
  rw [hlist]

/-! ### What the library reads -/

/-- **What the library documents**: it loads the list that the entry names, and if it accepts the
list, it reports the bit at the index of the entry. -/
structure ReadsLists (lib : VcStatusRl2020)
    (accepts : (Text → Except JsError (Document X)) → Credential → ListCredential → Prop)
    (check : (Text → Except JsError (Document X)) → Credential → Except JsError Bool) : Prop where
  check_eq : ∀ {load credential entry i vc bit}, credential.credentialStatus = some entry →
    entry.revocationListIndex = some i → load entry.revocationListCredential = .ok (.list vc) →
    accepts load credential vc → getBit lib vc i = some bit → check load credential = .ok (!bit)

/-- The library accepts the list that the entry of a credential names, as it is stored: it verifies
the signature of the list. -/
def Site.Accepted (site : Site N S R X)
    (accepts : (Text → Except JsError (Document X)) → Credential → ListCredential → Prop) (db : Db)
    (credential : Credential) : Prop :=
  ∀ {entry row}, credential.credentialStatus = some entry → row ∈ db.lists.rows →
    entry.revocationListCredential = site.origin.text ++ row.revocationListFullUrlPath →
    accepts (documentLoader (site.loader db)) credential row.verifiableCredential

variable {accepts : (Text → Except JsError (Document X)) → Credential → ListCredential → Prop}

/-- The list at the position of a credential, read through the server. -/
theorem check_of_storedBit (hreads : ReadsLists lib accepts site.transmuteCheckStatus)
    (hserves : site.Serves managed) (hown : IssuersLists lib site.origin.text managed db)
    {credential : Credential} (haccepted : site.Accepted accepts db credential)
    {position : Text × ℕ} {bit : Bool}
    (hposition : checkedPosition site.origin.text credential = some position)
    (hbit : storedBit lib db.lists position.1 position.2 = some bit) :
    site.check db credential = .ok (!bit) := by
  obtain ⟨entry, hentry, hchecked⟩ := Option.bind_eq_some_iff.1 hposition
  split_ifs at hchecked with hprefix
  obtain ⟨i, hindex, rfl⟩ := Option.map_eq_some_iff.1 hchecked
  obtain ⟨p, hp⟩ := hprefix
  rw [← hp, List.drop_left] at hbit
  obtain ⟨row, hrow, hread⟩ := Option.bind_eq_some_iff.1 hbit
  have hmem := Table.mem_of_findOne hrow
  have hpath : row.revocationListFullUrlPath = p :=
    ListQuery.accepts_path_iff.1 (Table.key_of_findOne hrow)
  obtain ⟨m, hlist⟩ := (hown.named hmem).path_eq
  have hload : documentLoader (site.loader db) entry.revocationListCredential =
      .ok (.list row.verifiableCredential) := by
    have hrow' := hrow
    rw [← hpath, hlist] at hrow'
    rw [← hp, ← hpath, hlist]
    exact documentLoader_list hserves (hown.managed_issuer hmem) hrow'
  have haccept := haccepted hentry hmem (by rw [hpath, hp])
  exact hreads.check_eq hentry hindex hload haccept hread

/-- **A check through the server has read the list.** -/
theorem checksList_of_site (hreads : ReadsLists lib accepts site.transmuteCheckStatus)
    (hserves : site.Serves managed) (hown : IssuersLists lib site.origin.text managed db)
    {credential : Credential} (haccepted : site.Accepted accepts db credential) {env : Env}
    (henv : env.transmuteCheckStatus = site.check) :
    ChecksList lib site.origin.text env db credential := by
  intro verified position bit hcheck hposition hbit
  rw [henv, check_of_storedBit hreads hserves hown haccepted hposition hbit] at hcheck
  exact (Except.ok.inj hcheck).symm

/-! ### Runs -/

/-- **One call**, as in `Called`, when the checks of the guards go through the server. -/
inductive SiteCall (site : Site N S R X)
    (accepts : (Text → Except JsError (Document X)) → Credential → ListCredential → Prop)
    (lib : VcStatusRl2020) (managed : Text → Prop) : Db → RegistryCall → Db → Prop
  | getRevocationData {db db' : Db} {n : ℕ} {did : Text} {req : Context} {envs : ℕ → AttemptEnv}
      {out : Except JsError (Option RevocationDataResult)} (henvs : ∀ k, (envs k).env.Lawful)
      (hmanaged : ∀ k i, (envs k).env.didManagerGet did = .ok i → managed did)
      (h : getRevocationData lib ⟨site.origin.text, n⟩ did req envs db = (out, db')) :
      SiteCall site accepts lib managed db (.getRevocationData did out) db'
  | setStatus {db db' : Db} {n : ℕ} {hash : Text} {context : Context} {envs : ℕ → AttemptEnv}
      {credential : Credential} {revoked : Bool} {out : Except JsError (Option Unit)}
      (henvs : ∀ k, (envs k).env.Lawful)
      (hsite : ∀ k, (envs k).env.transmuteCheckStatus = site.check)
      (haccepted : site.Accepted accepts db credential)
      (hcredential : ∀ k found,
        (envs k).env.dataStoreGetVerifiableCredential hash = .ok (some found) →
        found = credential)
      (hserved : ∀ entry, credential.credentialStatus = some entry →
        ServedEntry site.origin.text entry)
      (h : callTransaction (statusTransaction lib ⟨site.origin.text, n⟩ hash context revoked) envs
        db = (out, db')) :
      SiteCall site accepts lib managed db (.setStatus credential revoked out) db'

theorem SiteCall.called (hreads : ReadsLists lib accepts site.transmuteCheckStatus)
    (hserves : site.Serves managed) {call : RegistryCall} {db' : Db}
    (hown : IssuersLists lib site.origin.text managed db)
    (h : SiteCall site accepts lib managed db call db') :
    Called lib site.origin.text managed db call db' := by
  cases h with
  | getRevocationData henvs hmanaged h => exact .getRevocationData henvs hmanaged h
  | setStatus henvs hsite haccepted hcredential hserved h =>
      exact .setStatus henvs
        (fun k => checksList_of_site hreads hserves hown haccepted (hsite k)) hcredential hserved h

variable {calls : List RegistryCall}

/-- The calls of a run are calls whose checks have read the lists. -/
theorem run_called (hlib : lib.Lawful) (hpad : lib.ZeroPadded)
    (hsep : ∀ did did', managed did → managed did' → did ≠ did' → ¬SamePath did did')
    (hreads : ReadsLists lib accepts site.transmuteCheckStatus) (hserves : site.Serves managed)
    (hrun : Simulation.Run (SiteCall site accepts lib managed) Db.empty calls db) :
    Simulation.Run (Called lib site.origin.text managed) Db.empty calls db := by
  refine hrun.of_invariant
    (I := fun db => ∃ registry, Refines lib site.origin.text managed db registry)
    ⟨_, refines_empty⟩ ?_ ?_
  · rintro db call db' ⟨registry, hrefines⟩ h
    exact h.called hreads hserves hrefines.own
  · rintro db call db' ⟨registry, hrefines⟩ h
    -- One step is a run too: the registry answers it.
    obtain ⟨registry', -, hrefines'⟩ :=
      (called_forward hsep hlib hpad).run hrefines (Simulation.Run.nil.cons h)
    exact ⟨registry', hrefines'⟩

/-- **The status of a credential, checked through the server**, in every run of calls whose guards
check through the server: the committed changes of an entry that was handed out alternate, a
revocation first, and the method `checkStatus` answers for a credential with that entry what was
committed last, or that it is not revoked. -/
theorem checkStatus_through_server (hlib : lib.Lawful) (hpad : lib.ZeroPadded)
    (hsep : ∀ did did', managed did → managed did' → did ≠ did' → ¬SamePath did did')
    (hreads : ReadsLists lib accepts site.transmuteCheckStatus) (hserves : site.Serves managed)
    (hrun : Simulation.Run (SiteCall site accepts lib managed) Db.empty calls db)
    {did : Text} {result : RevocationDataResult} {credential : Credential}
    (hissued : .getRevocationData did (.ok (some result)) ∈ calls)
    (hcredential : credential.credentialStatus = some (credentialStatusOf result)) :
    (changes (entryPosition site.origin.text result)
      (calls.filterMap (seen site.origin.text)) ++ [false]).IsChain (· ≠ ·) ∧
    ∀ (env : Env) (hash : Text), env.transmuteCheckStatus = site.check →
      site.Accepted accepts db credential →
      env.fault (.dataStoreGetVerifiableCredential hash) = none →
      env.fault (.transmuteCheckStatus credential) = none →
      env.dataStoreGetVerifiableCredential hash = .ok (some credential) →
      Prog.run (serve env) (checkStatus hash ⟨true⟩) db =
        (.ok ⟨(changes (entryPosition site.origin.text result)
          (calls.filterMap (seen site.origin.text))).headD false⟩, db) := by
  have hcalled := run_called hlib hpad hsep hreads hserves hrun
  obtain ⟨registry, hregistry, hrefines⟩ :=
    (called_forward hsep hlib hpad).run refines_empty hcalled
  refine ⟨StatusRegistry.changes_alternate hregistry _, ?_⟩
  intro env hash hsite haccepted hstoreUp hcheckUp hstored
  obtain ⟨_, _, hcall⟩ := hcalled.exists_step hissued
  obtain ⟨hmanaged, m, i, rfl⟩ := hcall.entry_eq
  have hhanded : (listPath did m, i) ∈
      StatusRegistry.handed (calls.filterMap (seen site.origin.text)) := by
    refine StatusRegistry.mem_handed.2 (List.mem_filterMap.2 ⟨_, hissued, ?_⟩)
    rw [seen, entryPosition_listPath]
  have hbit := hrefines.storedBit_eq hregistry hhanded
  have hposition : checkedPosition site.origin.text credential = some (listPath did m, i) := by
    rw [checkedPosition, hcredential, Option.bind_some, credentialStatusOf,
      if_pos (List.prefix_append _ _), List.drop_left]
    rfl
  have hverified := check_of_storedBit hreads hserves hrefines.own haccepted hposition hbit
  rw [← hsite] at hverified
  rw [entryPosition_listPath]
  generalize (changes (listPath did m, i)
    (calls.filterMap (seen site.origin.text))).headD false = revoked at hverified ⊢
  obtain ⟨outcome, houtcome⟩ : ∃ outcome : CheckOutcome, outcome.result.verified = !revoked := by
    cases revoked with
    | true => exact ⟨.revoked, rfl⟩
    | false => exact ⟨.active, rfl⟩
  have hchecked : Checked env db hash credential outcome :=
    ⟨hstoreUp, hstored, hcheckUp, by rw [houtcome]; exact hverified⟩
  rw [run_checkStatus rfl hchecked, houtcome, Bool.not_not]

end Site

/-! ### A credential that is revoked -/

/-- A check that reports what it cannot read as revoked, as the library does. -/
def readLoaded (load : Text → Except JsError (Document Unit)) (credential : Credential) :
    Except JsError Bool :=
  match credential.credentialStatus with
  | none => .ok false
  | some entry =>
      match load entry.revocationListCredential with
      | .ok (.list vc) =>
          match entry.revocationListIndex.bind (getBit plainLib vc) with
          | some bit => .ok (!bit)
          | none => .ok false
      | _ => .ok false

/-- A site at `https://h`, whose loader knows nothing but what it fetches. -/
def plainSite : Site ℤ Unit Unit Unit where
  origin := plainOrigin
  parts := Server.plainParts
  host := "h".toList
  hostname := "h".toList
  contexts := fun _ => none
  ldDefaultContexts := fun _ => none
  didKey := fun _ => .error statusMissing
  didWeb := fun _ => .error statusMissing
  bodyOf := fun _ => .error statusMissing
  elsewhere := fun _ => .error statusMissing
  transmuteCheckStatus := readLoaded

/-- The library accepts every list. -/
def anyList : (Text → Except JsError (Document Unit)) → Credential → ListCredential → Prop :=
  fun _ _ _ => True

theorem readsLists_plainSite : ReadsLists plainLib anyList plainSite.transmuteCheckStatus where
  check_eq := by
    intro load credential entry i vc bit hentry hindex hload _ hbit
    change readLoaded load credential = _
    rw [readLoaded, hentry]
    dsimp only
    rw [hload]
    dsimp only
    rw [hindex, Option.bind_some, hbit]

theorem accepted_plainSite (db : Db) (credential : Credential) :
    plainSite.Accepted anyList db credential := fun _ _ _ => trivial

/-- Its issuer. -/
def siteIssuer (did : Text) : Prop := did = plainDid

theorem plainSite_serves : plainSite.Serves siteIssuer where
  http := by decide +kernel
  contexts := fun _ => rfl
  ldDefaultContexts := fun _ => rfl
  up := fun _ => rfl
  isDid := by
    rintro did rfl
    exact isDid_plainDid
  decoded := by
    rintro did rfl
    exact ⟨_, Uri.decodeURIComponent_of_not_mem (by decide)⟩

/-- Calls of an agent of the site that stores `plainCredential`. -/
def siteEnv : Env :=
  { plainEnv [plainDid] [(plainHash, plainCredential)] with
    transmuteCheckStatus := plainSite.check }

theorem transmuteCheckStatus_siteEnv : siteEnv.transmuteCheckStatus = plainSite.check := rfl

def siteEnvs (_ : ℕ) : AttemptEnv := ⟨siteEnv, none⟩

theorem siteEnvs_lawful (k : ℕ) : (siteEnvs k).env.Lawful where
  didManagerGet_ok := (plainEnv_lawful [plainDid] []).didManagerGet_ok
  createVerifiableCredential_ok := (plainEnv_lawful [] []).createVerifiableCredential_ok

/-- The tables after an entry is handed out. -/
def siteIssued : Db :=
  (getRevocationData plainLib plainOptions plainDid ⟨true⟩ siteEnvs Db.empty).2

/-- The tables after the entry is revoked. -/
def siteRevoked : Db :=
  (Prog.run (serve siteEnv) (changeStatus plainLib plainOptions true ⟨true⟩ plainCredential)
    siteIssued).2

/-- The entry is handed out. -/
theorem siteCall_issued : SiteCall plainSite anyList plainLib siteIssuer Db.empty
    (.getRevocationData plainDid (.ok (some ⟨plainPath ++ listPath plainDid 0, 0⟩)))
    siteIssued := by
  have hcall : getRevocationData plainLib plainOptions plainDid ⟨true⟩ siteEnvs Db.empty =
      (.ok (some ⟨plainPath ++ listPath plainDid 0, 0⟩), siteIssued) := rfl
  exact .getRevocationData siteEnvs_lawful (fun _ _ _ => rfl) hcall

theorem siteIssuer_separate :
    ∀ did did', siteIssuer did → siteIssuer did' → did ≠ did' → ¬SamePath did did' := by
  rintro did did' rfl rfl hne
  exact absurd rfl hne

/-- The guard of the revocation finds that the credential is active. -/
theorem checked_siteIssued : Checked siteEnv siteIssued plainHash plainCredential .active := by
  obtain ⟨registry, -, hrefines⟩ :=
    (called_forward siteIssuer_separate plainLib_lawful plainLib_zeroPadded).run refines_empty
      (run_called plainLib_lawful plainLib_zeroPadded siteIssuer_separate readsLists_plainSite
        plainSite_serves (Simulation.Run.nil.cons siteCall_issued))
  have hposition : checkedPosition plainSite.origin.text plainCredential =
      some (listPath plainDid 0, 0) := by
    decide +kernel
  have hbit : storedBit plainLib siteIssued.lists (listPath plainDid 0) 0 = some false := by
    decide +kernel
  have hcheck := check_of_storedBit readsLists_plainSite plainSite_serves hrefines.own
    (accepted_plainSite siteIssued plainCredential) hposition hbit
  rw [← transmuteCheckStatus_siteEnv] at hcheck
  exact ⟨rfl, rfl, rfl, hcheck⟩

/-- It is revoked. -/
theorem siteCall_revoked : SiteCall plainSite anyList plainLib siteIssuer siteIssued
    (.setStatus plainCredential true (.ok (some ()))) siteRevoked := by
  have hchecked := checked_siteIssued
  have hguard : Prog.run (serve siteEnv) (statusGuard (alreadySet true) true plainHash ⟨true⟩)
      siteIssued = (.ok plainCredential, siteIssued) := by
    rw [statusGuard, Prog.run_bind_of_ok (run_credentialByHash_of_checked rfl hchecked),
      Prog.run_bind_of_ok (run_checkStatusOf_of_checked hchecked)]
    rfl
  have hchanged : (Prog.run (serve siteEnv)
      (changeStatus plainLib plainOptions true ⟨true⟩ plainCredential) siteIssued).1 = .ok () := by
    decide +kernel
  have hrun : Prog.run (serve siteEnv) (setCredentialStatus plainLib plainOptions (alreadySet true)
      true plainHash ⟨true⟩) siteIssued = (.ok (), siteRevoked) := by
    rw [setCredentialStatus_eq, Prog.run_bind_of_ok hguard]
    exact Prod.ext hchanged rfl
  have hcall : callTransaction (statusTransaction plainLib plainOptions plainHash ⟨true⟩ true)
      siteEnvs siteIssued = (.ok (some ()), siteRevoked) := by
    change callTransaction
      (setCredentialStatus plainLib plainOptions (alreadySet true) true plainHash
      ⟨true⟩) siteEnvs siteIssued = _
    simp only [callTransaction, runTransactionWithExponentialBackoff, defaultMaxRetries,
      backoffLoop, BackoffVars.init, attemptOf, managerTransaction, attemptBody, siteEnvs, hrun]
    rfl
  refine .setStatus siteEnvs_lawful (fun _ => transmuteCheckStatus_siteEnv)
    (accepted_plainSite _ _) ?_ ?_ hcall
  · intro k found hfound
    cases hfound
    rfl
  · intro entry hentry
    cases hentry
    exact servedEntry_credentialStatusOf (by decide) 0 0

/-- The two calls, the last one first. -/
def siteCalls : List RegistryCall :=
  [.setStatus plainCredential true (.ok (some ())),
    .getRevocationData plainDid (.ok (some ⟨plainPath ++ listPath plainDid 0, 0⟩))]

/-- After its revocation the credential is revoked, as far as the server tells. -/
theorem checkStatus_through_server_plain :
    Prog.run (serve siteEnv) (checkStatus plainHash ⟨true⟩) siteRevoked =
      (.ok ⟨true⟩, siteRevoked) := by
  have hrun : Simulation.Run (SiteCall plainSite anyList plainLib siteIssuer) Db.empty siteCalls
      siteRevoked := (Simulation.Run.nil.cons siteCall_issued).cons siteCall_revoked
  have hanswer := (checkStatus_through_server plainLib_lawful plainLib_zeroPadded
    siteIssuer_separate readsLists_plainSite plainSite_serves hrun
    (List.mem_cons_of_mem _ List.mem_cons_self) rfl).2 siteEnv plainHash
    transmuteCheckStatus_siteEnv
    (accepted_plainSite siteRevoked plainCredential) rfl rfl rfl
  have hlast : (changes (entryPosition plainSite.origin.text ⟨plainPath ++ listPath plainDid 0, 0⟩)
      (siteCalls.filterMap (seen plainSite.origin.text))).headD false = true := by
    decide +kernel
  rw [hlast] at hanswer
  exact hanswer

end Revocation
