/-
**The VC API over a data store.**

Requests that are handled one after the other use the data store as a collection of credentials: a
credential that is issued is added, and so are those in a presentation that is proven and saved, a
deletion takes out one credential with the id, and the others look.  So what the answers of any run
of requests say fits together: a credential that is returned was issued before and has the id, an
id that is not found was deleted after every issuance, and no id is deleted more often than
credentials with it came in.

The data store and the plugins are a parameter, with what is documented of them; the OpenAttestation
plugin is one of them, and meets it.

Main definitions:

* `VcApi.DataStore` — what is documented of the data store and of the plugins;
* `VcApi.RequestStep` — one request;
* `VcApi.seen` — what its answer says about the collection.

Main results:

* `VcApi.DataStore.serve` — the OpenAttestation plugin meets it;
* `VcApi.request_forward` — **requests use the data store as a collection**;
* `VcApi.answers_history` — **the answers of a run of requests fit together**.
-/

import Vckit.Collection
import Vckit.CredentialOA
import Vckit.VcRouter

set_option relaxedAutoImplicit false
set_option autoImplicit false

namespace VcApi

open Collection (Event)
open HolderController (UniqueVerifiableCredential byId)
open ObjectCreator (JsNumber)
open Simulation (Run)

variable {N σ : Type}

/-- The value in a response with a status. -/
def Response.valueAt (status : ℕ) (response : Response N) : Option (Json N) :=
  match response.body with
  | .json value => if response.status = status then some value else none
  | .error _ | .message _ => none

/-- The entries of a list. -/
def itemsOf : Json N → Option (List (Json N))
  | .arr items => some items
  | _ => none

variable [JsNumber N]

/-! ### The data store -/

/-- The credentials in the rows of the data store. -/
def documents (rows : σ → List (UniqueVerifiableCredential (Json N))) (s : σ) : Set (Json N) :=
  {v | ∃ c ∈ rows s, c.verifiableCredential = v}

/-- The credentials that a plugin saves: the one that it creates, or those that are in the
presentation that it creates. -/
def saved (embedded : Json N → List (Json N)) (method : Method) (args : Args N) (value : Json N) :
    List (Json N) :=
  if truthy (args.get "save".toList) then
    match method with
    | .createVerifiableCredential | .createVerifiableCredentialOA => [value]
    | .createVerifiablePresentation => embedded value
    | .verifyCredential | .verifyCredentialOA | .verifyPresentation => []
  else []

/-- **What is documented of the data store and of the plugins.** -/
structure DataStore (h : (o : Call N) → σ → Except JsError o.Resp × σ)
    (idOf : Json N → Option Text) (embedded : Json N → List (Json N)) (hashOf : Json N → Text)
    (rows : σ → List (UniqueVerifiableCredential (Json N))) (writable : σ → Prop) : Prop where
  holder : HolderController.Lawful (fun o => h (.holder o)) idOf rows writable
  /-- The hash is that of the credential. -/
  hashed {s : σ} {c : UniqueVerifiableCredential (Json N)} (hc : c ∈ rows s) :
    c.hash = hashOf c.verifiableCredential
  /-- Without conditions everything is found, and nothing changes. -/
  list (s : σ) : ∃ result, h .dataStoreORMGetVerifiableCredentials s = (.ok result, s) ∧
    result.Perm (rows s)
  /-- A plugin adds what it saves. -/
  plugin_ok {method : Method} {args : Args N} {value : Json N} {s t : σ}
    (hrun : h (.plugin method args) s = (.ok value, t)) :
    documents rows t = documents rows s ∪ {v | v ∈ saved embedded method args value}
  plugin_error {method : Method} {args : Args N} {e : JsError} {s t : σ}
    (hrun : h (.plugin method args) s = (.error e, t)) : documents rows t = documents rows s
  presentations (where_ : Option (List HolderController.WhereClause)) (s : σ) :
    documents rows (h (.dataStoreORMGetVerifiablePresentations where_) s).2 = documents rows s

variable {h : (o : Call N) → σ → Except JsError o.Resp × σ} {idOf : Json N → Option Text}
  {embedded : Json N → List (Json N)} {hashOf : Json N → Text}
  {rows : σ → List (UniqueVerifiableCredential (Json N))} {writable : σ → Prop}

section OpenAttestation

variable [DecidableEq N] {lib : CredentialOA.Library N}
  {oa : (o : CredentialOA.Call N) → σ → Except JsError o.Resp × σ}

/-- A verification by the plugin always has a result, and stores nothing. -/
theorem serve_verifyCredentialOA (hdoc : CredentialOA.Documented lib oa (documents rows))
    (args : Args N) (s : σ) :
    ∃ value t, CredentialOA.serve lib oa h (.plugin .verifyCredentialOA args) s = (.ok value, t) ∧
      documents rows t = documents rows s := by
  obtain ⟨result, t, hresult, hkept, -⟩ := CredentialOA.run_verifyCredentialOA hdoc args s
  refine ⟨result.toJson, t, ?_, hkept⟩
  rw [CredentialOA.serve, hresult]
  rfl

/-- **The OpenAttestation plugin meets what is documented of plugins.** -/
theorem DataStore.serve (hrest : DataStore h idOf embedded hashOf rows writable)
    (hdoc : CredentialOA.Documented lib oa (documents rows)) :
    DataStore (CredentialOA.serve lib oa h) idOf embedded hashOf rows writable where
  holder := hrest.holder
  hashed := hrest.hashed
  list := hrest.list
  plugin_ok := by
    intro method args value s t hrun
    cases method with
    | createVerifiableCredentialOA =>
        have hcreation := CredentialOA.run_createVerifiableCredentialOA hdoc args s
        have hplugin : (CredentialOA.createVerifiableCredentialOA lib args).run oa s =
          (.ok value, t) := hrun
        rw [hplugin] at hcreation
        obtain ⟨_, _, _, -, -, hstored⟩ := hcreation.created rfl
        rw [hstored, saved]
        split_ifs <;> simp [Set.insert_def, Set.union_def, or_comm]
    | verifyCredentialOA =>
        obtain ⟨value', t', hserve, hkept⟩ := serve_verifyCredentialOA (h := h) hdoc args s
        obtain ⟨-, rfl⟩ := Prod.mk.inj (hserve.symm.trans hrun)
        have hnone : saved embedded .verifyCredentialOA args value = [] := ite_self _
        rw [hkept, hnone]
        simp
    | createVerifiableCredential => exact hrest.plugin_ok hrun
    | verifyCredential => exact hrest.plugin_ok hrun
    | createVerifiablePresentation => exact hrest.plugin_ok hrun
    | verifyPresentation => exact hrest.plugin_ok hrun
  plugin_error := by
    intro method args e s t hrun
    cases method with
    | createVerifiableCredentialOA =>
        have hcreation := CredentialOA.run_createVerifiableCredentialOA hdoc args s
        have hplugin : (CredentialOA.createVerifiableCredentialOA lib args).run oa s =
          (.error e, t) := hrun
        rw [hplugin] at hcreation
        exact hcreation.failed rfl
    | verifyCredentialOA =>
        obtain ⟨value, t', hserve, -⟩ := serve_verifyCredentialOA (h := h) hdoc args s
        cases (Prod.mk.inj (hserve.symm.trans hrun)).1
    | createVerifiableCredential => exact hrest.plugin_error hrun
    | verifyCredential => exact hrest.plugin_error hrun
    | createVerifiablePresentation => exact hrest.plugin_error hrun
    | verifyPresentation => exact hrest.plugin_error hrun
  presentations := hrest.presentations

end OpenAttestation

/-! ### What an answer says -/

/-- What the response of an endpoint says about the collection of credentials. -/
def Endpoint.seen (embedded : Json N → List (Json N)) (response : Response N) :
    Endpoint N → Option (Event (Json N) Text)
  | .issueCredential _ => (response.valueAt 201).map fun vc => .added [vc]
  | .provePresentation body => (response.valueAt 201).map fun presentation =>
      .added (saved embedded .createVerifiablePresentation (provingParams body) presentation)
  | .deleteCredential id => if response.status = 202 then some (.removed id) else none
  | .getCredential id =>
      if response.status = 404 then some (.missed id)
      else (response.valueAt 200).map fun vc => .found id vc
  | .getCredentials =>
      if response.status = 410 then some (.listed [])
      else ((response.valueAt 200).bind itemsOf).map .listed
  | .updateCredentialStatus | .verifyCredential _ | .verifyPresentation _ | .getPresentation _
  | .getPresentations => none

/-- What the answer to a request says about the collection of credentials. -/
def seen (embedded : Json N → List (Json N)) (validate : Validator N)
    (label : VcRequest N × Reply N) : Option (Event (Json N) Text) :=
  match routed validate label.1, label.2 with
  | .endpoint ep, .answered response => ep.seen embedded response
  | _, _ => none

/-- One request, and what becomes of it. -/
def RequestStep (installed : Method → Bool) (validate : Validator N)
    (h : (o : Call N) → σ → Except JsError o.Resp × σ) (s : σ) (label : VcRequest N × Reply N)
    (s' : σ) : Prop :=
  (VCRouter installed validate label.1).run h s = (.ok label.2, s')

/-! ### The collection -/

section Collection

open scoped Classical

/-- The collection of the credentials in the data store. -/
noncomputable def collection (rows : σ → List (UniqueVerifiableCredential (Json N))) (s : σ) :
    Finset (Json N) := ((rows s).map UniqueVerifiableCredential.verifiableCredential).toFinset

omit [JsNumber N] in
theorem mem_collection {s : σ} {v : Json N} : v ∈ collection rows s ↔ v ∈ documents rows s := by
  rw [collection, List.mem_toFinset, List.mem_map]
  rfl

omit [JsNumber N] in
theorem collection_eq {s t : σ} (hdocs : documents rows t = documents rows s) :
    collection rows t = collection rows s := by
  ext v
  rw [mem_collection, mem_collection, hdocs]

omit [JsNumber N] in
theorem collection_union {s t : σ} {vs : List (Json N)}
    (hdocs : documents rows t = documents rows s ∪ {v | v ∈ vs}) :
    collection rows t = collection rows s ∪ vs.toFinset := by
  ext v
  rw [mem_collection, hdocs, Finset.mem_union, mem_collection, List.mem_toFinset]
  rfl

/-- A deletion by a hash takes one credential out. -/
theorem collection_erase (hstore : DataStore h idOf embedded hashOf rows writable) {s t : σ}
    {c : UniqueVerifiableCredential (Json N)} (hc : c ∈ rows s)
    (hdeleted : (rows t).Perm ((rows s).filter fun d => decide (d.hash ≠ c.hash))) :
    collection rows t = (collection rows s).erase c.verifiableCredential := by
  ext v
  rw [mem_collection, Finset.mem_erase, mem_collection]
  constructor
  · rintro ⟨d, hd, rfl⟩
    obtain ⟨hd, hne⟩ := List.mem_filter.1 (hdeleted.mem_iff.1 hd)
    refine ⟨fun heq => of_decide_eq_true hne ?_, d, hd, rfl⟩
    rw [hstore.hashed hd, hstore.hashed hc, heq]
  · rintro ⟨hne, d, hd, rfl⟩
    refine ⟨d, hdeleted.mem_iff.2 (List.mem_filter.2 ⟨hd, decide_eq_true fun hhash => hne ?_⟩), rfl⟩
    rw [List.inj_on_of_nodup_map (hstore.holder.nodup s) hd hc hhash]

/-! ### One request -/

/-- The answer says what happened to the collection. -/
def Explained (idOf : Json N → Option Text)
    (rows : σ → List (UniqueVerifiableCredential (Json N)))
    (event : Option (Event (Json N) Text)) (s t : σ) : Prop :=
  event.elim (collection rows t = collection rows s) fun event =>
    Collection.Step idOf (collection rows s) event (collection rows t)

variable {installed : Method → Bool} {s : σ}

/-- Without an agent a request says nothing. -/
theorem seen_unavailable (ep : Endpoint N) :
    ep.seen embedded (errorResponse (.ofMessage "Agent not available".toList)) = none := by
  cases ep <;> rfl

omit [JsNumber N] in
/-- What is created is saved, and not by the OpenAttestation plugin. -/
theorem get_creationPayload (body : Json N) :
    (creationPayload body).get "save".toList = some (.bool true) ∧
      (creationPayload body).get "proofFormat".toList = some (.str "lds".toList) := by
  have hassign : creationPayload body =
      Json.setField "fetchRemoteContexts".toList (some (.bool true))
        (Json.setField "save".toList (some (.bool true))
          (Json.setField "removeOriginalFields".toList (some (.bool false))
            (Json.setField "proofFormat".toList (some (.str "lds".toList))
              [("credential".toList, ObjectCreator.field "credential".toList (some body))]))) := by
    simp only [creationPayload, configuration, Args.assign, List.foldl_cons, List.foldl_nil]
  constructor
  · rw [hassign, Args.get, ObjectCreator.property_setField_of_ne (by decide +kernel),
      ObjectCreator.property_setField_self]
    rfl
  · rw [hassign, Args.get, ObjectCreator.property_setField_of_ne (by decide +kernel),
      ObjectCreator.property_setField_of_ne (by decide +kernel),
      ObjectCreator.property_setField_of_ne (by decide +kernel),
      ObjectCreator.property_setField_self]
    rfl

/-- The response of a controller. -/
def answerOf : Except JsError (Response N) → Response N
  | .ok response => response
  | .error e => errorResponse e

omit [JsNumber N] in
theorem run_answering {work : Agent N (Response N)} {r : Except JsError (Response N)} {t : σ}
    (hwork : work.run h s = (r, t)) : (answering true work).run h s = (.ok (answerOf r), t) := by
  cases r with
  | ok response => exact Prog.run_tryCatch_of_ok ((Prog.run_bind_of_ok rfl).trans hwork)
  | error e => exact run_answering_of_error hwork

omit [JsNumber N] in
/-- A value in a response. -/
theorem run_value {p : Agent N (Json N)} {status : ℕ} {r : Except JsError (Json N)} {t : σ}
    (hrun : p.run h s = (r, t)) :
    (do
      let value ← p
      Prog.ret ⟨status, .json value⟩ : Agent N (Response N)).run h s =
        (r.map fun value => ⟨status, .json value⟩, t) := by
  cases r with
  | ok value => exact Prog.run_bind_of_ok hrun
  | error e => exact Prog.run_bind_of_error hrun

/-- A plugin saves what it says, and nothing with an error. -/
theorem DataStore.collection_plugin (hstore : DataStore h idOf embedded hashOf rows writable)
    {method : Method} {args : Args N} {r : Except JsError (Json N)} {t : σ}
    (hrun : h (.plugin method args) s = (r, t)) :
    collection rows t = collection rows s ∪
      (r.toOption.elim [] (saved embedded method args)).toFinset := by
  cases r with
  | ok value => exact collection_union (hstore.plugin_ok hrun)
  | error e => exact (collection_eq (hstore.plugin_error hrun)).trans (Finset.union_empty _).symm

omit [JsNumber N] in
/-- What a response tells of the value of a plugin. -/
theorem valueAt_answerOf {r : Except JsError (Json N)} {status : ℕ} :
    (answerOf (r.map fun value => ⟨status, .json value⟩)).valueAt status = r.toOption := by
  cases r with
  | ok value => exact if_pos rfl
  | error e => rfl

omit [JsNumber N] in
/-- A method behind the router, with an error in its new form. -/
theorem run_routed {method : Method} {args : Args N} {r : Except JsError (Json N)} {t : σ}
    (hrun : (callInstalled installed method args).run h s = (r, t)) :
    ((callInstalled installed method args).mapError JsError.rewrap).run h s =
      (r.mapError JsError.rewrap, t) := by
  cases r with
  | ok value => exact Prog.run_mapError_of_ok hrun
  | error e => exact Prog.run_mapError_of_error hrun

/-- A method that may be missing saves what it says. -/
theorem DataStore.callInstalled (hstore : DataStore h idOf embedded hashOf rows writable)
    (installed : Method → Bool) (method : Method) (args : Args N) (s : σ) :
    ∃ r t, (VcApi.callInstalled installed method args).run h s = (r, t) ∧
      collection rows t = collection rows s ∪
        (r.toOption.elim [] (saved embedded method args)).toFinset := by
  rw [VcApi.callInstalled]
  split_ifs
  · rcases hrun : h (.plugin method args) s with ⟨r, t⟩
    exact ⟨r, t, (Prog.run_perform h _ s).trans hrun, hstore.collection_plugin hrun⟩
  · exact ⟨_, s, rfl, (Finset.union_empty _).symm⟩

omit [JsNumber N] in
theorem toOption_mapError {f : JsError → JsError} {r : Except JsError (Json N)} :
    (r.mapError f).toOption = r.toOption := by
  cases r <;> rfl

/-- `POST /credentials/issue` -/
theorem explained_issueCredential (hstore : DataStore h idOf embedded hashOf rows writable)
    (body : Json N) (s : σ) :
    ∃ response t, (issueCredential installed true body).run h s = (.ok response, t) ∧
      Explained idOf rows ((Endpoint.issueCredential body).seen embedded response) s t := by
  obtain ⟨hsave, hformat⟩ := get_creationPayload body
  have hmethod : creationMethod (creationPayload body) = .createVerifiableCredential := by
    have hne : "lds".toList ≠ "OpenAttestationMerkleProofSignature2018".toList := by decide +kernel
    rw [creationMethod, hformat, isText, decide_eq_false hne, if_neg Bool.false_ne_true]
  obtain ⟨r, t, hrun, hcollection⟩ := hstore.callInstalled installed .createVerifiableCredential
    ((creationPayload body).assign
      [("credential".toList, (creationPayload body).get "credential".toList)]) s
  refine ⟨_, t, run_answering (run_value (r := r.mapError JsError.rewrap) ?_), ?_⟩
  · rw [routeCreationVerifiableCredential, createRouted, hmethod]
    exact run_routed hrun
  · rw [Endpoint.seen, valueAt_answerOf, toOption_mapError]
    cases r with
    | error e => exact hcollection.trans (Finset.union_empty _)
    | ok vc =>
        have hsaved : saved embedded .createVerifiableCredential ((creationPayload body).assign
            [("credential".toList, (creationPayload body).get "credential".toList)]) vc = [vc] := by
          rw [saved, CredentialOA.get_assign_credential _ (by decide +kernel), hsave]
          exact if_pos rfl
        have hunion : collection rows t = collection rows s ∪ [vc].toFinset := by
          rw [hcollection, ← hsaved]
          rfl
        change Collection.Step idOf _ (.added [vc]) _
        rw [hunion]
        exact .added [vc]

omit [JsNumber N] in
/-- A plugin that saves nothing leaves the collection as it is. -/
theorem collection_of_saved_nil {s t : σ} {r : Except JsError (Json N)}
    {vs : Json N → List (Json N)}
    (hcollection : collection rows t = collection rows s ∪ (r.toOption.elim [] vs).toFinset)
    (hnil : ∀ value, vs value = []) : collection rows t = collection rows s := by
  cases r with
  | ok value =>
      have hvs : (Except.ok value : Except JsError (Json N)).toOption.elim [] vs = [] := hnil value
      rw [hcollection, hvs]
      exact Finset.union_empty _
  | error e => exact hcollection.trans (Finset.union_empty _)

/-- `POST /credentials/verify` -/
theorem explained_verifyCredential (hstore : DataStore h idOf embedded hashOf rows writable)
    (body : Json N) (s : σ) :
    ∃ response t, (verifyCredential installed true body).run h s = (.ok response, t) ∧
      Explained idOf rows ((Endpoint.verifyCredential body).seen embedded response) s t := by
  obtain ⟨r, t, hrun, hcollection⟩ : ∃ r t,
      (routeVerificationCredential installed (verificationPayload body)).run h s = (r, t) ∧
        collection rows t = collection rows s := by
    rw [routeVerificationCredential, verifyRouted]
    split_ifs
    · obtain ⟨r, t, hrun, hcollection⟩ := hstore.callInstalled installed .verifyCredentialOA
        (verificationPayload body) s
      exact ⟨_, t, run_routed hrun, collection_of_saved_nil hcollection fun _ => ite_self _⟩
    · obtain ⟨r, t, hrun, hcollection⟩ := hstore.callInstalled installed .verifyCredential
        (verificationPayload body) s
      exact ⟨_, t, run_routed hrun, collection_of_saved_nil hcollection fun _ => ite_self _⟩
  exact ⟨_, t, run_answering (run_value hrun), hcollection⟩

/-- `POST /presentations/verify` -/
theorem explained_verifyPresentation (hstore : DataStore h idOf embedded hashOf rows writable)
    (body : Json N) (s : σ) :
    ∃ response t, (verifyPresentation true body).run h s = (.ok response, t) ∧
      Explained idOf rows ((Endpoint.verifyPresentation body).seen embedded response) s t := by
  rcases hrun : h (.plugin .verifyPresentation (presentationPayload body)) s with ⟨r, t⟩
  refine ⟨_, t, run_answering (run_value ((Prog.run_perform h _ s).trans hrun)), ?_⟩
  exact collection_of_saved_nil (hstore.collection_plugin hrun) fun _ => ite_self _

/-- `POST /presentations/prove` -/
theorem explained_provePresentation (hstore : DataStore h idOf embedded hashOf rows writable)
    (body : Json N) (s : σ) :
    ∃ response t, (provePresentation true body).run h s = (.ok response, t) ∧
      Explained idOf rows ((Endpoint.provePresentation body).seen embedded response) s t := by
  rcases hrun : h (.plugin .createVerifiablePresentation (provingParams body)) s with ⟨r, t⟩
  have hcollection := hstore.collection_plugin hrun
  refine ⟨_, t, run_answering (run_value ((Prog.run_perform h _ s).trans hrun)), ?_⟩
  rw [Endpoint.seen, valueAt_answerOf]
  cases r with
  | error e => exact hcollection.trans (Finset.union_empty _)
  | ok presentation =>
      change Collection.Step idOf _ (.added _) _
      rw [hcollection]
      exact .added _

/-- `GET /credentials` -/
theorem explained_getCredentials (hstore : DataStore h idOf embedded hashOf rows writable)
    (s : σ) :
    ∃ response t, (getCredentials true).run h s = (.ok response, t) ∧
      Explained idOf rows ((Endpoint.getCredentials : Endpoint N).seen embedded response) s t := by
  obtain ⟨result, hlist, hperm⟩ := hstore.list s
  have hrun : (getVerifiableCredentials : Agent N (List (Json N))).run h s =
      (.ok (result.map fun credential => credential.verifiableCredential), s) :=
    Prog.run_bind_of_ok ((Prog.run_perform h _ s).trans hlist)
  refine ⟨_, s, run_answering (Prog.run_bind_of_ok hrun), ?_⟩
  have hlisted : ∀ v, v ∈ (result.map fun credential => credential.verifiableCredential) ↔
      v ∈ collection rows s := by
    intro v
    rw [collection, List.mem_toFinset]
    exact (hperm.map _).mem_iff
  have hseen : (Endpoint.getCredentials : Endpoint N).seen embedded
      (foundAll (result.map fun credential => credential.verifiableCredential)) =
        some (.listed (result.map fun credential => credential.verifiableCredential)) := by
    by_cases hnil : (result.map fun credential => credential.verifiableCredential) = []
    · rw [foundAll, if_pos hnil, hnil]
      rfl
    · rw [foundAll, if_neg hnil]
      rfl
  change Explained idOf rows ((Endpoint.getCredentials : Endpoint N).seen embedded
    (foundAll (result.map fun credential => credential.verifiableCredential))) s s
  rw [hseen]
  exact .listed hlisted

/-- The endpoints of presentations that are stored leave the credentials alone. -/
theorem collection_presentations (hstore : DataStore h idOf embedded hashOf rows writable)
    {where_ : Option (List HolderController.WhereClause)}
    {r : Except JsError (List (UniqueVerifiablePresentation N))} {t : σ}
    (hrun : h (.dataStoreORMGetVerifiablePresentations where_) s = (r, t)) :
    collection rows t = collection rows s := by
  refine collection_eq ?_
  rw [← hstore.presentations where_ s, hrun]

/-- `GET /presentations/:id` -/
theorem explained_getPresentation (hstore : DataStore h idOf embedded hashOf rows writable)
    (id : Text) (s : σ) :
    ∃ response t, (getPresentation true id).run h s = (.ok response, t) ∧
      Explained idOf rows ((Endpoint.getPresentation id : Endpoint N).seen embedded response) s
        t := by
  rcases hrun : h (.dataStoreORMGetVerifiablePresentations (some (byId id))) s with ⟨r, t⟩
  have hcollection := collection_presentations hstore hrun
  have hcall := (Prog.run_perform h _ s).trans hrun
  cases r with
  | ok result =>
      have hget := Prog.run_bind_of_ok (f := fun result => .ret result.head?) hcall
      exact ⟨_, t, run_answering (Prog.run_bind_of_ok hget), hcollection⟩
  | error e =>
      have hget := Prog.run_bind_of_error (f := fun result => .ret result.head?) hcall
      exact ⟨_, t, run_answering (Prog.run_bind_of_error hget), hcollection⟩

/-- `GET /presentations` -/
theorem explained_getPresentations (hstore : DataStore h idOf embedded hashOf rows writable)
    (s : σ) :
    ∃ response t, (getPresentations true).run h s = (.ok response, t) ∧
      Explained idOf rows ((Endpoint.getPresentations : Endpoint N).seen embedded response) s
        t := by
  rcases hrun : h (.dataStoreORMGetVerifiablePresentations none) s with ⟨r, t⟩
  have hcollection := collection_presentations hstore hrun
  have hcall := (Prog.run_perform h _ s).trans hrun
  cases r with
  | ok result =>
      have hget := Prog.run_bind_of_ok
        (f := fun result => .ret (result.map fun p => p.verifiablePresentation)) hcall
      exact ⟨_, t, run_answering (Prog.run_bind_of_ok hget), hcollection⟩
  | error e =>
      have hget := Prog.run_bind_of_error
        (f := fun result => .ret (result.map fun p => p.verifiablePresentation)) hcall
      exact ⟨_, t, run_answering (Prog.run_bind_of_error hget), hcollection⟩

/-- `GET /credentials/:id` -/
theorem explained_getCredential (hstore : DataStore h idOf embedded hashOf rows writable)
    (id : Text) (s : σ) :
    ∃ response t, (getCredential true id).run h s = (.ok response, t) ∧
      Explained idOf rows ((Endpoint.getCredential id : Endpoint N).seen embedded response) s
        t := by
  obtain ⟨result, hfind, hperm⟩ := hstore.holder.find id s
  have hrun : (getCredential true id : Agent N (Response N)).run h s =
      (.ok (ofHolder (HolderController.found result.head?)), s) :=
    Prog.run_bind_of_ok ((run_embed _ s).trans (HolderController.run_getCredential hfind))
  refine ⟨_, s, hrun, ?_⟩
  cases result with
  | nil =>
      change Collection.Step idOf _ (.missed id) _
      refine .missed ?_
      intro v hv hid
      obtain ⟨c, hc, rfl⟩ := mem_collection.1 hv
      exact List.not_mem_nil
        ((HolderController.mem_of_perm hperm).2 ⟨hc, decide_eq_true hid⟩)
  | cons c rest =>
      obtain ⟨hc, hid⟩ := (HolderController.mem_of_perm hperm).1 List.mem_cons_self
      change Collection.Step idOf _ (.found id c.verifiableCredential) _
      exact .found (mem_collection.2 ⟨c, hc, rfl⟩) (of_decide_eq_true hid)

/-- `DELETE /credentials/:id` -/
theorem explained_deleteCredential (hstore : DataStore h idOf embedded hashOf rows writable)
    (id : Text) (s : σ) :
    ∃ response t, (deleteCredential true id).run h s = (.ok response, t) ∧
      Explained idOf rows ((Endpoint.deleteCredential id : Endpoint N).seen embedded response) s
        t := by
  -- an error is no 202
  have herror : ∀ e : JsError, (Endpoint.deleteCredential id : Endpoint N).seen embedded
      (ofHolder (HolderController.errorResponse e)) = none :=
    fun e => if_neg (HolderController.errorHandler_ne e)
  obtain ⟨result, hfind, hperm⟩ := hstore.holder.find id s
  cases result with
  | nil =>
      refine ⟨_, s, Prog.run_bind_of_ok ((run_embed _ s).trans
        (HolderController.run_deleteCredential_nil hfind)), ?_⟩
      rw [Explained, herror]
      rfl
  | cons c rest =>
      obtain ⟨hc, hid⟩ := (HolderController.mem_of_perm hperm).1 List.mem_cons_self
      by_cases hs : writable s
      · obtain ⟨t, hdelete, hdeleted⟩ := hstore.holder.delete hs hc
        refine ⟨_, t, Prog.run_bind_of_ok ((run_embed _ s).trans
          (HolderController.run_deleteCredential_cons hfind hdelete)), ?_⟩
        change Collection.Step idOf _ (.removed id) _
        rw [collection_erase hstore hc hdeleted]
        exact .removed (mem_collection.2 ⟨c, hc, rfl⟩) (of_decide_eq_true hid)
      · obtain ⟨e, hdelete⟩ := hstore.holder.reject hs hc
        refine ⟨_, s, Prog.run_bind_of_ok ((run_embed _ s).trans
          (HolderController.run_deleteCredential_reject hfind hdelete)), ?_⟩
        rw [Explained, herror]
        rfl

/-- Without an agent nothing is done. -/
theorem run_controller_unavailable (ep : Endpoint N) (s : σ) :
    (ep.controller installed false).run h s =
      (.ok (errorResponse (.ofMessage "Agent not available".toList)), s) := by
  cases ep <;> rfl

/-- **The answer of an endpoint says what happened to the collection.** -/
theorem Endpoint.explained (installed : Method → Bool)
    (hstore : DataStore h idOf embedded hashOf rows writable) (ep : Endpoint N) (available : Bool)
    (s : σ) :
    ∃ response t, (ep.controller installed available).run h s = (.ok response, t) ∧
      Explained idOf rows (ep.seen embedded response) s t := by
  cases available with
  | false =>
      refine ⟨_, s, run_controller_unavailable ep s, ?_⟩
      rw [seen_unavailable]
      rfl
  | true =>
      cases ep with
      | issueCredential body => exact explained_issueCredential hstore body s
      | updateCredentialStatus => exact ⟨_, s, rfl, rfl⟩
      | verifyCredential body => exact explained_verifyCredential hstore body s
      | verifyPresentation body => exact explained_verifyPresentation hstore body s
      | getCredential id => exact explained_getCredential hstore id s
      | getCredentials => exact explained_getCredentials hstore s
      | deleteCredential id => exact explained_deleteCredential hstore id s
      | getPresentation id => exact explained_getPresentation hstore id s
      | getPresentations => exact explained_getPresentations hstore s
      | provePresentation body => exact explained_provePresentation hstore body s

omit [JsNumber N] in
/-- A controller without an implementation changes nothing. -/
theorem run_notImplemented (available : Bool) (s : σ) :
    ∃ r : Except JsError (Response N), (notImplemented available).run h s = (r, s) := by
  cases available
  · exact ⟨_, rfl⟩
  · exact ⟨_, rfl⟩

/-- **The answer to a request says what happened to the collection.** -/
theorem request_explained (hstore : DataStore h idOf embedded hashOf rows writable)
    {validate : Validator N} {label : VcRequest N × Reply N} {s t : σ}
    (hstep : RequestStep installed validate h s label t) :
    Explained idOf rows (seen embedded validate label) s t := by
  obtain ⟨req, reply⟩ := label
  rw [RequestStep, VCRouter] at hstep
  dsimp only at hstep
  cases hrouted : routed validate req with
  | reply r =>
      rw [hrouted] at hstep
      obtain ⟨-, rfl⟩ := Prod.mk.inj hstep
      rw [seen, hrouted]
      rfl
  | endpoint ep =>
      rw [hrouted] at hstep
      obtain ⟨response, t', hrun, hexplained⟩ :=
        Endpoint.explained installed hstore ep req.agent s
      have hanswer : (.ok (Reply.answered response), t') = (Except.ok reply, t) :=
        (Prog.run_bind_of_ok hrun).symm.trans hstep
      obtain ⟨hreply, rfl⟩ := Prod.mk.inj hanswer
      obtain rfl := Except.ok.inj hreply
      rw [seen, hrouted]
      exact hexplained
  | bare controller =>
      rw [hrouted, eq_notImplemented hrouted] at hstep
      obtain ⟨r, hrun⟩ := run_notImplemented (N := N) (h := h) req.agent s
      obtain ⟨reply', hkept⟩ : ∃ reply',
          ((Routed.bare notImplemented).run installed req.agent).run h s = (.ok reply', s) := by
        cases r with
        | ok response => exact ⟨_, Prog.run_tryCatch_of_ok (Prog.run_bind_of_ok hrun)⟩
        | error e => exact ⟨_, Prog.run_tryCatch_of_error (Prog.run_bind_of_error hrun)⟩
      obtain ⟨-, rfl⟩ := Prod.mk.inj (hkept.symm.trans hstep)
      rw [seen, hrouted]
      rfl

/-- **Requests use the data store as a collection.** -/
theorem request_forward (hstore : DataStore h idOf embedded hashOf rows writable)
    (validate : Validator N) :
    Simulation.Forward (RequestStep installed validate h) (Collection.Step idOf)
      (seen embedded validate) fun s docs => docs = collection rows s where
  silent := by
    rintro s _ label t rfl hstep hnone
    have hexplained := request_explained hstore hstep
    rw [hnone] at hexplained
    exact hexplained.symm
  visible := by
    rintro s _ label t event rfl hstep hevent
    have hexplained := request_explained hstore hstep
    rw [hevent] at hexplained
    exact ⟨_, hexplained, rfl⟩

/-- **The answers of a run of requests fit together**: what they say about the credentials is a run
of one collection, from the credentials that are stored at the start to those that are stored at the
end, and so it is a history of that collection. -/
theorem answers_history (hstore : DataStore h idOf embedded hashOf rows writable)
    (validate : Validator N) {trace : List (VcRequest N × Reply N)} {s t : σ}
    (hrun : Run (RequestStep installed validate h) s trace t) :
    Run (Collection.Step idOf) (collection rows s) (trace.filterMap (seen embedded validate))
        (collection rows t) ∧
      Collection.History idOf (collection rows s)
        (trace.filterMap (seen embedded validate)) := by
  obtain ⟨_, hrun', rfl⟩ := (request_forward hstore validate).run rfl hrun
  exact ⟨hrun', Collection.history hrun'⟩

end Collection

/-! ### Requests in turn -/

/-- Requests that are handled in turn, the last one first, with their replies. -/
def handled (installed : Method → Bool) (validate : Validator N)
    (h : (o : Call N) → σ → Except JsError o.Resp × σ) (s : σ) :
    List (VcRequest N) → List (VcRequest N × Reply N) × σ
  | [] => ([], s)
  | req :: reqs =>
      let before := handled installed validate h s reqs
      match (VCRouter installed validate req).run h before.2 with
      | (.ok reply, t) => ((req, reply) :: before.1, t)
      | (.error _, _) => before

theorem run_handled (installed : Method → Bool) (validate : Validator N)
    (h : (o : Call N) → σ → Except JsError o.Resp × σ) (s : σ) (reqs : List (VcRequest N)) :
    Run (RequestStep installed validate h) s (handled installed validate h s reqs).1
      (handled installed validate h s reqs).2 := by
  induction reqs with
  | nil => exact .nil
  | cons req reqs ih =>
      rw [handled]
      rcases hrun : (VCRouter installed validate req).run h
        (handled installed validate h s reqs).2 with ⟨_ | reply, t⟩
      · exact ih
      · exact ih.cons hrun

/-! ### A data store in memory -/

/-- The id of a credential. -/
def plainIdOf (credential : Json ℤ) : Option Text :=
  match ObjectCreator.field "id".toList (some credential) with
  | some (.str id) => some id
  | _ => none

/-- Credentials, each under a hash of its own. -/
structure Shelf where
  credentials : List (Json ℤ)
  nodup : (credentials.map Json.stringify).Nodup

namespace Shelf

/-- A credential under its hash. -/
def row (credential : Json ℤ) : UniqueVerifiableCredential (Json ℤ) :=
  ⟨credential.stringify, credential⟩

def table (s : Shelf) : List (UniqueVerifiableCredential (Json ℤ)) := s.credentials.map row

/-- Without the credential with a hash. -/
def remove (s : Shelf) (hash : Text) : Shelf where
  credentials := s.credentials.filter fun credential => decide (credential.stringify ≠ hash)
  nodup := s.nodup.sublist (List.filter_sublist.map _)

/-- With one more credential, unless its hash is taken. -/
def add (s : Shelf) (credential : Json ℤ) : Except JsError (Json ℤ) × Shelf :=
  if hnew : credential.stringify ∉ s.credentials.map Json.stringify then
    (.ok credential, ⟨credential :: s.credentials, List.nodup_cons.2 ⟨hnew, s.nodup⟩⟩)
  else (.error (.ofMessage "Hash is taken".toList), s)

/-- A plugin that issues credentials as they are. -/
def issue (s : Shelf) (args : Args ℤ) : Except JsError (Json ℤ) × Shelf :=
  match args.get "credential".toList with
  | none => (.error (.ofMessage "No credential".toList), s)
  | some credential =>
      if truthy (args.get "save".toList) then s.add credential else (.ok credential, s)

def answer : (o : Call ℤ) → Shelf → Except JsError o.Resp × Shelf
  | .plugin .createVerifiableCredential args, s => s.issue args
  | .plugin _ _, s => (.error (.ofMessage "Unsupported method".toList), s)
  | .dataStoreORMGetVerifiableCredentials, s => (.ok s.table, s)
  | .dataStoreORMGetVerifiablePresentations _, s => (.ok [], s)
  | .holder (.dataStoreORMGetVerifiableCredentials clauses), s =>
      (.ok (s.table.filter fun c =>
        clauses.all fun clause => HolderController.meets plainIdOf clause c), s)
  | .holder (.dataStoreDeleteVerifiableCredential hash), s =>
      (.ok (s.table.any fun c => decide (c.hash = hash)), s.remove hash)

theorem table_remove (s : Shelf) (hash : Text) :
    (s.remove hash).table = s.table.filter fun c => decide (c.hash ≠ hash) := by
  rw [table, table, remove, List.filter_map]
  rfl

theorem documents_table (s : Shelf) : documents table s = {v | v ∈ s.credentials} := by
  ext v
  simp [documents, table, row]

/-- What an issuance stores. -/
theorem documents_issue {s t : Shelf} {args : Args ℤ} {value : Json ℤ}
    (hrun : s.issue args = (.ok value, t)) :
    documents table t = documents table s ∪
      {v | v ∈ saved (fun _ => []) .createVerifiableCredential args value} := by
  rw [issue] at hrun
  cases hcredential : args.get "credential".toList with
  | none =>
      rw [hcredential] at hrun
      cases hrun
  | some credential =>
      rw [hcredential] at hrun
      dsimp only at hrun
      rw [documents_table, documents_table, saved]
      by_cases hsave : truthy (args.get "save".toList) = true
      · rw [if_pos hsave, add] at hrun
        split_ifs at hrun
        · cases (Prod.mk.inj hrun).1
        · obtain ⟨hvalue, rfl⟩ := Prod.mk.inj hrun
          obtain rfl := Except.ok.inj hvalue
          rw [if_pos hsave]
          ext v
          simp [or_comm]
      · rw [if_neg hsave] at hrun
        obtain ⟨-, rfl⟩ := Prod.mk.inj hrun
        rw [if_neg hsave]
        simp

theorem documents_issue_error {s t : Shelf} {args : Args ℤ} {e : JsError}
    (hrun : s.issue args = (.error e, t)) : documents table t = documents table s := by
  rw [issue] at hrun
  cases hcredential : args.get "credential".toList with
  | none =>
      rw [hcredential] at hrun
      rw [(Prod.mk.inj hrun).2]
  | some credential =>
      rw [hcredential] at hrun
      dsimp only at hrun
      by_cases hsave : truthy (args.get "save".toList) = true
      · rw [if_pos hsave, add] at hrun
        split_ifs at hrun
        · rw [(Prod.mk.inj hrun).2]
        · cases (Prod.mk.inj hrun).1
      · rw [if_neg hsave] at hrun
        cases (Prod.mk.inj hrun).1

theorem dataStore :
    DataStore answer plainIdOf (fun _ => []) Json.stringify table fun _ => True where
  holder := {
    nodup := by
      intro s
      rw [table, List.map_map]
      exact s.nodup
    find := by
      intro id s
      refine ⟨_, rfl, ?_⟩
      rw [funext (HolderController.all_byId plainIdOf id)]
    delete := by
      intro s c _ hc
      have hany : (s.table.any fun d => decide (d.hash = c.hash)) = true :=
        List.any_eq_true.2 ⟨c, hc, decide_eq_true rfl⟩
      refine ⟨s.remove c.hash, ?_, ?_⟩
      · dsimp only [answer]
        rw [hany]
      · rw [table_remove]
    reject := fun hs _ => absurd trivial hs }
  hashed := by
    intro s c hc
    obtain ⟨v, -, rfl⟩ := List.mem_map.1 hc
    rfl
  list s := ⟨_, rfl, .refl _⟩
  plugin_ok := by
    intro method args value s t hrun
    cases method with
    | createVerifiableCredential => exact documents_issue hrun
    | createVerifiableCredentialOA => cases (Prod.mk.inj hrun).1
    | verifyCredential => cases (Prod.mk.inj hrun).1
    | verifyCredentialOA => cases (Prod.mk.inj hrun).1
    | createVerifiablePresentation => cases (Prod.mk.inj hrun).1
    | verifyPresentation => cases (Prod.mk.inj hrun).1
  plugin_error := by
    intro method args e s t hrun
    cases method with
    | createVerifiableCredential => exact documents_issue_error hrun
    | createVerifiableCredentialOA => rw [(Prod.mk.inj hrun).2]
    | verifyCredential => rw [(Prod.mk.inj hrun).2]
    | verifyCredentialOA => rw [(Prod.mk.inj hrun).2]
    | createVerifiablePresentation => rw [(Prod.mk.inj hrun).2]
    | verifyPresentation => rw [(Prod.mk.inj hrun).2]
  presentations _ _ := rfl

end Shelf

/-- A credential with an id. -/
def plainCredential : Json ℤ := .obj [("id".toList, .str "urn:uuid:1".toList)]

/-- A request with an agent. -/
def plainRequest (method : Express.HttpMethod) (path : Text) (body : Json ℤ) : VcRequest ℤ :=
  ⟨method, path, true, .ok body⟩

/-- The credential is issued, fetched, deleted, and not found any more; the last request is the
first one. -/
def plainRequests : List (VcRequest ℤ) :=
  [plainRequest .get (credentialPath "urn:uuid:1".toList) (.obj []),
    plainRequest .delete (credentialPath "urn:uuid:1".toList) (.obj []),
    plainRequest .get (credentialPath "urn:uuid:1".toList) (.obj []),
    plainRequest .post "/credentials/issue".toList
      (.obj [("credential".toList, plainCredential)])]

/-- A validator that lets everything through. -/
def lenient : Validator ℤ := fun _ _ body => .ok body

/-- The requests with their replies. -/
def plainTrace : List (VcRequest ℤ × Reply ℤ) :=
  (handled (fun _ => true) lenient Shelf.answer ⟨[], List.nodup_nil⟩ plainRequests).1

/-- The status of an answer. -/
def statusOf : Reply ℤ → Option ℕ
  | .answered response => some response.status
  | _ => none

/-- The shelf after the four requests. -/
def plainShelf : Shelf :=
  (handled (fun _ => true) lenient Shelf.answer ⟨[], List.nodup_nil⟩ plainRequests).2

open scoped Classical in
/-- The answers of the four requests fit together. -/
theorem answers_history_plain :
    plainTrace.map (fun label => statusOf label.2) = [some 404, some 202, some 200, some 201] ∧
      Run (Collection.Step plainIdOf) (collection Shelf.table ⟨[], List.nodup_nil⟩)
        (plainTrace.filterMap (seen (fun _ => []) lenient)) (collection Shelf.table plainShelf) ∧
      Collection.History plainIdOf (collection Shelf.table ⟨[], List.nodup_nil⟩)
        (plainTrace.filterMap (seen (fun _ => []) lenient)) :=
  ⟨by decide +kernel, answers_history Shelf.dataStore lenient (run_handled _ lenient _ _ _)⟩

end VcApi
