/-
**The OpenAttestation plugin.**

To create a credential the plugin completes its contexts and types, lets the library wrap it, looks
up the issuer that the wrapped document names, and has its key sign the root of the document.  Key
and signature go into the proof; everything else is what the library made.  To verify one it runs
the verifiers of the library, and whatever goes wrong is a credential that is not verified.

The credential router decides by the proof which plugin verifies a credential.  So what the plugin
creates has to come back to it, through the router and the VC API: that takes a proof of the type
that the router looks for, and no token in it.

The library and the methods of the agent are operations, with what is documented of them.  Whether
the verifiers accept a document is up to the library: they ask the network for DIDs, DNS records and
revocations, so the answer may change.

Main definitions:

* `CredentialOA.Call`, `CredentialOA.Library` — what the plugin calls;
* `CredentialOA.createVerifiableCredentialOA`, `CredentialOA.verifyCredentialOA` — the plugin;
* `CredentialOA.serve` — an agent in which the plugin is installed;
* `CredentialOA.Documented` — what is documented of the library and the agent.

Main results:

* `CredentialOA.run_createVerifiableCredentialOA` — **what a creation leaves**, however it ends;
* `CredentialOA.created_verified` — **a credential that was created is what was saved, and the VC
  API verifies it exactly when the library does**.
-/

import Vckit.ObjectInstance
import Vckit.VcApi

set_option relaxedAutoImplicit false
set_option autoImplicit false

namespace CredentialOA

open ObjectCreator (JsNumber field property property_setField_of_ne property_setField_self toText)
open VcApi (Args Method creationMethod detectDocumentType truthy)

variable {N σ : Type}

/-! ### What the plugin calls -/

/-- A key that the agent manages. -/
structure IKey where
  kid : Text
  type : Text

/-- An identifier that the agent manages. -/
structure IIdentifier where
  did : Text
  keys : List IKey

/-- The verifiers of the library. -/
inductive Verifier
  | openAttestationHash
  | openAttestationDidSignedDocumentStatus
  | openAttestationDnsTxtIdentityProof
  | openAttestationDnsDidIdentityProof
  | openAttestationDidIdentityProof
  deriving DecidableEq

/-- A call of the library or of the agent. -/
inductive Call (N : Type)
  | wrapDocument (credential : List (Text × Json N))
  | didManagerGet (did : Option (Json N))
  | keyManagerSign (keyRef data algorithm encoding : Text)
  | dataStoreSaveVerifiableCredential (verifiableCredential : Json N)
  /-- `isValid(await builtVerifier(credential))` -/
  | verify (verifiers : List Verifier) (network : Text) (credential : Option (Json N))

/-- The answer of a call. -/
@[reducible] def Call.Resp : Call N → Type
  | .wrapDocument _ => List (Text × Json N)
  | .didManagerGet _ => IIdentifier
  | .keyManagerSign _ _ _ _ => Text
  | .dataStoreSaveVerifiableCredential _ => Text
  | .verify _ _ _ => Bool

/-- A program of the plugin. -/
abbrev Plugin (N α : Type) := Prog (Call N) Call.Resp JsError α

/-- `await` of a call -/
def perform (call : Call N) : Plugin N call.Resp := Prog.perform call

/-- The functions of the libraries that ask for nothing. -/
structure Library (N : Type) where
  processEntryToArray : Option (Json N) → Text → List (Json N)
  isSignedWrappedV3Document : Option (Json N) → Bool

/-! ### Values -/

/-- `value.name`, which throws for `undefined` and `null`. -/
def read (name : Text) : Option (Json N) → Except JsError (Option (Json N))
  | none => .error ⟨"TypeError".toList, "Cannot read properties of undefined (reading '".toList ++
      name ++ "')".toList⟩
  | some .null => .error ⟨"TypeError".toList, "Cannot read properties of null (reading '".toList ++
      name ++ "')".toList⟩
  | some value => .ok (field name (some value))

/-- The fields of an object. -/
def fieldsOf : Option (Json N) → List (Text × Json N)
  | some (.obj fields) => fields
  | _ => []

/-- The same entry for a set: texts, numbers and truth values are compared by their values, and no
two objects are the same. -/
def same [DecidableEq N] : Json N → Json N → Bool
  | .null, .null => true
  | .bool a, .bool b => decide (a = b)
  | .num a, .num b => decide (a = b)
  | .str a, .str b => decide (a = b)
  | _, _ => false

/-- `[...new Set(entries)]` -/
def distinct [DecidableEq N] : List (Json N) → List (Json N)
  | [] => []
  | entry :: entries => entry :: (distinct entries).filter fun other => !same entry other

/-! ### Creating a credential -/

def mandatoryCredentialContext : Text := "https://www.w3.org/2018/credentials/v1".toList

def oaMandatoryCredentialContext : Text :=
  "https://schemata.openattestation.com/com/openattestation/1.0/OpenAttestation.v3.json".toList

def oaMandatoryCredentialTypes : Text := "VerifiableCredential".toList

section Create

variable [JsNumber N] [DecidableEq N] (lib : Library N)

/-- The credential that is wrapped. -/
def completed (credentialInput : Option (Json N)) : Except JsError (List (Text × Json N)) := do
  let context ← read "@context".toList credentialInput
  let type ← read "type".toList credentialInput
  let credentialContext := lib.processEntryToArray context mandatoryCredentialContext
  let credentialType := lib.processEntryToArray type oaMandatoryCredentialTypes
  .ok (Json.setField "type".toList (.arr credentialType)
    (Json.setField "@context".toList
      (.arr (distinct (credentialContext ++ [.str oaMandatoryCredentialContext])))
      (fieldsOf credentialInput)))

omit [DecidableEq N] [JsNumber N] in
/-- `wrappedDocument.openAttestationMetadata.proof.value` -/
def issuerOf (wrappedDocument : List (Text × Json N)) : Except JsError (Option (Json N)) := do
  let proof ← read "proof".toList (property "openAttestationMetadata".toList wrappedDocument)
  read "value".toList proof

/-- The first key that can sign. -/
def signingKey (identifier : IIdentifier) : Except JsError IKey :=
  match identifier.keys.find? fun k => decide (k.type = "Secp256k1".toList) with
  | some key => .ok key
  | none => .error (.ofMessage ("No signing key for ".toList ++ identifier.did))

/-- `${value}` -/
def template : Option (Json N) → Except JsError Text
  | none => .ok "undefined".toList
  | some value => toText value

/-- `0x${wrappedDocument.proof.merkleRoot}` -/
def signedData (wrappedDocument : List (Text × Json N)) : Except JsError Text := do
  let root ← read "merkleRoot".toList (property "proof".toList wrappedDocument)
  let text ← template root
  .ok ("0x".toList ++ text)

/-- The wrapped document, with key and signature in its proof. -/
def signedDocument (wrappedDocument : List (Text × Json N)) (did signature : Text) : Json N :=
  .obj (Json.setField "proof".toList
    (.obj (Json.setField "signature".toList (.str signature)
      (Json.setField "key".toList (.str (did ++ "#controller".toList))
        (fieldsOf (property "proof".toList wrappedDocument)))))
    wrappedDocument)

/-- `if (save) { … }` -/
def saveIf (save : Bool) (verifiableCredential : Json N) : Plugin N (Json N) :=
  if save then do
    let _ ← perform (.dataStoreSaveVerifiableCredential verifiableCredential)
    .ret verifiableCredential
  else .ret verifiableCredential

def createVerifiableCredentialOA (args : Args N) : Plugin N (Json N) := do
  let credential ← Prog.ofExcept (completed lib (args.get "credential".toList))
  let wrappedDocument ← (perform (.wrapDocument credential)).mapError fun _ =>
    .ofMessage "invalid_argument: credential is not a valid OpenAttestation document".toList
  let issuer ← Prog.ofExcept (issuerOf wrappedDocument)
  let identifier ← (perform (.didManagerGet issuer)).mapError fun _ =>
    .ofMessage "invalid_argument: did not found in the DID manager".toList
  let key ← Prog.ofExcept (signingKey identifier)
  let data ← Prog.ofExcept (signedData wrappedDocument)
  let signature ← perform (.keyManagerSign key.kid data "eth_signMessage".toList "hex".toList)
  saveIf (truthy (args.get "save".toList)) (signedDocument wrappedDocument identifier.did signature)

end Create

/-! ### Verifying a credential -/

/-- What the plugin says of a credential. -/
structure VerifyResult (N : Type) where
  verified : Bool
  verifiableCredential : Option (Json N)
  error : Option JsError

/-- The result as it is sent.  An error has no properties that are enumerated. -/
def VerifyResult.toJson (result : VerifyResult N) : Json N :=
  .obj (("verified".toList, .bool result.verified) ::
    ((result.verifiableCredential.map fun value => ("verifiableCredential".toList, value)).toList ++
      (result.error.map fun _ => ("error".toList, .obj [])).toList))

def oaVerifiersToRun : List Verifier :=
  [.openAttestationHash, .openAttestationDidSignedDocumentStatus,
    .openAttestationDnsTxtIdentityProof, .openAttestationDnsDidIdentityProof,
    .openAttestationDidIdentityProof]

/-- The network of the provider. -/
def network : Text := "goerli".toList

def verifyCredentialOA (lib : Library N) (args : Args N) : Plugin N (VerifyResult N) :=
  let credential := args.get "credential".toList
  Prog.tryCatch
    (if lib.isSignedWrappedV3Document credential then do
      let verified ← perform (.verify oaVerifiersToRun network credential)
      .ret ⟨verified, if verified then credential else none, none⟩
    else .throw (.ofMessage
      "invalid_argument: credential must be a signed wrapped v3 document".toList))
    fun e => .ret ⟨false, none, some e⟩

/-! ### An agent with the plugin -/

/-- The methods of the plugin are answered by the plugin, the others by the rest of the agent. -/
def serve [JsNumber N] [DecidableEq N] (lib : Library N)
    (h : (o : Call N) → σ → Except JsError o.Resp × σ)
    (rest : (o : VcApi.Call N) → σ → Except JsError o.Resp × σ) :
    (o : VcApi.Call N) → σ → Except JsError o.Resp × σ
  | .plugin .createVerifiableCredentialOA args, s =>
      (createVerifiableCredentialOA lib args).run h s
  | .plugin .verifyCredentialOA args, s =>
      (((verifyCredentialOA lib args).run h s).1.map VerifyResult.toJson,
        ((verifyCredentialOA lib args).run h s).2)
  | o, s => rest o s

/-! ### What is documented -/

/-- The proof of a wrapped document has the type of the library, and holds no token. -/
def IsWrapped (wrappedDocument : List (Text × Json N)) : Prop :=
  ∃ proof, property "proof".toList wrappedDocument = some (.obj proof) ∧
    property "type".toList proof =
      some (.str "OpenAttestationMerkleProofSignature2018".toList) ∧
    property "jwt".toList proof = none

section Laws

variable [JsNumber N] {lib : Library N} {h : (o : Call N) → σ → Except JsError o.Resp × σ}
  {stored : σ → Set (Json N)}

/-- **The root of a wrapped document was signed** with a key of the identifier that the document
names as its issuer. -/
inductive Issued (h : (o : Call N) → σ → Except JsError o.Resp × σ)
    (wrappedDocument : List (Text × Json N)) (did signature : Text) : Prop
  | mk {credential : List (Text × Json N)} {s₁ t₁ s₂ t₂ s₃ t₃ : σ} {issuer : Option (Json N)}
      {identifier : IIdentifier} {key : IKey} {data : Text}
      (hwrap : h (.wrapDocument credential) s₁ = (.ok wrappedDocument, t₁))
      (hissuer : issuerOf wrappedDocument = .ok issuer)
      (hget : h (.didManagerGet issuer) s₂ = (.ok identifier, t₂)) (hdid : identifier.did = did)
      (hkey : key ∈ identifier.keys) (htype : key.type = "Secp256k1".toList)
      (hdata : signedData wrappedDocument = .ok data)
      (hsign : h (.keyManagerSign key.kid data "eth_signMessage".toList "hex".toList) s₃ =
        (.ok signature, t₃))

/-- **What is documented of the library and of the agent.** -/
structure Documented (lib : Library N) (h : (o : Call N) → σ → Except JsError o.Resp × σ)
    (stored : σ → Set (Json N)) : Prop where
  wrapped {credential w : List (Text × Json N)} {s t : σ}
    (hwrap : h (.wrapDocument credential) s = (.ok w, t)) : IsWrapped w
  /-- Only saving changes what is stored. -/
  kept {o : Call N} {s : σ} (ho : ∀ vc, o ≠ .dataStoreSaveVerifiableCredential vc) :
    stored (h o s).2 = stored s
  saved {vc : Json N} {hash : Text} {s t : σ}
    (hsave : h (.dataStoreSaveVerifiableCredential vc) s = (.ok hash, t)) :
    stored t = insert vc (stored s)
  refused {vc : Json N} {e : JsError} {s t : σ}
    (hsave : h (.dataStoreSaveVerifiableCredential vc) s = (.error e, t)) : stored t = stored s

/-- What a creation leaves: with an error nothing new is stored; else the credential is a wrapped
document that was signed, and it is stored if that was asked for. -/
structure Creation (h : (o : Call N) → σ → Except JsError o.Resp × σ) (stored : σ → Set (Json N))
    (save : Bool) (s : σ) (outcome : Except JsError (Json N) × σ) : Prop where
  failed {e : JsError} (he : outcome.1 = .error e) : stored outcome.2 = stored s
  created {vc : Json N} (hvc : outcome.1 = .ok vc) : ∃ w did signature, Issued h w did signature ∧
    vc = signedDocument w did signature ∧
    stored outcome.2 = if save then insert vc (stored s) else stored s

theorem Creation.of_error {save : Bool} {s t : σ} {e : JsError} (hstored : stored t = stored s) :
    Creation h stored save s (.error e, t) where
  failed _ := hstored
  created hvc := by cases hvc

omit [JsNumber N] in
/-- A call that saves nothing. -/
theorem Documented.stored_eq (hdoc : Documented lib h stored) {o : Call N} {s t : σ}
    {r : Except JsError o.Resp} (ho : ∀ vc, o ≠ .dataStoreSaveVerifiableCredential vc)
    (hrun : h o s = (r, t)) : stored t = stored s := by
  rw [← hdoc.kept (s := s) ho, hrun]

omit [JsNumber N] in
theorem run_perform (call : Call N) (s : σ) : (perform call).run h s = h call s :=
  Prog.run_perform h call s

theorem run_saveIf (hdoc : Documented lib h stored) {save : Bool} {w : List (Text × Json N)}
    {did signature : Text} {s₀ s : σ} (hissued : Issued h w did signature)
    (hstored : stored s = stored s₀) :
    Creation h stored save s₀ ((saveIf save (signedDocument w did signature)).run h s) := by
  have hcreated : ∀ {t : σ}, stored t = (if save then insert (signedDocument w did signature)
      (stored s₀) else stored s₀) →
      Creation h stored save s₀ (.ok (signedDocument w did signature), t) := by
    intro t ht
    refine ⟨fun he => (by cases he), fun hvc => ⟨w, did, signature, hissued, ?_, ?_⟩⟩
    · exact (Except.ok.inj hvc).symm
    · rw [← Except.ok.inj hvc]
      exact ht
  cases save with
  | true =>
      rcases hrun : (saveIf true (signedDocument w did signature)).run h s with ⟨r, t⟩
      rcases Prog.run_bind_cases hrun with ⟨hash, t', hsave, hret⟩ | ⟨e, hsave, rfl⟩
      · rw [run_perform] at hsave
        obtain ⟨rfl, rfl⟩ := Prod.mk.inj hret
        exact hcreated (by rw [hdoc.saved hsave, hstored]; rfl)
      · rw [run_perform] at hsave
        exact .of_error ((hdoc.refused hsave).trans hstored)
  | false => exact hcreated hstored

/-- The key that signs. -/
theorem signingKey_ok {identifier : IIdentifier} {key : IKey}
    (hkey : signingKey identifier = .ok key) :
    key ∈ identifier.keys ∧ key.type = "Secp256k1".toList := by
  unfold signingKey at hkey
  cases hfind : identifier.keys.find? fun k => decide (k.type = "Secp256k1".toList) with
  | none =>
      rw [hfind] at hkey
      cases hkey
  | some found =>
      rw [hfind] at hkey
      obtain rfl := Except.ok.inj hkey
      have htype := List.find?_some hfind
      exact ⟨List.mem_of_find?_eq_some hfind, of_decide_eq_true htype⟩

section Cases

variable {α : Type} {r : Except JsError α} {s t : σ}

omit [JsNumber N] in
/-- What is there already changes nothing. -/
theorem run_ofExcept_cases {β : Type} {result : Except JsError β} {f : β → Plugin N α}
    (hrun : (Prog.ofExcept result >>= f).run h s = (r, t)) :
    (∃ b, result = .ok b ∧ (f b).run h s = (r, t)) ∨ ∃ e, r = .error e ∧ t = s := by
  rcases Prog.run_bind_cases hrun with ⟨b, s₁, hfirst, hrest⟩ | ⟨e, hfirst, rfl⟩
  · rw [Prog.run_ofExcept] at hfirst
    obtain ⟨rfl, rfl⟩ := Prod.mk.inj hfirst
    exact Or.inl ⟨b, rfl, hrest⟩
  · rw [Prog.run_ofExcept] at hfirst
    exact Or.inr ⟨e, rfl, (Prod.mk.inj hfirst).2.symm⟩

omit [JsNumber N] in
/-- A call is answered, and the program goes on, or ends with an error. -/
theorem run_perform_cases {call : Call N} {f : call.Resp → Plugin N α}
    (hrun : (perform call >>= f).run h s = (r, t)) :
    (∃ b s₁, h call s = (.ok b, s₁) ∧ (f b).run h s₁ = (r, t)) ∨
      ∃ e e', h call s = (.error e, t) ∧ r = .error e' := by
  rcases Prog.run_bind_cases hrun with ⟨b, s₁, hfirst, hrest⟩ | ⟨e, hfirst, rfl⟩
  · rw [run_perform] at hfirst
    exact Or.inl ⟨b, s₁, hfirst, hrest⟩
  · rw [run_perform] at hfirst
    exact Or.inr ⟨e, e, hfirst, rfl⟩

omit [JsNumber N] in
/-- The same, where an error is replaced. -/
theorem run_perform_mapError_cases {call : Call N} {g : JsError → JsError}
    {f : call.Resp → Plugin N α} (hrun : ((perform call).mapError g >>= f).run h s = (r, t)) :
    (∃ b s₁, h call s = (.ok b, s₁) ∧ (f b).run h s₁ = (r, t)) ∨
      ∃ e e', h call s = (.error e, t) ∧ r = .error e' := by
  rcases Prog.run_bind_cases hrun with ⟨b, s₁, hfirst, hrest⟩ | ⟨e, hfirst, rfl⟩
  · obtain ⟨r₁, hcall, hr₁⟩ := Prog.run_mapError_cases hfirst
    rw [run_perform] at hcall
    cases r₁ with
    | ok b' =>
        obtain rfl := Except.ok.inj hr₁
        exact Or.inl ⟨b, s₁, hcall, hrest⟩
    | error e => cases hr₁
  · obtain ⟨r₁, hcall, hr₁⟩ := Prog.run_mapError_cases hfirst
    rw [run_perform] at hcall
    cases r₁ with
    | ok b => cases hr₁
    | error e₁ => exact Or.inr ⟨e₁, e, hcall, rfl⟩

end Cases

variable [DecidableEq N]

/-- **What a creation leaves**, however it ends. -/
theorem run_createVerifiableCredentialOA (hdoc : Documented lib h stored) (args : Args N) (s : σ) :
    Creation h stored (truthy (args.get "save".toList)) s
      ((createVerifiableCredentialOA lib args).run h s) := by
  rcases hrun : (createVerifiableCredentialOA lib args).run h s with ⟨r, t⟩
  rcases run_ofExcept_cases hrun with ⟨credential, -, hrun⟩ | ⟨e, rfl, rfl⟩
  swap
  · exact .of_error rfl
  rcases run_perform_mapError_cases hrun with ⟨w, s₁, hwrap, hrun⟩ | ⟨e, e', hwrap, rfl⟩
  swap
  · exact .of_error (hdoc.stored_eq (by rintro vc ⟨⟩) hwrap)
  have hstored₁ := hdoc.stored_eq (by rintro vc ⟨⟩) hwrap
  rcases run_ofExcept_cases hrun with ⟨issuer, hissuer, hrun⟩ | ⟨e, rfl, rfl⟩
  swap
  · exact .of_error hstored₁
  rcases run_perform_mapError_cases hrun with ⟨identifier, s₂, hget, hrun⟩ | ⟨e, e', hget, rfl⟩
  swap
  · exact .of_error ((hdoc.stored_eq (by rintro vc ⟨⟩) hget).trans hstored₁)
  have hstored₂ := (hdoc.stored_eq (by rintro vc ⟨⟩) hget).trans hstored₁
  rcases run_ofExcept_cases hrun with ⟨key, hkey, hrun⟩ | ⟨e, rfl, rfl⟩
  swap
  · exact .of_error hstored₂
  rcases run_ofExcept_cases hrun with ⟨data, hdata, hrun⟩ | ⟨e, rfl, rfl⟩
  swap
  · exact .of_error hstored₂
  rcases run_perform_cases hrun with ⟨signature, s₃, hsign, hrun⟩ | ⟨e, e', hsign, rfl⟩
  swap
  · exact .of_error ((hdoc.stored_eq (by rintro vc ⟨⟩) hsign).trans hstored₂)
  obtain ⟨hmem, htype⟩ := signingKey_ok hkey
  have hissued : Issued h w identifier.did signature :=
    .mk hwrap hissuer hget rfl hmem htype hdata hsign
  rw [← hrun]
  exact run_saveIf hdoc hissued ((hdoc.stored_eq (by rintro vc ⟨⟩) hsign).trans hstored₂)

omit [JsNumber N] [DecidableEq N] in
/-- The proof of a document that was signed. -/
theorem field_proof_signedDocument (w : List (Text × Json N)) (did signature name : Text) :
    field name (field "proof".toList (some (signedDocument w did signature))) =
      property name (Json.setField "signature".toList (.str signature)
        (Json.setField "key".toList (.str (did ++ "#controller".toList))
          (fieldsOf (property "proof".toList w)))) := by
  have hproof : field "proof".toList (some (signedDocument w did signature)) = some (.obj
      (Json.setField "signature".toList (.str signature)
        (Json.setField "key".toList (.str (did ++ "#controller".toList))
          (fieldsOf (property "proof".toList w))))) := property_setField_self _ _ _
  rw [hproof]
  rfl

omit [JsNumber N] [DecidableEq N] in
/-- What is neither key nor signature is as it was. -/
theorem property_signed {name : Text} (hkey : name ≠ "key".toList)
    (hsignature : name ≠ "signature".toList) (key signature : Json N)
    (fields : List (Text × Json N)) :
    property name (Json.setField "signature".toList signature
      (Json.setField "key".toList key fields)) = property name fields := by
  rw [property_setField_of_ne hsignature, property_setField_of_ne hkey]

omit [DecidableEq N] in
/-- **The router finds the plugin** by the proof of a document that was signed. -/
theorem detectDocumentType_signedDocument {w : List (Text × Json N)} (hw : IsWrapped w)
    (did signature : Text) :
    detectDocumentType (some (signedDocument w did signature)) = .oa := by
  obtain ⟨proof, hproof, htype, hjwt⟩ := hw
  have hfields : fieldsOf (property "proof".toList w) = proof := by rw [hproof]; rfl
  have hother : ∀ name, name ≠ "key".toList → name ≠ "signature".toList →
      field name (field "proof".toList (some (signedDocument w did signature))) =
        property name proof := by
    intro name hkey hsignature
    rw [field_proof_signedDocument, property_signed hkey hsignature, hfields]
  have hjwt' := hother "jwt".toList (by decide +kernel) (by decide +kernel)
  have htype' := hother "type".toList (by decide +kernel) (by decide +kernel)
  rw [hjwt] at hjwt'
  rw [htype] at htype'
  unfold detectDocumentType
  dsimp only
  rw [hjwt', htype']
  rfl

/-! ### Verification -/

/-- The library accepts a credential: it is a signed document, and the verifiers find it valid. -/
def Accepts (lib : Library N) (h : (o : Call N) → σ → Except JsError o.Resp × σ)
    (credential : Option (Json N)) (s : σ) : Prop :=
  lib.isSignedWrappedV3Document credential = true ∧
    (h (.verify oaVerifiersToRun network credential) s).1 = .ok true

omit [JsNumber N] [DecidableEq N] in
/-- **What a verification says**: it never fails, and it says that the credential is verified
exactly when the library accepts it. -/
theorem run_verifyCredentialOA (hdoc : Documented lib h stored) (args : Args N) (s : σ) :
    ∃ result t, (verifyCredentialOA lib args).run h s = (.ok result, t) ∧ stored t = stored s ∧
      (result.verified = true ↔ Accepts lib h (args.get "credential".toList) s) ∧
      result.verifiableCredential =
        if result.verified then args.get "credential".toList else none := by
  rw [verifyCredentialOA]
  unfold Accepts
  generalize args.get "credential".toList = credential
  have hkept : stored (h (.verify oaVerifiersToRun network credential) s).2 = stored s :=
    hdoc.kept (by rintro vc ⟨⟩)
  by_cases hsigned : lib.isSignedWrappedV3Document credential = true
  · rw [if_pos hsigned]
    rcases hrun : h (.verify oaVerifiersToRun network credential) s with ⟨_ | verified, t⟩
    · rw [hrun] at hkept
      refine ⟨_, t, Prog.run_tryCatch_of_error (Prog.run_bind_of_error
        ((run_perform _ s).trans hrun)), hkept, ?_, rfl⟩
      simp
    · rw [hrun] at hkept
      refine ⟨_, t, Prog.run_tryCatch_of_ok ((Prog.run_bind_of_ok
        ((run_perform _ s).trans hrun)).trans rfl), hkept, ?_, rfl⟩
      simp [hsigned]
  · rw [if_neg hsigned]
    refine ⟨_, s, Prog.run_tryCatch_of_error rfl, rfl, ?_, rfl⟩
    simp [hsigned]

/-- What the plugin is asked to verify. -/
def verificationArgs (credential : Json N) : Args N :=
  [("credential".toList, some credential)]

/-- The body of a request to verify a credential. -/
def verificationBody (credential : Json N) : Json N :=
  .obj [("verifiableCredential".toList, credential)]

variable {rest : (o : VcApi.Call N) → σ → Except JsError o.Resp × σ} {installed : Method → Bool}

/-- **The VC API lets the plugin verify what the router finds to be its own**, and answers with what
the plugin says. -/
theorem run_verifyCredential (hinstalled : installed .verifyCredentialOA = true)
    {credential : Json N} (htype : detectDocumentType (some credential) = .oa)
    {result : VerifyResult N} {s t : σ}
    (hrun : (verifyCredentialOA lib (verificationArgs credential)).run h s = (.ok result, t)) :
    (VcApi.verifyCredential installed true (verificationBody credential)).run (serve lib h rest) s =
      (.ok ⟨200, .json result.toJson⟩, t) := by
  have hpayload : VcApi.verificationPayload (verificationBody credential) =
      verificationArgs credential := rfl
  have hserve : serve lib h rest (.plugin .verifyCredentialOA (verificationArgs credential)) s =
      (.ok result.toJson, t) := by
    rw [serve, hrun]
    rfl
  have hrouted : (VcApi.verifyRouted installed (verificationArgs credential)).run
      (serve lib h rest) s = (.ok result.toJson, t) := by
    have hargs : (verificationArgs credential).get "credential".toList = some credential := rfl
    rw [VcApi.verifyRouted, hargs, if_pos htype, VcApi.callInstalled, if_pos hinstalled]
    exact (Prog.run_perform _ _ s).trans hserve
  refine Prog.run_tryCatch_of_ok ?_
  refine (Prog.run_bind_of_ok rfl).trans ?_
  rw [hpayload]
  exact (Prog.run_bind_of_ok (Prog.run_mapError_of_ok hrouted)).trans rfl

/-! ### Creation -/

omit [JsNumber N] [DecidableEq N] in
/-- The router passes the arguments on. -/
theorem get_assign_credential (args : Args N) {name : Text} (hname : name ≠ "credential".toList)
    (value : Option (Json N)) :
    (args.assign [("credential".toList, value)]).get name = args.get name := by
  have hassign : args.assign [("credential".toList, value)] =
      Json.setField "credential".toList value args := rfl
  rw [hassign, Args.get, property_setField_of_ne hname]
  rfl

/-- **What a creation leaves**, through the router. -/
theorem run_routeCreation (rest : (o : VcApi.Call N) → σ → Except JsError o.Resp × σ)
    (hdoc : Documented lib h stored)
    (hinstalled : installed .createVerifiableCredentialOA = true) {args : Args N}
    (hformat : args.get "proofFormat".toList =
      some (.str "OpenAttestationMerkleProofSignature2018".toList)) (s : σ) :
    Creation h stored (truthy (args.get "save".toList)) s
      ((VcApi.routeCreationVerifiableCredential installed args).run (serve lib h rest) s) := by
  rcases hrun : (VcApi.routeCreationVerifiableCredential installed args).run (serve lib h rest) s
    with ⟨r, t⟩
  obtain ⟨r', hcreate, rfl⟩ := Prog.run_mapError_cases hrun
  have hmethod : creationMethod args = .createVerifiableCredentialOA := by
    rw [creationMethod, hformat, VcApi.isText, if_pos (by simp)]
  rw [VcApi.createRouted, hmethod, VcApi.callInstalled, if_pos hinstalled] at hcreate
  have hserve := (Prog.run_perform _ _ s).symm.trans hcreate
  have hcreation := run_createVerifiableCredentialOA hdoc
    (args.assign [("credential".toList, args.get "credential".toList)]) s
  rw [get_assign_credential args (by decide +kernel)] at hcreation
  have hplugin : (createVerifiableCredentialOA lib
      (args.assign [("credential".toList, args.get "credential".toList)])).run h s = (r', t) :=
    hserve
  rw [hplugin] at hcreation
  cases r' with
  | ok vc => exact hcreation
  | error e => exact .of_error (hcreation.failed rfl)

/-- **A credential that was created is what was saved, and the VC API verifies it exactly when the
library does.**  A creation that fails stores nothing.  Else the credential is the wrapped document
with key and signature in its proof, and it is stored if that was asked for.  Whenever it is sent to
be verified, it is handed to this plugin, nothing is stored, and the answer is that it is verified
exactly when the library accepts this very document then. -/
theorem created_verified (hdoc : Documented lib h stored)
    (hcreate : installed .createVerifiableCredentialOA = true)
    (hverify : installed .verifyCredentialOA = true) {args : Args N}
    (hformat : args.get "proofFormat".toList =
      some (.str "OpenAttestationMerkleProofSignature2018".toList)) {s s' : σ}
    {r : Except JsError (Json N)}
    (hrun : (VcApi.routeCreationVerifiableCredential installed args).run (serve lib h rest) s =
      (r, s')) :
    (∀ e, r = .error e → stored s' = stored s) ∧
    ∀ vc, r = .ok vc →
      stored s' = (if truthy (args.get "save".toList) then insert vc (stored s) else stored s) ∧
      (∃ w did signature, Issued h w did signature ∧ vc = signedDocument w did signature) ∧
      ∀ t, ∃ (result : VerifyResult N) (t' : σ), stored t' = stored t ∧
        (VcApi.verifyCredential installed true (verificationBody vc)).run (serve lib h rest) t =
          (.ok ⟨200, .json result.toJson⟩, t') ∧
        (result.verified = true ↔ Accepts lib h (some vc) t) ∧
        result.verifiableCredential = if result.verified then some vc else none := by
  have hcreation := run_routeCreation rest hdoc hcreate hformat s
  rw [hrun] at hcreation
  refine ⟨fun e he => hcreation.failed he, ?_⟩
  intro vc hvc
  obtain ⟨w, did, signature, hissued, rfl, hstored⟩ := hcreation.created hvc
  refine ⟨hstored, ⟨w, did, signature, hissued, rfl⟩, ?_⟩
  intro t
  have hwrapped : IsWrapped w := by
    obtain ⟨hwrap, -⟩ := hissued
    exact hdoc.wrapped hwrap
  obtain ⟨result, t', hresult, hkept, hiff, hshape⟩ :=
    run_verifyCredentialOA hdoc (verificationArgs (signedDocument w did signature)) t
  exact ⟨result, t', hkept, run_verifyCredential hverify
    (detectDocumentType_signedDocument hwrapped did signature) hresult, hiff, hshape⟩

end Laws

/-! ### A credential of one issuer -/

/-- The DID of the issuer. -/
def plainDid : Text := "did:ethr:0xabc123".toList

/-- The entries of a value, behind the one that has to be first. -/
def startingWith (entry : Option (Json ℤ)) (first : Text) : List (Json ℤ) :=
  match entry with
  | some (.arr items) => .str first :: items.filter fun item => !same (.str first) item
  | some (.str text) => if text = first then [.str text] else [.str first, .str text]
  | _ => [.str first]

/-- What a key makes of the data that it signs. -/
def plainSignature (data : Text) : Text := "0x".toList ++ data.reverse

/-- The proof of a document. -/
def proofOf (credential : Option (Json ℤ)) : Option (Json ℤ) := field "proof".toList credential

/-- The signature in the proof of a document is that of its root. -/
def isPlainlySigned (credential : Option (Json ℤ)) : Bool :=
  match field "merkleRoot".toList (proofOf credential) with
  | some (.str root) =>
      VcApi.isText (plainSignature ("0x".toList ++ root))
        (field "signature".toList (proofOf credential))
  | _ => false

def plainLibrary : Library ℤ where
  processEntryToArray := startingWith
  isSignedWrappedV3Document credential :=
    (field "signature".toList (proofOf credential)).isSome

/-- The proof that the library adds. -/
def plainProof : List (Text × Json ℤ) :=
  [("type".toList, .str "OpenAttestationMerkleProofSignature2018".toList),
    ("merkleRoot".toList, .str "39b632cd".toList)]

/-- An agent with one identifier, which stores documents in a list. -/
def plainAgent : (o : Call ℤ) → List (Json ℤ) → Except JsError o.Resp × List (Json ℤ)
  | .wrapDocument credential, s =>
      (.ok (Json.setField "proof".toList (.obj plainProof) credential), s)
  | .didManagerGet did, s =>
      if VcApi.isText plainDid did then
        (.ok ⟨plainDid, [⟨"kid".toList, "Secp256k1".toList⟩]⟩, s)
      else (.error (.ofMessage "Identifier not found".toList), s)
  | .keyManagerSign _ data _ _, s => (.ok (plainSignature data), s)
  | .dataStoreSaveVerifiableCredential vc, s => (.ok "hash".toList, vc :: s)
  | .verify _ _ credential, s => (.ok (isPlainlySigned credential), s)

theorem plainAgent_documented :
    Documented plainLibrary plainAgent fun s => {vc | vc ∈ s} where
  wrapped := by
    intro credential w s t hwrap
    obtain ⟨hw, -⟩ := Prod.mk.inj hwrap
    rw [← Except.ok.inj hw]
    have htype : property "type".toList plainProof =
        some (.str "OpenAttestationMerkleProofSignature2018".toList) :=
      (ObjectCreator.property_cons _ _ _).trans (if_pos rfl)
    have hjwt : property "jwt".toList plainProof = none :=
      ObjectCreator.property_eq_none_iff.2 (by decide +kernel)
    exact ⟨plainProof, property_setField_self _ _ _, htype, hjwt⟩
  kept := by
    intro o s ho
    cases o with
    | wrapDocument credential => rfl
    | didManagerGet did =>
        rw [plainAgent]
        split_ifs <;> rfl
    | keyManagerSign keyRef data algorithm encoding => rfl
    | dataStoreSaveVerifiableCredential vc => exact absurd rfl (ho vc)
    | verify verifiers network credential => rfl
  saved := by
    intro vc hash s t hsave
    rw [← (Prod.mk.inj hsave).2]
    ext v
    exact List.mem_cons
  refused hsave := by cases (Prod.mk.inj hsave).1

/-- A credential of the issuer. -/
def plainCredential : Json ℤ :=
  .obj [("type".toList, .arr [.str "OpenAttestationCredential".toList]),
    ("openAttestationMetadata".toList,
      .obj [("proof".toList, .obj [("value".toList, .str plainDid)])])]

/-- The arguments that create it, and save it. -/
def plainArgs : Args ℤ :=
  [("credential".toList, some plainCredential),
    ("proofFormat".toList, some (.str "OpenAttestationMerkleProofSignature2018".toList)),
    ("save".toList, some (.bool true))]

/-- An agent with the plugin and nothing else. -/
def plainServe : (o : VcApi.Call ℤ) → List (Json ℤ) → Except JsError o.Resp × List (Json ℤ) :=
  serve plainLibrary plainAgent fun _ s => (.error (.ofMessage "Unsupported method".toList), s)

/-- Every method is there. -/
def allInstalled (_ : Method) : Bool := true

def plainCreation : Except JsError (Json ℤ) × List (Json ℤ) :=
  (VcApi.routeCreationVerifiableCredential allInstalled plainArgs).run plainServe []

/-- The library accepts what was created. -/
def acceptsCreated : Bool :=
  match plainCreation.1 with
  | .ok vc => plainLibrary.isSignedWrappedV3Document (some vc) && isPlainlySigned (some vc)
  | .error _ => false

/-- The credential is created and saved, and verified afterwards. -/
theorem created_verified_plain : ∃ vc, plainCreation.1 = .ok vc ∧ vc ∈ plainCreation.2 ∧
    ∃ (result : VerifyResult ℤ) (t : List (Json ℤ)),
      (VcApi.verifyCredential allInstalled true (verificationBody vc)).run plainServe
        plainCreation.2 = (.ok ⟨200, .json result.toJson⟩, t) ∧
      result.verified = true ∧ result.verifiableCredential = some vc := by
  have haccepts : acceptsCreated = true := by decide +kernel
  have hformat : plainArgs.get "proofFormat".toList =
      some (.str "OpenAttestationMerkleProofSignature2018".toList) := rfl
  have hrun : (VcApi.routeCreationVerifiableCredential allInstalled plainArgs).run plainServe [] =
      (plainCreation.1, plainCreation.2) := rfl
  have hinstalled : ∀ method, allInstalled method = true := fun _ => rfl
  obtain ⟨-, hcreated⟩ := created_verified plainAgent_documented (hinstalled _) (hinstalled _)
    hformat hrun
  cases hvc : plainCreation.1 with
  | error e =>
      rw [acceptsCreated, hvc] at haccepts
      cases haccepts
  | ok vc =>
      rw [acceptsCreated, hvc, Bool.and_eq_true] at haccepts
      obtain ⟨hstored, -, hverified⟩ := hcreated vc hvc
      obtain ⟨result, t, -, hrun, hiff, hshape⟩ := hverified plainCreation.2
      have hresult : result.verified = true :=
        hiff.2 ⟨haccepts.1, congrArg Except.ok haccepts.2⟩
      rw [if_pos hresult] at hshape
      refine ⟨vc, rfl, ?_, result, t, hrun, hresult, hshape⟩
      have hsave : truthy (plainArgs.get "save".toList) = true := rfl
      rw [if_pos hsave] at hstored
      have hmem : vc ∈ {v | v ∈ plainCreation.2} := by
        rw [hstored]
        exact Set.mem_insert _ _
      exact hmem

end CredentialOA
