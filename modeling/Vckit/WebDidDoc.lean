/-
**The DID documents of `WebDidDocRouter`.**

Every managed key becomes a verification method of the type that the key mapping gives to the type
of the key.  For `JsonWebKey2020` the code does not look at the key that is mapped: it exports the
first Ed25519 key of the identifier and the X25519 key derived from it.  And both types of 2020 are
published as Ed25519 keys.

The text that a library function makes of bytes is represented by its arguments.

Main definitions:

* `WebDid.TKeyType`, `WebDid.IKey`, `WebDid.IIdentifier` — managed keys and identifiers;
* `WebDid.KeyLibrary` — the functions on keys that the router calls, as a parameter;
* `WebDid.VerificationMethod`, `WebDid.DidDoc` — the documents;
* `WebDid.webKeysForIdentifier`, `WebDid.didDocForIdentifier` — the code;
* `WebDid.Published`, `WebDid.DocOk` — what a document should hold;
* `WebDid.Publishable` — the identifiers and mappings for which it does.

Main results:

* `WebDid.didDoc_ok_iff` — **the ids of a document are distinct and every key is published under
  its own id exactly for these**;
* `WebDid.didDoc_rotated` — a document in which two methods share an id and one key is missing.
-/

import Vckit.Text
import Mathlib.Data.List.Flatten
import Mathlib.Data.List.Lattice
import Mathlib.Data.List.Nodup
import Mathlib.Data.List.Pairwise
import Mathlib.Tactic.IntervalCases

set_option relaxedAutoImplicit false
set_option autoImplicit false

namespace WebDid

/-! ### Managed keys -/

/-- `TKeyType`. -/
inductive TKeyType where
  | Ed25519
  | Secp256k1
  | Secp256r1
  | X25519
  | Bls12381G1
  | Bls12381G2
  deriving DecidableEq

/-- A managed key. -/
structure IKey where
  kid : Text
  type : TKeyType
  publicKeyHex : Text
  deriving DecidableEq

variable {S : Type}

/-- A managed identifier, with services `S`. -/
structure IIdentifier (S : Type) where
  did : Text
  keys : List IKey
  services : List S

/-- Bytes. -/
abbrev Bytes := List UInt8

/-- A key pair of the key library: its curve and its public key. -/
structure KeyPair where
  crv : TKeyType
  publicKey : Bytes
  deriving DecidableEq

/-- The functions on keys that the router calls. -/
structure KeyLibrary where
  hexToBytes : Text → Except JsError Bytes
  /-- `getDerivedKeyPairs` of the Ed25519 key pair with this public key. -/
  getDerivedKeyPairs : Bytes → Except JsError (List KeyPair)

/-- The key pairs derived from an Ed25519 key are that key and its X25519 conversion. -/
structure KeyLibrary.Lawful (lib : KeyLibrary) : Prop where
  getDerivedKeyPairs_ok : ∀ {publicKey pairs}, lib.getDerivedKeyPairs publicKey = .ok pairs →
    ∃ converted, pairs = [⟨.Ed25519, publicKey⟩, ⟨.X25519, converted⟩]

/-! ### Documents -/

/-- The key material of a verification method. -/
inductive KeyMaterial where
  | publicKeyHex (hex : Text)
  | publicKeyBase58 (bytes : Bytes)
  | publicKeyMultibase (codec : TKeyType) (bytes : Bytes)
  | publicKeyJwk (crv : TKeyType) (x : Bytes)
  deriving DecidableEq

/-- A verification method. -/
structure VerificationMethod where
  id : Text
  type : Text
  controller : Text
  material : KeyMaterial
  deriving DecidableEq

/-- A DID document. -/
structure DidDoc (S : Type) where
  context : List Text
  id : Text
  verificationMethod : List VerificationMethod
  authentication : List Text
  assertionMethod : List Text
  keyAgreement : List Text
  service : List S

/-! ### Types of verification methods -/

/-- `JsonWebKey2020`. -/
def jsonWebKey2020 : Text := "JsonWebKey2020".toList

/-- The default mapping. -/
def defaultKeyMapping : TKeyType → Text
  | .Secp256k1 => "EcdsaSecp256k1VerificationKey2019".toList
  | .Secp256r1 => "EcdsaSecp256r1VerificationKey2019".toList
  | .Ed25519 => "Ed25519VerificationKey2020".toList
  | .X25519 => "X25519KeyAgreementKey2019".toList
  | .Bls12381G1 => "Bls12381G1Key2020".toList
  | .Bls12381G2 => "Bls12381G2Key2020".toList

/-- The options of the router; the mapping may leave types out. -/
structure WebDidDocRouterOptions (S : Type) where
  services : List S
  keyMapping : TKeyType → Option Text

/-- `{ ...keyMapping, ...options.keyMapping }`. -/
def WebDidDocRouterOptions.km (options : WebDidDocRouterOptions S) (type : TKeyType) : Text :=
  (options.keyMapping type).getD (defaultKeyMapping type)

/-- How the `switch` treats a type. -/
inductive Encoding where
  | hex
  | base58
  | multibase
  | jwk
  deriving DecidableEq

/-- The cases of the `switch`: the encoding, and the contexts that are added. -/
def caseOf (type : Text) : Encoding × List Text :=
  if type = "EcdsaSecp256k1VerificationKey2019".toList ∨
      type = "EcdsaSecp256k1RecoveryMethod2020".toList then
    (.hex, ["https://w3id.org/security/v2".toList,
      "https://w3id.org/security/suites/secp256k1recovery-2020/v2".toList])
  else if type = "Ed25519VerificationKey2018".toList then
    (.base58, ["https://w3id.org/security/suites/ed25519-2018/v1".toList])
  else if type = "X25519KeyAgreementKey2019".toList then
    (.base58, ["https://w3id.org/security/suites/x25519-2019/v1".toList])
  else if type = "Ed25519VerificationKey2020".toList then
    (.multibase, ["https://w3id.org/security/suites/ed25519-2020/v1".toList])
  else if type = "X25519KeyAgreementKey2020".toList then
    (.multibase, ["https://w3id.org/security/suites/x25519-2020/v1".toList])
  else if type = "EcdsaSecp256r1VerificationKey2019".toList then
    (.hex, ["https://w3id.org/security/v2".toList])
  else if type = "Bls12381G1Key2020".toList ∨ type = "Bls12381G2Key2020".toList then
    (.hex, ["https://w3id.org/security/bbs/v1".toList])
  else if type = jsonWebKey2020 then
    (.jwk, ["https://w3id.org/security/suites/jws-2020/v1".toList])
  else (.hex, [])

/-- The encoding of a type. -/
def encodingOf (type : Text) : Encoding := (caseOf type).1

/-! ### The code -/

/-- The id of the web key number `i` of a key. -/
def webKeyId (did kid : Text) (i : ℕ) : Text :=
  did ++ '#' :: (kid ++ "-key-".toList ++ Text.ofNat i)

/-- `webKeysForIdentifier`, as verification methods. -/
def webKeysForIdentifier (lib : KeyLibrary) (identifier : IIdentifier S) :
    Except JsError (List VerificationMethod) :=
  match identifier.keys.find? fun key => key.type = .Ed25519 with
  | none => .error (JsError.ofMessage "JsonWebKey2020 requires Ed25519 key".toList)
  | some key => do
      let publicKeyBytes ← lib.hexToBytes key.publicKeyHex
      let pairs ← lib.getDerivedKeyPairs publicKeyBytes
      return pairs.mapIdx fun i pair =>
        { id := webKeyId identifier.did key.kid i
          type := jsonWebKey2020
          controller := identifier.did
          material := .publicKeyJwk pair.crv pair.publicKey }

/-- The verification method of a key that is not published as a web key. -/
def methodOf (did type : Text) (key : IKey) (material : KeyMaterial) : VerificationMethod where
  id := did ++ '#' :: key.kid
  type
  controller := did
  material

/-- The verification methods of a key. -/
def verificationMethodsOf (lib : KeyLibrary) (km : TKeyType → Text) (identifier : IIdentifier S)
    (key : IKey) : Except JsError (List VerificationMethod) :=
  match encodingOf (km key.type) with
  | .hex => return [methodOf identifier.did (km key.type) key (.publicKeyHex key.publicKeyHex)]
  | .base58 => do
      let bytes ← lib.hexToBytes key.publicKeyHex
      return [methodOf identifier.did (km key.type) key (.publicKeyBase58 bytes)]
  | .multibase => do
      let bytes ← lib.hexToBytes key.publicKeyHex
      return [methodOf identifier.did (km key.type) key (.publicKeyMultibase .Ed25519 bytes)]
  | .jwk => webKeysForIdentifier lib identifier

/-- The types that are listed in `keyAgreement`. -/
def keyAgreementTypes : List Text :=
  ["Ed25519VerificationKey2018".toList, "X25519KeyAgreementKey2019".toList]

/-- The contexts for the types of the keys and their methods, in the order in which the set receives
them: that of web keys is added after an `await`, if there are any. -/
def contextsOf (methods : List (Text × List VerificationMethod)) : List Text :=
  (((methods.filter fun m => encodingOf m.1 ≠ .jwk) ++
    methods.filter fun m => encodingOf m.1 = .jwk ∧ m.2 ≠ []).flatMap fun m =>
      (caseOf m.1).2).eraseDups

/-- `didDocForIdentifier`. -/
def didDocForIdentifier (lib : KeyLibrary) (options : WebDidDocRouterOptions S)
    (identifier : IIdentifier S) : Except JsError (DidDoc S) := do
  let allKeys ← identifier.keys.mapM (verificationMethodsOf lib options.km identifier)
  let flattenAllKeys := allKeys.flatten
  let signingKeyIds :=
    (flattenAllKeys.filter fun key => key.type ≠ "X25519KeyAgreementKey2019".toList).map
      VerificationMethod.id
  return {
    context := "https://www.w3.org/ns/did/v1".toList ::
      contextsOf ((identifier.keys.map fun key => options.km key.type).zip allKeys)
    id := identifier.did
    verificationMethod := flattenAllKeys
    authentication := signingKeyIds
    assertionMethod := signingKeyIds
    keyAgreement :=
      (flattenAllKeys.filter fun key => keyAgreementTypes.contains key.type).map
        VerificationMethod.id
    service := options.services ++ identifier.services }

/-! ### What a document should hold -/

/-- The id of a method is the one derived from the id of a key, for the type of the method. -/
def IdDerived (did kid : Text) (method : VerificationMethod) : Prop :=
  if method.type = jsonWebKey2020 then ∃ i, method.id = webKeyId did kid i
  else method.id = did ++ '#' :: kid

/-- The material is the key's own public key, in the encoding of the key's own type. -/
def Encodes (lib : KeyLibrary) (key : IKey) : KeyMaterial → Prop
  | .publicKeyHex hex => hex = key.publicKeyHex
  | .publicKeyBase58 bytes => lib.hexToBytes key.publicKeyHex = .ok bytes
  | .publicKeyMultibase codec bytes =>
      codec = key.type ∧ lib.hexToBytes key.publicKeyHex = .ok bytes
  | .publicKeyJwk crv x => crv = key.type ∧ lib.hexToBytes key.publicKeyHex = .ok x

/-- A document publishes a key. -/
def Published (lib : KeyLibrary) (doc : DidDoc S) (key : IKey) : Prop :=
  ∃ method ∈ doc.verificationMethod,
    IdDerived doc.id key.kid method ∧ Encodes lib key method.material

/-- The ids of a document are distinct, and it publishes every key. -/
structure DocOk (lib : KeyLibrary) (identifier : IIdentifier S) (doc : DidDoc S) : Prop where
  ids : (doc.verificationMethod.map VerificationMethod.id).Nodup
  published : ∀ key ∈ identifier.keys, Published lib doc key

/-- **The identifiers and mappings whose documents are in order.** -/
structure Publishable (km : TKeyType → Text) (keys : List IKey) : Prop where
  /-- A key that is mapped to `JsonWebKey2020` is the first Ed25519 key. -/
  webKey : ∀ key ∈ keys, encodingOf (km key.type) = .jwk →
    keys.find? (fun key => key.type = .Ed25519) = some key
  /-- No other key has the id of one of its web keys. -/
  apart : ∀ key ∈ keys, encodingOf (km key.type) = .jwk → ∀ other ∈ keys, ∀ i < 2,
    other.kid ≠ key.kid ++ "-key-".toList ++ Text.ofNat i
  /-- A key of the types of 2020 is an Ed25519 key. -/
  multibase : ∀ key ∈ keys, encodingOf (km key.type) = .multibase → key.type = .Ed25519

/-! ### The methods of a key -/

/-- A `map` that can fail returns what a function returns that does not. -/
theorem exists_map_of_mapM {α β : Type} {f : α → Except JsError (List β)} {xs : List α}
    {ys : List (List β)} (h : xs.mapM f = .ok ys) :
    ∃ g, (∀ x ∈ xs, f x = .ok (g x)) ∧ ys = xs.map g := by
  refine ⟨fun x => (f x).toOption.getD [], ?_⟩
  induction xs generalizing ys with
  | nil =>
      obtain rfl : [] = ys := Except.ok.inj h
      exact ⟨by simp, rfl⟩
  | cons x xs ih =>
      rw [List.mapM_cons] at h
      cases hx : f x with
      | error e =>
          rw [hx] at h
          cases h
      | ok y =>
          cases hxs : xs.mapM f with
          | error e =>
              rw [hx, hxs] at h
              cases h
          | ok ys' =>
              rw [hx, hxs] at h
              obtain rfl : y :: ys' = ys := Except.ok.inj h
              obtain ⟨hall, rfl⟩ := ih hxs
              refine ⟨?_, by simp [hx, Except.toOption]⟩
              intro x' hx'
              rcases List.mem_cons.1 hx' with rfl | hx'
              · simp [hx, Except.toOption]
              · exact hall x' hx'

theorem encodingOf_eq_jwk_iff {type : Text} : encodingOf type = .jwk ↔ type = jsonWebKey2020 := by
  constructor
  · intro h
    unfold encodingOf caseOf at h
    split_ifs at h
    assumption
  · rintro rfl
    decide

/-- The web keys of an identifier are those of its first Ed25519 key. -/
theorem webKeysForIdentifier_eq_ok {lib : KeyLibrary} (hlib : lib.Lawful)
    {identifier : IIdentifier S} {methods : List VerificationMethod}
    (h : webKeysForIdentifier lib identifier = .ok methods) :
    ∃ key bytes converted,
      identifier.keys.find? (fun key => key.type = .Ed25519) = some key ∧
      lib.hexToBytes key.publicKeyHex = .ok bytes ∧
      methods =
        [⟨webKeyId identifier.did key.kid 0, jsonWebKey2020, identifier.did,
            .publicKeyJwk .Ed25519 bytes⟩,
          ⟨webKeyId identifier.did key.kid 1, jsonWebKey2020, identifier.did,
            .publicKeyJwk .X25519 converted⟩] := by
  rw [webKeysForIdentifier] at h
  cases hfind : identifier.keys.find? (fun key => key.type = .Ed25519) with
  | none =>
      rw [hfind] at h
      cases h
  | some key =>
      rw [hfind] at h
      dsimp only at h
      cases hbytes : lib.hexToBytes key.publicKeyHex with
      | error e =>
          rw [hbytes] at h
          cases h
      | ok bytes =>
          rw [hbytes] at h
          cases hpairs : lib.getDerivedKeyPairs bytes with
          | error e =>
              change (lib.getDerivedKeyPairs bytes >>= _) = _ at h
              rw [hpairs] at h
              cases h
          | ok pairs =>
              change (lib.getDerivedKeyPairs bytes >>= _) = _ at h
              rw [hpairs] at h
              obtain ⟨converted, rfl⟩ := hlib.getDerivedKeyPairs_ok hpairs
              exact ⟨key, bytes, converted, rfl, hbytes, (Except.ok.inj h).symm⟩

/-- The method of a key that is not published as a web key: its id, and when its material is the
key's own. -/
theorem verificationMethodsOf_eq_ok {lib : KeyLibrary} {km : TKeyType → Text}
    {identifier : IIdentifier S} {key : IKey} {methods : List VerificationMethod}
    (h : verificationMethodsOf lib km identifier key = .ok methods)
    (hne : encodingOf (km key.type) ≠ .jwk) :
    ∃ material, methods = [methodOf identifier.did (km key.type) key material] ∧
      (Encodes lib key material ↔
        (encodingOf (km key.type) = .multibase → key.type = .Ed25519)) := by
  rw [verificationMethodsOf] at h
  cases hencoding : encodingOf (km key.type) with
  | hex =>
      rw [hencoding] at h
      exact ⟨_, (Except.ok.inj h).symm, iff_of_true rfl (by rintro ⟨⟩)⟩
  | base58 =>
      rw [hencoding] at h
      cases hbytes : lib.hexToBytes key.publicKeyHex with
      | error e =>
          rw [hbytes] at h
          cases h
      | ok bytes =>
          rw [hbytes] at h
          exact ⟨_, (Except.ok.inj h).symm, iff_of_true hbytes (by rintro ⟨⟩)⟩
  | multibase =>
      rw [hencoding] at h
      cases hbytes : lib.hexToBytes key.publicKeyHex with
      | error e =>
          rw [hbytes] at h
          cases h
      | ok bytes =>
          rw [hbytes] at h
          refine ⟨_, (Except.ok.inj h).symm, ?_⟩
          rw [Encodes, and_iff_left hbytes, eq_comm]
          simp
  | jwk => exact absurd hencoding hne

/-! ### The methods of a document -/

/-- What the methods of the keys of an identifier are. -/
structure MethodsOf (lib : KeyLibrary) (km : TKeyType → Text) (identifier : IIdentifier S)
    (methods : IKey → List VerificationMethod) : Prop where
  plain : ∀ key ∈ identifier.keys, encodingOf (km key.type) ≠ .jwk →
    ∃ material, methods key = [methodOf identifier.did (km key.type) key material] ∧
      (Encodes lib key material ↔
        (encodingOf (km key.type) = .multibase → key.type = .Ed25519))
  web : ∀ key ∈ identifier.keys, encodingOf (km key.type) = .jwk →
    ∃ first bytes converted,
      identifier.keys.find? (fun key => key.type = .Ed25519) = some first ∧
      lib.hexToBytes first.publicKeyHex = .ok bytes ∧
      methods key =
        [⟨webKeyId identifier.did first.kid 0, jsonWebKey2020, identifier.did,
            .publicKeyJwk .Ed25519 bytes⟩,
          ⟨webKeyId identifier.did first.kid 1, jsonWebKey2020, identifier.did,
            .publicKeyJwk .X25519 converted⟩]

/-- A document lists the methods of the keys, in their order, and their ids by their types. -/
structure DocOf (lib : KeyLibrary) (options : WebDidDocRouterOptions S) (identifier : IIdentifier S)
    (methods : IKey → List VerificationMethod) (doc : DidDoc S) : Prop where
  methods_ok : ∀ key ∈ identifier.keys,
    verificationMethodsOf lib options.km identifier key = .ok (methods key)
  id : doc.id = identifier.did
  verificationMethod : doc.verificationMethod = identifier.keys.flatMap methods
  authentication : doc.authentication = (doc.verificationMethod.filter fun key =>
    key.type ≠ "X25519KeyAgreementKey2019".toList).map VerificationMethod.id
  assertionMethod : doc.assertionMethod = doc.authentication
  keyAgreement : doc.keyAgreement = (doc.verificationMethod.filter fun key =>
    keyAgreementTypes.contains key.type).map VerificationMethod.id

theorem exists_docOf {lib : KeyLibrary} {options : WebDidDocRouterOptions S}
    {identifier : IIdentifier S} {doc : DidDoc S}
    (h : didDocForIdentifier lib options identifier = .ok doc) :
    ∃ methods, DocOf lib options identifier methods doc := by
  rw [didDocForIdentifier] at h
  cases hall : identifier.keys.mapM (verificationMethodsOf lib options.km identifier) with
  | error e =>
      rw [hall] at h
      cases h
  | ok allKeys =>
      rw [hall] at h
      obtain rfl := Except.ok.inj h
      obtain ⟨methods, hforall, rfl⟩ := exists_map_of_mapM hall
      exact ⟨methods, hforall, rfl, List.flatMap_def.symm, rfl, rfl, rfl⟩

/-- The methods of a document are those of the keys, in their order. -/
theorem didDocForIdentifier_eq_ok {lib : KeyLibrary} (hlib : lib.Lawful)
    {options : WebDidDocRouterOptions S} {identifier : IIdentifier S} {doc : DidDoc S}
    (h : didDocForIdentifier lib options identifier = .ok doc) :
    ∃ methods, MethodsOf lib options.km identifier methods ∧
      doc.verificationMethod = identifier.keys.flatMap methods ∧ doc.id = identifier.did := by
  obtain ⟨methods, hdoc⟩ := exists_docOf h
  refine ⟨methods, ⟨?_, ?_⟩, hdoc.verificationMethod, hdoc.id⟩
  · intro key hkey hne
    exact verificationMethodsOf_eq_ok (hdoc.methods_ok key hkey) hne
  · intro key hkey hjwk
    have hmethods := hdoc.methods_ok key hkey
    rw [verificationMethodsOf, hjwk] at hmethods
    exact webKeysForIdentifier_eq_ok hlib hmethods

/-! ### Ids -/

theorem webKeyId_inj {did kid kid' : Text} {i j : ℕ} :
    webKeyId did kid i = webKeyId did kid' j ↔ kid = kid' ∧ i = j := by
  have hassoc : ∀ (kid : Text) (i : ℕ),
      kid ++ "-key-".toList ++ Text.ofNat i = kid ++ "-key".toList ++ '-' :: Text.ofNat i := by
    intro kid i
    simp
  rw [webKeyId, webKeyId, List.append_right_inj, List.cons_inj_right, hassoc, hassoc,
    Text.append_sep_ofNat_inj (by decide), List.append_left_inj]

theorem plainId_eq_webKeyId_iff {did kid kid' : Text} {i : ℕ} :
    did ++ '#' :: kid' = webKeyId did kid i ↔ kid' = kid ++ "-key-".toList ++ Text.ofNat i := by
  rw [webKeyId, List.append_right_inj, List.cons_inj_right]

/-- The id of a method that is no web key is that of its key. -/
theorem idDerived_methodOf_iff {did type kid : Text} {key : IKey} {material : KeyMaterial}
    (hne : encodingOf type ≠ .jwk) :
    IdDerived did kid (methodOf did type key material) ↔ key.kid = kid := by
  have htype : (methodOf did type key material).type ≠ jsonWebKey2020 :=
    fun h => hne (encodingOf_eq_jwk_iff.2 h)
  rw [IdDerived, if_neg htype, methodOf, List.append_right_inj, List.cons_inj_right]

section Document

variable {lib : KeyLibrary} {km : TKeyType → Text} {identifier : IIdentifier S}
  {methods : IKey → List VerificationMethod}

theorem MethodsOf.ids_plain (h : MethodsOf lib km identifier methods) {key : IKey}
    (hkey : key ∈ identifier.keys) (hne : encodingOf (km key.type) ≠ .jwk) :
    (methods key).map VerificationMethod.id = [identifier.did ++ '#' :: key.kid] := by
  obtain ⟨material, hmethods, -⟩ := h.plain key hkey hne
  rw [hmethods]
  rfl

theorem MethodsOf.ids_web (h : MethodsOf lib km identifier methods) {key first : IKey}
    (hkey : key ∈ identifier.keys) (hjwk : encodingOf (km key.type) = .jwk)
    (hfirst : identifier.keys.find? (fun key => key.type = .Ed25519) = some first) :
    (methods key).map VerificationMethod.id =
      [webKeyId identifier.did first.kid 0, webKeyId identifier.did first.kid 1] := by
  obtain ⟨first', bytes, converted, hfirst', -, hmethods⟩ := h.web key hkey hjwk
  obtain rfl : first' = first := Option.some.inj (hfirst'.symm.trans hfirst)
  rw [hmethods]
  rfl

/-- **A document publishes a key exactly when** the key is the first Ed25519 key, for a web key, and
an Ed25519 key, for the types of 2020. -/
theorem MethodsOf.published_iff (h : MethodsOf lib km identifier methods) {doc : DidDoc S}
    (hkids : (identifier.keys.map IKey.kid).Nodup)
    (hdoc : doc.verificationMethod = identifier.keys.flatMap methods)
    (hid : doc.id = identifier.did) {key : IKey} (hkey : key ∈ identifier.keys) :
    Published lib doc key ↔
      (encodingOf (km key.type) = .jwk →
        identifier.keys.find? (fun key => key.type = .Ed25519) = some key) ∧
      (encodingOf (km key.type) = .multibase → key.type = .Ed25519) := by
  have hsame : ∀ other ∈ identifier.keys, other.kid = key.kid → other = key :=
    fun other hother hkid => List.inj_on_of_nodup_map hkids hother hkey hkid
  rw [Published, hdoc, hid]
  constructor
  · rintro ⟨method, hmem, hderived, hencodes⟩
    obtain ⟨other, hother, hmethod⟩ := List.mem_flatMap.1 hmem
    by_cases hjwk : encodingOf (km other.type) = .jwk
    · -- a web key: its id names the first Ed25519 key
      obtain ⟨first, bytes, converted, hfirst, -, hmethods⟩ := h.web other hother hjwk
      have hweb : method.type = jsonWebKey2020 ∧
          ∃ i, method.id = webKeyId identifier.did first.kid i := by
        rw [hmethods, List.mem_pair] at hmethod
        rcases hmethod with rfl | rfl
        · exact ⟨rfl, 0, rfl⟩
        · exact ⟨rfl, 1, rfl⟩
      obtain ⟨htype, i, hmethodId⟩ := hweb
      rw [IdDerived, if_pos htype] at hderived
      obtain ⟨j, hj⟩ := hderived
      have hkid : first.kid = key.kid := (webKeyId_inj.1 (hmethodId.symm.trans hj)).1
      have hfirstMem := List.mem_of_find?_eq_some hfirst
      obtain rfl := hsame first hfirstMem hkid
      have htypeOf : first.type = .Ed25519 := by simpa using List.find?_some hfirst
      exact ⟨fun _ => hfirst, fun _ => htypeOf⟩
    · -- another type: its id is that of its key
      obtain ⟨material, hmethods, hmaterial⟩ := h.plain other hother hjwk
      rw [hmethods, List.mem_singleton] at hmethod
      subst hmethod
      obtain rfl := hsame other hother ((idDerived_methodOf_iff hjwk).1 hderived)
      exact ⟨fun h => absurd h hjwk, hmaterial.1 hencodes⟩
  · rintro ⟨hweb, hmultibase⟩
    by_cases hjwk : encodingOf (km key.type) = .jwk
    · obtain ⟨first, bytes, converted, hfirst, hbytes, hmethods⟩ := h.web key hkey hjwk
      obtain rfl : first = key := Option.some.inj (hfirst.symm.trans (hweb hjwk))
      have htype : first.type = .Ed25519 := by simpa using List.find?_some hfirst
      refine ⟨⟨webKeyId identifier.did first.kid 0, jsonWebKey2020, identifier.did,
        .publicKeyJwk .Ed25519 bytes⟩,
        List.mem_flatMap.2 ⟨first, hkey, by rw [hmethods]; exact List.mem_cons_self⟩, ?_,
        htype.symm, hbytes⟩
      rw [IdDerived, if_pos rfl]
      exact ⟨0, rfl⟩
    · obtain ⟨material, hmethods, hencodes⟩ := h.plain key hkey hjwk
      refine ⟨methodOf identifier.did (km key.type) key material,
        List.mem_flatMap.2 ⟨key, hkey, by rw [hmethods]; exact List.mem_singleton_self _⟩,
        (idDerived_methodOf_iff hjwk).2 rfl, hencodes.2 hmultibase⟩

/-- **The ids of a document are distinct exactly when** web keys are published for one key at most,
and no other key has the id of one of them, given that every web key is that of its own key. -/
theorem MethodsOf.ids_nodup_iff (h : MethodsOf lib km identifier methods)
    (hkids : (identifier.keys.map IKey.kid).Nodup)
    (hweb : ∀ key ∈ identifier.keys, encodingOf (km key.type) = .jwk →
      identifier.keys.find? (fun key => key.type = .Ed25519) = some key) :
    ((identifier.keys.flatMap methods).map VerificationMethod.id).Nodup ↔
      ∀ key ∈ identifier.keys, encodingOf (km key.type) = .jwk → ∀ other ∈ identifier.keys,
        ∀ i < 2, other.kid ≠ key.kid ++ "-key-".toList ++ Text.ofNat i := by
  rw [List.map_flatMap, List.nodup_flatMap]
  constructor
  · rintro ⟨-, hdisjoint⟩ key hkey hjwk other hother i hi hkid
    have hne : key ≠ other := by
      rintro rfl
      have hlength := congrArg List.length hkid
      simp at hlength
    have hother' : encodingOf (km other.type) ≠ .jwk := fun hjwk' =>
      hne (Option.some.inj ((hweb key hkey hjwk).symm.trans (hweb other hother hjwk')))
    have hsymm : Std.Symm
        (Function.onFun List.Disjoint fun key => (methods key).map VerificationMethod.id) :=
      ⟨fun _ _ h => List.Disjoint.symm h⟩
    have hkeys := hdisjoint.forall hkey hother hne
    change List.Disjoint ((methods key).map VerificationMethod.id)
      ((methods other).map VerificationMethod.id) at hkeys
    rw [h.ids_web hkey hjwk (hweb key hkey hjwk), h.ids_plain hother hother',
      List.disjoint_singleton, plainId_eq_webKeyId_iff.2 hkid] at hkeys
    interval_cases i <;> simp at hkeys
  · intro hapart
    refine ⟨fun key hkey => ?_, ?_⟩
    · by_cases hjwk : encodingOf (km key.type) = .jwk
      · rw [h.ids_web hkey hjwk (hweb key hkey hjwk)]
        simp [webKeyId_inj]
      · rw [h.ids_plain hkey hjwk]
        exact List.nodup_singleton _
    · have hwebPlain : ∀ key ∈ identifier.keys, encodingOf (km key.type) = .jwk →
          ∀ other ∈ identifier.keys, encodingOf (km other.type) ≠ .jwk →
          List.Disjoint ((methods key).map VerificationMethod.id)
            ((methods other).map VerificationMethod.id) := by
        intro key hkey hjwk other hother hne
        rw [h.ids_web hkey hjwk (hweb key hkey hjwk), h.ids_plain hother hne,
          List.disjoint_singleton, List.mem_pair, plainId_eq_webKeyId_iff, plainId_eq_webKeyId_iff,
          not_or]
        exact ⟨hapart key hkey hjwk other hother 0 (by omega),
          hapart key hkey hjwk other hother 1 (by omega)⟩
      refine (List.pairwise_map.1 hkids).imp_of_mem ?_
      intro key other hkey hother hkid
      change List.Disjoint ((methods key).map VerificationMethod.id)
        ((methods other).map VerificationMethod.id)
      by_cases hjwk : encodingOf (km key.type) = .jwk <;>
        by_cases hjwk' : encodingOf (km other.type) = .jwk
      · refine absurd (congrArg IKey.kid ?_) hkid
        exact Option.some.inj ((hweb key hkey hjwk).symm.trans (hweb other hother hjwk'))
      · exact hwebPlain key hkey hjwk other hother hjwk'
      · exact List.Disjoint.symm (hwebPlain other hother hjwk' key hkey hjwk)
      · rw [h.ids_plain hkey hjwk, h.ids_plain hother hjwk', List.disjoint_singleton,
          List.mem_singleton, List.append_right_inj, List.cons_inj_right]
        exact Ne.symm hkid

end Document

/-- **The ids of a document are distinct and every key is published exactly when** the only key that
is mapped to `JsonWebKey2020` is the first Ed25519 key, no other key has the id of one of its web
keys, and only Ed25519 keys are mapped to the types of 2020. -/
theorem didDoc_ok_iff {lib : KeyLibrary} (hlib : lib.Lawful) {options : WebDidDocRouterOptions S}
    {identifier : IIdentifier S} {doc : DidDoc S} (hkids : (identifier.keys.map IKey.kid).Nodup)
    (h : didDocForIdentifier lib options identifier = .ok doc) :
    DocOk lib identifier doc ↔ Publishable options.km identifier.keys := by
  obtain ⟨methods, hmethods, hdoc, hid⟩ := didDocForIdentifier_eq_ok hlib h
  constructor
  · rintro ⟨hids, hpublished⟩
    have hkeys := fun key hkey =>
      (hmethods.published_iff hkids hdoc hid hkey).1 (hpublished key hkey)
    have hweb := fun key hkey => (hkeys key hkey).1
    rw [hdoc] at hids
    exact ⟨hweb, (hmethods.ids_nodup_iff hkids hweb).1 hids, fun key hkey => (hkeys key hkey).2⟩
  · rintro ⟨hweb, hapart, hmultibase⟩
    refine ⟨?_, fun key hkey => ?_⟩
    · rw [hdoc]
      exact (hmethods.ids_nodup_iff hkids hweb).2 hapart
    · exact (hmethods.published_iff hkids hdoc hid hkey).2 ⟨hweb key hkey, hmultibase key hkey⟩

/-! ### A rotated key -/

/-- The byte with these two hexadecimal digits. -/
def plainByte (a b : Char) : UInt8 :=
  UInt8.ofNat (16 * "0123456789abcdef".toList.idxOf a + "0123456789abcdef".toList.idxOf b)

/-- Bytes in hexadecimal digits. -/
def plainBytes : Text → Bytes
  | a :: b :: rest => plainByte a b :: plainBytes rest
  | _ => []

/-- The base point of Ed25519, in hexadecimal digits. -/
def basePoint : Text := "58".toList ++ (List.replicate 31 "66".toList).flatten

/-- A library that knows the conversion of the base point, which is 9. -/
def plainLibrary : KeyLibrary where
  hexToBytes hex := .ok (plainBytes hex)
  getDerivedKeyPairs publicKey :=
    if publicKey = plainBytes basePoint then
      .ok [⟨.Ed25519, publicKey⟩, ⟨.X25519, 9 :: List.replicate 31 0⟩]
    else .error (JsError.ofMessage "invalid public key".toList)

theorem plainLibrary_lawful : plainLibrary.Lawful where
  getDerivedKeyPairs_ok := by
    intro publicKey pairs h
    simp only [plainLibrary] at h
    split at h
    · exact ⟨_, (Except.ok.inj h).symm⟩
    · cases h

/-- A key. -/
def firstKey : IKey := ⟨"k1".toList, .Ed25519, basePoint⟩

/-- The key it is rotated to: the opposite point. -/
def secondKey : IKey :=
  ⟨"k2".toList, .Ed25519, "58".toList ++ (List.replicate 30 "66".toList).flatten ++ "e6".toList⟩

/-- An identifier with these keys. -/
def plainIdentifier (keys : List IKey) : IIdentifier Unit := ⟨"did:web:h".toList, keys, []⟩

/-- The mapping of the default configuration. -/
def webKeyOptions : WebDidDocRouterOptions Unit where
  services := []
  keyMapping
    | .Ed25519 => some jsonWebKey2020
    | _ => none

/-- The web keys of the first key. -/
def firstWebKeys : List VerificationMethod :=
  [⟨webKeyId "did:web:h".toList "k1".toList 0, jsonWebKey2020, "did:web:h".toList,
      .publicKeyJwk .Ed25519 (plainBytes basePoint)⟩,
    ⟨webKeyId "did:web:h".toList "k1".toList 1, jsonWebKey2020, "did:web:h".toList,
      .publicKeyJwk .X25519 (9 :: List.replicate 31 0)⟩]

/-- A key that is published in hexadecimal digits. -/
def recoveryKey : IKey := ⟨"k0".toList, .Secp256k1, "02c6".toList⟩

/-- A key that is published in base 58. -/
def agreementKey : IKey := ⟨"k3".toList, .X25519, "09".toList⟩

/-- Keys of three types, one of them published as web keys. -/
def mixedKeys : List IKey := [recoveryKey, firstKey, agreementKey]

theorem encodingOf_mixedKeys :
    encodingOf (webKeyOptions.km recoveryKey.type) = .hex ∧
      encodingOf (webKeyOptions.km agreementKey.type) = .base58 := by
  decide +kernel

/-- The only web key is the first one. -/
theorem eq_firstKey {key : IKey} (hkey : key ∈ mixedKeys)
    (htype : encodingOf (webKeyOptions.km key.type) ≠ .hex)
    (htype' : encodingOf (webKeyOptions.km key.type) ≠ .base58) : key = firstKey := by
  rcases List.mem_cons.1 hkey with heq | hkey
  · exact absurd (heq ▸ encodingOf_mixedKeys.1) htype
  · rcases List.mem_cons.1 hkey with heq | hkey
    · exact heq
    · exact absurd (List.mem_singleton.1 hkey ▸ encodingOf_mixedKeys.2) htype'

/-- No key has the id of a web key of the first one. -/
theorem kid_ne_webKey : ∀ i < 2, ∀ kid ∈ mixedKeys.map IKey.kid,
    kid ≠ firstKey.kid ++ "-key-".toList ++ Text.ofNat i := by
  decide +kernel

/-- The document of an identifier with these keys is in order. -/
theorem didDoc_ok_mixed : ∃ doc,
    didDocForIdentifier plainLibrary webKeyOptions (plainIdentifier mixedKeys) = .ok doc ∧
      DocOk plainLibrary (plainIdentifier mixedKeys) doc := by
  have hpublishable : Publishable webKeyOptions.km (plainIdentifier mixedKeys).keys := by
    refine ⟨?_, ?_, ?_⟩
    · intro key hkey hjwk
      obtain rfl := eq_firstKey hkey (by rw [hjwk]; decide) (by rw [hjwk]; decide)
      rfl
    · intro key hkey hjwk other hother i hi
      obtain rfl := eq_firstKey hkey (by rw [hjwk]; decide) (by rw [hjwk]; decide)
      exact kid_ne_webKey i hi other.kid (List.mem_map_of_mem hother)
    · intro key hkey hmultibase
      obtain rfl := eq_firstKey hkey (by rw [hmultibase]; decide) (by rw [hmultibase]; decide)
      rfl
  have hkids : ((plainIdentifier mixedKeys).keys.map IKey.kid).Nodup := by decide +kernel
  exact ⟨_, rfl, (didDoc_ok_iff plainLibrary_lawful hkids rfl).2 hpublishable⟩

/-- **A document in which two methods share an id and one key is missing**: both keys are published
as the web keys of the first one. -/
theorem didDoc_rotated : ∃ doc,
    didDocForIdentifier plainLibrary webKeyOptions (plainIdentifier [firstKey, secondKey]) =
      .ok doc ∧
    doc.verificationMethod = firstWebKeys ++ firstWebKeys ∧
    ¬(doc.verificationMethod.map VerificationMethod.id).Nodup ∧
    ¬Published plainLibrary doc secondKey := by
  have hids : ¬((firstWebKeys ++ firstWebKeys).map VerificationMethod.id).Nodup := by
    simp [firstWebKeys]
  refine ⟨_, rfl, rfl, hids, ?_⟩
  rintro ⟨method, hmem, hderived, -⟩
  have hweb : method.type = jsonWebKey2020 ∧
      ∃ i, method.id = webKeyId "did:web:h".toList "k1".toList i := by
    change method ∈ firstWebKeys ++ firstWebKeys at hmem
    rw [List.mem_append, or_self, firstWebKeys, List.mem_pair] at hmem
    rcases hmem with rfl | rfl
    · exact ⟨rfl, 0, rfl⟩
    · exact ⟨rfl, 1, rfl⟩
  obtain ⟨htype, i, hid⟩ := hweb
  rw [IdDerived, if_pos htype] at hderived
  obtain ⟨j, hj⟩ := hderived
  exact absurd (webKeyId_inj.1 (hid.symm.trans hj)).1 (by decide)

end WebDid
