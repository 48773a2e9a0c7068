/-
**What the keys of a DID document may be used for.**

`didDocForIdentifier` lists the id of a verification method under `authentication`,
`assertionMethod` and `keyAgreement` by the type of the method alone.  The only type that it takes
for key agreement and not for signing is `X25519KeyAgreementKey2019`.  So an X25519 key that is
published as `X25519KeyAgreementKey2020` or as `JsonWebKey2020`, a type that does not name the
curve, is listed as a signing key and not for key agreement.

Main definitions:

* `WebDid.HoldsX25519` — a verification method holds an X25519 key;
* `WebDid.PurposesOk` — what the lists of a document should say;
* `WebDid.Separates` — the keys and mappings for which they do.

Main results:

* `WebDid.purposesOk_iff` — **the lists of a document are right exactly for these**;
* `WebDid.not_purposesOk_webKey` — the document of the default configuration lists an X25519 key as
  a signing key.
-/

import Vckit.WebDidDoc

set_option relaxedAutoImplicit false
set_option autoImplicit false

namespace WebDid

variable {S : Type}

/-! ### X25519 keys -/

/-- `X25519KeyAgreementKey2019`. -/
def x25519KeyAgreementKey2019 : Text := "X25519KeyAgreementKey2019".toList

/-- The curve of the key that a method of a managed key holds: a web key has its own. -/
def curveOf (key : IKey) : KeyMaterial → TKeyType
  | .publicKeyJwk crv _ => crv
  | _ => key.type

/-- A verification method holds an X25519 key: it is a method of a managed key, and the key it holds
is of this curve. -/
def HoldsX25519 (lib : KeyLibrary) (km : TKeyType → Text) (identifier : IIdentifier S)
    (method : VerificationMethod) : Prop :=
  ∃ key ∈ identifier.keys, ∃ methods, verificationMethodsOf lib km identifier key = .ok methods ∧
    method ∈ methods ∧ curveOf key method.material = .X25519

/-- What the lists of a document should say. -/
structure PurposesOk (lib : KeyLibrary) (km : TKeyType → Text) (identifier : IIdentifier S)
    (doc : DidDoc S) : Prop where
  /-- X25519 keys do not sign. -/
  noSigning : ∀ method ∈ doc.verificationMethod, HoldsX25519 lib km identifier method →
    method.id ∉ doc.authentication ∧ method.id ∉ doc.assertionMethod
  /-- X25519 keys are for key agreement. -/
  agreement : ∀ method ∈ doc.verificationMethod, HoldsX25519 lib km identifier method →
    method.id ∈ doc.keyAgreement
  /-- Every id that is listed is that of a method of the document. -/
  known : ∀ id ∈ doc.authentication ++ doc.assertionMethod ++ doc.keyAgreement,
    ∃ method ∈ doc.verificationMethod, method.id = id

/-- **The keys and mappings that keep key agreement apart from signing.** -/
structure Separates (km : TKeyType → Text) (keys : List IKey) : Prop where
  /-- No key is mapped to `JsonWebKey2020`. -/
  noWebKey : ∀ key ∈ keys, km key.type ≠ jsonWebKey2020
  /-- An X25519 key, and any key under its id, is published with the type of 2019. -/
  agreement : ∀ key ∈ keys, key.type = .X25519 → ∀ other ∈ keys, other.kid = key.kid →
    km other.type = x25519KeyAgreementKey2019

/-- The methods of a key that is not published as a web key hold that key. -/
theorem curveOf_of_mem_verificationMethodsOf {lib : KeyLibrary} {km : TKeyType → Text}
    {identifier : IIdentifier S} {key : IKey} {methods : List VerificationMethod}
    (h : verificationMethodsOf lib km identifier key = .ok methods)
    (hne : encodingOf (km key.type) ≠ .jwk) {method : VerificationMethod}
    (hmethod : method ∈ methods) : curveOf key method.material = key.type := by
  rw [verificationMethodsOf] at h
  cases hencoding : encodingOf (km key.type) with
  | hex =>
      rw [hencoding] at h
      obtain rfl := Except.ok.inj h
      obtain rfl := List.mem_singleton.1 hmethod
      rfl
  | base58 =>
      rw [hencoding] at h
      cases hbytes : lib.hexToBytes key.publicKeyHex with
      | error e =>
          rw [hbytes] at h
          cases h
      | ok bytes =>
          rw [hbytes] at h
          obtain rfl := Except.ok.inj h
          obtain rfl := List.mem_singleton.1 hmethod
          rfl
  | multibase =>
      rw [hencoding] at h
      cases hbytes : lib.hexToBytes key.publicKeyHex with
      | error e =>
          rw [hbytes] at h
          cases h
      | ok bytes =>
          rw [hbytes] at h
          obtain rfl := Except.ok.inj h
          obtain rfl := List.mem_singleton.1 hmethod
          rfl
  | jwk => exact absurd hencoding hne

theorem encodingOf_ne_jwk {type : Text} (h : type ≠ jsonWebKey2020) : encodingOf type ≠ .jwk :=
  fun hjwk => h (encodingOf_eq_jwk_iff.1 hjwk)

/-! ### The lists of a document -/

section Lists

variable {lib : KeyLibrary} {options : WebDidDocRouterOptions S} {identifier : IIdentifier S}
  {methods : IKey → List VerificationMethod} {doc : DidDoc S}

/-- An id is listed for signing exactly when a method with this id has another type than that of
2019. -/
theorem DocOf.mem_authentication_iff (hdoc : DocOf lib options identifier methods doc) {id : Text} :
    id ∈ doc.authentication ↔ ∃ method ∈ doc.verificationMethod,
      method.type ≠ x25519KeyAgreementKey2019 ∧ method.id = id := by
  rw [hdoc.authentication, List.mem_map]
  constructor
  · rintro ⟨method, hmethod, hid⟩
    obtain ⟨hmem, htype⟩ := List.mem_filter.1 hmethod
    exact ⟨method, hmem, of_decide_eq_true htype, hid⟩
  · rintro ⟨method, hmem, htype, hid⟩
    exact ⟨method, List.mem_filter.2 ⟨hmem, decide_eq_true htype⟩, hid⟩

/-- A method of the type of 2019 is listed for key agreement. -/
theorem DocOf.mem_keyAgreement (hdoc : DocOf lib options identifier methods doc)
    {method : VerificationMethod} (hmem : method ∈ doc.verificationMethod)
    (htype : method.type = x25519KeyAgreementKey2019) : method.id ∈ doc.keyAgreement := by
  rw [hdoc.keyAgreement]
  refine List.mem_map.2 ⟨method, List.mem_filter.2 ⟨hmem, ?_⟩, rfl⟩
  rw [htype]
  exact List.contains_iff_mem.2 (List.mem_cons_of_mem _ (List.mem_singleton_self _))

/-- Every id that is listed is that of a method of the document. -/
theorem DocOf.known (hdoc : DocOf lib options identifier methods doc) {id : Text}
    (hid : id ∈ doc.authentication ++ doc.assertionMethod ++ doc.keyAgreement) :
    ∃ method ∈ doc.verificationMethod, method.id = id := by
  rw [hdoc.assertionMethod, List.mem_append, List.mem_append, or_self] at hid
  rcases hid with hid | hid
  · obtain ⟨method, hmem, -, hid⟩ := hdoc.mem_authentication_iff.1 hid
    exact ⟨method, hmem, hid⟩
  · rw [hdoc.keyAgreement] at hid
    obtain ⟨method, hmethod, hid⟩ := List.mem_map.1 hid
    exact ⟨method, (List.mem_filter.1 hmethod).1, hid⟩

/-- The methods of a key are methods of the document. -/
theorem DocOf.mem_verificationMethod (hdoc : DocOf lib options identifier methods doc) {key : IKey}
    (hkey : key ∈ identifier.keys) {method : VerificationMethod} (hmethod : method ∈ methods key) :
    method ∈ doc.verificationMethod := by
  rw [hdoc.verificationMethod]
  exact List.mem_flatMap.2 ⟨key, hkey, hmethod⟩

/-- A key that is no web key has one method, under its own id. -/
theorem DocOf.methods_plain (hdoc : DocOf lib options identifier methods doc) {key : IKey}
    (hkey : key ∈ identifier.keys) (hne : options.km key.type ≠ jsonWebKey2020) :
    ∃ material, methods key =
      [methodOf identifier.did (options.km key.type) key material] := by
  obtain ⟨material, hmethods, -⟩ :=
    verificationMethodsOf_eq_ok (hdoc.methods_ok key hkey) (encodingOf_ne_jwk hne)
  exact ⟨material, hmethods⟩

/-- A key that is published as a web key brings an X25519 key of that type. -/
theorem DocOf.exists_webKey (hdoc : DocOf lib options identifier methods doc) (hlib : lib.Lawful)
    {key : IKey} (hkey : key ∈ identifier.keys) (hweb : options.km key.type = jsonWebKey2020) :
    ∃ method ∈ doc.verificationMethod, HoldsX25519 lib options.km identifier method ∧
      method.type ≠ x25519KeyAgreementKey2019 := by
  have hmethods := hdoc.methods_ok key hkey
  rw [verificationMethodsOf, encodingOf_eq_jwk_iff.2 hweb] at hmethods
  obtain ⟨first, bytes, converted, -, -, heq⟩ := webKeysForIdentifier_eq_ok hlib hmethods
  have hmem : (⟨webKeyId identifier.did first.kid 1, jsonWebKey2020, identifier.did,
      .publicKeyJwk .X25519 converted⟩ : VerificationMethod) ∈ methods key := by
    rw [heq]
    exact List.mem_cons_of_mem _ (List.mem_singleton_self _)
  have htype : jsonWebKey2020 ≠ x25519KeyAgreementKey2019 := by decide +kernel
  refine ⟨_, hdoc.mem_verificationMethod hkey hmem, ?_, htype⟩
  exact ⟨key, hkey, methods key, hdoc.methods_ok key hkey, hmem, rfl⟩

/-- If key agreement is kept apart, then a method with the id of an X25519 key has the type of
2019. -/
theorem DocOf.type_of_separates (hdoc : DocOf lib options identifier methods doc)
    (hsep : Separates options.km identifier.keys) {held method : VerificationMethod}
    (hheld : HoldsX25519 lib options.km identifier held) (hmem : method ∈ doc.verificationMethod)
    (hid : method.id = held.id) : method.type = x25519KeyAgreementKey2019 := by
  obtain ⟨key, hkey, heldMethods, hok, hheldMem, hcurve⟩ := hheld
  have hne := hsep.noWebKey key hkey
  rw [curveOf_of_mem_verificationMethodsOf hok (encodingOf_ne_jwk hne) hheldMem] at hcurve
  obtain ⟨material, rfl, -⟩ := verificationMethodsOf_eq_ok hok (encodingOf_ne_jwk hne)
  obtain rfl := List.mem_singleton.1 hheldMem
  rw [hdoc.verificationMethod] at hmem
  obtain ⟨other, hother, hmethod⟩ := List.mem_flatMap.1 hmem
  obtain ⟨otherMaterial, hmethods⟩ := hdoc.methods_plain hother (hsep.noWebKey other hother)
  rw [hmethods, List.mem_singleton] at hmethod
  subst hmethod
  rw [methodOf, methodOf, List.append_right_inj, List.cons_inj_right] at hid
  exact hsep.agreement key hkey hcurve other hother hid

end Lists

/-- **The lists of a document are right exactly when** no key is published as a web key, and every
key under the id of an X25519 key is published with the type of 2019. -/
theorem purposesOk_iff {lib : KeyLibrary} (hlib : lib.Lawful) {options : WebDidDocRouterOptions S}
    {identifier : IIdentifier S} {doc : DidDoc S}
    (h : didDocForIdentifier lib options identifier = .ok doc) :
    PurposesOk lib options.km identifier doc ↔ Separates options.km identifier.keys := by
  obtain ⟨methods, hdoc⟩ := exists_docOf h
  constructor
  · rintro ⟨hnoSigning, -, -⟩
    have hnoWebKey : ∀ key ∈ identifier.keys, options.km key.type ≠ jsonWebKey2020 := by
      intro key hkey hweb
      obtain ⟨method, hmem, hheld, htype⟩ := hdoc.exists_webKey hlib hkey hweb
      exact (hnoSigning method hmem hheld).1
        (hdoc.mem_authentication_iff.2 ⟨method, hmem, htype, rfl⟩)
    refine ⟨hnoWebKey, ?_⟩
    intro key hkey hx25519 other hother hkid
    by_contra htype
    obtain ⟨material, hmethods⟩ := hdoc.methods_plain hkey (hnoWebKey key hkey)
    obtain ⟨otherMaterial, hotherMethods⟩ := hdoc.methods_plain hother (hnoWebKey other hother)
    have hheldMem : methodOf identifier.did (options.km key.type) key material ∈ methods key := by
      rw [hmethods]
      exact List.mem_singleton_self _
    have hotherMem : methodOf identifier.did (options.km other.type) other otherMaterial ∈
        methods other := by
      rw [hotherMethods]
      exact List.mem_singleton_self _
    have hheld : HoldsX25519 lib options.km identifier
        (methodOf identifier.did (options.km key.type) key material) := by
      refine ⟨key, hkey, methods key, hdoc.methods_ok key hkey, hheldMem, ?_⟩
      rw [curveOf_of_mem_verificationMethodsOf (hdoc.methods_ok key hkey)
        (encodingOf_ne_jwk (hnoWebKey key hkey)) hheldMem, hx25519]
    refine (hnoSigning _ (hdoc.mem_verificationMethod hkey hheldMem) hheld).1 ?_
    refine hdoc.mem_authentication_iff.2
      ⟨_, hdoc.mem_verificationMethod hother hotherMem, htype, ?_⟩
    rw [methodOf, methodOf, hkid]
  · intro hsep
    refine ⟨?_, ?_, fun id hid => hdoc.known hid⟩
    · intro method hmem hheld
      rw [hdoc.assertionMethod, and_self, hdoc.mem_authentication_iff]
      rintro ⟨other, hother, htype, hid⟩
      exact htype (hdoc.type_of_separates hsep hheld hother hid)
    · intro method hmem hheld
      exact hdoc.mem_keyAgreement hmem (hdoc.type_of_separates hsep hheld hmem rfl)

/-- The document of an identifier with an Ed25519 and an X25519 key, with the default mapping. -/
theorem purposesOk_default : ∃ doc,
    didDocForIdentifier plainLibrary ⟨[], fun _ => none⟩
      (plainIdentifier [firstKey, ⟨"x1".toList, .X25519, "09".toList⟩]) = .ok doc ∧
    PurposesOk plainLibrary (WebDidDocRouterOptions.km (S := Unit) ⟨[], fun _ => none⟩)
      (plainIdentifier [firstKey, ⟨"x1".toList, .X25519, "09".toList⟩]) doc := by
  refine ⟨_, rfl, (purposesOk_iff plainLibrary_lawful rfl).2 ⟨?_, ?_⟩⟩
  · intro key hkey
    rcases List.mem_pair.1 hkey with rfl | rfl <;> decide +kernel
  · intro key hkey hx25519 other hother hkid
    rcases List.mem_pair.1 hkey with rfl | rfl
    · cases hx25519
    · rcases List.mem_pair.1 hother with rfl | rfl
      · exact absurd hkid (by decide +kernel)
      · rfl

/-- **The document of the default configuration lists the derived X25519 key as a signing key**, and
not for key agreement. -/
theorem not_purposesOk_webKey : ∃ doc,
    didDocForIdentifier plainLibrary webKeyOptions (plainIdentifier [firstKey]) = .ok doc ∧
    webKeyId "did:web:h".toList "k1".toList 1 ∈ doc.authentication ∧ doc.keyAgreement = [] ∧
    ¬PurposesOk plainLibrary webKeyOptions.km (plainIdentifier [firstKey]) doc := by
  refine ⟨_, rfl, by decide +kernel, by decide +kernel, ?_⟩
  rintro ⟨-, hagreement, -⟩
  have hheld : HoldsX25519 plainLibrary webKeyOptions.km (plainIdentifier [firstKey])
      ⟨webKeyId "did:web:h".toList "k1".toList 1, jsonWebKey2020, "did:web:h".toList,
        .publicKeyJwk .X25519 (9 :: List.replicate 31 0)⟩ :=
    ⟨firstKey, List.mem_singleton_self _, firstWebKeys, rfl,
      List.mem_cons_of_mem _ (List.mem_singleton_self _), rfl⟩
  exact absurd (hagreement _ (List.mem_cons_of_mem _ (List.mem_singleton_self _)) hheld)
    List.not_mem_nil

end WebDid
