/-
**The URL of a status list and its two readers.**

An allocation returns the base path followed by the path of the list.  A status change gets the
path back by splitting the URL at the base path; the router gets it as the request target of
whoever fetches the URL.  When the base path is an origin and the issuer a DID, both find the path
that the list is stored under: the base path holds a colon and the list path holds none, and the
characters of a DID, its percent escapes among them, are sent as they are.

Main definitions:

* `Revocation.DecodedTo` — what the two readers find in a URL.

Main results:

* `Revocation.decodedTo_listPath` — both readers find the path of the list;
* `Revocation.statusUrl_decoded` — **both readers find the path under which the list of an
  allocation is stored**.
-/

import Vckit.Did
import Vckit.Url
import Vckit.StoreInvariant
import Vckit.RevocationInstance

set_option relaxedAutoImplicit false
set_option autoImplicit false

namespace Revocation

variable {did : Text}

/-! ### The path of a list -/

/-- The characters of a DID are sent as they are. -/
theorem isPathChar_of_isDidChar {c : Char} (h : Did.isDidChar c) :
    Url.isPathChar (Text.replaceChar ':' '_' c) ∧
      Url.isSlash (Text.replaceChar ':' '_' c) = false := by
  simp only [Did.isDidChar, Did.isIdChar, Bool.or_eq_true, decide_eq_true_eq] at h
  rcases h with ((((h | rfl) | rfl) | rfl) | rfl) | rfl
  · have hcolon : c ≠ ':' := by
      rintro rfl
      exact absurd h (by decide)
    rw [Text.replaceChar, if_neg hcolon]
    exact Url.isPathChar_of_isAlphanum h
  all_goals decide

/-- The digits of a counter are sent as they are. -/
theorem isPathChar_of_mem_ofNat {c : Char} {n : ℕ} (h : c ∈ Text.ofNat n) :
    Url.isPathChar c ∧ Url.isSlash c = false := by
  have hdigit := Nat.isDigit_of_mem_toDigits (by omega) (by omega) h
  exact Url.isPathChar_of_isAlphanum (by simp [Char.isAlphanum, hdigit])

/-- The segments of a list path before the issuer. -/
def listPathSegments : List Text :=
  ["credentials".toList, "status".toList, "revocation-list-2020".toList]

/-- A list path without its first slash. -/
def listPathTail (did : Text) (n : ℕ) : Text :=
  "credentials/status/revocation-list-2020/".toList ++ Text.replaceAll ':' '_' did ++
    '/' :: Text.ofNat n

theorem listPath_eq_cons (did : Text) (n : ℕ) : listPath did n = '/' :: listPathTail did n := rfl

/-- A list path, cut at its slashes. -/
theorem splitOnP_listPathTail (hdid : ∀ c ∈ did, Did.isDidChar c) (n : ℕ) :
    (listPathTail did n).splitOnP Url.isSlash =
      listPathSegments ++ [Text.replaceAll ':' '_' did, Text.ofNat n] := by
  have hissuer : ∀ c ∈ Text.replaceAll ':' '_' did, Url.isSlash c = false := by
    intro c hc
    obtain ⟨d, hd, rfl⟩ := List.mem_map.1 hc
    exact (isPathChar_of_isDidChar (hdid d hd)).2
  have hcounter : ∀ c ∈ Text.ofNat n, Url.isSlash c = false :=
    fun c hc => (isPathChar_of_mem_ofNat hc).2
  have hfixed : "credentials/status/revocation-list-2020".toList.splitOnP Url.isSlash =
      listPathSegments := by decide
  have hslash : Url.isSlash '/' = true := rfl
  have hcut : listPathTail did n = "credentials/status/revocation-list-2020".toList ++
      '/' :: (Text.replaceAll ':' '_' did ++ '/' :: Text.ofNat n) := rfl
  rw [hcut, List.splitOnP_append_cons _ _ hslash, hfixed,
    List.splitOnP_append_cons_of_forall_mem hissuer _ hslash,
    List.splitOnP_eq_singleton hcounter]

/-- **The request target of a list URL is the path of the list.** -/
theorem requestTarget_listPath (origin : Url.Origin) (hdid : Did.IsDid did) (n : ℕ) :
    Url.requestTarget (origin.text ++ listPath did n) = some (listPath did n) := by
  rw [listPath_eq_cons]
  refine Url.requestTarget_origin_append origin (p := listPathTail did n) ?_ ?_
  · have hfixed : "credentials/status/revocation-list-2020/".toList.all Url.isPathChar = true := rfl
    intro c hc
    rcases List.mem_append.1 hc with hc | hc
    · rcases List.mem_append.1 hc with hc | hc
      · exact List.all_eq_true.1 hfixed c hc
      · obtain ⟨d, hd, rfl⟩ := List.mem_map.1 hc
        exact (isPathChar_of_isDidChar (hdid.isDidChar d hd)).1
    · rcases List.mem_cons.1 hc with rfl | hc
      · rfl
      · exact (isPathChar_of_mem_ofNat hc).1
  · have hfixed : ∀ s ∈ listPathSegments, ¬Url.IsDotSegment s := by decide
    rw [splitOnP_listPathTail hdid.isDidChar n]
    intro s hs
    rw [List.mem_append, List.mem_pair] at hs
    rcases hs with hs | rfl | rfl
    · exact hfixed s hs
    · obtain ⟨t, rfl⟩ := hdid.exists_cons
      exact Url.not_isDotSegment_cons (c := 'd') (by decide) (by decide)
    · obtain ⟨c, t, hcounter⟩ := List.exists_cons_of_ne_nil (Text.ofNat_ne_nil n)
      have hc : c ∈ Text.ofNat n := by
        rw [hcounter]
        exact List.mem_cons_self
      rw [hcounter]
      refine Url.not_isDotSegment_cons ?_ ?_
      · rintro rfl
        exact Text.not_mem_ofNat (by decide) n hc
      · rintro rfl
        exact Text.not_mem_ofNat (by decide) n hc

/-! ### The two readers -/

/-- What is read from a URL: splitting a status entry's `id` at the base path and the request target
of a fetch both give `path`. -/
structure DecodedTo (revocationListPath url path : Text) : Prop where
  split : ∀ entry : CredentialStatusEntry, entry.id = url →
    splitStatusId revocationListPath ⟨some entry⟩ = .ok (some path)
  target : Url.requestTarget url = some path

/-- Both readers find the path of the list. -/
theorem decodedTo_listPath (origin : Url.Origin) (hdid : Did.IsDid did) (n : ℕ) :
    DecodedTo origin.text (origin.text ++ listPath did n) (listPath did n) where
  split := by
    rintro entry hid
    rw [splitStatusId]
    dsimp only
    rw [hid, Text.split_self_append origin.colon_mem (colon_not_mem_listPath did n)]
    rfl
  target := requestTarget_listPath origin hdid n

/-- **Both readers find the path under which the list of an allocation is stored**, whatever the
tables held before: the path is the one derived from the issuer and the list counter, every such
path is found again, and the row of the issuer with that path exists. -/
theorem statusUrl_decoded (origin : Url.Origin) (hdid : Did.IsDid did) :
    (∀ n, DecodedTo origin.text (origin.text ++ listPath did n) (listPath did n)) ∧
    ∀ (lib : VcStatusRl2020) (env : Env) (args : IRevocationListDataArgs) (db db' : Db)
      (result : RevocationDataResult),
      args.revocationListPath = origin.text →
      env.didManagerGet args.revocationVCIssuer = .ok ⟨did⟩ →
      Prog.run (serve env) (issueRevocationData lib args) db = (.ok result, db') →
      ∃ n row, result.revocationListFullUrl = origin.text ++ listPath did n ∧
        db'.lists.lookup ⟨listPath did n, did⟩ = some row ∧
        DecodedTo origin.text result.revocationListFullUrl row.revocationListFullUrlPath := by
  refine ⟨decodedTo_listPath origin hdid, ?_⟩
  intro lib env args db db' result hpath hget hrun
  have hend := run_issueRevocationData lib env args db
  rw [hrun] at hend
  cases hend with
  | @issued did' data lists _ _ hget' _ hlists =>
      rw [hget] at hget'
      obtain rfl : did = did' := congrArg Identifier.did (Except.ok.inj hget')
      obtain ⟨row, hrow⟩ := hlists.exists_iff.2 (Or.inr ⟨rfl, rfl⟩)
      have hkey : row.revocationListFullUrlPath = listPath did data.listCounter :=
        congrArg ListKey.revocationListFullUrlPath (Table.lookup_eq_some_iff.1 hrow).2
      refine ⟨data.listCounter, row, by rw [← hpath], hrow, ?_⟩
      rw [hkey, hpath]
      exact decodedTo_listPath origin hdid data.listCounter

/-- The base path `https://h`. -/
def plainOrigin : Url.Origin where
  scheme := "https".toList
  authority := "h".toList
  scheme_ne_nil := by decide
  scheme_chars := List.all_eq_true.1 rfl
  authority_ne_nil := by decide
  authority_chars := List.all_eq_true.1 rfl

/-- A DID whose identifier holds a colon and an escape. -/
def portDid : Text := "did:web:a%3A80:b".toList

theorem isDid_portDid : Did.IsDid portDid := by
  have hescape : Did.IdChars "a%3A80".toList :=
    .char rfl (.escape rfl rfl (.char rfl (.char rfl .nil)))
  have hlast : Did.IdChars "b".toList := .char rfl .nil
  have hdid : Did.IsDid ("did:".toList ++ "web".toList ++
      ':' :: (["a%3A80".toList].flatMap (fun id => id ++ [':']) ++ "b".toList)) :=
    .mk (by decide) (List.all_eq_true.1 rfl) (by simpa using hescape) hlast (by decide)
  exact hdid

/-- The first allocation of that issuer: the URL that is returned is decoded to the path of the
list. -/
theorem statusUrl_decoded_port :
    (Prog.run (serve (plainEnv [portDid] []))
      (issueRevocationData plainLib ⟨plainPath, 2, portDid, ⟨true⟩⟩) Db.empty).1 =
        .ok ⟨"https://h/credentials/status/revocation-list-2020/did_web_a%3A80_b/0".toList, 0⟩ ∧
    DecodedTo plainPath
      "https://h/credentials/status/revocation-list-2020/did_web_a%3A80_b/0".toList
      "/credentials/status/revocation-list-2020/did_web_a%3A80_b/0".toList := by
  obtain ⟨hdecoded, hissued⟩ := statusUrl_decoded plainOrigin isDid_portDid
  have hrun : (Prog.run (serve (plainEnv [portDid] []))
      (issueRevocationData plainLib ⟨plainPath, 2, portDid, ⟨true⟩⟩) Db.empty).1 =
        .ok ⟨"https://h/credentials/status/revocation-list-2020/did_web_a%3A80_b/0".toList, 0⟩ := by
    decide +kernel
  obtain ⟨n, row, -, -, -⟩ := hissued plainLib (plainEnv [portDid] [])
    ⟨plainPath, 2, portDid, ⟨true⟩⟩ Db.empty _ _ rfl rfl (Prod.ext hrun rfl)
  exact ⟨hrun, hdecoded 0⟩

end Revocation
