/-
**The routes of `WebDidDocRouter`.**

A `did:web` DID names a host, with an escaped port if it has one, and segments of a path.  The URL
that it stands for has the segments as its path, as they are written in the DID.  The router goes
the other way: it escapes the `Host` header, and takes the segments from the path after the
framework has decoded it.  It does not escape them again, so a segment with a percent escape is
looked up under another DID, and one with an escaped slash under a DID with more segments.  And a
path that consists of `.well-known` alone is taken for that of the host.

Requests are `GET` requests.

Main definitions:

* `WebDid.lookupFor` — the DID that is looked up for a request;
* `WebDid.serve` — what the router does with a request;
* `WebDid.HostedDid`, `WebDid.HostedDid.request` — DIDs, and the request for the document of one;
* `WebDid.HostedDid.Canonical` — the DIDs that the router finds again;
* `WebDid.Producible` — the keys and mappings for which there is a document.

Main results:

* `WebDid.lookupFor_request_iff` — the router looks up the DID of a request exactly for these;
* `WebDid.served_iff` — **it serves the document of the DID exactly for these**;
* `WebDid.served_other` — a request for one DID that is answered with the document of another.
-/

import Vckit.Did
import Vckit.Express
import Vckit.UriComponent
import Vckit.WebDidDoc

set_option relaxedAutoImplicit false
set_option autoImplicit false

namespace WebDid

variable {S : Type}

/-! ### The code -/

/-- A `GET` request: its path, its `Host` header, which is empty if there is none, and what the
framework takes for the name of the host. -/
structure Request where
  path : Text
  host : Text
  hostname : Text

/-- The URL path to the DID document, when the identifier is a hostname. -/
def didDocEndpoint : Text := "/.well-known/did.json".toList

/-- `getAliasForRequest`. -/
def getAliasForRequest (req : Request) : Text :=
  Uri.encodeURIComponent (if req.host ≠ [] then req.host else req.hostname)

/-- The characters that `.` does not match. -/
def isLineTerminator (c : Char) : Bool := [0x0a, 0x0d, 0x2028, 0x2029].contains c.toNat

/-- What `/^\/(.+)\/did.json$/` captures of a path: the last nine characters are `/did`, any
character, and `json`. -/
def didJsonCapture : Text → Option Text
  | [] => none
  | c :: rest =>
      let captured := rest.take (rest.length - 9)
      let tail := rest.drop (rest.length - 9)
      if c = '/' ∧ captured ≠ [] ∧ tail.take 4 = "/did".toList ∧ tail.drop 5 = "json".toList ∧
          rest.all (fun c => !isLineTerminator c) then
        some captured
      else none

/-- What the DIDs of the method start with. -/
def didWeb : Text := "did:web:".toList

/-- How the router starts on a request. -/
inductive Lookup where
  /-- No route accepts the path. -/
  | next
  /-- The framework cannot decode the path. -/
  | badRequest
  /-- A DID is looked up. -/
  | did (did : Text)
  deriving DecidableEq

/-- The DID that the routes look up for a request. -/
def lookupFor (req : Request) : Lookup :=
  if Express.defaultMatcher didDocEndpoint req.path then
    .did (didWeb ++ getAliasForRequest req)
  else
    match didJsonCapture req.path with
    | none => .next
    | some captured =>
        match Uri.decodeURIComponent captured with
        | none => .badRequest
        | some params => .did (didWeb ++ getAliasForRequest req ++
            ':' :: Text.replaceAll '/' ':' params)

/-- The answer to a request. -/
inductive Reply (S : Type) where
  | json (doc : DidDoc S)
  | notFound (e : JsError)
  | badRequest
  /-- The router does not answer, and the next one has its turn. -/
  | next
  /-- Nobody answers. -/
  | pending

/-- The answer with a document, if there is one. -/
def replyOf : Except JsError (DidDoc S) → Reply S
  | .ok doc => .json doc
  | .error e => .notFound e

/-- The DIDs that are looked up, and the answer. -/
structure Served (S : Type) where
  lookedUp : List Text
  reply : Reply S

/-- What the router does with a request, for an agent that may be missing. -/
def serve (lib : KeyLibrary) (options : WebDidDocRouterOptions S)
    (agent : Option (Text → Except JsError (IIdentifier S))) (req : Request) : Served S :=
  match lookupFor req with
  | .next => ⟨[], .next⟩
  | .badRequest => ⟨[], .badRequest⟩
  | .did did =>
      match agent with
      | none => ⟨[], .pending⟩
      | some didManagerGet =>
          ⟨[did], replyOf (didManagerGet did >>= didDocForIdentifier lib options)⟩

/-! ### DIDs and their requests -/

/-- A port, after an escaped colon. -/
structure Port where
  colon : Text
  digits : Text
  colon_eq : colon = "%3A".toList ∨ colon = "%3a".toList
  digits_isDigit : ∀ c ∈ digits, c.isDigit

/-- A `did:web` DID.  Segments may be empty, but the last one is not. -/
structure HostedDid where
  domain : Text
  port : Option Port
  segments : List Text
  domain_ne : domain ≠ []
  domain_chars : ∀ c ∈ domain, Did.isIdChar c
  segments_chars : ∀ s ∈ segments, Did.IdChars s
  segments_last : ∀ s ∈ segments.getLast?, s ≠ []

namespace HostedDid

/-- The host in the DID. -/
def host (d : HostedDid) : Text := d.domain ++ d.port.elim [] fun port => port.colon ++ port.digits

/-- The `Host` header. -/
def hostHeader (d : HostedDid) : Text := d.domain ++ d.port.elim [] fun port => ':' :: port.digits

/-- The DID as text. -/
def text (d : HostedDid) : Text :=
  didWeb ++ d.host ++ d.segments.flatMap fun s => ':' :: s

/-- The path of the URL. -/
def path (d : HostedDid) : Text :=
  if d.segments = [] then didDocEndpoint
  else (d.segments.flatMap fun s => '/' :: s) ++ "/did.json".toList

/-- The request for the document of a DID. -/
def request (d : HostedDid) : Request := ⟨d.path, d.hostHeader, d.domain⟩

/-- **The DIDs that the router finds again.** -/
structure Canonical (d : HostedDid) : Prop where
  /-- The colon before the port is escaped as `encodeURIComponent` does it. -/
  port : ∀ port ∈ d.port, port.colon = "%3A".toList
  /-- No segment holds a percent escape. -/
  segments : ∀ s ∈ d.segments, '%' ∉ s
  /-- The path does not consist of `.well-known`, in whatever letter case. -/
  notWellKnown : ∀ s, d.segments = [s] → Express.foldCase s ≠ ".well-known".toList

/-! ### The host -/

theorem isComponentChar_of_isIdChar {c : Char} (h : Did.isIdChar c) : Uri.isComponentChar c := by
  simp only [Did.isIdChar, Bool.or_eq_true, decide_eq_true_eq] at h
  rcases h with ((h | rfl) | rfl) | rfl
  · simp [Uri.isComponentChar, h]
  all_goals rfl

theorem isIdChar_of_isDigit {c : Char} (h : c.isDigit) : Did.isIdChar c := by
  simp [Did.isIdChar, Char.isAlphanum, h]

/-- The `Host` header, escaped. -/
theorem encodeURIComponent_hostHeader (d : HostedDid) : Uri.encodeURIComponent d.hostHeader =
    d.domain ++ d.port.elim [] fun port => "%3A".toList ++ port.digits := by
  have hdomain : Uri.encodeURIComponent d.domain = d.domain :=
    Uri.encodeURIComponent_of_forall fun c hc => isComponentChar_of_isIdChar (d.domain_chars c hc)
  rw [hostHeader, Uri.encodeURIComponent_append, hdomain]
  cases d.port with
  | none => rfl
  | some port =>
      have hdigits : Uri.encodeURIComponent port.digits = port.digits :=
        Uri.encodeURIComponent_of_forall fun c hc =>
          isComponentChar_of_isIdChar (isIdChar_of_isDigit (port.digits_isDigit c hc))
      have hcolon : ∀ s, Uri.encodeURIComponent (':' :: s) =
          "%3A".toList ++ Uri.encodeURIComponent s := fun s => rfl
      rw [Option.elim_some, Option.elim_some, hcolon, hdigits]

theorem hostHeader_ne_nil (d : HostedDid) : d.hostHeader ≠ [] := by
  rw [hostHeader]
  exact List.append_ne_nil_of_left_ne_nil d.domain_ne _

theorem getAliasForRequest_request (d : HostedDid) :
    getAliasForRequest d.request = Uri.encodeURIComponent d.hostHeader := by
  rw [getAliasForRequest]
  exact congrArg Uri.encodeURIComponent (if_pos d.hostHeader_ne_nil)

/-- The escaped header is as long as the host of the DID. -/
theorem length_getAliasForRequest (d : HostedDid) :
    (getAliasForRequest d.request).length = d.host.length := by
  rw [getAliasForRequest_request, encodeURIComponent_hostHeader, host]
  cases d.port with
  | none => rfl
  | some port =>
      have hcolon : port.colon.length = 3 := by
        rcases port.colon_eq with h | h <;> rw [h] <;> rfl
      have hescape : "%3A".toList.length = 3 := rfl
      rw [Option.elim_some, Option.elim_some, List.length_append, List.length_append,
        List.length_append, List.length_append, hcolon, hescape]

/-- The escaped header is the host of the DID exactly when the colon is escaped in that way. -/
theorem getAliasForRequest_eq_iff (d : HostedDid) :
    getAliasForRequest d.request = d.host ↔ ∀ port ∈ d.port, port.colon = "%3A".toList := by
  rw [getAliasForRequest_request, encodeURIComponent_hostHeader, host, List.append_right_inj]
  cases d.port with
  | none => simp
  | some port =>
      rw [Option.elim_some, Option.elim_some, List.append_left_inj]
      constructor
      · rintro h _ ⟨⟩
        exact h.symm
      · intro h
        exact (h port rfl).symm

/-! ### The path -/

/-- The segments with a separator between them. -/
def joined (sep : Char) (s : Text) (ss : List Text) : Text := s ++ ss.flatMap fun t => sep :: t

theorem length_joined (sep sep' : Char) (s : Text) (ss : List Text) :
    (joined sep s ss).length = (joined sep' s ss).length := by
  simp [joined, List.length_flatMap]

theorem mem_joined_iff {sep c : Char} {s : Text} {ss : List Text} (hc : c ≠ sep) :
    c ∈ joined sep s ss ↔ ∃ t ∈ s :: ss, c ∈ t := by
  simp [joined, hc]

/-- Slashes between segments become colons. -/
theorem replaceAll_joined {s : Text} {ss : List Text} (h : ∀ t ∈ s :: ss, '/' ∉ t) :
    Text.replaceAll '/' ':' (joined '/' s ss) = joined ':' s ss := by
  have hsegment : ∀ t ∈ s :: ss, t.map (Text.replaceChar '/' ':') = t := by
    intro t ht
    conv_rhs => rw [← List.map_id t]
    refine List.map_congr_left ?_
    intro c hc
    refine if_neg ?_
    rintro rfl
    exact h t ht hc
  rw [Text.replaceAll, joined, joined, List.map_append, List.map_flatMap,
    hsegment s List.mem_cons_self]
  congr 1
  refine List.flatMap_congr ?_
  intro t ht
  rw [List.map_cons, hsegment t (List.mem_cons_of_mem s ht)]
  rfl

variable {d : HostedDid} {s : Text} {ss : List Text}

theorem joined_ne_nil (h : d.segments = s :: ss) : joined '/' s ss ≠ [] := by
  intro hnil
  rw [joined, List.append_eq_nil_iff, List.flatMap_eq_nil_iff] at hnil
  obtain ⟨rfl, hss⟩ := hnil
  cases ss with
  | nil =>
      refine d.segments_last [] ?_ rfl
      rw [h]
      rfl
  | cons t ss => exact absurd (hss t List.mem_cons_self) (List.cons_ne_nil _ _)

/-- The characters of segments. -/
theorem isDidChar_of_mem_segment (h : d.segments = s :: ss) {t : Text} (ht : t ∈ s :: ss) {c : Char}
    (hc : c ∈ t) : Did.isDidChar c :=
  (d.segments_chars t (by rw [h]; exact ht)).isDidChar c hc

theorem slash_not_mem_segment (h : d.segments = s :: ss) {t : Text} (ht : t ∈ s :: ss) :
    '/' ∉ t :=
  fun hmem => absurd (isDidChar_of_mem_segment h ht hmem) (by decide)

theorem path_eq (h : d.segments = s :: ss) :
    d.path = '/' :: (joined '/' s ss ++ "/did.json".toList) := by
  rw [path, if_neg (by rw [h]; exact List.cons_ne_nil _ _), h]
  rfl

theorem isLineTerminator_of_isDidChar {c : Char} (h : Did.isDidChar c) :
    isLineTerminator c = false := by
  have hrange : 32 < c.toNat ∧ c.toNat < 128 := by
    simp only [Did.isDidChar, Did.isIdChar, Bool.or_eq_true, decide_eq_true_eq] at h
    rcases h with ((((h | rfl) | rfl) | rfl) | rfl) | rfl
    · rcases Url.toNat_of_isAlphanum h with h | h | h <;> omega
    all_goals decide
  simp only [isLineTerminator, List.contains_cons, List.contains_nil, Bool.or_eq_false_iff,
    beq_eq_false_iff_ne]
  refine ⟨?_, ?_, ?_, ?_, trivial⟩ <;> omega

/-- The second route captures the segments. -/
theorem didJsonCapture_path (h : d.segments = s :: ss) :
    didJsonCapture d.path = some (joined '/' s ss) := by
  have hlength : (joined '/' s ss ++ "/did.json".toList).length - 9 = (joined '/' s ss).length := by
    rw [List.length_append]
    exact Nat.add_sub_cancel _ 9
  have hchars : (joined '/' s ss ++ "/did.json".toList).all (fun c => !isLineTerminator c) := by
    rw [List.all_append, Bool.and_eq_true]
    refine ⟨List.all_eq_true.2 fun c hc => ?_, rfl⟩
    by_cases hslash : c = '/'
    · subst hslash
      rfl
    · obtain ⟨t, ht, hc⟩ := (mem_joined_iff hslash).1 hc
      rw [isLineTerminator_of_isDidChar (isDidChar_of_mem_segment h ht hc)]
      rfl
  rw [path_eq h, didJsonCapture]
  rw [hlength, List.take_left, List.drop_left, if_pos ⟨rfl, joined_ne_nil h, rfl, rfl, hchars⟩]

theorem foldCase_append (s t : Text) :
    Express.foldCase (s ++ t) = Express.foldCase s ++ Express.foldCase t :=
  List.map_append

/-- The first route accepts the path exactly when it consists of `.well-known`. -/
theorem defaultMatcher_path_iff (h : d.segments = s :: ss) :
    Express.defaultMatcher didDocEndpoint d.path = true ↔
      ss = [] ∧ Express.foldCase s = ".well-known".toList := by
  have hendpoint : Express.foldCase (Express.dropTrailingSlash didDocEndpoint) =
      '/' :: (".well-known".toList ++ "/did.json".toList) := by decide +kernel
  have hfold : Express.foldCase d.path =
      '/' :: (Express.foldCase (joined '/' s ss) ++ "/did.json".toList) := by
    have htail : Express.foldCase "/did.json".toList = "/did.json".toList := by decide +kernel
    rw [path_eq h, Express.foldCase, List.map_cons, List.map_append]
    rw [Express.foldCase] at htail
    rw [htail]
    rfl
  have hslash : Express.foldCase d.path ≠
      Express.foldCase (Express.dropTrailingSlash didDocEndpoint ++ ['/']) := by
    intro heq
    have hlast := congrArg List.getLast? heq
    rw [hfold, foldCase_append, ← List.cons_append, List.getLast?_append_of_ne_nil _ (by simp),
      List.getLast?_append_of_ne_nil _ (by simp [Express.foldCase])] at hlast
    exact absurd hlast (by decide +kernel)
  rw [Express.defaultMatcher, Bool.or_eq_true, decide_eq_true_eq, decide_eq_true_eq,
    or_iff_left hslash, hfold, hendpoint, List.cons_inj_right, List.append_left_inj]
  constructor
  · intro heq
    cases ss with
    | nil =>
        refine ⟨rfl, ?_⟩
        rw [joined, List.flatMap_nil, List.append_nil] at heq
        exact heq
    | cons t ss =>
        have hmem : '/' ∈ Express.foldCase (joined '/' s (t :: ss)) :=
          List.mem_map.2 ⟨'/', by simp [joined], rfl⟩
        rw [heq] at hmem
        exact absurd hmem (by decide +kernel)
  · rintro ⟨rfl, hs⟩
    rw [joined, List.flatMap_nil, List.append_nil]
    exact hs

end HostedDid

/-! ### The DID of a request -/

/-- **The router looks up the DID of a request exactly when** it is one that it finds again. -/
theorem lookupFor_request_iff (d : HostedDid) :
    lookupFor d.request = .did d.text ↔ d.Canonical := by
  have hrequest : d.request.path = d.path := rfl
  rw [lookupFor, hrequest]
  cases hsegments : d.segments with
  | nil =>
      have hmatch : Express.defaultMatcher didDocEndpoint d.path = true := by
        rw [HostedDid.path, if_pos hsegments]
        decide +kernel
      rw [if_pos hmatch, Lookup.did.injEq, HostedDid.text, hsegments, List.flatMap_nil,
        List.append_nil, List.append_right_inj, d.getAliasForRequest_eq_iff]
      constructor
      · intro hport
        refine ⟨hport, ?_, ?_⟩ <;> simp [hsegments]
      · exact HostedDid.Canonical.port
  | cons s ss =>
      by_cases hmatch : Express.defaultMatcher didDocEndpoint d.path = true
      · -- the first route: the segment is lost
        obtain ⟨rfl, hs⟩ := (HostedDid.defaultMatcher_path_iff hsegments).1 hmatch
        rw [if_pos hmatch]
        refine iff_of_false ?_ fun hcanonical => hcanonical.notWellKnown s hsegments hs
        intro hdid
        have hlength := congrArg List.length (Lookup.did.inj hdid)
        rw [HostedDid.text, hsegments, List.length_append, List.length_append, List.length_append,
          d.length_getAliasForRequest] at hlength
        simp at hlength
      · have htext : d.text = didWeb ++ d.host ++ ':' :: HostedDid.joined ':' s ss := by
          rw [HostedDid.text, hsegments]
          rfl
        rw [if_neg hmatch, HostedDid.didJsonCapture_path hsegments, htext]
        dsimp only
        by_cases hescape : '%' ∈ HostedDid.joined '/' s ss
        · -- an escape is lost, or the path is not decoded
          have hnot : ¬d.Canonical := by
            intro hcanonical
            obtain ⟨t, ht, hmem⟩ := (HostedDid.mem_joined_iff (by decide)).1 hescape
            exact hcanonical.segments t (by rw [hsegments]; exact ht) hmem
          refine iff_of_false ?_ hnot
          cases hdecode : Uri.decodeURIComponent (HostedDid.joined '/' s ss) with
          | none => simp
          | some params =>
              have hshort := Uri.length_lt_of_decodeURIComponent hescape hdecode
              rw [HostedDid.length_joined '/' ':'] at hshort
              intro hdid
              have hlength := congrArg List.length (Lookup.did.inj hdid)
              rw [List.length_append, List.length_append, List.length_append, List.length_append,
                d.length_getAliasForRequest, List.length_cons, List.length_cons, Text.replaceAll,
                List.length_map] at hlength
              omega
        · have hslash : ∀ t ∈ s :: ss, '/' ∉ t :=
            fun t ht => HostedDid.slash_not_mem_segment hsegments ht
          rw [Uri.decodeURIComponent_of_not_mem hescape]
          dsimp only
          rw [Lookup.did.injEq, HostedDid.replaceAll_joined hslash, List.append_left_inj,
            List.append_right_inj, d.getAliasForRequest_eq_iff]
          constructor
          · intro hport
            refine ⟨hport, ?_, ?_⟩
            · intro t ht hmem
              rw [hsegments] at ht
              exact hescape ((HostedDid.mem_joined_iff (by decide)).2 ⟨t, ht, hmem⟩)
            · intro t ht hwellKnown
              obtain ⟨rfl, rfl⟩ := List.cons.inj (hsegments.symm.trans ht)
              exact hmatch ((HostedDid.defaultMatcher_path_iff hsegments).2 ⟨rfl, hwellKnown⟩)
          · exact HostedDid.Canonical.port

/-! ### The document of a DID -/

/-- **The keys and mappings for which there is a document.** -/
structure Producible (lib : KeyLibrary) (km : TKeyType → Text) (keys : List IKey) : Prop where
  /-- Keys that are published in another encoding are hexadecimal digits. -/
  bytes : ∀ key ∈ keys, encodingOf (km key.type) = .base58 ∨ encodingOf (km key.type) = .multibase →
    ∃ bytes, lib.hexToBytes key.publicKeyHex = .ok bytes
  /-- If there is a key that is mapped to `JsonWebKey2020`, then a pair is derived from the first
  Ed25519 key. -/
  web : ∀ key ∈ keys, encodingOf (km key.type) = .jwk →
    ∃ first bytes pairs, keys.find? (fun key => key.type = .Ed25519) = some first ∧
      lib.hexToBytes first.publicKeyHex = .ok bytes ∧ lib.getDerivedKeyPairs bytes = .ok pairs

variable {lib : KeyLibrary} {options : WebDidDocRouterOptions S} {identifier : IIdentifier S}

/-- The web keys of an identifier exist exactly when a pair is derived from its first Ed25519
key. -/
theorem exists_webKeysForIdentifier_iff :
    (∃ methods, webKeysForIdentifier lib identifier = .ok methods) ↔
      ∃ first bytes pairs,
        identifier.keys.find? (fun key => key.type = .Ed25519) = some first ∧
        lib.hexToBytes first.publicKeyHex = .ok bytes ∧
        lib.getDerivedKeyPairs bytes = .ok pairs := by
  rw [webKeysForIdentifier]
  cases hfind : identifier.keys.find? (fun key => key.type = .Ed25519) with
  | none => simp
  | some first =>
      dsimp only
      cases hbytes : lib.hexToBytes first.publicKeyHex with
      | error e =>
          refine iff_of_false ?_ ?_
          · rintro ⟨methods, h⟩
            cases h
          · rintro ⟨first', bytes, pairs, hfirst, hbytes', -⟩
            rw [← Option.some.inj hfirst, hbytes] at hbytes'
            cases hbytes'
      | ok bytes =>
          change (∃ methods, (lib.getDerivedKeyPairs bytes >>= _) = Except.ok methods) ↔ _
          cases hpairs : lib.getDerivedKeyPairs bytes with
          | error e =>
              refine iff_of_false ?_ ?_
              · rintro ⟨methods, h⟩
                cases h
              · rintro ⟨first', bytes', pairs, hfirst, hbytes', hpairs'⟩
                rw [← Option.some.inj hfirst, hbytes] at hbytes'
                rw [← Except.ok.inj hbytes', hpairs] at hpairs'
                cases hpairs'
          | ok pairs => exact iff_of_true ⟨_, rfl⟩ ⟨first, bytes, pairs, rfl, hbytes, hpairs⟩

/-- The methods of a key exist exactly when its key material can be read. -/
theorem exists_verificationMethodsOf_iff {km : TKeyType → Text} {key : IKey} :
    (∃ methods, verificationMethodsOf lib km identifier key = .ok methods) ↔
      (encodingOf (km key.type) = .base58 ∨ encodingOf (km key.type) = .multibase →
        ∃ bytes, lib.hexToBytes key.publicKeyHex = .ok bytes) ∧
      (encodingOf (km key.type) = .jwk →
        ∃ methods, webKeysForIdentifier lib identifier = .ok methods) := by
  rw [verificationMethodsOf]
  cases encodingOf (km key.type) with
  | hex => exact iff_of_true ⟨_, rfl⟩ (by simp)
  | base58 =>
      cases lib.hexToBytes key.publicKeyHex with
      | error e => simp [Bind.bind, Except.bind]
      | ok bytes => exact iff_of_true ⟨_, rfl⟩ (by simp)
  | multibase =>
      cases lib.hexToBytes key.publicKeyHex with
      | error e => simp [Bind.bind, Except.bind]
      | ok bytes => exact iff_of_true ⟨_, rfl⟩ (by simp)
  | jwk => simp

/-- A `map` whose calls all succeed succeeds. -/
theorem exists_mapM {α β : Type} {f : α → Except JsError β} {xs : List α}
    (h : ∀ x ∈ xs, ∃ y, f x = .ok y) : ∃ ys, xs.mapM f = .ok ys := by
  induction xs with
  | nil => exact ⟨[], rfl⟩
  | cons x xs ih =>
      obtain ⟨y, hy⟩ := h x List.mem_cons_self
      obtain ⟨ys, hys⟩ := ih fun x' hx' => h x' (List.mem_cons_of_mem x hx')
      refine ⟨y :: ys, ?_⟩
      rw [List.mapM_cons, hy, hys]
      rfl

/-- **There is a document exactly when** the material of every key can be read. -/
theorem exists_didDocForIdentifier_iff :
    (∃ doc, didDocForIdentifier lib options identifier = .ok doc) ↔
      Producible lib options.km identifier.keys := by
  constructor
  · rintro ⟨doc, h⟩
    obtain ⟨methods, hdoc⟩ := exists_docOf h
    have hkeys := fun key hkey =>
      exists_verificationMethodsOf_iff.1 ⟨methods key, hdoc.methods_ok key hkey⟩
    exact ⟨fun key hkey => (hkeys key hkey).1,
      fun key hkey hjwk => exists_webKeysForIdentifier_iff.1 ((hkeys key hkey).2 hjwk)⟩
  · rintro ⟨hbytes, hweb⟩
    have hkeys : ∀ key ∈ identifier.keys,
        ∃ methods, verificationMethodsOf lib options.km identifier key = .ok methods :=
      fun key hkey => exists_verificationMethodsOf_iff.2
        ⟨hbytes key hkey, fun hjwk => exists_webKeysForIdentifier_iff.2 (hweb key hkey hjwk)⟩
    obtain ⟨allKeys, hall⟩ := exists_mapM hkeys
    rw [didDocForIdentifier, hall]
    exact ⟨_, rfl⟩

theorem id_of_didDocForIdentifier {doc : DidDoc S}
    (h : didDocForIdentifier lib options identifier = .ok doc) : doc.id = identifier.did := by
  obtain ⟨methods, hdoc⟩ := exists_docOf h
  exact hdoc.id

/-! ### What is served -/

/-- What is served for a request, by what is looked up. -/
theorem serve_of_lookupFor {req : Request} {did : Text} (h : lookupFor req = .did did)
    (didManagerGet : Text → Except JsError (IIdentifier S)) :
    serve lib options (some didManagerGet) req =
      ⟨[did], replyOf (didManagerGet did >>= didDocForIdentifier lib options)⟩ := by
  rw [serve, h]

/-- Only what is looked up for the request is looked up. -/
theorem lookupFor_of_serve {agent : Option (Text → Except JsError (IIdentifier S))} {req : Request}
    {did : Text} {reply : Reply S} (h : serve lib options agent req = ⟨[did], reply⟩) :
    lookupFor req = .did did := by
  rw [serve] at h
  cases hlookup : lookupFor req with
  | next =>
      rw [hlookup] at h
      cases congrArg Served.lookedUp h
  | badRequest =>
      rw [hlookup] at h
      cases congrArg Served.lookedUp h
  | did did' =>
      rw [hlookup] at h
      cases agent with
      | none => cases congrArg Served.lookedUp h
      | some didManagerGet =>
          cases congrArg Served.lookedUp h
          rfl

/-- **A managed DID is looked up, and its document is served, exactly when** its port is escaped in
upper case, no segment holds an escape, its path is not `.well-known` alone, and there is a document
of its keys. -/
theorem served_iff (lib : KeyLibrary) (options : WebDidDocRouterOptions S) (d : HostedDid)
    {didManagerGet : Text → Except JsError (IIdentifier S)} {identifier : IIdentifier S}
    (hget : didManagerGet d.text = .ok identifier) (hdid : identifier.did = d.text) :
    (∃ doc, serve lib options (some didManagerGet) d.request = ⟨[d.text], .json doc⟩ ∧
      doc.id = d.text) ↔
    d.Canonical ∧ Producible lib options.km identifier.keys := by
  rw [← lookupFor_request_iff, ← exists_didDocForIdentifier_iff]
  constructor
  · rintro ⟨doc, hserve, -⟩
    have hlookup := lookupFor_of_serve hserve
    refine ⟨hlookup, ?_⟩
    rw [serve_of_lookupFor hlookup, hget] at hserve
    change (⟨_, replyOf (didDocForIdentifier lib options identifier)⟩ : Served S) = _ at hserve
    cases hdoc : didDocForIdentifier lib options identifier with
    | error e =>
        rw [hdoc] at hserve
        cases congrArg Served.reply hserve
    | ok doc' => exact ⟨doc', rfl⟩
  · rintro ⟨hlookup, doc, hdoc⟩
    refine ⟨doc, ?_, (id_of_didDocForIdentifier hdoc).trans hdid⟩
    rw [serve_of_lookupFor hlookup, hget]
    change (⟨_, replyOf (didDocForIdentifier lib options identifier)⟩ : Served S) = _
    rw [hdoc, replyOf]

/-! ### Two DIDs -/

/-- An agent that manages these DIDs. -/
def managing (dids : List Text) (did : Text) : Except JsError (IIdentifier Unit) :=
  if did ∈ dids then .ok ⟨did, [firstKey], []⟩
  else .error (JsError.ofMessage "Identifier not found".toList)

/-- `did:web:h%3A80:a`. -/
def portDid : HostedDid where
  domain := "h".toList
  port := some ⟨"%3A".toList, "80".toList, Or.inl rfl, List.all_eq_true.1 rfl⟩
  segments := ["a".toList]
  domain_ne := List.cons_ne_nil 'h' []
  domain_chars := List.all_eq_true.1 rfl
  segments_chars := by
    intro s hs
    obtain rfl := List.mem_singleton.1 hs
    exact .char rfl .nil
  segments_last := by
    rintro s ⟨⟩
    exact List.cons_ne_nil 'a' _

/-- `did:web:h:a%2Fb`. -/
def escapedDid : HostedDid where
  domain := "h".toList
  port := none
  segments := ["a%2Fb".toList]
  domain_ne := List.cons_ne_nil 'h' []
  domain_chars := List.all_eq_true.1 rfl
  segments_chars := by
    intro s hs
    obtain rfl := List.mem_singleton.1 hs
    exact .char rfl (.escape rfl rfl (.char rfl .nil))
  segments_last := by
    rintro s ⟨⟩
    exact List.cons_ne_nil 'a' _

/-- The document of a DID with a port and a segment is served. -/
theorem served_port : ∃ doc,
    serve plainLibrary ⟨[], fun _ => none⟩ (some (managing [portDid.text])) portDid.request =
      ⟨["did:web:h%3A80:a".toList], .json doc⟩ ∧ doc.id = portDid.text := by
  have hcanonical : portDid.Canonical := by
    refine ⟨?_, ?_, ?_⟩
    · rintro port ⟨⟩
      rfl
    · intro s hs
      obtain rfl := List.mem_singleton.1 hs
      decide
    · rintro s ⟨⟩
      decide +kernel
  have hproducible : Producible plainLibrary
      (WebDidDocRouterOptions.km (S := Unit) ⟨[], fun _ => none⟩) [firstKey] := by
    refine ⟨fun key _ _ => ⟨plainBytes key.publicKeyHex, rfl⟩, ?_⟩
    intro key hkey hjwk
    obtain rfl := List.mem_singleton.1 hkey
    exact absurd hjwk (by decide +kernel)
  have hget : managing [portDid.text] portDid.text = .ok ⟨portDid.text, [firstKey], []⟩ :=
    if_pos (List.mem_singleton_self _)
  exact (served_iff plainLibrary ⟨[], fun _ => none⟩ portDid hget rfl).2 ⟨hcanonical, hproducible⟩

/-- **A request for one DID that is answered with the document of another**: the escaped slash of
`did:web:h:a%2Fb` becomes a colon. -/
theorem served_other :
    escapedDid.request = ⟨"/a%2Fb/did.json".toList, "h".toList, "h".toList⟩ ∧
    ∃ doc, serve plainLibrary ⟨[], fun _ => none⟩
        (some (managing [escapedDid.text, "did:web:h:a:b".toList])) escapedDid.request =
      ⟨["did:web:h:a:b".toList], .json doc⟩ ∧
    doc.id = "did:web:h:a:b".toList ∧ doc.id ≠ escapedDid.text := by
  refine ⟨rfl, _, rfl, rfl, ?_⟩
  decide +kernel

end WebDid
