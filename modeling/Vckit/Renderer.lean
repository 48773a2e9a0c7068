/-
**Rendering a credential.**

A credential carries render methods, each a template and the type of the provider that renders it,
and the renderer is to return one document for each of them.  It looks at the first entry of the
list only, and it takes for granted that there is a list.  A provider is looked up as a property of
an object, so a type may also find what every object inherits, in place of the default provider.

Providers are operations: they are given a template and the credential, and answer with a document
or an error.

Main definitions:

* `Renderer.convertToBase64` — the text of a document;
* `Renderer.getProvider`, `Renderer.renderCredential` — the code;
* `Renderer.renderAll` — what is expected of it;
* `Renderer.RendersAll` — the credential is rendered as expected, whatever providers answer.

Main results:

* `Renderer.rendersAll_iff` — **a credential is rendered as expected exactly when it has a list of
  render methods, none after the first one is well-formed, and the types are no inherited names**;
* `Renderer.renderCredential_fails` — two credentials that are not.
-/

import Vckit.ObjectInstance

set_option relaxedAutoImplicit false
set_option autoImplicit false

namespace Renderer

open ObjectCreator (JsNumber property field isTruthy toText)

variable {N σ : Type}

/-! ### Documents -/

/-- The digits of base 64. -/
def base64Digits : Text := "ABCDEFGHIJKLMNOPQRSTUVWXYZabcdefghijklmnopqrstuvwxyz0123456789+/".toList

/-- One digit. -/
def base64Digit (n : ℕ) : Char := base64Digits.getD n '='

/-- Three bytes at a time. -/
def base64 : List ℕ → Text
  | a :: b :: c :: bytes =>
      base64Digit (a / 4) :: base64Digit (a % 4 * 16 + b / 16) ::
        base64Digit (b % 16 * 4 + c / 64) :: base64Digit (c % 64) :: base64 bytes
  | [a, b] =>
      [base64Digit (a / 4), base64Digit (a % 4 * 16 + b / 16), base64Digit (b % 16 * 4), '=']
  | [a] => [base64Digit (a / 4), base64Digit (a % 4 * 16), '=', '=']
  | [] => []

/-- `Buffer.from(content).toString('base64')` -/
def convertToBase64 (content : Text) : Text :=
  base64 ((content.flatMap String.utf8EncodeChar).map UInt8.toNat)

/-! ### Providers -/

/-- The names that every object inherits. -/
def inheritedNames : List Text :=
  ["constructor".toList, "__defineGetter__".toList, "__defineSetter__".toList,
    "hasOwnProperty".toList, "__lookupGetter__".toList, "__lookupSetter__".toList,
    "isPrototypeOf".toList, "propertyIsEnumerable".toList, "toString".toList, "valueOf".toList,
    "__proto__".toList, "toLocaleString".toList]

/-- The names of the providers, and the name of the default one. -/
structure Options where
  providers : List Text
  defaultProvider : Option Text

/-- What a name leads to. -/
inductive Found
  | provider (name : Text)
  | inherited
  deriving DecidableEq

/-- `this.providers[name]` -/
def Options.lookup (o : Options) (name : Text) : Option Found :=
  if name ∈ o.providers then some (.provider name)
  else if name ∈ inheritedNames then some .inherited
  else none

/-- The name of the default provider; the empty one counts as none. -/
def Options.default? (o : Options) : Option Text :=
  o.defaultProvider.filter fun name => decide (name ≠ [])

/-- What is found for a name: under the name itself, or else under the default one. -/
def Options.find (o : Options) (name : Text) : Except JsError Found :=
  match (o.lookup name).or (o.default?.bind o.lookup) with
  | some found => .ok found
  | none => .error (.ofMessage ("Renderer provider ".toList ++ name ++ " not found".toList))

/-- A template with the type of its provider. -/
structure RenderMethodPayload (N : Type) where
  template : Json N
  type : Json N

/-- A call of a provider. -/
structure Call (N : Type) where
  provider : Text
  template : Json N
  document : Json N

/-- A program that calls providers. -/
abbrev Rendering (N α : Type) := Prog (Call N) (fun _ => Text) JsError α

/-- `rendererProvider.renderCredential(template, document)` -/
def Found.render (template document : Json N) : Found → Rendering N Text
  | .provider name => Prog.perform ⟨name, template, document⟩
  | .inherited => .throw ⟨"TypeError".toList,
      "rendererProvider.renderCredential is not a function".toList⟩

/-- Providers that render everything as the empty document. -/
def blank (_ : Call N) (s : Unit) : Except JsError Text × Unit := (.ok [], s)

/-- One document is no more than one. -/
theorem length_of_run_promiseAll_singleton {p : Rendering N Text} {documents : List Text}
    (h : ((Prog.promiseAll [p]).run blank ()).1 = .ok documents) : documents.length = 1 := by
  rw [Prog.run_promiseAll_cons] at h
  rcases hp : p.run blank () with ⟨r, s⟩
  rw [hp] at h
  cases r with
  | ok content =>
      rw [← Except.ok.inj h]
      rfl
  | error e => cases h

section Code

variable [JsNumber N]

/-- `this.getProvider(name)` -/
def getProvider (o : Options) (name : Json N) : Except JsError Found :=
  (toText name).bind o.find

/-- The template and the type of an entry, if it has both. -/
def payloadOf (entry : Option (Json N)) : Option (RenderMethodPayload N) :=
  match field "template".toList entry, field "@type".toList entry with
  | some template, some type =>
      if isTruthy template && isTruthy type then some ⟨template, type⟩ else none
  | _, _ => none

/-- `args.credential.render[0]` -/
def firstRender (credential : List (Text × Json N)) : Except JsError (Option (Json N)) :=
  match property "render".toList credential with
  | none => .error ⟨"TypeError".toList, "Cannot read properties of undefined (reading '0')".toList⟩
  | some .null => .error ⟨"TypeError".toList, "Cannot read properties of null (reading '0')".toList⟩
  | some (.arr items) => .ok items.head?
  | some (.obj fields) => .ok (property "0".toList fields)
  | some (.str s) => .ok (s.head?.map fun c => .str [c])
  | some _ => .ok none

/-- The error for credentials without render method. -/
def notFoundError : JsError :=
  .ofMessage "Render method not found in the verifiable credential".toList

/-- The document of one render method. -/
def renderMethod (o : Options) (document : Json N) (method : RenderMethodPayload N) :
    Rendering N Text := do
  let rendererProvider ← Prog.ofExcept (getProvider o method.type)
  let content ← rendererProvider.render method.template document
  .ret (convertToBase64 content)

def renderCredential (o : Options) (credential : List (Text × Json N)) :
    Rendering N (List Text) := do
  let first ← Prog.ofExcept (firstRender credential)
  let renderMethods := (payloadOf first).toList
  if renderMethods = [] then .throw notFoundError
  else Prog.promiseAll (renderMethods.map (renderMethod o (.obj credential)))

/-! ### What is expected -/

/-- The render methods of a credential: the well-formed entries, in their order. -/
def methodsOf (entries : Option (List (Json N))) : List (RenderMethodPayload N) :=
  (entries.getD []).filterMap fun entry => payloadOf (some entry)

/-- The provider for a type: the one that is registered for it, or else the default one. -/
def providerFor (o : Options) (type : Json N) : Option Text :=
  (toText type).toOption.bind fun key =>
    if key ∈ o.providers then some key
    else o.default?.filter fun name => decide (name ∈ o.providers)

/-- The document that its provider makes of a render method. -/
def expectedDocument (o : Options) (document : Json N) (method : RenderMethodPayload N) :
    Rendering N Text := do
  let content ← Prog.perform ⟨(providerFor o method.type).getD [], method.template, document⟩
  .ret (convertToBase64 content)

/-- **What is expected**: the documents of all render methods, or an error when there are none. -/
def renderAll (o : Options) (entries : Option (List (Json N))) (document : Json N) :
    Rendering N (List Text) :=
  if methodsOf entries = [] then .throw notFoundError
  else Prog.promiseAll ((methodsOf entries).map (expectedDocument o document))

/-- **The credential is rendered as expected**, whatever the providers answer. -/
def RendersAll (o : Options) (credential : List (Text × Json N))
    (entries : Option (List (Json N))) : Prop :=
  ∀ (σ : Type) (h : Call N → σ → Except JsError Text × σ) (s : σ),
    (renderCredential o credential).run h s = (renderAll o entries (.obj credential)).run h s

/-- The type finds no inherited property. -/
def NotInherited (o : Options) (type : Json N) : Prop :=
  ∀ key, toText type = .ok key → key ∈ o.providers ∨ key ∉ inheritedNames

/-! ### Providers that are found -/

section Providers

variable {o : Options} {type : Json N} {key : Text}

theorem lookup_of_mem {name : Text} (h : name ∈ o.providers) :
    o.lookup name = some (.provider name) := if_pos h

theorem find_of_eq_some {found : Found}
    (h : (o.lookup key).or (o.default?.bind o.lookup) = some found) : o.find key = .ok found := by
  rw [Options.find, h]

theorem getProvider_of_ok (hkey : toText type = .ok key) : getProvider o type = o.find key := by
  rw [getProvider, hkey]
  rfl

/-- The default provider that is expected is found. -/
theorem bind_lookup_default {name : Text}
    (h : (o.default?.filter fun name => decide (name ∈ o.providers)) = some name) :
    o.default?.bind o.lookup = some (.provider name) := by
  obtain ⟨hdefault, hname⟩ := Option.filter_eq_some_iff.1 h
  rw [hdefault, Option.bind_some, lookup_of_mem (of_decide_eq_true hname)]

/-- The provider that is expected is found, unless the type finds an inherited property. -/
theorem getProvider_eq (hprovider : (providerFor o type).isSome) (htype : NotInherited o type) :
    getProvider o type = .ok (.provider ((providerFor o type).getD [])) := by
  obtain ⟨name, hname⟩ := Option.isSome_iff_exists.1 hprovider
  rw [hname, Option.getD_some]
  obtain ⟨key, hkey, hfound⟩ := Option.bind_eq_some_iff.1 hname
  have htext : toText type = .ok key := by
    cases h : toText type with
    | ok key' =>
        rw [h] at hkey
        rw [Option.some.inj hkey]
    | error e =>
        rw [h] at hkey
        cases hkey
  rw [getProvider_of_ok htext]
  refine find_of_eq_some ?_
  by_cases hmem : key ∈ o.providers
  · rw [if_pos hmem] at hfound
    rw [lookup_of_mem hmem, Option.some.inj hfound, Option.some_or]
  · rw [if_neg hmem] at hfound
    have hnone : o.lookup key = none := by
      rw [Options.lookup, if_neg hmem, if_neg ((htype key htext).resolve_left hmem)]
    rw [hnone, Option.none_or, bind_lookup_default hfound]

/-- Otherwise what is found is no provider. -/
theorem getProvider_of_inherited (hkey : toText type = .ok key) (hmem : key ∉ o.providers)
    (hinherited : key ∈ inheritedNames) : getProvider o type = .ok .inherited := by
  have hlookup : o.lookup key = some .inherited := by
    rw [Options.lookup, if_neg hmem, if_pos hinherited]
  rw [getProvider_of_ok hkey]
  refine find_of_eq_some ?_
  rw [hlookup, Option.some_or]

end Providers

/-! ### Rendering -/

section Rendering

variable {o : Options} {credential : List (Text × Json N)} {document : Json N}
  {method : RenderMethodPayload N}

theorem renderMethod_eq (hprovider : (providerFor o method.type).isSome)
    (htype : NotInherited o method.type) :
    renderMethod o document method = expectedDocument o document method := by
  rw [renderMethod, getProvider_eq hprovider htype]
  rfl

theorem run_expectedDocument_blank :
    (expectedDocument o document method).run blank () = (.ok (convertToBase64 []), ()) := rfl

/-- They give one document for each render method. -/
theorem run_renderAll_blank {entries : Option (List (Json N))} (hmethods : methodsOf entries ≠ []) :
    (renderAll o entries document).run blank () =
      (.ok ((methodsOf entries).map fun _ => convertToBase64 []), ()) := by
  rw [renderAll, if_neg hmethods]
  exact Prog.run_promiseAll_of_ok fun method _ => run_expectedDocument_blank

/-- A list whose first entry is malformed. -/
theorem renderCredential_of_none {first : Option (Json N)}
    (hfirst : firstRender credential = .ok first) (hnone : payloadOf first = none) :
    renderCredential o credential = .throw notFoundError := by
  rw [renderCredential, hfirst]
  simp [hnone]

/-- A list whose first entry is well-formed. -/
theorem renderCredential_of_some {first : Option (Json N)}
    (hfirst : firstRender credential = .ok first) (hsome : payloadOf first = some method) :
    renderCredential o credential = Prog.promiseAll [renderMethod o (.obj credential) method] := by
  rw [renderCredential, hfirst]
  simp [hsome]

/-- A type that finds an inherited property is not rendered. -/
theorem run_promiseAll_inherited {key : Text} (hkey : toText method.type = .ok key)
    (hmem : key ∉ o.providers) (hinherited : key ∈ inheritedNames) :
    ((Prog.promiseAll [renderMethod o document method]).run blank ()).1 =
      .error ⟨"TypeError".toList,
        "rendererProvider.renderCredential is not a function".toList⟩ := by
  have hrun : renderMethod o document method = .throw
      ⟨"TypeError".toList, "rendererProvider.renderCredential is not a function".toList⟩ := by
    rw [renderMethod, getProvider_of_inherited hkey hmem hinherited]
    rfl
  rw [hrun]
  rfl

end Rendering

/-! ### The law of rendering -/

section Law

variable {o : Options} {credential : List (Text × Json N)} {entries : List (Json N)}
  {entry : Json N}

theorem methodsOf_cons_none (h : payloadOf (some entry) = none) :
    methodsOf (some (entry :: entries)) = methodsOf (some entries) :=
  List.filterMap_cons_none h

theorem methodsOf_cons_some {method : RenderMethodPayload N}
    (h : payloadOf (some entry) = some method) :
    methodsOf (some (entry :: entries)) = method :: methodsOf (some entries) :=
  List.filterMap_cons_some h

theorem methodsOf_eq_nil :
    methodsOf (some entries) = [] ↔ ∀ entry ∈ entries, payloadOf (some entry) = none :=
  List.filterMap_eq_nil_iff

/-- A credential without list is not answered with the error that is expected. -/
theorem not_rendersAll_none (hrender : property "render".toList credential = none) :
    ¬RendersAll o credential none := by
  intro h
  have hfirst : firstRender credential = .error ⟨"TypeError".toList,
      "Cannot read properties of undefined (reading '0')".toList⟩ := by
    rw [firstRender, hrender]
  have hcode : renderCredential o credential = .throw ⟨"TypeError".toList,
      "Cannot read properties of undefined (reading '0')".toList⟩ := by
    rw [renderCredential, hfirst]
    rfl
  have hrun := congrArg Prod.fst (h Unit blank ())
  rw [hcode] at hrun
  have hname := congrArg JsError.name (Except.error.inj hrun)
  exact Nat.ne_of_beq_eq_false rfl (congrArg List.length hname)

/-- A list whose first entry is malformed. -/
theorem rendersAll_iff_of_none (hfirst : firstRender credential = .ok entries.head?)
    (hnone : payloadOf entries.head? = none) :
    RendersAll o credential (some entries) ↔ methodsOf (some entries) = [] := by
  constructor
  · intro h
    by_contra hmethods
    have hrun := congrArg Prod.fst (h Unit blank ())
    rw [renderCredential_of_none hfirst hnone, run_renderAll_blank hmethods] at hrun
    cases hrun
  · intro hmethods σ h s
    rw [renderCredential_of_none hfirst hnone, renderAll, if_pos hmethods]

/-- A list whose first entry is well-formed. -/
theorem rendersAll_iff_of_some {method : RenderMethodPayload N}
    (hfirst : firstRender credential = .ok (some entry))
    (hsome : payloadOf (some entry) = some method)
    (hprovider : (providerFor o method.type).isSome) :
    RendersAll o credential (some (entry :: entries)) ↔
      methodsOf (some entries) = [] ∧ NotInherited o method.type := by
  have hmethods : methodsOf (some (entry :: entries)) = method :: methodsOf (some entries) :=
    methodsOf_cons_some hsome
  have hne : methodsOf (some (entry :: entries)) ≠ [] := hmethods ▸ List.cons_ne_nil _ _
  constructor
  · intro h
    have hrun := congrArg Prod.fst (h Unit blank ())
    rw [renderCredential_of_some hfirst hsome, run_renderAll_blank hne] at hrun
    constructor
    · have hlength := length_of_run_promiseAll_singleton hrun
      rw [List.length_map, hmethods, List.length_cons] at hlength
      exact List.eq_nil_of_length_eq_zero (Nat.succ_injective hlength)
    · intro key hkey
      by_contra hnot
      rw [not_or, not_not] at hnot
      rw [run_promiseAll_inherited hkey hnot.1 hnot.2] at hrun
      cases hrun
  · rintro ⟨hrest, htype⟩ σ h s
    rw [renderCredential_of_some hfirst hsome, renderMethod_eq hprovider htype, renderAll,
      if_neg hne, hmethods, hrest]
    rfl

/-- **A credential is rendered as expected exactly when** it has a list of render methods, none
after the first entry is well-formed, and no type finds an inherited property. -/
theorem rendersAll_iff (o : Options) (credential : List (Text × Json N))
    (entries : Option (List (Json N)))
    (hrender : property "render".toList credential = entries.map Json.arr)
    (hprovided : ∀ method ∈ methodsOf entries, (providerFor o method.type).isSome) :
    RendersAll o credential entries ↔
      entries.isSome ∧ (∀ entry ∈ (entries.getD []).tail, payloadOf (some entry) = none) ∧
        ∀ method ∈ methodsOf entries, NotInherited o method.type := by
  cases entries with
  | none => exact iff_of_false (not_rendersAll_none hrender) fun h => Bool.false_ne_true h.1
  | some entries =>
      have hfirst : firstRender credential = .ok entries.head? := by
        rw [firstRender, hrender]
        rfl
      cases entries with
      | nil =>
          rw [rendersAll_iff_of_none hfirst rfl]
          refine iff_of_true rfl ⟨rfl, ?_, ?_⟩
          · intro _ hmem
            cases hmem
          · intro _ hmem
            cases hmem
      | cons entry rest =>
          rw [Option.getD_some, List.tail_cons, ← methodsOf_eq_nil]
          cases hentry : payloadOf (some entry) with
          | none =>
              rw [rendersAll_iff_of_none hfirst hentry, methodsOf_cons_none hentry]
              refine ⟨fun h => ⟨rfl, h, fun method hmem => ?_⟩, fun h => h.2.1⟩
              rw [h] at hmem
              cases hmem
          | some method =>
              have hmethods : methodsOf (some (entry :: rest)) = method :: methodsOf (some rest) :=
                methodsOf_cons_some hentry
              rw [rendersAll_iff_of_some hfirst hentry
                (hprovided method (hmethods ▸ List.mem_cons_self)), hmethods]
              constructor
              · rintro ⟨hrest, htype⟩
                refine ⟨rfl, hrest, fun other hother => ?_⟩
                rw [hrest] at hother
                rwa [List.mem_singleton.1 hother]
              · exact fun h => ⟨h.2.1, h.2.2 method List.mem_cons_self⟩

end Law

end Code

/-! ### Credentials -/

/-- One provider, which is also the default one. -/
def plainOptions : Options where
  providers := ["WebRenderingTemplate2022".toList]
  defaultProvider := some "WebRenderingTemplate2022".toList

/-- A well-formed entry. -/
def plainEntry : Json ℤ :=
  .obj [("template".toList, .str "<p></p>".toList),
    ("@type".toList, .str "WebRenderingTemplate2022".toList)]

/-- A credential with a list of render methods. -/
def withRender (entries : List (Json ℤ)) : List (Text × Json ℤ) :=
  [("render".toList, .arr entries)]

theorem providerFor_plain :
    providerFor plainOptions (.str "WebRenderingTemplate2022".toList : Json ℤ) =
      some "WebRenderingTemplate2022".toList := by
  decide +kernel

/-- A well-formed entry before a malformed one: the credential is rendered as expected. -/
theorem rendersAll_plain :
    RendersAll plainOptions (withRender [plainEntry, .obj []]) (some [plainEntry, .obj []]) := by
  have hmethods : methodsOf (some [plainEntry, .obj []]) =
      [⟨.str "<p></p>".toList, .str "WebRenderingTemplate2022".toList⟩] := rfl
  refine (rendersAll_iff plainOptions (withRender [plainEntry, .obj []])
    (some [plainEntry, .obj []]) rfl ?_).2 ⟨rfl, ?_, ?_⟩
  · intro method hmem
    rw [hmethods] at hmem
    rw [List.mem_singleton.1 hmem, providerFor_plain]
    rfl
  · intro entry hmem
    obtain rfl := List.mem_singleton.1 hmem
    rfl
  · intro method hmem key hkey
    rw [hmethods] at hmem
    rw [List.mem_singleton.1 hmem] at hkey
    exact Or.inl (Except.ok.inj hkey ▸ List.mem_singleton.2 rfl)

/-- **Two credentials that are not rendered**: one whose first render method has no template, and
one without render methods, for which the error is another one. -/
theorem renderCredential_fails :
    ((renderCredential plainOptions (withRender [.obj [], plainEntry])).run blank ()).1 =
        .error notFoundError ∧
      ((renderCredential plainOptions ([] : List (Text × Json ℤ))).run blank ()).1 =
        .error ⟨"TypeError".toList, "Cannot read properties of undefined (reading '0')".toList⟩ ∧
      ¬RendersAll plainOptions (withRender [.obj [], plainEntry]) (some [.obj [], plainEntry]) ∧
      ¬RendersAll plainOptions ([] : List (Text × Json ℤ)) none := by
  refine ⟨rfl, rfl, fun h => ?_, not_rendersAll_none rfl⟩
  have hnil := (rendersAll_iff_of_none rfl rfl).1 h
  cases hnil

end Renderer
