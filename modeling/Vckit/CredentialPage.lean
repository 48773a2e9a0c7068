/-
**The page that shows a credential.**

The page renders a credential with one provider, which compiles the template with Handlebars, and
the renderer hands the documents over in base 64.  The page decodes them, shows them, and shows the
credential itself when there are none.  What is lost on the way would be lost to the reader: so the
page shows a document exactly when the template of the first render method can be rendered, and it
shows it character by character.

Main definitions:

* `Base64.decode` — reading base 64;
* `Renderer.webRenderingTemplate2022`, `Renderer.credentialPage` — the provider, and the page;
* `Renderer.Renders` — what is to be shown.

Main results:

* `Base64.decode_base64` — **what was written in base 64 is read back**;
* `Renderer.convertBase64ToString_convertToBase64` — so is a text;
* `Renderer.credentialPage_eq_documents_iff` — **what the page shows**.
-/

import Vckit.HolderController
import Vckit.Renderer
import Vckit.UrlQuery

set_option relaxedAutoImplicit false
set_option autoImplicit false

/-! ### Base 64 -/

namespace Base64

open Renderer (base64 base64Digit base64Digits)

/-- The value of a digit; two more characters count as the last two digits. -/
def value (c : Char) : Option ℕ :=
  if c = '-' then some 62
  else if c = '_' then some 63
  else base64Digits.findIdx? fun d => decide (d = c)

/-- Four digits are three bytes; digits that are left over are two bytes, one, or none. -/
def bytes : List ℕ → List ℕ
  | a :: b :: c :: d :: rest => (a * 4 + b / 16) :: (b % 16 * 16 + c / 4) :: (c % 4 * 64 + d) ::
      bytes rest
  | [a, b, c] => [a * 4 + b / 16, b % 16 * 16 + c / 4]
  | [a, b] => [a * 4 + b / 16]
  | _ => []

/-- The values of the digits before the first equals sign; what is no digit is skipped. -/
def values (text : Text) : List ℕ := (text.takeWhile fun c => decide (c ≠ '=')).filterMap value

/-- `Buffer.from(text, 'base64')` -/
def decode (text : Text) : List ℕ := bytes (values text)

theorem value_base64Digit {n : ℕ} (h : n < 64) : value (base64Digit n) = some n := by
  have hall : (List.range 64).all (fun n => value (base64Digit n) == some n) = true := by
    decide +kernel
  exact eq_of_beq (List.all_eq_true.1 hall n (List.mem_range.2 h))

theorem base64Digit_ne {n : ℕ} (h : n < 64) : base64Digit n ≠ '=' := by
  intro heq
  have hvalue := value_base64Digit h
  rw [heq] at hvalue
  have hnone : value '=' = none := by decide +kernel
  rw [hnone] at hvalue
  cases hvalue

@[simp] theorem values_base64Digit_cons {n : ℕ} (h : n < 64) (text : Text) :
    values (base64Digit n :: text) = n :: values text := by
  have hdigit : (base64Digit n :: text).takeWhile (fun c => decide (c ≠ '=')) =
      base64Digit n :: text.takeWhile fun c => decide (c ≠ '=') :=
    List.takeWhile_cons_of_pos (decide_eq_true (base64Digit_ne h))
  rw [values, hdigit, List.filterMap_cons_some (value_base64Digit h)]
  rfl

/-- **What was written in base 64 is read back.** -/
theorem decode_base64 : ∀ {bs : List ℕ}, (∀ b ∈ bs, b < 256) → decode (base64 bs) = bs
  | a :: b :: c :: rest, h => by
      have ha := h a (by simp)
      have hb := h b (by simp)
      have hc := h c (by simp)
      have ih : bytes (values (base64 rest)) = rest :=
        decode_base64 fun d (hd : d ∈ rest) => h d (by simp [hd])
      rw [base64, decode, values_base64Digit_cons (by omega), values_base64Digit_cons (by omega),
        values_base64Digit_cons (by omega), values_base64Digit_cons (by omega), bytes, ih]
      refine congrArg₂ _ ?_ (congrArg₂ _ ?_ (congrArg₂ _ ?_ rfl))
      · omega
      · omega
      · omega
  | [a, b], h => by
      have ha := h a (by simp)
      have hb := h b (by simp)
      rw [base64, decode, values_base64Digit_cons (by omega), values_base64Digit_cons (by omega),
        values_base64Digit_cons (by omega)]
      refine congrArg₂ _ ?_ (congrArg₂ _ ?_ rfl)
      · omega
      · omega
  | [a], h => by
      have ha := h a (by simp)
      rw [base64, decode, values_base64Digit_cons (by omega), values_base64Digit_cons (by omega)]
      refine congrArg₂ _ ?_ rfl
      omega
  | [], _ => rfl

end Base64

namespace Renderer

open HolderController (trim)
open ObjectCreator (JsNumber toText)

variable {N : Type} [JsNumber N]

/-- `Buffer.from(base64, 'base64').toString('utf8')` -/
def convertBase64ToString (base64 : Text) : Text := Query.utf8Decode (Base64.decode base64)

/-- A text is read back. -/
theorem convertBase64ToString_convertToBase64 (content : Text) :
    convertBase64ToString (convertToBase64 content) = content := by
  have hbytes : (content.flatMap String.utf8EncodeChar).map UInt8.toNat =
      content.flatMap Query.utf8Bytes := List.map_flatMap
  have hlt : ∀ b ∈ (content.flatMap String.utf8EncodeChar).map UInt8.toNat, b < 256 := by
    intro b hb
    obtain ⟨byte, -, rfl⟩ := List.mem_map.1 hb
    exact byte.toNat_lt_size
  rw [convertBase64ToString, convertToBase64, Base64.decode_base64 hlt, hbytes,
    Query.utf8Decode_flatMap]

/-! ### The page -/

/-- The provider; `handlebars` compiles a template and renders a document with it. -/
def webRenderingTemplate2022 (handlebars : Text → Json N → Except JsError Text)
    (template document : Json N) : Except JsError Text :=
  match template with
  | .str template => if trim template = [] then .ok [] else handlebars template document
  | .null => .error ⟨"TypeError".toList,
      "Cannot read properties of null (reading 'trim')".toList⟩
  | _ => .error ⟨"TypeError".toList, "template.trim is not a function".toList⟩

/-- The renderer of the page has one provider, which is also the default one. -/
def pageOptions : Options where
  providers := ["WebRenderingTemplate2022".toList]
  defaultProvider := some "WebRenderingTemplate2022".toList

/-- The answers of the provider. -/
def pageProviders (handlebars : Text → Json N → Except JsError Text) (call : Call N) (s : Unit) :
    Except JsError Text × Unit :=
  (webRenderingTemplate2022 handlebars call.template call.document, s)

/-- What is shown of a credential. -/
inductive PageContent (N : Type) where
  | documents (documents : List Text)
  | json (credential : Json N)

/-- The state `documents` after the credential was rendered; an error leaves it empty. -/
def pageDocuments (handlebars : Text → Json N → Except JsError Text)
    (credential : List (Text × Json N)) : List Text :=
  match ((renderCredential pageOptions credential).run (pageProviders handlebars) ()).1 with
  | .ok documents => documents.map convertBase64ToString
  | .error _ => []

/-- `CredentialRender` -/
def credentialPage (handlebars : Text → Json N → Except JsError Text)
    (credential : List (Text × Json N)) : PageContent N :=
  if pageDocuments handlebars credential = [] then .json (.obj credential)
  else .documents (pageDocuments handlebars credential)

/-! ### What is to be shown -/

/-- **What is to be shown**: the first render method has a template that is a text and a type that
finds no inherited property, and the template is rendered as this document. -/
structure Renders (handlebars : Text → Json N → Except JsError Text)
    (credential : List (Text × Json N)) (first : Option (Json N)) (template key html : Text) :
    Prop where
  first_eq : firstRender credential = .ok first
  payload_eq : ∃ type, payloadOf first = some ⟨.str template, type⟩ ∧ toText type = .ok key
  not_inherited : key ∉ inheritedNames
  rendered : if trim template = [] then html = [] else
    handlebars template (.obj credential) = .ok html

variable {handlebars : Text → Json N → Except JsError Text} {credential : List (Text × Json N)}

/-- Every type leads to the provider, or to an inherited property. -/
theorem find_pageOptions (key : Text) : pageOptions.find key =
    .ok (if key ∈ inheritedNames then .inherited
      else .provider "WebRenderingTemplate2022".toList) := by
  have hdefault : pageOptions.default?.bind pageOptions.lookup =
      some (.provider "WebRenderingTemplate2022".toList) := by decide +kernel
  have hname : "WebRenderingTemplate2022".toList ∉ inheritedNames := by decide +kernel
  refine find_of_eq_some ?_
  rw [hdefault]
  by_cases hmem : key ∈ pageOptions.providers
  · obtain rfl := List.mem_singleton.1 hmem
    rw [lookup_of_mem hmem, if_neg hname, Option.some_or]
  · by_cases hinherited : key ∈ inheritedNames
    · rw [Options.lookup, if_neg hmem, if_pos hinherited, if_pos hinherited, Option.some_or]
    · rw [Options.lookup, if_neg hmem, if_neg hinherited, if_neg hinherited, Option.none_or]

omit [JsNumber N] in
theorem webRenderingTemplate2022_ok {template document : Json N} {html : Text} :
    webRenderingTemplate2022 handlebars template document = .ok html ↔
      ∃ t, template = .str t ∧
        if trim t = [] then html = [] else handlebars t document = .ok html := by
  constructor
  · intro h
    cases template with
    | str t =>
        refine ⟨t, rfl, ?_⟩
        rw [webRenderingTemplate2022] at h
        split_ifs at h ⊢ with hblank
        · exact (Except.ok.inj h).symm
        · exact h
    | null => cases h
    | bool b => cases h
    | num n => cases h
    | arr items => cases h
    | obj fields => cases h
  · rintro ⟨t, rfl, h⟩
    rw [webRenderingTemplate2022]
    split_ifs at h ⊢ with hblank
    · rw [h]
    · exact h

/-- One render method on the page. -/
theorem run_renderMethod_ok {document : Json N} {method : RenderMethodPayload N} {content : Text} :
    ((renderMethod pageOptions document method).run (pageProviders handlebars) ()).1 = .ok content ↔
      ∃ name html, getProvider pageOptions method.type = .ok (.provider name) ∧
        webRenderingTemplate2022 handlebars method.template document = .ok html ∧
        content = convertToBase64 html := by
  rw [renderMethod]
  cases getProvider pageOptions method.type with
  | error e => simp
  | ok found =>
      cases found with
      | inherited => simp [Found.render]
      | provider name =>
          cases hhtml : webRenderingTemplate2022 handlebars method.template document <;>
            simp [Found.render, pageProviders, hhtml, eq_comm]

/-- The type of a render method leads to the provider. -/
theorem getProvider_pageOptions {type : Json N} {name : Text} :
    getProvider pageOptions type = .ok (.provider name) ↔
      ∃ key, toText type = .ok key ∧ key ∉ inheritedNames ∧
        name = "WebRenderingTemplate2022".toList := by
  rw [getProvider]
  cases toText type with
  | error e => simp [Except.bind]
  | ok key =>
      by_cases hinherited : key ∈ inheritedNames
      · simp [Except.bind, find_pageOptions, hinherited]
      · simp [Except.bind, find_pageOptions, hinherited, eq_comm]

omit [JsNumber N] in
/-- A single program that is waited for. -/
theorem run_promiseAll_singleton_ok {σ : Type} {h : Call N → σ → Except JsError Text × σ} {s : σ}
    {p : Rendering N Text} {documents : List Text} :
    ((Prog.promiseAll [p]).run h s).1 = .ok documents ↔
      ∃ content, (p.run h s).1 = .ok content ∧ documents = [content] := by
  rw [Prog.run_promiseAll_cons]
  cases hp : (p.run h s).1 with
  | ok content => simp [Prog.promiseAll, Prog.settle, eq_comm]
  | error e => simp [Prog.settle]

/-- The documents of the renderer, on the page. -/
theorem run_renderCredential_ok {documents : List Text} :
    ((renderCredential pageOptions credential).run (pageProviders handlebars) ()).1 =
        .ok documents ↔
      ∃ first template key html, Renders handlebars credential first template key html ∧
        documents = [convertToBase64 html] := by
  constructor
  · intro h
    cases hfirst : firstRender credential with
    | error e =>
        rw [renderCredential, hfirst] at h
        cases h
    | ok first =>
        cases hpayload : payloadOf first with
        | none =>
            rw [renderCredential_of_none hfirst hpayload] at h
            cases h
        | some method =>
            rw [renderCredential_of_some hfirst hpayload, run_promiseAll_singleton_ok] at h
            obtain ⟨content, hrun, rfl⟩ := h
            obtain ⟨name, html, hprovider, hhtml, rfl⟩ := run_renderMethod_ok.1 hrun
            obtain ⟨key, hkey, hinherited, -⟩ := getProvider_pageOptions.1 hprovider
            obtain ⟨t, htemplate, hrendered⟩ := webRenderingTemplate2022_ok.1 hhtml
            refine ⟨first, t, key, html, ⟨hfirst, ⟨method.type, ?_, hkey⟩, hinherited, hrendered⟩,
              rfl⟩
            rw [hpayload, ← htemplate]
  · rintro ⟨first, template, key, html, hrenders, rfl⟩
    obtain ⟨type, hpayload, hkey⟩ := hrenders.payload_eq
    rw [renderCredential_of_some hrenders.first_eq hpayload, run_promiseAll_singleton_ok]
    have hprovider := getProvider_pageOptions.2 ⟨key, hkey, hrenders.not_inherited, rfl⟩
    have hhtml := webRenderingTemplate2022_ok.2 ⟨template, rfl, hrenders.rendered⟩
    exact ⟨_, run_renderMethod_ok.2 ⟨_, html, hprovider, hhtml, rfl⟩, rfl⟩

/-- The documents that the page decodes. -/
theorem pageDocuments_eq_singleton_iff {html : Text} :
    pageDocuments handlebars credential = [html] ↔
      ∃ first template key, Renders handlebars credential first template key html := by
  rw [pageDocuments]
  constructor
  · intro h
    cases hrun :
      ((renderCredential pageOptions credential).run (pageProviders handlebars) ()).1 with
    | error e =>
        rw [hrun] at h
        cases h
    | ok documents =>
        obtain ⟨first, template, key, html', hrenders, rfl⟩ := run_renderCredential_ok.1 hrun
        rw [hrun] at h
        obtain rfl := (convertBase64ToString_convertToBase64 html').symm.trans
          (List.singleton_inj.1 h)
        exact ⟨first, template, key, hrenders⟩
  · rintro ⟨first, template, key, hrenders⟩
    rw [run_renderCredential_ok.2 ⟨first, template, key, html, hrenders, rfl⟩]
    exact congrArg (fun content => [content]) (convertBase64ToString_convertToBase64 html)

/-- There is one document, or none. -/
theorem pageDocuments_eq_nil_or (handlebars : Text → Json N → Except JsError Text)
    (credential : List (Text × Json N)) :
    pageDocuments handlebars credential = [] ∨
      ∃ html, pageDocuments handlebars credential = [html] := by
  rw [pageDocuments]
  cases hrun : ((renderCredential pageOptions credential).run (pageProviders handlebars) ()).1 with
  | error e => exact Or.inl rfl
  | ok documents =>
      obtain ⟨_, _, _, html, -, rfl⟩ := run_renderCredential_ok.1 hrun
      exact Or.inr ⟨_, rfl⟩

/-- **What the page shows**: the document of the first render method, as the provider rendered it,
or the credential itself when there is none. -/
theorem credentialPage_eq_documents_iff (handlebars : Text → Json N → Except JsError Text)
    (credential : List (Text × Json N)) (documents : List Text) :
    credentialPage handlebars credential = .documents documents ↔
      ∃ first template key html, Renders handlebars credential first template key html ∧
        documents = [html] := by
  rw [credentialPage]
  rcases pageDocuments_eq_nil_or handlebars credential with hnil | ⟨html, hhtml⟩
  · rw [if_pos hnil]
    refine ⟨fun h => (by cases h), ?_⟩
    rintro ⟨first, template, key, html, hrenders, -⟩
    rw [pageDocuments_eq_singleton_iff.2 ⟨first, template, key, hrenders⟩] at hnil
    cases hnil
  · rw [if_neg (by rw [hhtml]; exact List.cons_ne_nil _ _), hhtml]
    constructor
    · intro h
      obtain rfl := PageContent.documents.inj h
      obtain ⟨first, template, key, hrenders⟩ := pageDocuments_eq_singleton_iff.1 hhtml
      exact ⟨first, template, key, html, hrenders, rfl⟩
    · rintro ⟨first, template, key, html', hrenders, rfl⟩
      rw [pageDocuments_eq_singleton_iff.2 ⟨first, template, key, hrenders⟩] at hhtml
      rw [hhtml]

end Renderer
