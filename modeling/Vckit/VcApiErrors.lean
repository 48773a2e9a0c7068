/-
**Errors of the VC API.**

The status of an answer travels inside the message of an error: `not_found: m` and
`not_implemented: m` are to be answered with 404 and 501 and the text `m`, every other message with
500.  The handler cuts the message at its colons and takes the second piece for the text, so a text
that holds a colon itself is cut short, and a message that begins with the code but is not written
that way loses its 500.  The credential router turns an error into the message of a new one, so what
begins with the code begins with the name of the error after it.

Main definitions:

* `VcApi.Coded` — a message with a code and a text;
* `VcApi.Answers` — the answer that is expected to an error with a message;
* `VcApi.Readable`, `VcApi.Repeats`, `VcApi.Survives` — the messages, and the errors behind the
  router, that get it.

Main results:

* `VcApi.answers_error_iff` — **an error is answered as expected exactly when it survives**;
* `VcApi.answered_not_found` — what is not found, answered with 500, and a DID that is cut.
-/

import Vckit.ObjectInstance
import Vckit.VcApi

set_option relaxedAutoImplicit false
set_option autoImplicit false

namespace VcApi

open HolderController (errorHandler trim)

variable {N σ : Type}

/-! ### Codes -/

/-- The words before the colon, with their statuses. -/
def codes : List (Text × ℕ) := [("not_found".toList, 404), ("not_implemented".toList, 501)]

/-- The message is a code, a colon, a blank and a trimmed text. -/
structure Coded (code message m : Text) : Prop where
  message_eq : message = code ++ ':' :: ' ' :: m
  ne_nil : m ≠ []
  trimmed : trim m = m

/-- **The answer that is expected** to an error with a message. -/
structure Answers (message : Text) (response : Response N) : Prop where
  coded {code m : Text} {status : ℕ} (hcode : (code, status) ∈ codes) (h : Coded code message m) :
    response = ⟨status, .error (some m)⟩
  other (h : ∀ code status m, (code, status) ∈ codes → ¬Coded code message m) :
    response = ⟨500, .error (some message)⟩

/-- `message.split(':')[0]` -/
def errorType (message : Text) : Option Text := (Text.split message [':']).head?

/-- `message.split(':')[1]?.trim()` -/
def errorMessage (message : Text) : Option Text := ((Text.split message [':'])[1]?).map trim

/-- If the message begins with a code, then the text is there, and holds no colon. -/
def Readable (message : Text) : Prop :=
  ∀ code status, (code, status) ∈ codes → errorType message = some code →
    ∃ m, Coded code message m ∧ ':' ∉ m

/-- The error has a code and a text, and its name begins with the code again: what stands after it,
up to the next colon of name and message, is the text. -/
def Repeats (e : JsError) : Prop :=
  ∃ code status m, (code, status) ∈ codes ∧ Coded code e.message m ∧
    errorType e.name = some code ∧ (errorMessage e.name).getD code = m

/-- **The errors that are answered as expected.**  Behind the router an error with a name has the
name in front of its message. -/
def Survives (ep : Endpoint N) (e : JsError) : Prop :=
  if ep.routed = true ∧ e.name ≠ [] then Repeats e else Readable e.message

/-! ### Reading a message -/

theorem trim_cons_blank (m : Text) : trim (' ' :: m) = trim m := rfl

theorem length_trim_le (m : Text) : (trim m).length ≤ m.length := by
  rw [trim, List.length_reverse]
  refine (List.dropWhile_sublist _).length_le.trans ?_
  rw [List.length_reverse]
  exact (List.dropWhile_sublist _).length_le

theorem status_ne {code : Text} {status : ℕ} (h : (code, status) ∈ codes) : status ≠ 500 := by
  simp only [codes, List.mem_cons, Prod.mk.injEq, List.not_mem_nil, or_false] at h
  omega

/-- A status stands for one code. -/
theorem code_eq {code code' : Text} {status : ℕ} (h : (code, status) ∈ codes)
    (h' : (code', status) ∈ codes) : code = code' := by
  simp only [codes, List.mem_cons, Prod.mk.injEq, List.not_mem_nil, or_false] at h h'
  rcases h with ⟨rfl, rfl⟩ | ⟨rfl, rfl⟩ <;> rcases h' with ⟨rfl, hs⟩ | ⟨rfl, hs⟩
  · rfl
  · omega
  · omega
  · rfl

/-- A code has one status. -/
theorem status_eq {code : Text} {status status' : ℕ} (h : (code, status) ∈ codes)
    (h' : (code, status') ∈ codes) : status = status' := by
  have hne : "not_found".toList ≠ "not_implemented".toList := by decide +kernel
  simp only [codes, List.mem_cons, Prod.mk.injEq, List.not_mem_nil, or_false] at h h'
  rcases h with ⟨rfl, rfl⟩ | ⟨rfl, rfl⟩ <;> rcases h' with ⟨hc, rfl⟩ | ⟨hc, rfl⟩
  · rfl
  · exact absurd hc hne
  · exact absurd hc.symm hne
  · rfl

theorem colon_not_mem {code : Text} {status : ℕ} (h : (code, status) ∈ codes) : ':' ∉ code := by
  simp only [codes, List.mem_cons, Prod.mk.injEq, List.not_mem_nil, or_false] at h
  rcases h with ⟨rfl, -⟩ | ⟨rfl, -⟩ <;> decide +kernel

theorem colon_not_mem_cons_blank {t : Text} (h : ':' ∉ t) : ':' ∉ ' ' :: t := by
  intro hmem
  rcases List.mem_cons.1 hmem with heq | hmem
  · exact absurd heq (by decide)
  · exact h hmem

theorem trim_code {code : Text} {status : ℕ} (h : (code, status) ∈ codes) : trim code = code := by
  simp only [codes, List.mem_cons, Prod.mk.injEq, List.not_mem_nil, or_false] at h
  rcases h with ⟨rfl, -⟩ | ⟨rfl, -⟩ <;> decide +kernel

/-- What the handler does with a message. -/
theorem errorHandler_cases (e : JsError) :
    (∃ code status, (code, status) ∈ codes ∧ errorType e.message = some code ∧
      errorHandler e = (status, errorMessage e.message)) ∨
    ((∀ code status, (code, status) ∈ codes → errorType e.message ≠ some code) ∧
      errorHandler e = (500, some e.message)) := by
  by_cases hfound : errorType e.message = some "not_found".toList
  · exact Or.inl ⟨_, 404, List.mem_cons_self, hfound, if_pos hfound⟩
  · by_cases himplemented : errorType e.message = some "not_implemented".toList
    · exact Or.inl ⟨_, 501, List.mem_cons_of_mem _ List.mem_cons_self, himplemented,
        (if_neg hfound).trans (if_pos himplemented)⟩
    · refine Or.inr ⟨fun code status hcode => ?_, (if_neg hfound).trans (if_neg himplemented)⟩
      simp only [codes, List.mem_cons, Prod.mk.injEq, List.not_mem_nil, or_false] at hcode
      rcases hcode with ⟨rfl, -⟩ | ⟨rfl, -⟩
      · exact hfound
      · exact himplemented

section Coded

variable {code message m : Text} {status : ℕ}

/-- A message with a code begins with it. -/
theorem Coded.errorType (hcode : (code, status) ∈ codes) (h : Coded code message m) :
    errorType message = some code := by
  rw [VcApi.errorType, h.message_eq, Text.split_append_cons,
    Text.split_of_not_mem (colon_not_mem hcode)]
  rfl

/-- The text of a message with a code is one. -/
theorem Coded.unique {m' : Text} (h : Coded code message m) (h' : Coded code message m') :
    m = m' := by
  have heq := h.message_eq.symm.trans h'.message_eq
  exact (List.cons.inj (List.cons.inj (List.append_cancel_left heq)).2).2

/-- The second piece is the text exactly when the text holds no colon. -/
theorem Coded.errorMessage_iff (hcode : (code, status) ∈ codes) (h : Coded code message m) :
    errorMessage message = some m ↔ ':' ∉ m := by
  have hpieces : Text.split message [':'] = code :: Text.split (' ' :: m) [':'] := by
    rw [h.message_eq, Text.split_append_cons, Text.split_of_not_mem (colon_not_mem hcode)]
    rfl
  rw [errorMessage, hpieces, List.getElem?_cons_succ]
  constructor
  · intro heq hm
    -- the text is cut at its first colon
    obtain ⟨a, b, rfl, ha⟩ := List.eq_append_cons_of_mem hm
    rw [← List.cons_append, Text.split_append_cons,
      Text.split_of_not_mem (colon_not_mem_cons_blank ha)] at heq
    have htrim : trim a = a ++ ':' :: b := (trim_cons_blank a).symm.trans (Option.some.inj heq)
    have hlen := length_trim_le a
    rw [htrim, List.length_append, List.length_cons] at hlen
    omega
  · intro hm
    rw [Text.split_of_not_mem (colon_not_mem_cons_blank hm)]
    exact congrArg some ((trim_cons_blank m).trans h.trimmed)

end Coded

/-! ### Direct answers -/

theorem answers_iff_readable (e : JsError) :
    Answers e.message (errorResponse e : Response N) ↔ Readable e.message := by
  have hresponse : (errorResponse e : Response N) =
      ⟨(errorHandler e).1, .error (errorHandler e).2⟩ := rfl
  rcases errorHandler_cases e with ⟨code, status, hcode, htype, hhandler⟩ | ⟨hother, hhandler⟩
  · rw [hresponse, hhandler]
    constructor
    · intro hanswers code' status' hcode' htype'
      obtain rfl := Option.some.inj (htype.symm.trans htype')
      by_cases hcoded : ∃ m, Coded code e.message m
      · obtain ⟨m, hm⟩ := hcoded
        have heq := hanswers.coded hcode hm
        exact ⟨m, hm, (hm.errorMessage_iff hcode).1 (Body.error.inj (congrArg Response.body heq))⟩
      · have heq := hanswers.other fun code' status' m hcode' hm => hcoded
          ⟨m, Option.some.inj ((hm.errorType hcode').symm.trans htype) ▸ hm⟩
        exact absurd (congrArg Response.status heq) (status_ne hcode)
    · intro hreadable
      obtain ⟨m, hm, hcolon⟩ := hreadable code status hcode htype
      constructor
      · intro code' m' status' hcode' hm'
        obtain rfl := Option.some.inj (htype.symm.trans (hm'.errorType hcode'))
        obtain rfl := hm.unique hm'
        rw [status_eq hcode hcode', (hm.errorMessage_iff hcode).2 hcolon]
      · exact fun hnone => absurd hm (hnone code status m hcode)
  · rw [hresponse, hhandler]
    constructor
    · exact fun _ code status hcode htype => absurd htype (hother code status hcode)
    · intro _
      exact ⟨fun hcode hm => absurd (hm.errorType hcode) (hother _ _ hcode), fun _ => rfl⟩

/-! ### Answers behind the router -/

/-- The message of an error that was wrapped. -/
theorem message_rewrap {e : JsError} (hname : e.name ≠ []) (hmessage : e.message ≠ []) :
    e.rewrap.message = e.name ++ ':' :: ' ' :: e.message := by
  rw [JsError.rewrap, JsError.message_ofMessage, JsError.toText, if_neg hname, if_neg hmessage,
    List.append_assoc]
  rfl

theorem length_lt_rewrap {e : JsError} (hname : e.name ≠ []) :
    e.message.length < e.rewrap.message.length := by
  have hpos := List.length_pos_iff.2 hname
  by_cases hmessage : e.message = []
  · rw [JsError.rewrap, JsError.message_ofMessage, JsError.toText, if_neg hname, if_pos hmessage,
      hmessage]
    exact hpos
  · rw [message_rewrap hname hmessage, List.length_append, List.length_cons, List.length_cons]
    omega

section Routed

variable {e : JsError} {code m : Text} {status : ℕ}

/-- A wrapped error begins with what its name begins with. -/
theorem errorType_rewrap (hname : e.name ≠ []) (hmessage : e.message ≠ []) :
    errorType e.rewrap.message = errorType e.name := by
  rw [errorType, errorType, message_rewrap hname hmessage, Text.split_append_cons,
    List.head?_append_of_ne_nil _ (Text.split_singleton_ne_nil ':' e.name)]

/-- After the first piece of the name comes its second one, or else the code. -/
theorem errorMessage_rewrap (hcode : (code, status) ∈ codes) (hm : Coded code e.message m)
    (hname : e.name ≠ []) :
    errorMessage e.rewrap.message = some ((errorMessage e.name).getD code) := by
  have hmessage : e.message ≠ [] := by
    rw [hm.message_eq]
    exact List.append_ne_nil_of_right_ne_nil _ (List.cons_ne_nil _ _)
  have hcolon : ':' ∉ ' ' :: code := colon_not_mem_cons_blank (colon_not_mem hcode)
  rw [errorMessage, errorMessage, message_rewrap hname hmessage, Text.split_append_cons]
  rcases hpieces : Text.split e.name [':'] with _ | ⟨a, _ | ⟨b, rest⟩⟩
  · exact absurd hpieces (Text.split_singleton_ne_nil ':' e.name)
  · rw [hm.message_eq, ← List.cons_append, Text.split_append_cons, Text.split_of_not_mem hcolon]
    exact congrArg some ((trim_cons_blank code).trans (trim_code hcode))
  · rfl

theorem answers_rewrap_iff (hname : e.name ≠ []) :
    Answers e.message (errorResponse e.rewrap : Response N) ↔ Repeats e := by
  have hresponse : (errorResponse e.rewrap : Response N) =
      ⟨(errorHandler e.rewrap).1, .error (errorHandler e.rewrap).2⟩ := rfl
  by_cases hcoded : ∃ code status m, (code, status) ∈ codes ∧ Coded code e.message m
  · obtain ⟨code, status, m, hcode, hm⟩ := hcoded
    have hmessage : e.message ≠ [] := by
      rw [hm.message_eq]
      exact List.append_ne_nil_of_right_ne_nil _ (List.cons_ne_nil _ _)
    have htext := errorMessage_rewrap hcode hm hname
    have htype := errorType_rewrap hname hmessage
    constructor
    · intro hanswers
      have heq := hanswers.coded hcode hm
      rw [hresponse] at heq
      rcases errorHandler_cases e.rewrap with
        ⟨code', status', hcode', htype', hhandler⟩ | ⟨-, hhandler⟩
      · rw [hhandler] at heq
        obtain rfl : status' = status := congrArg Response.status heq
        obtain rfl := code_eq hcode' hcode
        refine ⟨code', status', m, hcode, hm, htype.symm.trans htype', ?_⟩
        exact Option.some.inj (htext.symm.trans (Body.error.inj (congrArg Response.body heq)))
      · rw [hhandler] at heq
        exact absurd (congrArg Response.status heq).symm (status_ne hcode)
    · rintro ⟨code', status', m', hcode', hm', hnamed, hrepeats⟩
      obtain rfl := Option.some.inj ((hm.errorType hcode).symm.trans (hm'.errorType hcode'))
      obtain rfl := hm.unique hm'
      obtain rfl := status_eq hcode hcode'
      have hhandler : errorHandler e.rewrap = (status, some m) := by
        rcases errorHandler_cases e.rewrap with
          ⟨code', status', hcode₂, htype', hhandler⟩ | ⟨hother, -⟩
        · obtain rfl := Option.some.inj (htype'.symm.trans (htype.trans hnamed))
          rw [hhandler, status_eq hcode₂ hcode, htext, hrepeats]
        · exact absurd (htype.trans hnamed) (hother code status hcode)
      rw [hresponse, hhandler]
      constructor
      · intro code' m' status' hcode' hm'
        obtain rfl := Option.some.inj ((hm.errorType hcode).symm.trans (hm'.errorType hcode'))
        rw [status_eq hcode hcode', hm.unique hm']
      · exact fun hnone => absurd hm (hnone code status m hcode)
  · have hnone : ∀ code status m, (code, status) ∈ codes → ¬Coded code e.message m :=
      fun code status m hcode hm => hcoded ⟨code, status, m, hcode, hm⟩
    constructor
    · intro hanswers
      have heq := hanswers.other hnone
      rw [hresponse] at heq
      rcases errorHandler_cases e.rewrap with ⟨code, status, hcode, -, hhandler⟩ | ⟨-, hhandler⟩
      · rw [hhandler] at heq
        exact absurd (congrArg Response.status heq) (status_ne hcode)
      · -- the name is in front of the message
        rw [hhandler] at heq
        have htext := Option.some.inj (Body.error.inj (congrArg Response.body heq))
        exact absurd (congrArg List.length htext).symm (Nat.ne_of_lt (length_lt_rewrap hname))
    · rintro ⟨code, status, m, hcode, hm, -⟩
      exact absurd hm (hnone code status m hcode)

end Routed

/-! ### All endpoints -/

theorem answers_thrown_iff (ep : Endpoint N) (e : JsError) :
    Answers e.message (errorResponse (ep.thrown e) : Response N) ↔ Survives ep e := by
  unfold Survives Endpoint.thrown
  cases hrouted : ep.routed with
  | false =>
      rw [if_neg Bool.false_ne_true, if_neg fun h => Bool.false_ne_true h.1]
      exact answers_iff_readable e
  | true =>
      rw [if_pos rfl]
      by_cases hname : e.name = []
      · have hmessage : e.rewrap.message = e.message := by
          rw [JsError.rewrap, JsError.message_ofMessage, JsError.toText, if_pos hname]
        rw [if_neg fun h => h.2 hname, ← hmessage]
        exact answers_iff_readable e.rewrap
      · rw [if_pos ⟨rfl, hname⟩]
        exact answers_rewrap_iff hname

/-- **An error is answered as expected exactly when it survives.** -/
theorem answers_error_iff [ObjectCreator.JsNumber N] (installed : Method → Bool) (ep : Endpoint N)
    (h : (o : Call N) → σ → Except JsError o.Resp × σ) (s s' : σ) (e : JsError)
    (herror : (ep.work installed).run h s = (.error e, s')) :
    (∃ response, ((ep.controller installed true).run h s).1 = .ok response ∧
      Answers e.message response) ↔ Survives ep e := by
  rw [Endpoint.run_controller_of_error ep herror, ← answers_thrown_iff]
  constructor
  · rintro ⟨response, hresponse, hanswers⟩
    rwa [← Except.ok.inj hresponse] at hanswers
  · exact fun hanswers => ⟨_, rfl, hanswers⟩

/-! ### Answers of an agent that fails -/

/-- An agent whose methods all fail with an error. -/
def failing (e : JsError) (o : Call ℤ) (s : Unit) : Except JsError o.Resp × Unit := (.error e, s)

/-- What an endpoint answers when they do. -/
def answered (ep : Endpoint ℤ) (e : JsError) : Except JsError (Response ℤ) :=
  ((ep.controller (fun _ => true) true).run (failing e) ()).1

/-- Something is not there. -/
def notFoundError : JsError := .ofMessage "not_found: no such credential".toList

/-- A document is not there. -/
def didNotFoundError : JsError := .ofMessage "not_found: did:web:example.com".toList

theorem readable_notFoundError : Readable notFoundError.message := by
  have hfound : errorType notFoundError.message = some "not_found".toList := by decide +kernel
  intro code status _ htype
  obtain rfl := Option.some.inj (hfound.symm.trans htype)
  exact ⟨"no such credential".toList, ⟨rfl, by decide +kernel, by decide +kernel⟩,
    by decide +kernel⟩

/-- Where credentials are looked up, a code and a text get through. -/
theorem answers_getCredential :
    ∃ response, answered (.getCredential "urn:uuid:1".toList) notFoundError = .ok response ∧
      Answers notFoundError.message response :=
  (answers_error_iff (fun _ => true) (.getCredential "urn:uuid:1".toList)
    (failing notFoundError) () () notFoundError rfl).2 readable_notFoundError

/-- **What is not found is answered with 500** where credentials are issued, **and a DID that is not
found is cut at its colon** where they are looked up. -/
theorem answered_not_found :
    answered (.issueCredential .null) notFoundError =
        .ok ⟨500, .error (some "Error: not_found: no such credential".toList)⟩ ∧
      answered (.getCredential "urn:uuid:1".toList) didNotFoundError =
        .ok ⟨404, .error (some "did".toList)⟩ ∧
      (¬∃ response, answered (.issueCredential .null) notFoundError = .ok response ∧
        Answers notFoundError.message response) ∧
      ¬∃ response, answered (.getCredential "urn:uuid:1".toList) didNotFoundError = .ok response ∧
        Answers didNotFoundError.message response := by
  have hissue : answered (.issueCredential .null) notFoundError =
      .ok ⟨500, .error (some "Error: not_found: no such credential".toList)⟩ := rfl
  have hget : answered (.getCredential "urn:uuid:1".toList) didNotFoundError =
      .ok ⟨404, .error (some "did".toList)⟩ := rfl
  refine ⟨hissue, hget, ?_, ?_⟩
  · rintro ⟨response, hresponse, hanswers⟩
    have heq := hanswers.coded (m := "no such credential".toList) List.mem_cons_self
      ⟨rfl, by decide +kernel, by decide +kernel⟩
    rw [← Except.ok.inj (hissue.symm.trans hresponse)] at heq
    exact Nat.ne_of_beq_eq_false rfl (congrArg Response.status heq)
  · rintro ⟨response, hresponse, hanswers⟩
    have heq := hanswers.coded (m := "did:web:example.com".toList) List.mem_cons_self
      ⟨rfl, by decide +kernel, by decide +kernel⟩
    rw [← Except.ok.inj (hget.symm.trans hresponse)] at heq
    have htext := Option.some.inj (Body.error.inj (congrArg Response.body heq))
    exact Nat.ne_of_beq_eq_false rfl (congrArg List.length htext)

end VcApi
