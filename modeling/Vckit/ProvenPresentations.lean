/-
**Verifying what was proven.**

A holder has the agent prove a presentation, and a verifier has the agent verify it.  The agent
takes the presentation that is to be verified from the argument `presentation`; the controller hands
it over under the name `credential`, as the controller for credentials does.  So the agent is never
asked to verify the presentation, whatever presentation it is.

Main definitions:

* `VcApi.recording` — an agent that keeps the calls of its methods;
* `VcApi.Accepting` — the agent verifies the presentations that it has made;
* `VcApi.Verified` — the agent verifies a presentation that is sent to be verified.

Main results:

* `VcApi.run_verifyPresentation` — what the agent is asked, and what the client gets;
* `VcApi.not_verified_of_proven` — **no presentation that was proven is verified**;
* `VcApi.verifyPresentation_proven` — an agent that verifies what it makes, and a presentation of
  its own that is answered with an error.
-/

import Vckit.ObjectInstance
import Vckit.VcApi

set_option relaxedAutoImplicit false
set_option autoImplicit false

namespace VcApi

open ObjectCreator (field)

variable {N σ : Type}

/-! ### Agents -/

/-- An agent that keeps the calls of its methods. -/
def recording (h : (o : Call N) → σ → Except JsError o.Resp × σ) (o : Call N)
    (s : σ × List (Call N)) : Except JsError o.Resp × (σ × List (Call N)) :=
  ((h o s.1).1, ((h o s.1).2, s.2 ++ [o]))

/-- `result.verified` is true. -/
def IsVerified (result : Json N) : Prop := field "verified".toList (some result) = some (.bool true)

/-- **The agent verifies the presentations that it has made**, when they are passed under the name
`presentation`. -/
def Accepting (h : (o : Call N) → σ → Except JsError o.Resp × σ) : Prop :=
  ∀ (s s' : σ) (params : Args N) (p : Json N),
    h (.plugin .createVerifiablePresentation params) s = (.ok p, s') →
      ∀ (t : σ) (args : Args N), args.get "presentation".toList = some p →
        ∃ result t', h (.plugin .verifyPresentation args) t = (.ok result, t') ∧ IsVerified result

/-- A request to verify a presentation. -/
def verificationBody (p : Json N) : Json N := .obj [("verifiablePresentation".toList, p)]

/-- **The agent verifies a presentation that is sent to be verified**: it is asked to, and the
answer is 200 with what it found. -/
structure Verified (h : (o : Call N) → σ → Except JsError o.Resp × σ) (s : σ) (p : Json N) :
    Prop where
  asked : ∃ args, Call.plugin .verifyPresentation args ∈
      ((verifyPresentation true (verificationBody p)).run (recording h) (s, [])).2.2 ∧
    args.get "presentation".toList = some p
  answered : ∃ result,
    ((verifyPresentation true (verificationBody p)).run (recording h) (s, [])).1 =
      .ok ⟨200, .json result⟩ ∧ IsVerified result

/-! ### What the agent is asked -/

/-- The answer to what the agent found. -/
def verificationResponse : Except JsError (Json N) → Response N
  | .ok result => ⟨200, .json result⟩
  | .error e => errorResponse e

/-- **The agent is asked once**, and the client gets what it answers. -/
theorem run_verifyPresentation (h : (o : Call N) → σ → Except JsError o.Resp × σ) (s : σ)
    (p : Json N) :
    (verifyPresentation true (verificationBody p)).run (recording h) (s, []) =
      (.ok (verificationResponse
          (h (.plugin .verifyPresentation [("credential".toList, some p)]) s).1),
        (h (.plugin .verifyPresentation [("credential".toList, some p)]) s).2,
        [.plugin .verifyPresentation [("credential".toList, some p)]]) := by
  have hperform := Prog.run_perform (recording h)
    (.plugin .verifyPresentation [("credential".toList, some p)]) (s, [])
  rcases hanswer : h (.plugin .verifyPresentation [("credential".toList, some p)]) s with ⟨r, s'⟩
  rw [recording, hanswer] at hperform
  cases r with
  | ok result =>
      refine Prog.run_tryCatch_of_ok ((Prog.run_bind_of_ok rfl).trans ?_)
      exact Prog.run_bind_of_ok hperform
  | error e =>
      refine Prog.run_tryCatch_of_error ((Prog.run_bind_of_ok rfl).trans ?_)
      exact Prog.run_bind_of_error hperform

/-- No presentation is passed. -/
theorem not_verified (h : (o : Call N) → σ → Except JsError o.Resp × σ) (s : σ) (p : Json N) :
    ¬Verified h s p := by
  rintro ⟨⟨args, hargs, hget⟩, -⟩
  rw [run_verifyPresentation, List.mem_singleton] at hargs
  cases hargs
  have hnone : Args.get "presentation".toList [("credential".toList, some p)] = none := rfl
  rw [hnone] at hget
  cases hget

/-- **No presentation that was proven is verified**: the agent is asked to verify a credential. -/
theorem not_verified_of_proven (h : (o : Call N) → σ → Except JsError o.Resp × σ) :
    ∀ (s s' : σ) (body p : Json N),
      (provePresentation true body).run h s = (.ok ⟨201, .json p⟩, s') →
        ∀ t : σ,
          ((verifyPresentation true (verificationBody p)).run (recording h) (t, [])).2.2 =
              [.plugin .verifyPresentation [("credential".toList, some p)]] ∧
            ¬Verified h t p := by
  intro _ _ _ p _ t
  rw [run_verifyPresentation]
  exact ⟨rfl, not_verified h t p⟩

/-! ### An agent that verifies what it makes -/

/-- An object with a proof. -/
def withProof : Option (Json ℤ) → Except JsError (Json ℤ)
  | some (.obj fields) => .ok (.obj (Json.setField "proof".toList (.str "signature".toList) fields))
  | _ => .error (.ofMessage "presentation is no object".toList)

/-- What is found out about a presentation: it is verified if it has a proof. -/
def checkProof : Option (Json ℤ) → Except JsError (Json ℤ)
  | none => .error (.ofMessage "Cannot read properties of undefined (reading 'proof')".toList)
  | some p => .ok (.obj [("verified".toList, .bool (field "proof".toList (some p)).isSome)])

/-- An agent that makes presentations and verifies them. -/
def provingAgent : (o : Call ℤ) → Unit → Except JsError o.Resp × Unit
  | .plugin .createVerifiablePresentation params, s =>
      (withProof (params.get "presentation".toList), s)
  | .plugin .verifyPresentation args, s => (checkProof (args.get "presentation".toList), s)
  | .plugin _ _, s => (.error (.ofMessage "Method not available".toList), s)
  | .dataStoreORMGetVerifiableCredentials, s => (.ok [], s)
  | .dataStoreORMGetVerifiablePresentations _, s => (.ok [], s)
  | .holder (.dataStoreORMGetVerifiableCredentials _), s => (.ok [], s)
  | .holder (.dataStoreDeleteVerifiableCredential _), s => (.ok false, s)

/-- What gets a proof passes the check. -/
theorem checkProof_withProof {value : Option (Json ℤ)} {p : Json ℤ} (h : withProof value = .ok p) :
    ∃ result, checkProof (some p) = .ok result ∧ IsVerified result := by
  refine ⟨_, rfl, ?_⟩
  unfold withProof at h
  split at h
  · rw [← Except.ok.inj h, field, ObjectCreator.property_setField_self]
    rfl
  · cases h

theorem accepting_provingAgent : Accepting provingAgent := by
  intro s s' params p hmade t args hargs
  obtain ⟨result, hresult, hverified⟩ := checkProof_withProof (congrArg Prod.fst hmade)
  refine ⟨result, t, ?_, hverified⟩
  rw [provingAgent, hargs, hresult]

/-- A request to prove an empty presentation. -/
def provingBody : Json ℤ := .obj [("presentation".toList, .obj [])]

/-- The presentation that is made for it. -/
def provenPresentation : Json ℤ := .obj [("proof".toList, .str "signature".toList)]

theorem not_verified_provenPresentation :
    ((verifyPresentation true (verificationBody provenPresentation)).run (recording provingAgent)
          ((), [])).2.2 =
        [.plugin .verifyPresentation [("credential".toList, some provenPresentation)]] ∧
      ¬Verified provingAgent () provenPresentation :=
  not_verified_of_proven provingAgent () () provingBody provenPresentation rfl ()

/-- **A presentation that is proven and then answered with an error**, by an agent that verifies
every presentation it makes. -/
theorem verifyPresentation_proven :
    Accepting provingAgent ∧
      ((provePresentation true provingBody).run provingAgent ()).1 =
        .ok ⟨201, .json provenPresentation⟩ ∧
      ((verifyPresentation true (verificationBody provenPresentation)).run provingAgent ()).1 =
        .ok ⟨500, .error (some "Cannot read properties of undefined (reading 'proof')".toList)⟩ ∧
      ¬Verified provingAgent () provenPresentation :=
  ⟨accepting_provingAgent, rfl, rfl, not_verified provingAgent () provenPresentation⟩

end VcApi
