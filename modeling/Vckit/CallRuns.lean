/-
**Calls that run at the same time.**

Any number of calls, each a thread that runs its transaction in the retry loop, on one shared
state.  Whatever the shared state is, as long as its answers are those of a store, a call keeps to
its protocol, and what it returns comes from an attempt that returned.

Main definitions:

* `Revocation.CallConfig`, `Revocation.startOf` — the calls with the shared state, and their start;
* `Revocation.CallsReach` — the configurations that the calls reach by steps that meet a condition;
* `Revocation.EnvFor` — what is assumed of the agent while a call runs.

Main results:

* `Revocation.CallsReach.follows` — every call keeps to its protocol;
* `Revocation.CallsReach.final_of_returned` — **what a call returns is final for its log**.
-/

import Vckit.CallProtocol

set_option relaxedAutoImplicit false
set_option autoImplicit false

namespace Revocation

variable {ι σ χ : Type}

/-- Calls at some point of their run. -/
abbrev CallConfig (ι σ : Type) : Type :=
  Threads.Config ι σ (BackoffVars (Option RevocationDataResult)) Op Op.Resp JsError
    (Option RevocationDataResult) (Option (Option RevocationDataResult))

/-- A state that calls share. -/
abbrev CallStore (ι σ χ : Type) : Type := Threads.Store ι σ χ Op Op.Resp JsError

/-- All calls before their first attempt. -/
def startOf (lib : VcStatusRl2020) (calls : ι → Call) (s : σ) : CallConfig ι σ where
  shared := s
  thread i := Threads.Thread.start ((calls i).program lib) (BackoffVars.init defaultBaseDelay)
  history := []

/-- The call has returned this status entry. -/
def Allocated (c : CallConfig ι σ) (i : ι) (entry : RevocationDataResult) : Prop :=
  (c.thread i).result = some (.ok (some (some entry)))

instance (c : CallConfig ι σ) (i : ι) (entry : RevocationDataResult) :
    Decidable (Allocated c i entry) :=
  inferInstanceAs (Decidable (_ = _))

/-- **What is assumed of the agent** while a call runs: it is lawful, and its data store answers a
call that concerns `credential` with that credential. -/
structure EnvFor (call : Call) (credential : Credential) (env : Env) : Prop where
  lawful : env.Lawful
  found : ∀ {hash found}, call.hash = some hash →
    env.dataStoreGetVerifiableCredential hash = .ok (some found) → found = credential

/-- An operation that fails is answered legally. -/
theorem legal_error (credential : Credential) (o : Op) (e : JsError) :
    Legal credential o (.error e) := by
  cases o <;> trivial

/-- A call asks the data store for its own credential only. -/
theorem Call.Allowed.hash_eq {lib : VcStatusRl2020} {credential : Credential} {call : Call}
    {log : List Event} {hash : Text}
    (h : call.Allowed lib credential log (.dataStoreGetVerifiableCredential hash)) :
    call.hash = some hash := by
  cases call with
  | getRevocationData options did req => exact h.2.elim
  | revokeCredential options own context => exact congrArg some h.2.symm
  | activateCredential options own context => exact congrArg some h.2.symm

/-- The answers of the agent and of the library are legal. -/
theorem EnvFor.legal_agent {call : Call} {credential : Credential} {env : Env}
    (h : EnvFor call credential env) :
    (∀ did, Legal credential (.didManagerGet did) (env.didManagerGet did)) ∧
    (∀ c, Legal credential (.createVerifiableCredential c) (env.createVerifiableCredential c)) ∧
    (∀ lib log hash, call.Allowed lib credential log (.dataStoreGetVerifiableCredential hash) →
      Legal credential (.dataStoreGetVerifiableCredential hash)
        (env.dataStoreGetVerifiableCredential hash)) := by
  refine ⟨?_, ?_, ?_⟩
  · intro did
    cases hr : env.didManagerGet did with
    | ok identifier => exact h.lawful.didManagerGet_ok hr
    | error e => trivial
  · intro c
    cases hr : env.createVerifiableCredential c with
    | ok vc => exact h.lawful.createVerifiableCredential_ok hr
    | error e => trivial
  · intro lib log hash hallowed
    cases hr : env.dataStoreGetVerifiableCredential hash with
    | ok found =>
        cases found with
        | none => trivial
        | some found => exact h.found hallowed.hash_eq hr
    | error e => trivial

/-- A store nobody else is using answers legally. -/
theorem legal_serve {lib : VcStatusRl2020} {call : Call} {credential : Credential} {env : Env}
    (h : EnvFor call credential env) {log : List Event} {o : Op}
    (hallowed : call.Allowed lib credential log o) (db : Db) :
    Legal credential o (serve env o db).1 := by
  obtain ⟨hdid, hsign, hfound⟩ := h.legal_agent
  unfold serve
  cases env.fault o with
  | some e => exact legal_error credential o e
  | none =>
      cases o with
      | findOneData query =>
          show Legal credential (.findOneData query) (.ok (db.data.lookup query))
          cases hrow : db.data.lookup query with
          | none => trivial
          | some row => exact (Table.lookup_eq_some_iff.1 hrow).2
      | findOneList query =>
          show Legal credential (.findOneList query) (.ok (db.lists.findOne query.accepts))
          cases hrow : db.lists.findOne query.accepts with
          | none => trivial
          | some row => exact Table.key_of_findOne hrow
      | insertData entity =>
          simp only [serveOp]
          cases db.data.insert entity.toRow with
          | none => trivial
          | some _ => rfl
      | insertList entity =>
          simp only [serveOp]
          cases db.lists.insert entity with
          | none => trivial
          | some _ => rfl
      | updateData entity => rfl
      | updateList entity => rfl
      | didManagerGet did => exact hdid did
      | createVerifiableCredential c => exact hsign c
      | dataStoreGetVerifiableCredential hash => exact hfound lib log hash hallowed
      | lockData _ => trivial
      | lockList _ => trivial
      | transmuteCheckStatus c => trivial

section Runs

variable [DecidableEq ι] {store : CallStore ι σ χ} {lib : VcStatusRl2020} {calls : ι → Call}
  {credential : ι → Credential} {ok : ι → χ → CallConfig ι σ → Prop} {s : σ} {c c' : CallConfig ι σ}

/-- The configurations that the calls reach by steps that meet a condition. -/
abbrev CallsReach (store : CallStore ι σ χ) (lib : VcStatusRl2020) (calls : ι → Call)
    (ok : ι → χ → CallConfig ι σ → Prop) (s : σ) (c : CallConfig ι σ) : Prop :=
  Threads.Reaches store (retryPolicy defaultMaxRetries) ok (startOf lib calls s) c

/-- What one step does. -/
abbrev CallsStep (store : CallStore ι σ χ) (i : ι) (x : χ) (c c' : CallConfig ι σ) : Prop :=
  Threads.StepEnd store (retryPolicy defaultMaxRetries) i x c c'

/-- A call keeps to its protocol. -/
abbrev CallFollows (lib : VcStatusRl2020) (calls : ι → Call) (credential : ι → Credential)
    (c : CallConfig ι σ) (i : ι) : Prop :=
  Threads.Thread.Follows (retryPolicy defaultMaxRetries)
    (fun log o => (calls i).Allowed lib (credential i) log o) (Legal (credential i))
    (fun log r => (calls i).Final lib (credential i) log r) (c.thread i)

/-- **Every call keeps to its protocol**, when the store answers legally. -/
theorem CallsReach.follows (h : CallsReach store lib calls ok s c)
    (hlegal : ∀ i x c o r s', ok i x c →
      (calls i).Allowed lib (credential i) (c.thread i).log o →
      store.serve i x o c.shared = some (r, s') → Legal (credential i) o r) (i : ι) :
    CallFollows lib calls credential c i :=
  Threads.Reaches.keeps h
    (fun i => Threads.Thread.Follows.start (keeps_program lib (credential i) (calls i))) hlegal i

/-- No call has a result before an attempt returns. -/
theorem CallsReach.vars (h : CallsReach store lib calls ok s c) (i : ι) :
    (c.thread i).vars.data = none ∧ (c.thread i).vars.isDone = false := by
  refine Threads.Reaches.invariant h (I := fun c => ∀ i, (c.thread i).vars.data = none ∧
    (c.thread i).vars.isDone = false) (fun _ => ⟨rfl, rfl⟩) ?_ i
  intro i x c c' _ hvars _ hstep j
  by_cases hj : j = i
  · subst hj
    cases hstep with
    | operation => simpa using hvars j
    | restarted _ _ hpolicy _ =>
        rw [Threads.Config.thread_update_self]
        exact retryPolicy_again hpolicy (hvars j)
    | returned => simpa using hvars j
    | thrown => simpa using hvars j
  · have hsame : c'.thread j = c.thread j := by
      cases hstep <;> simp [hj]
    rw [hsame]
    exact hvars j

/-- **What a call returns is final for its log.** -/
theorem CallsReach.final_of_returned (h : CallsReach store lib calls ok s c) {i : ι}
    (hfollows : CallFollows lib calls credential c i) {a : Option RevocationDataResult}
    (hresult : (c.thread i).result = some (.ok (some a))) :
    (calls i).Final lib (credential i) (c.thread i).log (.ok a) := by
  obtain ⟨r, hcurrent, hpolicy⟩ := hfollows.returned _ hresult
  have hr := retryPolicy_done hpolicy (h.vars i).1
  subst hr
  have hkeeps := hfollows.current
  rwa [hcurrent, Prog.ofExcept_ok, Prog.keeps_ret] at hkeeps

omit [DecidableEq ι] in
/-- The next operation of a call is one its protocol allows. -/
theorem CallFollows.allowed {i : ι} (hfollows : CallFollows lib calls credential c i) {o : Op}
    {k : Except JsError o.Resp → StoreM (Option RevocationDataResult)}
    (hcurrent : (c.thread i).current = .call o k) :
    (calls i).Allowed lib (credential i) (c.thread i).log o := by
  have hkeeps := hfollows.current
  rw [hcurrent, Prog.keeps_call] at hkeeps
  exact hkeeps.1

omit [DecidableEq ι] in
/-- The outcome of an attempt is final for its log. -/
theorem CallFollows.final {i : ι} (hfollows : CallFollows lib calls credential c i)
    {r : Except JsError (Option RevocationDataResult)}
    (hcurrent : (c.thread i).current = Prog.ofExcept r) :
    (calls i).Final lib (credential i) (c.thread i).log r := by
  have hkeeps := hfollows.current
  rwa [hcurrent, Prog.keeps_ofExcept] at hkeeps

end Runs

end Revocation
