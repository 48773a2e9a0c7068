/-
**What a call may do between its answers.**

When calls run at the same time, a call sees answers that depend on the others.  This module says,
for whatever answers, which operations the transaction of a call performs: which row it saves after
which row it found, and what it has saved when it returns.  The statements are about the programs
of the store, proved once by the rules for protocols; the modules about concurrent calls use them
and never look at a program again.

Main definitions:

* `Revocation.Call`, `Revocation.Call.program` — a call of a method, and its transaction;
* `Revocation.retryPolicy` — the retry loop, as the verdict on one attempt;
* `Revocation.foundData`, `Revocation.savedData`, `Revocation.foundList`, `Revocation.savedList` —
  what an attempt last found and saved, read off its log;
* `Revocation.Healthy` — no operation of the attempt has failed, except a lock that is not
  supported;
* `Revocation.Legal` — what the answers of any store have in common;
* `Revocation.Call.Allowed`, `Revocation.Call.Final` — the protocol of a call.

Main results:

* `Revocation.keeps_program` — **every call keeps to its protocol**.
-/

import Vckit.StatusBits
import Vckit.Threads

set_option relaxedAutoImplicit false
set_option autoImplicit false

namespace Revocation

/-! ### Calls -/

/-- A call of a method. -/
inductive Call where
  | getRevocationData (options : PluginOptions) (did : Text) (req : Context)
  | revokeCredential (options : PluginOptions) (hash : Text) (context : Context)
  | activateCredential (options : PluginOptions) (hash : Text) (context : Context)

/-- The hash of the credential whose status a call changes. -/
def Call.hash : Call → Option Text
  | .getRevocationData _ _ _ => none
  | .revokeCredential _ hash _ => some hash
  | .activateCredential _ hash _ => some hash

/-- The transaction of a call; a status change returns nothing. -/
def Call.program (lib : VcStatusRl2020) : Call → StoreM (Option RevocationDataResult)
  | .getRevocationData options did req => do
      let result ← getRevocationDataTransaction lib options did req
      return some result
  | .revokeCredential options hash context => do
      revokeCredentialTransaction lib options hash context
      return none
  | .activateCredential options hash context => do
      activateCredentialTransaction lib options hash context
      return none

/-- The retry loop, as the verdict on one attempt: what the function handed to
`manager.transaction` does with the outcome, and what the `while` loop does then. -/
def retryPolicy (maxRetries : ℕ) {α : Type} :
    Threads.Policy (BackoffVars α) JsError α (Option α) := fun vars r =>
  match attemptBody maxRetries (fun s : Unit => (r, s)) vars () with
  | ((.error e, _), _) => .throw e
  | ((.ok (), vars'), _) =>
      if vars'.isDone then .done vars'.data
      else if vars'.retries < maxRetries then .again vars'
      else .done vars'.data

section Policy

variable {α : Type} {maxRetries : ℕ} {vars vars' : BackoffVars α} {r : Except JsError α}

/-- An attempt that returns ends the loop. -/
theorem retryPolicy_ok (a : α) : retryPolicy maxRetries vars (.ok a) = .done (some a) := rfl

/-- Another attempt starts without a result. -/
theorem retryPolicy_again (h : retryPolicy maxRetries vars r = .again vars')
    (hvars : vars.data = none ∧ vars.isDone = false) :
    vars'.data = none ∧ vars'.isDone = false := by
  unfold retryPolicy attemptBody at h
  cases r with
  | ok a => simp at h
  | error e =>
      simp only at h
      split at h
      · cases h
      · rename_i heq
        split at heq
        · simp only [Prod.mk.injEq, true_and, and_true] at heq
          subst heq
          simp only [hvars.2, Bool.false_eq_true, if_false] at h
          split at h
          · cases h
            exact ⟨hvars.1, rfl⟩
          · cases h
        · simp at heq

/-- A call that returns a result has it from an attempt that returned. -/
theorem retryPolicy_done {a : α} (h : retryPolicy maxRetries vars r = .done (some a))
    (hvars : vars.data = none) : r = .ok a := by
  unfold retryPolicy attemptBody at h
  cases r with
  | ok b =>
      simp only [if_true, Threads.Verdict.done.injEq, Option.some.injEq] at h
      rw [h]
  | error e =>
      simp only at h
      split at h
      · cases h
      · rename_i heq
        split at heq
        · simp only [Prod.mk.injEq, true_and, and_true] at heq
          subst heq
          split at h
          · simp [hvars] at h
          · split at h
            · cases h
            · simp [hvars] at h
        · simp at heq

end Policy

/-! ### Logs -/

/-- An operation of an attempt, and its answer. -/
abbrev Event := Prog.Event Op Op.Resp JsError

/-- The row an operation found in `revocation-data`. -/
def dataFoundBy (o : Op) (r : Except JsError o.Resp) : Option (Option RevocationData) :=
  match o, r with
  | .findOneData _, .ok row => some row
  | _, _ => none

/-- The row an operation saved in `revocation-data`. -/
def dataSavedBy (o : Op) (r : Except JsError o.Resp) : Option RevocationData :=
  match o, r with
  | .insertData _, .ok row => some row
  | .updateData _, .ok row => some row
  | _, _ => none

/-- The row an operation found in `revocation-list`. -/
def listFoundBy (o : Op) (r : Except JsError o.Resp) : Option (Option RevocationList) :=
  match o, r with
  | .findOneList _, .ok row => some row
  | _, _ => none

/-- The row an operation saved in `revocation-list`. -/
def listSavedBy (o : Op) (r : Except JsError o.Resp) : Option RevocationList :=
  match o, r with
  | .insertList _, .ok row => some row
  | .updateList _, .ok row => some row
  | _, _ => none

/-- What the attempt last found in `revocation-data`. -/
def foundData : List Event → Option (Option RevocationData)
  | [] => none
  | event :: log => (dataFoundBy event.op event.answer).or (foundData log)

/-- What the attempt last saved in `revocation-data`. -/
def savedData : List Event → Option RevocationData
  | [] => none
  | event :: log => (dataSavedBy event.op event.answer).or (savedData log)

/-- What the attempt last found in `revocation-list`. -/
def foundList : List Event → Option (Option RevocationList)
  | [] => none
  | event :: log => (listFoundBy event.op event.answer).or (foundList log)

/-- What the attempt last saved in `revocation-list`. -/
def savedList : List Event → Option RevocationList
  | [] => none
  | event :: log => (listSavedBy event.op event.answer).or (savedList log)

/-- The operation got through, or was a lock the driver does not support. -/
def Sound (o : Op) (r : Except JsError o.Resp) : Prop :=
  ∀ e, r = .error e → e.name = lockNotSupported

/-- **No operation of the attempt has failed**, except a lock that is not supported. -/
def Healthy (log : List Event) : Prop := ∀ event ∈ log, Sound event.op event.answer

theorem healthy_nil : Healthy [] := fun _ h => by cases h

theorem healthy_cons {o : Op} {r : Except JsError o.Resp} {log : List Event} :
    Healthy (⟨o, r⟩ :: log) ↔ Sound o r ∧ Healthy log := by
  simp [Healthy]

theorem sound_ok (o : Op) (a : o.Resp) : Sound o (.ok a) := fun _ h => by cases h

/-- **What the answers of any store have in common**; the data store answers a call that concerns
`credential` with that credential. -/
def Legal (credential : Credential) (o : Op) (r : Except JsError o.Resp) : Prop :=
  match o, r with
  | .findOneData query, .ok (some row) => row.key = query
  | .insertData entity, .ok row => row = entity.toRow
  | .updateData entity, .ok row => row = entity
  | .findOneList query, .ok (some row) => query.accepts row.key = true
  | .insertList entity, .ok row => row = entity
  | .updateList entity, .ok row => row = entity
  | .didManagerGet did, .ok identifier => identifier.did = did
  | .createVerifiableCredential c, .ok vc => vc = c
  | .dataStoreGetVerifiableCredential _, .ok (some found) => found = credential
  | _, _ => True

/-! ### The protocols -/

/-- What the transaction of an allocation may do next. -/
def IssueAllowed (options : PluginOptions) (did : Text) (log : List Event) : Op → Prop
  | .lockData _ => foundData log = none
  | .lockList _ => foundList log = none
  | .findOneData query => query = ⟨options.revocationListPath, did⟩ ∧ savedData log = none
  | .insertData entity =>
      entity = ⟨options.revocationListPath, did, options.bitStringLength⟩ ∧
        foundData log = some none ∧ savedData log = none
  | .updateData entity =>
      (∃ row, foundData log = some (some row) ∧ row.key = ⟨options.revocationListPath, did⟩ ∧
        entity = row.advance options.bitStringLength) ∧ savedData log = none
  | .findOneList _ => savedList log = none
  | .insertList _ => savedList log = none
  | .updateList entity => foundList log = some (some entity) ∧ savedList log = none
  | .dataStoreGetVerifiableCredential _ | .transmuteCheckStatus _ => False
  | _ => True

/-- What holds when an allocation ends: it returns the counters it saved, and when it throws it has
saved no list. -/
def IssueFinal (options : PluginOptions) (did : Text) (log : List Event) :
    Except JsError (Option RevocationDataResult) → Prop
  | .ok result => Healthy log ∧ ∃ row, savedData log = some row ∧
      row.key = ⟨options.revocationListPath, did⟩ ∧ result =
        some ⟨options.revocationListPath ++ listPath did row.listCounter, row.indexCounter⟩
  | .error _ => savedList log = none

/-- A list before and after a bit was set and it was signed again. -/
def StatusWritten (lib : VcStatusRl2020) (index : Option ℕ) (revoked : Bool)
    (row row' : RevocationList) : Prop :=
  ∃ decoded list vc, lib.decodeList row.verifiableCredential.encodedList = .ok decoded ∧
    lib.setRevoked decoded index revoked = .ok list ∧
    Encodes lib row.verifiableCredential.id row.verifiableCredential.issuer list vc ∧
    row' = { row with verifiableCredential := vc }

/-- What the transaction of a status change may do next. -/
def StatusAllowed (lib : VcStatusRl2020) (options : PluginOptions) (hash : Text)
    (credential : Credential) (revoked : Bool) (log : List Event) : Op → Prop
  | .dataStoreGetVerifiableCredential asked => asked = hash
  | .lockList _ => foundList log = none
  | .findOneList query =>
      revocationListFullUrlPathOf options.revocationListPath credential =
          .ok query.revocationListFullUrlPath ∧
        query.revocationVCIssuer = none ∧ savedList log = none
  | .updateList entity =>
      (∃ row, foundList log = some (some row) ∧
        StatusWritten lib credential.revocationListIndex revoked row entity) ∧ savedList log = none
  | .lockData _ | .findOneData _ | .insertData _ | .updateData _ | .insertList _ => False
  | _ => True

/-- What holds when a status change ends: it has saved the list it found with one bit set, and
when it throws it has saved none. -/
def StatusFinal (lib : VcStatusRl2020) (credential : Credential) (revoked : Bool)
    (log : List Event) : Except JsError (Option RevocationDataResult) → Prop
  | .ok _ => Healthy log ∧ ∃ row row', foundList log = some (some row) ∧
      savedList log = some row' ∧
      StatusWritten lib credential.revocationListIndex revoked row row'
  | .error _ => savedList log = none

/-- What the transaction of a call may do next. -/
def Call.Allowed (lib : VcStatusRl2020) (credential : Credential) (log : List Event) (o : Op) :
    Call → Prop
  | .getRevocationData options did _ => Healthy log ∧ IssueAllowed options did log o
  | .revokeCredential options hash _ =>
      Healthy log ∧ StatusAllowed lib options hash credential true log o
  | .activateCredential options hash _ =>
      Healthy log ∧ StatusAllowed lib options hash credential false log o

/-- What holds when the transaction of a call ends. -/
def Call.Final (lib : VcStatusRl2020) (credential : Credential) (log : List Event)
    (r : Except JsError (Option RevocationDataResult)) : Call → Prop
  | .getRevocationData options did _ => IssueFinal options did log r
  | .revokeCredential _ _ _ => StatusFinal lib credential true log r
  | .activateCredential _ _ _ => StatusFinal lib credential false log r

theorem Call.Final.healthy {lib : VcStatusRl2020} {credential : Credential} {log : List Event}
    {a : Option RevocationDataResult} {call : Call}
    (h : call.Final lib credential log (.ok a)) : Healthy log := by
  cases call <;> exact h.1

theorem Call.Final.savedList_eq_none {lib : VcStatusRl2020} {credential : Credential}
    {log : List Event} {e : JsError} {call : Call}
    (h : call.Final lib credential log (.error e)) : savedList log = none := by
  cases call <;> exact h

/-! ### Parts of the transactions -/

section Parts

variable {lib : VcStatusRl2020} {credential : Credential} {log : List Event}
  {allowed : List Event → Op → Prop}

/-- A lock that fails is an error, unless the driver has no locks. -/
theorem keeps_ignoreLockNotSupported {o : Op} {final : List Event → Except JsError Unit → Prop}
    (hok : ∀ r, Sound o r → final (⟨o, r⟩ :: log) (.ok ()))
    (herror : ∀ e, final (⟨o, .error e⟩ :: log) (.error e)) (e : JsError) :
    Prog.Keeps allowed (Legal credential) final (ignoreLockNotSupported e)
      (⟨o, .error e⟩ :: log) := by
  unfold ignoreLockNotSupported
  split
  · rename_i hname
    refine hok _ ?_
    intro e' he
    cases he
    exact hname
  · exact herror e

/-- Locking counters. -/
theorem keeps_lockRevocationData {query : DataKey} {final : List Event → Except JsError Unit → Prop}
    (hallowed : allowed log (.lockData query))
    (hok : ∀ r, Sound (.lockData query) r → final (⟨.lockData query, r⟩ :: log) (.ok ()))
    (herror : ∀ e, final (⟨.lockData query, .error e⟩ :: log) (.error e)) :
    Prog.Keeps allowed (Legal credential) final (lockRevocationData query) log := by
  rw [lockRevocationData, Prog.keeps_tryCatch]
  refine Prog.keeps_perform hallowed ?_
  intro r _
  cases r with
  | ok a => exact hok _ (sound_ok _ a)
  | error e => exact keeps_ignoreLockNotSupported hok herror e

/-- Locking a list. -/
theorem keeps_lockRevocationList {query : ListQuery}
    {final : List Event → Except JsError Unit → Prop} (hallowed : allowed log (.lockList query))
    (hok : ∀ r, Sound (.lockList query) r → final (⟨.lockList query, r⟩ :: log) (.ok ()))
    (herror : ∀ e, final (⟨.lockList query, .error e⟩ :: log) (.error e)) :
    Prog.Keeps allowed (Legal credential) final (lockRevocationList query) log := by
  rw [lockRevocationList, Prog.keeps_tryCatch]
  refine Prog.keeps_perform hallowed ?_
  intro r _
  cases r with
  | ok a => exact hok _ (sound_ok _ a)
  | error e => exact keeps_ignoreLockNotSupported hok herror e

/-- Signing a list. -/
theorem keeps_createRevocationListVC {path : Text} {source : ℕ ⊕ RevocationList2020}
    {issuer : Text} {context : Context} {final : List Event → Except JsError ListCredential → Prop}
    (hallowed : ∀ c, allowed log (.createVerifiableCredential c))
    (hok : ∀ list vc, source.elim lib.createList Except.ok = .ok list →
      Encodes lib path issuer list vc →
      final (⟨.createVerifiableCredential vc, .ok vc⟩ :: log) (.ok vc))
    (hthrow : ∀ e, final log (.error e))
    (herror : ∀ c e, final (⟨.createVerifiableCredential c, .error e⟩ :: log) (.error e)) :
    Prog.Keeps allowed (Legal credential) final
      (createRevocationListVC lib path source issuer context) log := by
  unfold createRevocationListVC
  split
  · exact hthrow _
  · rw [Prog.keeps_bind, Prog.keeps_ofExcept]
    cases hlist : source.elim lib.createList Except.ok with
    | error e => exact hthrow e
    | ok list =>
        dsimp only
        rw [Prog.keeps_bind, Prog.keeps_ofExcept]
        cases hc : lib.createCredential path list with
        | error e => exact hthrow e
        | ok c =>
            refine Prog.keeps_perform (hallowed _) ?_
            intro r hr
            cases r with
            | error e => exact herror _ e
            | ok vc =>
                obtain rfl : vc = { c with issuer } := hr
                exact hok list _ hlist ⟨c, hc, rfl⟩

end Parts

/-! ### Allocations -/

/-- How far an allocation has come: nothing has failed, `saved` is the row of counters it has
saved, and it has saved no list. -/
structure Stage (log : List Event) (saved : Option RevocationData) : Prop where
  healthy : Healthy log
  data : savedData log = saved
  list : savedList log = none

theorem stage_nil : Stage [] none := ⟨healthy_nil, rfl, rfl⟩

/-- An operation that gets through and saves nothing. -/
theorem Stage.cons {log : List Event} {saved : Option RevocationData} (h : Stage log saved) {o : Op}
    {r : Except JsError o.Resp} (hsound : Sound o r) (hdata : dataSavedBy o r = none)
    (hlist : listSavedBy o r = none) : Stage (⟨o, r⟩ :: log) saved := by
  refine ⟨healthy_cons.2 ⟨hsound, h.healthy⟩, ?_, ?_⟩
  · simp [savedData, hdata, h.data]
  · simp [savedList, hlist, h.list]

/-- An allocation that has not read a list yet. -/
structure Unread (log : List Event) (saved : Option RevocationData) : Prop
    extends Stage log saved where
  unread : foundList log = none

theorem Unread.cons {log : List Event} {saved : Option RevocationData} (h : Unread log saved)
    {o : Op} {r : Except JsError o.Resp} (hsound : Sound o r) (hdata : dataSavedBy o r = none)
    (hlist : listSavedBy o r = none) (hfound : listFoundBy o r = none) :
    Unread (⟨o, r⟩ :: log) saved where
  toStage := h.toStage.cons hsound hdata hlist
  unread := by simp [foundList, hfound, h.unread]

/-- An operation that fails saves nothing. -/
theorem savedList_cons_error {o : Op} {e : JsError} {log : List Event}
    (h : savedList log = none) : savedList (⟨o, .error e⟩ :: log) = none := by
  cases o <;> simpa [savedList, listSavedBy] using h

section Allocation

variable {lib : VcStatusRl2020} {credential : Credential} {options : PluginOptions} {did : Text}
  {log : List Event}

/-- The operations an allocation may perform, when nothing has failed. -/
def issueAllowed (options : PluginOptions) (did : Text) (log : List Event) (o : Op) : Prop :=
  Healthy log ∧ IssueAllowed options did log o

theorem keeps_revocationVCIdentifier {req : Context} {n : ℕ} {path : Text}
    (h : Unread log none) (hread : foundData log = none) :
    Prog.Keeps (issueAllowed options did) (Legal credential)
      (fun log' r =>
        match r with
        | .ok identifier => identifier.did = did ∧ Unread log' none ∧ foundData log' = none
        | .error _ => savedList log' = none)
      (revocationVCIdentifier ⟨path, n, did, req⟩) log := by
  unfold revocationVCIdentifier
  split
  · exact h.list
  · rw [Prog.keeps_tryCatch]
    refine Prog.keeps_perform ⟨h.healthy, trivial⟩ ?_
    intro r hr
    cases r with
    | ok identifier => exact ⟨hr, h.cons (sound_ok _ _) rfl rfl rfl, hread⟩
    | error e => exact savedList_cons_error h.list

theorem keeps_upsertRevocationData (h : Unread log none) (hread : foundData log = none) :
    Prog.Keeps (issueAllowed options did) (Legal credential)
      (fun log' r =>
        match r with
        | .ok row => Unread log' (some row) ∧ row.key = ⟨options.revocationListPath, did⟩
        | .error _ => savedList log' = none)
      (upsertRevocationData ⟨options.revocationListPath, did, options.bitStringLength⟩) log := by
  unfold upsertRevocationData
  dsimp only
  rw [Prog.keeps_bind]
  refine keeps_lockRevocationData ⟨h.healthy, hread⟩ ?_ (fun e => savedList_cons_error h.list)
  intro lock hlock
  have hlocked : Unread (⟨.lockData ⟨options.revocationListPath, did⟩, lock⟩ :: log) none :=
    h.cons hlock (by cases lock <;> rfl) (by cases lock <;> rfl) (by cases lock <;> rfl)
  dsimp only
  rw [Prog.keeps_bind]
  refine Prog.keeps_perform ⟨hlocked.healthy, rfl, hlocked.data⟩ ?_
  intro r hr
  cases r with
  | error e => exact savedList_cons_error hlocked.list
  | ok found =>
      have hfound := hlocked.cons (sound_ok (.findOneData ⟨options.revocationListPath, did⟩) found)
        rfl rfl rfl
      cases found with
      | none =>
          refine Prog.keeps_perform ⟨hfound.healthy, rfl, rfl, hfound.data⟩ ?_
          intro r hrow
          cases r with
          | error e => exact savedList_cons_error hfound.list
          | ok row =>
              obtain rfl : row = NewRevocationData.toRow _ := hrow
              exact ⟨⟨⟨healthy_cons.2 ⟨sound_ok _ _, hfound.healthy⟩, rfl, hfound.list⟩,
                hfound.unread⟩, rfl⟩
      | some found =>
          have hkey : found.key = ⟨options.revocationListPath, did⟩ := hr
          refine Prog.keeps_perform ⟨hfound.healthy, ⟨found, rfl, hkey, rfl⟩, hfound.data⟩ ?_
          intro r hrow
          cases r with
          | error e => exact savedList_cons_error hfound.list
          | ok row =>
              obtain rfl : row = found.advance options.bitStringLength := hrow
              exact ⟨⟨⟨healthy_cons.2 ⟨sound_ok _ _, hfound.healthy⟩, rfl, hfound.list⟩,
                hfound.unread⟩, (key_advance found _).trans hkey⟩

theorem keeps_createRevocationList (lib : VcStatusRl2020) (credential : Credential)
    (options : PluginOptions) (did : Text) (args : UpsertRevocationListArgs) {row : RevocationData}
    (h : Stage log (some row)) :
    Prog.Keeps (issueAllowed options did) (Legal credential)
      (fun log' r =>
        match r with
        | .ok _ => Healthy log' ∧ savedData log' = some row
        | .error _ => savedList log' = none)
      (createRevocationList lib args) log := by
  unfold createRevocationList
  rw [Prog.keeps_bind]
  refine keeps_createRevocationListVC (fun _ => ⟨h.healthy, trivial⟩) ?_ (fun _ => h.list)
    (fun _ _ => savedList_cons_error h.list)
  intro list vc _ _
  have hsigned := h.cons (sound_ok (.createVerifiableCredential vc) vc) rfl rfl
  refine Prog.keeps_perform ⟨hsigned.healthy, hsigned.list⟩ ?_
  intro r _
  cases r with
  | error e => exact savedList_cons_error hsigned.list
  | ok saved =>
      refine ⟨healthy_cons.2 ⟨sound_ok _ _, hsigned.healthy⟩, ?_⟩
      simpa [savedData, dataSavedBy] using h.data

theorem keeps_upsertRevocationList {row : RevocationData} {args : UpsertRevocationListArgs}
    (h : Unread log (some row)) :
    Prog.Keeps (issueAllowed options did) (Legal credential)
      (fun log' r =>
        match r with
        | .ok _ => Healthy log' ∧ savedData log' = some row
        | .error _ => savedList log' = none)
      (upsertRevocationList lib args) log := by
  unfold upsertRevocationList
  rw [Prog.keeps_mapError, Prog.keeps_bind]
  refine keeps_lockRevocationList ⟨h.healthy, h.unread⟩ ?_ (fun e => savedList_cons_error h.list)
  intro lock hlock
  have hlocked : Stage (⟨.lockList ⟨args.revocationListFullUrlPath,
      some args.revocationVCIdentifierDid⟩, lock⟩ :: log) (some row) :=
    h.toStage.cons hlock (by cases lock <;> rfl) (by cases lock <;> rfl)
  dsimp only
  rw [Prog.keeps_bind]
  refine Prog.keeps_perform ⟨hlocked.healthy, hlocked.list⟩ ?_
  intro r _
  cases r with
  | error e => exact savedList_cons_error hlocked.list
  | ok found =>
      have hfound := hlocked.cons (sound_ok (.findOneList ⟨args.revocationListFullUrlPath,
        some args.revocationVCIdentifierDid⟩) found) rfl rfl
      have hcreate := keeps_createRevocationList lib credential options did args hfound
      cases found with
      | none => exact hcreate.mono (fun _ r hr => by cases r <;> exact hr)
      | some list =>
          dsimp only
          split
          · exact hcreate.mono (fun _ r hr => by cases r <;> exact hr)
          · refine Prog.keeps_perform ⟨hfound.healthy, rfl, hfound.list⟩ ?_
            intro r _
            cases r with
            | error e => exact savedList_cons_error hfound.list
            | ok saved =>
                refine ⟨healthy_cons.2 ⟨sound_ok _ _, hfound.healthy⟩, ?_⟩
                simpa [savedData, dataSavedBy] using h.data

/-- **An allocation keeps to its protocol.** -/
theorem keeps_issueRevocationData (lib : VcStatusRl2020) (credential : Credential)
    (options : PluginOptions) (did : Text) (req : Context) :
    Prog.Keeps (issueAllowed options did) (Legal credential)
      (fun log r =>
        match r with
        | .ok result => Healthy log ∧ ∃ row, savedData log = some row ∧
            row.key = ⟨options.revocationListPath, did⟩ ∧ result =
            ⟨options.revocationListPath ++ listPath did row.listCounter, row.indexCounter⟩
        | .error _ => savedList log = none)
      (issueRevocationData lib ⟨options.revocationListPath, options.bitStringLength, did, req⟩)
      [] := by
  unfold issueRevocationData
  rw [Prog.keeps_mapError]
  split
  · rfl
  · split
    · rfl
    · rw [Prog.keeps_bind]
      refine (keeps_revocationVCIdentifier ⟨stage_nil, rfl⟩ rfl).mono ?_
      intro log r hr
      cases r with
      | error e => exact hr
      | ok identifier =>
          obtain ⟨hdid, hstage, hread⟩ := hr
          obtain ⟨did'⟩ := identifier
          obtain rfl : did' = did := hdid
          dsimp only
          rw [Prog.keeps_bind]
          refine (keeps_upsertRevocationData hstage hread).mono ?_
          intro log r hr
          cases r with
          | error e => exact hr
          | ok row =>
              obtain ⟨hstage, hkey⟩ := hr
              dsimp only
              rw [Prog.keeps_bind]
              refine (keeps_upsertRevocationList hstage).mono ?_
              intro log r hr
              cases r with
              | error e => exact hr
              | ok _ => exact ⟨hr.1, row, hr.2, hkey, rfl⟩

end Allocation

/-! ### Status changes -/

section StatusChange

variable {lib : VcStatusRl2020} {credential : Credential} {options : PluginOptions} {hash : Text}
  {revoked : Bool} {log : List Event}

/-- The operations a status change may perform, when nothing has failed. -/
def statusAllowed (lib : VcStatusRl2020) (options : PluginOptions) (hash : Text)
    (credential : Credential) (revoked : Bool) (log : List Event) (o : Op) : Prop :=
  Healthy log ∧ StatusAllowed lib options hash credential revoked log o

/-- What a status change ends with, whatever it returns. -/
def StatusEnded (lib : VcStatusRl2020) (credential : Credential) (revoked : Bool)
    (log : List Event) : Except JsError Unit → Prop
  | .ok _ => Healthy log ∧ ∃ row row', foundList log = some (some row) ∧
      savedList log = some row' ∧
      StatusWritten lib credential.revocationListIndex revoked row row'
  | .error _ => savedList log = none

theorem keeps_updateRevocationListVC {context : Context} {row : RevocationList}
    (h : Stage log none) (hfound : foundList log = some (some row)) :
    Prog.Keeps (statusAllowed lib options hash credential revoked) (Legal credential)
      (StatusEnded lib credential revoked)
      (updateRevocationListVC lib ⟨context, row, credential.revocationListIndex, revoked⟩) log := by
  unfold updateRevocationListVC
  rw [Prog.keeps_mapError, Prog.keeps_bind, Prog.keeps_ofExcept]
  cases hdecode : lib.decodeList row.verifiableCredential.encodedList with
  | error e => exact h.list
  | ok decoded =>
      dsimp only
      rw [Prog.keeps_bind, Prog.keeps_ofExcept]
      cases hset : lib.setRevoked decoded credential.revocationListIndex revoked with
      | error e => exact h.list
      | ok list =>
          dsimp only
          rw [Prog.keeps_bind]
          refine keeps_createRevocationListVC (fun _ => ⟨h.healthy, trivial⟩) ?_ (fun _ => h.list)
            (fun _ _ => savedList_cons_error h.list)
          intro list' vc hlist' hencodes
          obtain rfl : list = list' := by simpa using hlist'
          have hsigned := h.cons (sound_ok (.createVerifiableCredential vc) vc) rfl rfl
          have hwritten : StatusWritten lib credential.revocationListIndex revoked row
              { row with verifiableCredential := vc } :=
            ⟨decoded, list, vc, hdecode, hset, hencodes, rfl⟩
          dsimp only
          rw [Prog.keeps_bind]
          refine Prog.keeps_perform ⟨hsigned.healthy, ⟨row, hfound, hwritten⟩, hsigned.list⟩ ?_
          intro r hr
          cases r with
          | error e => exact savedList_cons_error hsigned.list
          | ok saved =>
              obtain rfl : saved = { row with verifiableCredential := vc } := hr
              exact ⟨healthy_cons.2 ⟨sound_ok _ _, hsigned.healthy⟩, row, _, hfound, rfl, hwritten⟩

/-- **A status change keeps to its protocol.** -/
theorem keeps_setCredentialStatus (alreadySet : Text) (context : Context) :
    Prog.Keeps (statusAllowed lib options hash credential revoked) (Legal credential)
      (StatusEnded lib credential revoked)
      (setCredentialStatus lib options alreadySet revoked hash context) [] := by
  unfold setCredentialStatus credentialByHash
  rw [Prog.keeps_bind]
  split
  · rfl
  · rw [Prog.keeps_bind]
    refine Prog.keeps_perform ⟨healthy_nil, rfl⟩ ?_
    intro r hr
    cases r with
    | error e => rfl
    | ok stored =>
        have hstored := stage_nil.cons (sound_ok (.dataStoreGetVerifiableCredential hash) stored)
          rfl rfl
        cases stored with
        | none => rfl
        | some found =>
            obtain rfl : found = credential := hr
            dsimp only
            unfold checkStatusOf
            rw [Prog.keeps_ret]
            dsimp only
            rw [Prog.keeps_bind, Prog.keeps_bind]
            refine Prog.keeps_perform ⟨hstored.healthy, trivial⟩ ?_
            intro r _
            cases r with
            | error e => exact savedList_cons_error hstored.list
            | ok verified =>
                have hchecked := hstored.cons (sound_ok (.transmuteCheckStatus found) verified)
                  rfl rfl
                dsimp only
                rw [Prog.pure_eq, Prog.keeps_ret]
                dsimp only
                split
                · exact hchecked.list
                · rw [Prog.keeps_bind, Prog.keeps_ofExcept]
                  cases hpath : revocationListFullUrlPathOf options.revocationListPath found with
                  | error e => exact hchecked.list
                  | ok path =>
                      dsimp only
                      rw [Prog.keeps_bind]
                      refine keeps_lockRevocationList ⟨hchecked.healthy, rfl⟩ ?_
                        (fun e => savedList_cons_error hchecked.list)
                      intro lock hlock
                      have hlocked : Stage (⟨.lockList ⟨path, none⟩, lock⟩ :: _) none :=
                        hchecked.cons hlock (by cases lock <;> rfl) (by cases lock <;> rfl)
                      dsimp only
                      unfold getRevocationList
                      rw [Prog.keeps_bind, Prog.keeps_mapError, Prog.keeps_bind]
                      refine Prog.keeps_perform ⟨hlocked.healthy, hpath, rfl, hlocked.list⟩ ?_
                      intro r _
                      cases r with
                      | error e => exact savedList_cons_error hlocked.list
                      | ok row =>
                          have hrow := hlocked.cons (sound_ok (.findOneList ⟨path, none⟩) row)
                            rfl rfl
                          cases row with
                          | none => exact hrow.list
                          | some row => exact keeps_updateRevocationListVC hrow rfl

end StatusChange

/-- **Every call keeps to its protocol.** -/
theorem keeps_program (lib : VcStatusRl2020) (credential : Credential) (call : Call) :
    Prog.Keeps (fun log o => call.Allowed lib credential log o) (Legal credential)
      (fun log r => call.Final lib credential log r) (call.program lib) [] := by
  cases call with
  | getRevocationData options did req =>
      unfold Call.program
      rw [Prog.keeps_bind]
      refine (keeps_issueRevocationData lib credential options did req).mono ?_
      intro log r hr
      cases r with
      | error e => exact hr
      | ok result =>
          obtain ⟨hhealthy, row, hrow, hkey, rfl⟩ := hr
          exact ⟨hhealthy, row, hrow, hkey, rfl⟩
  | revokeCredential options hash context =>
      unfold Call.program
      rw [Prog.keeps_bind]
      refine (keeps_setCredentialStatus _ context).mono ?_
      intro log r hr
      cases r with
      | error e => exact hr
      | ok _ => exact hr
  | activateCredential options hash context =>
      unfold Call.program
      rw [Prog.keeps_bind]
      refine (keeps_setCredentialStatus _ context).mono ?_
      intro log r hr
      cases r with
      | error e => exact hr
      | ok _ => exact hr

end Revocation
