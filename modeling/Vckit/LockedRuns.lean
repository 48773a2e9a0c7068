/-
**Concurrent calls on a database with row locks.**

The plugin takes shared locks before it reads a row that it is going to write.  A transaction that
has locked the row it found can rely on it, so what it writes comes on top of what everyone else
has committed.  What the lock cannot cover is a row that is not there yet: when several calls hand
out the first entry of an issuer, none of them locks anything, and those that come second find a
row they have not locked.  Two of them may then save the same counters.  This is shown on a
schedule of three calls, with unique indexes and all.

When no attempt saves over a row that it has not locked and that has changed since, the entries
handed out are different and every commit changes what it is meant to change, in any run of any
number of calls.

Main definitions:

* `Revocation.SavesStored` — no save is made over a row that has changed without a lock;
* `Revocation.Serialized` — the invariant: every open transaction is a session by its rules, and
  the counters that have been handed out are different and lie before those stored;
* `Revocation.Call.CommitEffect` — what a commit is meant to change in the lists.

Main results:

* `Revocation.Serialized.step` — the invariant of one step;
* `Revocation.locked_calls` — **what holds of concurrent calls under locks**;
* `Revocation.getRevocationData_first_entries` — three first allocations, two of them with one
  entry.
-/

import Vckit.LockedStore
import Vckit.Allocation

set_option relaxedAutoImplicit false
set_option autoImplicit false

namespace Revocation

variable {ι : Type}

/-! ### Rules -/

/-- What a call may do with the counters. -/
def dataRules : LockTable.Rules RevocationData DataKey where
  queries q := ∃ query : DataKey, q = fun k => decide (k = query)
  inserts := True
  rewrites found row := ∃ n, row = found.advance n
  copies := False

/-- The queries with which a call looks for a list: a status change asks for the path in its
credential. -/
def Call.Queries (credential : Credential) (query : ListQuery) : Call → Prop
  | .getRevocationData _ _ _ => True
  | .revokeCredential options _ _ | .activateCredential options _ _ =>
      revocationListFullUrlPathOf options.revocationListPath credential =
        .ok query.revocationListFullUrlPath ∧ query.revocationVCIssuer = none

/-- How the list that a call saves depends on the one it has found. -/
def Call.Rewrites (lib : VcStatusRl2020) (credential : Credential) (found list : RevocationList) :
    Call → Prop
  | .getRevocationData _ _ _ => list = found
  | .revokeCredential _ _ _ => StatusWritten lib credential.revocationListIndex true found list
  | .activateCredential _ _ _ => StatusWritten lib credential.revocationListIndex false found list

/-- What a call may do with the lists: only an allocation creates one. -/
def Call.listRules (lib : VcStatusRl2020) (credential : Credential) (call : Call) :
    LockTable.Rules RevocationList ListKey where
  queries q := ∃ query, q = query.accepts ∧ call.Queries credential query
  inserts := call.hash = none
  rewrites found list := call.Rewrites lib credential found list
  copies := call.hash = none

/-- What the protocol of a call says of the counters. -/
def DataAllowed (log : List Event) : Op → Prop
  | .lockData _ => foundData log = none
  | .findOneData _ | .insertData _ => savedData log = none
  | .updateData entity =>
      (∃ found n, foundData log = some (some found) ∧ entity = found.advance n) ∧
        savedData log = none
  | _ => True

/-- What the protocol of a call says of the lists. -/
def ListAllowed (lib : VcStatusRl2020) (credential : Credential) (call : Call)
    (log : List Event) : Op → Prop
  | .lockList _ => foundList log = none
  | .findOneList query => call.Queries credential query ∧ savedList log = none
  | .insertList _ => call.hash = none ∧ savedList log = none
  | .updateList entity =>
      (∃ found, foundList log = some (some found) ∧ call.Rewrites lib credential found entity) ∧
        savedList log = none
  | _ => True

section Allowed

variable {lib : VcStatusRl2020} {credential : Credential} {call : Call} {log : List Event} {o : Op}

theorem Call.Allowed.healthy (h : call.Allowed lib credential log o) : Healthy log := by
  cases call <;> exact h.1

theorem Call.Allowed.data (h : call.Allowed lib credential log o) : DataAllowed log o := by
  cases call with
  | getRevocationData options did req =>
      have hissue : IssueAllowed options did log o := h.2
      cases o with
      | lockData _ => exact hissue
      | findOneData _ => exact hissue.2
      | insertData _ => exact hissue.2.2
      | updateData _ =>
          obtain ⟨⟨row, hfound, -, hentity⟩, hsaved⟩ := hissue
          exact ⟨⟨row, _, hfound, hentity⟩, hsaved⟩
      | _ => trivial
  | revokeCredential options hash context =>
      have hstatus : StatusAllowed lib options hash credential true log o := h.2
      cases o with
      | lockData _ | findOneData _ | insertData _ | updateData _ => exact hstatus.elim
      | _ => trivial
  | activateCredential options hash context =>
      have hstatus : StatusAllowed lib options hash credential false log o := h.2
      cases o with
      | lockData _ | findOneData _ | insertData _ | updateData _ => exact hstatus.elim
      | _ => trivial

theorem Call.Allowed.list (h : call.Allowed lib credential log o) :
    ListAllowed lib credential call log o := by
  cases call with
  | getRevocationData options did req =>
      have hissue : IssueAllowed options did log o := h.2
      cases o with
      | lockList _ => exact hissue
      | findOneList _ => exact ⟨trivial, hissue⟩
      | insertList _ => exact ⟨rfl, hissue⟩
      | updateList entity => exact ⟨⟨entity, hissue.1, rfl⟩, hissue.2⟩
      | _ => trivial
  | revokeCredential options hash context =>
      have hstatus : StatusAllowed lib options hash credential true log o := h.2
      cases o with
      | lockList _ => exact hstatus
      | findOneList _ => exact ⟨⟨hstatus.1, hstatus.2.1⟩, hstatus.2.2⟩
      | insertList _ => exact hstatus.elim
      | updateList _ => exact hstatus
      | _ => trivial
  | activateCredential options hash context =>
      have hstatus : StatusAllowed lib options hash credential false log o := h.2
      cases o with
      | lockList _ => exact hstatus
      | findOneList _ => exact ⟨⟨hstatus.1, hstatus.2.1⟩, hstatus.2.2⟩
      | insertList _ => exact hstatus.elim
      | updateList _ => exact hstatus
      | _ => trivial

/-- A list that is saved has the key of the one that was found. -/
theorem Call.Rewrites.key_eq {found list : RevocationList}
    (h : call.Rewrites lib credential found list) : list.key = found.key := by
  cases call with
  | getRevocationData options did req => rw [show list = found from h]
  | revokeCredential options hash context =>
      obtain ⟨_, _, _, -, -, -, rfl⟩ := h
      rfl
  | activateCredential options hash context =>
      obtain ⟨_, _, _, -, -, -, rfl⟩ := h
      rfl

end Allowed

/-! ### Sessions of calls -/

section Sessions

variable [DecidableEq ι] {i : ι} {o : Op} {r : Except JsError o.Resp} {log : List Event}

/-- **One access to the counters** keeps the session. -/
theorem DataAccess.session {t t' : LockTable ι RevocationData.key} (h : DataAccess i t o r t')
    (hsession : LockTable.Session dataRules t i (Healthy log) (foundData log) (savedData log))
    (hhealthy : Healthy log) (hallowed : DataAllowed log o)
    (hstill : ∀ {entity}, o = .updateData entity →
      t.Holds i entity.key ∨ foundData log = some (t.committed.lookup entity.key)) :
    LockTable.Session dataRules t' i (Healthy (⟨o, r⟩ :: log)) (foundData (⟨o, r⟩ :: log))
      (savedData (⟨o, r⟩ :: log)) := by
  have hbefore : Healthy (⟨o, r⟩ :: log) → Healthy log := fun h => (healthy_cons.1 h).2
  cases h with
  | other hfound hsaved =>
      rw [foundData, hfound, Option.none_or, savedData, hsaved, Option.none_or]
      exact hsession.other hbefore
  | aborted hfound hsaved herror =>
      exact LockTable.Session.aborted fun hh => herror (healthy_cons.1 hh).1
  | locked hlock =>
      have hfound : foundData log = none := hallowed
      rw [hfound] at hsession
      show LockTable.Session dataRules t' i _ (foundData log) (savedData log)
      rw [hfound]
      exact hsession.locked hbefore hlock
  | @found query =>
      have hsaved : savedData log = none := hallowed
      rw [hsaved] at hsession
      show LockTable.Session dataRules t i _ _ (savedData log)
      rw [hsaved]
      exact hsession.queried ⟨query, rfl⟩
  | inserted hinsert =>
      have hsaved : savedData log = none := hallowed
      rw [hsaved] at hsession
      exact hsession.inserted trivial hinsert
  | @updated entity _ hupdate =>
      obtain ⟨⟨found, n, hfound, rfl⟩, hsaved⟩ := hallowed
      rw [hfound, hsaved] at hsession
      show LockTable.Session dataRules t' i _ (foundData log) _
      rw [hfound]
      refine hsession.updated hhealthy ⟨n, rfl⟩ (key_advance found n) ?_ hupdate
      rcases hstill rfl with hholds | hsame
      · exact Or.inl (by rwa [key_advance] at hholds)
      · rw [hfound, key_advance, Option.some.injEq] at hsame
        refine Or.inr ⟨hsame.symm, Or.inr ?_⟩
        intro heq
        have hlt := counters_lt_advance found n
        rw [heq] at hlt
        exact lt_irrefl _ hlt

/-- **One access to the lists** keeps the session. -/
theorem ListAccess.session {lib : VcStatusRl2020} {credential : Credential} {call : Call}
    {t t' : LockTable ι RevocationList.key} (h : ListAccess i t o r t')
    (hsession : LockTable.Session (call.listRules lib credential) t i (Healthy log)
      (foundList log) (savedList log))
    (hhealthy : Healthy log) (hallowed : ListAllowed lib credential call log o)
    (hstill : ∀ {entity}, o = .updateList entity →
      t.Holds i entity.key ∨ (foundList log = some (t.committed.lookup entity.key) ∧
        (call.hash = none ∨ t.committed.lookup entity.key ≠ some entity))) :
    LockTable.Session (call.listRules lib credential) t' i (Healthy (⟨o, r⟩ :: log))
      (foundList (⟨o, r⟩ :: log)) (savedList (⟨o, r⟩ :: log)) := by
  have hbefore : Healthy (⟨o, r⟩ :: log) → Healthy log := fun h => (healthy_cons.1 h).2
  cases h with
  | other hfound hsaved =>
      rw [foundList, hfound, Option.none_or, savedList, hsaved, Option.none_or]
      exact hsession.other hbefore
  | aborted hfound hsaved herror =>
      exact LockTable.Session.aborted fun hh => herror (healthy_cons.1 hh).1
  | locked hlock =>
      have hfound : foundList log = none := hallowed
      rw [hfound] at hsession
      show LockTable.Session _ t' i _ (foundList log) (savedList log)
      rw [hfound]
      exact hsession.locked hbefore hlock
  | @found query =>
      have hsaved : savedList log = none := hallowed.2
      rw [hsaved] at hsession
      show LockTable.Session _ t i _ _ (savedList log)
      rw [hsaved]
      exact hsession.queried ⟨query, rfl, hallowed.1⟩
  | inserted hinsert =>
      have hsaved : savedList log = none := hallowed.2
      rw [hsaved] at hsession
      exact hsession.inserted hallowed.1 hinsert
  | @updated entity _ hupdate =>
      obtain ⟨⟨found, hfound, hrewrites⟩, hsaved⟩ := hallowed
      rw [hfound, hsaved] at hsession
      show LockTable.Session _ t' i _ (foundList log) _
      rw [hfound]
      refine hsession.updated hhealthy hrewrites hrewrites.key_eq ?_ hupdate
      rcases hstill rfl with hholds | ⟨hsame, hchanged⟩
      · exact Or.inl (by rwa [hrewrites.key_eq] at hholds)
      · rw [hfound, Option.some.injEq] at hsame
        rw [← hsame] at hchanged
        rw [hrewrites.key_eq] at hsame
        refine Or.inr ⟨hsame.symm, ?_⟩
        exact hchanged.imp_right fun hne heq => hne (congrArg some heq.symm)

end Sessions

/-! ### Commits -/

section Commits

variable [DecidableEq ι] {i : ι} {t : LockTable ι RevocationData.key} {healthy : Prop}
  {found : Option (Option RevocationData)} {saved : Option RevocationData} {row : RevocationData}

/-- **Counters that are committed** lie after those that were stored. -/
theorem lookup_commit_of_written (h : LockTable.Written dataRules t i row) :
    (t.commit i).committed.lookup row.key = some row ∧
      ∀ {row'}, t.committed.lookup row.key = some row' →
        toLex row'.counters < toLex row.counters := by
  refine ⟨by rw [h.commit id, Table.lookup_put_self], ?_⟩
  intro row' hrow'
  cases h with
  | inserted _ hfresh =>
      rw [hfresh.absent] at hrow'
      cases hrow'
  | @updated q r hquery hpending hrewrites =>
      obtain ⟨n, rfl⟩ := hrewrites
      rw [key_advance] at hrow'
      obtain ⟨hmem, hkey⟩ := Table.lookup_eq_some_iff.1 hrow'
      rw [t.committed.eq_of_key_eq hmem (Table.mem_of_findOne hpending.found) hkey]
      exact counters_lt_advance r n
  | copied hcopies => exact absurd hcopies id

/-- Stored counters never go back. -/
theorem lookup_commit (h : LockTable.Session dataRules t i healthy found saved) {key : DataKey}
    (hrow : t.committed.lookup key = some row) :
    ∃ row', (t.commit i).committed.lookup key = some row' ∧
      toLex row.counters ≤ toLex row'.counters := by
  rcases h.own with hown | ⟨w, hw⟩
  · exact ⟨row, by rwa [LockTable.commit_of_own_eq_nil hown], le_rfl⟩
  · by_cases hkey : key = w.key
    · subst hkey
      obtain ⟨hlookup, hlater⟩ := lookup_commit_of_written hw
      exact ⟨w, hlookup, (hlater hrow).le⟩
    · exact ⟨row, by rwa [hw.commit id, Table.lookup_put_of_ne hkey], le_rfl⟩

end Commits

/-! ### Runs -/

section Runs

variable [DecidableEq ι] {lib : VcStatusRl2020} {calls : ι → Call} {credential : ι → Credential}
  {i : ι} {x : LockedEnv} {c c' : CallConfig ι (LockedDb ι)}

/-- The counters that call `i` is about to replace are locked, or are still those it found. -/
def savesStoredData (i : ι) (c : CallConfig ι (LockedDb ι)) : Bool :=
  match (c.thread i).next with
  | some (.updateData entity) =>
      decide (c.shared.data.Holds i entity.key ∨
        foundData (c.thread i).log = some (c.shared.data.committed.lookup entity.key))
  | _ => true

/-- The list that call `i` is about to replace is locked, or is still the one it found; and a status
change without a lock does change it. -/
def savesStoredList (call : Call) (i : ι) (c : CallConfig ι (LockedDb ι)) : Bool :=
  match (c.thread i).next with
  | some (.updateList entity) =>
      decide (c.shared.lists.Holds i entity.key ∨
        (foundList (c.thread i).log = some (c.shared.lists.committed.lookup entity.key) ∧
          (call.hash = none ∨ c.shared.lists.committed.lookup entity.key ≠ some entity)))
  | _ => true

/-- **No row is replaced that has changed without a lock.** -/
structure SavesStored (calls : ι → Call) (credential : ι → Credential) (i : ι) (x : LockedEnv)
    (c : CallConfig ι (LockedDb ι)) : Prop where
  env : EnvFor (calls i) (credential i) x.env
  data : savesStoredData i c = true
  lists : savesStoredList (calls i) i c = true

/-- The call has returned, and these are the counters it has saved. -/
def HasReturned (c : CallConfig ι (LockedDb ι)) (i : ι) (row : RevocationData) : Prop :=
  (∃ entry, Allocated c i entry) ∧ savedData (c.thread i).log = some row

/-- What call `i` has done with the counters. -/
abbrev DataSession (c : CallConfig ι (LockedDb ι)) (i : ι) : Prop :=
  LockTable.Session dataRules c.shared.data i (Healthy (c.thread i).log)
    (foundData (c.thread i).log) (savedData (c.thread i).log)

/-- What call `i` has done with the lists. -/
abbrev ListSession (lib : VcStatusRl2020) (calls : ι → Call) (credential : ι → Credential)
    (c : CallConfig ι (LockedDb ι)) (i : ι) : Prop :=
  LockTable.Session ((calls i).listRules lib (credential i)) c.shared.lists i
    (Healthy (c.thread i).log) (foundList (c.thread i).log) (savedList (c.thread i).log)

/-- **Open transactions keep to their rules, and the counters handed out are different.** -/
structure Serialized (lib : VcStatusRl2020) (calls : ι → Call) (credential : ι → Credential)
    (c : CallConfig ι (LockedDb ι)) : Prop where
  data : ∀ {i}, (c.thread i).result = none → DataSession c i
  lists : ∀ {i}, (c.thread i).result = none → ListSession lib calls credential c i
  stored : ∀ {i row}, HasReturned c i row → ∃ row',
    c.shared.data.committed.lookup row.key = some row' ∧ toLex row.counters ≤ toLex row'.counters
  distinct : ∀ {i j row row'}, i ≠ j → HasReturned c i row → HasReturned c j row' →
    row.key = row'.key → row.counters ≠ row'.counters

/-- What a step of call `i` has to show. -/
theorem Serialized.of_step (h : Serialized lib calls credential c)
    (hother : ∀ {j}, j ≠ i → c'.thread j = c.thread j)
    (hdata : ∀ {j}, j ≠ i → LockTable.Kept j c.shared.data c'.shared.data)
    (hlists : ∀ {j}, j ≠ i → LockTable.Kept j c.shared.lists c'.shared.lists)
    (hopen : (c'.thread i).result = none → DataSession c' i ∧ ListSession lib calls credential c' i)
    (hgrow : ∀ {key row}, c.shared.data.committed.lookup key = some row →
      ∃ row', c'.shared.data.committed.lookup key = some row' ∧
        toLex row.counters ≤ toLex row'.counters)
    (hnew : ∀ {row}, HasReturned c' i row →
      c'.shared.data.committed.lookup row.key = some row ∧
        ∀ {row'}, c.shared.data.committed.lookup row.key = some row' →
          toLex row'.counters < toLex row.counters) :
    Serialized lib calls credential c' := by
  have hold : ∀ {j row}, j ≠ i → HasReturned c' j row → HasReturned c j row := by
    intro j row hj hreturned
    unfold HasReturned Allocated at hreturned
    rwa [hother hj] at hreturned
  -- counters handed out before lie before those of call `i`
  have hlater : ∀ {j row row'}, j ≠ i → HasReturned c' i row → HasReturned c' j row' →
      row.key = row'.key → toLex row'.counters < toLex row.counters := by
    intro j row row' hj hi hreturned hkey
    obtain ⟨stored, hstored, hle⟩ := h.stored (hold hj hreturned)
    rw [← hkey] at hstored
    exact lt_of_le_of_lt hle ((hnew hi).2 hstored)
  constructor
  case data =>
      intro j hj
      by_cases hji : j = i
      · subst hji
        exact (hopen hj).1
      · rw [hother hji] at hj
        unfold DataSession
        rw [hother hji]
        exact (h.data hj).kept (hdata hji)
  case lists =>
      intro j hj
      by_cases hji : j = i
      · subst hji
        exact (hopen hj).2
      · rw [hother hji] at hj
        unfold ListSession
        rw [hother hji]
        exact (h.lists hj).kept (hlists hji)
  case stored =>
      intro j row hj
      by_cases hji : j = i
      · subst hji
        exact ⟨row, (hnew hj).1, le_rfl⟩
      · obtain ⟨stored, hstored, hle⟩ := h.stored (hold hji hj)
        obtain ⟨row', hrow', hle'⟩ := hgrow hstored
        exact ⟨row', hrow', hle.trans hle'⟩
  case distinct =>
      intro j k row row' hjk hj hk hkey heq
      by_cases hji : j = i
      · subst hji
        have hlt := hlater (Ne.symm hjk) hj hk hkey
        rw [heq] at hlt
        exact lt_irrefl _ hlt
      · by_cases hki : k = i
        · subst hki
          have hlt := hlater hji hk hj hkey.symm
          rw [heq] at hlt
          exact lt_irrefl _ hlt
        · exact h.distinct hjk (hold hji hj) (hold hki hk) hkey heq

omit [DecidableEq ι] in
/-- A call that has not ended has not returned. -/
theorem not_hasReturned {row : RevocationData} (h : (c.thread i).result = none) :
    ¬ HasReturned c i row := by
  rintro ⟨⟨entry, hentry⟩, -⟩
  rw [Allocated, h] at hentry
  cases hentry

/-- **One step keeps the calls serialized.** -/
theorem Serialized.step (h : Serialized lib calls credential c)
    (hfollows : CallFollows lib calls credential c i)
    (hvars : (c.thread i).vars.data = none ∧ (c.thread i).vars.isDone = false)
    (hok : SavesStored calls credential i x c) (hstep : CallsStep lockedStore i x c c') :
    Serialized lib calls credential c' := by
  cases hstep with
  | @operation o k r s hrunning hcurrent hserve =>
      obtain ⟨hdata, hlists⟩ := serve_access hserve
      have hallowed := hfollows.allowed hcurrent
      have hresult : ((c.answered i s ⟨o, r⟩ (k r)).thread i).result = none := by
        rw [Threads.Config.thread_answered_self]
        exact hrunning
      refine h.of_step (fun hj => Threads.Config.thread_answered_of_ne hj)
        (fun hj => hdata.operation.kept hj) (fun hj => hlists.operation.kept hj) ?_ ?_ ?_
      · intro _
        have hsaves := hok.data
        have hsaves' := hok.lists
        simp only [savesStoredData, savesStoredList, Threads.Thread.next, hcurrent]
          at hsaves hsaves'
        unfold DataSession ListSession
        rw [Threads.Config.thread_answered_self]
        constructor
        · refine hdata.session (h.data hrunning) hallowed.healthy hallowed.data ?_
          rintro entity rfl
          exact of_decide_eq_true hsaves
        · refine hlists.session (h.lists hrunning) hallowed.healthy hallowed.list ?_
          rintro entity rfl
          exact of_decide_eq_true hsaves'
      · intro key row hrow
        refine ⟨row, ?_, le_rfl⟩
        rwa [Threads.Config.shared_answered, hdata.committed_eq]
      · intro row hreturned
        exact absurd hreturned (not_hasReturned hresult)
  | restarted hrunning hcurrent hpolicy hcommit =>
      refine h.of_step (fun hj => Threads.Config.thread_update_of_ne hj)
        (fun hj => LockTable.Kept.commit hj) (fun hj => LockTable.Kept.commit hj) ?_
        (fun hrow => lookup_commit (h.data hrunning) hrow) ?_
      · intro _
        unfold DataSession ListSession
        rw [Threads.Config.thread_update_self]
        exact ⟨LockTable.Session.start LockTable.own_close_self,
          LockTable.Session.start LockTable.own_close_self⟩
      · intro row hreturned
        exact absurd hreturned (not_hasReturned (by rw [Threads.Config.thread_update_self]; rfl))
  | @returned r result hrunning hcurrent hpolicy hcommit =>
      refine h.of_step (fun hj => Threads.Config.thread_update_of_ne hj)
        (fun hj => LockTable.Kept.commit hj) (fun hj => LockTable.Kept.commit hj) ?_
        (fun hrow => lookup_commit (h.data hrunning) hrow) ?_
      · intro hresult
        rw [Threads.Config.thread_update_self] at hresult
        cases hresult
      · rintro row ⟨⟨entry, hentry⟩, hsaved⟩
        rw [Allocated, Threads.Config.thread_update_self, Threads.Thread.result_ended,
          Option.some.injEq, Except.ok.injEq] at hentry
        rw [Threads.Config.thread_update_self] at hsaved
        subst hentry
        have hr := retryPolicy_done hpolicy hvars.1
        subst hr
        have hhealthy := Call.Final.healthy (hfollows.final hcurrent)
        exact lookup_commit_of_written ((h.data hrunning).written hhealthy row hsaved)
  | thrown hrunning hcurrent hreason =>
      refine h.of_step (fun hj => Threads.Config.thread_update_of_ne hj)
        (fun hj => LockTable.Operation.rollback.kept hj)
        (fun hj => LockTable.Operation.rollback.kept hj) ?_ (fun hrow => ⟨_, hrow, le_rfl⟩) ?_
      · intro hresult
        rw [Threads.Config.thread_update_self] at hresult
        cases hresult
      · rintro row ⟨⟨entry, hentry⟩, -⟩
        rw [Allocated, Threads.Config.thread_update_self] at hentry
        cases hentry

/-! ### What a commit changes in the lists -/

/-- One bit of one list has changed: the list found under the path of the credential was signed
again with the bit at its index set, and no other row was touched. -/
def BitChanged (lib : VcStatusRl2020) (options : PluginOptions) (credential : Credential)
    (revoked : Bool) (lists lists' : Table RevocationList.key) : Prop :=
  ∃ position row vc, statusPosition options.revocationListPath credential = some position ∧
    lists.findOne (ListQuery.accepts ⟨position.1, none⟩) = some row ∧
    lists' = lists.put { row with verifiableCredential := vc } ∧
    BitWritten lib position revoked lists lists'

/-- **What a step of a call is meant to change in the committed lists.**  An allocation leaves every
list that was there.  A status change changes one bit when it commits and returns, and nothing
before or otherwise. -/
def Call.CommitEffect (lib : VcStatusRl2020) (credential : Credential) (returned : Prop)
    (lists lists' : Table RevocationList.key) : Call → Prop
  | .getRevocationData _ _ _ =>
      ∀ q list, lists.findOne q = some list → lists'.findOne q = some list
  | .revokeCredential options _ _ =>
      (returned → BitChanged lib options credential true lists lists') ∧
        (¬ returned → lists' = lists)
  | .activateCredential options _ _ =>
      (returned → BitChanged lib options credential false lists lists') ∧
        (¬ returned → lists' = lists)

/-- A step that commits no list. -/
theorem Call.CommitEffect.of_eq {call : Call} {credential : Credential} {returned : Prop}
    {lists lists' : Table RevocationList.key} (heq : lists' = lists) (hnot : ¬ returned) :
    call.CommitEffect lib credential returned lists lists' := by
  subst heq
  cases call with
  | getRevocationData options did req => exact fun _ _ hlist => hlist
  | revokeCredential options hash context => exact ⟨fun h => absurd h hnot, fun _ => rfl⟩
  | activateCredential options hash context => exact ⟨fun h => absurd h hnot, fun _ => rfl⟩

/-- A status change that is committed writes its bit in the list it has found. -/
theorem bitChanged_commit (hlib : lib.Lawful) {t : LockTable ι RevocationList.key}
    {options : PluginOptions} {credential : Credential} {revoked : Bool} {query : ListQuery}
    {found list : RevocationList}
    (hpath : revocationListFullUrlPathOf options.revocationListPath credential =
      .ok query.revocationListFullUrlPath ∧ query.revocationVCIssuer = none)
    (hpending : t.Pending i query.accepts found list)
    (hwritten : StatusWritten lib credential.revocationListIndex revoked found list) :
    BitChanged lib options credential revoked t.committed (t.commit i).committed := by
  obtain ⟨path, issuer⟩ := query
  obtain ⟨hpath, rfl⟩ := hpath
  obtain ⟨decoded, bits, vc, hdecode, hset, hencodes, rfl⟩ := hwritten
  obtain ⟨index, hindex, hbit⟩ := bitWritten_put hlib hpending.found hdecode hset hencodes
  refine ⟨(path, index), found, vc, ?_, hpending.found, hpending.commit, ?_⟩
  · rw [statusPosition, hpath, hindex]
  · rwa [hpending.commit]

/-- What a status change has written changes one bit when it is committed: it creates no list and
saves none unchanged. -/
theorem bitChanged_of_written (hlib : lib.Lawful) {t : LockTable ι RevocationList.key} {call : Call}
    {hash : Text} {options : PluginOptions} {credential : Credential} {revoked : Bool}
    {list : RevocationList} (h : LockTable.Written (call.listRules lib credential) t i list)
    (hhash : call.hash = some hash)
    (hqueries : ∀ query, call.Queries credential query →
      revocationListFullUrlPathOf options.revocationListPath credential =
        .ok query.revocationListFullUrlPath ∧ query.revocationVCIssuer = none)
    (hrewrites : ∀ found list, call.Rewrites lib credential found list →
      StatusWritten lib credential.revocationListIndex revoked found list) :
    BitChanged lib options credential revoked t.committed (t.commit i).committed := by
  have hnot : ¬ call.hash = none := by
    rw [hhash]
    exact Option.some_ne_none hash
  cases h with
  | inserted hinserts => exact absurd hinserts hnot
  | updated hquery hpending hrewritten =>
      obtain ⟨query, rfl, hquery⟩ := hquery
      exact bitChanged_commit hlib (hqueries query hquery) hpending (hrewrites _ _ hrewritten)
  | copied hcopies => exact absurd hcopies hnot

/-- A commit of an allocation leaves every list that was there. -/
theorem findOne_commit_of_written {options : PluginOptions} {did : Text} {req : Context}
    {t : LockTable ι RevocationList.key} {credential : Credential} {list : RevocationList}
    (h : LockTable.Written ((Call.getRevocationData options did req).listRules lib credential) t i
      list)
    {q : ListKey → Bool} {row : RevocationList} (hrow : t.committed.findOne q = some row) :
    (t.commit i).committed.findOne q = some row := by
  cases h with
  | inserted _ hfresh =>
      rw [hfresh.commit]
      exact Table.findOne_put_of_ne hrow
        (Table.lookup_eq_none_iff.1 hfresh.absent row (Table.mem_of_findOne hrow))
  | updated _ hpending hrewrites =>
      rw [hpending.commit, show list = _ from hrewrites,
        Table.put_of_mem (Table.mem_of_findOne hpending.found)]
      exact hrow
  | copied _ hown =>
      rw [LockTable.commit_of_own_eq_nil hown]
      exact hrow

/-- **Every step changes what it is meant to change.** -/
theorem Serialized.commitEffect (hlib : lib.Lawful) (h : Serialized lib calls credential c)
    (hfollows : CallFollows lib calls credential c i)
    (hvars : (c.thread i).vars.data = none ∧ (c.thread i).vars.isDone = false)
    (hstep : CallsStep lockedStore i x c c') :
    (calls i).CommitEffect lib (credential i) (∃ a, (c'.thread i).result = some (.ok (some a)))
      c.shared.lists.committed c'.shared.lists.committed := by
  cases hstep with
  | @operation o k r s hrunning hcurrent hserve =>
      refine Call.CommitEffect.of_eq (serve_access hserve).2.committed_eq ?_
      rintro ⟨a, ha⟩
      rw [Threads.Config.thread_answered_self, Threads.Thread.result_answered, hrunning] at ha
      cases ha
  | @restarted r vars hrunning hcurrent hpolicy hcommit =>
      cases r with
      | ok a => rw [retryPolicy_ok] at hpolicy; cases hpolicy
      | error e =>
          -- an attempt that throws has saved no list
          have hunsaved := Call.Final.savedList_eq_none (hfollows.final hcurrent)
          refine Call.CommitEffect.of_eq (LockTable.commit_of_own_eq_nil
            ((h.lists hrunning).own_of_unsaved hunsaved)) ?_
          rintro ⟨a, ha⟩
          rw [Threads.Config.thread_update_self] at ha
          cases ha
  | @returned r result hrunning hcurrent hpolicy hcommit =>
      cases r with
      | error e =>
          have hunsaved := Call.Final.savedList_eq_none (hfollows.final hcurrent)
          refine Call.CommitEffect.of_eq (LockTable.commit_of_own_eq_nil
            ((h.lists hrunning).own_of_unsaved hunsaved)) ?_
          rintro ⟨a, ha⟩
          rw [Threads.Config.thread_update_self, Threads.Thread.result_ended, Option.some.injEq,
            Except.ok.injEq] at ha
          subst ha
          cases retryPolicy_done hpolicy hvars.1
      | ok a =>
          have hfinal := hfollows.final hcurrent
          have hsession := h.lists hrunning
          have hreturned : ∃ a, ((c.update i (lockedStore.commit i c.shared)
              ((c.thread i).ended (.ok result))).thread i).result = some (.ok (some a)) := by
            rw [retryPolicy_ok] at hpolicy
            cases hpolicy
            exact ⟨a, by rw [Threads.Config.thread_update_self]; rfl⟩
          unfold ListSession at hsession
          cases hcall : calls i with
          | getRevocationData options did req =>
              rw [hcall] at hsession hfinal
              intro q list hlist
              cases hsaved : savedList (c.thread i).log with
              | none =>
                  show (c.shared.lists.commit i).committed.findOne q = some list
                  rw [LockTable.commit_of_own_eq_nil (hsession.own_of_unsaved hsaved)]
                  exact hlist
              | some row =>
                  exact findOne_commit_of_written
                    (hsession.written hfinal.healthy row hsaved) hlist
          | revokeCredential options hash context =>
              rw [hcall] at hsession hfinal
              refine ⟨fun _ => ?_, fun hnot => absurd hreturned hnot⟩
              obtain ⟨hhealthy, -, row, -, hsaved, -⟩ := hfinal
              exact bitChanged_of_written hlib (hsession.written hhealthy row hsaved) rfl
                (fun _ hpath => hpath) (fun _ _ hwritten => hwritten)
          | activateCredential options hash context =>
              rw [hcall] at hsession hfinal
              refine ⟨fun _ => ?_, fun hnot => absurd hreturned hnot⟩
              obtain ⟨hhealthy, -, row, -, hsaved, -⟩ := hfinal
              exact bitChanged_of_written hlib (hsession.written hhealthy row hsaved) rfl
                (fun _ hpath => hpath) (fun _ _ hwritten => hwritten)
  | thrown hrunning hcurrent hreason =>
      refine Call.CommitEffect.of_eq rfl ?_
      rintro ⟨a, ha⟩
      rw [Threads.Config.thread_update_self] at ha
      cases ha

/-- Two allocations for one issuer under one base path. -/
def Call.SameIssuer : Call → Call → Prop
  | .getRevocationData options did _, .getRevocationData options' did' _ =>
      options.revocationListPath = options'.revocationListPath ∧ did = did'
  | _, _ => False

/-- The calls stay serialized. -/
theorem serialized_of_reach {db : Db}
    (hrun : CallsReach lockedStore lib calls (SavesStored calls credential) (LockedDb.start db) c) :
    Serialized lib calls credential c ∧ ∀ i, CallFollows lib calls credential c i := by
  have hlegal : ∀ j y (d : CallConfig ι (LockedDb ι)) o r s', SavesStored calls credential j y d →
      (calls j).Allowed lib (credential j) (d.thread j).log o →
      lockedStore.serve j y o d.shared = some (r, s') → Legal (credential j) o r :=
    fun j y d o r s' hok hallowed hserve => lockedStore_legal hok.env hallowed hserve
  refine ⟨?_, fun i => hrun.follows hlegal i⟩
  refine Threads.Reaches.invariant hrun ?_ ?_
  · have hnone : ∀ {j row}, ¬ HasReturned (startOf lib calls (LockedDb.start db)) j row :=
      fun {j row} => not_hasReturned rfl
    constructor
    case data => exact fun _ => LockTable.Session.start rfl
    case lists => exact fun _ => LockTable.Session.start rfl
    case stored => exact fun hreturned => absurd hreturned hnone
    case distinct => exact fun _ hreturned => absurd hreturned hnone
  · intro i x d d' hreach hinv hok hstep
    exact hinv.step (CallsReach.follows hreach hlegal i) (CallsReach.vars hreach i) hok hstep

/-- **Concurrent calls under locks**, in every run of any number of calls in which no row is
replaced that has changed without a lock: the entries handed out for one issuer under one base path
are different, and every step changes the committed lists as it is meant to. -/
theorem locked_calls (hlib : lib.Lawful) {db : Db}
    (hrun : CallsReach lockedStore lib calls (SavesStored calls credential) (LockedDb.start db) c) :
    (∀ i j a b, i ≠ j → (calls i).SameIssuer (calls j) → Allocated c i a → Allocated c j b →
      a ≠ b) ∧
    ∀ i x c', SavesStored calls credential i x c →
      Threads.step lockedStore (retryPolicy defaultMaxRetries) i x c = some c' →
      (calls i).CommitEffect lib (credential i) (∃ a, (c'.thread i).result = some (.ok (some a)))
        c.shared.lists.committed c'.shared.lists.committed := by
  obtain ⟨hserialized, hfollows⟩ := serialized_of_reach hrun
  constructor
  · intro i j a b hij hsame ha hb
    have hfinal := hrun.final_of_returned (hfollows i) ha
    have hfinal' := hrun.final_of_returned (hfollows j) hb
    cases hi : calls i with
    | getRevocationData options did req =>
        cases hj : calls j with
        | getRevocationData options' did' req' =>
            rw [hi] at hfinal hsame
            rw [hj] at hfinal' hsame
            obtain ⟨hpath, rfl⟩ := hsame
            obtain ⟨-, row, hsaved, hkey, hentry⟩ := hfinal
            obtain ⟨-, row', hsaved', hkey', hentry'⟩ := hfinal'
            intro heq
            subst heq
            rw [hentry, Option.some.injEq, hpath, entry_inj] at hentry'
            refine hserialized.distinct hij ⟨⟨_, ha⟩, hsaved⟩ ⟨⟨_, hb⟩, hsaved'⟩ ?_
              (Prod.ext hentry'.1 hentry'.2)
            rw [hkey, hkey', hpath]
        | revokeCredential options' hash' context' => rw [hi, hj] at hsame; exact hsame.elim
        | activateCredential options' hash' context' => rw [hi, hj] at hsame; exact hsame.elim
    | revokeCredential options hash context => rw [hi] at hsame; exact hsame.elim
    | activateCredential options hash context => rw [hi] at hsame; exact hsame.elim
  · intro i x c' hok hstep
    exact hserialized.commitEffect hlib (hfollows i) (hrun.vars i) (Threads.step_cases hstep)

end Runs

/-! ### Three calls -/

/-- Three allocations for the same issuer. -/
def threeAllocations (_ : Fin 3) : Call := .getRevocationData plainOptions plainDid ⟨true⟩

/-- Steps in which nothing fails and nothing is aborted. -/
def lockedEnv : LockedEnv := ⟨(plainEnvs 0).env, none, false⟩

/-- **Two calls are handed out one entry** although all of them take the locks the plugin takes:
all three look for a row to lock before there is one, the first call commits the first entry, and
the other two find its row without having locked it. -/
theorem getRevocationData_first_entries :
    ∃ c, CallsReach lockedStore plainLib threeAllocations
        (fun _ x _ => x.env.Lawful ∧ x.abort = false) (LockedDb.start Db.empty) c ∧
      Allocated c 1 ⟨plainPath ++ listPath plainDid 0, 1⟩ ∧
      Allocated c 2 ⟨plainPath ++ listPath plainDid 0, 1⟩ := by
  let order : List (Fin 3) :=
    [0, 0, 1, 1, 2, 2, 0, 0, 0, 0, 0, 0, 0, 1, 2, 1, 1, 1, 1, 1, 2, 2, 2, 2, 2]
  have hexec : (Threads.exec lockedStore (retryPolicy defaultMaxRetries) (fun _ _ _ => true)
      (order.map fun i => (i, lockedEnv))
      (startOf plainLib threeAllocations (LockedDb.start Db.empty))).any (fun c =>
        decide (Allocated c 1 ⟨plainPath ++ listPath plainDid 0, 1⟩ ∧
          Allocated c 2 ⟨plainPath ++ listPath plainDid 0, 1⟩)) = true := by
    decide +kernel
  have hok : ∀ i x (c : CallConfig (Fin 3) (LockedDb (Fin 3))),
      (i, x) ∈ order.map (fun i => (i, lockedEnv)) → true = true →
      x.env.Lawful ∧ x.abort = false := by
    intro i x c hmem _
    obtain ⟨_, -, heq⟩ := List.mem_map.1 hmem
    rw [← (Prod.mk.inj heq).2]
    exact ⟨plainEnvs_lawful 0, rfl⟩
  obtain ⟨c, hreach, hc⟩ := Threads.exists_reaches_of_exec hok hexec
  exact ⟨c, hreach, of_decide_eq_true hc⟩

/-- Two allocations for the same issuer, and a revocation of the first entry. -/
def mixedCalls (i : Fin 3) : Call :=
  if i = 2 then .revokeCredential plainOptions plainHash ⟨true⟩
  else .getRevocationData plainOptions plainDid ⟨true⟩

theorem mixedCalls_env (i : Fin 3) : EnvFor (mixedCalls i) plainCredential lockedEnv.env where
  lawful := plainEnvs_lawful 0
  found := by
    intro hash found hhash hfound
    by_cases hi : i = 2
    · rw [mixedCalls, if_pos hi] at hhash
      cases hhash
      exact (Option.some.inj (Except.ok.inj hfound)).symm
    · rw [mixedCalls, if_neg hi] at hhash
      cases hhash

/-- When the second allocation saves before the third call begins, all three do what they are
meant to. -/
theorem locked_calls_plain :
    ∃ (c c' : CallConfig (Fin 3) (LockedDb (Fin 3))) (a b : RevocationDataResult),
      Allocated c 0 a ∧ Allocated c 1 b ∧ a ≠ b ∧
      BitChanged plainLib plainOptions plainCredential true c.shared.lists.committed
        c'.shared.lists.committed := by
  let order : List (Fin 3) := [0, 0, 1, 1, 0, 0, 0, 0, 0, 0, 0, 1, 1, 1, 1, 1, 1, 2, 2, 2, 2, 2, 2]
  let test (i : Fin 3) (_ : LockedEnv) (c : CallConfig (Fin 3) (LockedDb (Fin 3))) : Bool :=
    savesStoredData i c && savesStoredList (mixedCalls i) i c
  let last (c : CallConfig (Fin 3) (LockedDb (Fin 3))) :=
    Threads.step lockedStore (retryPolicy defaultMaxRetries) 2 lockedEnv c
  have hexec : (Threads.exec lockedStore (retryPolicy defaultMaxRetries) test
      (order.map fun i => (i, lockedEnv))
      (startOf plainLib mixedCalls (LockedDb.start Db.empty))).any (fun c =>
        decide (Allocated c 0 ⟨plainPath ++ listPath plainDid 0, 0⟩) &&
          decide (Allocated c 1 ⟨plainPath ++ listPath plainDid 0, 1⟩) &&
          (test 2 lockedEnv c && (last c).any fun c' =>
            decide ((c'.thread 2).result = some (.ok (some none))))) = true := by
    decide +kernel
  have htested : ∀ i (c : CallConfig (Fin 3) (LockedDb (Fin 3))), test i lockedEnv c = true →
      SavesStored mixedCalls (fun _ => plainCredential) i lockedEnv c := by
    intro i c htest
    obtain ⟨hdata, hlists⟩ := Bool.and_eq_true_iff.1 htest
    exact ⟨mixedCalls_env i, hdata, hlists⟩
  have hok : ∀ i x (c : CallConfig (Fin 3) (LockedDb (Fin 3))),
      (i, x) ∈ order.map (fun i => (i, lockedEnv)) → test i x c = true →
      SavesStored mixedCalls (fun _ => plainCredential) i x c := by
    intro i x c hmem htest
    obtain ⟨_, -, heq⟩ := List.mem_map.1 hmem
    rw [← (Prod.mk.inj heq).2] at htest ⊢
    exact htested i c htest
  obtain ⟨c, hreach, hc⟩ := Threads.exists_reaches_of_exec hok hexec
  simp only [Bool.and_eq_true, decide_eq_true_eq] at hc
  obtain ⟨⟨h0, h1⟩, htest, hlast⟩ := hc
  obtain ⟨c', hstep, hreturned⟩ := (Option.any_eq_true _ _).1 hlast
  obtain ⟨hdistinct, heffect⟩ := locked_calls plainLib_lawful hreach
  have hrevoked := (heffect 2 lockedEnv c' (htested 2 c htest) hstep).1
    ⟨none, of_decide_eq_true hreturned⟩
  exact ⟨c, c', _, _, h0, h1, hdistinct 0 1 _ _ (by decide) ⟨rfl, rfl⟩ h0 h1, hrevoked⟩

end Revocation
