/-
**Concurrent allocations without locks.**

A row of counters is found in one step and saved in a later one.  A call that saves after another
one has saved in between overwrites it, and the two are handed out one entry.  When every save is
made on the row the attempt found, this cannot happen, in any run of any number of calls.  The same
goes for a rollback, which puts an older row back.

Main definitions:

* `Revocation.UndisturbedAllocation` — nothing has come between a step and the one it rests on;
* `Revocation.Apart` — the invariant: counters that have been saved are different, and none lie
  after those stored.

Main results:

* `Revocation.Apart.step` — an undisturbed step keeps the counters apart;
* `Revocation.unlocked_entries_distinct` — **undisturbed allocations are handed out different
  entries**;
* `Revocation.getRevocationData_duplicated` — two calls that are handed out one entry.
-/

import Vckit.UnlockedStore
import Vckit.Allocation

set_option relaxedAutoImplicit false
set_option autoImplicit false

namespace Revocation

variable {ι : Type}

/-! ### Allocations -/

section Allocations

variable [DecidableEq ι] {key : DataKey} {i : ι} {x : AttemptEnv} {c c' : CallConfig ι (SharedDb ι)}

/-- The counters that call `i` is about to save come after those that are stored. -/
def savesFoundData (key : DataKey) (i : ι) (c : CallConfig ι (SharedDb ι)) : Bool :=
  match (c.thread i).next with
  | some (.updateData _) =>
      decide (foundData (c.thread i).log = some (c.shared.db.data.lookup key))
  | _ => true

/-- If call `i` is about to be rolled back, the counters it has saved are those that are stored. -/
def undoesSavedData (key : DataKey) (i : ι) (x : AttemptEnv) (c : CallConfig ι (SharedDb ι)) :
    Bool :=
  if Threads.rollsBack unlockedStore (retryPolicy defaultMaxRetries) i x c then
    match savedData (c.thread i).log with
    | none => true
    | some row => decide (c.shared.db.data.lookup key = some row)
  else true

/-- Nothing has come between the step of an allocation and the step it rests on. -/
structure UndisturbedAllocation (key : DataKey) (i : ι) (x : AttemptEnv)
    (c : CallConfig ι (SharedDb ι)) : Prop where
  env : x.env.Lawful
  saves : savesFoundData key i c = true
  undoes : undoesSavedData key i x c = true

/-- The call has saved these counters and has not thrown: it hands them out, or still may. -/
def HasSaved {σ : Type} (c : CallConfig ι σ) (i : ι) (row : RevocationData) : Prop :=
  (∀ e, (c.thread i).result ≠ some (.error e)) ∧ savedData (c.thread i).log = some row

/-- What a rollback of call `i` would restore: nothing, if it has saved no counters; else the
counters it found.  Those that another call has saved lie before the ones found or after the ones
saved. -/
structure Undoable (key : DataKey) (c : CallConfig ι (SharedDb ι)) (i : ι) : Prop where
  unsaved : savedData (c.thread i).log = none → dataImages i c.shared.undo = []
  saved : ∀ {row}, savedData (c.thread i).log = some row → ∃ found, found.key = key ∧
    dataImages i c.shared.undo = [(key, some found)] ∧
    ∀ {j row'}, j ≠ i → HasSaved c j row' →
      toLex row'.counters ≤ toLex found.counters ∨ toLex row.counters < toLex row'.counters

/-- **The counters that calls have saved are different**, and none lie after those that are
stored. -/
structure Apart (key : DataKey) (c : CallConfig ι (SharedDb ι)) : Prop where
  stored : ∃ row, c.shared.db.data.lookup key = some row ∧
    ∀ {i row'}, HasSaved c i row' → toLex row'.counters ≤ toLex row.counters
  distinct : ∀ {i j row row'}, i ≠ j → HasSaved c i row → HasSaved c j row' →
    row.counters ≠ row'.counters
  undoable : ∀ {i}, (c.thread i).result = none → Undoable key c i

theorem Undoable.mono (h : Undoable key c i)
    (hsaved : ∀ {j row}, HasSaved c' j row → HasSaved c j row)
    (hlog : savedData (c'.thread i).log = savedData (c.thread i).log)
    (himages : dataImages i c'.shared.undo = dataImages i c.shared.undo) :
    Undoable key c' i where
  unsaved hnone := himages.trans (h.unsaved (hlog ▸ hnone))
  saved hrow := by
    obtain ⟨found, hkey, hfound, hothers⟩ := h.saved (hlog ▸ hrow)
    exact ⟨found, hkey, himages.trans hfound, fun hj hsave => hothers hj (hsaved hsave)⟩

omit [DecidableEq ι] in
/-- A call that made no step has saved what it had saved before. -/
theorem HasSaved.of_thread_eq {j : ι} {row : RevocationData} (h : HasSaved c' j row)
    (hthread : c'.thread j = c.thread j) : HasSaved c j row := by
  unfold HasSaved at h
  rwa [hthread] at h

/-- What a step of call `i` that saves no counters has to show. -/
theorem Apart.of_step (h : Apart key c) (hother : ∀ {j}, j ≠ i → c'.thread j = c.thread j)
    (himages : ∀ {j}, j ≠ i → dataImages j c'.shared.undo = dataImages j c.shared.undo)
    (hsaved : ∀ {j row}, HasSaved c' j row → HasSaved c j row)
    (hstored : ∃ row, c'.shared.db.data.lookup key = some row ∧
      ∀ {j row'}, HasSaved c' j row' → toLex row'.counters ≤ toLex row.counters)
    (hopen : (c'.thread i).result = none → Undoable key c' i) : Apart key c' where
  stored := hstored
  distinct hjk hj hk := h.distinct hjk (hsaved hj) (hsaved hk)
  undoable := by
    intro j hj
    by_cases hji : j = i
    · subst hji
      exact hopen hj
    · rw [hother hji] at hj
      exact (h.undoable hj).mono hsaved (by rw [hother hji]) (himages hji)

/-- A step that leaves the stored counters. -/
theorem Apart.stored_of_eq (h : Apart key c)
    (hsaved : ∀ {j row}, HasSaved c' j row → HasSaved c j row)
    (hdata : c'.shared.db.data = c.shared.db.data) :
    ∃ row, c'.shared.db.data.lookup key = some row ∧
      ∀ {j row'}, HasSaved c' j row' → toLex row'.counters ≤ toLex row.counters := by
  obtain ⟨row, hrow, hle⟩ := h.stored
  exact ⟨row, by rw [hdata, hrow], fun hsave => hle (hsaved hsave)⟩

/-- The images of other transactions stay when a transaction ends. -/
theorem dataImages_imagesOfOthers {j : ι} (h : j ≠ i) (undo : List (ι × Image)) :
    dataImages j (imagesOfOthers i undo) = dataImages j undo := by
  rw [dataImages, imagesBy_imagesOfOthers_of_ne h, dataImages]

/-- The images of other transactions stay when an operation is answered. -/
theorem dataImages_append_of_ne {j : ι} (h : j ≠ i) (images : List Image)
    (undo : List (ι × Image)) :
    dataImages j (images.map (Prod.mk i) ++ undo) = dataImages j undo := by
  rw [dataImages, imagesBy_append_of_ne h, dataImages]

/-- An operation that saves no counters. -/
theorem Apart.answered_of_none (h : Apart key c) (hrunning : (c.thread i).result = none) {o : Op}
    {r : Except JsError o.Resp} {db : Db} {rest : StoreM (Option RevocationDataResult)}
    (hsaved : dataSavedBy o r = none) (hdata : db.data = c.shared.db.data) :
    Apart key (c.answered i ⟨db, (imagesOf c.shared.db o r).map (Prod.mk i) ++ c.shared.undo⟩
      ⟨o, r⟩ rest) := by
  have hlog : savedData (⟨o, r⟩ :: (c.thread i).log) = savedData (c.thread i).log := by
    rw [savedData, hsaved, Option.none_or]
  have hsame : ∀ {j row}, HasSaved (c.answered i ⟨db, (imagesOf c.shared.db o r).map (Prod.mk i) ++
      c.shared.undo⟩ ⟨o, r⟩ rest) j row → HasSaved c j row := by
    intro j row hsave
    by_cases hj : j = i
    · subst hj
      refine ⟨by simp [hrunning], ?_⟩
      have hrow := hsave.2
      rwa [Threads.Config.thread_answered_self, Threads.Thread.log_answered, hlog] at hrow
    · exact hsave.of_thread_eq (Threads.Config.thread_answered_of_ne hj)
  refine h.of_step (fun hj => Threads.Config.thread_answered_of_ne hj)
    (fun hj => dataImages_append_of_ne hj _ _) hsame (h.stored_of_eq hsame hdata) ?_
  intro _
  refine (h.undoable hrunning).mono hsame ?_ ?_
  · rw [Threads.Config.thread_answered_self, Threads.Thread.log_answered, hlog]
  · rw [Threads.Config.shared_answered, dataImages, imagesBy_append_self, List.filterMap_append,
      data?_imagesOf hsaved, List.nil_append, dataImages]

/-- **A save on the row that was found** leads to counters nobody has saved. -/
theorem Apart.answered_of_update (h : Apart key c) (hrunning : (c.thread i).result = none)
    (hunsaved : savedData (c.thread i).log = none) {found : RevocationData} {n : ℕ}
    (hfound : c.shared.db.data.lookup key = some found) {db : Db}
    {rest : StoreM (Option RevocationDataResult)}
    (hdata : db.data = c.shared.db.data.put (found.advance n)) :
    Apart key (c.answered i ⟨db, (imagesOf c.shared.db (.updateData (found.advance n))
        (.ok (found.advance n))).map (Prod.mk i) ++ c.shared.undo⟩
      ⟨.updateData (found.advance n), .ok (found.advance n)⟩ rest) := by
  have hkey : found.key = key := (Table.lookup_eq_some_iff.1 hfound).2
  have hlt := counters_lt_advance found n
  obtain ⟨stored, hstored, hle⟩ := h.stored
  obtain rfl : stored = found := Option.some.inj (hstored.symm.trans hfound)
  have hown : ∀ {row}, HasSaved (c.answered i ⟨db, (imagesOf c.shared.db
      (.updateData (stored.advance n)) (.ok (stored.advance n))).map (Prod.mk i) ++
      c.shared.undo⟩ ⟨.updateData (stored.advance n), .ok (stored.advance n)⟩ rest) i row →
      row = stored.advance n := by
    intro row hsave
    have hrow := hsave.2
    rw [Threads.Config.thread_answered_self] at hrow
    exact (Option.some.inj hrow).symm
  have hother : ∀ {j row}, j ≠ i → HasSaved (c.answered i ⟨db, (imagesOf c.shared.db
      (.updateData (stored.advance n)) (.ok (stored.advance n))).map (Prod.mk i) ++
      c.shared.undo⟩ ⟨.updateData (stored.advance n), .ok (stored.advance n)⟩ rest) j row →
      HasSaved c j row := by
    intro j row hj hsave
    exact hsave.of_thread_eq (Threads.Config.thread_answered_of_ne hj)
  constructor
  case stored =>
      refine ⟨stored.advance n, ?_, ?_⟩
      · rw [Threads.Config.shared_answered, hdata, ← hkey, ← key_advance stored n,
          Table.lookup_put_self]
      · intro j row hsave
        by_cases hj : j = i
        · subst hj
          rw [hown hsave]
        · exact (hle (hother hj hsave)).trans hlt.le
  case distinct =>
      -- what the others have saved lies before the counters found
      intro j k row row' hjk hj hk
      by_cases hji : j = i
      · subst hji
        rw [hown hj]
        have hbefore := hle (hother (Ne.symm hjk) hk)
        intro heq
        rw [← heq] at hbefore
        exact absurd hlt (not_lt_of_ge hbefore)
      · by_cases hki : k = i
        · subst hki
          rw [hown hk]
          have hbefore := hle (hother hji hj)
          intro heq
          rw [heq] at hbefore
          exact absurd hlt (not_lt_of_ge hbefore)
        · exact h.distinct hjk (hother hji hj) (hother hki hk)
  case undoable =>
      intro j hj
      by_cases hji : j = i
      · subst hji
        constructor
        case unsaved =>
            intro hnone
            rw [Threads.Config.thread_answered_self] at hnone
            cases hnone
        case saved =>
            intro row hrow
            refine ⟨stored, hkey, ?_, ?_⟩
            · have hnone := (h.undoable hrunning).unsaved hunsaved
              rw [dataImages] at hnone
              rw [Threads.Config.shared_answered, dataImages, imagesBy_append_self,
                List.filterMap_append, hnone, List.append_nil]
              simp [imagesOf, Image.data?, key_advance, hkey, hstored]
            · intro k row' hk hsave
              exact Or.inl (hle (hother hk hsave))
      · rw [Threads.Config.thread_answered_of_ne hji] at hj
        have hopen := h.undoable hj
        have himages : dataImages j (c.answered i ⟨db, (imagesOf c.shared.db
            (.updateData (stored.advance n)) (.ok (stored.advance n))).map (Prod.mk i) ++
            c.shared.undo⟩ ⟨.updateData (stored.advance n), .ok (stored.advance n)⟩
            rest).shared.undo = dataImages j c.shared.undo :=
          dataImages_append_of_ne hji _ _
        constructor
        case unsaved =>
            intro hnone
            rw [Threads.Config.thread_answered_of_ne hji] at hnone
            exact himages.trans (hopen.unsaved hnone)
        case saved =>
            intro row hrow
            rw [Threads.Config.thread_answered_of_ne hji] at hrow
            obtain ⟨found, hfoundkey, hrestore, hothers⟩ := hopen.saved hrow
            refine ⟨found, hfoundkey, himages.trans hrestore, ?_⟩
            intro k row' hk hsave
            by_cases hki : k = i
            · subst hki
              rw [hown hsave]
              exact Or.inr (lt_of_le_of_lt (hle ⟨by simp [hj], hrow⟩) hlt)
            · exact hothers hk (hother hki hsave)

/-- The end of a transaction that is committed. -/
theorem Apart.committed (h : Apart key c)
    {t : Threads.Thread (BackoffVars (Option RevocationDataResult)) Op Op.Resp JsError
      (Option RevocationDataResult) (Option (Option RevocationDataResult))}
    (hsaved : ∀ {row}, (∀ e, t.result ≠ some (.error e)) → savedData t.log = some row →
      HasSaved c i row)
    (hopen : t.result = none → savedData t.log = none) :
    Apart key (c.update i ⟨c.shared.db, imagesOfOthers i c.shared.undo⟩ t) := by
  have hsame : ∀ {j row}, HasSaved (c.update i ⟨c.shared.db, imagesOfOthers i c.shared.undo⟩ t) j
      row → HasSaved c j row := by
    intro j row hsave
    by_cases hj : j = i
    · subst hj
      unfold HasSaved at hsave
      rw [Threads.Config.thread_update_self] at hsave
      exact hsaved hsave.1 hsave.2
    · exact hsave.of_thread_eq (Threads.Config.thread_update_of_ne hj)
  refine h.of_step (fun hj => Threads.Config.thread_update_of_ne hj)
    (fun hj => dataImages_imagesOfOthers hj _) hsame (h.stored_of_eq hsame rfl) ?_
  intro hresult
  rw [Threads.Config.thread_update_self] at hresult
  constructor
  case unsaved =>
      intro _
      rw [Threads.Config.shared_update, dataImages, imagesBy_imagesOfOthers_self]
      rfl
  case saved =>
      intro row hrow
      rw [Threads.Config.thread_update_self, hopen hresult] at hrow
      cases hrow

/-- The end of a transaction that is rolled back. -/
theorem Apart.rolledBack (h : Apart key c) (hrunning : (c.thread i).result = none) {e : JsError}
    (hundoes : ∀ {row}, savedData (c.thread i).log = some row →
      c.shared.db.data.lookup key = some row) :
    Apart key (c.update i (unlockedStore.rollback i c.shared) ((c.thread i).ended (.error e))) := by
  have hother : ∀ {j row}, HasSaved (c.update i (unlockedStore.rollback i c.shared)
      ((c.thread i).ended (.error e))) j row → j ≠ i ∧ HasSaved c j row := by
    intro j row hsave
    by_cases hj : j = i
    · subst hj
      unfold HasSaved at hsave
      rw [Threads.Config.thread_update_self] at hsave
      exact absurd rfl (hsave.1 e)
    · exact ⟨hj, hsave.of_thread_eq (Threads.Config.thread_update_of_ne hj)⟩
  have hrestored : (unlockedStore.rollback i c.shared).db.data =
      (dataImages i c.shared.undo).foldl (fun t u => t.restore u.1 u.2) c.shared.db.data :=
    data_foldl_restore _ _
  refine h.of_step (fun hj => Threads.Config.thread_update_of_ne hj)
    (fun hj => dataImages_imagesOfOthers hj _) (fun hsave => (hother hsave).2) ?_ ?_
  · cases hsaved : savedData (c.thread i).log with
    | none =>
        -- nothing to put back
        refine h.stored_of_eq (fun hsave => (hother hsave).2) ?_
        rw [Threads.Config.shared_update, hrestored, (h.undoable hrunning).unsaved hsaved]
        rfl
    | some row =>
        obtain ⟨found, hkey, himages, hothers⟩ := (h.undoable hrunning).saved hsaved
        obtain ⟨stored, hstored, hle⟩ := h.stored
        obtain rfl : stored = row := Option.some.inj (hstored.symm.trans (hundoes hsaved))
        refine ⟨found, ?_, ?_⟩
        · rw [Threads.Config.shared_update, hrestored, himages]
          show (c.shared.db.data.put found).lookup key = some found
          rw [← hkey, Table.lookup_put_self]
        · -- nobody has saved counters after those that are undone
          intro j row' hsave
          obtain ⟨hj, hsave⟩ := hother hsave
          rcases hothers hj hsave with hbefore | hafter
          · exact hbefore
          · exact absurd hafter (not_lt_of_ge (hle hsave))
  · intro hresult
    rw [Threads.Config.thread_update_self] at hresult
    cases hresult

/-- **A step of an undisturbed allocation** keeps the counters apart. -/
theorem Apart.step {lib : VcStatusRl2020} {calls : ι → Call} {credential : ι → Credential}
    {options : PluginOptions} {did : Text} {req : Context}
    (h : Apart ⟨options.revocationListPath, did⟩ c)
    (hcall : calls i = .getRevocationData options did req)
    (hfollows : CallFollows lib calls credential c i)
    (hok : UndisturbedAllocation ⟨options.revocationListPath, did⟩ i x c)
    (hstep : CallsStep unlockedStore i x c c') : Apart ⟨options.revocationListPath, did⟩ c' := by
  cases hstep with
  | @operation o k r s hrunning hcurrent hserve =>
      have hallowed := hfollows.allowed hcurrent
      rw [hcall] at hallowed
      simp only [unlockedStore, Option.some.injEq, Prod.mk.injEq] at hserve
      obtain ⟨rfl, rfl⟩ := hserve
      have hdata := data_serve x.env.withoutLocks o c.shared.db
      cases hsaved : dataSavedBy o (serve x.env.withoutLocks o c.shared.db).1 with
      | none =>
          rw [hsaved] at hdata
          exact h.answered_of_none hrunning hsaved hdata
      | some row =>
          rw [hsaved] at hdata
          obtain ⟨stored, hstored, -⟩ := h.stored
          rcases dataSavedBy_eq_some hsaved with ⟨entity, rfl⟩ | ⟨entity, rfl⟩
          · -- the unique index refuses another row with this key
            exfalso
            obtain ⟨rfl, -, -⟩ := hallowed.2
            rcases serve_cases x.env.withoutLocks (.insertData ⟨options.revocationListPath, did,
              options.bitStringLength⟩) c.shared.db with hserved | ⟨e, hserved⟩
            · have hkey : (NewRevocationData.toRow ⟨options.revocationListPath, did,
                  options.bitStringLength⟩).key = ⟨options.revocationListPath, did⟩ := rfl
              rw [hserved] at hsaved
              simp [serveOp, Table.insert, hkey, hstored, dataSavedBy] at hsaved
            · rw [hserved] at hsaved
              cases hsaved
          · obtain ⟨⟨found, hfound, -, rfl⟩, hunsaved⟩ := hallowed.2
            have hsaves := hok.saves
            simp only [savesFoundData, Threads.Thread.next, hcurrent, hfound, decide_eq_true_eq,
              Option.some.injEq] at hsaves
            rcases serve_cases x.env.withoutLocks (.updateData (found.advance
              options.bitStringLength)) c.shared.db with hserved | ⟨e, hserved⟩
            · rw [hserved]
              exact h.answered_of_update hrunning hunsaved hsaves.symm rfl
            · rw [hserved] at hsaved
              cases hsaved
  | restarted hrunning hcurrent hpolicy hcommit =>
      refine h.committed ?_ (fun _ => rfl)
      intro row _ hrow
      cases hrow
  | returned hrunning hcurrent hpolicy hcommit =>
      refine h.committed ?_ (fun hresult => by cases hresult)
      intro row _ hrow
      exact ⟨by simp [hrunning], hrow⟩
  | thrown hrunning hcurrent hreason =>
      refine h.rolledBack hrunning ?_
      intro row hrow
      have hundoes := hok.undoes
      rw [undoesSavedData, Threads.rollsBack_of_throws hcurrent hreason, if_pos rfl,
        hrow] at hundoes
      exact of_decide_eq_true hundoes

/-- **Undisturbed allocations are handed out different entries**: in every run of any number of
calls for one issuer under one base path, whatever their lengths. -/
theorem unlocked_entries_distinct {lib : VcStatusRl2020} {path did : Text}
    {options : ι → PluginOptions} {req : ι → Context} {db : Db} {row : RevocationData}
    (hpath : ∀ i, (options i).revocationListPath = path)
    (hrow : db.data.lookup ⟨path, did⟩ = some row)
    (hrun : CallsReach unlockedStore lib
      (fun i => .getRevocationData (options i) did (req i))
      (UndisturbedAllocation ⟨path, did⟩) ⟨db, []⟩ c) :
    ∀ i j a b, i ≠ j → Allocated c i a → Allocated c j b → a ≠ b := by
  have hlegal : ∀ j y (d : CallConfig ι (SharedDb ι)) o r s',
      UndisturbedAllocation ⟨path, did⟩ j y d →
      (Call.getRevocationData (options j) did (req j)).Allowed lib ⟨none⟩ (d.thread j).log o →
      unlockedStore.serve j y o d.shared = some (r, s') → Legal ⟨none⟩ o r := by
    intro j y d o r s' hok hallowed hserve
    have henv : EnvFor (.getRevocationData (options j) did (req j)) ⟨none⟩ y.env :=
      ⟨hok.env, fun hhash => by cases hhash⟩
    exact unlockedStore_legal henv hallowed hserve
  have hapart : Apart ⟨path, did⟩ c := by
    refine Threads.Reaches.invariant hrun ?_ ?_
    · constructor
      case stored => exact ⟨row, hrow, fun hsave => by cases hsave.2⟩
      case distinct =>
          intro j k v w _ hsave _
          cases hsave.2
      case undoable =>
          intro j _
          exact ⟨fun _ => rfl, fun hsaved => by cases hsaved⟩
    · intro i x d d' hreach hinv hok hstep
      have hfollows := CallsReach.follows hreach hlegal i
      obtain rfl := hpath i
      exact hinv.step rfl hfollows hok hstep
  intro i j a b hij ha hb
  have hentry : ∀ {k entry}, Allocated c k entry → ∃ row, HasSaved c k row ∧
      entry = ⟨path ++ listPath did row.listCounter, row.indexCounter⟩ := by
    intro k entry hk
    obtain ⟨-, row, hsaved, -, hresult⟩ := hrun.final_of_returned
      (hrun.follows hlegal k) hk
    refine ⟨row, ⟨fun e he => ?_, hsaved⟩, ?_⟩
    · rw [Allocated, he] at hk
      cases hk
    · rw [← hpath k]
      exact Option.some.inj hresult
  obtain ⟨row₁, hsaved₁, rfl⟩ := hentry ha
  obtain ⟨row₂, hsaved₂, rfl⟩ := hentry hb
  intro heq
  rw [entry_inj] at heq
  exact hapart.distinct hij hsaved₁ hsaved₂ (Prod.ext heq.1 heq.2)

end Allocations

/-! ### Two calls -/

/-- Steps of two calls in which nothing fails. -/
def plainSchedule (order : List (Fin 2)) : List (Fin 2 × AttemptEnv) :=
  order.map fun i => (i, plainEnvs 0)

theorem lawful_of_mem_plainSchedule {order : List (Fin 2)} {i : Fin 2} {x : AttemptEnv}
    (h : (i, x) ∈ plainSchedule order) : x.env.Lawful := by
  obtain ⟨_, -, heq⟩ := List.mem_map.1 h
  rw [← (Prod.mk.inj heq).2]
  exact plainEnvs_lawful 0

/-- Two allocations for the same issuer. -/
def twoAllocations (_ : Fin 2) : Call := .getRevocationData plainOptions plainDid ⟨true⟩

/-- **Two calls are handed out one entry**: the second one finds the counters before the first one
saves them. -/
theorem getRevocationData_duplicated :
    ∃ c, CallsReach unlockedStore plainLib twoAllocations (fun _ x _ => x.env.Lawful)
        ⟨plainIssued, []⟩ c ∧
      ∀ i, Allocated c i ⟨plainPath ++ listPath plainDid 0, 1⟩ := by
  have hexec : (Threads.exec unlockedStore (retryPolicy defaultMaxRetries) (fun _ _ _ => true)
      (plainSchedule [0, 0, 0, 1, 1, 1, 0, 0, 0, 0, 0, 1, 1, 1, 1, 1])
      (startOf plainLib twoAllocations ⟨plainIssued, []⟩)).any (fun c =>
        decide (∀ i, Allocated c i ⟨plainPath ++ listPath plainDid 0, 1⟩)) = true := by
    decide +kernel
  obtain ⟨c, hreach, hc⟩ := Threads.exists_reaches_of_exec
    (fun _ _ _ hmem _ => lawful_of_mem_plainSchedule hmem) hexec
  exact ⟨c, hreach, of_decide_eq_true hc⟩

/-- One after the other, the two calls are handed out different entries. -/
theorem unlocked_entries_distinct_plain :
    ∃ (c : CallConfig (Fin 2) (SharedDb (Fin 2))) (a b : RevocationDataResult),
      Allocated c 0 a ∧ Allocated c 1 b ∧ a ≠ b := by
  let undisturbed (i : Fin 2) (x : AttemptEnv) (c : CallConfig (Fin 2) (SharedDb (Fin 2))) : Bool :=
    savesFoundData ⟨plainPath, plainDid⟩ i c && undoesSavedData ⟨plainPath, plainDid⟩ i x c
  let order : List (Fin 2) := [0, 1, 0, 1, 0, 0, 0, 1, 1, 0, 0, 1, 0, 1, 1, 1, 1]
  have hexec : (Threads.exec unlockedStore (retryPolicy defaultMaxRetries) undisturbed
      (plainSchedule order) (startOf plainLib twoAllocations ⟨plainIssued, []⟩)).any (fun c =>
        decide (Allocated c 0 ⟨plainPath ++ listPath plainDid 0, 1⟩ ∧
          Allocated c 1 ⟨plainPath ++ listPath plainDid 1, 0⟩)) = true := by
    decide +kernel
  have hok : ∀ i x (c : CallConfig (Fin 2) (SharedDb (Fin 2))), (i, x) ∈ plainSchedule order →
      undisturbed i x c = true → UndisturbedAllocation ⟨plainPath, plainDid⟩ i x c := by
    intro i x c hmem htest
    obtain ⟨hsaves, hundoes⟩ := Bool.and_eq_true_iff.1 htest
    exact ⟨lawful_of_mem_plainSchedule hmem, hsaves, hundoes⟩
  obtain ⟨c, hreach, hc⟩ := Threads.exists_reaches_of_exec hok hexec
  obtain ⟨h0, h1⟩ := of_decide_eq_true hc
  have hrow : plainIssued.data.lookup ⟨plainPath, plainDid⟩ =
      some ⟨plainPath, plainDid, 0, 0, 2⟩ := by
    decide +kernel
  have hdistinct := @unlocked_entries_distinct (Fin 2) _ c plainLib plainPath plainDid
    (fun _ => plainOptions) (fun _ => ⟨true⟩) plainIssued _ (fun _ => rfl) hrow hreach
  exact ⟨c, _, _, h0, h1, hdistinct 0 1 _ _ (by decide) h0 h1⟩

end Revocation
