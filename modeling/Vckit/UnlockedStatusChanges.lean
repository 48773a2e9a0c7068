/-
**Concurrent status changes without locks.**

A list is found in one step, signed in another and saved in a third.  A call that saves after
another one has saved in between writes the old bit of the other's index back.  When every save is
made on the list the attempt found, a stored bit is always what the last save on its index wrote.

Main definitions:

* `Revocation.StatusCall` — a call that changes the status of a credential;
* `Revocation.lastWritten` — the bit that the last save on an index wrote;
* `Revocation.UndisturbedStatusChange` — nothing has come between a save and the find it rests on;
* `Revocation.BitsKept` — the invariant: the stored bits are those written last.

Main results:

* `Revocation.unlocked_bits_kept` — **undisturbed status changes keep each other's bits**;
* `Revocation.revokeCredential_lost` — two revocations of which one is lost.
-/

import Vckit.UnlockedStore

set_option relaxedAutoImplicit false
set_option autoImplicit false

namespace Revocation

variable {ι : Type}

/-! ### Status changes -/

/-- A call that changes the status of a credential. -/
structure StatusCall where
  revoked : Bool
  options : PluginOptions
  hash : Text
  context : Context
  credential : Credential

/-- The call. -/
def StatusCall.call (s : StatusCall) : Call :=
  match s.revoked with
  | true => .revokeCredential s.options s.hash s.context
  | false => .activateCredential s.options s.hash s.context

theorem StatusCall.allowed {lib : VcStatusRl2020} {s : StatusCall} {log : List Event} {o : Op}
    (h : s.call.Allowed lib s.credential log o) :
    Healthy log ∧ StatusAllowed lib s.options s.hash s.credential s.revoked log o := by
  obtain ⟨revoked, options, hash, context, credential⟩ := s
  cases revoked <;> exact h

/-- The bit that the last save on an index wrote; `index` and `revoked` say what each call
writes. -/
def lastWritten (index : ι → Option ℕ) (revoked : ι → Bool) :
    List (ι × Event) → ℕ → Option Bool
  | [], _ => none
  | (i, event) :: history, k =>
      if (listSavedBy event.op event.answer).isSome ∧ index i = some k then some (revoked i)
      else lastWritten index revoked history k

section StatusChanges

variable [DecidableEq ι] {calls : ι → StatusCall} {lib : VcStatusRl2020} {urlPath : Text}
  {db : Db} {i : ι} {x : AttemptEnv} {c c' : CallConfig ι (SharedDb ι)}

/-- The list that call `i` is about to save is the one stored, with one bit set. -/
def savesFoundList (urlPath : Text) (i : ι) (c : CallConfig ι (SharedDb ι)) : Bool :=
  match (c.thread i).next with
  | some (.updateList _) =>
      decide (foundList (c.thread i).log =
        some (c.shared.db.lists.findOne (ListQuery.accepts ⟨urlPath, none⟩)))
  | _ => true

/-- Nothing has come between the step of a status change and the step it rests on. -/
structure UndisturbedStatusChange (calls : ι → StatusCall) (urlPath : Text) (i : ι)
    (x : AttemptEnv) (c : CallConfig ι (SharedDb ι)) : Prop where
  env : EnvFor (calls i).call (calls i).credential x.env
  saves : savesFoundList urlPath i c = true

/-- Every stored bit is the one written last, or the one stored at the start. -/
structure BitsKept (lib : VcStatusRl2020) (calls : ι → StatusCall) (urlPath : Text) (db : Db)
    (c : CallConfig ι (SharedDb ι)) : Prop where
  written : ∀ {k b}, lastWritten (fun i => (calls i).credential.revocationListIndex)
    (fun i => (calls i).revoked) c.history k = some b →
    storedBit lib c.shared.db.lists urlPath k = some b
  untouched : ∀ {k b}, lastWritten (fun i => (calls i).credential.revocationListIndex)
    (fun i => (calls i).revoked) c.history k = none →
    storedBit lib db.lists urlPath k = some b →
    storedBit lib c.shared.db.lists urlPath k = some b

/-- **A step of an undisturbed status change** keeps the bits, unless it rolls back. -/
theorem BitsKept.step (hlib : lib.Lawful) (h : BitsKept lib calls urlPath db c)
    (hfollows : CallFollows lib (fun i => (calls i).call) (fun i => (calls i).credential) c i)
    (hok : UndisturbedStatusChange calls urlPath i x c)
    (hstep : CallsStep unlockedStore i x c c')
    (hthrow : ∀ e, (c'.thread i).result ≠ some (.error e)) :
    BitsKept lib calls urlPath db c' := by
  cases hstep with
  | @operation o k r s hrunning hcurrent hserve =>
      obtain ⟨-, hallowed⟩ := StatusCall.allowed (hfollows.allowed hcurrent)
      simp only [unlockedStore, Option.some.injEq, Prod.mk.injEq] at hserve
      obtain ⟨rfl, rfl⟩ := hserve
      have hlists := lists_serve x.env.withoutLocks o c.shared.db
      cases hsaved : listSavedBy o (serve x.env.withoutLocks o c.shared.db).1 with
      | none =>
          rw [hsaved] at hlists
          constructor
          case written =>
              intro k b hb
              rw [Threads.Config.history_answered, lastWritten, if_neg (by simp [hsaved])] at hb
              rw [Threads.Config.shared_answered, hlists]
              exact h.written hb
          case untouched =>
              intro k b hb hbit
              rw [Threads.Config.history_answered, lastWritten, if_neg (by simp [hsaved])] at hb
              rw [Threads.Config.shared_answered, hlists]
              exact h.untouched hb hbit
      | some row =>
          rw [hsaved] at hlists
          rcases listSavedBy_eq_some hsaved with ⟨entity, rfl⟩ | ⟨entity, rfl⟩
          · exact hallowed.elim
          · obtain ⟨⟨found, hfound, decoded, list, vc, hdecode, hset, hencodes, rfl⟩, -⟩ := hallowed
            have hsaves := hok.saves
            simp only [savesFoundList, Threads.Thread.next, hcurrent, hfound, decide_eq_true_eq,
              Option.some.injEq] at hsaves
            obtain ⟨j, hindex, hwritten⟩ := bitWritten_put hlib hsaves.symm hdecode hset hencodes
            rcases serve_cases x.env.withoutLocks (.updateList { found with
              verifiableCredential := vc }) c.shared.db with hserved | ⟨e, hserved⟩
            · obtain rfl : { found with verifiableCredential := vc } = row := by
                rw [hserved] at hsaved
                exact Option.some.inj hsaved
              constructor
              case written =>
                  intro k b hb
                  rw [Threads.Config.shared_answered, hlists]
                  by_cases hk : k = j
                  · subst hk
                    rw [Threads.Config.history_answered, lastWritten,
                      if_pos ⟨by rw [hsaved]; rfl, hindex⟩] at hb
                    rw [← hb]
                    exact hwritten.written
                  · rw [Threads.Config.history_answered, lastWritten, if_neg (fun hand => hk
                      (Option.some.inj (hand.2.symm.trans hindex)))] at hb
                    exact hwritten.kept (fun heq => hk (Prod.mk.inj heq).2) (h.written hb)
              case untouched =>
                  intro k b hb hbit
                  rw [Threads.Config.shared_answered, hlists]
                  by_cases hk : k = j
                  · subst hk
                    rw [Threads.Config.history_answered, lastWritten,
                      if_pos ⟨by rw [hsaved]; rfl, hindex⟩] at hb
                    cases hb
                  · rw [Threads.Config.history_answered, lastWritten, if_neg (fun hand => hk
                      (Option.some.inj (hand.2.symm.trans hindex)))] at hb
                    exact hwritten.kept (fun heq => hk (Prod.mk.inj heq).2) (h.untouched hb hbit)
            · rw [hserved] at hsaved
              cases hsaved
  | restarted => exact ⟨h.written, h.untouched⟩
  | returned => exact ⟨h.written, h.untouched⟩
  | @thrown r e =>
      have herror := hthrow e
      rw [Threads.Config.thread_update_self] at herror
      exact absurd rfl herror

/-- A call that has thrown makes no step, so a step does not undo that. -/
theorem error_of_step {j : ι} {e : JsError} (hstep : CallsStep unlockedStore i x c c')
    (herror : (c.thread j).result = some (.error e)) :
    (c'.thread j).result = some (.error e) := by
  by_cases hj : j = i
  · subst hj
    cases hstep <;> simp_all
  · cases hstep <;> simp [hj, herror]

/-- **Undisturbed status changes keep each other's bits**: in every run of any number of calls on
one list of which none throws, a stored bit is what the last save on its index wrote, and one that
was not written is as it was. -/
theorem unlocked_bits_kept (hlib : lib.Lawful)
    (hrun : CallsReach unlockedStore lib (fun i => (calls i).call)
      (UndisturbedStatusChange calls urlPath) ⟨db, []⟩ c)
    (hthrow : ∀ i e, (c.thread i).result ≠ some (.error e)) :
    BitsKept lib calls urlPath db c := by
  have hlegal : ∀ j y (d : CallConfig ι (SharedDb ι)) o r s',
      UndisturbedStatusChange calls urlPath j y d →
      (calls j).call.Allowed lib (calls j).credential (d.thread j).log o →
      unlockedStore.serve j y o d.shared = some (r, s') → Legal (calls j).credential o r :=
    fun j y d o r s' hok hallowed hserve => unlockedStore_legal hok.env hallowed hserve
  refine Threads.Reaches.invariant hrun (I := fun d => (∀ i e, (d.thread i).result ≠
    some (.error e)) → BitsKept lib calls urlPath db d) ?_ ?_ hthrow
  · intro _
    constructor
    case written =>
        intro k b hb
        cases hb
    case untouched =>
        intro k b _ hbit
        exact hbit
  · intro i x d d' hreach hinv hok hstep hthrow
    have hbefore : ∀ j e, (d.thread j).result ≠ some (.error e) :=
      fun j e herror => hthrow j e (error_of_step hstep herror)
    exact (hinv hbefore).step hlib (CallsReach.follows hreach hlegal i) hok hstep (hthrow i)

end StatusChanges

/-! ### Two calls -/

/-- The credential with the entry of index `i` in the first list of `plainDid`. -/
def plainCredentialAt (i : ℕ) : Credential :=
  ⟨some (credentialStatusOf ⟨plainPath ++ listPath plainDid 0, i⟩)⟩

/-- The two credentials of that list are revoked. -/
def twoRevocations (i : Fin 2) : StatusCall where
  revoked := true
  options := plainOptions
  hash := [Char.ofNat (97 + i)]
  context := ⟨true⟩
  credential := plainCredentialAt i

/-- An agent that stores both credentials. -/
def twoEnv : AttemptEnv where
  env := plainEnv [plainDid] [(['a'], plainCredentialAt 0), (['b'], plainCredentialAt 1)]
  commitError := none

/-- Steps of the two revocations in which nothing fails. -/
def twoSchedule (order : List (Fin 2)) : List (Fin 2 × AttemptEnv) := order.map fun i => (i, twoEnv)

theorem twoEnv_of_mem {order : List (Fin 2)} {i : Fin 2} {x : AttemptEnv}
    (h : (i, x) ∈ twoSchedule order) :
    EnvFor (twoRevocations i).call (twoRevocations i).credential x.env := by
  obtain ⟨_, -, heq⟩ := List.mem_map.1 h
  obtain ⟨-, rfl⟩ := Prod.mk.inj heq
  refine ⟨plainEnv_lawful _ _, ?_⟩
  intro hash found hhash hfound
  have hi : i = 0 ∨ i = 1 := by omega
  rcases hi with rfl | rfl
  · cases hhash
    exact (Option.some.inj (Except.ok.inj hfound)).symm
  · cases hhash
    exact (Option.some.inj (Except.ok.inj hfound)).symm

/-- **A revocation is lost**: both calls find the list before either saves it, and both return. -/
theorem revokeCredential_lost :
    ∃ c, CallsReach unlockedStore plainLib (fun i => (twoRevocations i).call)
        (fun i x _ => EnvFor (twoRevocations i).call (twoRevocations i).credential x.env)
        ⟨plainIssued, []⟩ c ∧
      (∀ i, (c.thread i).result = some (.ok (some none))) ∧
      lastWritten (fun i => (twoRevocations i).credential.revocationListIndex)
        (fun i => (twoRevocations i).revoked) c.history 0 = some true ∧
      storedBit plainLib c.shared.db.lists (listPath plainDid 0) 0 = some false := by
  have hexec : (Threads.exec unlockedStore (retryPolicy defaultMaxRetries) (fun _ _ _ => true)
      (twoSchedule [0, 0, 0, 0, 1, 1, 1, 1, 0, 0, 0, 1, 1, 1])
      (startOf plainLib (fun i => (twoRevocations i).call) ⟨plainIssued, []⟩)).any (fun c =>
        decide ((∀ i, (c.thread i).result = some (.ok (some none))) ∧
          lastWritten (fun i => (twoRevocations i).credential.revocationListIndex)
            (fun i => (twoRevocations i).revoked) c.history 0 = some true ∧
          storedBit plainLib c.shared.db.lists (listPath plainDid 0) 0 = some false)) = true := by
    decide +kernel
  obtain ⟨c, hreach, hc⟩ := Threads.exists_reaches_of_exec
    (fun _ _ _ hmem _ => twoEnv_of_mem hmem) hexec
  exact ⟨c, hreach, of_decide_eq_true hc⟩

/-- When the second call finds the list after the first has saved it, both bits are set. -/
theorem unlocked_bits_kept_plain :
    ∃ c : CallConfig (Fin 2) (SharedDb (Fin 2)),
      (∀ i, (c.thread i).result = some (.ok (some none))) ∧
      BitsKept plainLib twoRevocations (listPath plainDid 0) plainIssued c := by
  let order : List (Fin 2) := [0, 0, 0, 1, 1, 0, 0, 0, 0, 1, 1, 1, 1, 1]
  have hexec : (Threads.exec unlockedStore (retryPolicy defaultMaxRetries)
      (fun i _ c => savesFoundList (listPath plainDid 0) i c) (twoSchedule order)
      (startOf plainLib (fun i => (twoRevocations i).call) ⟨plainIssued, []⟩)).any (fun c =>
        decide (∀ i, (c.thread i).result = some (.ok (some none)))) = true := by
    decide +kernel
  have hok : ∀ i x (c : CallConfig (Fin 2) (SharedDb (Fin 2))), (i, x) ∈ twoSchedule order →
      savesFoundList (listPath plainDid 0) i c = true →
      UndisturbedStatusChange twoRevocations (listPath plainDid 0) i x c :=
    fun i x c hmem htest => ⟨twoEnv_of_mem hmem, htest⟩
  obtain ⟨c, hreach, hc⟩ := Threads.exists_reaches_of_exec hok hexec
  have hreturned := of_decide_eq_true hc
  refine ⟨c, hreturned, unlocked_bits_kept plainLib_lawful hreach ?_⟩
  intro i e herror
  rw [hreturned i] at herror
  cases herror

end Revocation
