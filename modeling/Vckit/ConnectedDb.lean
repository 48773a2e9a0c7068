/-
**Connecting to the database on first use.**

The stores connect to their database when a method is called: `getConnectedDb` looks at the flag
`isInitialized` of the data source, and initialises it if the flag is not set.  Initialising takes
several steps, and the flag is set in the middle of them, before the migrations have run.  So while
one caller initialises the data source, another one either initialises it a second time, or gets it
before it is ready.

A step of the system is one synchronous piece of code: a call up to its first `await`, a step of an
initialisation, or the continuation of the caller that waited for it.

Main definitions:

* `ConnectedDb.getConnectedDb` — the decision of one call;
* `ConnectedDb.Timing` — the steps of `initialize`, and when flag and migrations are done;
* `ConnectedDb.step`, `ConnectedDb.run` — the system, and its runs;
* `ConnectedDb.Safe` — what is promised of every state;
* `ConnectedDb.Undisturbed` — no call is made while an initialisation is in progress.

Main results:

* `ConnectedDb.Phase.step` — what an undisturbed step leads to;
* `ConnectedDb.safe_iff_undisturbed` — **a run is safe exactly when it is undisturbed**;
* `ConnectedDb.run_disturbed` — a second initialisation, and a data source that is handed out before
  its migrations.
-/

import Mathlib.Data.List.Basic
import Mathlib.Tactic.Common

set_option relaxedAutoImplicit false
set_option autoImplicit false

namespace ConnectedDb

/-! ### One call -/

/-- What a store was built on. -/
inductive DbConnection
  | promise
  | dataSource
  deriving DecidableEq

/-- How a call of `getConnectedDb` goes on. -/
inductive Decision
  | awaitPromise
  | callInitialize
  | returnAtOnce
  deriving DecidableEq

/-- `getConnectedDb`, in both packages that have a store. -/
def getConnectedDb (dbConnection : DbConnection) (isInitialized : Bool) : Decision :=
  match dbConnection with
  | .promise => .awaitPromise
  | .dataSource => if !isInitialized then .callInitialize else .returnAtOnce

/-! ### The system -/

/-- `initialize` takes some steps; the flag is set after one of them, and so are the migrations
done. -/
structure Timing where
  steps : ℕ
  flagAt : ℕ
  migratedAt : ℕ
  flagAt_le : flagAt ≤ steps
  migratedAt_le : migratedAt ≤ steps

/-- A caller waits for its initialisation, which has taken some steps, or it has received the data
source, when initialisation had finished or not. -/
inductive Caller
  | initializing (taken : ℕ)
  | received (finished : Bool)
  deriving DecidableEq

/-- The data source, and everyone who has called `getConnectedDb`. -/
structure Sys where
  isInitialized : Bool
  migrated : Bool
  /-- An initialisation has resolved. -/
  resolved : Bool
  /-- How often `initialize` was called. -/
  initializations : ℕ
  callers : List Caller
  deriving DecidableEq

/-- A data source that is not initialised, and no caller. -/
def Sys.init : Sys := ⟨false, false, false, 0, []⟩

/-- The data source is ready. -/
def Sys.finished (s : Sys) : Bool := s.resolved && s.migrated

/-- A step of the system. -/
inductive Action
  | call
  | advance (caller : ℕ)
  | resolve (caller : ℕ)
  deriving DecidableEq

/-- An initialisation that has taken some steps. -/
def Sys.reach (s : Sys) (t : Timing) (taken : ℕ) : Sys :=
  { s with
    isInitialized := s.isInitialized || decide (t.flagAt ≤ taken)
    migrated := s.migrated || decide (t.migratedAt ≤ taken) }

/-- A new caller of a store that was built on the data source. -/
def Sys.call (s : Sys) (t : Timing) : Sys :=
  match getConnectedDb .dataSource s.isInitialized with
  | .callInitialize =>
      { s.reach t 0 with
        initializations := s.initializations + 1
        callers := s.callers ++ [.initializing 0] }
  | _ => { s with callers := s.callers ++ [.received s.finished] }

def step (t : Timing) (s : Sys) : Action → Option Sys
  | .call => some (s.call t)
  | .advance i =>
      match s.callers[i]? with
      | some (.initializing taken) =>
          if taken < t.steps then
            some { s.reach t (taken + 1) with
              callers := s.callers.set i (.initializing (taken + 1)) }
          else none
      | _ => none
  | .resolve i =>
      match s.callers[i]? with
      | some (.initializing taken) =>
          if taken = t.steps then
            some { s with resolved := true, callers := s.callers.set i (.received s.migrated) }
          else none
      | _ => none

/-- The steps of a run. -/
def run (t : Timing) : Sys → List Action → Option Sys
  | s, [] => some s
  | s, a :: actions => (step t s a).bind fun s' => run t s' actions

/-! ### What is promised -/

/-- **What is promised**: the data source is initialised at most once, and everyone has received it
after that was finished. -/
structure Safe (s : Sys) : Prop where
  once : s.initializations ≤ 1
  ready : .received false ∉ s.callers

/-- Some caller waits for its initialisation. -/
def Sys.InProgress (s : Sys) : Prop := ∃ taken, .initializing taken ∈ s.callers

/-- **No call is made while an initialisation is in progress.** -/
def Undisturbed (t : Timing) : Sys → List Action → Prop
  | _, [] => True
  | s, a :: actions =>
      (a = .call → ¬s.InProgress) ∧ ∀ s', step t s a = some s' → Undisturbed t s' actions

/-! ### Steps -/

/-- **What a step can be.** -/
theorem step_cases {t : Timing} {s s' : Sys} {a : Action} (h : step t s a = some s') :
    (a = .call ∧ s' = s.call t) ∨
    (∃ i taken, a = .advance i ∧ s.callers[i]? = some (.initializing taken) ∧ taken < t.steps ∧
      s' = { s.reach t (taken + 1) with
        callers := s.callers.set i (.initializing (taken + 1)) }) ∨
    ∃ i, a = .resolve i ∧ s.callers[i]? = some (.initializing t.steps) ∧
      s' = { s with resolved := true, callers := s.callers.set i (.received s.migrated) } := by
  cases a with
  | call => exact Or.inl ⟨rfl, (Option.some.inj h).symm⟩
  | advance i =>
      rw [step] at h
      split at h
      · rename_i taken hcaller
        split at h
        · rename_i hlt
          exact Or.inr (Or.inl ⟨i, taken, rfl, hcaller, hlt, (Option.some.inj h).symm⟩)
        · cases h
      · cases h
  | resolve i =>
      rw [step] at h
      split at h
      · rename_i taken hcaller
        split at h
        · rename_i heq
          exact Or.inr (Or.inr ⟨i, rfl, heq ▸ hcaller, (Option.some.inj h).symm⟩)
        · cases h
      · cases h

/-- A caller that finds the flag set receives the data source at once. -/
theorem callers_call {t : Timing} {s : Sys} (h : s.isInitialized = true) :
    (s.call t).callers = s.callers ++ [.received s.finished] := by
  rw [Sys.call, h]
  rfl

/-- A caller that does not find it set initialises the data source. -/
theorem initializations_call {t : Timing} {s : Sys} (h : s.isInitialized = false) :
    (s.call t).initializations = s.initializations + 1 := by
  rw [Sys.call, h]
  rfl

/-! ### What is broken stays broken -/

/-- Who has received the data source is not the caller that waits. -/
theorem received_mem_set {callers : List Caller} {i taken : ℕ} {finished : Bool} {c : Caller}
    (hi : callers[i]? = some (.initializing taken)) (h : .received finished ∈ callers) :
    .received finished ∈ callers.set i c := by
  obtain ⟨j, hj⟩ := List.mem_iff_getElem?.1 h
  have hne : i ≠ j := by
    rintro rfl
    rw [hi] at hj
    cases hj
  exact List.mem_iff_getElem?.2 ⟨j, (List.getElem?_set_ne hne).trans hj⟩

theorem safe_of_step {t : Timing} {s s' : Sys} {a : Action} (h : step t s a = some s')
    (hsafe : Safe s') : Safe s := by
  rcases step_cases h with ⟨-, rfl⟩ | ⟨i, taken, -, hi, -, rfl⟩ | ⟨i, -, hi, rfl⟩
  · revert hsafe
    unfold Sys.call
    split
    · exact fun h => ⟨Nat.le_of_succ_le h.once, fun hmem => h.ready (List.mem_append_left _ hmem)⟩
    · exact fun h => ⟨h.once, fun hmem => h.ready (List.mem_append_left _ hmem)⟩
  · exact ⟨hsafe.once, fun hmem => hsafe.ready (received_mem_set hi hmem)⟩
  · exact ⟨hsafe.once, fun hmem => hsafe.ready (received_mem_set hi hmem)⟩

/-- A safe run was safe all along. -/
theorem safe_of_run {t : Timing} {s' : Sys} (hsafe : Safe s') :
    ∀ {actions : List Action} {s : Sys}, run t s actions = some s' → Safe s := by
  intro actions
  induction actions with
  | nil =>
      intro s h
      rwa [Option.some.inj h]
  | cons a actions ih =>
      intro s h
      obtain ⟨s₁, hstep, hrun⟩ := Option.bind_eq_some_iff.1 h
      exact safe_of_step hstep (ih hrun)

/-! ### The phases of an undisturbed run -/

/-- **The states of an undisturbed run**: nobody has called, the first caller initialises the data
source alone, or that is finished and everyone has received it. -/
inductive Phase (t : Timing) : Sys → Prop
  | fresh : Phase t Sys.init
  | running {taken : ℕ} (htaken : taken ≤ t.steps) :
      Phase t ⟨decide (t.flagAt ≤ taken), decide (t.migratedAt ≤ taken), false, 1,
        [.initializing taken]⟩
  | done (others : ℕ) :
      Phase t ⟨true, true, true, 1, List.replicate (others + 1) (.received true)⟩

variable {t : Timing} {s s' : Sys}

theorem Phase.safe (h : Phase t s) : Safe s := by
  cases h with
  | fresh => exact ⟨Nat.zero_le 1, List.not_mem_nil⟩
  | running _ =>
      refine ⟨Nat.le_refl 1, fun hmem => ?_⟩
      cases List.mem_singleton.1 hmem
  | done others =>
      refine ⟨Nat.le_refl 1, fun hmem => ?_⟩
      cases List.eq_of_mem_replicate hmem

/-- The only caller. -/
theorem eq_of_getElem?_singleton {i taken taken' : ℕ}
    (h : [Caller.initializing taken][i]? = some (.initializing taken')) :
    i = 0 ∧ taken = taken' := by
  cases i with
  | zero => exact ⟨rfl, Caller.initializing.inj (Option.some.inj h)⟩
  | succ i => cases h

/-- A flag that is set stays set. -/
theorem or_decide_le {a taken : ℕ} :
    (decide (a ≤ taken) || decide (a ≤ taken + 1)) = decide (a ≤ taken + 1) := by
  by_cases h : a ≤ taken
  · rw [decide_eq_true (Nat.le_succ_of_le h), Bool.or_true]
  · rw [decide_eq_false h, Bool.false_or]

/-- **What an undisturbed step leads to.** -/
theorem Phase.step {a : Action} (h : Phase t s) (hstep : step t s a = some s')
    (hcall : a = .call → ¬s.InProgress) : Phase t s' := by
  rcases step_cases hstep with ⟨rfl, rfl⟩ | ⟨i, taken, -, hi, hlt, rfl⟩ | ⟨i, -, hi, rfl⟩
  · cases h with
    | fresh => exact .running (Nat.zero_le t.steps)
    | running _ => exact absurd ⟨_, List.mem_singleton.2 rfl⟩ (hcall rfl)
    | done others =>
        have hcallers : List.replicate (others + 1) (Caller.received true) ++ [.received true] =
            List.replicate (others + 1 + 1) (.received true) := List.replicate_succ'.symm
        have hdone := Phase.done (t := t) (others + 1)
        rw [← hcallers] at hdone
        exact hdone
  · cases h with
    | fresh => cases hi
    | running _ =>
        obtain ⟨rfl, rfl⟩ := eq_of_getElem?_singleton hi
        have hrunning := Phase.running (t := t) hlt
        rw [← or_decide_le (a := t.flagAt), ← or_decide_le (a := t.migratedAt)] at hrunning
        exact hrunning
    | done others => cases List.eq_of_mem_replicate (List.mem_of_getElem? hi)
  · cases h with
    | fresh => cases hi
    | running _ =>
        obtain ⟨rfl, rfl⟩ := eq_of_getElem?_singleton hi
        rw [decide_eq_true t.flagAt_le, decide_eq_true t.migratedAt_le]
        exact .done 0
    | done others => cases List.eq_of_mem_replicate (List.mem_of_getElem? hi)

/-- **A call that disturbs an initialisation is not safe**: it starts another one, or it receives
the data source too early. -/
theorem Phase.not_safe_call (h : Phase t s) (hprogress : s.InProgress) : ¬Safe (s.call t) := by
  obtain ⟨taken, hmem⟩ := hprogress
  cases h with
  | fresh => cases hmem
  | @running taken _ =>
      intro hsafe
      by_cases hflag : t.flagAt ≤ taken
      · refine hsafe.ready ?_
        rw [callers_call (decide_eq_true hflag)]
        exact List.mem_append_right _ (List.mem_singleton.2 rfl)
      · have honce := hsafe.once
        rw [initializations_call (decide_eq_false hflag)] at honce
        exact absurd honce (Nat.lt_irrefl 1)
  | done others => cases List.eq_of_mem_replicate hmem

/-! ### Runs -/

/-- A run from a phase. -/
theorem Phase.safe_iff : ∀ {actions : List Action} {s : Sys}, Phase t s →
    run t s actions = some s' → (Safe s' ↔ Undisturbed t s actions) := by
  intro actions
  induction actions with
  | nil =>
      intro s h hrun
      rw [← Option.some.inj hrun]
      exact iff_of_true h.safe trivial
  | cons a actions ih =>
      intro s h hrun
      obtain ⟨s₁, hstep, hrest⟩ := Option.bind_eq_some_iff.1 hrun
      by_cases hcall : a = .call → ¬s.InProgress
      · rw [ih (h.step hstep hcall) hrest]
        constructor
        · intro hundisturbed
          refine ⟨hcall, fun s₂ hstep₂ => ?_⟩
          rwa [← Option.some.inj (hstep.symm.trans hstep₂)]
        · exact fun hundisturbed => hundisturbed.2 s₁ hstep
      · refine iff_of_false (fun hsafe => ?_) fun hundisturbed => hcall hundisturbed.1
        obtain ⟨rfl, hprogress⟩ := Classical.not_imp.1 hcall
        have hsafe₁ := safe_of_run hsafe hrest
        rw [← Option.some.inj hstep] at hsafe₁
        exact h.not_safe_call (not_not.1 hprogress) hsafe₁

/-- **A run is safe exactly when it is undisturbed.** -/
theorem safe_iff_undisturbed (t : Timing) (actions : List Action) (s : Sys)
    (hrun : run t Sys.init actions = some s) : Safe s ↔ Undisturbed t Sys.init actions :=
  Phase.fresh.safe_iff hrun

/-! ### Two callers -/

/-- The flag is set after the first of two steps, the migrations are done after the second. -/
def plainTiming : Timing := ⟨2, 1, 2, Nat.le_succ 1, Nat.le_refl 2⟩

/-- One caller after the other. -/
def inTurn : List Action := [.call, .advance 0, .advance 0, .resolve 0, .call]

/-- What they lead to. -/
def connected : Sys := ⟨true, true, true, 1, [.received true, .received true]⟩

/-- Two callers in turn are safe. -/
theorem undisturbed_inTurn : Undisturbed plainTiming Sys.init inTurn :=
  (safe_iff_undisturbed plainTiming inTurn connected rfl).1
    ⟨Nat.le_refl 1, by decide⟩

/-- **Two callers at once**: the data source is initialised twice, or it is handed out before its
migrations. -/
theorem run_disturbed :
    (∃ s, run plainTiming Sys.init [.call, .call] = some s ∧ s.initializations = 2 ∧ ¬Safe s) ∧
      ∃ s, run plainTiming Sys.init [.call, .advance 0, .call] = some s ∧
        .received false ∈ s.callers ∧ s.migrated = false ∧ ¬Safe s := by
  refine ⟨⟨_, rfl, rfl, fun h => ?_⟩, ⟨_, rfl, by decide, rfl, fun h => ?_⟩⟩
  · exact absurd h.once (by decide)
  · exact absurd h.ready (by decide)

end ConnectedDb
