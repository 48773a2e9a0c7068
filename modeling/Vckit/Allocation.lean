/-
**The counters that a sequence of allocations hands out.**

One issuer asks for status entries under one base path, call after call, each time with a length
of its own choosing.  The row of counters then moves like a `RollingCounter` whose page is a list
and whose slot is an index, and the entry a call returns is the pair its row holds after the save.

Main definitions:

* `Revocation.RevocationData.counters` — the pair of a row;
* `Revocation.IssueRun` — successful allocations for one issuer and base path, one after the
  other.

Main results:

* `Revocation.counters_advance` — a row advances as a rolling counter does;
* `Revocation.IssueRun.row_eq` — the row after `k + 1` calls;
* `Revocation.issueRevocationData_counters` — **the pairs handed out**: they never repeat, lie
  inside their lists, are consecutive in a list, and open a new list exactly when the list is
  full or the length changes.
-/

import Vckit.RevocationSpec
import Vckit.RevocationInstance
import Vckit.RollingCounter

set_option relaxedAutoImplicit false
set_option autoImplicit false

namespace Revocation

variable {lib : VcStatusRl2020}

/-! ### One allocation -/

/-- The pair a row of counters stands for. -/
def RevocationData.counters (row : RevocationData) : ℕ × ℕ := (row.listCounter, row.indexCounter)

/-- **A row advances as a rolling counter does.** -/
theorem counters_advance (row : RevocationData) (n : ℕ) :
    (row.advance n).counters = RollingCounter.next row.bitStringLength n row.counters := by
  unfold RevocationData.advance RollingCounter.next RevocationData.counters
  split <;> rfl

/-- After an allocation the length in force is the one asked for. -/
theorem bitStringLength_advance (row : RevocationData) (n : ℕ) :
    (row.advance n).bitStringLength = n := by
  by_cases h : n = row.bitStringLength
  · subst h
    unfold RevocationData.advance
    split <;> simp
  · simp [RevocationData.advance, h]

/-- The next row of counters is larger. -/
theorem counters_lt_advance (row : RevocationData) (n : ℕ) :
    toLex row.counters < toLex (row.advance n).counters := by
  rw [counters_advance]
  exact RollingCounter.lt_next _ _ _

theorem bitStringLength_nextData (data : Table RevocationData.key) (key : DataKey) (n : ℕ) :
    (nextData data key n).bitStringLength = n := by
  unfold nextData
  cases data.lookup key with
  | none => rfl
  | some row => exact bitStringLength_advance row n

/-- The index an allocation hands out lies inside the length asked for. -/
theorem indexCounter_nextData_lt (data : Table RevocationData.key) (key : DataKey) {n : ℕ}
    (hn : n ≠ 0) : (nextData data key n).indexCounter < n := by
  have hpos : 0 < n := Nat.pos_of_ne_zero hn
  unfold nextData
  cases data.lookup key with
  | none => exact hpos
  | some row =>
      have hslot := RollingCounter.snd_next_lt row.bitStringLength hpos row.counters
      rwa [← counters_advance] at hslot

/-! ### A sequence of allocations -/

/-- `m` successful calls of `issueRevocationData` for the issuer `did` under the base path `path`:
call `k` asks for length `lens k`, returns `results k` and takes the tables from `dbs k` to
`dbs (k + 1)`.  Each call has an agent of its own, which resolves the issuer to `did`. -/
def IssueRun (lib : VcStatusRl2020) (path did : Text) (m : ℕ) (lens : ℕ → ℕ)
    (results : ℕ → RevocationDataResult) (dbs : ℕ → Db) : Prop :=
  ∀ k < m, 0 < lens k ∧ ∃ env issuer req, env.didManagerGet issuer = .ok ⟨did⟩ ∧
    Prog.run (serve env) (issueRevocationData lib ⟨path, lens k, issuer, req⟩) (dbs k) =
      (.ok (results k), dbs (k + 1))

variable {path did : Text} {m : ℕ} {lens : ℕ → ℕ} {results : ℕ → RevocationDataResult}
  {dbs : ℕ → Db}

/-- What one call of the sequence returns and leaves behind. -/
theorem IssueRun.step (hrun : IssueRun lib path did m lens results dbs) {k : ℕ} (hk : k < m) :
    results k = ⟨path ++ listPath did (nextData (dbs k).data ⟨path, did⟩ (lens k)).listCounter,
        (nextData (dbs k).data ⟨path, did⟩ (lens k)).indexCounter⟩ ∧
      (dbs (k + 1)).data.lookup ⟨path, did⟩ =
        some (nextData (dbs k).data ⟨path, did⟩ (lens k)) := by
  obtain ⟨-, env, issuer, req, hdid, hcall⟩ := hrun k hk
  have hend := run_issueRevocationData lib env ⟨path, lens k, issuer, req⟩ (dbs k)
  rw [hcall] at hend
  generalize hout : dbs (k + 1) = db' at hend ⊢
  generalize results k = r at hend ⊢
  cases hend with
  | issued _ _ hdid' hrow _ =>
      dsimp only at hdid' hrow ⊢
      rw [hdid] at hdid'
      simp only [Except.ok.injEq, Identifier.mk.injEq] at hdid'
      subst hdid'
      subst hrow
      refine ⟨rfl, ?_⟩
      have hself := Table.lookup_put_self (dbs k).data (nextData (dbs k).data ⟨path, did⟩ (lens k))
      rwa [key_nextData] at hself

/-- **The row of counters after `k + 1` calls** holds the `k`-th pair and the length asked for
last. -/
theorem IssueRun.row_eq (hrun : IssueRun lib path did m lens results dbs)
    (hnone : (dbs 0).data.lookup ⟨path, did⟩ = none) :
    ∀ k < m, (nextData (dbs k).data ⟨path, did⟩ (lens k)).counters = RollingCounter.nth lens k := by
  intro k
  induction k with
  | zero =>
      intro _
      rw [nextData, hnone]
      rfl
  | succ k ih =>
      intro hk
      have hprev := (hrun.step (Nat.lt_of_succ_lt hk)).2
      rw [nextData, hprev]
      rw [counters_advance, ih (Nat.lt_of_succ_lt hk), bitStringLength_nextData]
      rfl

/-- **The pairs that successive allocations hand out.**  They increase lexicographically, so no
entry is returned twice; an index lies inside the length of its own call; the indexes of one list
are consecutive from zero; a new list is opened exactly when the previous one is full or another
length is asked for; and for one length throughout, call `k` returns list `k / n` and index
`k % n`. -/
theorem issueRevocationData_counters (hrun : IssueRun lib path did m lens results dbs)
    (hnone : (dbs 0).data.lookup ⟨path, did⟩ = none) :
    ∃ counters : ℕ → ℕ × ℕ,
      (∀ k < m, results k = ⟨path ++ listPath did (counters k).1, (counters k).2⟩) ∧
      (∀ j k, j < k → k < m → toLex (counters j) < toLex (counters k)) ∧
      (∀ j k, j < k → k < m → results j ≠ results k) ∧
      (∀ k < m, (counters k).2 < lens k) ∧
      counters 0 = (0, 0) ∧
      (∀ k, k + 1 < m → counters (k + 1) = ((counters k).1, (counters k).2 + 1) ∨
        counters (k + 1) = ((counters k).1 + 1, 0)) ∧
      (∀ k, k + 1 < m → ((counters (k + 1)).1 ≠ (counters k).1 ↔
        (counters k).2 + 1 = lens k ∨ lens (k + 1) ≠ lens k)) ∧
      (∀ n, (∀ k < m, lens k = n) → ∀ k < m, counters k = (k / n, k % n)) := by
  have hresult : ∀ k < m, results k = ⟨path ++ listPath did (RollingCounter.nth lens k).1,
      (RollingCounter.nth lens k).2⟩ := by
    intro k hk
    rw [(hrun.step hk).1, ← hrun.row_eq hnone k hk]
    rfl
  have hmono : ∀ j k, j < k →
      toLex (RollingCounter.nth lens j) < toLex (RollingCounter.nth lens k) :=
    fun _ _ hjk => RollingCounter.strictMono_nth lens hjk
  refine ⟨RollingCounter.nth lens, hresult, fun j k hjk _ => hmono j k hjk, ?_, ?_, rfl, ?_, ?_, ?_⟩
  · intro j k hjk hk heq
    rw [hresult j (hjk.trans hk), hresult k hk, RevocationDataResult.mk.injEq,
      List.append_right_inj, listPath_inj] at heq
    have hpair : RollingCounter.nth lens j = RollingCounter.nth lens k :=
      Prod.ext heq.1.2 heq.2
    exact absurd (congrArg toLex hpair) (hmono j k hjk).ne
  · exact fun k hk => RollingCounter.snd_nth_lt (hrun k hk).1
  · exact fun k _ => RollingCounter.nth_succ lens k
  · exact fun k hk => RollingCounter.fst_nth_succ_ne_iff (hrun k (Nat.lt_of_succ_lt hk)).1
  · intro n hconst k hk
    have hn : 0 < n := hconst k hk ▸ (hrun k hk).1
    rw [RollingCounter.nth_congr fun j hj => hconst j (lt_of_le_of_lt hj hk)]
    exact RollingCounter.nth_const hn k

/-- A call that asks for a list of length two. -/
def plainIssue (db : Db) : Except JsError RevocationDataResult × Db :=
  Prog.run (serve (plainEnv [plainDid] []))
    (issueRevocationData plainLib ⟨plainPath, 2, plainDid, ⟨true⟩⟩) db

/-- The tables after `k` such calls. -/
def plainIssueDbs : ℕ → Db
  | 0 => Db.empty
  | k + 1 => (plainIssue (plainIssueDbs k)).2

/-- The entries three calls for lists of length two return. -/
theorem issueRevocationData_counters_plain :
    ∃ counters : ℕ → ℕ × ℕ, counters 0 = (0, 0) ∧ counters 1 = (0, 1) ∧ counters 2 = (1, 0) ∧
      (plainIssue (plainIssueDbs 2)).1 =
        .ok ⟨plainPath ++ listPath plainDid (counters 2).1, (counters 2).2⟩ := by
  have hrun : IssueRun plainLib plainPath plainDid 3 (fun _ => 2)
      (fun k => ⟨plainPath ++ listPath plainDid (k / 2), k % 2⟩) plainIssueDbs := by
    intro k hk
    refine ⟨Nat.zero_lt_two, plainEnv [plainDid] [], plainDid, ⟨true⟩, rfl, Prod.ext ?_ rfl⟩
    match k, hk with
    | 0, _ | 1, _ | 2, _ => rfl
  obtain ⟨counters, hres, _, _, _, hzero, _, _, hconst⟩ := issueRevocationData_counters hrun rfl
  have hdiv := hconst 2 fun _ _ => rfl
  refine ⟨counters, hzero, hdiv 1 (by decide), hdiv 2 (by decide), ?_⟩
  rw [← hres 2 (by decide)]
  rfl

end Revocation
