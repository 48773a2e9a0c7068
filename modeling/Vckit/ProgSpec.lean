/-
**What a program may do next, given what it was answered.**

When other programs run in between, a program cannot be run to its end on one store.  What can be
said about it is a protocol: which operations it may perform after which answers, and what holds
when it returns or throws.  The answers it may get are restricted by a relation `legal`, which
says what a store's answers have in common, whatever else is going on.

The answers of an attempt are kept in a log, newest first, and both the operations allowed and
the final condition are read off it.  `Prog.Keeps` is the weakest condition on the log under which
a program follows the protocol; its rules are those of a Hoare logic.

Main definitions:

* `Prog.Event` — an operation and its answer;
* `Prog.Keeps` — the program follows the protocol from a log on.

Main results:

* `Prog.keeps_bind`, `Prog.keeps_tryCatch`, `Prog.keeps_mapError`, `Prog.keeps_perform`,
  `Prog.keeps_ofExcept` — **the rules**, one for each combinator;
* `Prog.Keeps.mono` — weakening the final condition.
-/

import Vckit.Prog

set_option relaxedAutoImplicit false
set_option autoImplicit false

namespace Prog

variable {Op : Type} {Resp : Op → Type} {ε α β : Type}

/-- An operation that was performed, and its answer. -/
structure Event (Op : Type) (Resp : Op → Type) (ε : Type) where
  op : Op
  answer : Except ε (Resp op)

/-- **The program follows the protocol** after the answers in the log: it performs operations that
are allowed only, and when it ends, its outcome meets the final condition. -/
def Keeps (allowed : List (Event Op Resp ε) → Op → Prop)
    (legal : (o : Op) → Except ε (Resp o) → Prop)
    (final : List (Event Op Resp ε) → Except ε α → Prop) :
    Prog Op Resp ε α → List (Event Op Resp ε) → Prop
  | ret a, log => final log (.ok a)
  | throw e, log => final log (.error e)
  | call o k, log =>
      allowed log o ∧ ∀ r, legal o r → Keeps allowed legal final (k r) (⟨o, r⟩ :: log)

variable {allowed : List (Event Op Resp ε) → Op → Prop}
  {legal : (o : Op) → Except ε (Resp o) → Prop}
  {final final' : List (Event Op Resp ε) → Except ε α → Prop}
  {log : List (Event Op Resp ε)}

@[simp] theorem keeps_ret {a : α} :
    Keeps allowed legal final (ret a) log ↔ final log (.ok a) := Iff.rfl

@[simp] theorem keeps_throw {e : ε} :
    Keeps allowed legal final (throw e) log ↔ final log (.error e) := Iff.rfl

theorem keeps_call {o : Op} {k : Except ε (Resp o) → Prog Op Resp ε α} :
    Keeps allowed legal final (call o k) log ↔
      allowed log o ∧ ∀ r, legal o r → Keeps allowed legal final (k r) (⟨o, r⟩ :: log) := Iff.rfl

theorem Keeps.mono (hfinal : ∀ log r, final log r → final' log r) :
    ∀ {p : Prog Op Resp ε α} {log}, Keeps allowed legal final p log →
      Keeps allowed legal final' p log := by
  intro p
  induction p with
  | ret a => intro log h; exact hfinal log _ h
  | throw e => intro log h; exact hfinal log _ h
  | call o k ih => intro log h; exact ⟨h.1, fun r hr => ih r (h.2 r hr)⟩

/-! ### The rules -/

/-- A single operation. -/
theorem keeps_perform {o : Op} {final : List (Event Op Resp ε) → Except ε (Resp o) → Prop}
    (hallowed : allowed log o) (hfinal : ∀ r, legal o r → final (⟨o, r⟩ :: log) r) :
    Keeps allowed legal final (perform o) log := by
  refine ⟨hallowed, ?_⟩
  intro r hr
  cases r with
  | ok a => exact hfinal _ hr
  | error e => exact hfinal _ hr

/-- A result or an error that is already there. -/
@[simp] theorem keeps_ofExcept {r : Except ε α} :
    Keeps allowed legal final (ofExcept r) log ↔ final log r := by
  cases r <;> rfl

/-- A sequence. -/
theorem keeps_bind {f : α → Prog Op Resp ε β} {final : List (Event Op Resp ε) → Except ε β → Prop} :
    ∀ {p : Prog Op Resp ε α} {log}, Keeps allowed legal final (p >>= f) log ↔
      Keeps allowed legal (fun log r =>
        match r with
        | .ok a => Keeps allowed legal final (f a) log
        | .error e => final log (.error e)) p log := by
  intro p
  induction p with
  | ret a => intro log; exact Iff.rfl
  | throw e => intro log; exact Iff.rfl
  | call o k ih =>
      intro log
      rw [call_bind, keeps_call, keeps_call]
      exact and_congr_right fun _ => forall_congr' fun r => imp_congr_right fun _ => ih r

/-- A `try`/`catch`. -/
theorem keeps_tryCatch {c : ε → Prog Op Resp ε α} :
    ∀ {p : Prog Op Resp ε α} {log}, Keeps allowed legal final (p.tryCatch c) log ↔
      Keeps allowed legal (fun log r =>
        match r with
        | .ok a => final log (.ok a)
        | .error e => Keeps allowed legal final (c e) log) p log := by
  intro p
  induction p with
  | ret a => intro log; exact Iff.rfl
  | throw e => intro log; exact Iff.rfl
  | call o k ih =>
      intro log
      rw [tryCatch_call, keeps_call, keeps_call]
      exact and_congr_right fun _ => forall_congr' fun r => imp_congr_right fun _ => ih r

/-- A `catch` that rethrows. -/
theorem keeps_mapError {f : ε → ε} :
    ∀ {p : Prog Op Resp ε α} {log}, Keeps allowed legal final (p.mapError f) log ↔
      Keeps allowed legal (fun log r =>
        match r with
        | .ok a => final log (.ok a)
        | .error e => final log (.error (f e))) p log := by
  intro p
  induction p with
  | ret a => intro log; exact Iff.rfl
  | throw e => intro log; exact Iff.rfl
  | call o k ih =>
      intro log
      rw [mapError_call, keeps_call, keeps_call]
      exact and_congr_right fun _ => forall_congr' fun r => imp_congr_right fun _ => ih r

end Prog
