/-
**Credentials of a holder, by their id.**

The holder's routes address a credential by its id, and the data store of the agent keeps
credentials by their hash.  An id leads to the credentials that the data store finds with it, and
both `GET` and `DELETE` take the first one: `DELETE` removes it by its hash, and no other.  A
credential that was issued again has the id of the first one and another hash, so an id may lead to
several.

What the data store does is a parameter, with the laws that the controllers rely on.

Main definitions:

* `HolderController.Call`, `HolderController.Agent` — the methods of the agent, and programs that
  execute them;
* `HolderController.errorHandler` — the response to an error;
* `HolderController.getCredential`, `HolderController.deleteCredential` — the controllers;
* `HolderController.Lawful` — the laws of a data store;
* `HolderController.Deletes` — what a deletion is expected to leave.

Main results:

* `HolderController.run_deleteCredential_cons` — the first credential that is found is deleted;
* `HolderController.deletes_iff` — **a deletion leaves what is expected exactly when no other stored
  credential has the id**.
-/

import Mathlib.Data.List.Nodup
import Mathlib.Data.List.Perm.Basic
import Vckit.Prog
import Vckit.Text

set_option relaxedAutoImplicit false
set_option autoImplicit false

namespace HolderController

variable {V σ : Type}

/-! ### The agent -/

/-- A credential in the data store. -/
structure UniqueVerifiableCredential (V : Type) where
  hash : Text
  verifiableCredential : V

/-- A condition on a column. -/
structure WhereClause where
  column : Text
  value : List Text
  not : Bool
  op : Text

/-- A method of the agent, with its arguments. -/
inductive Call
  | dataStoreORMGetVerifiableCredentials (where_ : List WhereClause)
  | dataStoreDeleteVerifiableCredential (hash : Text)

/-- The answer of a method. -/
@[reducible] def Call.Resp (V : Type) : Call → Type
  | .dataStoreORMGetVerifiableCredentials _ => List (UniqueVerifiableCredential V)
  | .dataStoreDeleteVerifiableCredential _ => Bool

/-- A program that executes methods of the agent. -/
abbrev Agent (V α : Type) := Prog Call (Call.Resp V) JsError α

/-- `agent.execute(method, args)` -/
def execute (call : Call) : Agent V (call.Resp V) := Prog.perform call

/-- The conditions that find the credentials with an id. -/
def byId (id : Text) : List WhereClause := [⟨"id".toList, [id], false, "Equal".toList⟩]

def getUniqueVerifiableCredential (id : Text) :
    Agent V (Option (UniqueVerifiableCredential V)) := do
  let result ← execute (.dataStoreORMGetVerifiableCredentials (byId id))
  .ret result.head?

/-- The hash of a credential that was found. -/
def hashOf : Option (UniqueVerifiableCredential V) → Except JsError Text
  | none => .error (.ofMessage "not_found: Credential not found".toList)
  | some credential => .ok credential.hash

def deleteVerifiableCredential (id : Text) : Agent V Bool := do
  let credential ← getUniqueVerifiableCredential id
  let hash ← Prog.ofExcept (hashOf credential)
  execute (.dataStoreDeleteVerifiableCredential hash)

/-! ### Responses -/

/-- What a response carries. -/
inductive Body (V : Type)
  | error (message : Option Text)
  | message (message : Text)
  | credential (verifiableCredential : V)

/-- `res.status(status).json(body)` -/
structure Response (V : Type) where
  status : ℕ
  body : Body V

/-- What `trim` removes. -/
def isBlank (c : Char) : Bool :=
  [0x09, 0x0a, 0x0b, 0x0c, 0x0d, 0x20, 0xa0, 0x1680, 0x2000, 0x2001, 0x2002, 0x2003, 0x2004, 0x2005,
    0x2006, 0x2007, 0x2008, 0x2009, 0x200a, 0x2028, 0x2029, 0x202f, 0x205f, 0x3000, 0xfeff].contains
    c.toNat

/-- `s.trim()` -/
def trim (s : Text) : Text := ((s.dropWhile isBlank).reverse.dropWhile isBlank).reverse

/-- The code and the message of an error: the words before and after the first colon, or the whole
message. -/
def errorHandler (e : JsError) : ℕ × Option Text :=
  let parts := Text.split e.message [':']
  let errorType := parts.head?
  let errorMessage := (parts[1]?).map trim
  if errorType = some "not_found".toList then (404, errorMessage)
  else if errorType = some "not_implemented".toList then (501, errorMessage)
  else (500, some e.message)

/-- The response to an error. -/
def errorResponse (e : JsError) : Response V :=
  ⟨(errorHandler e).1, .error (errorHandler e).2⟩

/-- The response without a credential. -/
def notFound : Response V := ⟨404, .error (some "Credential not found".toList)⟩

/-- The response with what was found. -/
def found : Option (UniqueVerifiableCredential V) → Response V
  | none => notFound
  | some result => ⟨200, .credential result.verifiableCredential⟩

/-! ### Controllers -/

/-- `if (!req.agent) throw Error('Agent not available')` -/
def requireAgent (available : Bool) : Agent V Unit :=
  if available then .ret () else .throw (.ofMessage "Agent not available".toList)

/-- `GET /credentials/:id` -/
def getCredential (available : Bool) (id : Text) : Agent V (Response V) :=
  Prog.tryCatch (do
    requireAgent available
    let result ← getUniqueVerifiableCredential id
    .ret (found result)) fun e => .ret (errorResponse e)

/-- `DELETE /credentials/:id` -/
def deleteCredential (available : Bool) (id : Text) : Agent V (Response V) :=
  Prog.tryCatch (do
    requireAgent available
    let result ← deleteVerifiableCredential id
    .ret (if result then ⟨202, .message "Credential deleted".toList⟩ else notFound))
    fun e => .ret (errorResponse e)

/-! ### The data store -/

/-- A credential has an id. -/
def hasId (idOf : V → Option Text) (id : Text) (c : UniqueVerifiableCredential V) : Bool :=
  decide (idOf c.verifiableCredential = some id)

/-- The laws of a data store that holds some credentials, each under a hash of its own, in every
state, and in some of its states carries deletions out. -/
structure Lawful (h : (o : Call) → σ → Except JsError (o.Resp V) × σ) (idOf : V → Option Text)
    (stored : σ → List (UniqueVerifiableCredential V)) (writable : σ → Prop) : Prop where
  nodup (s : σ) : ((stored s).map UniqueVerifiableCredential.hash).Nodup
  /-- All credentials with an id are found, and nothing changes. -/
  find (id : Text) (s : σ) :
    ∃ result, h (.dataStoreORMGetVerifiableCredentials (byId id)) s = (.ok result, s) ∧
      result.Perm ((stored s).filter (hasId idOf id))
  /-- Exactly the credential with the hash is removed. -/
  delete {s : σ} {c : UniqueVerifiableCredential V} (hs : writable s) (hc : c ∈ stored s) :
    ∃ s', h (.dataStoreDeleteVerifiableCredential c.hash) s = (.ok true, s') ∧
      (stored s').Perm ((stored s).filter fun d => decide (d.hash ≠ c.hash))
  /-- A deletion that is not carried out fails, and nothing changes. -/
  reject {s : σ} {c : UniqueVerifiableCredential V} (hs : ¬writable s) (hc : c ∈ stored s) :
    ∃ e, h (.dataStoreDeleteVerifiableCredential c.hash) s = (.error e, s)

/-- What is expected of a deletion: with a 202 the id is gone and everything else is still there,
and otherwise nothing has changed. -/
structure Deletes (h : (o : Call) → σ → Except JsError (o.Resp V) × σ) (idOf : V → Option Text)
    (stored : σ → List (UniqueVerifiableCredential V)) (id : Text) (s : σ)
    (outcome : Except JsError (Response V) × σ) : Prop where
  gone {response : Response V} (hok : outcome.1 = .ok response) (hstatus : response.status = 202) :
    ∃ body, ((getCredential true id).run h outcome.2).1 = .ok ⟨404, body⟩
  kept {response : Response V} (hok : outcome.1 = .ok response) (hstatus : response.status = 202)
    {c : UniqueVerifiableCredential V} (hc : c ∈ stored s)
    (hid : idOf c.verifiableCredential ≠ some id) : c ∈ stored outcome.2
  served {response : Response V} (hok : outcome.1 = .ok response) (hstatus : response.status = 202)
    {other : Text} (hother : other ≠ id) (hfound : ∃ c ∈ stored s, hasId idOf other c = true) :
    ∃ c ∈ stored outcome.2, hasId idOf other c = true ∧
      ((getCredential true other).run h outcome.2).1 =
        .ok ⟨200, .credential c.verifiableCredential⟩
  unchanged {response : Response V} (hok : outcome.1 = .ok response)
    (hstatus : response.status ≠ 202) : outcome.2 = s

/-! ### Running the controllers -/

/-- No error is answered with a 202. -/
theorem errorHandler_ne (e : JsError) : (errorHandler e).1 ≠ 202 := by
  rw [errorHandler]
  split_ifs <;> exact Nat.ne_of_beq_eq_false rfl

section Run

variable {h : (o : Call) → σ → Except JsError (o.Resp V) × σ} {s s' : σ} {id : Text}
  {result : List (UniqueVerifiableCredential V)}

theorem run_getUniqueVerifiableCredential
    (hfind : h (.dataStoreORMGetVerifiableCredentials (byId id)) s = (.ok result, s)) :
    (getUniqueVerifiableCredential id).run h s = (.ok result.head?, s) :=
  Prog.run_bind_of_ok ((Prog.run_perform h _ s).trans hfind)

/-- The first credential that is found is returned. -/
theorem run_getCredential
    (hfind : h (.dataStoreORMGetVerifiableCredentials (byId id)) s = (.ok result, s)) :
    (getCredential true id).run h s = (.ok (found result.head?), s) := by
  refine Prog.run_tryCatch_of_ok ?_
  exact Prog.run_bind_of_ok (run_getUniqueVerifiableCredential hfind)

theorem run_getCredential_of_error {e : JsError}
    (herror : (getUniqueVerifiableCredential id).run h s = (.error e, s')) :
    (getCredential true id).run h s = (.ok (errorResponse e), s') :=
  Prog.run_tryCatch_of_error ((Prog.run_bind_of_ok rfl).trans (Prog.run_bind_of_error herror))

theorem run_deleteCredential_of_error {e : JsError}
    (herror : (deleteVerifiableCredential id).run h s = (.error e, s')) :
    (deleteCredential true id).run h s = (.ok (errorResponse e), s') :=
  Prog.run_tryCatch_of_error ((Prog.run_bind_of_ok rfl).trans (Prog.run_bind_of_error herror))

theorem run_deleteCredential_unavailable (s : σ) :
    (deleteCredential false id).run h s =
      (.ok (errorResponse (.ofMessage "Agent not available".toList)), s) :=
  rfl

theorem run_deleteCredential_nil
    (hfind : h (.dataStoreORMGetVerifiableCredentials (byId id)) s = (.ok [], s)) :
    (deleteCredential true id).run h s =
      (.ok (errorResponse (.ofMessage "not_found: Credential not found".toList)), s) := by
  refine run_deleteCredential_of_error ?_
  rw [deleteVerifiableCredential, Prog.run_bind_of_ok (run_getUniqueVerifiableCredential hfind)]
  rfl

/-- The first credential that is found is deleted by its hash. -/
theorem run_deleteCredential_cons {c : UniqueVerifiableCredential V}
    (hfind : h (.dataStoreORMGetVerifiableCredentials (byId id)) s = (.ok (c :: result), s))
    (hdelete : h (.dataStoreDeleteVerifiableCredential c.hash) s = (.ok true, s')) :
    (deleteCredential true id).run h s = (.ok ⟨202, .message "Credential deleted".toList⟩, s') := by
  have hrun : (deleteVerifiableCredential id).run h s = (.ok true, s') := by
    rw [deleteVerifiableCredential, Prog.run_bind_of_ok (run_getUniqueVerifiableCredential hfind)]
    exact (Prog.run_perform h _ s).trans hdelete
  refine Prog.run_tryCatch_of_ok ?_
  exact Prog.run_bind_of_ok hrun

theorem run_deleteCredential_reject {c : UniqueVerifiableCredential V} {e : JsError}
    (hfind : h (.dataStoreORMGetVerifiableCredentials (byId id)) s = (.ok (c :: result), s))
    (hdelete : h (.dataStoreDeleteVerifiableCredential c.hash) s = (.error e, s)) :
    (deleteCredential true id).run h s = (.ok (errorResponse e), s) := by
  refine run_deleteCredential_of_error ?_
  rw [deleteVerifiableCredential, Prog.run_bind_of_ok (run_getUniqueVerifiableCredential hfind)]
  exact (Prog.run_perform h _ s).trans hdelete

end Run

/-! ### The law of deletion -/

section Law

variable {h : (o : Call) → σ → Except JsError (o.Resp V) × σ} {idOf : V → Option Text}
  {stored : σ → List (UniqueVerifiableCredential V)} {writable : σ → Prop} {s s' : σ} {id : Text}

/-- What is found is stored and has the id. -/
theorem mem_of_perm {result : List (UniqueVerifiableCredential V)}
    (hperm : result.Perm ((stored s).filter (hasId idOf id))) {c : UniqueVerifiableCredential V} :
    c ∈ result ↔ c ∈ stored s ∧ hasId idOf id c = true := by
  rw [hperm.mem_iff, List.mem_filter]

/-- An answer that is no 202 and changes nothing. -/
theorem deletes_of_error (e : JsError) (s : σ) :
    Deletes h idOf stored id s (.ok (errorResponse e), s) where
  gone hok hstatus := by
    rw [← Except.ok.inj hok] at hstatus
    exact absurd hstatus (errorHandler_ne e)
  kept hok hstatus := by
    rw [← Except.ok.inj hok] at hstatus
    exact absurd hstatus (errorHandler_ne e)
  served hok hstatus := by
    rw [← Except.ok.inj hok] at hstatus
    exact absurd hstatus (errorHandler_ne e)
  unchanged _ _ := rfl

/-- After one credential with the id is removed, what else has the id is found. -/
theorem perm_after_delete (hlawful : Lawful h idOf stored writable)
    {c : UniqueVerifiableCredential V} {rest : List (UniqueVerifiableCredential V)}
    (hfound : (c :: rest).Perm ((stored s).filter (hasId idOf id)))
    (hdeleted : (stored s').Perm ((stored s).filter fun d => decide (d.hash ≠ c.hash))) :
    ((stored s').filter (hasId idOf id)).Perm rest := by
  have hnodup : ((c :: rest).map UniqueVerifiableCredential.hash).Nodup :=
    ((hfound.map _).nodup_iff).2 ((hlawful.nodup s).sublist (List.filter_sublist.map _))
  rw [List.map_cons, List.nodup_cons] at hnodup
  have hrest : (c :: rest).filter (fun d => decide (d.hash ≠ c.hash)) = rest := by
    have hself : ¬decide (c.hash ≠ c.hash) = true := fun hc => of_decide_eq_true hc rfl
    rw [List.filter_cons, if_neg hself]
    refine List.filter_eq_self.2 fun d hd => decide_eq_true fun hhash => hnodup.1 ?_
    exact hhash ▸ List.mem_map_of_mem hd
  have hboth := hdeleted.filter (hasId idOf id)
  rw [List.filter_comm] at hboth
  refine hboth.trans ?_
  have hc := hfound.symm.filter fun d => decide (d.hash ≠ c.hash)
  rwa [hrest] at hc

/-- What has another id stays. -/
theorem mem_after_delete (hlawful : Lawful h idOf stored writable)
    {c d : UniqueVerifiableCredential V} (hc : c ∈ stored s) (hid : hasId idOf id c = true)
    (hdeleted : (stored s').Perm ((stored s).filter fun d => decide (d.hash ≠ c.hash)))
    (hd : d ∈ stored s) (hother : idOf d.verifiableCredential ≠ some id) : d ∈ stored s' := by
  refine hdeleted.mem_iff.2 (List.mem_filter.2 ⟨hd, decide_eq_true fun hhash => hother ?_⟩)
  rw [List.inj_on_of_nodup_map (hlawful.nodup s) hd hc hhash]
  exact of_decide_eq_true hid

/-- An id that some stored credential has is answered with one that has it. -/
theorem exists_served (hlawful : Lawful h idOf stored writable) (id : Text)
    (hfound : ∃ c ∈ stored s, hasId idOf id c = true) :
    ∃ c ∈ stored s, hasId idOf id c = true ∧
      ((getCredential true id).run h s).1 = .ok ⟨200, .credential c.verifiableCredential⟩ := by
  obtain ⟨c, hc, hid⟩ := hfound
  obtain ⟨result, hfind, hperm⟩ := hlawful.find id s
  have hmem := (mem_of_perm hperm).2 ⟨hc, hid⟩
  cases result with
  | nil => cases hmem
  | cons first rest =>
      obtain ⟨hfirst, hfirstId⟩ := (mem_of_perm hperm).1 List.mem_cons_self
      exact ⟨first, hfirst, hfirstId, congrArg Prod.fst (run_getCredential hfind)⟩

/-- An id that no stored credential has is not found. -/
theorem run_getCredential_of_none (hlawful : Lawful h idOf stored writable)
    (hnone : (stored s).filter (hasId idOf id) = []) :
    (getCredential true id).run h s = (.ok notFound, s) := by
  obtain ⟨result, hfind, hperm⟩ := hlawful.find id s
  rw [hnone] at hperm
  rw [hperm.eq_nil] at hfind
  exact run_getCredential hfind

/-- **A deletion leaves what is expected exactly when no other stored credential has the id**, or
nothing is deleted at all. -/
theorem deletes_iff (hlawful : Lawful h idOf stored writable) (available : Bool) (id : Text)
    (s : σ) :
    Deletes h idOf stored id s ((deleteCredential available id).run h s) ↔
      (available = true → writable s → (stored s).countP (hasId idOf id) ≤ 1) := by
  cases available with
  | false =>
      rw [run_deleteCredential_unavailable]
      exact ⟨fun _ h => absurd h Bool.false_ne_true, fun _ => deletes_of_error _ s⟩
  | true =>
      obtain ⟨result, hfind, hperm⟩ := hlawful.find id s
      rw [List.countP_eq_length_filter, ← hperm.length_eq]
      cases result with
      | nil =>
          rw [run_deleteCredential_nil hfind]
          exact ⟨fun _ _ _ => Nat.zero_le 1, fun _ => deletes_of_error _ s⟩
      | cons c rest =>
          obtain ⟨hc, hid⟩ := (mem_of_perm hperm).1 List.mem_cons_self
          by_cases hs : writable s
          · obtain ⟨s', hdelete, hdeleted⟩ := hlawful.delete hs hc
            have hafter := perm_after_delete hlawful hperm hdeleted
            rw [run_deleteCredential_cons hfind hdelete]
            constructor
            · intro hdeletes _ _
              obtain ⟨body, hbody⟩ := hdeletes.gone rfl rfl
              -- another credential with the id would be returned
              cases rest with
              | nil => exact le_rfl
              | cons d rest =>
                  have hd := hafter.mem_iff.2 List.mem_cons_self
                  obtain ⟨_, _, _, hserved⟩ := exists_served hlawful id
                    ⟨d, (List.mem_filter.1 hd).1, (List.mem_filter.1 hd).2⟩
                  rw [hserved] at hbody
                  cases hbody
            · intro hcount
              have hrest : rest = [] :=
                List.eq_nil_of_length_eq_zero (Nat.le_zero.1 (Nat.le_of_succ_le_succ
                  (hcount rfl hs)))
              rw [hrest] at hafter
              constructor
              · intro _ _ _
                exact ⟨_, congrArg Prod.fst (run_getCredential_of_none hlawful hafter.eq_nil)⟩
              · intro _ _ _ d hd hother
                exact mem_after_delete hlawful hc hid hdeleted hd hother
              · rintro _ _ _ other hne ⟨d, hd, hdid⟩
                refine exists_served hlawful other ⟨d, ?_, hdid⟩
                refine mem_after_delete hlawful hc hid hdeleted hd fun heq => hne ?_
                exact Option.some.inj ((of_decide_eq_true hdid).symm.trans heq)
              · intro _ hok hstatus
                rw [← Except.ok.inj hok] at hstatus
                exact absurd rfl hstatus
          · obtain ⟨e, hdelete⟩ := hlawful.reject hs hc
            rw [run_deleteCredential_reject hfind hdelete]
            exact ⟨fun _ _ h => absurd h hs, fun _ => deletes_of_error e s⟩

end Law

/-! ### A data store in memory -/

/-- Stored credentials, each under a hash of its own. -/
structure Rows (V : Type) where
  rows : List (UniqueVerifiableCredential V)
  nodup : (rows.map UniqueVerifiableCredential.hash).Nodup

/-- Without the credential with a hash. -/
def Rows.remove (s : Rows V) (hash : Text) : Rows V where
  rows := s.rows.filter fun d => decide (d.hash ≠ hash)
  nodup := s.nodup.sublist (List.filter_sublist.map _)

/-- A credential meets a condition on its id. -/
def meets (idOf : V → Option Text) (clause : WhereClause) (c : UniqueVerifiableCredential V) :
    Bool :=
  decide (idOf c.verifiableCredential ∈ clause.value.map some) != clause.not

/-- The answers of a data store in memory. -/
def answer (idOf : V → Option Text) : (o : Call) → Rows V → Except JsError (o.Resp V) × Rows V
  | .dataStoreORMGetVerifiableCredentials clauses, s =>
      (.ok (s.rows.filter fun c => clauses.all fun clause => meets idOf clause c), s)
  | .dataStoreDeleteVerifiableCredential hash, s =>
      (.ok (s.rows.any fun d => decide (d.hash = hash)), s.remove hash)

theorem all_byId (idOf : V → Option Text) (id : Text) (c : UniqueVerifiableCredential V) :
    ((byId id).all fun clause => meets idOf clause c) = hasId idOf id c := by
  simp [byId, meets, hasId, eq_comm]

theorem answer_lawful (idOf : V → Option Text) :
    Lawful (answer idOf) idOf Rows.rows fun _ => True where
  nodup s := s.nodup
  find id s := by
    refine ⟨_, rfl, ?_⟩
    rw [funext (all_byId idOf id)]
  delete {s c} _ hc := by
    have hany : (s.rows.any fun d => decide (d.hash = c.hash)) = true :=
      List.any_eq_true.2 ⟨c, hc, decide_eq_true rfl⟩
    refine ⟨s.remove c.hash, ?_, .refl _⟩
    rw [answer, hany]
  reject hs _ := absurd trivial hs

/-- The id of a credential that is an id and a name. -/
def idOfPair (c : Text × Text) : Option Text := some c.1

/-- A credential, and one that was issued again with its id. -/
def reissuedRows : List (UniqueVerifiableCredential (Text × Text)) :=
  [⟨"1220a1".toList, ("urn:uuid:1".toList, "first".toList)⟩,
    ⟨"1220b2".toList, ("urn:uuid:1".toList, "again".toList)⟩]

theorem nodup_reissuedRows : (reissuedRows.map UniqueVerifiableCredential.hash).Nodup := by
  decide +kernel

def reissued : Rows (Text × Text) := ⟨reissuedRows, nodup_reissuedRows⟩

/-- The credential, and one with another id. -/
def issuedRows : List (UniqueVerifiableCredential (Text × Text)) :=
  [⟨"1220a1".toList, ("urn:uuid:1".toList, "first".toList)⟩,
    ⟨"1220c3".toList, ("urn:uuid:2".toList, "other".toList)⟩]

theorem nodup_issuedRows : (issuedRows.map UniqueVerifiableCredential.hash).Nodup := by
  decide +kernel

def issued : Rows (Text × Text) := ⟨issuedRows, nodup_issuedRows⟩

/-- The credential is deleted as expected; the one with the other id stays. -/
theorem deletes_issued :
    Deletes (answer idOfPair) idOfPair Rows.rows "urn:uuid:1".toList issued
        ((deleteCredential true "urn:uuid:1".toList).run (answer idOfPair) issued) ∧
      ((deleteCredential true "urn:uuid:1".toList).run (answer idOfPair) issued).2.rows =
        issuedRows.tail :=
  ⟨(deletes_iff (answer_lawful idOfPair) true "urn:uuid:1".toList issued).2 fun _ _ =>
    Nat.le_of_ble_eq_true rfl, rfl⟩

/-- **After the deletion the credential that was issued again is returned.** -/
theorem deleteCredential_reissued :
    ((deleteCredential true "urn:uuid:1".toList).run (answer idOfPair) reissued).1 =
        .ok ⟨202, .message "Credential deleted".toList⟩ ∧
      ((getCredential true "urn:uuid:1".toList).run (answer idOfPair)
        ((deleteCredential true "urn:uuid:1".toList).run (answer idOfPair) reissued).2).1 =
          .ok ⟨200, .credential ("urn:uuid:1".toList, "again".toList)⟩ ∧
      ¬Deletes (answer idOfPair) idOfPair Rows.rows "urn:uuid:1".toList reissued
        ((deleteCredential true "urn:uuid:1".toList).run (answer idOfPair) reissued) := by
  refine ⟨rfl, rfl, fun h => ?_⟩
  obtain ⟨body, hbody⟩ := h.gone rfl rfl
  have hstatus := congrArg Response.status (Except.ok.inj hbody)
  exact absurd hstatus (Nat.ne_of_beq_eq_false rfl)

end HolderController
