/-
**The parts that an evaluation visits.**

A computation of the evaluators visits the parts of `visits`, and otherwise those of the paths that
it starts, each once; after a visit a module is used once at most, and what the part gives is in the
result, at its place, if there are only arrays and plain objects down to it.  All of this is one
predicate, which composes like the evaluators do.

Main definitions:

* `ObjectCreator.record` — the answers of a store and of modules, with the events;
* `ObjectCreator.VisitsOnce` — a computation that visits some parts once, with what these gave in
  its result;
* `ObjectCreator.ReadsContainers` — what is read below arrays and objects.

Main results:

* `ObjectCreator.run_record` — recording changes nothing;
* `ObjectCreator.VisitsOnce.bind` — one part after another;
* `ObjectCreator.visitsOnce_resolveRefsAt` — **what parts gave is in the result, where it stays**.
-/

import Vckit.ObjectEvents

set_option relaxedAutoImplicit false
set_option autoImplicit false

namespace ObjectCreator

variable {N E S M : Type} [JsNumber N] {α β : Type}

/-! ### Recording a run -/

/-- What an operation with its answer tells about the run; a module is that of the last part that
was visited. -/
def eventsOf (w : Recording S M N E) : (o : Op N E) → Except Failure o.Resp → List (Event M N E)
  | .getObject path, .ok object =>
      if object.truthy then [.found path object w.modules] else [.started path]
  | .setObject path object, .ok _ => [.made path object]
  | .code c, _ => if (Op.code c).isUse then ((visitedParts w.log).take 1).map .used else []
  | _, _ => []

/-- The answers of a store and of modules, with the events. -/
def record (store : ObjectStore S N E) (modules : LiveModules M N E) :
    (o : TraceOp N E) → Recording S M N E → Except Failure o.Resp × Recording S M N E
  | .op o, w =>
      ((serveLive store modules o (w.objects, w.modules)).1,
        { objects := (serveLive store modules o (w.objects, w.modules)).2.1
          modules := (serveLive store modules o (w.objects, w.modules)).2.2
          log := eventsOf w o (serveLive store modules o (w.objects, w.modules)).1 ++ w.log })
  | .note n, w => (.ok (), w.add (.note n))

section Record

variable (store : ObjectStore S N E) (modules : LiveModules M N E)

/-- Recording changes nothing. -/
theorem run_record (p : Traced N E α) (w : Recording S M N E) :
    (erase p).run (serveLive store modules) (w.objects, w.modules) =
      ((p.run (record store modules) w).1, (p.run (record store modules) w).2.objects,
        (p.run (record store modules) w).2.modules) :=
  run_erase (π := fun w : Recording S M N E => (w.objects, w.modules)) (fun _ _ => rfl)
    (fun _ _ => ⟨rfl, rfl⟩) p w

theorem run_note_bind (n : Note N E) (f : Unit → Traced N E α) (w : Recording S M N E) :
    (note n >>= f).run (record store modules) w =
      (f ()).run (record store modules) (w.add (.note n)) := rfl

/-- An operation that is no access to `objects`. -/
theorem record_op_of_not_access {o : Op N E} (haccess : o.isAccess = false)
    (w : Recording S M N E) :
    (record store modules (.op o) w).2.objects = w.objects ∧
      (record store modules (.op o) w).2.log =
        (if o.isUse then ((visitedParts w.log).take 1).map .used else []) ++ w.log := by
  cases o with
  | code c => exact ⟨rfl, rfl⟩
  | _ => cases haccess

theorem run_embed_of_usesAtMost_zero {p : Create N E α} (h : UsesAtMost 0 p)
    (w : Recording S M N E) :
    ((embed p).run (record store modules) w).2.objects = w.objects ∧
      ((embed p).run (record store modules) w).2.log = w.log := by
  induction p generalizing w with
  | ret a => exact ⟨rfl, rfl⟩
  | throw e => exact ⟨rfl, rfl⟩
  | call o k ih =>
      have hno : o.isUse = false := Bool.eq_false_iff.2 fun huse => Nat.not_lt_zero 0 (h.2.1 huse)
      obtain ⟨hobjects, hlog⟩ := record_op_of_not_access store modules h.1 w
      have hnext := h.2.2 (record store modules (.op o) w).1
      rw [if_neg (by simp [hno])] at hnext hlog
      obtain ⟨hobjects', hlog'⟩ := ih _ hnext (record store modules (.op o) w).2
      exact ⟨hobjects'.trans hobjects, hlog'.trans hlog⟩

/-- A computation that uses a module once at most uses that of the last part that was visited. -/
theorem run_embed_of_usesAtMost_one {p : Create N E α} (h : UsesAtMost 1 p) {node : Path}
    {w : Recording S M N E} (hnode : (visitedParts w.log).take 1 = [node]) :
    ((embed p).run (record store modules) w).2.objects = w.objects ∧
      (((embed p).run (record store modules) w).2.log = w.log ∨
        ((embed p).run (record store modules) w).2.log = .used node :: w.log) := by
  induction p generalizing w with
  | ret a => exact ⟨rfl, Or.inl rfl⟩
  | throw e => exact ⟨rfl, Or.inl rfl⟩
  | call o k ih =>
      obtain ⟨hobjects, hlog⟩ := record_op_of_not_access store modules h.1 w
      have hnext := h.2.2 (record store modules (.op o) w).1
      cases huse : o.isUse with
      | true =>
          rw [if_pos huse] at hnext hlog
          obtain ⟨hobjects', hlog'⟩ := run_embed_of_usesAtMost_zero store modules hnext
            (record store modules (.op o) w).2
          rw [hnode] at hlog
          exact ⟨hobjects'.trans hobjects, Or.inr (hlog'.trans hlog)⟩
      | false =>
          rw [if_neg (by simp [huse])] at hnext hlog
          rw [List.nil_append] at hlog
          have hnode' : (visitedParts (record store modules (.op o) w).2.log).take 1 = [node] :=
            hlog ▸ hnode
          obtain ⟨hobjects', hlog'⟩ := ih _ hnext hnode'
          rw [hlog] at hlog'
          exact ⟨hobjects'.trans hobjects, hlog'⟩

/-- Awaiting what is no thenable gives it back. -/
theorem run_embed_settle {v : Value N E} {w : Recording S M N E}
    (h : modules.run (.settle v) w.modules = (.ok v, w.modules)) :
    (embed (settle v)).run (record store modules) w = (.ok v, w) := by
  have hcode : (embed (runCode (.settle v))).run (record store modules) w = (.ok v, w) := by
    rw [runCode, run_embed_perform, record, serveLive, h]
    rfl
  cases v with
  | ext e => exact hcode
  | obj o =>
      rw [settle]
      split
      · rfl
      · exact hcode
  | _ => rfl

end Record

/-! ### What a computation visits -/

section Visits

variable {layout : Layout} {store : ObjectStore S N E} {modules : LiveModules M N E}
  {below : Value N E → Path → Value N E} {P Q : Set Path} {V V' : List Path}

/-- **A computation that visits some parts once**, and otherwise parts of the paths that it starts;
after a visit the module is used once at most, and `R` holds of the result and what these parts
gave. -/
def VisitsOnce (layout : Layout) (store : ObjectStore S N E) (modules : LiveModules M N E)
    (below : Value N E → Path → Value N E) (P Q : Set Path) (V : List Path)
    (R : α → Path → Value N E → Prop) (p : Traced N E α) : Prop :=
  ∀ w : Recording S M N E, ∃ new, (p.run (record store modules) w).2.log = new ++ w.log ∧
    List.Sublist (usedParts new) (visitedParts new) ∧
    (Orderly layout modules P Q (new ++ w.log) → Consistent layout store below w →
      Ready layout V w.log →
      Consistent layout store below (p.run (record store modules) w).2 ∧ Within layout V new ∧
        ∀ a, (p.run (record store modules) w).1 = .ok a →
          ∀ g ∈ givenObjects new, g.1 ∈ V → R a g.1 g.2)

/-- A computation without events. -/
theorem visitsOnce_of_log_eq {R : α → Path → Value N E → Prop} {p : Traced N E α}
    (h : ∀ w : Recording S M N E, (p.run (record store modules) w).2.objects = w.objects ∧
      (p.run (record store modules) w).2.log = w.log) :
    VisitsOnce layout store modules below P Q [] R p := by
  intro w
  obtain ⟨hobjects, hlog⟩ := h w
  exact ⟨[], hlog, List.Sublist.refl _, fun _ hw _ =>
    ⟨hw.congr hobjects hlog, within_nil, fun _ _ _ hg => by cases hg⟩⟩

theorem visitsOnce_embed {R : α → Path → Value N E → Prop} {p : Create N E α}
    (h : UsesAtMost 0 p) : VisitsOnce layout store modules below P Q [] R (embed p) :=
  visitsOnce_of_log_eq (run_embed_of_usesAtMost_zero store modules h)

theorem visitsOnce_ret {R : α → Path → Value N E → Prop} (a : α) :
    VisitsOnce layout store modules below P Q [] R (.ret a) :=
  visitsOnce_of_log_eq fun _ => ⟨rfl, rfl⟩

theorem VisitsOnce.imp {R R' : α → Path → Value N E → Prop} {p : Traced N E α}
    (hp : VisitsOnce layout store modules below P Q V R p)
    (h : ∀ a, ∀ x ∈ V, ∀ u, R a x u → R' a x u) :
    VisitsOnce layout store modules below P Q V R' p := by
  intro w
  obtain ⟨new, hlog, hused, hspec⟩ := hp w
  refine ⟨new, hlog, hused, fun horderly hw hready => ?_⟩
  obtain ⟨hw', hnew, hgiven⟩ := hspec horderly hw hready
  exact ⟨hw', hnew, fun a ha g hg hV => h a g.1 hV g.2 (hgiven a ha g hg hV)⟩

/-- One part after another. -/
theorem VisitsOnce.bind {R₁ : α → Path → Value N E → Prop} {R₂ : α → β → Path → Value N E → Prop}
    {R : β → Path → Value N E → Prop} {p : Traced N E α} {f : α → Traced N E β}
    (hp : VisitsOnce layout store modules below P Q V R₁ p)
    (hf : ∀ a, VisitsOnce layout store modules below P Q V' (R₂ a) (f a))
    (hfirst : ∀ a b w w', (f a).run (record store modules) w = (.ok b, w') →
      ∀ x ∈ V, ∀ u, R₁ a x u → R b x u)
    (hsecond : ∀ a b, ∀ x ∈ V', ∀ u, R₂ a b x u → R b x u) :
    VisitsOnce layout store modules below P Q (V ++ V') R (p >>= f) := by
  intro w
  obtain ⟨new, hlog, hused, hspec⟩ := hp w
  rcases hrun : p.run (record store modules) w with ⟨e | a, w'⟩
  · rw [hrun] at hlog hspec
    rw [Prog.run_bind_of_error hrun]
    refine ⟨new, hlog, hused, fun horderly hw hready => ?_⟩
    obtain ⟨hw', hnew, -⟩ := hspec horderly hw hready.first
    exact ⟨hw', hnew.mono fun x => List.mem_append_left V', fun _ h => by cases h⟩
  · rw [hrun] at hlog hspec
    rw [Prog.run_bind_of_ok hrun]
    obtain ⟨later, hlater, husedLater, hspecLater⟩ := hf a w'
    rw [hlog] at hlater hspecLater
    refine ⟨later ++ new, by rw [hlater, List.append_assoc], ?_, fun horderly hw hready => ?_⟩
    · rw [usedParts_append, visitedParts_append]
      exact husedLater.append hused
    rw [List.append_assoc] at horderly
    have hseparate := horderly.separate
    obtain ⟨hw', hnew, hgiven⟩ := hspec horderly.of_append hw hready.first
    obtain ⟨hw'', hlast, hgivenLater⟩ := hspecLater horderly hw'
      (hready.second hseparate.of_append hnew)
    refine ⟨hw'', hlast.append hnew, fun b hb g hg hV => ?_⟩
    obtain ⟨q, hq, -, hxq⟩ := hready.mem g.1 hV
    -- what gave something later is one of the parts that are visited later
    rw [givenObjects_append] at hg
    rcases List.mem_append.1 hg with hg | hg
    · have hV' := hlast.mem_of_started hseparate (hlast.given g hg)
        (mem_startedPaths_append_right hq) hxq
      exact hsecond a b g.1 hV' g.2 (hgivenLater b hb g hg hV')
    · have hV' := hnew.mem_of_started hseparate.of_append (hnew.given g hg) hq hxq
      exact hfirst a b w' _ (Prod.ext hb rfl) g.1 hV' g.2 (hgiven a rfl g hg hV')

/-- What comes after a part that visits nothing. -/
theorem VisitsOnce.bind_nil {R₁ : α → Path → Value N E → Prop} {R : β → Path → Value N E → Prop}
    {p : Traced N E α} {f : α → Traced N E β}
    (hp : VisitsOnce layout store modules below P Q [] R₁ p)
    (hf : ∀ a, VisitsOnce layout store modules below P Q V R (f a)) :
    VisitsOnce layout store modules below P Q V R (p >>= f) :=
  hp.bind hf (fun _ _ _ _ _ _ hx => by cases hx) fun _ _ _ _ _ h => h

/-- A result that is made of what a computation gives. -/
theorem VisitsOnce.map {R₁ : α → Path → Value N E → Prop} {R : β → Path → Value N E → Prop}
    {p : Traced N E α} {f : α → β} (hp : VisitsOnce layout store modules below P Q V R₁ p)
    (h : ∀ a, ∀ x ∈ V, ∀ u, R₁ a x u → R (f a) x u) :
    VisitsOnce layout store modules below P Q V R (p >>= fun a => .ret (f a)) := by
  have hbind : VisitsOnce layout store modules below P Q (V ++ []) R
      (p >>= fun a => .ret (f a)) := by
    have hret : ∀ a, VisitsOnce layout store modules below P Q [] (fun _ _ _ => True)
        (.ret (f a) : Traced N E β) := fun a => visitsOnce_ret (f a)
    refine hp.bind hret ?_ fun _ _ _ hx => by cases hx
    intro a b w w' hrun
    rw [← Except.ok.inj (congrArg Prod.fst hrun)]
    exact h a
  rwa [List.append_nil] at hbind

/-- A part that may be visited is, then its module is used, and then it gives something. -/
theorem visitsOnce_visit (node : Path) {p : Create N E (Value N E)} (h : UsesAtMost 1 p) :
    VisitsOnce layout store modules below P Q [node] (fun v _ u => v = u) (do
      note (.visited node)
      let object ← embed p
      note (.gave node object)
      .ret object) := by
  intro w
  obtain ⟨hobjects, hlog⟩ := run_embed_of_usesAtMost_one store modules h
    (rfl : (visitedParts (w.add (.note (.visited node))).log).take 1 = [node])
  have hevents : ∃ new : List (Event M N E),
      ((embed p).run (record store modules) (w.add (.note (.visited node)))).2.log =
        new ++ w.log ∧ List.Sublist (usedParts new) [node] ∧ visitedParts new = [node] ∧
        givenObjects new = [] ∧ madePaths new = [] := by
    rcases hlog with hlog | hlog
    · exact ⟨[.note (.visited node)], hlog, List.nil_sublist _, rfl, rfl, rfl⟩
    · exact ⟨[.used node, .note (.visited node)], hlog, List.Sublist.refl _, rfl, rfl, rfl⟩
  obtain ⟨new, hnew, hused, hvisited, hgiven, hmade⟩ := hevents
  have hwithin : Within layout [node] new :=
    { visited := fun x hx => Or.inl (hvisited ▸ hx)
      given := fun g hg => by
        rw [hgiven] at hg
        cases hg
      made := fun p hp => by
        rw [hmade] at hp
        cases hp }
  have hconsistent : Consistent layout store below w → Ready layout [node] w.log →
      Consistent layout store below
        ((embed p).run (record store modules) (w.add (.note (.visited node)))).2 := by
    intro hw hready
    rcases hlog with hlog | hlog
    · exact (hw.visit hready).congr hobjects hlog
    · exact ((hw.visit hready).use node).congr hobjects hlog
  rw [run_note_bind]
  rcases hrun : (embed p).run (record store modules) (w.add (.note (.visited node))) with
    ⟨e | v, w'⟩
  · rw [hrun] at hnew hconsistent
    rw [Prog.run_bind_of_error hrun]
    exact ⟨new, hnew, hvisited ▸ hused, fun _ hw hready =>
      ⟨hconsistent hw hready, hwithin, fun _ h => by cases h⟩⟩
  · rw [hrun] at hnew hconsistent
    rw [Prog.run_bind_of_ok hrun]
    change ∃ new, (w'.add (.note (.gave node v))).log = _ ∧ _
    refine ⟨.note (.gave node v) :: new, congrArg _ hnew, ?_, fun horderly hw hready => ?_⟩
    · exact hvisited.symm ▸ hused
    have hnode : node ∈ visitedParts w'.log := by
      rw [hnew, visitedParts_append, hvisited]
      exact List.mem_append_left _ (List.mem_singleton_self node)
    obtain ⟨q, hq, hunmade, hnodeq⟩ := hready.mem node (List.mem_singleton_self node)
    -- the path that the part belongs to is not made yet, and no other one has it
    have hunplaced : ∀ p ∈ madePaths w'.log, node ∉ layout.parts p := by
      intro p hp hnodep
      rw [hnew, madePaths_append, hmade, List.nil_append] at hp
      have hseparate : Separate layout (.note (.gave node v) :: new ++ w.log) := horderly.separate
      have heq := hseparate.of_append.eq_of_below (hw.made p hp) hq
        (layout.prefix_of_mem p node hnodep) (layout.prefix_of_mem q node hnodeq)
      exact hunmade (heq ▸ hp)
    refine ⟨(hconsistent hw hready).give hnode hunplaced, ?_, fun a ha g hg _ => ?_⟩
    · exact { visited := hwithin.visited
              given := List.forall_mem_cons.2 ⟨hvisited ▸ List.mem_singleton_self node,
                hwithin.given⟩
              made := hwithin.made }
    · have hgives : givenObjects (.note (.gave node v) :: new) = [(node, v)] :=
        congrArg ((node, v) :: ·) hgiven
      rw [hgives, List.mem_singleton] at hg
      rw [hg, ← Except.ok.inj ha]

end Visits

/-! ### The evaluators -/

/-- What is below a value is read through its own properties and items. -/
structure ReadsContainers (below : Value N E → Path → Value N E) : Prop where
  nil (v : Value N E) : below v [] = v
  obj {o : JsObject (Value N E)} {name : Text} {v : Value N E}
    (h : property name o.fields = some v) (rest : Path) :
    below (.obj o) (name :: rest) = below v rest
  arr {items : List (Value N E)} {i : ℕ} {v : Value N E} (h : items[i]? = some v) (rest : Path) :
    below (.arr items) (Text.ofNat i :: rest) = below v rest

/-- In a value that the part at a path is resolved to there is what another part gave, if it stays
there. -/
def Rests (below : Value N E → Path → Value N E) (node : Path) (j : Json N) (v : Value N E)
    (x : Path) (u : Value N E) : Prop :=
  ∀ rest, x = node ++ rest → stays j rest = true → below v rest = u

/-- The same of the items of an array, from an index on. -/
def RestsItems (below : Value N E → Path → Value N E) (node : Path) (i : ℕ)
    (items : List (Json N)) (values : List (Value N E)) (x : Path) (u : Value N E) : Prop :=
  ∀ k item rest, items[k]? = some item → x = node ++ Text.ofNat (i + k) :: rest →
    stays item rest = true → ∃ v, values[k]? = some v ∧ below v rest = u

/-- The same of the properties of an object, and of the object itself if it has a `$require`. -/
def RestsFields (below : Value N E → Path → Value N E) (node : Path)
    (fields : List (Text × Json N)) (resolved : JsObject (Value N E)) (v : Value N E) (x : Path)
    (u : Value N E) : Prop :=
  (x = node → v = u) ∧
    (Plain fields → resolved.Clean → ∀ name value rest, (name, value) ∈ fields →
      x = node ++ name :: rest → stays value rest = true →
        ∃ o part, v = .obj o ∧ property name o.fields = some part ∧ below part rest = u)

theorem prefix_append_cons (node : Path) (token : Text) (rest : Path) :
    node ++ [token] <+: node ++ token :: rest :=
  ⟨rest, by rw [List.append_assoc, List.singleton_append]⟩

section Evaluators

variable {host : Host N} {ofPointer : Json N → Traced N E (Value N E)}

/-- A name that is not special is no marker. -/
theorem resolveFieldsAt_cons {node : Path} {fromConfig : Json N → Traced N E (Value N E)}
    {name : Text} (hname : name ∉ specialNames) (value : Json N) (fields : List (Text × Json N))
    (resolved : JsObject (Value N E)) :
    resolveFieldsAt host ofPointer node fromConfig ((name, value) :: fields) resolved =
      resolveRefsAt host ofPointer (node ++ [name]) value >>= fun v =>
        resolveFieldsAt host ofPointer node fromConfig fields (resolved.assign name v) := by
  rw [resolveFieldsAt, if_neg, if_neg, if_neg]
  all_goals
    rintro rfl
    exact hname (by decide)

/-- An object that is rebuilt keeps what was assigned. -/
theorem exists_obj_of_resolveFieldsAt {σ : Type}
    {h : (o : TraceOp N E) → σ → Except Failure o.Resp × σ} {node : Path}
    {fromConfig : Json N → Traced N E (Value N E)} {fields : List (Text × Json N)}
    (hfields : Plain fields) {resolved : JsObject (Value N E)} (hresolved : resolved.Clean)
    {v : Value N E} {s s' : σ}
    (hrun : (resolveFieldsAt host ofPointer node fromConfig fields resolved).run h s =
      (.ok v, s')) :
    ∃ o, v = .obj o ∧ ∀ name, name ∉ fields.map Prod.fst →
      property name o.fields = property name resolved.fields := by
  induction fields generalizing resolved s with
  | nil =>
      have hsettle : settle (.obj resolved) = .ret (.obj resolved) := by
        rw [settle, hresolved.1, hresolved.2]
        rfl
      rw [resolveFieldsAt, hsettle] at hrun
      exact ⟨resolved, (Except.ok.inj (congrArg Prod.fst hrun)).symm, fun _ _ => rfl⟩
  | cons field fields ih =>
      have hname : field.1 ∉ specialNames := hfields.2 field.1 List.mem_cons_self
      rw [resolveFieldsAt_cons hname] at hrun
      rcases hfirst : (resolveRefsAt host ofPointer (node ++ [field.1]) field.2).run h s with
        ⟨e | part, s''⟩
      · rw [Prog.run_bind_of_error hfirst] at hrun
        cases congrArg Prod.fst hrun
      · rw [Prog.run_bind_of_ok hfirst] at hrun
        obtain ⟨o, rfl, ho⟩ := ih hfields.tail (hresolved.assign hname part) hrun
        refine ⟨o, rfl, fun name hnot => ?_⟩
        rw [List.map_cons, List.mem_cons, not_or] at hnot
        rw [ho name hnot.2, fields_assign hname]
        exact property_setField_of_ne hnot.1 part resolved.fields

variable {layout : Layout} {store : ObjectStore S N E} {modules : LiveModules M N E}
  {below : Value N E → Path → Value N E} {P Q : Set Path} {V V' : List Path}

/-- The arguments come first, and then the part itself. -/
theorem visitsOnce_objectFromConfigAt (node : Path) (require : Json N)
    {R : Value N E → Path → Value N E → Prop} {resolveArgs : Traced N E (Value N E)}
    (hargs : VisitsOnce layout store modules below P Q V R resolveArgs)
    (hV : ∀ x ∈ V, x ≠ node) :
    VisitsOnce layout store modules below P Q (V ++ [node]) (fun v x u => x = node → v = u)
      (objectFromConfigAt host node require resolveArgs) := by
  have hvisit : ∀ resolvedArgs, VisitsOnce layout store modules below P Q [node]
      (fun v _ u => v = u) (objectFromConfigAt host node require (.ret resolvedArgs)) :=
    fun resolvedArgs =>
      visitsOnce_visit node (usesAtMost_objectFromConfig host require resolvedArgs)
  exact hargs.bind hvisit (fun _ _ _ _ _ x hx _ _ heq => absurd heq (hV x hx))
    fun _ _ _ _ _ h _ => h

mutual

/-- **The evaluators visit the parts of `visits`, and what these give is in what they give.** -/
theorem visitsOnce_resolveRefsAt (hbelow : ReadsContainers below) (node : Path) (j : Json N)
    (hof : ∀ pointer, VisitsOnce layout store modules below P Q [] (fun _ _ _ => True)
      (ofPointer pointer)) :
    VisitsOnce layout store modules below P Q (visits node j) (Rests below node j)
      (resolveRefsAt host ofPointer node j) := by
  cases j with
  | arr items =>
      refine (visitsOnce_resolveItemsAt hbelow node 0 items hof).map fun values x hx u h => ?_
      obtain ⟨k, -, hk⟩ := exists_prefix_of_mem_visitsItems items hx
      rintro (_ | ⟨token, rest⟩) rfl hstays
      · rw [List.append_nil] at hk
        exact absurd hk (not_prefix_append_singleton _ _)
      · obtain ⟨-, child, hchild, hrest⟩ := exists_child_of_stays hstays
        have htoken := token_eq_of_prefixes (prefix_append_cons node token rest) hk
        subst htoken
        rw [childAt, Json.readNat_ofNat] at hchild
        obtain ⟨v, hv, hu⟩ := h k child rest hchild (by rw [Nat.zero_add]) hrest
        rw [hbelow.arr hv, hu]
  | obj fields =>
      rw [visits, resolveRefsAt]
      split_ifs with hhidden
      · exact visitsOnce_embed trivial
      refine (visitsOnce_resolveFieldsAt hbelow node fields {} hof fun require =>
        visitsOnce_objectFromConfigAt node require (visitsOnce_resolveArgsAt hbelow node fields hof)
          ?_).imp fun v x hx u h => ?_
      · rintro x hx rfl
        exact not_prefix_append_singleton _ _ (prefix_of_mem_visitsArgs fields hx)
      · rintro (_ | ⟨token, rest⟩) rfl hstays
        · rw [hbelow.nil, h.1 (List.append_nil node)]
        · obtain ⟨hplain, child, hchild, hrest⟩ := exists_child_of_stays hstays
          obtain ⟨field, hfield, rfl⟩ := Option.map_eq_some_iff.1 hchild
          have hname : field.1 = token := by
            simpa using List.find?_some hfield
          have hmem : (token, field.2) ∈ fields := hname ▸ List.mem_of_find?_eq_some hfield
          obtain ⟨o, part, rfl, hpart, hu⟩ := h.2 (of_decide_eq_true hplain) ⟨rfl, rfl⟩ token
            field.2 rest hmem rfl hrest
          rw [hbelow.obj hpart, hu]
  | _ => exact visitsOnce_ret _

theorem visitsOnce_resolveItemsAt (hbelow : ReadsContainers below) (node : Path) (i : ℕ)
    (items : List (Json N))
    (hof : ∀ pointer, VisitsOnce layout store modules below P Q [] (fun _ _ _ => True)
      (ofPointer pointer)) :
    VisitsOnce layout store modules below P Q (visitsItems node i items)
      (RestsItems below node i items) (resolveItemsAt host ofPointer node i items) := by
  cases items with
  | nil => exact visitsOnce_ret _
  | cons item items =>
      have hothers : ∀ v, VisitsOnce layout store modules below P Q (visitsItems node (i + 1) items)
          (RestsItems below node i (item :: items))
          (resolveItemsAt host ofPointer node (i + 1) items >>= fun values =>
            .ret (v :: values)) := by
        intro v
        refine (visitsOnce_resolveItemsAt hbelow node (i + 1) items hof).map
          fun values x hx u h => ?_
        rintro (_ | k) other rest hother hx' hstays
        -- the first item is not visited with the others
        · obtain ⟨k, hle, hk⟩ := exists_prefix_of_mem_visitsItems items hx
          rw [hx', Nat.add_zero] at hk
          have heq := Text.ofNat_injective
            (token_eq_of_prefixes (prefix_append_cons node (Text.ofNat i) rest) hk)
          omega
        · refine h k other rest hother ?_ hstays
          rw [hx', Nat.add_assoc, Nat.add_comm 1 k]
      refine (visitsOnce_resolveRefsAt hbelow _ item hof).bind hothers ?_ fun _ _ _ _ _ h => h
      · intro v values w w' hrun x hx u h
        rcases hrest : (resolveItemsAt host ofPointer node (i + 1) items).run (record store modules)
          w with ⟨e | others, w''⟩
        · rw [Prog.run_bind_of_error hrest] at hrun
          cases congrArg Prod.fst hrun
        · rw [Prog.run_bind_of_ok hrest] at hrun
          rw [← Except.ok.inj (congrArg Prod.fst hrun)]
          rintro (_ | k) other rest hother rfl hstays
          · cases hother
            refine ⟨v, rfl, h rest ?_ hstays⟩
            rw [Nat.add_zero, List.append_assoc, List.singleton_append]
          · have heq := Text.ofNat_injective (token_eq_of_prefixes (prefix_of_mem_visits item hx)
              (prefix_append_cons node _ rest))
            omega

theorem visitsOnce_resolveFieldsAt (hbelow : ReadsContainers below) (node : Path)
    (fields : List (Text × Json N)) (resolved : JsObject (Value N E)) {L : List Path}
    {fromConfig : Json N → Traced N E (Value N E)}
    (hof : ∀ pointer, VisitsOnce layout store modules below P Q [] (fun _ _ _ => True)
      (ofPointer pointer))
    (hfrom : ∀ require, VisitsOnce layout store modules below P Q L
      (fun v x u => x = node → v = u) (fromConfig require)) :
    VisitsOnce layout store modules below P Q (visitsFields node L fields)
      (RestsFields below node fields resolved)
      (resolveFieldsAt host ofPointer node fromConfig fields resolved) := by
  match fields with
  | [] => exact visitsOnce_embed (usesAtMost_settle _)
  | (name, value) :: fields =>
      rw [visitsFields, resolveFieldsAt]
      split_ifs with href hrequire henv
      · exact (hof value).imp fun _ _ hx => by cases hx
      · refine (hfrom value).imp fun v x hx u h => ⟨h, fun hplain => ?_⟩
        exact absurd (hrequire ▸ by decide) (hplain.2 name List.mem_cons_self)
      · exact visitsOnce_embed (usesAtMost_processEnv host value)
      refine (visitsOnce_resolveRefsAt hbelow _ value hof).bind
        (fun part => visitsOnce_resolveFieldsAt hbelow node fields (resolved.assign name part) hof
          hfrom) ?_ ?_
      · intro part v w w' hrun x hx u h
        have hbefore := prefix_of_mem_visits value hx
        refine ⟨?_, fun hplain hclean other value' rest hmem hx' hstays => ?_⟩
        · rintro rfl
          exact absurd hbefore (not_prefix_append_singleton _ _)
        rw [hx'] at hbefore
        have heq := token_eq_of_prefixes hbefore (prefix_append_cons node other rest)
        subst heq
        have hspecial : name ∉ specialNames := hplain.2 name List.mem_cons_self
        have hnew : name ∉ fields.map Prod.fst := (List.nodup_cons.1 hplain.1).1
        obtain ⟨o, rfl, ho⟩ := exists_obj_of_resolveFieldsAt hplain.tail
          (hclean.assign hspecial part) hrun
        have hvalue : value' = value := by
          rcases List.mem_cons.1 hmem with hfield | hmem
          · exact (Prod.mk.inj hfield).2
          · exact absurd (List.mem_map_of_mem hmem) hnew
        refine ⟨o, part, rfl, ?_, h rest ?_ (hvalue ▸ hstays)⟩
        · rw [ho name hnew, fields_assign hspecial]
          exact property_setField_self name part resolved.fields
        · rw [hx', List.append_assoc, List.singleton_append]
      · intro part v x hx u h
        refine ⟨h.1, fun hplain hclean other value' rest hmem hx' hstays => ?_⟩
        have hspecial : name ∉ specialNames := hplain.2 name List.mem_cons_self
        rcases List.mem_cons.1 hmem with hfield | hmem
        -- what is visited after a property is not in it
        · rw [(Prod.mk.inj hfield).1] at hx'
          rcases exists_prefix_of_mem_visitsFields fields hx with ⟨later, hlater, hk⟩ | ⟨hlater, -⟩
          · rw [hx'] at hk
            have heq := token_eq_of_prefixes (prefix_append_cons node name rest) hk
            exact absurd (heq ▸ hlater) (List.nodup_cons.1 hplain.1).1
          · exact absurd (by decide) (hplain.2 "$require".toList (List.mem_cons_of_mem _ hlater))
        · exact h.2 hplain.tail (hclean.assign hspecial part) other value' rest hmem hx' hstays

theorem visitsOnce_resolveArgsAt (hbelow : ReadsContainers below) (node : Path)
    (fields : List (Text × Json N))
    (hof : ∀ pointer, VisitsOnce layout store modules below P Q [] (fun _ _ _ => True)
      (ofPointer pointer)) :
    VisitsOnce layout store modules below P Q (visitsArgs node fields) (fun _ _ _ => True)
      (resolveArgsAt host ofPointer node fields) := by
  match fields with
  | [] => exact visitsOnce_ret _
  | (name, value) :: fields =>
      rw [visitsArgs, resolveArgsAt]
      split_ifs
      · exact (visitsOnce_resolveRefsAt hbelow _ value hof).imp fun _ _ _ _ _ => trivial
      · exact visitsOnce_resolveArgsAt hbelow node fields hof

end

/-- **So do the objects that parts describe.** -/
theorem visitsOnce_objectFromNodeAt (hbelow : ReadsContainers below) (host : Host N)
    (node : Path) (objectConfig : Json N)
    (hof : ∀ pointer, VisitsOnce layout store modules below P Q [] (fun _ _ _ => True)
      (ofPointer pointer)) :
    VisitsOnce layout store modules below P Q (nodeVisits node objectConfig)
      (Rests below node objectConfig) (objectFromNodeAt host ofPointer node objectConfig) := by
  rw [nodeVisits, objectFromNodeAt]
  cases hrequire : truthyProperty "$require".toList objectConfig with
  | some require =>
      refine (visitsOnce_objectFromConfigAt node require
        (visitsOnce_resolveArgsAt hbelow node _ hof) ?_).imp fun v x _ u h => ?_
      · rintro x hx rfl
        exact not_prefix_append_singleton _ _ (prefix_of_mem_visitsArgs _ hx)
      · rintro (_ | ⟨token, rest⟩) rfl hstays
        · rw [hbelow.nil, h (List.append_nil node)]
        -- nothing stays in an object that is made by a module
        · obtain ⟨hplain, -⟩ := exists_child_of_stays hstays
          cases objectConfig with
          | obj fields =>
              have hmem : "$require".toList ∈ fields.map Prod.fst := by
                by_contra hnot
                rw [truthyProperty, property_eq_none_iff.2 hnot] at hrequire
                cases hrequire
              exact absurd (by decide) ((of_decide_eq_true hplain).2 _ hmem)
          | _ => cases hrequire
  | none =>
      cases truthyProperty "$env".toList objectConfig with
      | some name => exact visitsOnce_embed (usesAtMost_processEnv host name)
      | none => exact visitsOnce_resolveRefsAt hbelow node objectConfig hof

end Evaluators

end ObjectCreator
