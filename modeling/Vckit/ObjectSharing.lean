/-
**One object for every part of a configuration.**

`objects` keeps the object of a pointer when it is complete, and a pointer at which something truthy
is found is not evaluated again.  So a module is used a second time when a pointer is evaluated that
leads to a part that another one resolves in place, or that gave nothing truthy before; and what is
found on the way to a kept object, or inside of what a module made, is not what the configuration
describes there.

If no pointer is started that overlaps one that was started before, and none is found but where the
object of its part stays, then the module of every part with `$require` is used once at most, and
what it gave is what every pointer to the part receives, and every pointer to an object that holds
the part receives in it; with modules that give anything, every time something else.  Pointers
without such parts may be evaluated again, and may be found anywhere.

Main definitions:

* `ObjectCreator.layoutOf` — the parts that are visited where a path of a configuration leads.

Main results:

* `ObjectCreator.visitsOnce_objectFromPointerAt` — a pointer visits the parts of the paths that it
  starts, and nothing twice;
* `ObjectCreator.createObjects_shares` — **a module is used once and its object shared, in a run
  whose steps keep parts separate**;
* `ObjectCreator.createObjects_calls_twice` — a module that is called twice.
-/

import Vckit.ObjectVisits

set_option relaxedAutoImplicit false
set_option autoImplicit false

namespace ObjectCreator

open PointerStore (Apart)

variable {N E S M : Type} [JsNumber N]

/-! ### Pointers -/

section Pointer

variable {host : Host N} {pointer config : Json N} {path : Path}

/-- The parts that are visited where a path leads. -/
def partsAt (host : Host N) (config : Json N) (path : Path) : List Path :=
  match configAt host config path with
  | none => []
  | some objectConfig => nodeVisits path objectConfig

/-- What is resolved at a place below a path stays there. -/
def staysAt (host : Host N) (config : Json N) (path rest : Path) : Bool :=
  match configAt host config path with
  | none => decide (rest = [])
  | some objectConfig => stays objectConfig rest

/-- Where a configuration resolves parts. -/
def layoutOf (host : Host N) (config : Json N) : Layout where
  parts := partsAt host config
  stays := staysAt host config
  prefix_of_mem path x hx := by
    rw [partsAt] at hx
    split at hx
    · cases hx
    · exact prefix_of_mem_nodeVisits hx
  stays_nil path := by
    rw [staysAt]
    split
    · rfl
    · rfl

/-- An object is made, kept at a path and received. -/
def keepAt (f : Failure → Failure) (path : Path) (p : Traced N E (Value N E)) :
    Traced N E (Value N E) :=
  Prog.mapError f (do
    let object ← p
    embed (perform (.setObject path object))
    note (.received path object)
    .ret object)

/-- What is found is awaited and received. -/
def receiveAt (path : Path) (existingObject : Value N E) : Traced N E (Value N E) := do
  let object ← embed (settle existingObject)
  note (.received path object)
  .ret object

variable {store : ObjectStore S N E} {modules : LiveModules M N E}

/-- A pointer is found, or started. -/
theorem run_record_objectFromPointerAt (hcompile : host.compile pointer = .ok path) (fuel : ℕ)
    (w : Recording S M N E) :
    (objectFromPointerAt host config (fuel + 1) pointer).run (record store modules) w =
      if (store.get w.objects path).truthy then
        (receiveAt path (store.get w.objects path)).run (record store modules)
          (w.add (.found path (store.get w.objects path) w.modules))
      else
        Prog.run (record store modules)
          (match configAt host config path with
          | none => embed (fail (pointerError "Pointer not found: ".toList pointer))
          | some objectConfig =>
              keepAt (Failure.map (whileCreating pointer)) path
                (objectFromNodeAt host (objectFromPointerAt host config fuel) path objectConfig))
          (w.add (.started path)) := by
  rw [objectFromPointerAt, lift, hcompile]
  change Prog.run (record store modules) (if (store.get w.objects path).truthy then _ else _)
    { w with log := (if (store.get w.objects path).truthy then _ else _) ++ w.log } = _
  split
  · rfl
  · rfl

section Keep

variable {p : Traced N E (Value N E)} {object : Value N E} {w w' : Recording S M N E}

theorem run_keepAt_of_throw (f : Failure → Failure) {e : Failure}
    (hrun : p.run (record store modules) w = (.error e, w')) :
    (keepAt f path p).run (record store modules) w = (.error (f e), w') :=
  Prog.run_mapError_of_error (Prog.run_bind_of_error hrun)

theorem run_keepAt_of_refused (f : Failure → Failure) {e : Thrown}
    (hrun : p.run (record store modules) w = (.ok object, w'))
    (hset : store.set w'.objects path object = .error e) :
    (keepAt f path p).run (record store modules) w = (.error (f (.error e)), w') := by
  refine Prog.run_mapError_of_error ((Prog.run_bind_of_ok hrun).trans ?_)
  rw [Prog.run_bind, run_embed_perform, record, serveLive, hset]
  rfl

theorem run_keepAt_of_ok (f : Failure → Failure) {objects : S}
    (hrun : p.run (record store modules) w = (.ok object, w'))
    (hset : store.set w'.objects path object = .ok objects) :
    (keepAt f path p).run (record store modules) w =
      (.ok object,
        { w' with objects := objects
                  log := .note (.received path object) :: .made path object :: w'.log }) := by
  refine Prog.run_mapError_of_ok ((Prog.run_bind_of_ok hrun).trans ?_)
  rw [Prog.run_bind, run_embed_perform, record, serveLive, hset]
  rfl

end Keep

variable {layout : Layout} {below : Value N E → Path → Value N E} {P Q : Set Path}

/-- What is found, of a path with parts, is at or below a path whose object was made, where it
stays. -/
theorem Consistent.exists_made {w : Recording S M N E} (hw : Consistent layout store below w)
    (hstore : store.NestedOn below .undefined P Q)
    (horderly : Orderly layout modules P Q
      (.found path (store.get w.objects path) w.modules :: w.log))
    (htruthy : (store.get w.objects path).truthy = true) (hparts : layout.parts path ≠ []) :
    ∃ p ∈ madePaths w.log, ∃ rest, path = p ++ rest ∧ layout.parts p ≠ [] ∧
      layout.stays p rest = true := by
  have habove := (horderly.separate.1.resolve_left hparts).2
  by_contra hnot
  -- otherwise it is apart from everything that was made, and nothing is there
  have hapart : ∀ p ∈ madePaths w.log, Apart p path := by
    intro p hp
    refine (habove p (hw.made p hp)).resolve_right ?_
    rintro ⟨⟨rest, rfl⟩, hne, hstays⟩
    rw [List.drop_left] at hstays
    exact hnot ⟨p, hp, rest, rfl, hne, hstays⟩
  have hget := hstore.get_of_apart hw.built
    (fun p hp => horderly.started p (hw.made p hp)) (horderly.asked path List.mem_cons_self hparts)
    hapart
  rw [hget] at htruthy
  cases htruthy

/-- What is found is received. -/
theorem visitsOnce_receiveAt (hstore : store.NestedOn below .undefined P Q)
    (w : Recording S M N E) (htruthy : (store.get w.objects path).truthy = true) :
    ∃ new, ((receiveAt path (store.get w.objects path)).run (record store modules)
        (w.add (.found path (store.get w.objects path) w.modules))).2.log = new ++ w.log ∧
      List.Sublist (usedParts new) (visitedParts new) ∧
      (Orderly layout modules P Q (new ++ w.log) → Consistent layout store below w →
        Consistent layout store below ((receiveAt path (store.get w.objects path)).run
          (record store modules)
          (w.add (.found path (store.get w.objects path) w.modules))).2 ∧
          Within layout [] new) := by
  let w₁ := w.add (.found path (store.get w.objects path) w.modules)
  have hwithin : ∀ new : List (Event M N E), visitedParts new = [] → givenObjects new = [] →
      madePaths new = [] → Within layout [] new := by
    intro new hvisited hgiven hmade
    refine ⟨fun x hx => ?_, fun g hg => ?_, fun p hp => ?_⟩
    · rw [hvisited] at hx
      cases hx
    · rw [hgiven] at hg
      cases hg
    · rw [hmade] at hp
      cases hp
  obtain ⟨hobjects, hlog⟩ := run_embed_of_usesAtMost_zero store modules
    (usesAtMost_settle (store.get w.objects path)) w₁
  rcases hrun : (embed (settle (store.get w.objects path))).run (record store modules) w₁ with
    ⟨e | object, w'⟩
  · rw [hrun] at hobjects hlog
    rw [receiveAt, Prog.run_bind_of_error hrun]
    exact ⟨[.found path _ w.modules], hlog, List.nil_sublist _, fun _ hw =>
      ⟨(hw.find path _ _).congr hobjects hlog, hwithin _ rfl rfl rfl⟩⟩
  · have hreceive : (receiveAt path (store.get w.objects path)).run (record store modules) w₁ =
        (.ok object, w'.add (.note (.received path object))) := by
      rw [receiveAt, Prog.run_bind_of_ok hrun]
      rfl
    rw [hreceive]
    have hlog' : w'.log = .found path (store.get w.objects path) w.modules :: w.log := by
      rw [hrun] at hlog
      exact hlog
    refine ⟨[.note (.received path object), .found path _ w.modules], congrArg _ hlog',
      List.nil_sublist _, fun horderly hw => ⟨?_, hwithin _ rfl rfl rfl⟩⟩
    rw [← List.singleton_append, List.append_assoc] at horderly
    have hfound := horderly.of_append
    rw [hrun] at hobjects
    refine ((hw.find path (store.get w.objects path) w.modules).congr hobjects hlog').receive ?_
      fun hparts => ?_
    · rw [hlog']
      exact List.mem_cons_self
    -- where there are parts, awaiting gave it back
    · have hgives : modules.run (.settle (store.get w.objects path)) w₁.modules =
          (.ok (store.get w.objects path), w₁.modules) :=
        hfound.awaited path _ _ List.mem_cons_self hparts
      have hawaited := run_embed_settle store modules hgives
      rw [hrun] at hawaited
      refine ⟨?_, ?_⟩
      · change store.get w'.objects path = object
        rw [hobjects]
        exact (Except.ok.inj (congrArg Prod.fst hawaited)).symm
      · rw [hlog']
        exact hw.exists_made hstore hfound htruthy hparts

/-- An object is kept at the path that was started for it. -/
theorem visitsOnce_keepAt (hstore : store.NestedOn below .undefined P Q)
    {p : Traced N E (Value N E)}
    (hp : VisitsOnce layout store modules below P Q (layout.parts path)
      (fun v x u => ∀ rest, x = path ++ rest → layout.stays path rest = true → below v rest = u) p)
    (f : Failure → Failure) (w : Recording S M N E) :
    ∃ new, ((keepAt f path p).run (record store modules) (w.add (.started path))).2.log =
        new ++ w.log ∧
      List.Sublist (usedParts new) (visitedParts new) ∧
      (Orderly layout modules P Q (new ++ w.log) → Consistent layout store below w →
        Consistent layout store below
            ((keepAt f path p).run (record store modules) (w.add (.started path))).2 ∧
          Within layout [] new) := by
  obtain ⟨new, hlog, hused, hspec⟩ := hp (w.add (.started path))
  rcases hrun : p.run (record store modules) (w.add (.started path)) with ⟨r, w'⟩
  rw [hrun] at hlog hspec
  have happend : new ++ .started path :: w.log = new ++ [.started path] ++ w.log := by
    rw [List.append_assoc, List.singleton_append]
  have hlog' : w'.log = new ++ [.started path] ++ w.log := hlog.trans happend
  have hused' : List.Sublist (usedParts (new ++ [.started path]))
      (visitedParts (new ++ [.started path])) := by
    rw [usedParts_append_started, visitedParts_append_started]
    exact hused
  -- what is made is consistent, whether it is kept or not
  have hmade : Orderly layout modules P Q (new ++ [.started path] ++ w.log) →
      Consistent layout store below w → Consistent layout store below w' ∧
        Within layout (layout.parts path) new ∧ ∀ v, r = .ok v → ∀ g ∈ givenObjects new,
          g.1 ∈ layout.parts path → ∀ rest, g.1 = path ++ rest →
            layout.stays path rest = true → below v rest = g.2 := by
    intro horderly hw
    rw [← happend] at horderly
    exact hspec horderly (hw.start path) (hw.ready horderly.of_append)
  have hleft : Orderly layout modules P Q (new ++ [.started path] ++ w.log) →
      Consistent layout store below w →
        Consistent layout store below w' ∧ Within layout [] (new ++ [.started path]) :=
    fun horderly hw => ⟨(hmade horderly hw).1, (hmade horderly hw).2.1.start⟩
  rcases r with e | object
  · rw [run_keepAt_of_throw f hrun]
    exact ⟨_, hlog', hused', hleft⟩
  cases hset : store.set w'.objects path object with
  | error e =>
      rw [run_keepAt_of_refused f hrun hset]
      exact ⟨_, hlog', hused', hleft⟩
  | ok objects =>
      rw [run_keepAt_of_ok f hrun hset]
      refine ⟨.note (.received path object) :: .made path object :: (new ++ [.started path]),
        congrArg (fun log => _ :: _ :: log) hlog', ?_, fun horderly hw => ?_⟩
      · exact hused'
      have hevents : .note (.received path object) :: .made path object ::
          (new ++ [.started path]) ++ w.log =
            [.note (.received path object), .made path object] ++
              (new ++ [.started path] ++ w.log) := rfl
      have horderly' : Orderly layout modules P Q (new ++ [.started path] ++ w.log) :=
        (hevents ▸ horderly).of_append
      obtain ⟨hw', hnew, hgiven⟩ := hmade horderly' hw
      have hpath : path ∈ startedPaths (new ++ [(.started path : Event M N E)]) :=
        mem_startedPaths_append_right List.mem_cons_self
      have hfirst : layout.parts path ≠ [] → path ∉ madePaths w'.log := by
        rw [hlog]
        exact hnew.not_mem_madePaths (happend ▸ horderly'.separate) hw.made
      -- what its parts gave was given after it was started
      have hplaced : ∀ rest u, (path ++ rest, u) ∈ givenObjects w'.log →
          path ++ rest ∈ layout.parts path → layout.stays path rest = true →
            below object rest = u := by
        intro rest u hu hx hstays
        rw [hlog, givenObjects_append] at hu
        rcases List.mem_append.1 hu with hu | hu
        · exact hgiven object rfl _ hu hx rest rfl hstays
        · have hall : Separate layout (new ++ .started path :: w.log) :=
            happend ▸ horderly'.separate
          have hseparate : Separate layout (.started path :: w.log) := hall.of_append
          obtain ⟨q, hq, hxq⟩ := hw.visited _ (hw.given _ hu)
          have hold : Separate layout ([.started path] ++ w.log) := hseparate
          exact absurd hxq (hold.not_mem_parts List.mem_cons_self hq hx)
      refine ⟨hw'.make hstore (hlog' ▸ horderly') ?_ hfirst hplaced hset, hnew.start.make hpath⟩
      rw [hlog']
      exact mem_startedPaths_append_left hpath

/-- **A pointer visits the parts of the paths it starts, and nothing twice.** -/
theorem visitsOnce_objectFromPointerAt (hbelow : ReadsContainers below)
    (hstore : store.NestedOn below .undefined P Q) (fuel : ℕ) (pointer : Json N) :
    VisitsOnce (layoutOf host config) store modules below P Q [] (fun _ _ _ => True)
      (objectFromPointerAt host config fuel pointer) := by
  induction fuel generalizing pointer with
  | zero => exact visitsOnce_of_log_eq fun _ => ⟨rfl, rfl⟩
  | succ fuel ih =>
      intro w
      cases hcompile : host.compile pointer with
      | error e =>
          rw [objectFromPointerAt, lift, hcompile]
          exact ⟨[], rfl, List.nil_sublist _, fun _ hw _ =>
            ⟨hw, within_nil, fun _ _ _ _ _ => trivial⟩⟩
      | ok path =>
          rw [run_record_objectFromPointerAt hcompile]
          split
          · rename_i htruthy
            obtain ⟨new, hlog, hused, hspec⟩ := visitsOnce_receiveAt hstore w htruthy
            exact ⟨new, hlog, hused, fun horderly hw _ =>
              ⟨(hspec horderly hw).1, (hspec horderly hw).2, fun _ _ _ _ _ => trivial⟩⟩
          cases hnode : configAt host config path with
          | none =>
              exact ⟨[.started path], rfl, List.nil_sublist _, fun _ hw _ =>
                ⟨hw.start path, within_nil.start, fun _ _ _ _ _ => trivial⟩⟩
          | some objectConfig =>
              have hparts : (layoutOf host config).parts path = nodeVisits path objectConfig := by
                change partsAt host config path = _
                rw [partsAt, hnode]
              have hstays : ∀ rest, (layoutOf host config).stays path rest =
                  stays objectConfig rest := by
                intro rest
                change staysAt host config path rest = _
                rw [staysAt, hnode]
              have hmade : VisitsOnce (layoutOf host config) store modules below P Q
                  ((layoutOf host config).parts path)
                  (fun v x u => ∀ rest, x = path ++ rest →
                    (layoutOf host config).stays path rest = true → below v rest = u)
                  (objectFromNodeAt host (objectFromPointerAt host config fuel) path
                    objectConfig) := by
                rw [hparts]
                exact (visitsOnce_objectFromNodeAt hbelow host path objectConfig ih).imp
                  fun v x _ u h rest hx hrest => h rest hx (hstays rest ▸ hrest)
              obtain ⟨new, hlog, hused, hspec⟩ :=
                visitsOnce_keepAt hstore hmade (Failure.map (whileCreating pointer)) w
              exact ⟨new, hlog, hused, fun horderly hw _ =>
                ⟨(hspec horderly hw).1, (hspec horderly hw).2, fun _ _ _ _ _ => trivial⟩⟩

end Pointer

/-! ### A call -/

section Call

variable {host : Host N} {config : Json N} {store : ObjectStore S N E}
  {modules : LiveModules M N E} {below : Value N E → Path → Value N E} {P Q : Set Path}

theorem visitsOnce_createFromAt (hbelow : ReadsContainers below)
    (hstore : store.NestedOn below .undefined P Q) (fuel : ℕ) (pointers : List (Text × Text))
    (result : JsObject (Value N E)) :
    VisitsOnce (layoutOf host config) store modules below P Q [] (fun _ _ _ => True)
      (createFromAt host config fuel pointers result) := by
  induction pointers generalizing result with
  | nil => exact visitsOnce_ret result
  | cons request pointers ih =>
      exact (visitsOnce_objectFromPointerAt hbelow hstore fuel _).bind_nil fun object => ih _

theorem visitsOnce_createObjectsAt (host : Host N) (config : Json N)
    (modules : LiveModules M N E) (hbelow : ReadsContainers below)
    (hstore : store.NestedOn below .undefined P Q) (fuel : ℕ) (pointers : List (Text × Text)) :
    VisitsOnce (layoutOf host config) store modules below P Q [] (fun _ _ _ => True)
      (createObjectsAt host config fuel pointers) := by
  rw [createObjectsAt]
  split_ifs
  · exact visitsOnce_embed trivial
  · exact visitsOnce_createFromAt hbelow hstore fuel pointers {}

variable {w : Recording S M N E}

/-- **A part is used once and shared.**  In a run whose steps keep parts separate, with modules that
may give anything, no part with `$require` is visited twice and its module is instantiated or called
once at most.  The values of all pointers that resolve it, at it or above it, agree on it; every
pointer to it receives what it gave, and so does every pointer above it, at its place in what it
receives, if there are only arrays and plain objects down to it. -/
theorem createObjects_shares {fuel : ℕ} {pointers : List (Text × Text)} {m : M}
    {r : Except Failure (JsObject (Value N E))}
    (hrun : (createObjectsAt host config fuel pointers).run (record store modules)
      ⟨store.empty, m, []⟩ = (r, w))
    (hbelow : ReadsContainers below)
    (hstore : store.NestedOn below .undefined {p | p ∈ startedPaths w.log}
      {p | p ∈ askedPaths w.log ∧ partsAt host config p ≠ []})
    (hseparate : Separate (layoutOf host config) w.log)
    (hawaited : Awaited (layoutOf host config) modules w.log) :
    (createObjects host config fuel pointers).run (serveLive store modules) (store.empty, m) =
        (r, w.objects, w.modules) ∧
      (visitedParts w.log).Nodup ∧ (usedParts w.log).Nodup ∧
      (∀ a ∈ receivedObjects w.log, ∀ b ∈ receivedObjects w.log,
        ∀ x ∈ partsAt host config a.1, x ∈ partsAt host config b.1 →
          ∀ p q : Path, x = a.1 ++ p → x = b.1 ++ q → below a.2 p = below b.2 q) ∧
      ∀ g ∈ givenObjects w.log, ∀ a ∈ receivedObjects w.log, g.1 ∈ partsAt host config a.1 →
        (g.1 = a.1 → a.2 = g.2) ∧
        ((∀ p ∈ startedPaths w.log, ∀ way, g.1 = p ++ way → staysAt host config p way = true) →
          ∀ rest, g.1 = a.1 ++ rest → below a.2 rest = g.2) := by
  have herase := run_record store modules (createObjectsAt host config fuel pointers)
    ⟨store.empty, m, []⟩
  rw [erase_createObjectsAt, hrun] at herase
  obtain ⟨new, hlog, hused, hspec⟩ := visitsOnce_createObjectsAt host config modules hbelow hstore
    fuel pointers ⟨store.empty, m, []⟩
  rw [hrun] at hlog hspec
  have horderly : Orderly (layoutOf host config) modules {p | p ∈ startedPaths w.log}
      {p | p ∈ askedPaths w.log ∧ partsAt host config p ≠ []} (new ++ []) :=
    hlog ▸
      { separate := hseparate
        awaited := hawaited
        started := fun _ hp => hp
        asked := fun _ hp hparts => ⟨hp, hparts⟩ }
  obtain ⟨hw, -⟩ := hspec horderly (consistent_empty _ store below m) ready_nil
  have hused' : List.Sublist (usedParts w.log) (visitedParts w.log) := by
    rw [show w.log = new from hlog.trans (List.append_nil new)]
    exact hused
  refine ⟨herase, hw.nodup, hused'.nodup hw.nodup, fun a ha b hb x hxa hxb p q hp hq => ?_,
    fun g hg a ha hxa => ⟨fun heq => ?_, fun hstays rest hrest => ?_⟩⟩
  -- both are what `objects` holds at the part in the end
  · rw [← (hw.received a ha (List.ne_nil_of_mem hxa)).1,
      ← (hw.received b hb (List.ne_nil_of_mem hxb)).1, ← hstore.get_append, ← hstore.get_append,
      ← hp, ← hq]
  · rw [← hbelow.nil a.2]
    exact hw.below_eq_given hseparate hstore hg ha hxa
      (heq.trans (List.append_nil a.1).symm) (Or.inl rfl)
  · exact hw.below_eq_given hseparate hstore hg ha hxa hrest (Or.inr hstays)

end Call

/-! ### Connections -/

omit [JsNumber N] in
theorem readsContainers_getTree : ReadsContainers (getTree : Value N E → Path → Value N E) where
  nil _ := rfl
  obj h rest := by
    rw [getTree, member, h]
    rfl
  arr h rest := by
    rw [getTree, member, Json.readNat_ofNat, Option.bind_some, h]
    rfl

/-- The packages, as far as configurations need them that require `connect` of `./database`. -/
def connectHost : Host ℤ :=
  { plainHost with
    parse := fun _ => ⟨"./database".toList, "#connect".toList, fun name =>
      if name = "t".toList then some "function".toList else none⟩
    resolve := fun path => "/app".toList ++ path.drop 1 }

theorem connectHost_lawful {config : Json ℤ} {P : Set Path} : connectHost.LawfulOn config P :=
  fun _ _ _ => mem_subtrees_of_getAt

/-- A `connect` that counts its calls; what it gives depends on their number. -/
def connectModules (connection : ℕ → Value ℤ ℕ) : LiveModules ℕ ℤ ℕ where
  run
    | .importMember _ _, calls => (.ok (.ext 0), calls)
    | .construct _ _, calls =>
        (.error (.error ⟨"TypeError".toList, "not a constructor".toList⟩), calls)
    | .call _ _, calls => (.ok (connection (calls + 1)), calls + 1)
    | .settle object, calls => (.ok object, calls)
    | .getMember _ _, calls => (.ok .undefined, calls)
    | .iterate _, calls => (.error (.error ⟨"TypeError".toList, "not iterable".toList⟩), calls)

/-- A connection, an object that holds it and two that are made from it, and a variable. -/
def connectionsConfig : Json ℤ :=
  .obj [("main".toList, .obj [("$require".toList, .str "./database?t=function#connect".toList)]),
    ("agent".toList, .obj [("db".toList, .obj [("$ref".toList, .str "/main".toList)]),
      ("replicas".toList,
        .arr [.obj [("$require".toList, .str "./database?t=function#connect".toList),
          ("$args".toList, .arr [.obj [("$ref".toList, .str "/main".toList)]])]]),
      ("audit".toList, .obj [("$require".toList, .str "./database?t=function#connect".toList),
        ("$args".toList, .arr [.obj [("$ref".toList, .str "/main".toList)]])])]),
    ("verbose".toList, .obj [("$env".toList, .str "VERBOSE".toList)])]

/-- The requests for its parts; two of them are below another. -/
def connectionsPointers : List (Text × Text) :=
  [("agent".toList, "/agent".toList), ("audit".toList, "/agent/audit".toList),
    ("replica".toList, "/agent/replicas/0".toList), ("main".toList, "/main".toList),
    ("verbose".toList, "/verbose".toList), ("debug".toList, "/verbose".toList)]

/-- The recording of a call with these. -/
@[irreducible] def connectionsRun :
    Except Failure (JsObject (Value ℤ ℕ)) × Recording (Value ℤ ℕ) ℕ ℤ ℕ :=
  (createObjectsAt connectHost connectionsConfig 2 connectionsPointers).run
    (record treeStore (connectModules .ext)) ⟨treeStore.empty, 0, []⟩

theorem run_connections :
    (createObjectsAt connectHost connectionsConfig 2 connectionsPointers).run
      (record treeStore (connectModules .ext)) ⟨treeStore.empty, 0, []⟩ =
        (connectionsRun.1, connectionsRun.2) := by
  rw [connectionsRun]

theorem separate_connections :
    Separate (layoutOf connectHost connectionsConfig) connectionsRun.2.log := by
  decide +kernel

theorem createObjects_shares_connections :
    (createObjects connectHost connectionsConfig 2 connectionsPointers).run
        (serveLive treeStore (connectModules .ext)) (treeStore.empty, 0) =
        (connectionsRun.1, connectionsRun.2.objects, connectionsRun.2.modules) ∧
      (visitedParts connectionsRun.2.log).Nodup ∧ (usedParts connectionsRun.2.log).Nodup ∧
      (∀ a ∈ receivedObjects connectionsRun.2.log, ∀ b ∈ receivedObjects connectionsRun.2.log,
        ∀ x ∈ partsAt connectHost connectionsConfig a.1,
          x ∈ partsAt connectHost connectionsConfig b.1 →
            ∀ p q : Path, x = a.1 ++ p → x = b.1 ++ q → getTree a.2 p = getTree b.2 q) ∧
      ∀ g ∈ givenObjects connectionsRun.2.log, ∀ a ∈ receivedObjects connectionsRun.2.log,
        g.1 ∈ partsAt connectHost connectionsConfig a.1 →
          (g.1 = a.1 → a.2 = g.2) ∧
          ((∀ p ∈ startedPaths connectionsRun.2.log, ∀ way, g.1 = p ++ way →
              staysAt connectHost connectionsConfig p way = true) →
            ∀ rest, g.1 = a.1 ++ rest → getTree a.2 rest = g.2) := by
  refine createObjects_shares run_connections readsContainers_getTree
    (treeStore_nestedOn separate_connections.incomparable ?_) separate_connections
    fun _ _ _ _ _ => rfl
  rintro ⟨hasked, hparts⟩
  exact separate_connections.ne_nil_of_asked hasked hparts rfl

example : usedParts connectionsRun.2.log =
      [["agent".toList, "audit".toList], ["agent".toList, "replicas".toList, "0".toList],
        ["main".toList]] ∧
    connectionsRun.2.modules = 3 := by
  decide +kernel

/-- A connection. -/
def connectionConfig : Json ℤ :=
  .obj [("main".toList, .obj [("$require".toList, .str "./database?t=function#connect".toList)])]

/-- **A module is called twice**: `connect` gives `false`, so nothing truthy is found when it is
requested again. -/
theorem createObjects_calls_twice :
    (∀ p, ¬Relation.TransGen (Refers connectHost connectionConfig) p p) ∧
      ∀ fuel,
        ((createObjects connectHost connectionConfig (fuel + 1)
          [("a".toList, "/main".toList), ("b".toList, "/main".toList)]).run
            (serveLive treeStore (connectModules fun _ => .bool false)) (treeStore.empty, 0)).2.2 =
          2 ∧
        ¬(usedParts ((createObjectsAt connectHost connectionConfig (fuel + 1)
          [("a".toList, "/main".toList), ("b".toList, "/main".toList)]).run
            (record treeStore (connectModules fun _ => .bool false))
            ⟨treeStore.empty, 0, []⟩).2.log).Nodup := by
  refine ⟨not_transGen_of_refs_eq_nil connectHost_lawful rfl, fun fuel => ⟨rfl, ?_⟩⟩
  have hused : usedParts ((createObjectsAt connectHost connectionConfig (fuel + 1)
      [("a".toList, "/main".toList), ("b".toList, "/main".toList)]).run
        (record treeStore (connectModules fun _ => .bool false))
        ⟨treeStore.empty, 0, []⟩).2.log = [["main".toList], ["main".toList]] := rfl
  rw [hused]
  decide

end ObjectCreator
