/-
**What `JSON.parse` returns is canonical.**

An assignment puts a new key where the language enumerates it, so an object that was built by
assignments lists its fields in that order, whatever the order of the text.  A value that was read
is therefore canonical, and reading what was written of it gives it back.

Main results:

* `Json.keysInOrder_setField` — an assignment keeps the keys in order;
* `Json.canonical_of_parse` — **a value that was read is canonical**, so it is what is read again
  when it is written.
-/

import Vckit.Json

set_option relaxedAutoImplicit false
set_option autoImplicit false

namespace Json

variable {N : Type}

/-! ### Assignments -/

/-- A key is not enumerated before itself. -/
theorem before_self (k : Text) : before k k = false := by
  unfold before
  cases indexOf k with
  | none => rfl
  | some m => exact decide_eq_false (lt_irrefl m)

/-- What comes no earlier than a key comes after every key before that one. -/
theorem before_of_before {k k' k'' : Text} (h : before k k' = true) (h' : before k'' k' = false) :
    k ≠ k'' ∧ before k'' k = false := by
  refine ⟨?_, ?_⟩
  · rintro rfl
    rw [h] at h'
    cases h'
  · unfold before at h h' ⊢
    cases hk : indexOf k with
    | none => simp [hk] at h
    | some m =>
        cases hk'' : indexOf k'' with
        | none => rfl
        | some l =>
            cases hk' : indexOf k' with
            | none => simp [hk', hk''] at h'
            | some n =>
                simp only [hk, hk', hk'', decide_eq_true_eq, decide_eq_false_iff_not] at h h' ⊢
                omega

/-- The keys after an assignment. -/
theorem mem_keys_setField {α : Type} {k key : Text} {v : α} {fields : List (Text × α)}
    (h : key ∈ (setField k v fields).map Prod.fst) : key = k ∨ key ∈ fields.map Prod.fst := by
  induction fields with
  | nil => exact Or.inl (List.mem_singleton.1 h)
  | cons field fields ih =>
      obtain ⟨k', v'⟩ := field
      rw [setField] at h
      split_ifs at h with hsame hbefore
      · exact (List.mem_cons.1 h).imp id (List.mem_cons_of_mem _)
      · exact List.mem_cons.1 h
      · rcases List.mem_cons.1 h with rfl | htail
        · exact Or.inr List.mem_cons_self
        · exact (ih htail).imp id (List.mem_cons_of_mem _)

/-- **An assignment keeps the keys in order.** -/
theorem keysInOrder_setField {α : Type} {fields : List (Text × α)}
    (h : KeysInOrder (fields.map Prod.fst)) (k : Text) (v : α) :
    KeysInOrder ((setField k v fields).map Prod.fst) := by
  induction fields with
  | nil => exact List.pairwise_singleton _ _
  | cons field fields ih =>
      obtain ⟨k', v'⟩ := field
      obtain ⟨hfirst, hrest⟩ := List.pairwise_cons.1 h
      rw [setField]
      split_ifs with hsame hbefore
      · exact hsame ▸ h
      · refine List.pairwise_cons.2 ⟨?_, h⟩
        intro key hkey
        rcases List.mem_cons.1 hkey with rfl | hlater
        · exact ⟨Ne.symm hsame, (before_of_before hbefore (before_self _)).2⟩
        · exact before_of_before hbefore (hfirst key hlater).2
      · refine List.pairwise_cons.2 ⟨?_, ih hrest⟩
        intro key hkey
        rcases mem_keys_setField hkey with rfl | hlater
        · exact ⟨hsame, by simpa using hbefore⟩
        · exact hfirst key hlater

/-- The values after an assignment are canonical. -/
theorem canonicalFields_setField {k : Text} {v : Json N} (hv : v.Canonical)
    {fields : List (Text × Json N)} (h : CanonicalFields fields) :
    CanonicalFields (setField k v fields) := by
  induction fields with
  | nil => exact ⟨hv, trivial⟩
  | cons field fields ih =>
      obtain ⟨k', v'⟩ := field
      rw [setField]
      split_ifs
      · exact ⟨hv, h.2⟩
      · exact ⟨hv, h⟩
      · exact ⟨h.1, ih h.2⟩

/-- An object of canonical values that was built by assignments is canonical. -/
theorem canonical_ofAssignments {assignments : List (Text × Json N)}
    (h : CanonicalFields assignments) : (Json.obj (ofAssignments assignments)).Canonical := by
  have hfold : ∀ (later done : List (Text × Json N)), CanonicalFields later →
      KeysInOrder (done.map Prod.fst) → CanonicalFields done →
      (Json.obj (later.foldl (fun fields a => setField a.1 a.2 fields) done)).Canonical := by
    intro later
    induction later with
    | nil => exact fun done _ horder hdone => ⟨horder, hdone⟩
    | cons a later ih =>
        intro done hlater horder hdone
        obtain ⟨k, v⟩ := a
        exact ih _ hlater.2 (keysInOrder_setField horder k v)
          (canonicalFields_setField hlater.1 hdone)
  exact hfold assignments [] h List.Pairwise.nil trivial

/-! ### Values that were read -/

section Text

variable [JsonNumber N]

mutual

theorem canonical_of_parseValue : ∀ {fuel : ℕ} {text rest : Text} {j : Json N},
    parseValue fuel text = some (j, rest) → j.Canonical
  | 0, text, rest, j, h => by simp [parseValue] at h
  | fuel + 1, text, rest, j, h => by
      rw [parseValue] at h
      split at h
      · cases h
      · rename_i c later hlater
        have hliteral : ∀ {token : Text} {v : Json N}, v.Canonical →
            (dropToken token later).map (fun rest => (v, rest)) = some (j, rest) →
            j.Canonical := by
          intro token v hv hmap
          obtain ⟨t, -, heq⟩ := Option.map_eq_some_iff.1 hmap
          rwa [(Prod.mk.inj heq).1] at hv
        split_ifs at h with hstr harr hobj hnull htrue hfalse
        · obtain ⟨p, -, heq⟩ := Option.map_eq_some_iff.1 h
          obtain ⟨rfl, -⟩ := Prod.mk.inj heq
          exact trivial
        · obtain ⟨p, hp, heq⟩ := Option.map_eq_some_iff.1 h
          obtain ⟨rfl, -⟩ := Prod.mk.inj heq
          exact canonical_of_parseItems hp
        · obtain ⟨p, hp, heq⟩ := Option.map_eq_some_iff.1 h
          obtain ⟨rfl, -⟩ := Prod.mk.inj heq
          exact canonical_ofAssignments (canonical_of_parseFields hp)
        · exact hliteral (by rw [Canonical]; exact trivial) h
        · exact hliteral (by rw [Canonical]; exact trivial) h
        · exact hliteral (by rw [Canonical]; exact trivial) h
        · obtain ⟨n, -, heq⟩ := Option.map_eq_some_iff.1 h
          obtain ⟨rfl, -⟩ := Prod.mk.inj heq
          exact trivial

theorem canonical_of_parseItems : ∀ {fuel : ℕ} {first : Bool} {text rest : Text}
    {items : List (Json N)},
    parseItems fuel first text = some (items, rest) → CanonicalItems items
  | 0, first, text, rest, items, h => by simp [parseItems] at h
  | fuel + 1, first, text, rest, items, h => by
      rw [parseItems] at h
      split at h
      · obtain ⟨rfl, -⟩ := Prod.mk.inj (Option.some.inj h)
        exact trivial
      · split at h
        · cases h
        · split at h
          · cases h
          · rename_i item later hvalue
            obtain ⟨p, hp, heq⟩ := Option.map_eq_some_iff.1 h
            obtain ⟨rfl, -⟩ := Prod.mk.inj heq
            exact ⟨canonical_of_parseValue hvalue, canonical_of_parseItems hp⟩

theorem canonical_of_parseFields : ∀ {fuel : ℕ} {first : Bool} {text rest : Text}
    {fields : List (Text × Json N)},
    parseFields fuel first text = some (fields, rest) → CanonicalFields fields
  | 0, first, text, rest, fields, h => by simp [parseFields] at h
  | fuel + 1, first, text, rest, fields, h => by
      rw [parseFields] at h
      split at h
      · obtain ⟨rfl, -⟩ := Prod.mk.inj (Option.some.inj h)
        exact trivial
      · split at h
        · cases h
        · split at h
          · cases h
          · split at h
            · cases h
            · split at h
              · cases h
              · rename_i v later hvalue
                obtain ⟨p, hp, heq⟩ := Option.map_eq_some_iff.1 h
                obtain ⟨rfl, -⟩ := Prod.mk.inj heq
                exact ⟨canonical_of_parseValue hvalue, canonical_of_parseFields hp⟩

end

/-- **A value that was read is canonical.** -/
theorem canonical_of_parse {text : Text} {j : Json N} (h : parse text = some j) :
    j.Canonical := by
  rw [parse] at h
  split at h
  · cases h
  · rename_i v rest hvalue
    split_ifs at h
    obtain rfl := Option.some.inj h
    exact canonical_of_parseValue hvalue

end Text

end Json
