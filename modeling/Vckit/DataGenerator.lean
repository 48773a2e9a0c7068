/-
**A schema from a sample.**

`convertToSchema` walks through a sample and assigns, key by key, a schema with the type of the
value that the sample has there, and with the schemas of its keys when the value is an object.  The
sample is expected to be accepted by what is returned.  But `null` has the type `object` and no
keys, and an object is told from an array by comparing its property `length` with zero.

The validator of this module applies the keywords `type` and `properties` and reads the own keys of
a schema.  The key `__proto__` is assigned like the others, but sets the prototype, so that no own
key comes of it; a validator that passes over inherited keys as well may find more there.

Main definitions:

* `DataGenerator.atLeastZero` — the comparison `value >= 0`;
* `DataGenerator.convertToSchema` — the code;
* `DataGenerator.validates` — the keywords `type` and `properties`;
* `DataGenerator.Convertible`, `DataGenerator.Recognised` — what the code needs of a value.

Main results:

* `DataGenerator.accepts_iff` — **a sample is accepted by its schema exactly when no `null` is in
  it, every property `length` can be compared, and none that a validator reaches is at least zero**;
* `DataGenerator.not_accepts` — two samples that are not.
-/

import Vckit.HolderController
import Vckit.ObjectInstance
import Vckit.UriComponent

set_option relaxedAutoImplicit false
set_option autoImplicit false

namespace DataGenerator

open HolderController (trim)
open ObjectCreator (JsNumber JsObject bind_eq_ok exists_bind_eq_ok property property_setField_self
  property_setField_of_ne toText)

variable {N : Type}

/-! ### Comparing with zero -/

/-- A number in hexadecimal, octal or binary. -/
def isPrefixed : Text → Bool
  | '0' :: base :: digits =>
      decide (digits ≠ []) &&
        (("xX".toList.contains base && digits.all fun c => (Uri.hexValue c).isSome) ||
          ("oO".toList.contains base && digits.all "01234567".toList.contains) ||
          ("bB".toList.contains base && digits.all "01".toList.contains))
  | _ => false

/-- Decimal digits, at least one. -/
def readDigits (s : Text) : Option ℕ :=
  if s ≠ [] ∧ s.all Char.isDigit then some (Nat.ofDigitChars 10 s 0) else none

/-- What stands after the digits of a decimal number. -/
def readExponent : Text → Option ℤ
  | [] => some 0
  | c :: rest =>
      if c = 'e' ∨ c = 'E' then
        match rest with
        | '+' :: digits => (readDigits digits).map Int.ofNat
        | '-' :: digits => (readDigits digits).map fun n => -(n : ℤ)
        | digits => (readDigits digits).map Int.ofNat
      else none

/-- The digits after the point, and what stands after them. -/
def readFraction : Text → Text × Text
  | '.' :: rest => (rest.takeWhile Char.isDigit, rest.dropWhile Char.isDigit)
  | rest => ([], rest)

/-- A decimal number without sign: a natural number and the power of ten it is multiplied with. -/
def readDecimal (s : Text) : Option (ℕ × ℤ) :=
  let whole := s.takeWhile Char.isDigit
  let (fraction, rest) := readFraction (s.dropWhile Char.isDigit)
  if whole ++ fraction = [] then none
  else (readExponent rest).map fun exponent =>
    (Nat.ofDigitChars 10 (whole ++ fraction) 0, exponent - fraction.length)

/-- A number so small that it is rounded to zero. -/
def roundsToZero (number : ℕ × ℤ) : Bool :=
  decide (number.1 = 0 ∨ number.2 < 0 ∧ number.1 * 2 ^ 1075 ≤ 10 ^ (-number.2).toNat)

/-- Whether the number that a string converts to is at least zero; `-0` is. -/
def textAtLeastZero (s : Text) : Bool :=
  match trim s with
  | [] => true
  | '-' :: rest => (readDecimal rest).any roundsToZero
  | '+' :: rest => decide (rest = "Infinity".toList) || (readDecimal rest).isSome
  | rest => isPrefixed rest || decide (rest = "Infinity".toList) || (readDecimal rest).isSome

example : [" 12 ", "", "-0.0", "0x1F", ".5e-3"].all (fun s => textAtLeastZero s.toList) ∧
    ["-1", "1,2", ".", "1e", "[object Object]"].all (fun s => !textAtLeastZero s.toList) := by
  decide +kernel

section Code

variable [JsNumber N]

/-- `value >= 0`.  A number is read back from its string. -/
def atLeastZero : Json N → Except JsError Bool
  | .null | .bool _ => .ok true
  | value => (toText value).map textAtLeastZero

/-! ### The code -/

/-- A schema; the types of leaves come without properties. -/
inductive Schema where
  | leaf (type : Text)
  | node (type : Text) (properties : JsObject Schema)

/-- A schema with properties, while they are assigned. -/
structure Node where
  type : Text
  properties : JsObject Schema

/-- `{ type, properties: {} }` -/
def Node.empty (type : Text) : Node := ⟨type, {}⟩

/-- `schema.properties[key] = value` -/
def Node.assign (schema : Node) (key : Text) (value : Schema) : Node :=
  if key = "__proto__".toList then
    { schema with properties := { schema.properties with proto := some value } }
  else
    { schema with properties :=
      { schema.properties with fields := Json.setField key value schema.properties.fields } }

/-- `typeof value` -/
def typeOf : Json N → Text
  | .null | .arr _ | .obj _ => "object".toList
  | .bool _ => "boolean".toList
  | .num _ => "number".toList
  | .str _ => "string".toList

/-- `value.length >= 0` -/
def lengthAtLeastZero : Json N → Except JsError Bool
  | .null => .error ⟨"TypeError".toList,
      "Cannot read properties of null (reading 'length')".toList⟩
  | .arr _ | .str _ => .ok true
  | .obj fields => ((property "length".toList fields).map atLeastZero).getD (.ok false)
  | .bool _ | .num _ => .ok false

/-- What is assigned for a value; `convert` fills in the properties. -/
def schemaOf (convert : Option Node → Except JsError Node) (value : Json N) :
    Except JsError Schema :=
  if typeOf value = "object".toList then do
    -- Is an array
    let isArray ← lengthAtLeastZero value
    let schema ← convert (some (.empty (if isArray then "array".toList else "object".toList)))
    return .node schema.type schema.properties
  else return .leaf (typeOf value)

mutual

/-- `convertToSchema(data, schema)` -/
def convertToSchema : Json N → Option Node → Except JsError Node
  | .null, _ => .error ⟨"TypeError".toList, "Cannot convert undefined or null to object".toList⟩
  | .arr items, schema => convertItems 0 items (schema.getD (.empty "object".toList))
  | .obj fields, schema => convertFields fields (schema.getD (.empty "object".toList))
  | .str s, schema =>
      .ok ((List.range s.length).foldl
        (fun schema i => schema.assign (Text.ofNat i) (.leaf "string".toList))
        (schema.getD (.empty "object".toList)))
  | .bool _, schema | .num _, schema => .ok (schema.getD (.empty "object".toList))

/-- The keys of an array, from index `i` on. -/
def convertItems : ℕ → List (Json N) → Node → Except JsError Node
  | _, [], schema => .ok schema
  | i, value :: items, schema => do
      let assigned ← schemaOf (convertToSchema value) value
      convertItems (i + 1) items (schema.assign (Text.ofNat i) assigned)

/-- The keys of an object. -/
def convertFields : List (Text × Json N) → Node → Except JsError Node
  | [], schema => .ok schema
  | (key, value) :: fields, schema => do
      let assigned ← schemaOf (convertToSchema value) value
      convertFields fields (schema.assign key assigned)

end

/-! ### Validation -/

/-- The type that a schema asks for. -/
def Schema.type : Schema → Text
  | .leaf type | .node type _ => type

/-- The properties that a validator sees which reads own keys: not those of the prototype. -/
def Schema.properties : Schema → List (Text × Schema)
  | .leaf _ => []
  | .node _ properties => properties.fields

/-- The keyword `type`. -/
def Schema.acceptsType (schema : Schema) (type : Text) : Bool := decide (schema.type = type)

mutual

/-- The keywords `type` and `properties`; the second one is about objects. -/
def validates : Json N → Schema → Bool
  | .null, schema => schema.acceptsType "null".toList
  | .bool _, schema => schema.acceptsType "boolean".toList
  | .num _, schema => schema.acceptsType "number".toList
  | .str _, schema => schema.acceptsType "string".toList
  | .arr _, schema => schema.acceptsType "array".toList
  | .obj fields, schema =>
      schema.acceptsType "object".toList && validateFields fields schema.properties

/-- The values of the keys that have a schema. -/
def validateFields : List (Text × Json N) → List (Text × Schema) → Bool
  | [], _ => true
  | (key, value) :: fields, properties =>
      ((property key properties).all (validates value)) && validateFields fields properties

end

/-- **What is expected**: a schema is returned, and it accepts the sample. -/
def Accepts (data : Json N) : Prop :=
  ∃ schema, convertToSchema data none = .ok schema ∧
    validates data (.node schema.type schema.properties) = true

instance (data : Json N) : Decidable (Accepts data) :=
  decidable_of_iff ((convertToSchema data none).toOption.any fun schema =>
      validates data (.node schema.type schema.properties)) <| by
    rw [Accepts]
    cases convertToSchema data none with
    | ok schema => simp [Except.toOption]
    | error e => simp [Except.toOption]

/-! ### What the code needs -/

/-- The property `length` can be compared. -/
def LengthComparable (fields : List (Text × Json N)) : Prop :=
  ∀ length, property "length".toList fields = some length → ∃ b, atLeastZero length = .ok b

/-- The property `length` is not at least zero. -/
def NotArrayLike (fields : List (Text × Json N)) : Prop :=
  ∀ length, property "length".toList fields = some length → atLeastZero length ≠ .ok true

mutual

/-- Nothing in a value is `null`, and every `length` can be compared. -/
def Convertible : Json N → Prop
  | .null => False
  | .arr items => ConvertibleItems items
  | .obj fields => LengthComparable fields ∧ ConvertibleFields fields
  | .bool _ | .num _ | .str _ => True

def ConvertibleItems : List (Json N) → Prop
  | [] => True
  | value :: items => Convertible value ∧ ConvertibleItems items

def ConvertibleFields : List (Text × Json N) → Prop
  | [] => True
  | (_, value) :: fields => Convertible value ∧ ConvertibleFields fields

end

mutual

/-- No object looks like an array, as far as a validator of own keys reaches: it goes into no array,
and finds no schema for `__proto__`, which is no own key of `properties`. -/
def Recognised : Json N → Prop
  | .obj fields => NotArrayLike fields ∧ RecognisedFields fields
  | .null | .bool _ | .num _ | .str _ | .arr _ => True

def RecognisedFields : List (Text × Json N) → Prop
  | [] => True
  | (key, value) :: fields =>
      (key = "__proto__".toList ∨ Recognised value) ∧ RecognisedFields fields

end

/-! ### When a schema is returned -/

theorem schemaOf_null (convert : Option Node → Except JsError Node) :
    schemaOf convert (.null : Json N) = .error ⟨"TypeError".toList,
      "Cannot read properties of null (reading 'length')".toList⟩ :=
  rfl

theorem schemaOf_arr (items : List (Json N)) (convert : Option Node → Except JsError Node) :
    schemaOf convert (.arr items) = (convert (some (.empty "array".toList)) >>= fun schema =>
      .ok (.node schema.type schema.properties)) :=
  rfl

theorem schemaOf_obj (fields : List (Text × Json N))
    (convert : Option Node → Except JsError Node) :
    schemaOf convert (.obj fields) = (lengthAtLeastZero (.obj fields) >>= fun isArray =>
      convert (some (.empty (if isArray then "array".toList else "object".toList))) >>=
        fun schema => .ok (.node schema.type schema.properties)) :=
  rfl

theorem schemaOf_bool (b : Bool) (convert : Option Node → Except JsError Node) :
    schemaOf convert (.bool b : Json N) = .ok (.leaf "boolean".toList) :=
  if_neg (show "boolean".toList ≠ "object".toList by decide +kernel)

theorem schemaOf_num (n : N) (convert : Option Node → Except JsError Node) :
    schemaOf convert (.num n) = .ok (.leaf "number".toList) :=
  if_neg (show "number".toList ≠ "object".toList by decide +kernel)

theorem schemaOf_str (s : Text) (convert : Option Node → Except JsError Node) :
    schemaOf convert (.str s : Json N) = .ok (.leaf "string".toList) :=
  if_neg (show "string".toList ≠ "object".toList by decide +kernel)

theorem exists_lengthAtLeastZero_iff (fields : List (Text × Json N)) :
    (∃ b, lengthAtLeastZero (.obj fields) = .ok b) ↔ LengthComparable fields := by
  rw [lengthAtLeastZero, LengthComparable]
  cases property "length".toList fields with
  | none => simp
  | some length => simp

mutual

/-- A value gets a schema exactly when it is convertible. -/
theorem exists_schemaOf_iff : ∀ value : Json N,
    (∃ s, schemaOf (convertToSchema value) value = .ok s) ↔ Convertible value
  | .null => by
      rw [schemaOf_null, Convertible]
      exact iff_of_false (fun ⟨_, h⟩ => nomatch h) id
  | .bool b => by
      rw [schemaOf_bool, Convertible]
      exact iff_of_true ⟨_, rfl⟩ trivial
  | .num n => by
      rw [schemaOf_num, Convertible]
      exact iff_of_true ⟨_, rfl⟩ trivial
  | .str s => by
      rw [schemaOf_str, Convertible]
      exact iff_of_true ⟨_, rfl⟩ trivial
  | .arr items => by
      have hitems := exists_convertItems_iff items 0 (.empty "array".toList)
      rw [schemaOf_arr, Convertible, ← hitems, exists_bind_eq_ok, convertToSchema,
        Option.getD_some]
      exact exists_congr fun schema => and_iff_left ⟨_, rfl⟩
  | .obj fields => by
      have hfields := fun b : Bool => exists_convertFields_iff fields
        (.empty (if b then "array".toList else "object".toList))
      rw [schemaOf_obj, Convertible, ← exists_lengthAtLeastZero_iff, exists_bind_eq_ok]
      simp only [exists_bind_eq_ok, convertToSchema, Option.getD_some]
      constructor
      · rintro ⟨b, hb, schema, hschema, -⟩
        exact ⟨⟨b, hb⟩, (hfields b).1 ⟨schema, hschema⟩⟩
      · rintro ⟨⟨b, hb⟩, hconvertible⟩
        obtain ⟨schema, hschema⟩ := (hfields b).2 hconvertible
        exact ⟨b, hb, schema, hschema, _, rfl⟩

theorem exists_convertItems_iff : ∀ (items : List (Json N)) (i : ℕ) (schema : Node),
    (∃ schema', convertItems i items schema = .ok schema') ↔ ConvertibleItems items
  | [], i, schema => by simp [convertItems, ConvertibleItems]
  | value :: items, i, schema => by
      rw [convertItems, ConvertibleItems, ← exists_schemaOf_iff value]
      refine exists_bind_eq_ok.trans ?_
      simp only [exists_convertItems_iff items]
      exact exists_and_right

theorem exists_convertFields_iff : ∀ (fields : List (Text × Json N)) (schema : Node),
    (∃ schema', convertFields fields schema = .ok schema') ↔ ConvertibleFields fields
  | [], schema => by simp [convertFields, ConvertibleFields]
  | (key, value) :: fields, schema => by
      rw [convertFields, ConvertibleFields, ← exists_schemaOf_iff value]
      refine exists_bind_eq_ok.trans ?_
      simp only [exists_convertFields_iff fields]
      exact exists_and_right

end

/-! ### When it accepts the sample -/

theorem Node.type_assign (schema : Node) (key : Text) (value : Schema) :
    (schema.assign key value).type = schema.type := by
  rw [assign]
  split_ifs <;> rfl

/-- Whether a validator sees what was assigned. -/
theorem Node.property_assign_self (schema : Node) (key : Text) (value : Schema) :
    property key (schema.assign key value).properties.fields =
      if key = "__proto__".toList then property key schema.properties.fields else some value := by
  rw [assign]
  split_ifs
  · rfl
  · exact property_setField_self key value schema.properties.fields

theorem Node.property_assign_of_ne (schema : Node) {key other : Text} (hne : other ≠ key)
    (value : Schema) :
    property other (schema.assign key value).properties.fields =
      property other schema.properties.fields := by
  rw [assign]
  split_ifs
  · rfl
  · exact property_setField_of_ne hne value schema.properties.fields

/-- The type stays, and so do the schemas of other keys; `__proto__` gets none that is its own. -/
theorem convertFields_frame {fields : List (Text × Json N)} : ∀ {schema schema' : Node},
    convertFields fields schema = .ok schema' → schema'.type = schema.type ∧
      ∀ key, (key ∉ fields.map Prod.fst ∨ key = "__proto__".toList) →
        property key schema'.properties.fields = property key schema.properties.fields := by
  induction fields with
  | nil =>
      intro schema schema' h
      rw [convertFields] at h
      obtain rfl := Except.ok.inj h
      exact ⟨rfl, fun _ _ => rfl⟩
  | cons field fields ih =>
      obtain ⟨key, value⟩ := field
      intro schema schema' h
      rw [convertFields] at h
      obtain ⟨assigned, -, h⟩ := bind_eq_ok.1 h
      obtain ⟨htype, hproperty⟩ := ih h
      refine ⟨htype.trans (schema.type_assign key assigned), fun other hother => ?_⟩
      rw [List.map_cons, List.mem_cons, not_or] at hother
      rw [hproperty other (hother.imp_left And.right)]
      by_cases hkey : other = key
      · subst hkey
        have hproto := hother.resolve_left fun h => h.1 rfl
        rw [schema.property_assign_self, if_pos hproto]
      · exact schema.property_assign_of_ne hkey assigned

theorem convertItems_type {items : List (Json N)} : ∀ {i : ℕ} {schema schema' : Node},
    convertItems i items schema = .ok schema' → schema'.type = schema.type := by
  induction items with
  | nil =>
      intro i schema schema' h
      rw [convertItems] at h
      rw [Except.ok.inj h]
  | cons value items ih =>
      intro i schema schema' h
      rw [convertItems] at h
      obtain ⟨assigned, -, h⟩ := bind_eq_ok.1 h
      exact (ih h).trans (schema.type_assign (Text.ofNat i) assigned)

theorem notArrayLike_iff {fields : List (Text × Json N)} {b : Bool}
    (h : lengthAtLeastZero (.obj fields) = .ok b) : NotArrayLike fields ↔ b = false := by
  rw [lengthAtLeastZero] at h
  rw [NotArrayLike]
  cases hlength : property "length".toList fields with
  | none =>
      rw [hlength] at h
      simpa using (Except.ok.inj h).symm
  | some length =>
      rw [hlength] at h
      have hb : atLeastZero length = .ok b := h
      simp [hb]

mutual

/-- The schema of a value accepts it exactly when the value is recognised. -/
theorem validates_schemaOf_iff : ∀ {value : Json N}, value.Canonical → ∀ {s : Schema},
    schemaOf (convertToSchema value) value = .ok s → (validates value s = true ↔ Recognised value)
  | .null, _, s, h => by
      rw [schemaOf_null] at h
      cases h
  | .bool b, _, s, h => by
      rw [schemaOf_bool] at h
      rw [← Except.ok.inj h, validates, Recognised]
      exact iff_of_true (decide_eq_true rfl) trivial
  | .num n, _, s, h => by
      rw [schemaOf_num] at h
      rw [← Except.ok.inj h, validates, Recognised]
      exact iff_of_true (decide_eq_true rfl) trivial
  | .str t, _, s, h => by
      rw [schemaOf_str] at h
      rw [← Except.ok.inj h, validates, Recognised]
      exact iff_of_true (decide_eq_true rfl) trivial
  | .arr items, _, s, h => by
      rw [schemaOf_arr, convertToSchema, Option.getD_some] at h
      obtain ⟨schema, hschema, h⟩ := bind_eq_ok.1 h
      rw [← Except.ok.inj h, validates, Recognised]
      exact iff_of_true (decide_eq_true (convertItems_type hschema)) trivial
  | .obj fields, hcanonical, s, h => by
      rw [Json.Canonical] at hcanonical
      rw [schemaOf_obj] at h
      obtain ⟨b, hb, h⟩ := bind_eq_ok.1 h
      obtain ⟨schema, hschema, h⟩ := bind_eq_ok.1 h
      rw [convertToSchema, Option.getD_some] at hschema
      have htype : schema.type = if b then "array".toList else "object".toList :=
        (convertFields_frame hschema).1
      have hfields := validateFields_convertFields_iff hcanonical.1 hcanonical.2 rfl hschema
      rw [← Except.ok.inj h, validates, Recognised, notArrayLike_iff hb, ← hfields,
        Schema.acceptsType, Schema.type, Schema.properties, Bool.and_eq_true, decide_eq_true_eq,
        htype]
      refine and_congr_left' ?_
      cases b with
      | true => exact iff_of_false (show "array".toList ≠ "object".toList by decide +kernel) nofun
      | false => exact iff_of_true rfl rfl

/-- The schemas of the keys of an object accept its values. -/
theorem validateFields_convertFields_iff : ∀ {fields : List (Text × Json N)},
    Json.KeysInOrder (fields.map Prod.fst) → Json.CanonicalFields fields →
    ∀ {schema schema' : Node}, property "__proto__".toList schema.properties.fields = none →
      convertFields fields schema = .ok schema' →
      (validateFields fields schema'.properties.fields = true ↔ RecognisedFields fields)
  | [], _, _, schema, schema', _, h => by simp [validateFields, RecognisedFields]
  | (key, value) :: fields, hkeys, hcanonical, schema, schema', hproto, h => by
      rw [convertFields] at h
      obtain ⟨assigned, hassigned, h⟩ := bind_eq_ok.1 h
      obtain ⟨hfirst, hkeys⟩ := List.pairwise_cons.1 hkeys
      rw [Json.CanonicalFields] at hcanonical
      have hvalue := validates_schemaOf_iff hcanonical.1 hassigned
      -- the key is not assigned again
      have hkey : key ∉ fields.map Prod.fst := fun hmem => (hfirst key hmem).1 rfl
      have hseen := (convertFields_frame h).2 key (.inl hkey)
      have hproto' : property "__proto__".toList (schema.assign key assigned).properties.fields =
          none := by
        by_cases hname : "__proto__".toList = key
        · rw [← hname, schema.property_assign_self, if_pos rfl, hproto]
        · rw [schema.property_assign_of_ne hname, hproto]
      have hfields := validateFields_convertFields_iff hkeys hcanonical.2 hproto' h
      rw [validateFields, RecognisedFields, hseen, schema.property_assign_self, Bool.and_eq_true,
        hfields]
      refine and_congr_left' ?_
      by_cases hname : key = "__proto__".toList
      · rw [if_pos hname, hname, hproto]
        exact iff_of_true rfl (.inl rfl)
      · rw [if_neg hname, Option.all_some, hvalue]
        exact (or_iff_right hname).symm

end

/-- **A sample is accepted by its schema exactly when it can be converted and no object in it, where
a validator reaches, looks like an array.** -/
theorem accepts_iff {fields : List (Text × Json N)} (h : (Json.obj fields).Canonical) :
    Accepts (.obj fields) ↔ ConvertibleFields fields ∧ RecognisedFields fields := by
  rw [Json.Canonical] at h
  have hvalidates : ∀ {schema : Node}, convertToSchema (.obj fields) none = .ok schema →
      (validates (.obj fields) (.node schema.type schema.properties) = true ↔
        RecognisedFields fields) := by
    intro schema hschema
    rw [convertToSchema, Option.getD_none] at hschema
    have hfields := validateFields_convertFields_iff h.1 h.2 rfl hschema
    have htype : schema.type = "object".toList := (convertFields_frame hschema).1
    rw [validates, ← hfields, Schema.acceptsType, Schema.type, decide_eq_true htype, Bool.true_and,
      Schema.properties]
  rw [Accepts, ← exists_convertFields_iff fields (.empty "object".toList)]
  constructor
  · rintro ⟨schema, hschema, hvalid⟩
    refine ⟨⟨schema, ?_⟩, (hvalidates hschema).1 hvalid⟩
    rw [← hschema, convertToSchema, Option.getD_none]
  · rintro ⟨⟨schema, hschema⟩, hrecognised⟩
    have hconvert : convertToSchema (.obj fields) none = .ok schema := by
      rw [← hschema, convertToSchema, Option.getD_none]
    exact ⟨schema, hconvert, (hvalidates hconvert).2 hrecognised⟩

end Code

/-! ### Samples -/

/-- A sample with the fields of a subject. -/
def sample (credentialSubject : List (Text × Json ℤ)) : List (Text × Json ℤ) :=
  [("credentialSubject".toList, .obj credentialSubject)]

/-- A subject with a name, an age and a list. -/
def plainSubject : List (Text × Json ℤ) :=
  [("name".toList, .str "Ada".toList), ("age".toList, .num 36),
    ("roles".toList, .arr [.str "holder".toList])]

theorem canonical_plainSample : (Json.obj (sample plainSubject)).Canonical := by
  have hkeys : Json.KeysInOrder ["name".toList, "age".toList, "roles".toList] := by
    unfold Json.KeysInOrder
    decide +kernel
  exact ⟨List.pairwise_singleton _ _, ⟨hkeys, trivial, trivial, ⟨trivial, trivial⟩, trivial⟩,
    trivial⟩

theorem property_length_plainSubject : property "length".toList plainSubject = none := by
  rw [ObjectCreator.property_eq_none_iff]
  decide +kernel

/-- A sample without `null` and without `length` is accepted. -/
theorem accepts_plainSample : Accepts (.obj (sample plainSubject)) := by
  refine (accepts_iff canonical_plainSample).2 ⟨⟨⟨?_, ?_⟩, trivial⟩, .inr ⟨?_, ?_⟩, trivial⟩
  · intro length h
    rw [property_length_plainSubject] at h
    cases h
  · exact ⟨trivial, trivial, ⟨trivial, trivial⟩, trivial⟩
  · intro length h
    rw [property_length_plainSubject] at h
    cases h
  · exact ⟨.inr trivial, .inr trivial, .inr trivial, trivial⟩

/-- **A sample with `null`, and one with a property `length`, are not accepted.** -/
theorem not_accepts : ¬Accepts (.obj (sample [("middleName".toList, .null)])) ∧
    ¬Accepts (.obj (sample [("length".toList, .num 3)])) := by
  decide +kernel

end DataGenerator
