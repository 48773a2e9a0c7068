/-
**Creating objects from a configuration.**

`createObjects` walks a configuration tree and builds what it describes: an object with `$ref` is
the object at a pointer into the same configuration, one with `$require` a module member that is
constructed or called with the resolved `$args`, one with `$env` an environment variable; everything
else is rebuilt part by part.  The objects at pointers are kept in `objects`, which is addressed by
the same pointers, and a pointer at which something truthy is found there is not evaluated again.

The three evaluators call one another.  `resolveRefs` and `objectFromConfig` follow the tree, and
are written over what a pointer stands for; `objectFromPointer` closes the circle and counts the
pointers it is inside of.  Effects are operations: the reads and writes of `objects`, and what runs
the code of modules, which may fail with any value.

Main definitions:

* `ObjectCreator.JsObject`, `ObjectCreator.Value` — objects and the values they hold;
* `ObjectCreator.Thrown` — what a `catch` can tell of the value that was thrown;
* `ObjectCreator.Host`, `ObjectCreator.Code`, `ObjectCreator.Modules` — the packages and the
  process, and the modules used;
* `ObjectCreator.Op`, `ObjectCreator.serve` — the operations and their answers;
* `ObjectCreator.resolveRefs`, `ObjectCreator.objectFromConfig`,
  `ObjectCreator.objectFromPointer` — the evaluators;
* `ObjectCreator.createObjects`, `ObjectCreator.awaitObjects` — the objects at the requested
  pointers.
-/

import Vckit.Json
import Vckit.PointerStore
import Vckit.Prog

set_option relaxedAutoImplicit false
set_option autoImplicit false

namespace ObjectCreator

/-! ### Values -/

/-- Numbers as the language converts them. -/
class JsNumber (N : Type) where
  truthy : N → Bool
  toText : N → Text

/-- An object: its prototype if it was set, and its properties in the order of enumeration. -/
structure JsObject (V : Type) where
  proto : Option V := none
  fields : List (Text × V) := []

/-- A value; `E` are the functions, instances and modules that the code passes on. -/
inductive Value (N E : Type) where
  | undefined
  | null
  | bool (b : Bool)
  | num (n : N)
  | str (s : Text)
  | arr (items : List (Value N E))
  | obj (o : JsObject (Value N E))
  | ext (e : E)

variable {N E : Type}

theorem map_eq_ok {ε α β : Type} {r : Except ε α} {f : α → β} {b : β} :
    r.map f = .ok b ↔ ∃ a, r = .ok a ∧ f a = b := by
  cases r <;> simp [Except.map]

theorem bind_eq_ok {ε α β : Type} {r : Except ε α} {f : α → Except ε β} {b : β} :
    r >>= f = .ok b ↔ ∃ a, r = .ok a ∧ f a = .ok b := by
  cases r <;> simp [bind, Except.bind]

/-- A sequence succeeds when both parts do. -/
theorem exists_bind_eq_ok {ε α β : Type} {r : Except ε α} {f : α → Except ε β} :
    (∃ b, r >>= f = .ok b) ↔ ∃ a, r = .ok a ∧ ∃ b, f a = .ok b := by
  simp only [bind_eq_ok]
  rw [exists_comm]
  simp only [exists_and_left]

/-- The value of a property of an object. -/
def property {V : Type} (name : Text) (fields : List (Text × V)) : Option V :=
  (fields.find? fun f => decide (f.1 = name)).map Prod.snd

theorem property_cons {V : Type} (name : Text) (field : Text × V) (fields : List (Text × V)) :
    property name (field :: fields) =
      if field.1 = name then some field.2 else property name fields := by
  rw [property, List.find?_cons]
  split_ifs with h
  · rw [decide_eq_true h]
    rfl
  · rw [decide_eq_false h]
    rfl

theorem property_setField_self {V : Type} (name : Text) (v : V) (fields : List (Text × V)) :
    property name (Json.setField name v fields) = some v := by
  induction fields with
  | nil => simp [Json.setField, property]
  | cons field fields ih =>
      rw [Json.setField]
      split_ifs with heq hbefore
      · rw [property_cons, if_pos rfl]
      · rw [property_cons, if_pos rfl]
      · rw [property_cons, if_neg heq, ih]

theorem property_setField_of_ne {V : Type} {name other : Text} (hne : other ≠ name) (v : V)
    (fields : List (Text × V)) :
    property other (Json.setField name v fields) = property other fields := by
  induction fields with
  | nil => simp [Json.setField, property, hne.symm]
  | cons field fields ih =>
      rw [Json.setField]
      split_ifs with heq hbefore
      · rw [property_cons, property_cons, if_neg hne.symm, if_neg (heq ▸ hne.symm)]
      · rw [property_cons, if_neg hne.symm]
      · rw [property_cons, property_cons, ih]

theorem property_eq_none_iff {V : Type} {name : Text} {fields : List (Text × V)} :
    property name fields = none ↔ name ∉ fields.map Prod.fst := by
  rw [property, Option.map_eq_none_iff, List.find?_eq_none, List.mem_map]
  constructor
  · rintro h ⟨field, hfield, rfl⟩
    exact h field hfield (by simp)
  · intro h field hfield hname
    exact h ⟨field, hfield, by simpa using hname⟩

/-- Whether a value takes the branch of `if (value)`. -/
def Value.truthy [JsNumber N] : Value N E → Bool
  | .undefined | .null => false
  | .bool b => b
  | .num n => JsNumber.truthy n
  | .str s => decide (s ≠ [])
  | .arr _ | .obj _ | .ext _ => true

/-- What the setter of `__proto__` accepts. -/
def Value.isPrototype : Value N E → Bool
  | .null | .arr _ | .obj _ | .ext _ => true
  | _ => false

/-- `object[name] = value`. -/
def JsObject.assign (o : JsObject (Value N E)) (name : Text) (value : Value N E) :
    JsObject (Value N E) :=
  if name = "__proto__".toList then
    -- the setter ignores what is no object and not `null`
    if value.isPrototype then { o with proto := some value } else o
  else { o with fields := Json.setField name value o.fields }

/-- The value of an own property; `__proto__` is the prototype that was set. -/
def JsObject.get {V : Type} (o : JsObject V) (name : Text) : Option V :=
  if name = "__proto__".toList then o.proto else property name o.fields

/-- What an assignment leaves to be read at its name. -/
theorem JsObject.get_assign_self (o : JsObject (Value N E)) (name : Text) (value : Value N E) :
    (o.assign name value).get name =
      if name = "__proto__".toList ∧ value.isPrototype = false then o.get name
      else some value := by
  by_cases hname : name = "__proto__".toList
  · rw [assign, if_pos hname, get, if_pos hname, get, if_pos hname]
    cases hvalue : value.isPrototype with
    | true => exact (if_neg fun h => Bool.noConfusion h.2).symm
    | false => exact (if_pos ⟨hname, rfl⟩).symm
  · rw [assign, if_neg hname, get, if_neg hname, if_neg fun h => hname h.1]
    exact property_setField_self name value o.fields

theorem JsObject.get_assign_of_ne (o : JsObject (Value N E)) {name other : Text}
    (hne : other ≠ name) (value : Value N E) : (o.assign name value).get other = o.get other := by
  by_cases hname : name = "__proto__".toList
  · have hother : other ≠ "__proto__".toList := fun h => hne (h.trans hname.symm)
    rw [assign, if_pos hname, get, if_neg hother, get, if_neg hother]
    split <;> rfl
  · rw [assign, if_neg hname, get, get]
    by_cases hother : other = "__proto__".toList
    · rw [if_pos hother, if_pos hother]
    · rw [if_neg hother, if_neg hother]
      exact property_setField_of_ne hne value o.fields

/-- `value?.name`, for a name that only objects have. -/
def field (name : Text) : Option (Json N) → Option (Json N)
  | some (.obj fields) => property name fields
  | _ => none

/-- Whether a part of the configuration takes the branch of `if (value)`. -/
def isTruthy [JsNumber N] : Json N → Bool
  | .null => false
  | .bool b => b
  | .num n => JsNumber.truthy n
  | .str s => decide (s ≠ [])
  | .arr _ | .obj _ => true

mutual

/-- The string that a part of the configuration converts to. -/
def toText [JsNumber N] : Json N → Except JsError Text
  | .null => .ok "null".toList
  | .bool b => .ok (if b then "true".toList else "false".toList)
  | .num n => .ok (JsNumber.toText n)
  | .str s => .ok s
  | .arr items => (itemTexts items).map (List.intercalate [','])
  | .obj fields =>
      if (property "toString".toList fields).isSome then
        .error ⟨"TypeError".toList, "Cannot convert object to primitive value".toList⟩
      else .ok "[object Object]".toList

/-- The strings that `join` puts together. -/
def itemTexts [JsNumber N] : List (Json N) → Except JsError (List Text)
  | [] => .ok []
  -- `join` writes nothing for `null`
  | .null :: items => (itemTexts items).map fun texts => [] :: texts
  | item :: items => do
      let text ← toText item
      (itemTexts items).map fun texts => text :: texts

end

/-! ### What is thrown -/

/-- A value that was thrown: `error` if its `message` reads as the text of an error, `unreadable` if
reading it throws something itself, as with `undefined` and `null`. -/
inductive Thrown
  | error (e : JsError)
  | unreadable (e : Thrown)
  deriving DecidableEq

/-- What a `catch` throws that puts the message of what it caught into a new error. -/
def Thrown.rethrow (f : JsError → JsError) : Thrown → Thrown
  | error e => error (f e)
  | unreadable e => e

/-- How many times one after the other the message cannot be read. -/
def Thrown.depth : Thrown → ℕ
  | error _ => 0
  | unreadable e => e.depth + 1

/-- Every `catch` takes one of these away. -/
@[simp] theorem Thrown.depth_rethrow (f : JsError → JsError) (e : Thrown) :
    (e.rethrow f).depth = e.depth - 1 := by
  cases e <;> rfl

/-! ### What the code uses -/

/-- A path of tokens into the configuration and into `objects`. -/
abbrev Path := List Text

/-- What `url-parse` reads from a `$require`. -/
structure ParsedRequire where
  pathname : Text
  hash : Text
  query : Text → Option Text

/-- The packages that are used and the process they run in. -/
structure Host (N : Type) where
  /-- `parse(address, {}, true)` -/
  parse : Json N → ParsedRequire
  /-- `path.resolve` -/
  resolve : Text → Text
  /-- The tokens of a JSON pointer. -/
  compile : Json N → Except JsError Path
  /-- `get` of `jsonpointer`, on the configuration. -/
  getConfig : Json N → Path → Option (Json N)
  /-- `process.env` -/
  env : Text → Option Text

/-- What runs the code of modules. -/
inductive Code (N E : Type)
  /-- `await import(module)`, or its member. -/
  | importMember (module : Text) (name : Option Text)
  | construct (required : Value N E) (args : List (Value N E))
  | call (required : Value N E) (args : List (Value N E))
  /-- Awaiting a value, which may have a method `then`. -/
  | settle (object : Value N E)
  /-- `get` of `jsonpointer`, on an object that a module made. -/
  | getMember (object : Value N E) (pointer : Text)
  /-- The values that a spread of something other than an array or a string iterates over. -/
  | iterate (object : Value N E)

/-- What the code gives. -/
@[reducible] def Code.Resp : Code N E → Type
  | .iterate _ => List (Value N E)
  | _ => Value N E

/-- What running the code of modules gives. -/
structure Modules (N E : Type) where
  run : (c : Code N E) → Except Thrown c.Resp
  /-- No promise is fulfilled with a value that is a promise itself. -/
  settled {v w : Value N E} (h : run (.settle v) = .ok w) : run (.settle w) = .ok w

/-- The `objects` of a call. -/
abbrev ObjectStore (S N E : Type) := PointerStore S Text (Value N E) Thrown

/-! ### Operations -/

/-- An operation of the evaluators. -/
inductive Op (N E : Type)
  | getObject (path : Path)
  | setObject (path : Path) (object : Value N E)
  | code (c : Code N E)

/-- The answer of an operation. -/
@[reducible] def Op.Resp : Op N E → Type
  | .getObject _ => Value N E
  | .setObject _ _ => Unit
  | .code c => c.Resp

/-- What ends an evaluation: a value that is thrown, or more nested pointers than were allowed
for. -/
inductive Failure
  | outOfFuel
  | error (e : Thrown)
  deriving DecidableEq

/-- The failure of an error that the evaluators throw. -/
abbrev Failure.ofError (e : JsError) : Failure := .error (.error e)

/-- What a `catch` makes of a failure. -/
def Failure.map (f : JsError → JsError) : Failure → Failure
  | outOfFuel => outOfFuel
  | error e => error (e.rethrow f)

theorem mapError_eq_ok {ε ε' α : Type} {f : ε → ε'} {r : Except ε α} {a : α} :
    r.mapError f = .ok a ↔ r = .ok a := by
  cases r <;> simp [Except.mapError]

/-- A computation of the evaluators. -/
abbrev Create (N E α : Type) := Prog (Op N E) Op.Resp Failure α

/-- An operation. -/
def perform (o : Op N E) : Create N E o.Resp := Prog.perform o

/-- Running the code of modules. -/
def runCode (c : Code N E) : Create N E c.Resp := perform (.code c)

/-- What another part of the program gives. -/
def lift {α : Type} (r : Except JsError α) : Create N E α :=
  Prog.ofExcept (r.mapError Failure.ofError)

/-- `throw e` -/
def fail {α : Type} (e : JsError) : Create N E α := Prog.throw (.ofError e)

/-- The answers of a store and of modules. -/
def serve {S : Type} (store : ObjectStore S N E) (modules : Modules N E) :
    (o : Op N E) → S → Except Failure o.Resp × S
  | .getObject path, s => (.ok (store.get s path), s)
  | .setObject path object, s =>
      match store.set s path object with
      | .ok s' => (.ok (), s')
      | .error e => (.error (.error e), s)
  | .code c, s => ((modules.run c).mapError Failure.error, s)

/-! ### Evaluators -/

/-- What a promise that is fulfilled with a value is fulfilled with in the end: an object may have a
method `then`. -/
def settle : Value N E → Create N E (Value N E)
  | .ext e => runCode (.settle (.ext e))
  | .obj o =>
      if o.proto.isNone && (property "then".toList o.fields).isNone then .ret (.obj o)
      else runCode (.settle (.obj o))
  | v => .ret v

/-- The arguments of `...args`. -/
def spread : Value N E → Create N E (List (Value N E))
  | .arr items => .ret items
  | .str s => .ret (s.map fun c => .str [c])
  | v => runCode (.iterate v)

/-- The error of an object that could not be created. -/
def errorCreating (module : Text) (name : Option Text) (e : JsError) : JsError :=
  .ofMessage ("Error creating ".toList ++ module ++ "['".toList ++ name.getD "undefined".toList ++
    "']: ".toList ++ e.message)

/-- The object that a module makes. -/
def instantiate (module : Text) (name : Option Text) (kind : Text) (resolvedArgs : Value N E) :
    Create N E (Value N E) := do
  let required ← runCode (.importMember module name)
  if kind = "class".toList then do
    let args ← spread resolvedArgs
    runCode (.construct required args)
  else if kind = "function".toList then do
    let args ← spread resolvedArgs
    runCode (.call required args)
  else if kind = "object".toList then .ret required
  else .ret .undefined

/-- The `try` around it. -/
def tryInstantiate (module : Text) (name : Option Text) (kind : Text) (resolvedArgs : Value N E) :
    Create N E (Value N E) :=
  Prog.mapError (Failure.map (errorCreating module name))
    (instantiate module name kind resolvedArgs)

section

variable [JsNumber N] (host : Host N)

/-- `process.env[name]` -/
def processEnv (name : Json N) : Create N E (Value N E) := do
  let name ← lift (toText name)
  .ret ((host.env name).elim .undefined .str)

/-- `objectFromConfig`, of a configuration with this `$require` and these `$args`. -/
def objectFromConfig (require : Json N) (resolveArgs : Create N E (Value N E)) :
    Create N E (Value N E) := do
  let parsed := host.parse require
  let module :=
    if parsed.pathname.take 2 = "./".toList then host.resolve parsed.pathname else parsed.pathname
  let name := if 1 < parsed.hash.length then some (parsed.hash.drop 1) else none
  let kind :=
    match parsed.query "t".toList with
    | none | some [] => "class".toList
    | some kind => kind
  let resolvedArgs ← resolveArgs
  let object ← tryInstantiate module name kind resolvedArgs
  match parsed.query "p".toList with
  | none | some [] => settle object
  | some pointer => do
      let part ← runCode (.getMember object pointer)
      settle part

/-- Calling a property of data that hides a method. -/
def hasOwnPropertyHidden (object : Text) : JsError :=
  ⟨"TypeError".toList, object ++ ".hasOwnProperty is not a function".toList⟩

variable (ofPointer : Json N → Create N E (Value N E))

mutual

/-- `resolveRefs` -/
def resolveRefs : Json N → Create N E (Value N E)
  | .null => .ret (.obj {})  -- `typeof null` is `object`
  | .bool b => .ret (.bool b)
  | .num n => .ret (.num n)
  | .str s => .ret (.str s)
  | .arr items => do
      let resolved ← resolveItems items
      .ret (.arr resolved)
  | .obj fields =>
      if (property "hasOwnProperty".toList fields).isSome then
        fail (hasOwnPropertyHidden "input".toList)
      else
        resolveFields (fun require => objectFromConfig host require (resolveArgs fields)) fields {}

/-- The loop over an array. -/
def resolveItems : List (Json N) → Create N E (List (Value N E))
  | [] => .ret []
  | item :: items => do
      let item ← resolveRefs item
      let items ← resolveItems items
      .ret (item :: items)

/-- The loop over the properties of an object; `fromConfig` is `objectFromConfig` of the object. -/
def resolveFields (fromConfig : Json N → Create N E (Value N E)) :
    List (Text × Json N) → JsObject (Value N E) → Create N E (Value N E)
  | [], resolved => settle (.obj resolved)
  | (name, value) :: fields, resolved =>
      -- the first marker that is enumerated ends the loop, and what was resolved is dropped
      if name = "$ref".toList then ofPointer value
      else if name = "$require".toList then fromConfig value
      else if name = "$env".toList then processEnv host value
      else do
        let value ← resolveRefs value
        resolveFields fromConfig fields (resolved.assign name value)

/-- The resolved `$args` of an object. -/
def resolveArgs : List (Text × Json N) → Create N E (Value N E)
  | [] => .ret (.arr [])
  | (name, value) :: fields =>
      if name = "$args".toList then resolveRefs value else resolveArgs fields

end

/-- A truthy property of a part of the configuration. -/
def truthyProperty (name : Text) : Json N → Option (Json N)
  | .obj fields => (property name fields).filter isTruthy
  | _ => none

/-- The fields of an object of the configuration. -/
def fieldsOf : Json N → List (Text × Json N)
  | .obj fields => fields
  | _ => []

/-- The object that a part of the configuration describes. -/
def objectFromNode (objectConfig : Json N) : Create N E (Value N E) :=
  match truthyProperty "$require".toList objectConfig with
  -- here `$require` comes before `$env`, and `$ref` after both, whatever their order
  | some require =>
      objectFromConfig host require (resolveArgs host ofPointer (fieldsOf objectConfig))
  | none =>
      match truthyProperty "$env".toList objectConfig with
      | some name => processEnv host name
      | none => resolveRefs host ofPointer objectConfig

/-- An error with a pointer at the end of its message. -/
def pointerError (message : Text) (pointer : Json N) : JsError :=
  match toText pointer with
  | .ok text => .ofMessage (message ++ text)
  | .error e => e

/-- The error of an object that could not be created from a pointer. -/
def whileCreating (pointer : Json N) (e : JsError) : JsError :=
  pointerError (e.message ++ ". While creating object from pointer: ".toList) pointer

/-- What the configuration holds at a path, if it is truthy. -/
def configAt (config : Json N) (path : Path) : Option (Json N) :=
  (host.getConfig config path).filter isTruthy

/-- `objectFromPointer`, inside of at most `fuel` others. -/
def objectFromPointer (config : Json N) : ℕ → Json N → Create N E (Value N E)
  | 0, _ => .throw .outOfFuel
  | fuel + 1, pointer => do
      let path ← lift (host.compile pointer)
      let existingObject ← perform (.getObject path)
      -- what is found is tested, not whether the pointer was evaluated; it is awaited outside `try`
      if existingObject.truthy then settle existingObject
      else
        match configAt host config path with
        | none => fail (pointerError "Pointer not found: ".toList pointer)
        | some objectConfig =>
            Prog.mapError (Failure.map (whileCreating pointer)) (do
              let object ← objectFromNode host (objectFromPointer config fuel) objectConfig
              perform (.setObject path object)
              .ret object)

/-- The loop over the requested pointers. -/
def createFrom (config : Json N) (fuel : ℕ) :
    List (Text × Text) → JsObject (Value N E) → Create N E (JsObject (Value N E))
  | [], result => .ret result
  | (key, pointer) :: pointers, result => do
      let object ← objectFromPointer host config fuel (.str pointer)
      createFrom config fuel pointers (result.assign key object)

/-- `createObjects`: the `result` that is returned. -/
def createObjects (config : Json N) (fuel : ℕ) (pointers : List (Text × Text)) :
    Create N E (JsObject (Value N E)) :=
  if (property "hasOwnProperty".toList pointers).isSome then
    fail (hasOwnPropertyHidden "pointers".toList)
  else createFrom host config fuel pointers {}

/-- What awaiting `createObjects` gives. -/
def awaitObjects (config : Json N) (fuel : ℕ) (pointers : List (Text × Text)) :
    Create N E (Value N E) := do
  let result ← createObjects host config fuel pointers
  settle (.obj result)

end

end ObjectCreator
