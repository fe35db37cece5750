import DarkmeshGateway.Foundation.Js.Text

/-!
Contract: property reads through the JavaScript prototype chain.

Owns the values that a read on a plain object, an array or a string can give,
the properties the standard prototypes define, reads, assignments with the
`__proto__` setter, and `includes`.

Does not own functions beyond their name and arity: calling one is not
modelled.
-/

namespace DarkmeshGateway.Foundation.Js

/-- A standard prototype object. -/
inductive Builtin where
  | object
  | array
  | string
  | number
  | function
deriving DecidableEq

/-- A value found by property reads. -/
inductive Value where
  | undefined
  | null
  | number (value : Nat)
  | text (value : JsString)
  | array (elements : List Value)
  | function (name : JsString) (arity : Nat)
  | object (own : List (JsString × Value)) (proto : Value)
  | prototype (kind : Builtin)

/-- `{}`. -/
def Value.empty : Value := .object [] (.prototype .object)

/-! ### Standard properties -/

/-- A method found under its own name. -/
def method (name : String) (arity : Nat) : JsString × Value :=
  (js name, .function (js name) arity)

/-- The properties each standard prototype defines itself, accessors apart. -/
def Builtin.properties : Builtin → List (JsString × Value)
  | .object =>
      [(js "constructor", .function (js "Object") 1), method "__defineGetter__" 2,
        method "__defineSetter__" 2, method "hasOwnProperty" 1, method "__lookupGetter__" 1,
        method "__lookupSetter__" 1, method "isPrototypeOf" 1, method "propertyIsEnumerable" 1,
        method "toString" 0, method "valueOf" 0, method "toLocaleString" 0]
  | .array =>
      [(js "constructor", .function (js "Array") 1), (js "length", .number 0), method "at" 1,
        method "concat" 1, method "copyWithin" 2, method "fill" 1, method "find" 1,
        method "findIndex" 1, method "findLast" 1, method "findLastIndex" 1,
        method "lastIndexOf" 1, method "pop" 0, method "push" 1, method "reverse" 0,
        method "shift" 0, method "unshift" 1, method "slice" 2, method "sort" 1,
        method "splice" 2, method "includes" 1, method "indexOf" 1, method "join" 1,
        method "keys" 0, method "entries" 0, method "values" 0, method "forEach" 1,
        method "filter" 1, method "flat" 0, method "flatMap" 1, method "map" 1,
        method "every" 1, method "some" 1, method "reduce" 1, method "reduceRight" 1,
        method "toReversed" 0, method "toSorted" 1, method "toSpliced" 2,
        method "toLocaleString" 0, method "toString" 0, method "with" 2]
  | .string =>
      [(js "constructor", .function (js "String") 1), (js "length", .number 0),
        method "anchor" 1, method "at" 1, method "big" 0, method "blink" 0, method "bold" 0,
        method "charAt" 1, method "charCodeAt" 1, method "codePointAt" 1, method "concat" 1,
        method "endsWith" 1, method "fontcolor" 1, method "fontsize" 1, method "fixed" 0,
        method "includes" 1, method "indexOf" 1, method "isWellFormed" 0, method "italics" 0,
        method "lastIndexOf" 1, method "link" 1, method "localeCompare" 1, method "match" 1,
        method "matchAll" 1, method "normalize" 0, method "padEnd" 1, method "padStart" 1,
        method "repeat" 1, method "replace" 2, method "replaceAll" 2, method "search" 1,
        method "slice" 2, method "small" 0, method "split" 2, method "strike" 0,
        method "sub" 0, method "substr" 2, method "substring" 2, method "sup" 0,
        method "startsWith" 1, method "toString" 0, method "toWellFormed" 0, method "trim" 0,
        method "trimStart" 0, (js "trimLeft", .function (js "trimStart") 0),
        method "trimEnd" 0, (js "trimRight", .function (js "trimEnd") 0),
        method "toLocaleLowerCase" 0, method "toLocaleUpperCase" 0, method "toLowerCase" 0,
        method "toUpperCase" 0, method "valueOf" 0]
  | .number =>
      [(js "constructor", .function (js "Number") 1), method "toExponential" 1,
        method "toFixed" 1, method "toPrecision" 1, method "toString" 1, method "valueOf" 0,
        method "toLocaleString" 0]
  | .function =>
      [(js "constructor", .function (js "Function") 1), (js "length", .number 0),
        (js "name", .text []), method "apply" 2, method "bind" 1, method "call" 1,
        method "toString" 0]

/-- The properties the `Object` and `Array` constructors define beside `name`
and `length`. -/
def constructorProperties (name : JsString) : List (JsString × Value) :=
  if name = js "Object" then
    [(js "prototype", .prototype .object), method "assign" 2,
      method "getOwnPropertyDescriptor" 2, method "getOwnPropertyDescriptors" 1,
      method "getOwnPropertyNames" 1, method "getOwnPropertySymbols" 1, method "hasOwn" 2,
      method "is" 2, method "preventExtensions" 1, method "seal" 1, method "create" 2,
      method "defineProperties" 2, method "defineProperty" 3, method "freeze" 1,
      method "getPrototypeOf" 1, method "setPrototypeOf" 2, method "isExtensible" 1,
      method "isFrozen" 1, method "isSealed" 1, method "keys" 1, method "entries" 1,
      method "fromEntries" 1, method "values" 1, method "groupBy" 2]
  else if name = js "Array" then
    [(js "prototype", .prototype .array), method "isArray" 1, method "from" 1,
      method "fromAsync" 1, method "of" 0]
  else []

/-! ### Reads -/

/-- `Object.getPrototypeOf`. -/
def Value.proto : Value → Value
  | .undefined => .null
  | .null => .null
  | .number _ => .prototype .number
  | .text _ => .prototype .string
  | .array _ => .prototype .array
  | .function _ _ => .prototype .function
  | .object _ proto => proto
  | .prototype .object => .null
  | .prototype _ => .prototype .object

/-- A canonical array index. -/
def arrayIndex (key : JsString) : Option Nat :=
  if key = [48] then some 0
  else if key.all isDigit && !key.isEmpty && key.head? != some 48 then some (digitsValue key)
  else none

/-- A read on `holder`, reached from `receiver`: a standard prototype's own
properties, then those of `Object.prototype`, with its `__proto__` accessor.
`none` is a thrown `TypeError`. -/
def standardRead (receiver : Value) (kind : Builtin) (key : JsString) : Option Value :=
  match kind.properties.lookup key with
  | some value => some value
  | none =>
      if kind = .function ∧ (key = js "arguments" ∨ key = js "caller") then none
      else
        match Builtin.object.properties.lookup key with
        | some value => some value
        | none => some (if key = js "__proto__" then receiver.proto else .undefined)

/-- A read that found `receiver` and has walked up to `holder`. -/
def Value.readFrom (receiver : Value) : Value → JsString → Option Value
  | .undefined, _ => none
  | .null, _ => none
  | .number _, key => standardRead receiver .number key
  | .text content, key =>
      if key = js "length" then some (.number content.length)
      else
        match (arrayIndex key).bind fun index => content[index]? with
        | some unit => some (.text [unit])
        | none => standardRead receiver .string key
  | .array elements, key =>
      if key = js "length" then some (.number elements.length)
      else
        match (arrayIndex key).bind fun index => elements[index]? with
        | some element => some element
        | none => standardRead receiver .array key
  | .function name arity, key =>
      if key = js "name" then some (.text name)
      else if key = js "length" then some (.number arity)
      else
        match (constructorProperties name).lookup key with
        | some value => some value
        | none => standardRead receiver .function key
  | .object own proto, key =>
      match own.lookup key with
      | some value => some value
      | none => Value.readFrom receiver proto key
  | .prototype kind, key => standardRead receiver kind key

/-- `value[key]`; `none` is a thrown `TypeError`. -/
def Value.read (value : Value) (key : JsString) : Option Value := value.readFrom value key

/-! ### Assignment -/

/-- Own definition of a property, in place when it exists. -/
def setOwn (own : List (JsString × Value)) (key : JsString) (value : Value) :
    List (JsString × Value) :=
  match own with
  | [] => [(key, value)]
  | (name, old) :: rest =>
      if name = key then (key, value) :: rest else (name, old) :: setOwn rest key value

/-- `target[key] = value` on a plain object; the `__proto__` setter ignores
primitives. -/
def Value.assign : Value → JsString → Value → Value
  | .object own proto, key, value =>
      if key = js "__proto__" then
        match value with
        | .undefined => .object own proto
        | .number _ => .object own proto
        | .text _ => .object own proto
        | other => .object own other
      else .object (setOwn own key value) proto
  | target, _, _ => target

/-! ### Tests -/

/-- JavaScript truthiness. -/
def Value.truthy : Value → Bool
  | .undefined => false
  | .null => false
  | .number value => value != 0
  | .text value => !value.isEmpty
  | _ => true

/-- `value.includes(text)` on an array or a string; every other value reached
through a policy has no callable `includes`, a thrown `TypeError`. -/
def Value.includes : Value → JsString → Option Bool
  | .array elements, wanted =>
      some (elements.any fun element =>
        match element with
        | .text content => content == wanted
        | _ => false)
  | .text content, wanted => some (Js.includes content wanted)
  | .prototype .array, _ => some false
  | .prototype .string, wanted => some wanted.isEmpty
  | _, _ => none

/-- An own property hides whatever the chain holds under its name. -/
theorem Value.read_own {own : List (JsString × Value)} (proto : Value) {value : Value} {key : JsString}
    (found : own.lookup key = some value) : (Value.object own proto).read key = some value := by
  simp [Value.read, Value.readFrom, found]

/-- A property that is looked up is one of the own ones. -/
theorem mem_of_lookup {own : List (JsString × Value)} {key : JsString} {value : Value}
    (found : own.lookup key = some value) : (key, value) ∈ own := by
  induction own with
  | nil => simp at found
  | cons head rest inductionHypothesis =>
      obtain ⟨name, old⟩ := head
      rw [List.lookup_cons] at found
      split at found
      next same =>
        have keyEq : key = name := by simpa using same
        rw [keyEq, Option.some.inj found]
        exact List.mem_cons_self
      next => exact List.mem_cons_of_mem _ (inductionHypothesis found)

/-- A defined property is the new one or was there before. -/
theorem mem_setOwn {own : List (JsString × Value)} {key : JsString} {value : Value}
    {entry : JsString × Value} (member : entry ∈ setOwn own key value) :
    entry = (key, value) ∨ entry ∈ own := by
  induction own with
  | nil => exact Or.inl (by simpa [setOwn] using member)
  | cons head rest inductionHypothesis =>
      obtain ⟨name, old⟩ := head
      unfold setOwn at member
      split at member
      next =>
        rcases List.mem_cons.mp member with same | later
        · exact Or.inl same
        · exact Or.inr (List.mem_cons_of_mem _ later)
      next =>
        rcases List.mem_cons.mp member with same | later
        · exact Or.inr (same ▸ List.mem_cons_self)
        · exact (inductionHypothesis later).imp id (List.mem_cons_of_mem _)

/-- A defined property is found, every other one is found as before. -/
theorem lookup_setOwn (own : List (JsString × Value)) (key name : JsString) (value : Value) :
    (setOwn own key value).lookup name =
      if name = key then some value else own.lookup name := by
  induction own with
  | nil =>
      by_cases same : name = key
      · simp [setOwn, same]
      · have miss : (name == key) = false := by simpa using same
        simp [setOwn, List.lookup_cons, miss, same]
  | cons head rest inductionHypothesis =>
      obtain ⟨other, old⟩ := head
      unfold setOwn
      split
      next keyed =>
        subst keyed
        by_cases same : name = other
        · simp [same]
        · have miss : (name == other) = false := by simpa using same
          simp [List.lookup_cons, miss, same]
      next different =>
        rw [List.lookup_cons, List.lookup_cons, inductionHypothesis]
        by_cases same : name = other
        · have notKey : name ≠ key := fun isKey => different (same.symm.trans isKey)
          simp [same, same ▸ notKey]
        · have miss : (name == other) = false := by simpa using same
          simp [miss]

end DarkmeshGateway.Foundation.Js
