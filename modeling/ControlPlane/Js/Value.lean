/-
ControlPlane/Js/Value.lean

The JavaScript values a program sees after `JSON.parse`, and the few
operations the language gives on them: property reads, truthiness, strict
equality, interpolation into a template literal and `JSON.stringify`.

A parsed document is a `Json`.  Reading a property of one can also give
`undefined`, or a member every object inherits from `Object.prototype`
(`toString`, `constructor`, ...); `Value` is the type of what such a read
gives.  Own members win over inherited ones, as in the language.

Reads on arrays and primitives only look at `Object.prototype` here: no
member of `Array.prototype` or `String.prototype`, no index and no `length` is
ever asked for by name through this interface.
-/
import Mathlib.Data.List.Basic
import Mathlib.Data.String.Basic

namespace Js

/-! ### Numbers -/

/-- The characters `Number::toString` writes: digits, signs, the point, the
exponent mark, and the letters of `Infinity` and `NaN`. -/
def isNumberChar (c : Char) : Bool :=
  c.isDigit || "+-.eInfityNa".toList.contains c

/-- A JavaScript number, kept as the text `Number::toString` gives for it.
That text determines the number up to the sign of zero, which no operation
below can see. -/
structure Number where
  text : String
  wf : text.toList.all isNumberChar = true
deriving DecidableEq

/-- The number a natural number is. -/
def Number.ofNat (n : ℕ) : Number where
  text := toString n
  wf := by
    rw [List.all_eq_true]
    intro c hc
    rw [Nat.toString_eq_repr, Nat.toList_repr] at hc
    have hd : c.isDigit = true :=
      Nat.isDigit_of_mem_toDigits (by decide) (by decide) hc
    simp [isNumberChar, hd]

/-! ### Documents and the values read from them -/

/-- A parsed JSON document.  The members of an object stand in the order in
which the language enumerates them. -/
inductive Json where
  | null
  | bool (b : Bool)
  | num (n : Number)
  | str (s : String)
  | arr (items : List Json)
  | obj (fields : List (String × Json))

/-- What a property read can give. -/
inductive Value where
  | undefined
  | json (j : Json)
  | inherited (member : String)

/-- The members every object inherits from `Object.prototype`. -/
def objectPrototype : List String :=
  ["constructor", "__defineGetter__", "__defineSetter__", "hasOwnProperty",
   "__lookupGetter__", "__lookupSetter__", "isPrototypeOf",
   "propertyIsEnumerable", "toString", "valueOf", "__proto__",
   "toLocaleString"]

/-- The own members of a document; only objects have any here. -/
def Json.fields : Json → List (String × Json)
  | .obj fields => fields
  | _ => []

/-- `Object.prototype.hasOwnProperty.call(j, name)`. -/
def Json.hasOwn (j : Json) (name : String) : Bool :=
  (j.fields.lookup name).isSome

/-- `j[name]` for a `j` that is not `null`: the own member, or else the
inherited one. -/
def Json.get (j : Json) (name : String) : Value :=
  match j.fields.lookup name with
  | some v => .json v
  | none => if name ∈ objectPrototype then .inherited name else .undefined

/-- `v?.name`: the optional chain stops at `undefined` and `null`. -/
def Value.chain (v : Value) (name : String) : Value :=
  match v with
  | .undefined => .undefined
  | .json .null => .undefined
  | .json j => j.get name
  | .inherited _ => .undefined

/-- `v ?? w`. -/
def Value.coalesce (v w : Value) : Value :=
  match v with
  | .undefined => w
  | .json .null => w
  | v => v

/-- Whether a document counts as true in a condition. -/
def Json.truthy : Json → Bool
  | .null => false
  | .bool b => b
  | .num n => n.text != "0" && n.text != "NaN"
  | .str s => s != ""
  | .arr _ => true
  | .obj _ => true

/-- Whether a value counts as true in a condition. -/
def Value.truthy : Value → Bool
  | .undefined => false
  | .json j => j.truthy
  | .inherited _ => true

/-- `typeof v === "string"`, with the string. -/
def Value.asString : Value → Option String
  | .json (.str s) => some s
  | _ => none

/-- `typeof v === "number"`, with the number. -/
def Value.asNumber : Value → Option Number
  | .json (.num n) => some n
  | _ => none

/-- `Array.isArray(v)`, with the elements. -/
def Value.asArray : Value → Option (List Json)
  | .json (.arr items) => some items
  | _ => none

/-- `v === s` for a string `s`. -/
def Value.isString (v : Value) (s : String) : Bool :=
  v.asString == some s

/-- `v === undefined`. -/
def Value.isUndefined : Value → Bool
  | .undefined => true
  | _ => false

/-- `v === w`.  Objects are compared by reference, and two values read from two
parses are never the same reference. -/
def Value.strictEquals : Value → Value → Bool
  | .undefined, .undefined => true
  | .json .null, .json .null => true
  | .json (.bool a), .json (.bool b) => a == b
  | .json (.num a), .json (.num b) => a.text == b.text
  | .json (.str a), .json (.str b) => a == b
  | .inherited a, .inherited b => a == b
  | _, _ => false

theorem chain_json_of_ne_null {j : Json} (hj : j ≠ .null) {name : String} :
    (Value.json j).chain name = j.get name := by
  cases j with
  | null => exact absurd rfl hj
  | bool | num | str | arr | obj => rfl

@[simp] theorem asString_eq_some {v : Value} {s : String} :
    v.asString = some s ↔ v = .json (.str s) := by
  unfold Value.asString
  split <;> simp_all

theorem ne_str_of_asString {v : Value} (h : v.asString = none) (s : String) :
    v ≠ .json (.str s) := by
  intro hs
  rw [← asString_eq_some, h] at hs
  cases hs

@[simp] theorem asNumber_eq_some {v : Value} {n : Number} :
    v.asNumber = some n ↔ v = .json (.num n) := by
  unfold Value.asNumber
  split <;> simp_all

@[simp] theorem asArray_eq_some {v : Value} {items : List Json} :
    v.asArray = some items ↔ v = .json (.arr items) := by
  unfold Value.asArray
  split <;> simp_all

@[simp] theorem isString_iff {v : Value} {s : String} :
    v.isString s = true ↔ v = .json (.str s) := by
  simp [Value.isString]

@[simp] theorem isUndefined_iff {v : Value} :
    v.isUndefined = true ↔ v = .undefined := by
  cases v <;> simp [Value.isUndefined]

@[simp] theorem isUndefined_eq_false_iff {v : Value} :
    v.isUndefined = false ↔ v ≠ .undefined := by
  cases v <;> simp [Value.isUndefined]

/-! ### Interpolation -/

mutual

/-- The text a document has inside a template literal, where it has one
(`Json.displays`). -/
def Json.display : Json → String
  | .null => "null"
  | .bool true => "true"
  | .bool false => "false"
  | .num n => n.text
  | .str s => s
  | .arr items => ",".intercalate (Json.displayItems items)
  | .obj _ => "[object Object]"

/-- The elements of an array as `Array.prototype.join` writes them. -/
def Json.displayItems : List Json → List String
  | [] => []
  | .null :: rest => "" :: Json.displayItems rest
  | j :: rest => j.display :: Json.displayItems rest

end

/-- The text a value has inside a template literal. -/
def Value.display : Value → String
  | .undefined => "undefined"
  | .json j => j.display
  | .inherited "__proto__" => "[object Object]"
  | .inherited "constructor" => "function Object() \x7b [native code] \x7d"
  | .inherited member => "function " ++ member ++ "() \x7b [native code] \x7d"

mutual

/-- Whether a document has a text.  An object with a `toString` of its own has none:
no document holds a function, and the language takes no other member in its place. -/
def Json.displays : Json → Bool
  | .arr items => Json.displaysAll items
  | .obj fields => (fields.lookup "toString").isNone
  | _ => true

/-- Whether all elements have a text. -/
def Json.displaysAll : List Json → Bool
  | [] => true
  | j :: rest => j.displays && Json.displaysAll rest

end

/-- A value inside a template literal: its text, or the message of the exception. -/
def Value.interpolate : Value → Except String String
  | .json j => if j.displays then .ok j.display else .error "Cannot convert object to primitive value"
  | v => .ok v.display

/-! ### `JSON.stringify` -/

/-- One character of a quoted JSON string. -/
def quoteChar (c : Char) : String :=
  if c = '"' then "\\\""
  else if c = '\\' then "\\\\"
  else if c.toNat = 8 then "\\b"
  else if c.toNat = 9 then "\\t"
  else if c.toNat = 10 then "\\n"
  else if c.toNat = 12 then "\\f"
  else if c.toNat = 13 then "\\r"
  else if c.toNat < 32 then
    "\\u00" ++ String.ofList [Nat.digitChar (c.toNat / 16), Nat.digitChar (c.toNat % 16)]
  else c.toString

/-- A quoted JSON string. -/
def quote (s : String) : String :=
  "\"" ++ String.join (s.toList.map quoteChar) ++ "\""

mutual

/-- `JSON.stringify(j)`; the numbers that are not finite are written `null`. -/
def Json.stringify : Json → String
  | .null => "null"
  | .bool true => "true"
  | .bool false => "false"
  | .num n => if n.text ∈ ["Infinity", "-Infinity", "NaN"] then "null" else n.text
  | .str s => quote s
  | .arr items => "[" ++ ",".intercalate (Json.stringifyItems items) ++ "]"
  | .obj fields => "\x7b" ++ ",".intercalate (Json.stringifyFields fields) ++ "\x7d"

/-- The elements of an array as they are written. -/
def Json.stringifyItems : List Json → List String
  | [] => []
  | j :: rest => j.stringify :: Json.stringifyItems rest

/-- The members of an object as they are written. -/
def Json.stringifyFields : List (String × Json) → List String
  | [] => []
  | (name, j) :: rest => (quote name ++ ":" ++ j.stringify) :: Json.stringifyFields rest

end

/-- The object literal of the given members as `JSON.stringify` sees it:
members that are `undefined` or a function are left out. -/
def objectOf (members : List (String × Value)) : Json :=
  .obj (members.filterMap fun (name, v) =>
    match v with
    | .json j => some (name, j)
    | .inherited "__proto__" => some (name, .obj [])
    | _ => none)

/-! ### Computations that can throw -/

theorem bind_eq_ok {ε α β : Type} {x : Except ε α} {f : α → Except ε β} {b : β} :
    x >>= f = .ok b ↔ ∃ a, x = .ok a ∧ f a = .ok b := by
  cases x with
  | error e => simp [bind, Except.bind]
  | ok a => simp [bind, Except.bind]

/-! ### Library functions kept abstract -/

/-- The library functions of the runtime that stay arbitrary here.  Nothing is
assumed of them: what holds below holds for every choice.

* `jsonParse` is `JSON.parse`, with the message of the `SyntaxError`;
* `compileRegExp` is `new RegExp(source)`, failing on a malformed source, with
  the `test` of the compiled expression;
* `utf8Decode` is `Buffer.prototype.toString("utf8")`;
* `hmacSha256Hex` is the hexadecimal HMAC-SHA256 digest of a body under a
  secret. -/
structure Runtime where
  jsonParse : String → Except String Json
  compileRegExp : String → Option (String → Bool)
  utf8Decode : List UInt8 → String
  hmacSha256Hex : String → List UInt8 → String

end Js
