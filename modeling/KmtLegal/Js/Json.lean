import KmtLegal.Js.Text

/-!
# JSON values in JavaScript

What `JSON.parse` returns, and the conversions the server applies to it.  A number is kept as
the text `String` gives it: no modelled function calculates with a number that came out of a
payload, and two numbers with one text are one number.  A field that is absent is `none`, so an
`unknown` of the source is an `Option Json`.
-/

namespace KmtLegal.Js

/-- A value `JSON.parse` can return. -/
inductive Json where
  | null
  | bool (b : Bool)
  | num (text : String)
  | str (s : String)
  | arr (items : List Json)
  | obj (fields : List (String × Json))

namespace Json

/-- A falsy value: `null`, `false`, zero or the empty string. -/
def falsy : Json → Bool
  | null => true
  | bool b => !b
  | num text => text = "0"
  | str s => s = ""
  | arr _ => false
  | obj _ => false

/-- `value[key]` of an object; `undefined` if there is no such field. -/
def field (fields : List (String × Json)) (key : String) : Option Json := fields.lookup key

/-- `typeof value === "object" && !Array.isArray(value)` for a truthy `value`. -/
def asObject : Json → Option (List (String × Json))
  | obj fields => some fields
  | _ => none

/- `String(value)`.  An object with a field of its own called `toString` has no primitive
value and the conversion throws; an array is its items' texts joined by commas, with nothing
for `null`. -/
mutual

/-- `String(value)`, or `none` if that throws a `TypeError`. -/
def toText : Json → Option String
  | null => some "null"
  | bool b => some (if b then "true" else "false")
  | num text => some text
  | str s => some s
  | arr items => (itemTexts items).map (String.intercalate ",")
  | obj fields => if (fields.lookup "toString").isSome then none else some "[object Object]"

/-- The texts `Array.prototype.join` puts together. -/
def itemTexts : List Json → Option (List String)
  | [] => some []
  | item :: items =>
    match (match item with | null => some "" | item => toText item), itemTexts items with
    | some text, some texts => some (text :: texts)
    | _, _ => none

end

end Json

/-- `nestedValue(body, path)`: descends through objects and is `undefined` elsewhere. -/
def nestedValue (body : Option Json) : List String → Option Json
  | [] => body
  | segment :: path =>
    match body.bind Json.asObject with
    | some fields => nestedValue (Json.field fields segment) path
    | none => none

/-- `a ?? b`. -/
def nullish (a b : Option Json) : Option Json :=
  match a with
  | none => b
  | some .null => b
  | some v => some v

/-- `stringValue(value)`: nothing for `null` and `undefined`, else `String(value)`. -/
def stringValue : Option Json → Option String
  | none => some ""
  | some .null => some ""
  | some v => v.toText

/-- `booleanValue(value)`. -/
def booleanValue : Option Json → Bool
  | some (.bool b) => b
  | some (.str s) => s ∈ ["true", "True", "1"]
  | _ => false

@[simp] theorem stringValue_none : stringValue none = some "" := rfl

@[simp] theorem stringValue_null : stringValue (some .null) = some "" := rfl

example : (Json.arr [.null, .str "a", .arr [.num "1", .bool true]]).toText = some ",a,1,true" := by
  decide

end KmtLegal.Js
