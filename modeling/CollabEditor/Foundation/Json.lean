/-! # JSON values

What a parser yields: the text itself, its whitespace and its escapes are gone.
Numbers are rational, which covers every finite double.
-/

namespace Foundation

inductive Json
  | null
  | bool (value : Bool)
  | number (value : Rat)
  | string (value : String)
  | array (items : List Json)
  | object (fields : List (String × Json))

namespace Json

/-- `typeof value === "object" && value !== null`. -/
def isObject : Json → Bool
  | array _ | object _ => true
  | _ => false

/-- Property access: `none` for what is undefined. -/
def field (key : String) : Json → Option Json
  | object fields => fields.lookup key
  | _ => none

/-- The string under a key, if there is one. -/
def stringField (key : String) (value : Json) : Option String :=
  match value.field key with
  | some (string text) => some text
  | _ => none

/-- The number under a key, if there is one. -/
def numberField (key : String) (value : Json) : Option Rat :=
  match value.field key with
  | some (number value) => some value
  | _ => none

theorem isObject_of_field {key : String} {json value : Json} (hfield : json.field key = some value) :
    json.isObject = true := by
  cases json with
  | array _ | object _ => rfl
  | null | bool _ | number _ | string _ => cases hfield

end Json

end Foundation
