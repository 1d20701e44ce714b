/-!
# JSON values

The data that the atlas is written as and that settings are read from. Objects keep the order of
their fields, and whole numbers are kept apart from decimal fractions.
-/

set_option autoImplicit false

namespace ApiAtlas

/-- A JSON value; `decimal m e` is the number `m / 10 ^ e`. -/
inductive Json where
  | null
  | bool (value : Bool)
  | int (value : Int)
  | decimal (mantissa : Int) (places : Nat)
  | str (value : String)
  | arr (items : List Json)
  | obj (fields : List (String × Json))
  deriving Inhabited, Repr

namespace Json

/-- A natural number as JSON. -/
def nat (n : Nat) : Json :=
  .int n

/-- The value of an object's field, if it is an object that has the field. -/
def get? (key : String) : Json → Option Json
  | .obj fields => (fields.find? fun f => f.1 == key).map (·.2)
  | _ => none

/-- Whether a value is null. -/
def isNull : Json → Bool
  | .null => true
  | _ => false

/-- Whether nothing is worth writing: null, an empty list or an empty object. -/
def isVoid : Json → Bool
  | .null => true
  | .arr items => items.isEmpty
  | .obj fields => fields.isEmpty
  | _ => false

/-- The field as a list of fields, left out when its value is not worth writing. -/
def field (key : String) (value : Json) : List (String × Json) :=
  if value.isVoid then [] else [(key, value)]

/-- An optional text as JSON. -/
def ofText? (s : Option String) : Json :=
  match s with
  | some s => .str s
  | none => .null

end Json

end ApiAtlas
