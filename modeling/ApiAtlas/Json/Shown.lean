import ApiAtlas.Json.Basic
import ApiAtlas.Text.Quoted

/-!
# Values in messages

How a value, and the name of its type, read inside a message or a path. A text stands there as it
is; inside a list or an object it is quoted.
-/

set_option autoImplicit false

namespace ApiAtlas.Json

/-- The name of a value's type. -/
def typeName : Json → String
  | .null => "NoneType"
  | .bool _ => "bool"
  | .int _ => "int"
  | .decimal .. => "float"
  | .str _ => "str"
  | .arr _ => "list"
  | .obj _ => "dict"

/-- Whether a value says nothing: null, false, zero, or empty. -/
def isNothing : Json → Bool
  | .null => true
  | .bool b => !b
  | .int n => n == 0
  | .decimal m _ => m == 0
  | .str s => s.isEmpty
  | .arr items => items.isEmpty
  | .obj fields => fields.isEmpty

/-- The digits of a decimal fraction with its point after the first `point` of them; a point far
from the digits is written as a power of ten. -/
def placePoint (digits : List Char) (point : Int) : List Char :=
  if -4 < point && point ≤ 0 then
    "0.".toList ++ List.replicate point.natAbs '0' ++ digits
  else if 0 < point && point ≤ 16 then
    let padded := digits ++ List.replicate (point.toNat + 1 - digits.length) '0'
    padded.take point.toNat ++ ['.'] ++ padded.drop point.toNat
  else
    let power := point - 1
    let size := (toString power.natAbs).toList
    let fraction := if digits.length ≤ 1 then [] else '.' :: digits.drop 1
    digits.take 1 ++ fraction ++ ['e', if power < 0 then '-' else '+'] ++
      List.replicate (2 - size.length) '0' ++ size

/-- A decimal fraction with no more digits than it needs. -/
def shownDecimal (mantissa : Int) (places : Nat) : String :=
  let digits := (toString mantissa.natAbs).toList
  let needed := (digits.reverse.dropWhile (· = '0')).reverse
  let unsigned :=
    if mantissa = 0 then "0.0".toList else placePoint needed (digits.length - places)
  String.ofList ((if mantissa < 0 then ['-'] else []) ++ unsigned)

mutual

/-- A value inside a list or an object. -/
def shownInside : Json → String
  | .null => "None"
  | .bool b => if b then "True" else "False"
  | .int n => toString n
  | .decimal m e => shownDecimal m e
  | .str s => Text.quoted s
  | .arr items => "[" ++ String.intercalate ", " (shownItems items) ++ "]"
  | .obj fields => "\x7b" ++ String.intercalate ", " (shownFields fields) ++ "\x7d"

/-- The items of a list. -/
def shownItems : List Json → List String
  | [] => []
  | item :: items => shownInside item :: shownItems items

/-- The fields of an object. -/
def shownFields : List (String × Json) → List String
  | [] => []
  | (key, value) :: fields => (Text.quoted key ++ ": " ++ shownInside value) :: shownFields fields

end

/-- A value by itself. -/
def shown : Json → String
  | .str s => s
  | value => shownInside value

end ApiAtlas.Json
