import ApiAtlas.Json.Basic
import ApiAtlas.Text.Hex

/-!
# Printed JSON

JSON as text, two blanks of indentation a level. The text is ASCII: every other character is
written by its UTF-16 code units.
-/

set_option autoImplicit false

namespace ApiAtlas.Json

/-- The escape of a UTF-16 code unit. -/
def unitEscape (n : Nat) : List Char :=
  ['\\', 'u'] ++ Text.hexDigits 4 n

/-- A character inside a JSON text. -/
def escapeChar (c : Char) : List Char :=
  let n := c.toNat
  if c = '"' then ['\\', '"']
  else if c = '\\' then ['\\', '\\']
  else if c = '\n' then ['\\', 'n']
  else if c = '\r' then ['\\', 'r']
  else if c = '\t' then ['\\', 't']
  else if n = 0x08 then ['\\', 'b']
  else if n = 0x0c then ['\\', 'f']
  else if 0x20 ≤ n && n < 0x7f then [c]
  else if n < 0x10000 then unitEscape n
  else unitEscape (0xd800 + (n - 0x10000) / 0x400) ++ unitEscape (0xdc00 + (n - 0x10000) % 0x400)

/-- A text between double quotes. -/
def printText (s : String) : String :=
  String.ofList ('"' :: s.toList.flatMap escapeChar ++ ['"'])

/-- A decimal fraction, with all its places. -/
def printDecimal (mantissa : Int) (places : Nat) : String :=
  let digits := (toString mantissa.natAbs).toList
  let padded := List.replicate (places + 1 - digits.length) '0' ++ digits
  let whole := padded.take (padded.length - places)
  let fraction := padded.drop (padded.length - places)
  (if mantissa < 0 then "-" else "") ++ String.ofList whole ++
    (if places = 0 then "" else "." ++ String.ofList fraction)

/-- The line break and indentation before an item at some depth. -/
def lineBreak (depth : Nat) : String :=
  String.ofList ('\n' :: List.replicate (2 * depth) ' ')

mutual

/-- A value at some depth of nesting. -/
def printAt (depth : Nat) : Json → String
  | .null => "null"
  | .bool b => if b then "true" else "false"
  | .int n => toString n
  | .decimal m e => printDecimal m e
  | .str s => printText s
  | .arr [] => "[]"
  | .arr (v :: vs) =>
    "[" ++ lineBreak (depth + 1) ++ printAt (depth + 1) v ++ printItems (depth + 1) vs ++
      lineBreak depth ++ "]"
  | .obj [] => "\x7b\x7d"
  | .obj ((k, v) :: fs) =>
    "\x7b" ++ lineBreak (depth + 1) ++ printText k ++ ": " ++ printAt (depth + 1) v ++
      printFields (depth + 1) fs ++ lineBreak depth ++ "\x7d"

/-- The items of a list after its first one. -/
def printItems (depth : Nat) : List Json → String
  | [] => ""
  | v :: vs => "," ++ lineBreak depth ++ printAt depth v ++ printItems depth vs

/-- The fields of an object after its first one. -/
def printFields (depth : Nat) : List (String × Json) → String
  | [] => ""
  | (k, v) :: fs =>
    "," ++ lineBreak depth ++ printText k ++ ": " ++ printAt depth v ++ printFields depth fs

end

/-- A value as text. -/
def print (value : Json) : String :=
  printAt 0 value

end ApiAtlas.Json
