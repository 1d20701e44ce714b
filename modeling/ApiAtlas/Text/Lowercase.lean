import ApiAtlas.Text.CaseTable

/-!
# Lower case

Full lower-casing of a text. Every capital has one small letter, with two exceptions: the capital
I with a dot becomes an i and a combining dot, and a capital sigma at the end of a word becomes a
final sigma.
-/

set_option autoImplicit false

namespace ApiAtlas.Text

/-- The small letter of a capital; any other character is itself. -/
def lowerChar (c : Char) : Char :=
  let n := c.toNat
  if n < 0x80 then c.toLower
  else match caseRuns.find? (·.covers n) with
    | some r => Char.ofNat (r.target + (n - r.start))
    | none => c

/-- Whether the nearest character that is not passed over has a case. -/
def meetsCased (s : List Char) : Bool :=
  match s.dropWhile isCaseIgnorable with
  | c :: _ => isCased c
  | [] => false

/-- Lower-casing of the rest of a text, after what stands before it in reverse order. -/
def lowerFrom (before : List Char) : List Char → List Char
  | [] => []
  | c :: r =>
    (if c.toNat = 0x130 then ['i', Char.ofNat 0x307]
      else if c.toNat = 0x3a3 then
        [if meetsCased before && !meetsCased r then Char.ofNat 0x3c2 else Char.ofNat 0x3c3]
      else [lowerChar c]) ++ lowerFrom (c :: before) r

/-- The text in lower case. -/
def lower (s : List Char) : List Char :=
  lowerFrom [] s

end ApiAtlas.Text
