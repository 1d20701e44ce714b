/-!
# Lines

Unicode text breaks into lines at more characters than the line feed. `splitLines` removes the
breaks; a break at the very end of the text opens no further line.
-/

set_option autoImplicit false

namespace ApiAtlas.Text

/-- A character that ends a line. -/
def isLineBreak (c : Char) : Bool :=
  let n := c.toNat
  (0x0a ≤ n && n ≤ 0x0d) || (0x1c ≤ n && n ≤ 0x1e) || n == 0x85 || n == 0x2028 || n == 0x2029

/-- The lines of a text without their breaks; a carriage return followed by a line feed is one
break. -/
def splitLines : List Char → List (List Char)
  | [] => []
  | '\r' :: '\n' :: r => [] :: splitLines r
  | c :: r =>
    if isLineBreak c then [] :: splitLines r
    else match splitLines r with
      | [] => [[c]]
      | line :: lines => (c :: line) :: lines

/-- The text with every carriage return, alone or before a line feed, made a line feed. -/
def unifyLineEnds : List Char → List Char
  | [] => []
  | '\r' :: '\n' :: r => '\n' :: unifyLineEnds r
  | c :: r => (if c = '\r' then '\n' else c) :: unifyLineEnds r

end ApiAtlas.Text
