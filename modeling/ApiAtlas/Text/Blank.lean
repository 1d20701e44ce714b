/-!
# Blanks

The white space of Unicode text, as a decidable class of characters, and the functions that
remove such characters from the two ends of a text. The trimming functions take the class as a
parameter, since tags and quoted names are trimmed by other sets of characters.
-/

set_option autoImplicit false

namespace ApiAtlas.Text

/-- A character of Unicode white space; the four information separators count too, the
zero-width spaces do not. -/
def isBlank (c : Char) : Bool :=
  let n := c.toNat
  (0x09 ≤ n && n ≤ 0x0d) || (0x1c ≤ n && n ≤ 0x20) || n == 0x85 || n == 0xa0 || n == 0x1680 ||
    (0x2000 ≤ n && n ≤ 0x200a) || n == 0x2028 || n == 0x2029 || n == 0x202f || n == 0x205f ||
    n == 0x3000

/-- The text without its longest run of characters of a class at the start. -/
def trimStart (p : Char → Bool) (s : List Char) : List Char :=
  s.dropWhile p

/-- The text without its longest run of characters of a class at the end. -/
def trimEnd (p : Char → Bool) (s : List Char) : List Char :=
  (s.reverse.dropWhile p).reverse

/-- The text without the characters of a class at either end. -/
def trim (p : Char → Bool) (s : List Char) : List Char :=
  trimEnd p (trimStart p s)

/-- A set of characters given by listing them. -/
def oneOf (cs : String) (c : Char) : Bool :=
  cs.toList.contains c

end ApiAtlas.Text
