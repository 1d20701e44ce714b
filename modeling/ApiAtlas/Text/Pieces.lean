/-!
# Pieces of a text

Cutting a text at a separator, and removing a known beginning or ending. `splitOn` and `joinWith`
are inverse to one another on pieces that do not hold the separator.
-/

set_option autoImplicit false

namespace ApiAtlas.Text

/-- The text before the first separator, and the text after it; the second is empty when there
is no separator. -/
def cut (sep : Char) : List Char → List Char × List Char
  | [] => ([], [])
  | c :: r => if c = sep then ([], r) else (c :: (cut sep r).1, (cut sep r).2)

/-- The pieces of a text between its separators; there is always at least one. -/
def splitOn (sep : Char) : List Char → List (List Char)
  | [] => [[]]
  | c :: r =>
    if c = sep then [] :: splitOn sep r
    else match splitOn sep r with
      | [] => [[c]]
      | piece :: pieces => (c :: piece) :: pieces

/-- The pieces in order with the separator between them. -/
def joinWith (sep : List Char) : List (List Char) → List Char
  | [] => []
  | [piece] => piece
  | piece :: pieces => piece ++ sep ++ joinWith sep pieces

/-- The names of a dotted path. -/
def dotted (s : String) : List String :=
  (splitOn '.' s.toList).map String.ofList

/-- Whether the text starts with the given one. -/
def startsWith (start s : List Char) : Bool :=
  start.isPrefixOf s

/-- Whether the text ends with the given one. -/
def endsWith (ending s : List Char) : Bool :=
  ending.reverse.isPrefixOf s.reverse

/-- The text without a given ending. -/
def dropEnding (ending s : List Char) : List Char :=
  s.take (s.length - ending.length)

end ApiAtlas.Text
