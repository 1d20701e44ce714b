/-!
# Wildcard patterns

Patterns over file names: `*` stands for any run of characters, the slash included, `?` for any
one character, and a bracket lists a set of characters and ranges, negated by a leading `!`.
A bracket that is never closed stands for itself. A range whose ends are in the wrong order is
empty and takes both its ends away.
-/

set_option autoImplicit false

namespace ApiAtlas.Text.Glob

/-- One part of a pattern. -/
inductive Item where
  | run
  | one
  | char (c : Char)
  | set (negated : Bool) (ranges : List (Char × Char))
  deriving DecidableEq, Repr

/-- Cuts the inside of a bracket at the hyphens that form ranges. `skip` characters are taken
without looking, since neither end of a range may itself be a range's hyphen. -/
def rangePieces (skip : Nat) (piece : List Char) : List Char → List (List Char)
  | [] => [piece.reverse]
  | c :: r =>
    match skip with
    | k + 1 => rangePieces k (c :: piece) r
    | 0 =>
      if c = '-' then piece.reverse :: rangePieces 2 [] r
      else rangePieces 0 (c :: piece) r

/-- A hyphen with nothing after it forms no range and belongs to the piece before it. -/
def closeHyphen : List (List Char) → List (List Char)
  | [piece, []] => [piece ++ ['-']]
  | piece :: pieces => piece :: closeHyphen pieces
  | [] => []

/-- Joins two pieces without the ends of the range between them when the range is empty. -/
def dropEmptyRange (piece : List Char) : List (List Char) → List (List Char)
  | next :: rest =>
    match piece.getLast?, next with
    | some low, high :: _ =>
      if high < low then (piece.dropLast ++ next.tail) :: rest else piece :: next :: rest
    | _, _ => piece :: next :: rest
  | [] => [piece]

/-- The ranges that a piece and the pieces after it stand for; a single character is a range of
its own, and a hyphen with nothing before it is a character. -/
def rangesOf (piece : List Char) : List (List Char) → List (Char × Char)
  | [] => piece.map fun c => (c, c)
  | next :: rest =>
    match piece.getLast?, next with
    | some low, high :: more =>
      piece.dropLast.map (fun c => (c, c)) ++ (low, high) :: rangesOf more rest
    | _, _ => ('-', '-') :: rangesOf next rest

/-- The item that the inside of a bracket stands for. -/
def setItem (inside : List Char) : Item :=
  let skip := if inside.head? = some '!' then 2 else 1
  match (closeHyphen (rangePieces skip [] inside)).foldr dropEmptyRange [] with
  | ('!' :: piece) :: pieces => .set true (rangesOf piece pieces)
  | piece :: pieces => .set false (rangesOf piece pieces)
  | [] => .set false []

/-- The length of a bracket's inside, if the bracket is closed. A closing bracket that comes
first, or first after the negation, belongs to the inside. -/
def insideLength? (s : List Char) : Option Nat :=
  let lead := match s with
    | '!' :: ']' :: _ => 2
    | '!' :: _ => 1
    | ']' :: _ => 1
    | _ => 0
  ((s.drop lead).findIdx? (· = ']')).map (· + lead)

/-- The items of a pattern, after `skip` characters that are already taken. -/
def itemsFrom (skip : Nat) : List Char → List Item
  | [] => []
  | c :: r =>
    match skip with
    | k + 1 => itemsFrom k r
    | 0 =>
      if c = '*' then .run :: itemsFrom 0 r
      else if c = '?' then .one :: itemsFrom 0 r
      else if c = '[' then
        match insideLength? r with
        | some n => setItem (r.take n) :: itemsFrom (n + 1) r
        | none => .char c :: itemsFrom 0 r
      else .char c :: itemsFrom 0 r

/-- The items of a pattern. -/
def items (pattern : String) : List Item :=
  itemsFrom 0 pattern.toList

/-- Whether an item that stands for one character stands for this one. -/
def Item.admits : Item → Char → Bool
  | .run, _ => true
  | .one, _ => true
  | .char d, c => c == d
  | .set negated ranges, c => negated != ranges.any fun r => r.1 ≤ c && c ≤ r.2

/-- The endings of a text, from the whole of it down to the empty one. -/
def endings : List Char → List (List Char)
  | [] => [[]]
  | c :: r => (c :: r) :: endings r

/-- What is left of a text after one more item. `rests` are the endings that are left before it, the
longest first; they are endings of one text, so that a run leaves every ending of the longest. -/
def advance (rests : List (List Char)) : Item → List (List Char)
  | .run =>
    match rests with
    | longest :: _ => endings longest
    | [] => []
  | p => rests.filterMap fun rest =>
    match rest with
    | c :: r => if p.admits c then some r else none
    | [] => none

/-- Whether the items stand for the whole of a text. -/
def accepts (ps : List Item) (s : List Char) : Bool :=
  (ps.foldl advance [s]).any List.isEmpty

/-- Whether a pattern stands for the whole of a name. -/
def covers (pattern name : String) : Bool :=
  accepts (items pattern) name.toList

end ApiAtlas.Text.Glob
