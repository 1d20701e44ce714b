import ApiAtlas.Text.Blank
import ApiAtlas.Text.Cells
import ApiAtlas.Text.Lines
import ApiAtlas.Text.Pieces

/-!
# Lines of a width

Breaking text into lines that fit into a number of cells. A line breaks before a word that does not
fit; a word that fits on no line is folded onto several, or stays whole and is cut off.
-/

set_option autoImplicit false

namespace ApiAtlas.Text

/-- The cells that a text takes in its widest line. -/
def widestLine (s : List Char) : Nat :=
  ((splitLines s).map cells).foldl max 0

/-- The text with each tabulator moved to the next multiple of eight; `column` is where the text
starts. -/
def expandTabs (column : Nat) : List Char → List Char
  | [] => []
  | c :: cs =>
    if c = '\t' then
      let width := 8 - column % 8
      List.replicate width ' ' ++ expandTabs (column + width) cs
    else c :: expandTabs (column + cellsOf c) cs

/-- The text cut before every word that follows a blank. -/
def cutWords : List Char → List (List Char)
  | [] => []
  | c :: r =>
    match cutWords r with
    | [] => [[c]]
    | w :: ws => if isBlank c && !w.head?.any isBlank then [c] :: w :: ws else (c :: w) :: ws

/-- The words of a text with the blanks after each; the first one also has the blanks before it. -/
def spacedWords (s : List Char) : List (List Char) :=
  match cutWords s with
  | blanks :: w :: ws => if blanks.all isBlank then (blanks ++ w) :: ws else blanks :: w :: ws
  | ws => ws

/-- The text folded into lines that fit; `room` are the cells left on the current line. -/
def foldWord (width room : Nat) : List Char → List (List Char)
  | [] => [[]]
  | c :: r =>
    if cellsOf c ≤ room then
      match foldWord width (room - cellsOf c) r with
      | [] => [[c]]
      | line :: lines => (c :: line) :: lines
    else
      match foldWord width (width - cellsOf c) r with
      | [] => [[], [c]]
      | line :: lines => [] :: (c :: line) :: lines

/-- Lines while they are filled: those that are done, the last first, the current one, and the cells
that it takes. -/
structure Filling where
  done : List (List Char) := []
  current : List Char := []
  taken : Nat := 0

namespace Filling

/-- Starts a new line, unless nothing has been placed yet. -/
def newLine (f : Filling) : Filling :=
  if f.done.isEmpty && f.current.isEmpty then f
  else { done := f.current :: f.done }

/-- Places text on the current line. -/
def place (f : Filling) (s : List Char) : Filling :=
  { f with current := f.current ++ s, taken := f.taken + cells s }

/-- Places the next word. -/
def add (width : Nat) (fold : Bool) (f : Filling) (word : List Char) : Filling :=
  let size := cells (trimEnd isBlank word)
  if f.taken + size ≤ width then f.place word
  else if size ≤ width then f.newLine.place word
  else if fold then (foldWord width width word).foldl (fun f piece => f.newLine.place piece) f
  else f.newLine.place word

/-- All lines in order. -/
def lines (f : Filling) : List (List Char) :=
  (f.current :: f.done).reverse

end Filling

/-- A line without the blanks at its end that stand beyond some number of characters. -/
def dropExcess (size : Nat) (line : List Char) : List Char :=
  let blanks := line.length - (trimEnd isBlank line).length
  line.take (line.length - min blanks (line.length - size))

/-- A line broken into lines that fit. -/
def breakLine (width : Nat) (fold : Bool) (line : List Char) : List (List Char) :=
  (((spacedWords line).foldl (Filling.add width fold) {}).lines).map (dropExcess width)

/-- The beginning of a line that takes exactly some cells, looked for between two positions by
halving, in at most some number of steps. A blank takes the place of half a wide character. -/
def cutBetween (width : Nat) (line : List Char) : Nat → Nat → Nat → List Char
  | 0, low, _ => line.take low
  | steps + 1, low, high =>
    let middle := (low + high) / 2
    let front := line.take (middle + 1)
    let size := cells front
    if size = width + 1 && front.getLast?.any (fun c => cellsOf c = 2) then front.dropLast ++ [' ']
    else if size = width then front
    else if width < size then cutBetween width line steps low middle
    else cutBetween width line steps middle high

/-- The beginning of a wide line that takes exactly some cells. -/
def fitCells (width : Nat) (line : List Char) : List Char :=
  if width = 0 then [] else cutBetween width line line.length 0 line.length

/-- A line that is too wide is cut off at its end. -/
def cutOff (width : Nat) (line : List Char) : List Char :=
  if cells line ≤ width then line else fitCells width line

/-- A line that is too wide is cut off, with dots as its last character. -/
def cutWithDots (width : Nat) (line : List Char) : List Char :=
  if cells line ≤ width then line else fitCells (width - 1) line ++ [Char.ofNat 0x2026]

/-- The lines of a text, with tabulators expanded. -/
def tabbedLines (s : List Char) : List (List Char) :=
  (splitOn '\n' s).map (expandTabs 0)

/-- The lines of a title over a width. -/
def titleLines (width : Nat) (s : List Char) : List (List Char) :=
  (tabbedLines s).flatMap fun line =>
    (breakLine width true line).map fun l => cutOff width (trimEnd isBlank l)

/-- The lines of a cell that has a width. -/
def cellLines (width : Nat) (s : List Char) : List (List Char) :=
  (tabbedLines s).flatMap fun line => (breakLine width false line).map (cutWithDots width)

end ApiAtlas.Text
