import ApiAtlas.Text.Markup
import ApiAtlas.Text.Wrap

/-!
# The screen

What a run shows: lines and tables of marked-up text. Lines of text are as wide as they are, and a
table is as wide as its cells make it; its title is broken into lines of that width. A cell with
several lines makes a row of several lines, in which the other cells end earlier.
-/

set_option autoImplicit false

namespace ApiAtlas.Cli

open Text.Markup (shown?)

/-- One line of the screen: text, or the cells of a table's row. -/
inductive ScreenLine where
  | text (s : String)
  | cells (cs : List String)
  deriving DecidableEq, Repr, Inhabited

/-- A table with a title over it. -/
structure Grid where
  title : String
  columns : List String
  rows : List (List String)

/-- Text as lines of the screen. -/
def textLines? (s : String) : Option (List ScreenLine) :=
  (shown? s).map fun r => (Text.tabbedLines r).map fun line => .text (String.ofList line)

/-- The width of each column: that of its widest cell. -/
def columnWidths : List (List (List Char)) → List Nat
  | [] => []
  | row :: rows => rows.foldl (fun widths r => widths.zipWith max (r.map Text.widestLine))
      (row.map Text.widestLine)

/-- The width of a table whose columns have these widths: each has a blank at both sides, and there
is a border before each and after the last. -/
def tableWidth (widths : List Nat) : Nat :=
  widths.foldr (fun w n => w + 3 + n) 1

/-- A row with columns of these widths as lines of the screen. -/
def rowLines (widths : List Nat) (row : List (List Char)) : List ScreenLine :=
  let cells := widths.zipWith Text.cellLines row
  let height := (cells.map List.length).foldl max 0
  (List.range height).map fun i =>
    .cells (cells.map fun lines => String.ofList (lines.getD i []))

/-- A table as lines of the screen; a table without a title starts with its columns. -/
def Grid.lines? (g : Grid) : Option (List ScreenLine) := do
  let rows ← (g.columns :: g.rows).mapM fun row => row.mapM shown?
  let widths := columnWidths rows
  let title ← shown? g.title
  let heading :=
    if g.title.isEmpty then []
    else (Text.titleLines (tableWidth widths) title).map fun l => .text (String.ofList l)
  return heading ++ (rows.map (rowLines widths)).flatten

end ApiAtlas.Cli
