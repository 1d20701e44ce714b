import ApiAtlas.Text.Constant.Parser
import ApiAtlas.Text.Picture
import ApiAtlas.Text.Style

/-!
# Marked-up text

Text for the screen, with tags in square brackets that switch styles on and off. The screen shows
the text without its tags, and pictures in place of their codes. A tag can be kept as text by a
backslash before it. A closing tag must have something to close, and a tag that starts an action
must have constants as arguments.
-/

set_option autoImplicit false

namespace ApiAtlas.Text.Markup

/-- A part of marked-up text. -/
inductive Piece where
  | plain (s : List Char)
  | tag (body : List Char)
  deriving DecidableEq, Repr

/-- A character that can start a tag. -/
def startsTag (c : Char) : Bool :=
  ('a' ≤ c && c ≤ 'z') || c = '#' || c = '/' || c = '@'

/-- The body of a tag, for text that stands after an opening bracket. -/
def tagBody? (cs : List Char) : Option (List Char) :=
  let body := cs.takeWhile fun c => c ≠ ']' && c ≠ '['
  if body.head?.any startsTag && (cs.drop body.length).head? = some ']' then some body else none

/-- Some text as a piece, unless it is empty. -/
def plainPiece (s : List Char) : List Piece :=
  if s.isEmpty then [] else [.plain s]

/-- A tag after some backslashes. They count by pairs; an odd one keeps the tag as text. -/
def tagPieces (slashes : Nat) (body : List Char) : List Piece :=
  plainPiece (List.replicate (slashes / 2) '\\') ++
    [if slashes % 2 = 1 then .plain (['['] ++ body ++ [']']) else .tag body]

/-- The pieces of a text. `skip` is what is left of a tag that has been dealt with, `slashes` are
the backslashes just before, and `before` is the text since the last tag, the last character
first. -/
def piecesFrom (skip slashes : Nat) (before : List Char) : List Char → List Piece
  | [] => plainPiece (before.reverse ++ List.replicate slashes '\\')
  | c :: rest =>
    let kept := List.replicate slashes '\\' ++ before
    match skip with
    | k + 1 => piecesFrom k 0 [] rest
    | 0 =>
      if c = '\\' then piecesFrom 0 (slashes + 1) before rest
      else
        match (if c = '[' then tagBody? rest else none) with
        | some body =>
          plainPiece before.reverse ++ tagPieces slashes body ++
            piecesFrom (body.length + 1) 0 [] rest
        | none => piecesFrom 0 0 (c :: kept) rest

/-- The pieces of a text. -/
def pieces (s : List Char) : List Piece :=
  piecesFrom 0 0 [] s

/-- The text without the backslashes before brackets. -/
def dropSlashes : List Char → List Char
  | [] => []
  | '\\' :: '[' :: r => '[' :: dropSlashes r
  | c :: r => c :: dropSlashes r

/-- A tag that has been opened: its normal name, and what it is given after an equals sign. -/
structure OpenTag where
  name : List Char
  given : List Char

/-- The tag that a body opens, if its name can be read. -/
def OpenTag.ofBody? (body : List Char) : Option OpenTag :=
  let (name, given) := cut '=' body
  (Style.normal? name).map fun name => ⟨name, given⟩

/-- The arguments of an action: those in parentheses after its name, none after a name alone, or all
that is given. -/
def arguments (given : List Char) : List Char :=
  let given := trim isBlank given
  let rest := given.dropWhile fun c => isWord c || c = '.'
  if rest.isEmpty then "()".toList
  else if rest.head? = some '(' && endsWith [')'] rest && !rest.contains '\n' then rest
  else given

/-- Whether what a tag is given can be read, once the tag is closed. -/
def OpenTag.isSound (t : OpenTag) : Bool :=
  if t.name.head? = some '@' then t.given.isEmpty || Constant.isConstant (arguments t.given)
  else !Style.isBroken (t.name ++ [' '] ++ t.given)

/-- The open tags after a tag, the innermost first; none if the tag has nothing to close or cannot
be read. -/
def applyTag? (tags : List OpenTag) (body : List Char) : Option (List OpenTag) :=
  match body with
  | '/' :: rest =>
    let name := trim isBlank (cut '=' rest).1
    if name.isEmpty then
      match tags with
      | t :: outer => if t.isSound then some outer else none
      | [] => none
    else do
      let name ← Style.normal? name
      let t ← tags.find? fun t => t.name == name
      if t.isSound then some (tags.eraseP fun t => t.name == name) else none
  | _ => (OpenTag.ofBody? body).map fun t => t :: tags

/-- The text that some pieces show. -/
def shownFrom? (tags : List OpenTag) : List Piece → Option (List Char)
  | [] => if tags.any fun t => Style.isBroken (t.name ++ [' '] ++ t.given) then none else some []
  | .plain s :: ps => (withPictures (dropSlashes s) ++ ·) <$> shownFrom? tags ps
  | .tag body :: ps => do shownFrom? (← applyTag? tags body) ps

/-- A character that the screen does not show. -/
def isSilent (c : Char) : Bool :=
  [7, 8, 11, 12, 13].contains c.toNat

/-- The text that the screen shows for marked-up text; none if there is something wrong with a
tag. -/
def shown? (s : String) : Option (List Char) :=
  (shownFrom? [] (pieces s.toList)).map fun r => r.filter fun c => !isSilent c

end ApiAtlas.Text.Markup
