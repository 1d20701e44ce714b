import ApiAtlas.Text.Pieces

/-!
# Paths as text

Slash-separated paths that are only read as text, as in an import: their folder, their joining and
the removal of dot segments. No file system is asked.
-/

set_option autoImplicit false

namespace ApiAtlas.Path

/-- The part of a path before its last name, without the slashes between the two. -/
def folder (path : List Char) : List Char :=
  let head := (path.reverse.dropWhile (· ≠ '/')).reverse
  if head.all (· = '/') then head else (head.reverse.dropWhile (· = '/')).reverse

/-- The path that is reached from a folder; an absolute path is not affected by the folder. -/
def join (base path : List Char) : List Char :=
  if path.head? = some '/' then path
  else if base.isEmpty || base.getLast? = some '/' then base ++ path
  else base ++ ['/'] ++ path

/-- The number of leading slashes that count: exactly two are kept, more than two are one. -/
def rootSlashes (path : List Char) : Nat :=
  match path.takeWhile (· = '/') with
  | [] => 0
  | [_, _] => 2
  | _ => 1

/-- One more segment on a normalised path, the last segment first: empty and single-dot segments
are dropped, a double dot takes back the segment before it, unless there is none to take back. -/
def pushSegment (rooted : Bool) (segments : List (List Char)) (s : List Char) : List (List Char) :=
  if s = [] || s = ['.'] then segments
  else if s ≠ ['.', '.'] then s :: segments
  else match segments with
    | [] => if rooted then [] else [s]
    | last :: before => if last = ['.', '.'] then s :: segments else before

/-- The path without dot segments and repeated slashes. -/
def normalize (path : List Char) : List Char :=
  let slashes := rootSlashes path
  let segments := (Text.splitOn '/' path).foldl (pushSegment (slashes ≠ 0)) []
  let text := List.replicate slashes '/' ++ Text.joinWith ['/'] segments.reverse
  if text.isEmpty then ['.'] else text

end ApiAtlas.Path
