import ApiAtlas.Path.Lexical

/-!
# File paths

A path as its root and its names, the form in which files are found, compared and printed. Empty
and single-dot segments are not part of a path; a double dot is, until the path is made absolute.
-/

set_option autoImplicit false

namespace ApiAtlas

/-- A path: the number of slashes it starts with, and its names. -/
structure FilePath where
  root : Nat
  names : List String
  deriving DecidableEq, Repr, Inhabited

/-- Who the home folders belong to: one for the user, and those of other accounts by name. -/
structure Homes where
  own : FilePath
  others : List (String × FilePath)
  deriving Repr, Inhabited

/-- Where a run takes place: the current folder and the home folders. -/
structure Whereabouts where
  cwd : FilePath
  homes : Homes
  deriving Repr, Inhabited

namespace FilePath

/-- The path that a text writes. -/
def parse (s : String) : FilePath :=
  let cs := s.toList
  ⟨Path.rootSlashes cs,
    ((Text.splitOn '/' cs).filter fun n => n ≠ [] && n ≠ ['.']).map String.ofList⟩

/-- The text of a path. -/
def toString (p : FilePath) : String :=
  if p.root = 0 && p.names.isEmpty then "."
  else String.ofList (List.replicate p.root '/') ++ String.intercalate "/" p.names

/-- The last name of a path. -/
def name (p : FilePath) : String :=
  p.names.getLast?.getD ""

/-- The path without its last name. -/
def parent (p : FilePath) : FilePath :=
  ⟨p.root, p.names.dropLast⟩

/-- The path that is reached from a folder. -/
def append (base p : FilePath) : FilePath :=
  if p.root = 0 then ⟨base.root, base.names ++ p.names⟩ else p

/-- The names with every double dot taking back the name before it; above the root there is
nothing to take back. -/
def dropDots (names : List String) : List String :=
  (names.foldl (fun kept n => if n = ".." then kept.tail else n :: kept) []).reverse

/-- The path made absolute from the current folder, without double dots. -/
def resolve (p cwd : FilePath) : FilePath :=
  ⟨1, dropDots (cwd.append p).names⟩

/-- The path as it is reached from a folder that holds it, if the folder does. -/
def relativeTo? (p base : FilePath) : Option FilePath :=
  if p.root = base.root && base.names.isPrefixOf p.names then
    some ⟨0, p.names.drop base.names.length⟩
  else none

/-- The path with a leading tilde replaced by the home folder that it names; nothing if there is
no such folder. -/
def expandHome? (homes : Homes) (p : FilePath) : Option FilePath :=
  if p.root ≠ 0 then some p
  else match p.names with
    | [] => some p
    | first :: rest =>
      match first.toList with
      | '~' :: account =>
        let home? :=
          if account.isEmpty then some homes.own
          else (homes.others.find? fun h => h.1 == String.ofList account).map (·.2)
        home?.map fun home => ⟨home.root, home.names ++ rest⟩
      | _ => some p

/-- The names that two lists start with in common. -/
def commonNames : List String → List String → List String
  | a :: as, b :: bs => if a = b then a :: commonNames as bs else []
  | _, _ => []

/-- The deepest folder that holds all of some absolute paths. -/
def commonFolder : List FilePath → FilePath
  | [] => ⟨1, []⟩
  | p :: ps => ps.foldl (fun common q => ⟨common.root, commonNames common.names q.names⟩) p

/-- Order of paths by their names, one after the other, by code point. -/
def namesLe : List String → List String → Bool
  | [], _ => true
  | _ :: _, [] => false
  | a :: as, b :: bs => if a = b then namesLe as bs else decide (a < b)

end FilePath

end ApiAtlas
