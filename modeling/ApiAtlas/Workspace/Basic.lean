import ApiAtlas.Path.Problem
import ApiAtlas.Source.SyntaxTree

/-!
# Workspaces

The folders and files that a run sees, and where it stands among them. A path is followed name by
name, so that a double dot after a name that is not there leads nowhere. Files carry the syntax
trees of their texts.
-/

set_option autoImplicit false

namespace ApiAtlas

/-- A file with its bytes and the syntax tree of its text. -/
structure StoredFile where
  names : List String
  bytes : List UInt8
  tree : Source.SyntaxTree := default
  deriving Inhabited

/-- Folders and files, by their names from the root on. Folders on the way to others need not be
listed. -/
structure Workspace where
  whereabouts : Whereabouts
  folders : List (List String) := []
  files : List StoredFile := []
  deriving Inhabited

namespace Workspace

/-- The file under some names. -/
def file? (w : Workspace) (names : List String) : Option StoredFile :=
  w.files.find? fun f => f.names = names

/-- Whether some names lead to a folder. -/
def isFolder (w : Workspace) (names : List String) : Bool :=
  names.isPrefixOf w.whereabouts.cwd.names ||
    w.folders.any (fun f => names.isPrefixOf f) ||
    w.files.any fun f => names.isPrefixOf f.names && names != f.names

/-- The names reached from a folder by the names that are left of a path; nothing if there is no
such folder or file. -/
def follow (w : Workspace) (p : FilePath) (here : List String) :
    List String → Except FileProblem (Option (List String))
  | [] => .ok (some here)
  | name :: rest =>
    let next := here ++ [name]
    if !w.isFolder here then .ok none
    else if FilePath.isLongName name then .error (.tooLong p)
    else if name = ".." then w.follow p here.dropLast rest
    else if w.isFolder next || (w.file? next).isSome then w.follow p next rest
    else .ok none

/-- The names of the folder or file that a path leads to. -/
def locate (w : Workspace) (p : FilePath) : Except FileProblem (Option (List String)) :=
  if p.hasNull then .ok none
  else if p.isLong then .error (.tooLong p)
  else w.follow p [] (w.whereabouts.cwd.append p).names

/-- The files below a folder, by their names from there on. -/
def below (w : Workspace) (folder : List String) : List (List String) :=
  w.files.filterMap fun f =>
    if folder.isPrefixOf f.names && f.names != folder then some (f.names.drop folder.length)
    else none

/-- Whether a name on the way to some names is that of a file. -/
def isBlocked (w : Workspace) (names : List String) : Bool :=
  w.files.any fun f => f.names.isPrefixOf names && f.names != names

/-- The workspace after a file is written; missing folders are made. -/
def write (w : Workspace) (p : FilePath) (bytes : List UInt8) : Except FileProblem Workspace :=
  let names := (p.resolve w.whereabouts.cwd).names
  let folder := names.dropLast
  if p.isLong || names.any FilePath.isLongName then .error (.tooLong p)
  else if w.isBlocked folder then .error (.notFolder p.parent)
  else if (w.file? folder).isSome then .error (.taken p.parent)
  else if w.isFolder names then .error (.isFolder p)
  else
    let kept := w.files.filter fun f => f.names != names
    .ok { w with files := kept ++ [{ names := names, bytes := bytes }] }

end Workspace

end ApiAtlas
