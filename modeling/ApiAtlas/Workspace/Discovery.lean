import ApiAtlas.Report.Diagnostic
import ApiAtlas.Source.Naming
import ApiAtlas.Source.Reading.Program
import ApiAtlas.Text.Lines
import ApiAtlas.Workspace.Basic

/-!
# Finding and opening the files of a program

A run is given files and folders. A folder stands for the readable files below it, in the order of
their names; what lies in a folder of installed packages is left out, and no file comes twice.
Files are named from the folder that holds all of them.
-/

set_option autoImplicit false

namespace ApiAtlas

/-- Why files cannot be opened: the run fails, or the file system refuses a path. -/
inductive OpenProblem where
  | failure (reason : Failure)
  | file (problem : FileProblem)
  deriving DecidableEq, Repr, Inhabited

namespace Workspace

/-- The folder of installed packages, which are not part of a program. -/
def packages : String :=
  "node_modules"

/-- The paths that an entry point stands for: those of the readable files below a folder in the
order of their names, or the file itself. -/
def entryPaths (w : Workspace) (entry : FilePath) (names : List String) : List FilePath :=
  if w.isFolder names then
    let readable := (w.below names).filter fun n => Source.Naming.isReadable (n.getLast?.getD "")
    (readable.mergeSort FilePath.namesLe).map fun n => entry.append ⟨0, n⟩
  else [entry]

/-- The files that an entry point stands for, as absolute paths. -/
def entryFiles (w : Workspace) (entry : FilePath) : Except OpenProblem (List FilePath) :=
  match w.locate entry with
  | .error problem => .error (.file problem)
  | .ok none => .error (.failure (.unreadable entry.toString "no such file or directory"))
  | .ok (some names) =>
    let wanted := (w.entryPaths entry names).filter fun p => !p.names.contains packages
    .ok (wanted.map fun p => p.resolve w.whereabouts.cwd)

/-- The files that some entry points stand for, each once. -/
def discover (w : Workspace) (entries : List FilePath) : Except OpenProblem (List FilePath) := do
  let found ← entries.mapM w.entryFiles
  return found.flatten.foldl (fun kept p => if kept.contains p then kept else kept ++ [p]) []

/-- The name under which a file is shown: from the base folder on if it is in there. -/
def displayName (w : Workspace) (base p : FilePath) : String :=
  ((p.relativeTo? (base.resolve w.whereabouts.cwd)).getD p).toString

/-- A file as a document, with every line ended by a line feed. -/
def openFile (w : Workspace) (base p : FilePath) : Except OpenProblem Source.Document :=
  match w.file? p.names with
  | none => .error (.failure (.unreadable p.toString "no such file or directory"))
  | some f =>
    match Text.Utf8.decode f.bytes with
    | .error fault => .error (.failure (.unreadable p.toString fault.message))
    | .ok text =>
      .ok { name := w.displayName base p
            text := String.ofList (Text.unifyLineEnds text.toList), tree := f.tree }

/-- The documents that some entry points stand for; there must be one. They are named from a given
base folder, or from the deepest one that holds them all. -/
def documents (w : Workspace) (entries : List FilePath) (base : Option FilePath) :
    Except OpenProblem (List Source.Document) := do
  let found ← w.discover entries
  if found.isEmpty then throw (.failure .noInput)
  let common := FilePath.commonFolder (found.map FilePath.parent)
  found.mapM (w.openFile (base.getD common))

end Workspace

end ApiAtlas
