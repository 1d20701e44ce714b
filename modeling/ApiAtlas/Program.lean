import ApiAtlas.Conversion.Program
import ApiAtlas.Resolution.Basic
import ApiAtlas.Settings.Config
import ApiAtlas.Source.Inheritance
import ApiAtlas.Source.Reading.Program
import ApiAtlas.Workspace.Discovery

/-!
# From a program to its atlas

A program is read from its documents and gets the members that its classes inherit; then its files
are converted, and what they refer to is resolved.
-/

set_option autoImplicit false

namespace ApiAtlas

/-- Why a run ends early. -/
inductive Problem where
  | refused (reason : Refusal)
  | badConfig (problem : ConfigProblem)
  | badSpan (fault : Text.Utf8.Fault)
  | noReader (language : String)
  | file (problem : FileProblem)
  deriving DecidableEq, Repr

/-- A failure as a problem. -/
def Problem.ofFailure (f : Failure) : Problem :=
  .refused (.failure f)

/-- What keeps files from being opened, as a problem. -/
def Problem.ofOpening : OpenProblem → Problem
  | .failure f => .ofFailure f
  | .file problem => .file problem

/-- The failure that a problem is, if it is one that is reported by its code. -/
def Problem.failure? : Problem → Option Failure
  | .refused (.failure f) => some f
  | .badConfig (.failure f) => some f
  | _ => none

namespace Program

/-- The language that programs are written in. -/
def language : String :=
  "typescript"

/-- The files of a program with the members that its classes inherit. -/
def read (mode : Mode) (ds : List Source.Document) :
    Except Text.Utf8.Fault (List Source.File) :=
  (fun files => (Source.inheritMembers files).1) <$> Source.readDocuments mode ds

/-- The atlas of some files, as it was converted and as it is after resolution; there must be a
file. -/
def convert (settings : Settings) (files : List Source.File) :
    Except Refusal (Draft × Resolved) :=
  if files.isEmpty then .error (.failure .noInput)
  else
    let draft := Draft.ofFiles settings files
    match draft.atlas.resolve.2 with
    | .ok resolved => .ok (draft, resolved)
    | .error refusal => .error refusal

/-- The files of the program in a workspace. -/
def readPaths (w : Workspace) (mode : Mode) (entries : List FilePath) (base : Option FilePath) :
    Except Problem (List Source.File) := do
  match w.documents entries base with
  | .error problem => throw (.ofOpening problem)
  | .ok ds =>
    match read mode ds with
    | .error fault => throw (.badSpan fault)
    | .ok files => return files

/-- The atlas of the program in a workspace: that of the given paths, or of the entry points of the
settings. `readers` are the languages that can be read. -/
def convertPaths (w : Workspace) (readers : List String) (settings : Settings)
    (paths : List FilePath) : Except Problem (Draft × Resolved) := do
  let entries := if paths.isEmpty then settings.entryPoints else paths
  if entries.isEmpty then throw (.ofFailure .noInput)
  if !readers.contains language then throw (.noReader language)
  let files ← readPaths w settings.mode entries none
  match convert settings files with
  | .error refusal => throw (.refused refusal)
  | .ok made => return made

end Program

end ApiAtlas
