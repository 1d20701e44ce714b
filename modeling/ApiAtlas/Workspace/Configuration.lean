import ApiAtlas.Json.Parser
import ApiAtlas.Settings.Config
import ApiAtlas.Text.Utf8
import ApiAtlas.Workspace.Basic

/-!
# The configuration in a workspace

A configuration is a file of the workspace, written as JSON. A run finds the one that was asked for,
or the usual one, and takes its settings from there.
-/

set_option autoImplicit false

namespace ApiAtlas.Workspace

/-- The configuration in a file, if the file is there. A text that is not JSON stands for itself,
which is nothing that a configuration may be. -/
def configuration (w : Workspace) (p : FilePath) : Except ConfigProblem (Option Json) :=
  match w.locate p with
  | .error problem => .error (.file problem)
  | .ok none => .ok none
  | .ok (some names) =>
    match w.file? names with
    | none => .error (.file (.isFolder p))
    | some f =>
      match Text.Utf8.decode f.bytes with
      | .error fault => .error (.notText fault)
      | .ok text => .ok (some ((Json.parse? text).getD (.str text)))

/-- The settings of a run in a workspace. -/
def settings (w : Workspace) (asked : Option FilePath) : Except ConfigProblem Settings :=
  Config.load w.whereabouts asked w.configuration

end ApiAtlas.Workspace
