import ApiAtlas.Path.Basic

/-!
# Settings

What a run is told: which files to read, how files map onto the atlas, what to leave out, and
where to write. Every setting has a default.
-/

set_option autoImplicit false

namespace ApiAtlas

/-- How files map onto the atlas: all into one scope, or each into a module of its own. -/
inductive Mode where
  | file
  | modules
  deriving DecidableEq, Repr, Inhabited

/-- The word for a mode. -/
def Mode.word : Mode → String
  | .file => "file"
  | .modules => "modules"

/-- The mode that a word names. -/
def Mode.ofWord? (s : String) : Option Mode :=
  if s = "file" then some .file else if s = "modules" then some .modules else none

/-- What is logged and how. -/
structure LogSettings where
  level : String := "INFO"
  asJson : Bool := false
  deriving DecidableEq, Repr, Inhabited

/-- The settings of a run. -/
structure Settings where
  name : String := "Documentation"
  entryPoints : List FilePath := []
  mode : Mode := .file
  excludePrivate : Bool := false
  excludeNotExported : Bool := false
  excludeExternals : Bool := false
  externalPatterns : List String := []
  out : FilePath := ⟨0, ["docs.json"]⟩
  log : LogSettings := {}
  deriving DecidableEq, Repr, Inhabited

end ApiAtlas
