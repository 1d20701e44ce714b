import ApiAtlas.Json.Shown
import ApiAtlas.Path.Problem
import ApiAtlas.Report.Diagnostic
import ApiAtlas.Settings.Basic
import ApiAtlas.Text.Utf8

/-!
# Settings from a configuration

A configuration is data: an object whose fields are settings. Fields that no setting is named for
are ignored, and nothing at all means the defaults. The fields are checked in the order of the
settings. The first wrong one is the problem that is reported, but only at the end, since a path
that is not even a text ends the check at once.
-/

set_option autoImplicit false

namespace ApiAtlas

/-- Why a configuration gives no settings. -/
inductive ConfigProblem where
  | failure (reason : Failure)
  | notIterable (type : String)
  | notPath (type : String)
  | noHome
  | nullCharacter
  | file (problem : FileProblem)
  | notText (fault : Text.Utf8.Fault)
  deriving DecidableEq, Repr

/-- The wording of a problem. -/
def ConfigProblem.message : ConfigProblem → String
  | .failure reason => reason.diagnostic.text
  | .notIterable type => "'" ++ type ++ "' object is not iterable"
  | .notPath type => "expected str, bytes or os.PathLike object, not " ++ type
  | .noHome => "Could not determine home directory."
  | .nullCharacter => "embedded null byte"
  | .file problem => problem.message
  | .notText fault => fault.message

/-- The path with a leading tilde replaced by a home folder. No account has a null character in its
name. -/
def Whereabouts.expand (w : Whereabouts) (p : FilePath) : Except ConfigProblem FilePath :=
  match p.expandHome? w.homes with
  | some p => .ok p
  | none =>
    let account : FilePath := ⟨0, p.names.take 1⟩
    .error (if account.hasNull then .nullCharacter else .noHome)

/-- The path made absolute, with a leading tilde replaced. -/
def Whereabouts.absolute (w : Whereabouts) (p : FilePath) : Except ConfigProblem FilePath := do
  return (← w.expand p).resolve w.cwd

namespace Config

/-- A check of a configuration: it keeps the first wrong field that it has met. -/
abbrev Check := StateT (Option Failure) (Except ConfigProblem)

/-- Notes a wrong field, unless another was wrong before it, and goes on with a default. -/
def wrong {α : Type} (field reason : String) (default : α) : Check α := do
  modify fun first => first.or (some (.badValue field reason))
  return default

/-- A field of an object, checked if it is there. -/
def setting {α : Type} (config : Json) (key : String) (default : α) (check : Json → Check α) :
    Check α :=
  match config.get? key with
  | some value => check value
  | none => return default

/-- A text. -/
def text (field : String) (default : String) : Json → Check String
  | .str s => return s
  | _ => wrong field "Input should be a valid string" default

/-- What the words for a truth value mean, in any letter case. -/
def truthWord? (s : String) : Option Bool :=
  let word := s.toLower
  if ["0", "off", "f", "false", "n", "no"].contains word then some false
  else if ["1", "on", "t", "true", "y", "yes"].contains word then some true
  else none

/-- The size of the numbers that no longer fit into a machine word, two to the power of 63. -/
def wordBound : Int := 0x8000000000000000

/-- The whole number that a number is, if it is one and fits into a machine word. Of the two ends of
the range, the lower one fits only as an integer. -/
def whole? : Json → Option Int
  | .int n => if -wordBound ≤ n && n < wordBound then some n else none
  | .decimal m e =>
    let unit := Nat.pow 10 e
    let n := m / unit
    if m % unit = 0 && -wordBound < n && n < wordBound then some n else none
  | _ => none

/-- A truth value: written as one, as a number or as a word. -/
def truth (field : String) (default : Bool) (value : Json) : Check Bool :=
  let unclear : Check Bool :=
    wrong field "Input should be a valid boolean, unable to interpret input" default
  match value with
  | .bool b => return b
  | .str s =>
    match truthWord? s with
    | some b => return b
    | none => unclear
  | other =>
    match whole? other with
    | some n => if n = 0 then return false else if n = 1 then return true else unclear
    | none => wrong field "Input should be a valid boolean" default

/-- A mode. -/
def mode (field : String) (default : Mode) (value : Json) : Check Mode :=
  let word :=
    match value with
    | .str s => Mode.ofWord? s
    | _ => none
  match word with
  | some m => return m
  | none => wrong field "Input should be 'file' or 'modules'" default

/-- A path, with a leading tilde replaced. -/
def path (w : Whereabouts) : Json → Except ConfigProblem FilePath
  | .str s => w.expand (FilePath.parse s)
  | other => .error (.notPath other.typeName)

/-- A list of paths. A single text is one path, and an object stands for its keys. -/
def paths (w : Whereabouts) : Json → Except ConfigProblem (List FilePath)
  | .str s => do return [← path w (.str s)]
  | .arr items => items.mapM (path w)
  | .obj fields => fields.mapM fun f => path w (.str f.1)
  | other => .error (.notIterable other.typeName)

/-- A path made absolute. No file has a name with a null character in it. -/
def absolutePath (w : Whereabouts) (value : Json) : Except ConfigProblem FilePath := do
  let p ← path w value
  if p.hasNull then throw .nullCharacter else return p.resolve w.cwd

/-- What a field with paths says. A null character makes the field wrong, any other problem ends
the check. -/
def placed {α : Type} (field : String) (default : α) : Except ConfigProblem α → Check α
  | .ok value => return value
  | .error .nullCharacter =>
    wrong field ("Value error, " ++ ConfigProblem.message .nullCharacter) default
  | .error problem => throw problem

/-- The items of a list of texts; `i` is the position of the first of them. -/
def textItems (field : String) (i : Nat) : List Json → Check (List String)
  | [] => return []
  | item :: items => do
    let first ← text (field ++ "." ++ toString i) "" item
    return first :: (← textItems field (i + 1) items)

/-- A list of texts. -/
def texts (field : String) : Json → Check (List String)
  | .arr items => textItems field 0 items
  | _ => wrong field "Input should be a valid list" []

/-- What is logged and how. -/
def logSettings (field : String) (default : LogSettings) : Json → Check LogSettings
  | .obj fields => do
    let config := Json.obj fields
    let level ← setting config "level" default.level (text (field ++ ".level") default.level)
    let asJson ← setting config "json_format" default.asJson
      (truth (field ++ ".json_format") default.asJson)
    return { level := level, asJson := asJson }
  | _ =>
    wrong field "Input should be a valid dictionary or instance of LoggingSettings" default

/-- The settings of a configuration, each checked in turn. -/
def settings (w : Whereabouts) (config : Json) : Check Settings := do
  let d : Settings := {}
  let name ← setting config "name" d.name (text "name" d.name)
  let entryPoints ← setting config "entry_points" d.entryPoints fun value =>
    placed "entry_points" d.entryPoints (paths w value)
  let mode ← setting config "mode" d.mode (mode "mode" d.mode)
  let excludePrivate ← setting config "exclude_private" false (truth "exclude_private" false)
  let excludeNotExported ←
    setting config "exclude_not_exported" false (truth "exclude_not_exported" false)
  let excludeExternals ←
    setting config "exclude_externals" false (truth "exclude_externals" false)
  let externalPatterns ←
    setting config "external_patterns" d.externalPatterns (texts "external_patterns")
  let usual := d.out.resolve w.cwd
  let out ← setting config "out" usual fun value => placed "out" usual (absolutePath w value)
  let log ← setting config "logging" d.log (logSettings "logging" d.log)
  return { name := name, entryPoints := entryPoints, mode := mode,
           excludePrivate := excludePrivate, excludeNotExported := excludeNotExported,
           excludeExternals := excludeExternals, externalPatterns := externalPatterns,
           out := out, log := log }

/-- The settings of the configuration at a path. -/
def read (w : Whereabouts) (file : FilePath) (config : Json) :
    Except ConfigProblem Settings := do
  let fields ←
    match config with
    | .obj fields => pure (Json.obj fields)
    | other =>
      if other.isNothing then pure (Json.obj [])
      else throw (.failure (.badConfig file.toString "top level must be a mapping"))
  match ← (settings w fields).run none with
  | (_, some failure) => throw (.failure failure)
  | (s, none) => return s

/-- The file that a configuration is in when no other is asked for. -/
def usualFile : FilePath :=
  ⟨0, ["docgraph.yaml"]⟩

/-- The settings of a run; `find` looks for the configuration in a file. A configuration that was
asked for must be there; the usual one need not. -/
def load (w : Whereabouts) (asked : Option FilePath)
    (find : FilePath → Except ConfigProblem (Option Json)) : Except ConfigProblem Settings := do
  let file := asked.getD usualFile
  match ← find file, asked with
  | some config, _ => read w file config
  | none, some _ => throw (.failure (.badConfig file.toString "file does not exist"))
  | none, none => read w file .null

end Config

end ApiAtlas
