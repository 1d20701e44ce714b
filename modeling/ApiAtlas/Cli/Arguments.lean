import ApiAtlas.Path.Problem
import ApiAtlas.Text.Pieces

/-!
# Arguments

The words of a command line: a command, the paths that it works on, and options among them. An
option takes the word after it, or what is written in one word with it: behind an equals sign for
a long option, directly for a short one. After a double dash every word is a path.
-/

set_option autoImplicit false

namespace ApiAtlas.Cli

/-- What a run is asked to do. -/
inductive Command where
  | convert
  | outline
  | searchIndex
  deriving DecidableEq, Repr, Inhabited

/-- The command with a name. -/
def Command.ofWord? (s : String) : Option Command :=
  if s = "convert" then some .convert
  else if s = "outline" then some .outline
  else if s = "search-index" then some .searchIndex
  else none

/-- An option of a command. -/
inductive Setting where
  | config
  | out
  | mode
  deriving DecidableEq, Repr, Inhabited

/-- What a command line asks for. -/
structure Request where
  command : Command
  paths : List FilePath := []
  config : Option FilePath := none
  out : Option FilePath := none
  mode : Option String := none
  deriving DecidableEq, Repr, Inhabited

namespace Request

/-- The request with an option given. -/
def give (r : Request) (o : Setting) (value : String) : Request :=
  match o with
  | .config => { r with config := some (FilePath.parse value) }
  | .out => { r with out := some (FilePath.parse value) }
  | .mode => { r with mode := some value }

/-- The request with one more path. -/
def addPath (r : Request) (path : String) : Request :=
  { r with paths := r.paths ++ [FilePath.parse path] }

end Request

/-- Whether a command has an option; an outline is not written anywhere. -/
def Command.takes (c : Command) (o : Setting) : Bool :=
  o ≠ .out || c ≠ .outline

/-- The option of a command with a long name. -/
def Command.long? (c : Command) (name : String) : Option Setting :=
  ((([("--config", .config), ("--out", .out), ("--mode", .mode)] : List (String × Setting)).lookup
    name).filter c.takes)

/-- The option of a command with a letter. -/
def Command.short? (c : Command) (letter : Char) : Option Setting :=
  ((([('c', .config), ('o', .out), ('m', .mode)] : List (Char × Setting)).lookup letter).filter
    c.takes)

/-- What one word of a command line is. -/
inductive Word where
  | path
  | rest
  | valued (o : Setting) (value : String)
  | awaiting (o : Setting)
  | unknown

/-- What a word is for a command. -/
def Command.classify (c : Command) (word : String) : Word :=
  match word.toList with
  | ['-', '-'] => .rest
  | '-' :: '-' :: more =>
    let (name, value) := Text.cut '=' more
    match c.long? ("--" ++ String.ofList name) with
    | some o => if more.contains '=' then .valued o (String.ofList value) else .awaiting o
    | none => .unknown
  | '-' :: letter :: value =>
    match c.short? letter with
    | some o => if value.isEmpty then .awaiting o else .valued o (String.ofList value)
    | none => .unknown
  | _ => .path

/-- The request of the words after a command; `awaiting` is an option that still needs its value.
There is none if the words are not understood. -/
def readWords? (r : Request) (awaiting : Option Setting) : List String → Option Request
  | [] => if awaiting.isNone then some r else none
  | w :: ws =>
    match awaiting with
    | some o => readWords? (r.give o w) none ws
    | none =>
      match r.command.classify w with
      | .path => readWords? (r.addPath w) none ws
      | .rest => some (ws.foldl Request.addPath r)
      | .valued o value => readWords? (r.give o value) none ws
      | .awaiting o => readWords? r (some o) ws
      | .unknown => none

/-- The paths that a request names. -/
def Request.allPaths (r : Request) : List FilePath :=
  r.paths ++ r.config.toList ++ r.out.toList

/-- What a command line asks for. A path that no file can have is not understood. -/
def Request.ofWords? : List String → Option Request
  | [] => none
  | c :: ws =>
    let request? := (Command.ofWord? c).bind fun c => readWords? { command := c } none ws
    request?.filter fun r => !r.allPaths.any FilePath.hasNull

end ApiAtlas.Cli
