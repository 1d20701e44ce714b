import ApiAtlas.Cli.Arguments
import ApiAtlas.Cli.Screen
import ApiAtlas.Json.Printer
import ApiAtlas.Output.Outline
import ApiAtlas.Output.SearchIndex
import ApiAtlas.Output.Written
import ApiAtlas.Program
import ApiAtlas.Workspace.Configuration

/-!
# Runs

A run carries out what a command line asks for in a workspace. It ends with an exit code, what the
screen shows, and the workspace with the files that it has written. Failures with a code are shown
and end the run; any other problem ends it without a word.
-/

set_option autoImplicit false

namespace ApiAtlas.Cli

/-- What a run leaves. -/
structure Outcome where
  exit : Nat := 0
  screen : List ScreenLine := []
  workspace : Workspace
  deriving Inhabited

/-- Why a run stops before its end: with something to show, or without a word. -/
inductive Halt where
  | shown (markup : String)
  | silent

/-- A step of a run. -/
abbrev Run := ExceptT Halt (StateM Outcome)

namespace Run

/-- Stops with a problem. -/
def stop {α : Type} (p : Problem) : Run α :=
  match p.failure? with
  | some f =>
    let d := f.diagnostic
    throw (.shown ("[red]" ++ d.code.name ++ ":[/red] " ++ d.message))
  | none => throw .silent

/-- A result, or the stop with its problem. -/
def orStop {α ε : Type} (problem : ε → Problem) : Except ε α → Run α
  | .ok x => pure x
  | .error e => stop (problem e)

/-- Shows lines, if there is nothing wrong with them. -/
def showLines (lines : Option (List ScreenLine)) : Run Unit :=
  match lines with
  | some lines => modify fun o => { o with screen := o.screen ++ lines }
  | none => throw .silent

/-- Shows text. -/
def say (markup : String) : Run Unit :=
  showLines (textLines? markup)

/-- Shows a table. -/
def showGrid (g : Grid) : Run Unit :=
  showLines g.lines?

end Run

/-- The settings of a run: those of its configuration, changed by the command line. -/
def resolveSettings (r : Request) : Run Settings := do
  let w := (← get).workspace
  let loaded ← Run.orStop .badConfig (w.settings r.config)
  let entryPoints ← r.paths.mapM fun p => Run.orStop .badConfig (w.whereabouts.expand p)
  let placed :=
    if entryPoints.isEmpty then loaded else { loaded with entryPoints := entryPoints }
  let moded ←
    match r.mode.filter fun m => !m.isEmpty with
    | none => pure placed
    | some word =>
      match Mode.ofWord? word with
      | some m => pure { placed with mode := m }
      | none =>
        throw (.shown
          ("[red]Unknown mode:[/red] " ++ word ++ " (expected 'file' or 'modules')"))
  match r.command, r.out with
  | .convert, some out =>
    return { moded with out := ← Run.orStop .badConfig (w.whereabouts.absolute out) }
  | _, _ => return moded

/-- Converts what the settings name. -/
def convertAll (settings : Settings) : Run (Draft × Resolved) := do
  let w := (← get).workspace
  Run.orStop id (Program.convertPaths w [Program.language] settings [])

/-- Writes a value to a file. -/
def writeJson (p : FilePath) (value : Json) : Run Unit := do
  let w := (← get).workspace
  let text := value.print ++ "\n"
  let written ← Run.orStop .file (w.write p text.toUTF8.toList)
  modify fun o => { o with workspace := written }

/-- The cells that show a problem. -/
def diagnosticCells (d : Diagnostic) : List String :=
  [d.code.name, d.message,
    match d.file? with
    | some (.str file) => file
    | _ => ""]

/-- Shows the problems met on the way, if there are any. -/
def showDiagnostics (ds : List Diagnostic) : Run Unit := do
  if !ds.isEmpty then
    Run.showGrid
      { title := toString ds.length ++ " diagnostics", columns := ["Code", "Message", "File"]
        rows := ds.map diagnosticCells }

/-- The problems met in conversion and in resolution. -/
def allDiagnostics (d : Draft) (r : Resolved) : List Diagnostic :=
  d.diagnostics.toList ++ r.diagnostics

/-- Converts a program and writes its atlas. -/
def runConvert (settings : Settings) : Run Unit := do
  let (d, r) ← convertAll settings
  let data ← Run.orStop (fun m => .refused (.misuse m)) r.toJson
  writeJson settings.out data
  showDiagnostics (allDiagnostics d r)
  Run.say ("[green]Wrote[/green] " ++ settings.out.toString ++ " (" ++ toString r.atlas.size ++
    " reflections, " ++ toString r.unresolved.length ++ " unresolved references)")

/-- Shows the declarations of a program. -/
def runOutline (settings : Settings) : Run Unit := do
  let (d, r) ← convertAll settings
  let rows ← Run.orStop (fun m => .refused (.misuse m)) r.atlas.outline
  if rows.isEmpty then Run.say "[yellow]No declarations found[/yellow]"
  else
    Run.showGrid
      { title := settings.name, columns := ["Path", "Kind", "Signatures"]
        rows := rows.map fun row =>
          [row.path, row.kind, if row.signatures = 0 then "" else toString row.signatures] }
    showDiagnostics (allDiagnostics d r)

/-- Writes the search index of a program. -/
def runSearchIndex (settings : Settings) (out : Option FilePath) : Run Unit := do
  let (_, r) ← convertAll settings
  let rows ← Run.orStop (fun m => .refused (.misuse m)) r.atlas.searchIndex
  let w := (← get).workspace
  let path ←
    Run.orStop .badConfig (w.whereabouts.absolute (out.getD ⟨0, ["search.json"]⟩))
  writeJson path (.arr (rows.map fun row => row.toJson))
  Run.say ("[green]Wrote[/green] " ++ path.toString ++ " (" ++ toString rows.length ++ " entries)")

/-- Carries out a request. -/
def carryOut (r : Request) : Run Unit := do
  let settings ← resolveSettings r
  match r.command with
  | .convert => runConvert settings
  | .outline => runOutline settings
  | .searchIndex => runSearchIndex settings r.out

/-- The outcome of a command line in a workspace. -/
def run (w : Workspace) (words : List String) : Outcome :=
  match Request.ofWords? words with
  | none => { exit := 2, workspace := w }
  | some request =>
    match (carryOut request).run { workspace := w } with
    | (.ok _, o) => o
    | (.error .silent, o) => { o with exit := 1 }
    | (.error (.shown markup), o) =>
      { o with exit := 1, screen := o.screen ++ (textLines? markup).getD [] }

end ApiAtlas.Cli
