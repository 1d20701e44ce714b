import ApiAtlas.Conversion.Convert
import ApiAtlas.Text.Glob

/-!
# Converting a program

The files of a program are converted one after the other into one atlas. In file mode their
declarations all go into the project; in modules mode each file becomes a module that holds its
own. Files that a pattern of the settings covers are external.
-/

set_option autoImplicit false

namespace ApiAtlas

/-- Whether a file is external by the settings. -/
def Settings.coversFile (settings : Settings) (file : String) : Bool :=
  settings.externalPatterns.any fun pattern => Text.Glob.covers pattern file

namespace Source.File

/-- Whether a file is external, by itself or by the settings. -/
def isExternalIn (f : Source.File) (settings : Settings) : Bool :=
  f.isExternal || settings.coversFile f.name

/-- Whether the settings let a file in. -/
def isWantedIn (f : Source.File) (settings : Settings) : Bool :=
  !(f.isExternalIn settings && settings.excludeExternals)

/-- A file as the declaration of a module. -/
def toModule (f : Source.File) : Source.Decl :=
  let name := match f.moduleName with
    | some n => if n.isEmpty then "\"" ++ f.name ++ "\"" else n
    | none => "\"" ++ f.name ++ "\""
  let symbol := match f.moduleSymbol with
    | some s => if s.isEmpty then name else s
    | none => name
  { kind := .module, name := some name, symbol := some symbol, children := f.decls,
    modifiers := ["export"], comment := f.comment, file := some f.name, line := some 1 }

/-- The declarations that a file contributes to the project. -/
def topDecls (f : Source.File) (mode : Mode) : List Source.Decl :=
  match mode with
  | .file => f.decls
  | .modules => [f.toModule]

end Source.File

namespace Conv

/-- Converts a file, and notes which entries came from it. -/
def convertFile (settings : Settings) (f : Source.File) : Conv Unit := do
  if f.isWantedIn settings then
    let site : Site :=
      { scope := Atlas.root, file := some f.name, external := f.isExternalIn settings,
        settings := settings }
    let converted ← convertDecls site (f.topDecls settings.mode)
    change fun a => converted.foldl (fun a id => a.noteFile f.name id) a

/-- Converts files in order. -/
def convertFiles (settings : Settings) (files : List Source.File) : Conv Unit :=
  files.forM (convertFile settings)

end Conv

namespace Draft

/-- The draft before any file is converted. -/
def start (settings : Settings) : Draft :=
  ⟨Atlas.create settings.name, #[]⟩

/-- The atlas of a program before it is resolved, with the problems met on the way. -/
def ofFiles (settings : Settings) (files : List Source.File) : Draft :=
  ((Conv.convertFiles settings files).run (start settings)).2

/-- The declarations that converting a program visits, in order. -/
def visits (settings : Settings) (files : List Source.File) : List Visit :=
  (Conv.convertFiles settings files).visited (start settings)

/-- All drafts from the first to the last, one after each change. -/
def states (settings : Settings) (files : List Source.File) : List Draft :=
  start settings :: (Conv.convertFiles settings files).passed (start settings)

end Draft

end ApiAtlas
