import ApiAtlas.Path.Lexical
import ApiAtlas.Settings.Basic

/-!
# Names and symbols

How symbols are made of names: a name in a scope, a member of its owner, the module of a file, and
the module that an import means.
-/

set_option autoImplicit false

namespace ApiAtlas.Source.Naming

open Text (startsWith endsWith dropEnding)

/-- The endings of files that only declare. -/
def declarationEndings : List String :=
  [".d.ts", ".d.mts", ".d.cts"]

/-- The endings of files that can be read. -/
def endings : List String :=
  [".ts", ".tsx", ".mts", ".cts"]

/-- Whether a file can be read, by its name. -/
def isReadable (fileName : String) : Bool :=
  endings.any fun e => endsWith e.toList fileName.toList

/-- The file name without its ending. The longer endings of declaration files come first. -/
def modulePath (fileName : List Char) : List Char :=
  match (declarationEndings ++ endings).find? fun e => endsWith e.toList fileName with
  | some e => dropEnding e.toList fileName
  | none => fileName

/-- A text in double quotes. -/
def inQuotes (s : String) : String :=
  "\"" ++ s ++ "\""

/-- Single, double and back quotes. -/
def quoteMarks : List Char :=
  ['\'', '"', Char.ofNat 96]

/-- The text without the quotes around it. -/
def unquote (s : String) : String :=
  match s.toList with
  | first :: second :: rest =>
    if quoteMarks.contains first && (second :: rest).getLast? == some first then
      String.ofList (second :: rest).dropLast
    else s
  | _ => s

/-- The symbol of a name in a scope; the outermost scope has no name. -/
def inScope (scope name : String) : String :=
  if scope.isEmpty then name else scope ++ "." ++ name

/-- The symbol of a member of an owner: static members follow a point, others a hash. -/
def memberSymbol (owner name : String) (isStatic : Bool) : String :=
  owner ++ (if isStatic then "." else "#") ++ name

/-- The symbol of the module that is a file. -/
def moduleSymbol (fileName : String) : String :=
  inQuotes (String.ofList (modulePath fileName.toList))

/-- The symbol of an inline object type, by the place where it is written. -/
def literalSymbol (owner : String) (start : Nat) : String :=
  owner ++ ":__type@" ++ toString start

/-- The symbol of the module that an import names: relative ones are found from the folder of the
importing file. Without modules everything imported is in the outermost scope. -/
def importTarget (mode : Mode) (fileName specifier : String) : String :=
  match mode with
  | .file => ""
  | .modules =>
    let cs := specifier.toList
    if startsWith ['.'] cs then
      let base := Path.folder (modulePath fileName.toList)
      inQuotes (String.ofList (Path.normalize (Path.join base (modulePath cs))))
    else inQuotes specifier

end ApiAtlas.Source.Naming
