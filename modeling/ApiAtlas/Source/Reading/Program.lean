import ApiAtlas.Source.Reading.Statements

/-!
# Reading a program

The files of a program are read twice. The first reading finds what they declare and import; the
second binds every name in a type by that, so that the order of the files does not matter.
-/

set_option autoImplicit false

namespace ApiAtlas.Source

namespace Reading

/-- The file that a page holds, with its declarations under its module if it is one. -/
def readFile (page : Page) (tree : SyntaxTree) : Reading File := do
  let owner ← match page.mode with
    | .file => pure ""
    | .modules => declare (Naming.moduleSymbol page.name)
  let module :=
    match page.mode with
    | .file => none
    | .modules => some owner
  let scopes := if owner.isEmpty then [""] else [owner, ""]
  let decls ← readStatements ⟨page, owner, scopes⟩ none tree.children
  return { name := page.name, decls := dropImplementations decls, moduleName := module,
           moduleSymbol := module, comment := ← fileComment page tree.children }

end Reading

/-- The page of a document. -/
def Document.page (d : Document) (mode : Mode) (bind : List String → String → String) : Page :=
  ⟨d.name, d.text.toUTF8.toList, mode, bind⟩

/-- What one document declares and imports, and the names that it binds. -/
def Document.notes (mode : Mode) (d : Document) : Except Text.Utf8.Fault Notes :=
  (·.2) <$> (Reading.readFile (d.page mode fun _ name => name) d.tree).run {}

/-- The names that a document mentions, with its imports. -/
def Notes.pending (n : Notes) : List Mention :=
  n.mentions.map fun m => ⟨some m.2, m.1, n.imports⟩

/-- The symbols that the files of a program declare and the names that they mention. -/
def Binder.ofNotes (notes : List Notes) : Binder :=
  let declared := (notes.flatMap (·.declared)).foldl Binder.declare {}
  { declared with pending := notes.flatMap Notes.pending }

/-- A document read with every name bound. -/
def Document.read (mode : Mode) (declared : List String) (d : Document) (notes : Notes) :
    Except Text.Utf8.Fault File :=
  let bind (scopes : List String) (name : String) : String :=
    ((Mention.mk (some name) scopes notes.imports).symbol declared).getD name
  (·.1) <$> (Reading.readFile (d.page mode bind) d.tree).run {}

/-- The files of a program as they are written. -/
def readDocuments (mode : Mode) (ds : List Document) : Except Text.Utf8.Fault (List File) := do
  let notes ← ds.mapM (Document.notes mode)
  let declared := (Binder.ofNotes notes).declared
  (ds.zip notes).mapM fun d => d.1.read mode declared d.2

end ApiAtlas.Source
