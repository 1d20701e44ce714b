import ApiAtlas.Comment.Parser
import ApiAtlas.Source.Binding
import ApiAtlas.Source.Decl
import ApiAtlas.Source.SyntaxTree
import ApiAtlas.Text.Utf8

/-!
# Reading a syntax tree

What the steps of reading share: the page that is read, the place on it where reading stands, and
the notes that are taken on the way. A step can fail, since the span of a node can cut a character
in two. Names in types are bound by the page; the notes tell which names were met and what the
file declares, so that a first reading can find out what a second one binds to.
-/

set_option autoImplicit false

namespace ApiAtlas.Source

/-- A text with its syntax tree. -/
structure Document where
  name : String
  text : String
  tree : SyntaxTree := default
  deriving Inhabited

/-- A file while it is read: its name, its bytes, how imports are understood, and the symbol of a
name under some scopes. -/
structure Page where
  name : String
  bytes : List UInt8
  mode : Mode
  bind : List String → String → String

/-- A place on a page: the symbol under which declarations get theirs, and the scopes in sight,
innermost first. -/
structure Place where
  page : Page
  owner : String
  scopes : List String

/-- The same place under another owner. -/
def Place.under (p : Place) (owner : String) : Place :=
  { p with owner := owner }

/-- What is noted while a file is read: the symbols declared, the names met in types with the
scopes around them, and the symbols of imported names. -/
structure Notes where
  declared : List String := []
  mentions : List (List String × String) := []
  imports : Table String String := .empty

/-- A step of reading. -/
abbrev Reading := StateT Notes (Except Text.Utf8.Fault)

namespace Reading

open SyntaxTree (at? hasToken)

/-- The text of a node. -/
def textOf (page : Page) (t : SyntaxTree) : Reading String :=
  match Text.Utf8.decodeSlice page.bytes t.start t.stop with
  | .ok s => return s
  | .error fault => throw fault

/-- The text of a node that may be missing. -/
def textOf? (page : Page) (t : Option SyntaxTree) : Reading (Option String) :=
  match t with
  | some t => return some (← textOf page t)
  | none => return none

/-- The text of the node in a field; a missing one says nothing. -/
def textAt (page : Page) (field : String) (ts : List SyntaxTree) : Reading String := do
  return (← textOf? page (at? field ts)).getD ""

/-- Notes a declared symbol. -/
def declare (symbol : String) : Reading String := do
  modify fun n => { n with declared := n.declared ++ [symbol] }
  return symbol

/-- Notes what an imported name stands for. -/
def noteImport (name symbol : String) : Reading Unit :=
  modify fun n => { n with imports := n.imports.put name symbol }

/-- The type that a name stands for. -/
def reference (p : Place) (name : String) : Reading TypeExpr := do
  modify fun n => { n with mentions := n.mentions ++ [(p.scopes, name)] }
  return .ofReference name (some (p.page.bind p.scopes name))

/-- A type that is only known by the text of its node. -/
def unknown (page : Page) (t : SyntaxTree) : Reading TypeExpr := do
  return .ofUnknown (← textOf page t)

/-- The line on which a byte stands, counted from one. -/
def lineOf (bytes : List UInt8) (start : Nat) : Nat :=
  (bytes.take start).count 10 + 1

/-- Whether a comment describes the file as a whole. -/
def isForFile (c : Comment) : Bool :=
  c.hasTag "module" || c.hasTag "packagedocumentation"

/-- The doc comment of a declaration: the comment just before it, unless that describes the
file. -/
def docComment (page : Page) (before : Option SyntaxTree) : Reading (Option Comment) :=
  match before with
  | some t =>
    if t.kind = "comment" then do
      let raw ← textOf page t
      if Text.startsWith "/**".toList raw.toList then
        return (Comment.parse? raw).filter fun c => !isForFile c
      else return none
    else return none
  | none => return none

/-- The comment that describes the file: the first such comment before anything else. -/
def fileComment (page : Page) : List SyntaxTree → Reading (Option Comment)
  | [] => return none
  | t :: ts =>
    if !t.named then fileComment page ts
    else if t.kind ≠ "comment" then return none
    else do
      match (Comment.parse? (← textOf page t)).filter isForFile with
      | some c => return some c
      | none => fileComment page ts

/-- The declaration that a node makes, before what it holds is read. -/
def openDecl (page : Page) (kind : DeclKind) (t : SyntaxTree) (before : Option SyntaxTree)
    (name symbol : Option String) (modifiers : List String) : Reading Decl := do
  let comment ← docComment page before
  return { kind := kind, name := name, symbol := symbol, modifiers := modifiers,
           comment := comment, file := some page.name, line := some (lineOf page.bytes t.start),
           form := some t.kind }

/-- The modifiers with one more. -/
def withModifier (m : String) (ms : List String) : List String :=
  if ms.contains m then ms else ms ++ [m]

/-- The words that stand before a member as bare tokens. -/
def modifierWords : List String :=
  ["static", "readonly", "abstract", "async", "declare"]

/-- The modifiers of a member, read off its children. -/
def readModifiers (page : Page) : List String → List SyntaxTree → Reading (List String)
  | ms, [] => return ms
  | ms, t :: ts => do
    if t.kind = "accessibility_modifier" then
      readModifiers page (withModifier (← textOf page t) ms) ts
    else if t.kind = "override_modifier" then
      readModifiers page (withModifier "override" ms) ts
    else if !t.named && modifierWords.contains t.kind then
      readModifiers page (withModifier t.kind ms) ts
    else if !t.named && t.kind = "?" then
      readModifiers page (withModifier "optional" ms) ts
    else readModifiers page ms ts

/-- The form of a method: tokens make it an accessor, its name a constructor. -/
def methodKind (t : SyntaxTree) (name : String) : DeclKind :=
  if hasToken "get" t.children then .getAccessor
  else if hasToken "set" t.children then .setAccessor
  else if name = "constructor" && t.kind = "method_definition" then .constructor
  else .method

/-- A named member of an owner, before its type or signature is read. -/
def openMember (p : Place) (t : SyntaxTree) (before : Option SyntaxTree)
    (kind : String → DeclKind) : Reading (Decl × String) := do
  let name := Naming.unquote (← textAt p.page "name" t.children)
  let listed ← readModifiers p.page [] t.children
  let modifiers :=
    if t.kind = "abstract_method_signature" then withModifier "abstract" listed else listed
  let symbol ← declare (Naming.memberSymbol p.owner name (modifiers.contains "static"))
  let d ← openDecl p.page (kind name) t before (some name) (some symbol) modifiers
  return (d, symbol)

/-- The name of a parameter, and whether it takes the rest of the arguments; `this` is not a
parameter. -/
def parameterName (page : Page) (pattern : SyntaxTree) : Reading (Option (String × Bool)) :=
  if pattern.kind = "this" then return none
  else if pattern.kind = "rest_pattern" then
    match SyntaxTree.parts pattern.children with
    | inner :: _ => do return some (← textOf page inner, true)
    | [] => return some ("args", true)
  else if pattern.kind = "object_pattern" || pattern.kind = "array_pattern" then
    return some ("__namedParameters", false)
  else do return some (← textOf page pattern, false)

/-- The type that a literal stands for. -/
def literal (page : Page) (t : SyntaxTree) : Reading TypeExpr := do
  match SyntaxTree.parts t.children with
  | inner :: _ =>
    if inner.kind = "string" then
      return .ofString (Naming.unquote (← textOf page inner))
  | [] => pure ()
  let text ← textOf page t
  if text = "null" || text = "undefined" then return .ofIntrinsic text
  return .ofUnknown text

end Reading

end ApiAtlas.Source
