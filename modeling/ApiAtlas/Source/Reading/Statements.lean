import ApiAtlas.Source.Reading.Members

/-!
# Reading statements

The statements of a file or a namespace body. Some only pass a modifier on to the declaration
inside; a namespace opens a scope of its own. The node just before a statement is handed down,
since its doc comment stands there also when the declaration itself is further inside.
-/

set_option autoImplicit false

namespace ApiAtlas.Source.Reading

/-- What a node is as a statement. -/
inductive StatementNode where
  | export
  | ambient
  | expression
  | import
  | «class»
  | interface
  | function
  | enum
  | variables
  | alias
  | namespace
  | other
  | skipped
  deriving DecidableEq, Repr

/-- What the kinds of nodes are as statements. -/
def StatementNode.table : List (String × StatementNode) :=
  [("export_statement", .export), ("ambient_declaration", .ambient),
   ("expression_statement", .expression), ("import_statement", .import),
   ("class_declaration", .class), ("abstract_class_declaration", .class),
   ("interface_declaration", .interface), ("function_declaration", .function),
   ("generator_function_declaration", .function), ("function_signature", .function),
   ("enum_declaration", .enum), ("lexical_declaration", .variables),
   ("variable_declaration", .variables), ("type_alias_declaration", .alias),
   ("internal_module", .namespace), ("module", .namespace), ("import_alias", .other)]

/-- What a kind of node is as a statement; a kind without a meaning is skipped. -/
def StatementNode.ofKind (kind : String) : StatementNode :=
  (StatementNode.table.lookup kind).getD .skipped

/-- The namespaces that a dotted name opens, each around the next, with the body in the innermost
one. Only the outermost has the modifiers and the comment of the statement. -/
def nestNamespaces (t : SyntaxTree) (before : Option SyntaxTree) (modifiers : List String)
    (body : Place → Reading (List Decl)) (isInner : Bool) :
    Place → List String → Reading (List Decl)
  | p, [] => body p
  | p, name :: names => do
    let symbol ← declare (Naming.inScope p.owner name)
    let d ← openDecl p.page .namespace t before (some name) (some symbol)
      (if isInner then ["export"] else modifiers)
    let q : Place := { p with owner := symbol, scopes := symbol :: p.scopes }
    let children ← nestNamespaces t before modifiers body true q names
    return [{ d with children := children, comment := if isInner then none else d.comment }]

/-- A namespace or a module; a module is named by a string and is a scope of its own. -/
def openNamespace (p : Place) (t : SyntaxTree) (before : Option SyntaxTree)
    (modifiers : List String) (body : Place → Reading (List Decl)) : Reading (List Decl) := do
  match SyntaxTree.at? "name" t.children with
  | none => return [← openDecl p.page .namespace t before none none modifiers]
  | some name =>
    let text ← textOf p.page name
    if name.kind = "string" then
      let symbol ← declare (Naming.inQuotes (Naming.unquote text))
      let d ← openDecl p.page .module t before (some symbol) (some symbol) modifiers
      let children ← body { p with owner := symbol, scopes := [symbol, ""] }
      return [{ d with children := children }]
    else nestNamespaces t before modifiers body false p (Text.dotted text)

mutual

/-- The declarations that a statement makes. -/
def readStatement (p : Place) (modifiers : List String) (before : Option SyntaxTree) :
    SyntaxTree → Reading (List Decl)
  | ⟨kind, start, stop, named, field, cs⟩ =>
    let t : SyntaxTree := ⟨kind, start, stop, named, field, cs⟩
    match StatementNode.ofKind kind with
    | .export => readExported p (withModifier "export" modifiers) before cs
    | .ambient => readAmbient p (withModifier "declare" modifiers) before cs
    | .expression => readNamespaces p modifiers before cs
    | .import => do
      readImport p.page t
      return []
    | .class => return [← readClass p t before modifiers]
    | .interface => return [← readInterface p t before modifiers]
    | .function => return [← readFunction p t before modifiers]
    | .enum => return [← readEnum p t before modifiers]
    | .variables => readVariables p t before modifiers
    | .alias => return [← readAlias p t before modifiers]
    | .namespace => openNamespace p t before modifiers fun q => readBody q cs
    | .other => return [← readOther p t before modifiers]
    | .skipped => return []

/-- The declarations that some statements make; `before` is the named node before them. -/
def readStatements (p : Place) (before : Option SyntaxTree) : List SyntaxTree → Reading (List Decl)
  | [] => return []
  | t :: ts => do
    if !t.named then readStatements p before ts
    else if !t.isPart then readStatements p (some t) ts
    else
      let first ← readStatement p [] before t
      return first ++ (← readStatements p (some t) ts)

/-- The declarations that the exported statement makes. -/
def readExported (p : Place) (modifiers : List String) (before : Option SyntaxTree) :
    List SyntaxTree → Reading (List Decl)
  | [] => return []
  | t :: ts =>
    if t.field = some "declaration" then readStatement p modifiers before t
    else readExported p modifiers before ts

/-- The declarations inside an ambient one; a block there belongs to the outermost scope. -/
def readAmbient (p : Place) (modifiers : List String) (before : Option SyntaxTree) :
    List SyntaxTree → Reading (List Decl)
  | [] => return []
  | ⟨kind, start, stop, named, field, cs⟩ :: ts => do
    let t : SyntaxTree := ⟨kind, start, stop, named, field, cs⟩
    if !t.isPart then readAmbient p modifiers before ts
    else if kind = "statement_block" then
      let first ← readStatements { p with owner := "", scopes := [""] } none cs
      return dropImplementations first ++ (← readAmbient p modifiers before ts)
    else
      let first ← readStatement p modifiers before ⟨kind, start, stop, named, field, cs⟩
      return first ++ (← readAmbient p modifiers before ts)

/-- The namespaces among some nodes. -/
def readNamespaces (p : Place) (modifiers : List String) (before : Option SyntaxTree) :
    List SyntaxTree → Reading (List Decl)
  | [] => return []
  | t :: ts => do
    if t.isPart && StatementNode.ofKind t.kind = .namespace then
      let first ← readStatement p modifiers before t
      return first ++ (← readNamespaces p modifiers before ts)
    else readNamespaces p modifiers before ts

/-- The declarations in the body among some nodes. -/
def readBody (p : Place) : List SyntaxTree → Reading (List Decl)
  | [] => return []
  | ⟨_, _, _, _, field, cs⟩ :: ts =>
    if field = some "body" then dropImplementations <$> readStatements p none cs
    else readBody p ts

end

end ApiAtlas.Source.Reading
