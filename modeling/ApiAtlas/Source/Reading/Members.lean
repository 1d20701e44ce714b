import ApiAtlas.Source.Overload
import ApiAtlas.Source.Reading.Types

/-!
# Reading single declarations

Declarations that hold no other statements: classes and interfaces with their heritage and members,
functions, enumerations, variables, type aliases and imports.
-/

set_option autoImplicit false

namespace ApiAtlas.Source.Reading

open SyntaxTree (at? parts hasToken)

/-- Whether a declaration starts with the token for constants. -/
def startsConst (cs : List SyntaxTree) : Bool :=
  match cs with
  | t :: _ => t.kind == "const"
  | [] => false

/-- The name in a declaration and the symbol that it declares. -/
def openName (p : Place) (cs : List SyntaxTree) : Reading (String × String) := do
  let name ← textAt p.page "name" cs
  return (name, ← declare (Naming.inScope p.owner name))

/-- A property of a class with the text of its initial value. -/
def readField (p : Place) (t : SyntaxTree) (before : Option SyntaxTree) : Reading Decl := do
  let (d, symbol) ← openMember p t before fun _ => .property
  let type ← slotAt (p.under symbol) "type" t.children
  return { d with type := type, defaultValue := ← textOf? p.page (at? "value" t.children) }

/-- A method, an accessor or a constructor. -/
def readMethod (p : Place) (t : SyntaxTree) (before : Option SyntaxTree) : Reading Decl := do
  let (d, symbol) ← openMember p t before (methodKind t)
  return { d with signature := some (← readSignature (p.under symbol) "return_type" t.children) }

/-- An index signature. -/
def readIndex (p : Place) (t : SyntaxTree) (before : Option SyntaxTree) : Reading Decl := do
  let modifiers ← readModifiers p.page [] t.children
  let d ← openDecl p.page .indexSignature t before none none modifiers
  let ps ← indexParams p t.children (typeAt p "index_type" t.children)
  let result ← slotAt p "type" t.children
  return { d with signature := some { parameters := ps, result := result } }

/-- The members of a class among some nodes; `before` is the named node before them. -/
def readClassMembers (p : Place) (before : Option SyntaxTree) :
    List SyntaxTree → Reading (List Decl)
  | [] => return []
  | t :: ts => do
    if !t.named then readClassMembers p before ts
    else if ["method_definition", "method_signature", "abstract_method_signature"].contains t.kind
    then
      let d ← readMethod p t before
      return d :: (← readClassMembers p (some t) ts)
    else if t.kind = "public_field_definition" then
      let d ← readField p t before
      return d :: (← readClassMembers p (some t) ts)
    else if t.kind = "index_signature" then
      let d ← readIndex p t before
      return d :: (← readClassMembers p (some t) ts)
    else readClassMembers p (some t) ts

/-- The bases that a class names: arguments belong to the base before them. -/
def readBases (p : Place) : List TypeExpr → List SyntaxTree → Reading (List TypeExpr)
  | bases, [] => return bases
  | bases, t :: ts => do
    match t.kind == "type_arguments", bases.getLast? with
    | true, some base =>
      let arguments ← readTypes p t.children
      readBases p (bases.dropLast ++ [{ base with arguments := arguments }]) ts
    | _, _ =>
      let base ← reference p (← textOf p.page t)
      readBases p (bases ++ [base]) ts

/-- The bases and the interfaces that the clauses of a class name. -/
def readHeritage (p : Place) :
    List TypeExpr × List TypeExpr → List SyntaxTree → Reading (List TypeExpr × List TypeExpr)
  | found, [] => return found
  | (bases, interfaces), t :: ts => do
    if t.kind = "extends_clause" then
      let more ← readBases p [] (parts t.children)
      readHeritage p (bases ++ more, interfaces) ts
    else if t.kind = "implements_clause" then
      let more ← readTypes p t.children
      readHeritage p (bases, interfaces ++ more) ts
    else readHeritage p (bases, interfaces) ts

/-- A class. -/
def readClass (p : Place) (t : SyntaxTree) (before : Option SyntaxTree) (modifiers : List String) :
    Reading Decl := do
  let (name, symbol) ← openName p t.children
  let modifiers :=
    if t.kind = "abstract_class_declaration" then withModifier "abstract" modifiers else modifiers
  let d ← openDecl p.page .class t before (some name) (some symbol) modifiers
  let q := p.under symbol
  let typeParameters ← typeParametersAt q "type_parameters" t.children
  let clauses := ((parts t.children).filter fun c => c.kind = "class_heritage").flatMap
    fun c => parts c.children
  let (bases, interfaces) ← readHeritage q ([], []) clauses
  let children ← match at? "body" t.children with
    | some body => readClassMembers q none body.children
    | none => pure []
  return { d with typeParameters := typeParameters, bases := bases, interfaces := interfaces,
                  children := dropImplementations children }

/-- An interface. -/
def readInterface (p : Place) (t : SyntaxTree) (before : Option SyntaxTree)
    (modifiers : List String) : Reading Decl := do
  let (name, symbol) ← openName p t.children
  let d ← openDecl p.page .interface t before (some name) (some symbol) modifiers
  let q := p.under symbol
  let typeParameters ← typeParametersAt q "type_parameters" t.children
  let clauses := ((parts t.children).filter fun c => c.kind = "extends_type_clause").flatMap
    fun c => parts c.children
  let bases ← readTypes q clauses
  let children ← match at? "body" t.children with
    | some body => readObjectMembers q none body.children
    | none => pure []
  return { d with typeParameters := typeParameters, bases := bases, children := children }

/-- A function. -/
def readFunction (p : Place) (t : SyntaxTree) (before : Option SyntaxTree)
    (modifiers : List String) : Reading Decl := do
  let (name, symbol) ← openName p t.children
  let d ← openDecl p.page .function t before (some name) (some symbol) modifiers
  return { d with signature := some (← readSignature (p.under symbol) "return_type" t.children) }

/-- The members of an enumeration among some nodes; `before` is the named node before them. -/
def readEnumMembers (page : Page) (owner : String) (before : Option SyntaxTree) :
    List SyntaxTree → Reading (List Decl)
  | [] => return []
  | t :: ts => do
    if !t.named then readEnumMembers page owner before ts
    else if !t.isPart then readEnumMembers page owner (some t) ts
    else
      let (nameNode, value) ←
        if t.kind = "enum_assignment" then
          pure (at? "name" t.children, some (← textAt page "value" t.children))
        else pure (some t, none)
      let name := Naming.unquote ((← textOf? page nameNode).getD "")
      let symbol ← declare (owner ++ "." ++ name)
      let d ← openDecl page .enumMember t before (some name) (some symbol) []
      return { d with defaultValue := value } :: (← readEnumMembers page owner (some t) ts)

/-- An enumeration. -/
def readEnum (p : Place) (t : SyntaxTree) (before : Option SyntaxTree) (modifiers : List String) :
    Reading Decl := do
  let (name, symbol) ← openName p t.children
  let modifiers := if startsConst t.children then withModifier "const" modifiers else modifiers
  let d ← openDecl p.page .enum t before (some name) (some symbol) modifiers
  let children ← match at? "body" t.children with
    | some body => readEnumMembers p.page symbol none body.children
    | none => pure []
  return { d with children := children }

/-- Whether a value is a function written in place. -/
def isFunctionValue (t : SyntaxTree) : Bool :=
  ["arrow_function", "function_expression", "function"].contains t.kind

/-- One declared variable; one without a type whose value is a function is a function. -/
def readVariable (p : Place) (t : SyntaxTree) (before : Option SyntaxTree)
    (modifiers : List String) : Reading Decl := do
  let (name, symbol) ← openName p t.children
  let q := p.under symbol
  let value := at? "value" t.children
  let function := value.filter fun v => (at? "type" t.children).isNone && isFunctionValue v
  match function with
  | some v =>
    let d ← openDecl p.page .function t before (some name) (some symbol) modifiers
    return { d with signature := some (← readSignature q "return_type" v.children) }
  | none =>
    let d ← openDecl p.page .variable t before (some name) (some symbol) modifiers
    let type ← slotAt q "type" t.children
    return { d with type := type, defaultValue := ← textOf? p.page value }

/-- The variables that a statement declares; only plain names count. -/
def readVariables (p : Place) (t : SyntaxTree) (before : Option SyntaxTree)
    (modifiers : List String) : Reading (List Decl) := do
  let word ← textAt p.page "kind" t.children
  let modifiers :=
    if word = "const" || startsConst t.children then withModifier "const" modifiers else modifiers
  let declared := (parts t.children).filter fun v =>
    v.kind = "variable_declarator" && (at? "name" v.children).any fun n => n.kind = "identifier"
  declared.mapM fun v => readVariable p v before modifiers

/-- A type alias. -/
def readAlias (p : Place) (t : SyntaxTree) (before : Option SyntaxTree) (modifiers : List String) :
    Reading Decl := do
  let (name, symbol) ← openName p t.children
  let d ← openDecl p.page .typeAlias t before (some name) (some symbol) modifiers
  let q := p.under symbol
  let typeParameters ← typeParametersAt q "type_parameters" t.children
  match typeAt q "value" t.children with
  | some value => return { d with typeParameters := typeParameters, type := some (← value) }
  | none => return { d with typeParameters := typeParameters }

/-- Another name for something, which is recognised but not described. -/
def readOther (p : Place) (t : SyntaxTree) (before : Option SyntaxTree) (modifiers : List String) :
    Reading Decl := do
  let name ← textOf? p.page (t.children.find? (·.named))
  openDecl p.page .other t before name none modifiers

/-- Notes one imported name. -/
def noteSpecifier (page : Page) (target : String) (t : SyntaxTree) : Reading Unit := do
  let imported ← textAt page "name" t.children
  let given ← textOf? page (at? "alias" t.children)
  noteImport (given.getD imported) (Naming.inScope target imported)

/-- Notes what one item of an import brings in. -/
def noteItem (page : Page) (target : String) (t : SyntaxTree) : Reading Unit := do
  if t.kind = "namespace_import" then
    match ((parts t.children).filter fun c => c.kind = "identifier").getLast? with
    | some name => noteImport (← textOf page name) target
    | none => pure ()
  else if t.kind = "named_imports" then
    let specifiers := (parts t.children).filter fun c => c.kind = "import_specifier"
    specifiers.forM (noteSpecifier page target)

/-- Notes what an import brings in. -/
def readImport (page : Page) (t : SyntaxTree) : Reading Unit := do
  match at? "source" t.children with
  | none => pure ()
  | some source =>
    let target :=
      Naming.importTarget page.mode page.name (Naming.unquote (← textOf page source))
    let clauses := (parts t.children).filter fun c => c.kind = "import_clause"
    (clauses.flatMap fun c => parts c.children).forM (noteItem page target)

end ApiAtlas.Source.Reading
