import ApiAtlas.Comment.Basic

/-!
# Declarations as they are written

What reading a program yields: its declarations, each with the types and signatures written in it,
the comment in front of it and its symbol. All declarations of one entity carry one symbol. The
four records refer to each other, since a type may hold whole declarations as members.
-/

set_option autoImplicit false

namespace ApiAtlas.Source

/-- The form of a written declaration; `other` is one that is recognised but not described. -/
inductive DeclKind where
  | module
  | namespace
  | «class»
  | interface
  | enum
  | enumMember
  | variable
  | property
  | function
  | method
  | constructor
  | getAccessor
  | setAccessor
  | callSignature
  | constructSignature
  | indexSignature
  | typeAlias
  | other
  deriving DecidableEq, Repr, Inhabited

/-- The forms of declarations, each with its name in data. -/
def DeclKind.table : List (DeclKind × String) :=
  [(.module, "module"), (.namespace, "namespace"), (.class, "class"), (.interface, "interface"),
   (.enum, "enum"), (.enumMember, "enum_member"), (.variable, "variable"),
   (.property, "property"), (.function, "function"), (.method, "method"),
   (.constructor, "constructor"), (.getAccessor, "get_accessor"), (.setAccessor, "set_accessor"),
   (.callSignature, "call_signature"), (.constructSignature, "construct_signature"),
   (.indexSignature, "index_signature"), (.typeAlias, "type_alias"), (.other, "other")]

/-- The name of a form in data. -/
def DeclKind.word (k : DeclKind) : String :=
  ((DeclKind.table.find? (·.1 == k)).map (·.2)).getD ""

/-- The form with a name in data. -/
def DeclKind.ofWord? (s : String) : Option DeclKind :=
  (DeclKind.table.find? (·.2 == s)).map (·.1)

/-- The form of a written type. -/
inductive TypeForm where
  | intrinsic
  | reference
  | object
  | function
  | union
  | intersection
  | array
  | tuple
  | stringLiteral
  | unknown
  deriving DecidableEq, Repr, Inhabited

/-- The forms of types, each with its name in data. -/
def TypeForm.table : List (TypeForm × String) :=
  [(.intrinsic, "intrinsic"), (.reference, "reference"), (.object, "object"),
   (.function, "function"), (.union, "union"), (.intersection, "intersection"),
   (.array, "array"), (.tuple, "tuple"), (.stringLiteral, "string_literal"),
   (.unknown, "unknown")]

/-- The name of a form in data. -/
def TypeForm.word (f : TypeForm) : String :=
  ((TypeForm.table.find? (·.1 == f)).map (·.2)).getD ""

/-- The form with a name in data. -/
def TypeForm.ofWord? (s : String) : Option TypeForm :=
  (TypeForm.table.find? (·.2 == s)).map (·.1)

mutual

/-- A type as it is written. Which parts have a meaning depends on the form: an object has
members, a function has a signature, and the composite forms have arguments. -/
structure TypeExpr where
  form : TypeForm
  name : Option String := none
  symbol : Option String := none
  arguments : List TypeExpr := []
  members : List Decl := []
  signature : Option Signature := none
  text : String := ""

/-- The shape of something that can be called. -/
structure Signature where
  parameters : List Param := []
  result : Option TypeExpr := none
  typeParameters : List TypeParam := []

/-- A parameter of a signature. -/
structure Param where
  name : String
  type : Option TypeExpr := none
  optional : Bool := false
  rest : Bool := false
  defaultValue : Option String := none

/-- A type parameter. -/
structure TypeParam where
  name : String
  constraint : Option TypeExpr := none
  default : Option TypeExpr := none

/-- One declaration. `symbol` is the identity under which declarations of one entity are merged;
`origin` is the symbol of the base member that the declaration was copied from. -/
structure Decl where
  kind : DeclKind
  name : Option String := none
  symbol : Option String := none
  children : List Decl := []
  modifiers : List String := []
  type : Option TypeExpr := none
  signature : Option Signature := none
  typeParameters : List TypeParam := []
  bases : List TypeExpr := []
  interfaces : List TypeExpr := []
  comment : Option Comment := none
  defaultValue : Option String := none
  origin : Option String := none
  file : Option String := none
  line : Option Int := none
  form : Option String := none

end

/-- The declarations at the top of one file of a program. -/
structure File where
  name : String
  decls : List Decl := []
  moduleName : Option String := none
  moduleSymbol : Option String := none
  comment : Option Comment := none
  isExternal : Bool := false

instance : Inhabited TypeExpr := ⟨{ form := .unknown }⟩

instance : Inhabited Signature := ⟨{}⟩

instance : Inhabited Param := ⟨{ name := "" }⟩

instance : Inhabited TypeParam := ⟨{ name := "" }⟩

instance : Inhabited Decl := ⟨{ kind := .other }⟩

instance : Inhabited File := ⟨{ name := "" }⟩

namespace TypeExpr

/-- A type built into the language. -/
def ofIntrinsic (name : String) : TypeExpr :=
  { form := .intrinsic, name := some name, text := name }

/-- A named type. -/
def ofReference (name : String) (symbol : Option String) : TypeExpr :=
  { form := .reference, name := some name, symbol := symbol, text := name }

/-- A type that is one text. -/
def ofString (value : String) : TypeExpr :=
  { form := .stringLiteral, name := some value, text := "\"" ++ value ++ "\"" }

/-- A type that is only known by its text. -/
def ofUnknown (text : String) : TypeExpr :=
  { form := .unknown, text := text }

/-- A composite type of some form. -/
def ofParts (form : TypeForm) (parts : List TypeExpr) : TypeExpr :=
  { form := form, arguments := parts }

end TypeExpr

end ApiAtlas.Source
