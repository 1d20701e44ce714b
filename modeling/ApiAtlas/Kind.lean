import ApiAtlas.Mask

/-!
# Kinds

What an entry of the atlas is. Each basic kind has a bit of its own, so that a mask can stand for
several kinds; a group is a list of kinds, and a kind is in a group when it has a bit in common
with it.
-/

set_option autoImplicit false

namespace ApiAtlas

/-- A kind of entry; `mixed` is a mask that is not the bit of one basic kind. -/
inductive Kind where
  | project
  | module
  | namespace
  | enum
  | enumMember
  | variable
  | function
  | «class»
  | interface
  | constructor
  | property
  | method
  | callSignature
  | indexSignature
  | constructorSignature
  | parameter
  | typeLiteral
  | typeParameter
  | accessor
  | getSignature
  | setSignature
  | typeAlias
  | constant
  | mixed (mask : Nat)
  deriving DecidableEq, Repr, Inhabited

namespace Kind

/-- The basic kinds, each with the name that is shown and the name it has inside a mask, in the
order of their bits. -/
def table : List (Kind × String × String) :=
  [(.project, "Project", "Project"),
   (.module, "Module", "Module"),
   (.namespace, "Namespace", "Namespace"),
   (.enum, "Enumeration", "Enum"),
   (.enumMember, "Enumeration member", "EnumMember"),
   (.variable, "Variable", "Variable"),
   (.function, "Function", "Function"),
   (.class, "Class", "Class"),
   (.interface, "Interface", "Interface"),
   (.constructor, "Constructor", "Constructor"),
   (.property, "Property", "Property"),
   (.method, "Method", "Method"),
   (.callSignature, "Call signature", "CallSignature"),
   (.indexSignature, "Index signature", "IndexSignature"),
   (.constructorSignature, "Constructor signature", "ConstructorSignature"),
   (.parameter, "Parameter", "Parameter"),
   (.typeLiteral, "Type literal", "TypeLiteral"),
   (.typeParameter, "Type parameter", "TypeParameter"),
   (.accessor, "Accessor", "Accessor"),
   (.getSignature, "Get signature", "GetSignature"),
   (.setSignature, "Set signature", "SetSignature"),
   (.typeAlias, "Type alias", "TypeAlias"),
   (.constant, "Constant", "Constant")]

/-- The bits of a kind. -/
def bits : Kind → Nat
  | .project => 0x1
  | .module => 0x2
  | .namespace => 0x4
  | .enum => 0x8
  | .enumMember => 0x10
  | .variable => 0x20
  | .function => 0x40
  | .class => 0x80
  | .interface => 0x100
  | .constructor => 0x200
  | .property => 0x400
  | .method => 0x800
  | .callSignature => 0x1000
  | .indexSignature => 0x2000
  | .constructorSignature => 0x4000
  | .parameter => 0x8000
  | .typeLiteral => 0x10000
  | .typeParameter => 0x20000
  | .accessor => 0x40000
  | .getSignature => 0x80000
  | .setSignature => 0x100000
  | .typeAlias => 0x200000
  | .constant => 0x400000
  | .mixed mask => mask

/-- The kind with the given bits. -/
def ofBits (n : Nat) : Kind :=
  match table.find? (·.1.bits == n) with
  | some (k, _) => k
  | none => .mixed n

/-- The kind that an integer stands for. -/
def ofInt (n : Int) : Kind :=
  ofBits (Mask.ofInt table.length n)

/-- Classes and interfaces, which have members and bases. -/
def classOrInterface : List Kind := [.class, .interface]

/-- Modules and namespaces. -/
def someModule : List Kind := [.module, .namespace]

/-- Every kind of signature. -/
def someSignature : List Kind :=
  [.callSignature, .indexSignature, .constructorSignature, .getSignature, .setSignature]

/-- Functions and methods. -/
def functionOrMethod : List Kind := [.function, .method]

/-- Variables and properties. -/
def variableOrProperty : List Kind := [.variable, .property]

/-- Accessors and the constants that accessors can be turned into. -/
def accessorLike : List Kind := [.accessor, .constant]

/-- The groups that have a name. -/
def groups : List (String × List Kind) :=
  [("ClassOrInterface", classOrInterface), ("SomeModule", someModule),
   ("SomeSignature", someSignature), ("FunctionOrMethod", functionOrMethod),
   ("VariableOrProperty", variableOrProperty)]

/-- The bits of all kinds of a group. -/
def maskOf (group : List Kind) : Nat :=
  group.foldl (fun m k => m ||| k.bits) 0

/-- Whether a kind has a bit in common with a group. -/
def isIn (k : Kind) (group : List Kind) : Bool :=
  k.bits &&& maskOf group != 0

/-- The name of a mask: that of the group it equals, else the names of its bits, and after them
the bits of no kind as one number. -/
def maskText (mask : Nat) : String :=
  match groups.find? fun g => maskOf g.2 == mask with
  | some g => g.1
  | none =>
    let names := (table.filter fun row => mask &&& row.1.bits != 0).map (·.2.2)
    let others := mask - (mask &&& maskOf (table.map (·.1)))
    if names.isEmpty then toString mask
    else if others = 0 then String.intercalate "|" names
    else String.intercalate "|" (names ++ [toString others])

/-- The name of a kind as it is shown. -/
def text (k : Kind) : String :=
  match table.find? (·.1 == k) with
  | some (_, shown, _) => shown
  | none => maskText k.bits

end Kind

end ApiAtlas
