/-!
# Types

The types that entries of the atlas hold. A type is a value: it owns nothing, refers to named
declarations by their symbol, and points at an inline declaration by its number. A reference is
resolved when it knows the number of its target.
-/

set_option autoImplicit false

namespace ApiAtlas

/-- The number of an entry of the atlas. -/
abbrev EntryId := Nat

/-- A type. -/
inductive Ty where
  | intrinsic (name : String)
  | stringLiteral (value : String)
  | unknown (name : String)
  | typeParameter (name : String) (constraint : Option Ty)
  | reference (name : String) (symbol : Option String) (arguments : List Ty)
      (target : Option EntryId)
  | literal (declaration : EntryId)
  | union (types : List Ty)
  | intersection (types : List Ty)
  | array (element : Ty)
  | tuple (elements : List Ty)
  deriving Inhabited, Repr

/-- A reference by itself, without its arguments. -/
structure Reference where
  name : String
  symbol : Option String
  target : Option EntryId
  deriving DecidableEq, Repr, Inhabited

namespace Ty

/-- The word that tells the form of a type. -/
def form : Ty → String
  | .intrinsic .. => "intrinsic"
  | .stringLiteral .. => "stringLiteral"
  | .unknown .. => "unknown"
  | .typeParameter .. => "typeParameter"
  | .reference .. => "reference"
  | .literal .. => "reflection"
  | .union .. => "union"
  | .intersection .. => "intersection"
  | .array .. => "array"
  | .tuple .. => "tuple"

mutual

/-- The type as it is shown. Only the element of an array that is itself a union or an
intersection is put in parentheses. -/
def text : Ty → String
  | .intrinsic name => name
  | .stringLiteral value => "\"" ++ value ++ "\""
  | .unknown name => name
  | .typeParameter name _ => name
  | .reference name _ [] _ => name
  | .reference name _ (a :: as) _ => name ++ "<" ++ a.text ++ textAfter ", " as ++ ">"
  | .literal _ => "object"
  | .union types => textList " | " types
  | .intersection types => textList " & " types
  | .array (.union types) => "(" ++ textList " | " types ++ ")[]"
  | .array (.intersection types) => "(" ++ textList " & " types ++ ")[]"
  | .array element => element.text ++ "[]"
  | .tuple elements => "[" ++ textList ", " elements ++ "]"

/-- Types as they are shown, with a separator between them. -/
def textList (sep : String) : List Ty → String
  | [] => ""
  | t :: ts => t.text ++ textAfter sep ts

/-- Types as they are shown, with a separator before each. -/
def textAfter (sep : String) : List Ty → String
  | [] => ""
  | t :: ts => sep ++ t.text ++ textAfter sep ts

end

mutual

/-- The type and every type inside it, outermost first and from left to right. -/
def walk : Ty → List Ty
  | .typeParameter name (some c) => .typeParameter name (some c) :: c.walk
  | .reference name symbol arguments target =>
    .reference name symbol arguments target :: walkList arguments
  | .union types => .union types :: walkList types
  | .intersection types => .intersection types :: walkList types
  | .array element => .array element :: element.walk
  | .tuple elements => .tuple elements :: walkList elements
  | t => [t]

/-- The types inside a list of types. -/
def walkList : List Ty → List Ty
  | [] => []
  | t :: ts => t.walk ++ walkList ts

end

/-- The type as a reference, if it is one. -/
def reference? : Ty → Option Reference
  | .reference name symbol _ target => some ⟨name, symbol, target⟩
  | _ => none

/-- The declaration that an inline type points at. -/
def literal? : Ty → Option EntryId
  | .literal declaration => some declaration
  | _ => none

/-- The references inside a type. -/
def references (t : Ty) : List Reference :=
  t.walk.filterMap reference?

/-- The inline declarations inside a type. -/
def literals (t : Ty) : List EntryId :=
  t.walk.filterMap literal?

/-- The target of a type that is a resolved reference. -/
def target? (t : Ty) : Option EntryId :=
  t.reference?.bind (·.target)

mutual

/-- The type with every unresolved reference given the target of its symbol. -/
def resolve (lookup : Option String → Option EntryId) : Ty → Ty
  | .typeParameter name (some c) => .typeParameter name (some (c.resolve lookup))
  | .typeParameter name none => .typeParameter name none
  | .reference name symbol arguments target =>
    .reference name symbol (resolveList lookup arguments) (target.or (lookup symbol))
  | .union types => .union (resolveList lookup types)
  | .intersection types => .intersection (resolveList lookup types)
  | .array element => .array (element.resolve lookup)
  | .tuple elements => .tuple (resolveList lookup elements)
  | .intrinsic name => .intrinsic name
  | .stringLiteral value => .stringLiteral value
  | .unknown name => .unknown name
  | .literal declaration => .literal declaration

/-- Each type of a list with its references resolved. -/
def resolveList (lookup : Option String → Option EntryId) : List Ty → List Ty
  | [] => []
  | t :: ts => t.resolve lookup :: resolveList lookup ts

end

end Ty

/-- A reference as a type without arguments. -/
def Reference.toTy (r : Reference) : Ty :=
  .reference r.name r.symbol [] r.target

end ApiAtlas
