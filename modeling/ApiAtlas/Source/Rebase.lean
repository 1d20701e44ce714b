import ApiAtlas.Source.Decl
import ApiAtlas.Text.Pieces

/-!
# Moving inline members to another owner

The members of an inline object type have symbols that extend the symbol of the declaration whose
type it is. When that declaration is copied under another symbol, the symbols of these members
follow, at every depth.
-/

set_option autoImplicit false

namespace ApiAtlas.Source

/-- A symbol that extends the old one, made to extend the new one. -/
def moveSymbol (old new symbol : String) : String :=
  if Text.startsWith (old ++ ":").toList symbol.toList then
    new ++ String.ofList (symbol.toList.drop old.length)
  else symbol

mutual

/-- A type with its inline members moved. -/
def TypeExpr.rebase (old new : String) : TypeExpr → TypeExpr
  | ⟨form, name, symbol, arguments, members, signature, text⟩ =>
    ⟨form, name, symbol, rebaseTypes old new arguments, rebaseDecls old new members,
      rebaseSignature old new signature, text⟩

/-- Some types with their inline members moved. -/
def rebaseTypes (old new : String) : List TypeExpr → List TypeExpr
  | [] => []
  | t :: ts => t.rebase old new :: rebaseTypes old new ts

/-- A type, if there is one, with its inline members moved. -/
def rebaseType (old new : String) : Option TypeExpr → Option TypeExpr
  | none => none
  | some t => some (t.rebase old new)

/-- A signature, if there is one, with the inline members in it moved. -/
def rebaseSignature (old new : String) : Option Signature → Option Signature
  | none => none
  | some ⟨parameters, result, typeParameters⟩ =>
    some ⟨rebaseParams old new parameters, rebaseType old new result,
      rebaseTypeParams old new typeParameters⟩

/-- Parameters with the inline members in them moved. -/
def rebaseParams (old new : String) : List Param → List Param
  | [] => []
  | ⟨name, type, optional, rest, defaultValue⟩ :: ps =>
    ⟨name, rebaseType old new type, optional, rest, defaultValue⟩ :: rebaseParams old new ps

/-- Type parameters with the inline members in them moved. -/
def rebaseTypeParams (old new : String) : List TypeParam → List TypeParam
  | [] => []
  | ⟨name, constraint, default⟩ :: ps =>
    ⟨name, rebaseType old new constraint, rebaseType old new default⟩ ::
      rebaseTypeParams old new ps

/-- A declaration moved together with the inline members in its types. -/
def Decl.rebase (old new : String) : Decl → Decl
  | ⟨kind, name, symbol, children, modifiers, type, signature, typeParameters, bases, interfaces,
      comment, defaultValue, origin, file, line, form⟩ =>
    ⟨kind, name, symbol.map (moveSymbol old new), children, modifiers, rebaseType old new type,
      rebaseSignature old new signature, rebaseTypeParams old new typeParameters,
      rebaseTypes old new bases, rebaseTypes old new interfaces, comment, defaultValue, origin,
      file, line, form⟩

/-- Declarations moved together with the inline members in their types. -/
def rebaseDecls (old new : String) : List Decl → List Decl
  | [] => []
  | d :: ds => d.rebase old new :: rebaseDecls old new ds

end

end ApiAtlas.Source
