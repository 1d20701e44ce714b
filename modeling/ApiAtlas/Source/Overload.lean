import ApiAtlas.Source.Decl

/-!
# Overloads

A function or method can be declared by several signatures without a body, followed by the one
implementation of all of them, which is not itself something that can be called. The implementation
is dropped where such a signature of the same symbol stands before it.
-/

set_option autoImplicit false

namespace ApiAtlas.Source

namespace Decl

/-- The symbol of a declaration that is only a signature, without a body. -/
def bareSymbol? (d : Decl) : Option String :=
  if d.form = some "function_signature" || d.form = some "method_signature" then
    d.symbol.filter fun s => !s.isEmpty
  else none

/-- Whether a declaration has the form of one with a body. -/
def isImplementation (d : Decl) : Bool :=
  d.form = some "function_declaration" || d.form = some "method_definition"

/-- Whether a declaration implements one of some symbols. -/
def implements (d : Decl) (symbols : List String) : Bool :=
  d.isImplementation && d.symbol.any symbols.contains

end Decl

/-- The declarations without the implementations of the signatures before them; `bare` holds the
symbols of the signatures that have been passed. -/
def dropImplementationsAfter (bare : List String) : List Decl → List Decl
  | [] => []
  | d :: ds =>
    match d.bareSymbol? with
    | some symbol => d :: dropImplementationsAfter (symbol :: bare) ds
    | none =>
      if d.implements bare then dropImplementationsAfter bare ds
      else d :: dropImplementationsAfter bare ds

/-- The declarations without the implementations of the signatures among them. -/
def dropImplementations (ds : List Decl) : List Decl :=
  dropImplementationsAfter [] ds

end ApiAtlas.Source
