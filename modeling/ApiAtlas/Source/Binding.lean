import ApiAtlas.Source.Naming
import ApiAtlas.Table

/-!
# Binding names to symbols

A name in a type can mean a symbol in any scope around it, innermost first, or what an import of
its file brings in. It is bound once the whole program has been read, to the first of these that
some file declares; a name without such a symbol stands for itself.
-/

set_option autoImplicit false

namespace ApiAtlas.Source

/-- A name in a type, with the scopes around it and the imports of its file. -/
structure Mention where
  name : Option String
  scopes : List String
  imports : Table String String := .empty
  deriving Inhabited

namespace Mention

/-- What an imported name and the names after it stand for. -/
def imported (target rest : String) : String :=
  if target.isEmpty then rest
  else if rest.isEmpty then target
  else target ++ "." ++ rest

/-- The symbols that a name can mean, the closest first. -/
def candidates (m : Mention) : List String :=
  let name := m.name.getD ""
  let (head, rest) := Text.cut '.' name.toList
  m.scopes.map (Naming.inScope · name) ++
    match m.imports.get? (String.ofList head) with
    | some target => [imported target (String.ofList rest)]
    | none => []

/-- The symbol that a name means among the declared ones. -/
def bind? (m : Mention) (declared : List String) : Option String :=
  m.candidates.find? declared.contains

/-- The symbol that a name gets: the one that it means, else the name itself. -/
def symbol (m : Mention) (declared : List String) : Option String :=
  match m.bind? declared with
  | some s => some s
  | none => m.name

end Mention

/-- The symbols that have been declared and the names that wait to be bound. -/
structure Binder where
  declared : List String := []
  pending : List Mention := []

namespace Binder

/-- One more declared symbol. -/
def declare (b : Binder) (symbol : String) : Binder :=
  if b.declared.contains symbol then b else { b with declared := b.declared ++ [symbol] }

/-- One more name that waits. -/
def defer (b : Binder) (m : Mention) : Binder :=
  { b with pending := b.pending ++ [m] }

/-- The symbols of the waiting names, in order. -/
def symbols (b : Binder) : List (Option String) :=
  b.pending.map fun m => m.symbol b.declared

/-- How many of the waiting names mean no declared symbol. -/
def unbound (b : Binder) : Nat :=
  b.pending.countP fun m => (m.bind? b.declared).isNone

/-- No name waits any more. -/
def clear (b : Binder) : Binder :=
  { b with pending := [] }

end Binder

end ApiAtlas.Source
