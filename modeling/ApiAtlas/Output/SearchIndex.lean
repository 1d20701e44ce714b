import ApiAtlas.Atlas.Search
import ApiAtlas.Json.Basic

/-!
# The search index

One row for every declaration that has a page of its own, in the order of their numbers. External
declarations have none, and neither has anything inside an inline declaration.
-/

set_option autoImplicit false

namespace ApiAtlas

/-- One row of the index. -/
structure SearchRow where
  id : Nat
  kind : Kind
  name : String
  fullName : String
  parent : Option String
  deriving DecidableEq, Repr, Inhabited

/-- A row as JSON. -/
def SearchRow.toJson (r : SearchRow) : Json :=
  .obj ([("id", .nat r.id), ("kind", .nat r.kind.bits), ("name", .str r.name),
    ("fullName", .str r.fullName)] ++
    match r.parent with
    | some p => [("parent", .str p)]
    | none => [])

namespace Atlas

/-- Whether an entry is an inline declaration or stands in one, looking at most at `steps`
entries upward. -/
def insideLiteral (a : Atlas) : Nat → EntryId → Except Misuse Bool
  | 0, _ => .error .endless
  | steps + 1, id =>
    match a.get? id with
    | none => .ok false
    | some e =>
      if e.kind = .typeLiteral then .ok true
      else match e.parent with
        | some p => a.insideLiteral steps p
        | none => .ok false

/-- Whether a declaration has a page of its own. -/
def hasPage (a : Atlas) (id : EntryId) (e : Entry) : Except Misuse Bool := do
  if e.flags.has .isExternal then .ok false
  else .ok (!(← a.insideLiteral (a.size + 1) id))

/-- The full name of the entry around an entry, if that is not the project. -/
def parentName? (a : Atlas) (e : Entry) : Except Misuse (Option String) :=
  match e.parent with
  | some p =>
    match a.get? p with
    | some q => if q.kind = .project then .ok none else some <$> a.fullName p
    | none => .ok none
  | none => .ok none

/-- The rows with that of one more declaration, if it has a page. -/
def addRow (a : Atlas) (rows : List SearchRow) (id : EntryId) : Except Misuse (List SearchRow) := do
  let e ← a.fetch id
  if ← a.hasPage id e then
    let fullName ← a.fullName id
    let parent ← a.parentName? e
    .ok (rows ++ [⟨rows.length, e.kind, e.name, fullName, parent⟩])
  else .ok rows

/-- The search index of an atlas. -/
def searchIndex (a : Atlas) : Except Misuse (List SearchRow) :=
  a.declarations.foldlM a.addRow []

end Atlas

end ApiAtlas
