import ApiAtlas.Atlas.Children

/-!
# Names in the atlas

Full names, and the search for an entry by a path of names: outward through the enclosing
containers, or first along the chain of first bases. Both walks follow links that may run in a
circle. A walk with more steps than there are entries has come back to an entry without finding
anything and would go on for ever; it is reported as endless.
-/

set_option autoImplicit false

namespace ApiAtlas.Atlas

/-- The names from below the project down to an entry, walking at most `steps` links upward. -/
def namesUp (a : Atlas) : Nat → EntryId → Except Misuse (List String)
  | 0, _ => .error .endless
  | steps + 1, id => do
    let e ← a.fetch id
    match e.parent.bind fun p => (a.get? p).map fun q => (p, q) with
    | none => .ok [e.name]
    | some (p, q) =>
      if q.kind = .project then .ok [e.name]
      else .ok ((← a.namesUp steps p) ++ [e.name])

/-- The names of the entries around an entry and its own, with a separator between them. -/
def fullNameWith (a : Atlas) (separator : String) (id : EntryId) : Except Misuse String := do
  .ok (String.intercalate separator (← a.namesUp (a.size + 1) id))

/-- The full name of an entry. -/
def fullName (a : Atlas) (id : EntryId) : Except Misuse String :=
  a.fullNameWith "." id

/-- The first entry of a path of names that is seen from a container or one of the containers
around it, looking at `steps` containers at most. -/
def searchOutward (a : Atlas) (names : List String) :
    Nat → Option EntryId → Except Misuse (Option EntryId)
  | 0, _ => .error .endless
  | _ + 1, none => .ok none
  | steps + 1, some id =>
    match (a.get? id).bind (·.members?) with
    | none => .ok none
    | some _ =>
      match a.child? id names with
      | some found => .ok (some found)
      | none => a.searchOutward names steps (a.parent? id)

/-- The declaration that the first extended type of a declaration refers to. -/
def firstBase? (a : Atlas) (d : Details) : Option EntryId :=
  match d.extended with
  | first :: _ =>
    match first.target? with
    | some base => if a.isDeclaration base then some base else none
    | none => none
  | [] => none

/-- The first entry of a path of names that is seen from a declaration: among its members, then
from its first base, then from the containers around it. -/
def searchBases (a : Atlas) (names : List String) :
    Nat → EntryId → Except Misuse (Option EntryId)
  | 0, _ => .error .endless
  | steps + 1, id =>
    match a.details? id with
    | none => a.searchOutward names (a.size + 1) (some id)
    | some d =>
      match a.child? id names with
      | some found => .ok (some found)
      | none => do
        let inherited ← match a.firstBase? d with
          | some base => a.searchBases names steps base
          | none => .ok none
        match inherited with
        | some found => .ok (some found)
        | none => a.searchOutward names (a.size + 1) (a.parent? id)

/-- The search for a path of names from a container, along the first bases if asked to. -/
def search (a : Atlas) (id : EntryId) (names : List String) (alongBases : Bool) :
    Except Misuse (Option EntryId) :=
  if alongBases then a.searchBases names (a.size + 1) id
  else a.searchOutward names (a.size + 1) (some id)

end ApiAtlas.Atlas
