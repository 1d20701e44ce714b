import ApiAtlas.Atlas.Basic
import ApiAtlas.Text.Pieces

/-!
# Children

Adding children to containers, taking them away, and finding them by name. The list of children,
the index by name and the children's parents are three records of one relation, which these
operations keep in step.
-/

set_option autoImplicit false

namespace ApiAtlas

namespace Members

/-- The children with one more. -/
def insert (m : Members) (name : String) (id : EntryId) : Members :=
  ⟨m.ids ++ [id], m.byName.put name ((m.byName.get? name).getD [] ++ [id])⟩

/-- The children without one of them. -/
def erase (m : Members) (name : String) (id : EntryId) : Members :=
  ⟨m.ids.erase id,
    match m.byName.get? name with
    | some bucket => m.byName.put name (bucket.erase id)
    | none => m.byName⟩

/-- The first child of a name. -/
def first? (m : Members) (name : String) : Option EntryId :=
  ((m.byName.get? name).getD []).head?

end Members

namespace Atlas

/-- The children of an entry that must be able to hold some. -/
def fetchMembers (a : Atlas) (id : EntryId) : Except Misuse Members := do
  let e ← a.fetch id
  match e.members? with
  | some m => .ok m
  | none => .error .noSuchPart

/-- The children of an entry; none if it cannot hold any. -/
def childrenOf (a : Atlas) (id : EntryId) : List EntryId :=
  (((a.get? id).bind (·.members?)).map (·.ids)).getD []

/-- The atlas with the child's parent and the parent's children both recorded, unless the child
is already there. -/
def attach (a : Atlas) (parent child : EntryId) (name : String) : Atlas :=
  if (a.childrenOf parent).contains child then a
  else
    (a.modify child fun c => { c with parent := some parent }).modify parent fun p =>
      p.mapMembers fun m => m.insert name child

/-- The atlas with one more entry, which is a child of a container and registered for a symbol, and
the number of that entry. -/
def enter (a : Atlas) (scope : EntryId) (e : Entry) (symbol : Option String) : Atlas × EntryId :=
  let (b, id) := a.add e
  ((b.attach scope id e.name).register symbol id, id)

/-- The atlas with a child added to a container. A child that has another parent is refused. -/
def addChild (a : Atlas) (parent child : EntryId) : Except Misuse Atlas := do
  let _ ← a.fetchMembers parent
  let c ← a.fetch child
  match c.parent with
  | some other =>
    if other ≠ parent then .error (.ownedElsewhere c.text other)
    else .ok (a.attach parent child c.name)
  | none => .ok (a.attach parent child c.name)

/-- The atlas with a child taken away from a container, if it is one of its children. -/
def removeChild (a : Atlas) (parent child : EntryId) : Except Misuse Atlas := do
  let m ← a.fetchMembers parent
  let c ← a.fetch child
  if m.ids.contains child then
    .ok ((a.modify parent fun p => p.mapMembers fun m => m.erase c.name child).modify child
      fun c => { c with parent := none })
  else .ok a

/-- The entry that a path of names leads to from a container: at each step the first child of
that name. -/
def child? (a : Atlas) (id : EntryId) : List String → Option EntryId
  | [] => none
  | name :: names =>
    match ((a.get? id).bind (·.members?)).bind (·.first? name) with
    | some child => if names.isEmpty then some child else a.child? child names
    | none => none

/-- The entry that a path of names leads to from the project. -/
def find? (a : Atlas) (names : List String) : Option EntryId :=
  a.child? root names

end Atlas

end ApiAtlas
