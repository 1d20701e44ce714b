import ApiAtlas.Atlas.Children
import ApiAtlas.Resolution.Ancestors

/-!
# Linking members

Who extends whom, and which base member a member stands for. A member that was copied from a base
is inherited from its origin; any other member overwrites the member of that name in the nearest
ancestor that has one. A member of a class also implements the member of that name in the first
implemented interface that has one. Static members and instance members are never linked to each
other.
-/

set_option autoImplicit false

namespace ApiAtlas.Atlas

/-- The links once each of some targets refers back to a declaration, which does not refer to
itself. `keep` appends references to those that the links of a target have. -/
def linkBack (a : Atlas) (id : EntryId) (keep : List Reference → Links → Links)
    (links : Array Links) (targets : List EntryId) : Array Links :=
  targets.foldl (fun links target =>
    if target = id then links else links.modify target (keep [a.referenceTo id])) links

/-- The links with the reverse edges of one declaration: what it extends refers back to it, and then
what it implements. -/
def linkReverseEdges (a : Atlas) (links : Array Links) (id : EntryId) : Array Links :=
  a.linkBack id Links.addImplementing (a.linkBack id Links.addExtending links (a.bases id))
    (a.interfaces id)

/-- The links of every entry before members are linked. -/
def reverseLinks (a : Atlas) : Array Links :=
  a.declarations.foldl a.linkReverseEdges (Array.replicate a.size {})

/-- The member that a member stands for in a declaration: the first of its name, if that is a
declaration and as static as the member is. -/
def counterpart? (a : Atlas) (member owner : EntryId) : Option EntryId :=
  match a.child? owner [a.nameOf member] with
  | some c =>
    if a.isDeclaration c && a.hasFlag c .isStatic == a.hasFlag member .isStatic then some c
    else none
  | none => none

/-- The member that a member stands for in the first declaration that has one. -/
def findMember? (a : Atlas) (owners : List EntryId) (member : EntryId) : Option EntryId :=
  owners.findSome? (a.counterpart? member)

/-- A reference to a member, named after its owner and itself. -/
def memberReference (a : Atlas) (id : EntryId) : Reference :=
  let owner := match a.parent? id with
    | some p => (a.get? p).map (·.name)
    | none => none
  { a.referenceTo id with
    name := match owner with
      | some o => o ++ "." ++ a.nameOf id
      | none => a.nameOf id }

/-- The base member that a member was copied from, if it is registered and stands elsewhere. -/
def originOf? (a : Atlas) (owner member : EntryId) : Option EntryId :=
  match a.lookup ((a.details? member).bind (·.origin)) with
  | some o =>
    if a.isDeclaration o && o ≠ member && a.parent? o ≠ some owner then some o else none
  | none => none

/-- The links of a member of a declaration with the given ancestors and interfaces. -/
def linkMember (a : Atlas) (owner : EntryId) (ancestors interfaces : List EntryId)
    (member : EntryId) (l : Links) : Links :=
  let l := match a.originOf? owner member with
    | some o => { l with inheritedFrom := some (a.memberReference o) }
    | none =>
      match a.findMember? ancestors member with
      | some o => { l with overwrites := some (a.memberReference o) }
      | none => l
  if interfaces.isEmpty || a.hasFlag member .isStatic then l
  else match a.findMember? interfaces member with
    | some i => { l with implementationOf := some (a.memberReference i) }
    | none => l

/-- The links with those of the members of one class or interface. All of its children must be in
the atlas if it has any ancestors or interfaces. -/
def linkMembers (a : Atlas) (links : Array Links) (id : EntryId) :
    Except Misuse (Array Links) := do
  let ancestors := a.ancestors id
  let interfaces := if a.kindOf id = .class then a.allInterfaces id else []
  if ancestors.isEmpty && interfaces.isEmpty then .ok links
  else
    let children := a.childrenOf id
    let _ ← children.mapM a.fetch
    .ok ((children.filter a.isDeclaration).foldl
      (fun links m => links.modify m (a.linkMember id ancestors interfaces m)) links)

/-- The links of every entry, hierarchies left out. -/
def memberLinks (a : Atlas) : Except Misuse (Array Links) :=
  (a.declarations.filter a.isClassOrInterface).foldlM a.linkMembers a.reverseLinks

end ApiAtlas.Atlas
