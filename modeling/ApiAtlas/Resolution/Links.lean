import ApiAtlas.Atlas.Basic
import ApiAtlas.Report.Diagnostic

/-!
# Links between declarations

What resolution finds out about a declaration: who extends and implements it, which member of a
base it inherits, overwrites or implements, and its place in the type hierarchy. Links stand
beside the atlas, by entry number.
-/

set_option autoImplicit false

namespace ApiAtlas

/-- One level of a type hierarchy; the target is the declaration whose hierarchy it is. -/
structure Layer where
  types : List Ty
  isTarget : Bool := false
  deriving Repr, Inhabited

/-- The links of one declaration. A hierarchy is listed from the most distant bases down. -/
structure Links where
  extendedBy : List Reference := []
  implementedBy : List Reference := []
  inheritedFrom : Option Reference := none
  overwrites : Option Reference := none
  implementationOf : Option Reference := none
  hierarchy : List Layer := []
  deriving Repr, Inhabited

/-- Whether nothing is linked. -/
def Links.isEmpty (l : Links) : Bool :=
  l.extendedBy.isEmpty && l.implementedBy.isEmpty && l.inheritedFrom.isNone &&
    l.overwrites.isNone && l.implementationOf.isNone && l.hierarchy.isEmpty

/-- The links with more references to declarations that extend this one. -/
def Links.addExtending (refs : List Reference) (l : Links) : Links :=
  { l with extendedBy := l.extendedBy ++ refs }

/-- The links with more references to declarations that implement this one. -/
def Links.addImplementing (refs : List Reference) (l : Links) : Links :=
  { l with implementedBy := l.implementedBy ++ refs }

/-- An atlas with its links, the references that were left without target, and the problems. -/
structure Resolved where
  atlas : Atlas
  links : Array Links
  unresolved : List Reference
  diagnostics : List Diagnostic
  deriving Inhabited

/-- The links of an entry; there are none for an entry that is unknown. -/
def Resolved.linksOf (r : Resolved) (id : EntryId) : Links :=
  r.links[id]?.getD {}

namespace Atlas

/-- The declaration that a type refers to. -/
def target? (a : Atlas) (t : Ty) : Option EntryId :=
  match t.target? with
  | some id => if a.isDeclaration id then some id else none
  | none => none

/-- The declarations that a declaration extends directly. -/
def bases (a : Atlas) (id : EntryId) : List EntryId :=
  (((a.details? id).map (·.extended)).getD []).filterMap a.target?

/-- The declarations that a declaration implements directly. -/
def interfaces (a : Atlas) (id : EntryId) : List EntryId :=
  (((a.details? id).map (·.implemented)).getD []).filterMap a.target?

/-- A resolved reference to a declaration. -/
def referenceTo (a : Atlas) (id : EntryId) : Reference :=
  ⟨a.nameOf id, (a.details? id).bind (·.symbol), some id⟩

/-- Whether an entry has a flag. -/
def hasFlag (a : Atlas) (id : EntryId) (f : Flag) : Bool :=
  ((a.get? id).map (·.flags.has f)).getD false

/-- The kind of an entry. -/
def kindOf (a : Atlas) (id : EntryId) : Kind :=
  ((a.get? id).map (·.kind)).getD (.mixed 0)

/-- Whether an entry is a class or an interface. -/
def isClassOrInterface (a : Atlas) (id : EntryId) : Bool :=
  (a.kindOf id).isIn Kind.classOrInterface

end Atlas

end ApiAtlas
