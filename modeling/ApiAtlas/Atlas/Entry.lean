import ApiAtlas.Comment.Basic
import ApiAtlas.Flags
import ApiAtlas.Kind
import ApiAtlas.Table
import ApiAtlas.Ty.Basic

/-!
# Entries

One vertex of the atlas: what every entry has, and what its form adds. Entries refer to one
another by number only. A container keeps its children twice, in order and by the name they had
when they were added.
-/

set_option autoImplicit false

namespace ApiAtlas

/-- A place in a source file. -/
structure SourceRef where
  file : String
  line : Option Int
  deriving DecidableEq, Repr, Inhabited

/-- The children of a container, in order, and by name. -/
structure Members where
  ids : List EntryId := []
  byName : Table String (List EntryId) := Table.empty
  deriving Repr, Inhabited

/-- What is known about a declaration besides its children. All declarations of one symbol share
an entry; `signatures` are its overloads in source order. -/
structure Details where
  type : Option Ty := none
  typeParameters : List EntryId := []
  signatures : List EntryId := []
  indexSignature : Option EntryId := none
  getSignature : Option EntryId := none
  setSignature : Option EntryId := none
  defaultValue : Option String := none
  extended : List Ty := []
  implemented : List Ty := []
  sources : List SourceRef := []
  symbol : Option String := none
  origin : Option String := none
  deriving Repr, Inhabited

/-- What is known about a signature. -/
structure Shape where
  parameters : List EntryId := []
  type : Option Ty := none
  typeParameters : List EntryId := []
  deriving Repr, Inhabited

/-- The form of an entry with what belongs to it. -/
inductive Body where
  | plain
  | container (members : Members)
  | declaration (members : Members) (details : Details)
  | signature (shape : Shape)
  | parameter (type : Option Ty) (defaultValue : Option String)
  | typeParameter (constraint default : Option Ty)
  | project (members : Members)
  deriving Repr, Inhabited

/-- A vertex of the atlas. -/
structure Entry where
  name : String
  kind : Kind
  flags : Flags := Flags.none
  comment : Option Comment := none
  parent : Option EntryId := none
  body : Body
  deriving Repr, Inhabited

namespace Entry

/-- The children of an entry that can hold some. -/
def members? (e : Entry) : Option Members :=
  match e.body with
  | .container m => some m
  | .declaration m _ => some m
  | .project m => some m
  | _ => none

/-- The details of an entry that is a declaration. -/
def details? (e : Entry) : Option Details :=
  match e.body with
  | .declaration _ d => some d
  | _ => none

/-- The shape of an entry that is a signature. -/
def shape? (e : Entry) : Option Shape :=
  match e.body with
  | .signature s => some s
  | _ => none

/-- Whether an entry is a declaration. -/
def isDeclaration (e : Entry) : Bool :=
  e.details?.isSome

/-- Whether an entry is a type parameter. -/
def isTypeParameter (e : Entry) : Bool :=
  match e.body with
  | .typeParameter .. => true
  | _ => false

/-- The entry with its children changed, if it can hold some. -/
def mapMembers (f : Members → Members) (e : Entry) : Entry :=
  match e.body with
  | .container m => { e with body := .container (f m) }
  | .declaration m d => { e with body := .declaration (f m) d }
  | .project m => { e with body := .project (f m) }
  | _ => e

/-- The entry with its details changed, if it is a declaration. -/
def mapDetails (f : Details → Details) (e : Entry) : Entry :=
  match e.body with
  | .declaration m d => { e with body := .declaration m (f d) }
  | _ => e

/-- The entry with its shape changed, if it is a signature. -/
def mapShape (f : Shape → Shape) (e : Entry) : Entry :=
  match e.body with
  | .signature s => { e with body := .signature (f s) }
  | _ => e

/-- The type parameters of an entry that can have some. -/
def typeParameters (e : Entry) : List EntryId :=
  match e.body with
  | .declaration _ d => d.typeParameters
  | .signature s => s.typeParameters
  | _ => []

/-- The entry with one more type parameter, if it can have some. -/
def addTypeParameter (id : EntryId) (e : Entry) : Entry :=
  (e.mapDetails fun d => { d with typeParameters := d.typeParameters ++ [id] }).mapShape
    fun s => { s with typeParameters := s.typeParameters ++ [id] }

/-- The types that an entry holds itself, in the order in which they are looked at. -/
def ownTypes (e : Entry) : List Ty :=
  match e.body with
  | .declaration _ d => d.type.toList ++ d.extended ++ d.implemented
  | .signature s => s.type.toList
  | .parameter type _ => type.toList
  | .typeParameter constraint default => constraint.toList ++ default.toList
  | _ => []

/-- The entry with each of its own types changed. -/
def mapTypes (f : Ty → Ty) (e : Entry) : Entry :=
  match e.body with
  | .declaration m d =>
    { e with
      body := .declaration m
        { d with
          type := d.type.map f
          extended := d.extended.map f
          implemented := d.implemented.map f } }
  | .signature s => { e with body := .signature { s with type := s.type.map f } }
  | .parameter type value => { e with body := .parameter (type.map f) value }
  | .typeParameter constraint default =>
    { e with body := .typeParameter (constraint.map f) (default.map f) }
  | _ => e

/-- An entry in one line: its kind and its name, and the type of a declaration that has one. -/
def text (e : Entry) : String :=
  e.kind.text ++ " " ++ e.name ++
    match e.details?.bind (·.type) with
    | some t => ":" ++ t.text
    | none => ""

end Entry

/-- All signatures of a declaration: its overloads, then its index, get and set signature. -/
def Details.allSignatures (d : Details) : List EntryId :=
  d.signatures ++ d.indexSignature.toList ++ d.getSignature.toList ++ d.setSignature.toList

end ApiAtlas
