import ApiAtlas.Atlas.Entry
import ApiAtlas.Text.Quoted

/-!
# The atlas

The documentation graph: the entries by number, the table of symbols, and the table of files.
Entries are numbered in the order in which they are added, from zero, which is the project itself.
-/

set_option autoImplicit false

namespace ApiAtlas

/-- A documentation graph. Entry number `i` stands at index `i`. -/
structure Atlas where
  entries : Array Entry
  symbols : Table String EntryId
  files : Table String (List EntryId)
  resolved : Bool
  deriving Repr, Inhabited

/-- How an operation on an atlas is misused: an entry that is not there, an entry that is added
twice or was never added, a child that has another parent, a search that never ends, or a part
that entries of this form do not have. -/
inductive Misuse where
  | unknownEntry (id : EntryId)
  | addedTwice (name : String) (id : EntryId)
  | neverAdded (name : String)
  | ownedElsewhere (child : String) (parent : EntryId)
  | endless
  | noSuchPart
  deriving DecidableEq, Repr, Inhabited

/-- The wording of a misuse. A search that never ends is cut off from outside, so it has no wording
of its own. -/
def Misuse.message? : Misuse → Option String
  | .unknownEntry id => some (toString id)
  | .addedTwice name id =>
    some ("reflection " ++ Text.quoted name ++ " already has id " ++ toString id)
  | .neverAdded name => some ("reflection " ++ Text.quoted name ++ " was never allocated")
  | .ownedElsewhere child parent =>
    some (child ++ " already belongs to reflection " ++ toString parent)
  | .endless => none
  | .noSuchPart => some "no such part"

namespace Atlas

/-- The number of the project. -/
def root : EntryId := 0

/-- An atlas that only has the project. -/
def create (name : String) : Atlas :=
  ⟨#[{ name := name, kind := .project, body := .project {} }], Table.empty, Table.empty, false⟩

/-- The number of entries. -/
def size (a : Atlas) : Nat :=
  a.entries.size

/-- The entry with a number, if there is one. -/
def get? (a : Atlas) (id : EntryId) : Option Entry :=
  a.entries[id]?

/-- The entry with a number that must be there. -/
def fetch (a : Atlas) (id : EntryId) : Except Misuse Entry :=
  match a.get? id with
  | some e => .ok e
  | none => .error (.unknownEntry id)

/-- The parent of an entry, if it has one. -/
def parent? (a : Atlas) (id : EntryId) : Option EntryId :=
  (a.get? id).bind (·.parent)

/-- The details of an entry, if it is a declaration. -/
def details? (a : Atlas) (id : EntryId) : Option Details :=
  (a.get? id).bind (·.details?)

/-- Whether an entry is a declaration. -/
def isDeclaration (a : Atlas) (id : EntryId) : Bool :=
  (a.details? id).isSome

/-- The name of an entry. -/
def nameOf (a : Atlas) (id : EntryId) : String :=
  ((a.get? id).map (·.name)).getD ""

/-- The numbers of all entries, in order. -/
def ids (a : Atlas) : List EntryId :=
  List.range a.size

/-- The numbers of the declarations, in order. -/
def declarations (a : Atlas) : List EntryId :=
  a.ids.filter a.isDeclaration

/-- The atlas with one more entry, and the number of that entry. -/
def add (a : Atlas) (e : Entry) : Atlas × EntryId :=
  ({ a with entries := a.entries.push e }, a.entries.size)

/-- The atlas with one entry changed. -/
def modify (a : Atlas) (id : EntryId) (f : Entry → Entry) : Atlas :=
  { a with entries := a.entries.modify id f }

/-- The entry that a symbol is registered for. -/
def lookup (a : Atlas) (symbol : Option String) : Option EntryId :=
  symbol.bind a.symbols.get?

/-- The atlas with a symbol registered for an entry. -/
def register (a : Atlas) (symbol : Option String) (id : EntryId) : Atlas :=
  match symbol with
  | some s => { a with symbols := a.symbols.put s id }
  | none => a

/-- The atlas with an entry noted as coming from a file. -/
def noteFile (a : Atlas) (file : String) (id : EntryId) : Atlas :=
  let noted := (a.files.get? file).getD []
  { a with files := a.files.put file (if noted.contains id then noted else noted ++ [id]) }

end Atlas

end ApiAtlas
