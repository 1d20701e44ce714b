import ApiAtlas.Atlas.Children
import ApiAtlas.Atlas.Owned
import ApiAtlas.Json.Shown

/-!
# Outlines

The tree of children as a list of rows: the path of names, the kind, and the number of overloads.
An outline can be made from the atlas and from the written atlas; both give the same rows. Written
data need not come from an atlas: names and kinds may be any values then, and an entry of another
form is a problem.
-/

set_option autoImplicit false

namespace ApiAtlas

/-- One row of an outline; `τ` is the type of its path and its kind. -/
structure OutlineRow (τ : Type) where
  path : τ
  kind : τ
  signatures : Nat
  deriving DecidableEq, Repr, Inhabited

namespace OutlineRow

/-- The path of a child. -/
def childPath (above name : String) : String :=
  if above.isEmpty then name else above ++ "." ++ name

/-- The row as it is read back from written data. -/
def written (row : OutlineRow String) : OutlineRow Json :=
  ⟨.str row.path, .str row.kind, row.signatures⟩

end OutlineRow

namespace Atlas

/-- The row of a child below a path. -/
def outlineRow (above : String) (e : Entry) : OutlineRow String :=
  ⟨OutlineRow.childPath above e.name, e.kind.text, ((e.details?.map (·.signatures.length)).getD 0)⟩

/-- The rows of some children below a path, each followed by the rows below it. -/
def outlineRows (rowsBelow : String → EntryId → Except Misuse (List (OutlineRow String)))
    (above : String) (children : List (EntryId × Entry)) :
    Except Misuse (List (OutlineRow String)) := do
  let rows ← children.mapM fun (id, e) => do
    let row := outlineRow above e
    let below ← if e.members?.isSome then rowsBelow row.path id else .ok []
    .ok (row :: below)
  .ok rows.flatten

/-- The rows below an entry that stands at a path, at most `depth` levels deep. -/
def outlineAt (a : Atlas) : Nat → String → EntryId → Except Misuse (List (OutlineRow String))
  | 0, _, _ => .error .endless
  | depth + 1, above, id => do
    let children := a.childrenOf id
    let entries ← a.fetchAll children
    outlineRows (a.outlineAt depth) above (children.zip entries)

/-- The outline of an atlas. -/
def outline (a : Atlas) : Except Misuse (List (OutlineRow String)) :=
  a.outlineAt (a.size + 1) "" root

end Atlas

/-- What is wrong with an entry in written data: a field is missing, the data is not an object, the
children or the overloads are no collection, or a child has no fields. -/
inductive OutlineProblem where
  | missing (key : String)
  | notObject (type : String)
  | notIterable (type : String)
  | notSized (type : String)
  | noFields (type : String)
  deriving DecidableEq, Repr, Inhabited

/-- The wording of a problem. -/
def OutlineProblem.message : OutlineProblem → String
  | .missing key => Text.quoted key
  | .notObject type => "'" ++ type ++ "' object has no attribute 'get'"
  | .notIterable type => "'" ++ type ++ "' object is not iterable"
  | .notSized type => "object of type '" ++ type ++ "' has no len()"
  | .noFields type =>
    if type = "str" then "string indices must be integers, not 'str'"
    else if type = "list" then "list indices must be integers or slices, not str"
    else "'" ++ type ++ "' object is not subscriptable"

namespace Json

/-- The value in a field that a written entry must have. -/
def fetch (key : String) (data : Json) : Except OutlineProblem Json :=
  match data with
  | .obj _ =>
    match data.get? key with
    | some value => .ok value
    | none => .error (.missing key)
  | other => .error (.noFields other.typeName)

/-- The number of items of a collection. -/
def count : Json → Except OutlineProblem Nat
  | .arr items => .ok items.length
  | .obj fields => .ok fields.length
  | .str s => .ok s.length
  | other => .error (.notSized other.typeName)

/-- The number of overloads of a written entry. -/
def overloads (data : Json) : Except OutlineProblem Nat :=
  match data.get? "signatures" with
  | some value => count value
  | none => .ok 0

/-- The path of a written child. A name alone is kept as it is. -/
def childPath (above name : Json) : Json :=
  if above.isNothing then name else .str (above.shown ++ "." ++ name.shown)

/-- What is wrong with children that are not in a list. Text and objects are collections too, but
of texts. -/
def looseChildren {α : Type} (children : Json) : Except OutlineProblem (List α) :=
  match children with
  | .str s => if s.isEmpty then .ok [] else .error (.noFields "str")
  | .obj fields => if fields.isEmpty then .ok [] else .error (.noFields "str")
  | other => .error (.notIterable other.typeName)

mutual

/-- The rows of the children in a written entry that stands at a path. -/
def outlineAt (above : Json) : Json → Except OutlineProblem (List (OutlineRow Json))
  | .obj fields => outlineChildren above fields
  | other => .error (.notObject other.typeName)

/-- The rows of the children among the fields of a written entry. -/
def outlineChildren (above : Json) :
    List (String × Json) → Except OutlineProblem (List (OutlineRow Json))
  | [] => .ok []
  | (key, .arr items) :: fields =>
    if key = "children" then outlineItems above items else outlineChildren above fields
  | (key, value) :: fields =>
    if key = "children" then looseChildren value else outlineChildren above fields

/-- The rows of written children, each followed by the rows below it. -/
def outlineItems (above : Json) : List Json → Except OutlineProblem (List (OutlineRow Json))
  | [] => .ok []
  | item :: items => do
    let name ← item.fetch "name"
    let path := childPath above name
    let kind ← item.fetch "kindString"
    let signatures ← overloads item
    let below ← outlineAt path item
    let rest ← outlineItems above items
    .ok (⟨path, kind, signatures⟩ :: below ++ rest)

end

/-- The outline of a written atlas, or what is wrong in it. -/
def outline (data : Json) : Except OutlineProblem (List (OutlineRow Json)) :=
  outlineAt (.str "") data

end Json

end ApiAtlas
