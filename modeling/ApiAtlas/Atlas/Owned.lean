import ApiAtlas.Atlas.Basic

/-!
# Owned entries

Every entry owns the entries in its slots: type parameters, inline declarations of its own types,
signatures, parameters and children. Following the slots from the project leads through the whole
atlas.
-/

set_option autoImplicit false

namespace ApiAtlas

/-- The slots that hold owned entries. -/
inductive Slot where
  | children
  | typeParameters
  | typeLiteral
  | signatures
  | indexSignature
  | getSignature
  | setSignature
  | parameters
  deriving DecidableEq, Repr, Inhabited

/-- The name of a slot. -/
def Slot.word : Slot → String
  | .children => "children"
  | .typeParameters => "typeParameters"
  | .typeLiteral => "typeLiteral"
  | .signatures => "signatures"
  | .indexSignature => "indexSignature"
  | .getSignature => "getSignature"
  | .setSignature => "setSignature"
  | .parameters => "parameters"

/-- The entries in a slot. -/
def Slot.holding (slot : Slot) (ids : List EntryId) : List (EntryId × Slot) :=
  ids.map fun id => (id, slot)

namespace Atlas

/-- The inline declarations of an entry's own types that are in the atlas. -/
def ownLiterals (a : Atlas) (e : Entry) : List EntryId :=
  (e.ownTypes.flatMap Ty.literals).filter fun id => (a.get? id).isSome

/-- The entries that an entry holds in its slots, with the slots. -/
def slots (a : Atlas) (e : Entry) : List (EntryId × Slot) :=
  let literals := Slot.typeLiteral.holding (a.ownLiterals e)
  match e.body with
  | .plain | .parameter .. | .typeParameter .. => literals
  | .container m | .project m => literals ++ Slot.children.holding m.ids
  | .declaration m d =>
    Slot.typeParameters.holding d.typeParameters ++ literals ++
      Slot.signatures.holding d.signatures ++
      Slot.indexSignature.holding d.indexSignature.toList ++
      Slot.getSignature.holding d.getSignature.toList ++
      Slot.setSignature.holding d.setSignature.toList ++ Slot.children.holding m.ids
  | .signature s =>
    Slot.typeParameters.holding s.typeParameters ++ literals ++
      Slot.parameters.holding s.parameters

/-- The entries that an entry owns, with the slots that hold them; all of them must be in the
atlas. -/
def owned (a : Atlas) (id : EntryId) : Except Misuse (List (EntryId × Slot)) := do
  let held := a.slots (← a.fetch id)
  match held.find? fun h => (a.get? h.1).isNone with
  | some (missing, _) => .error (.unknownEntry missing)
  | none => .ok held

/-- The entries that must be there for a list of numbers. -/
def fetchAll (a : Atlas) (ids : List EntryId) : Except Misuse (List Entry) :=
  ids.mapM a.fetch

end Atlas

end ApiAtlas
