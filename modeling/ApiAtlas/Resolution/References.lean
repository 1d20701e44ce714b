import ApiAtlas.Resolution.Links

/-!
# Resolving references

Every reference gets the entry that is registered for its symbol. The references that get none
are listed by owner, and by their place in the owner's types.
-/

set_option autoImplicit false

namespace ApiAtlas.Atlas

/-- The atlas with every reference resolved whose symbol is registered. -/
def resolveReferences (a : Atlas) : Atlas :=
  { a with entries := a.entries.map fun e => e.mapTypes (Ty.resolve a.lookup) }

/-- The references of an entry that cannot be resolved. -/
def danglingIn (a : Atlas) (e : Entry) : List Reference :=
  (e.ownTypes.flatMap Ty.references).filter fun r => r.target.isNone && (a.lookup r.symbol).isNone

/-- The references that cannot be resolved, with the entries that hold them. -/
def dangling (a : Atlas) : List (EntryId × Reference) :=
  a.ids.flatMap fun id =>
    match a.get? id with
    | some e => (a.danglingIn e).map fun r => (id, r)
    | none => []

/-- The report on a reference that cannot be resolved. -/
def danglingReport (a : Atlas) (owner : EntryId) (r : Reference) : Diagnostic :=
  ⟨.unresolvedReference,
    "cannot resolve '" ++ r.name ++ "' in " ++ ((a.get? owner).map (·.text)).getD "",
    [("symbol", Json.ofText? r.symbol), ("owner", .nat owner)]⟩

end ApiAtlas.Atlas
