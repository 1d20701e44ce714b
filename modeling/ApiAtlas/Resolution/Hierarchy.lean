import ApiAtlas.Resolution.Members

/-!
# Type hierarchies

The hierarchy of a class or an interface: one layer for each level of its ancestors, the most
distant first, then the declaration itself, then those that extend it.
-/

set_option autoImplicit false

namespace ApiAtlas.Atlas

/-- The types that the declarations of a level extend. -/
def levelTypes (a : Atlas) (level : List EntryId) : List Ty :=
  level.flatMap fun id => ((a.details? id).map (·.extended)).getD []

/-- The hierarchy of a declaration; none for one that is no class or interface, and for one that
neither extends anything nor is extended. -/
def hierarchy (a : Atlas) (id : EntryId) (extendedBy : List Reference) : List Layer :=
  let above := ((a.levels id).map a.levelTypes).filter (!·.isEmpty)
  if !a.isClassOrInterface id || (above.isEmpty && extendedBy.isEmpty) then []
  else
    (above.reverse.map fun types => { types := types }) ++
      [{ types := [(a.referenceTo id).toTy], isTarget := true }] ++
      (if extendedBy.isEmpty then [] else [{ types := extendedBy.map Reference.toTy }])

/-- The links with the hierarchies of all declarations. -/
def addHierarchies (a : Atlas) (links : Array Links) : Array Links :=
  a.declarations.foldl
    (fun links id => links.modify id fun l => { l with hierarchy := a.hierarchy id l.extendedBy })
    links

end ApiAtlas.Atlas
