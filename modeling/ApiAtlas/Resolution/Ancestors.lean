import ApiAtlas.Resolution.Links

/-!
# Ancestors

The declarations that are reached from a declaration through what it extends, nearest first. The
search goes level by level and never looks at an entry twice, so that circles and diamonds do no
harm.
-/

set_option autoImplicit false

namespace ApiAtlas.Atlas

/-- The bases of a level that have not been seen, each once. -/
def nextLevel (a : Atlas) (seen level : List EntryId) : List EntryId :=
  ((level.flatMap a.bases).filter fun id => !seen.contains id).eraseDups

/-- The levels from one level on, at most `steps` of them. -/
def levelsFrom (a : Atlas) : Nat → List EntryId → List EntryId → List (List EntryId)
  | 0, _, _ => []
  | _ + 1, _, [] => []
  | steps + 1, seen, id :: level =>
    let next := a.nextLevel seen (id :: level)
    (id :: level) :: a.levelsFrom steps (seen ++ next) next

/-- The levels above a declaration, itself first. Every level has an entry that no level before it
has, so there are no more levels than entries. -/
def levels (a : Atlas) (id : EntryId) : List (List EntryId) :=
  a.levelsFrom (a.size + 1) [id] [id]

/-- The ancestors of a declaration, nearest first. -/
def ancestors (a : Atlas) (id : EntryId) : List EntryId :=
  (a.levels id).tail.flatten

/-- The interfaces that a declaration implements, by itself, by its ancestors, or because an
implemented interface extends them; each once. -/
def allInterfaces (a : Atlas) (id : EntryId) : List EntryId :=
  (((id :: a.ancestors id).flatMap a.interfaces).flatMap fun i => i :: a.ancestors i).eraseDups

end ApiAtlas.Atlas
