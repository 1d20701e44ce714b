import ApiAtlas.Resolution.Comments
import ApiAtlas.Resolution.Hierarchy
import ApiAtlas.Resolution.References

/-!
# Resolution

Closing the atlas after all files are converted: references get their targets, declarations their
links, and documentation is inherited. An atlas is resolved once.
-/

set_option autoImplicit false

namespace ApiAtlas

/-- Why an atlas is not resolved. -/
inductive Refusal where
  | failure (f : Failure)
  | misuse (m : Misuse)
  deriving DecidableEq, Repr, Inhabited

namespace Atlas

/-- The links of an atlas whose references are resolved. -/
def allLinks (a : Atlas) : Except Misuse (Array Links) := do
  .ok (a.addHierarchies (← a.memberLinks))

/-- The links and the inherited documentation of an atlas whose references are resolved. -/
def complete (a : Atlas) : Except Misuse (Atlas × Array Links) := do
  let links ← a.allLinks
  let documented ← a.inheritComments links
  .ok ({ documented with resolved := true }, links)

/-- The atlas after resolution, and what resolution found. When the links cannot be made the
references stay resolved. -/
def resolve (a : Atlas) : Atlas × Except Refusal Resolved :=
  if a.resolved then
    (a, .error (.failure (.alreadyResolved (a.nameOf root))))
  else
    let dangling := a.dangling
    let referring := a.resolveReferences
    match referring.complete with
    | .ok (closed, links) =>
      (closed, .ok
        { atlas := closed
          links := links
          unresolved := dangling.map (·.2)
          diagnostics := dangling.map fun d => a.danglingReport d.1 d.2 })
    | .error m => (referring, .error (.misuse m))

end Atlas

end ApiAtlas
