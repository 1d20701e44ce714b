import ApiAtlas.Atlas.Search
import ApiAtlas.Comment.Inherited
import ApiAtlas.Resolution.Links
import ApiAtlas.Text.Blank

/-!
# Inheriting documentation

A declaration without documentation, or with a tag that asks for it, takes it from another one: the
declaration that the tag names, or else the member that it implements, overwrites or inherits. The
source is completed first, so that documentation reaches down a whole chain. On a circle of
sources the walk stops at the first declaration that is on its way already.
-/

set_option autoImplicit false

namespace ApiAtlas

namespace Atlas

/-- The declaration that a tag of an entry names, seen from the entry's surroundings. -/
def namedSource (a : Atlas) (id : EntryId) (text : String) : Except Misuse (Option EntryId) := do
  let names :=
    (Text.dotted (String.ofList (Text.trim (Text.oneOf "\x7b\x7d ") text.toList))).filter
      (!·.isEmpty)
  if names.isEmpty then .ok none
  else
    let found ← match (a.parent? id).filter a.isDeclaration with
      | some start => a.search start names true
      | none => .ok (a.find? names)
    .ok (found.filter fun f => a.isDeclaration f && f ≠ id)

/-- The member that a declaration is linked to, the implemented one before the others. -/
def linkedSource? (a : Atlas) (l : Links) : Option EntryId :=
  [l.implementationOf, l.overwrites, l.inheritedFrom].findSome? fun r =>
    (r.bind (·.target)).filter a.isDeclaration

/-- The comment of the entry with a number. -/
def commentOf (a : Atlas) (id : EntryId) : Option Comment :=
  (a.get? id).bind (·.comment)

/-- The declaration that a declaration takes its documentation from. -/
def commentSource (a : Atlas) (links : Array Links) (id : EntryId) :
    Except Misuse (Option EntryId) := do
  let comment := a.commentOf id
  let tag := comment.bind fun c => c.tag? Comment.inheritTag none
  match comment, tag with
  | some c, none => if c.isEmpty then .ok (a.linkedSource? (links[id]?.getD {})) else .ok none
  | _, some t =>
    let named ← if t.text.isEmpty then .ok none else a.namedSource id t.text
    match named with
    | some source => .ok (some source)
    | none => .ok (a.linkedSource? (links[id]?.getD {}))
  | none, none => .ok (a.linkedSource? (links[id]?.getD {}))

/-- The atlas with the comment of one entry changed. -/
def setComment (a : Atlas) (id : EntryId) (c : Comment) : Atlas :=
  a.modify id fun e => { e with comment := some c }

/-- The signatures of two declarations that correspond: overloads by their position, getters and
setters to each other. -/
def signaturePairs (mine theirs : Details) : List (EntryId × EntryId) :=
  mine.signatures.zip theirs.signatures ++
    (mine.getSignature.toList.zip theirs.getSignature.toList) ++
    (mine.setSignature.toList.zip theirs.setSignature.toList)

/-- Whether a signature with a comment takes over documentation: it has none, or asks for it. -/
def asksForComment (comment : Option Comment) : Bool :=
  match comment with
  | some c => c.hasTag Comment.inheritTag
  | none => true

/-- The atlas with the documentation of one signature taken over by another that has none or asks
for it. -/
def inheritSignature (a : Atlas) (pair : EntryId × EntryId) : Atlas :=
  match a.get? pair.1, a.get? pair.2 with
  | some mine, some theirs =>
    match theirs.comment with
    | some inherited =>
      if mine.shape?.isSome && theirs.shape?.isSome && asksForComment mine.comment then
        a.setComment pair.1 (Comment.inherit inherited mine.comment)
      else a
    | none => a
  | _, _ => a

/-- The atlas with the documentation of the signatures of one declaration taken over by those of
another. -/
def inheritSignatures (a : Atlas) (id source : EntryId) : Atlas :=
  match a.details? id, a.details? source with
  | some mine, some theirs => (signaturePairs mine theirs).foldl inheritSignature a
  | _, _ => a

/-- The atlas with the comment of one declaration taken over from another one that has one. -/
def inheritComment (a : Atlas) (id source : EntryId) : Atlas :=
  match a.commentOf source with
  | some inherited => a.setComment id (Comment.inherit inherited (a.commentOf id))
  | none => a

/-- The atlas with the documentation of one declaration and of its signatures taken over from
another one. -/
def takeOver (a : Atlas) (id source : EntryId) : Atlas :=
  (a.inheritComment id source).inheritSignatures id source

end Atlas

/-- The state of the walk: the atlas so far, and the declarations that are completed. -/
structure CommentWalk where
  atlas : Atlas
  done : List EntryId

/-- How many of the first `n` entries are not on a path. -/
def offPath (n : Nat) (path : List EntryId) : Nat :=
  ((List.range n).filter fun i => !path.contains i).length

/-- A path that is longer by an entry leaves fewer entries off it. -/
theorem offPath_cons_lt {n : Nat} {path : List EntryId} {id : EntryId} (h : id < n)
    (hp : path.contains id = false) : offPath n (id :: path) < offPath n path := by
  have key : (List.range n).filter (fun i => !(id :: path).contains i)
      = ((List.range n).filter fun i => !path.contains i).filter (fun i => i != id) := by
    rw [List.filter_filter]
    apply List.filter_congr
    intro i _
    by_cases hi : i = id <;> simp [hi, bne]
  have hmem : id ∈ (List.range n).filter fun i => !path.contains i := by
    rw [List.mem_filter]
    exact ⟨List.mem_range.2 h, by rw [hp]; rfl⟩
  unfold offPath
  rw [key]
  apply List.length_filter_lt_length_iff_exists.2
  exact ⟨id, hmem, by simp⟩

namespace CommentWalk

/-- Completes the documentation of one declaration, after that of its source; `path` holds the
declarations that are on their way. -/
def visit (links : Array Links) (n : Nat) (path : List EntryId) (id : EntryId)
    (w : CommentWalk) : Except Misuse CommentWalk :=
  if h : id < n ∧ path.contains id = false then
    if w.done.contains id then .ok w
    else do
      let source ← w.atlas.commentSource links id
      let w ← match source with
        | some s => do
          let w ← visit links n (id :: path) s w
          pure { w with atlas := w.atlas.takeOver id s }
        | none => pure w
      pure { w with done := w.done ++ [id] }
  else .ok w
termination_by offPath n path
decreasing_by exact offPath_cons_lt h.1 h.2

end CommentWalk

/-- The walk over some declarations of an atlas, one after the other. -/
def Atlas.walkComments (a : Atlas) (links : Array Links) (order : List EntryId) :
    Except Misuse CommentWalk :=
  order.foldlM (fun w id => CommentWalk.visit links a.size [] id w) ⟨a, []⟩

/-- The atlas with the documentation of all declarations completed. -/
def Atlas.inheritComments (a : Atlas) (links : Array Links) : Except Misuse Atlas := do
  .ok (← a.walkComments links a.declarations).atlas

end ApiAtlas
