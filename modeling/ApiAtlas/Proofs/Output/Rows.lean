import ApiAtlas.Output.Outline
import ApiAtlas.Proofs.Atlas.Chains
import ApiAtlas.Proofs.Conversion.SideBySide
import ApiAtlas.Proofs.Resolution.Outcome

/-!
# Rows of an outline

Where children are younger than their containers an outline never runs out of depth: it has the rows
below each of the children of the project (`Atlas.rowsAt`). The rows of a file do not depend on
where it stands among others, and resolution leaves them as they are.
-/

set_option autoImplicit false

namespace ApiAtlas

namespace Atlas

variable {a b : Atlas} {i : EntryId}

/-- The row of a child below a path, if the child is there, followed by the rows below it. -/
def rowsOf (a : Atlas) (rowsBelow : String → EntryId → List (OutlineRow String)) (above : String)
    (c : EntryId) : List (OutlineRow String) :=
  match a.get? c with
  | some e =>
    let row := outlineRow above e
    row :: if e.members?.isSome then rowsBelow row.path c else []
  | none => []

/-- The rows below an entry that stands at a path, at most `depth` levels deep. -/
def rowsAt (a : Atlas) : Nat → String → EntryId → List (OutlineRow String)
  | 0, _, _ => []
  | depth + 1, above, i => (a.childrenOf i).flatMap (a.rowsOf (a.rowsAt depth) above)

/-- Rows of entries that are there are put together from the row of each and the rows below it. -/
theorem outlineRows_eq {below : String → EntryId → Except Misuse (List (OutlineRow String))}
    {rowsBelow : String → EntryId → List (OutlineRow String)} {above : String}
    {cs : List EntryId} {es : List Entry}
    (hget : List.Forall₂ (fun c e => a.get? c = some e) cs es)
    (hbelow : ∀ c ∈ cs, ∀ path, below path c = .ok (rowsBelow path c)) :
    outlineRows below above (cs.zip es) = .ok (cs.flatMap (a.rowsOf rowsBelow above)) := by
  have each : (cs.zip es).mapM (fun p => do
        let row := outlineRow above p.2
        let rows ← if p.2.members?.isSome then below row.path p.1 else .ok []
        .ok (row :: rows)) = .ok (cs.map (a.rowsOf rowsBelow above)) := by
    induction hget with
    | nil => rfl
    | @cons c e cs es he _ ih =>
      rw [List.zip_cons_cons, List.mapM_cons, List.map_cons, rowsOf, he,
        ih fun c' hc' => hbelow c' (List.mem_cons_of_mem _ hc')]
      dsimp only
      rw [hbelow c (List.mem_cons_self ..)]
      split <;> rfl
  exact congrArg (fun x : Except Misuse _ => x >>= fun rows => Except.ok (List.flatten rows)) each

/-- An outline does not run out of depth when the children are younger. -/
theorem Identified.outlineAt_eq (h : a.Identified)
    (hp : ∀ p, ∀ c ∈ a.childrenOf p, a.parent? c = some p) {depth : Nat} (above : String)
    (hi : i < a.size) (hdepth : a.size < i + depth) :
    a.outlineAt depth above i = .ok (a.rowsAt depth above i) := by
  induction depth generalizing above i with
  | zero => exact absurd hdepth (Nat.lt_asymm hi)
  | succ depth ih =>
    obtain ⟨es, hes, hget⟩ := fetchAll_ok fun c hc => h.children i c hc
    have hbelow : ∀ c ∈ a.childrenOf i, ∀ path,
        a.outlineAt depth path c = .ok (a.rowsAt depth path c) := by
      intro c hc path
      have hlt : i + 1 ≤ c := h.parent?_lt (hp i c hc)
      refine ih path (h.children i c hc) (Nat.lt_of_lt_of_le hdepth ?_)
      exact Nat.succ_add_eq_add_succ i depth ▸ Nat.add_le_add_right hlt depth
    rw [outlineAt, hes]
    exact outlineRows_eq hget hbelow

/-- In an identified atlas whose children have their parents, the outline consists of the rows below
the project. -/
theorem Identified.outline_eq (h : a.Identified)
    (hp : ∀ p, ∀ c ∈ a.childrenOf p, a.parent? c = some p) :
    a.outline = .ok (a.rowsAt (a.size + 1) "" root) :=
  h.outlineAt_eq hp "" h.zero_lt_size (by omega)

/-- The rows of two children are the same when the entries have the same row and so have the
children below them. -/
theorem rowsOf_eq {below below' : String → EntryId → List (OutlineRow String)} {c j : EntryId}
    {e e' : Entry} (he : a.get? c = some e) (he' : b.get? j = some e')
    (hrow : ∀ above, outlineRow above e' = outlineRow above e)
    (hmembers : e'.members?.isSome = e.members?.isSome)
    (hbelow : ∀ path, below' path j = below path c) (above : String) :
    b.rowsOf below' above j = a.rowsOf below above c := by
  rw [rowsOf, rowsOf, he, he']
  simp only [hrow, hmembers, hbelow]

/-- Renumbering an entry leaves its row. -/
theorem outlineRow_rename (φ : EntryId → EntryId) (above : String) (e : Entry) :
    outlineRow above (e.rename φ) = outlineRow above e := by
  obtain ⟨name, kind, flags, comment, parent, body⟩ := e
  cases body with
  | declaration m d =>
    have hlength : (d.signatures.map φ).length = d.signatures.length := List.length_map _
    exact congrArg (OutlineRow.mk _ _) hlength
  | _ => rfl

/-- Resolution leaves the rows as they are. -/
theorem Resolves.rowsAt_eq (h : a.Resolves b) (depth : Nat) (above : String) (i : EntryId) :
    b.rowsAt depth above i = a.rowsAt depth above i := by
  have hrow : ∀ (f : Ty → Ty) (c : Option Comment) (above : String) (e : Entry),
      outlineRow above { e.mapTypes f with comment := c } = outlineRow above e := by
    intro f c above e
    obtain ⟨name, kind, flags, comment, parent, body⟩ := e
    cases body <;> rfl
  induction depth generalizing above i with
  | zero => rfl
  | succ depth ih =>
    rw [rowsAt, rowsAt, h.childrenOf_eq]
    refine List.flatMap_congr fun c _ => ?_
    obtain ⟨comment, hc⟩ := h.entries c
    cases he : a.get? c with
    | none =>
      rw [he] at hc
      rw [rowsOf, rowsOf, hc, he]
      rfl
    | some e =>
      rw [he] at hc
      refine rowsOf_eq he hc (fun above => hrow _ comment above e) ?_ (fun path => ih path c) above
      exact congrArg Option.isSome (e.members?_mapTypes _)

end Atlas

namespace Draft

open Atlas (root)

variable {settings : Settings} {files : List (Nat × Source.File)} {x : Draft}
  {p : Nat × Source.File} {i c : EntryId} {e : Entry}

namespace LaidOut

/-- The children of an entry of a file are those that it has when the file is alone, behind what
comes before. -/
theorem childrenOf_eq (h : LaidOut settings files x) (hp : p ∈ files) (hi : i ≠ root)
    (he : (alone settings p.2).atlas.get? i = some e) :
    x.atlas.childrenOf (i + p.1) =
      ((alone settings p.2).atlas.childrenOf i).map (behind p.1) := by
  rw [Atlas.childrenOf_eq (h.entry p hp i e hi he), Atlas.childrenOf_eq he, e.members?_rename]
  cases e.members? <;> rfl

/-- The rows of a child are those that it has when its file is alone. -/
theorem rowsOf_behind (h : LaidOut settings files x) (hp : p ∈ files)
    (hc : c ∈ (alone settings p.2).atlas.childrenOf i)
    {below below' : String → EntryId → List (OutlineRow String)}
    (hbelow : ∀ path, below' path (behind p.1 c) = below path c) (above : String) :
    x.atlas.rowsOf below' above (behind p.1 c) =
      (alone settings p.2).atlas.rowsOf below above c := by
  obtain ⟨e, he⟩ := Atlas.exists_get? ((alone_identified settings p.2).children i c hc)
  have hne := ne_root_of_mem_childrenOf hc
  have he' := h.entry p hp c e hne he
  rw [← behind_of_ne hne] at he'
  refine Atlas.rowsOf_eq he he' (fun above => Atlas.outlineRow_rename _ above e) ?_ hbelow above
  rw [e.members?_rename, Option.isSome_map]

/-- Below an entry of a file the rows are as if the file were alone. -/
theorem rowsAt_behind (h : LaidOut settings files x) (hp : p ∈ files) (depth : Nat)
    (above : String) (hi : i ≠ root) (he : (alone settings p.2).atlas.get? i = some e) :
    x.atlas.rowsAt depth above (behind p.1 i) =
      (alone settings p.2).atlas.rowsAt depth above i := by
  induction depth generalizing above i e with
  | zero => rfl
  | succ depth ih =>
    rw [Atlas.rowsAt, Atlas.rowsAt, behind_of_ne hi, h.childrenOf_eq hp hi he, List.flatMap_map]
    refine List.flatMap_congr fun c hc => h.rowsOf_behind hp hc (fun path => ?_) above
    obtain ⟨e', he'⟩ := Atlas.exists_get? ((alone_identified settings p.2).children i c hc)
    exact ih path (ne_root_of_mem_childrenOf hc) he'

/-- The rows of a program are those of its files. -/
theorem rowsAt_root (h : LaidOut settings files x) (depth : Nat) (above : String) :
    x.atlas.rowsAt (depth + 1) above root = files.flatMap fun p =>
      (alone settings p.2).atlas.rowsAt (depth + 1) above root := by
  rw [Atlas.rowsAt, h.children, List.flatMap_assoc]
  refine List.flatMap_congr fun p hp => ?_
  rw [Atlas.rowsAt, List.flatMap_map]
  refine List.flatMap_congr fun c hc => h.rowsOf_behind hp hc (fun path => ?_) above
  obtain ⟨e, he⟩ := Atlas.exists_get? ((alone_identified settings p.2).children root c hc)
  exact h.rowsAt_behind hp depth path (ne_root_of_mem_childrenOf hc) he

end LaidOut

end Draft

end ApiAtlas
