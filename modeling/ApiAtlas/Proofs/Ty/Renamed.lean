import ApiAtlas.Conversion.Parts
import ApiAtlas.Proofs.Ty.Parts
import Mathlib.Data.List.Basic

/-!
# Types that point elsewhere

Resolving a type gives targets to the references inside it, one by one, and changes nothing else:
neither the inline declarations nor the way the type is shown. Renumbering a type gives the entries
that it points at other numbers. The way a type is shown does not depend on numbers, and so neither
does which heritage types count as repeated.
-/

set_option autoImplicit false

/-! ## Resolved types -/

namespace ApiAtlas

/-- The reference with the target of its symbol, if it has none yet. -/
def Reference.resolve (lookup : Option String → Option EntryId) (r : Reference) : Reference :=
  { r with target := r.target.or (lookup r.symbol) }

namespace Ty

variable (lookup : Option String → Option EntryId)

/-- Types are resolved one by one. -/
theorem resolveList_eq_map (ts : List Ty) : resolveList lookup ts = ts.map (resolve lookup) := by
  induction ts with
  | nil => rfl
  | cons t ts ih => rw [resolveList, ih, List.map_cons]

/-- The parts of a resolved type are the resolved parts. -/
theorem parts_resolve (t : Ty) : (t.resolve lookup).parts = t.parts.map (resolve lookup) := by
  cases t with
  | typeParameter name c => cases c <;> simp [resolve, parts]
  | _ => simp [resolve, parts, resolveList_eq_map]

/-- The reference of a resolved type is the resolved one. -/
theorem reference?_resolve (t : Ty) :
    (t.resolve lookup).reference? = t.reference?.map (Reference.resolve lookup) := by
  cases t with
  | typeParameter name c => cases c <;> rfl
  | _ => simp [resolve, reference?, Reference.resolve]

/-- Resolving a type leaves the inline declaration that it is. -/
theorem literal?_resolve (t : Ty) : (t.resolve lookup).literal? = t.literal? := by
  cases t with
  | typeParameter name c => cases c <;> rfl
  | _ => simp [resolve, literal?]

/-- A walk through a resolved type meets the resolved types. -/
theorem walk_resolve (t : Ty) : (t.resolve lookup).walk = t.walk.map (resolve lookup) := by
  induction t using induction_parts with
  | step t ih =>
    rw [walk_eq, walk_eq t, parts_resolve, List.flatMap_map, List.map_cons, List.map_flatMap]
    exact congrArg _ (List.flatMap_congr ih)

/-- The references in a resolved type are the resolved ones. -/
@[simp]
theorem references_resolve (t : Ty) :
    (t.resolve lookup).references = t.references.map (Reference.resolve lookup) := by
  simp only [references, walk_resolve, List.filterMap_map, List.map_filterMap]
  exact List.filterMap_congr fun u _ => reference?_resolve lookup u

/-- Resolving a type leaves its inline declarations. -/
@[simp]
theorem literals_resolve (t : Ty) : (t.resolve lookup).literals = t.literals := by
  simp only [literals, walk_resolve, List.filterMap_map]
  exact List.filterMap_congr fun u _ => literal?_resolve lookup u

/-! ## Showing a type -/

/-- Types whose texts stay are shown as before after a separator. -/
theorem textAfter_congr (sep : String) {ts : List Ty}
    (h : ∀ t ∈ ts, (t.resolve lookup).text = t.text) :
    textAfter sep (resolveList lookup ts) = textAfter sep ts := by
  induction ts with
  | nil => rfl
  | cons t ts ih =>
    rw [resolveList, textAfter, textAfter, h t (List.mem_cons_self ..),
      ih fun u hu => h u (List.mem_cons_of_mem _ hu)]

/-- Types whose texts stay are shown as before with separators. -/
theorem textList_congr (sep : String) {ts : List Ty}
    (h : ∀ t ∈ ts, (t.resolve lookup).text = t.text) :
    textList sep (resolveList lookup ts) = textList sep ts := by
  cases ts with
  | nil => rfl
  | cons t ts =>
    rw [resolveList, textList, textList, h t (List.mem_cons_self ..),
      textAfter_congr lookup sep fun u hu => h u (List.mem_cons_of_mem _ hu)]

/-- A type is shown as it was before it was resolved. -/
theorem text_resolve (t : Ty) : (t.resolve lookup).text = t.text := by
  induction t using induction_parts with
  | step t ih =>
    cases t with
    | typeParameter name c => cases c <;> rfl
    | reference name symbol ts target =>
      cases ts with
      | nil => rfl
      | cons t ts =>
        have htail := textAfter_congr lookup ", " fun u hu => ih u (List.mem_cons_of_mem t hu)
        rw [resolve, resolveList, text, text, ih t (List.mem_cons_self ..), htail]
    | union ts => exact textList_congr lookup " | " ih
    | intersection ts => exact textList_congr lookup " & " ih
    | tuple ts =>
      have hlist : textList ", " (resolveList lookup ts) = textList ", " ts :=
        textList_congr lookup ", " ih
      rw [resolve, text, text, hlist]
    | array t =>
      have helement := ih t (List.mem_singleton_self t)
      cases t with
      | typeParameter name c => cases c <;> rfl
      | reference name symbol ts target => exact congrArg (· ++ "[]") helement
      | _ => simp_all [resolve, text]
    | _ => rfl

end Ty

end ApiAtlas

/-! ## Renumbered types -/

namespace ApiAtlas

/-- The reference with its target renumbered. -/
def Reference.rename (φ : EntryId → EntryId) (r : Reference) : Reference :=
  { r with target := r.target.map φ }

namespace Ty

mutual

/-- The type with the entries that it points at renumbered. -/
def rename (φ : EntryId → EntryId) : Ty → Ty
  | .intrinsic name => .intrinsic name
  | .stringLiteral value => .stringLiteral value
  | .unknown name => .unknown name
  | .typeParameter name none => .typeParameter name none
  | .typeParameter name (some c) => .typeParameter name (some (c.rename φ))
  | .reference name symbol arguments target =>
    .reference name symbol (renameList φ arguments) (target.map φ)
  | .literal declaration => .literal (φ declaration)
  | .union types => .union (renameList φ types)
  | .intersection types => .intersection (renameList φ types)
  | .array element => .array (element.rename φ)
  | .tuple elements => .tuple (renameList φ elements)

/-- Each type of a list renumbered. -/
def renameList (φ : EntryId → EntryId) : List Ty → List Ty
  | [] => []
  | t :: ts => t.rename φ :: renameList φ ts

end

variable (φ : EntryId → EntryId)

/-- Types are renumbered one by one. -/
theorem renameList_eq_map (ts : List Ty) : renameList φ ts = ts.map (rename φ) := by
  induction ts with
  | nil => rfl
  | cons t ts ih => rw [renameList, ih, List.map_cons]

/-- The parts of a renumbered type are the renumbered parts. -/
theorem parts_rename (t : Ty) : (t.rename φ).parts = t.parts.map (rename φ) := by
  cases t with
  | typeParameter name c => cases c <;> simp [rename, parts]
  | _ => simp [rename, parts, renameList_eq_map]

/-- The reference of a renumbered type is the renumbered one. -/
theorem reference?_rename (t : Ty) :
    (t.rename φ).reference? = t.reference?.map (Reference.rename φ) := by
  cases t with
  | typeParameter name c => cases c <;> rfl
  | _ => simp [rename, reference?, Reference.rename]

/-- The inline declaration that a renumbered type is has the new number. -/
theorem literal?_rename (t : Ty) : (t.rename φ).literal? = t.literal?.map φ := by
  cases t with
  | typeParameter name c => cases c <;> rfl
  | _ => simp [rename, literal?]

/-- A walk through a renumbered type meets the renumbered types. -/
theorem walk_rename (t : Ty) : (t.rename φ).walk = t.walk.map (rename φ) := by
  induction t using induction_parts with
  | step t ih =>
    rw [walk_eq, walk_eq t, parts_rename, List.flatMap_map, List.map_cons, List.map_flatMap]
    exact congrArg _ (List.flatMap_congr ih)

/-- The references in a renumbered type are the renumbered ones. -/
@[simp]
theorem references_rename (t : Ty) :
    (t.rename φ).references = t.references.map (Reference.rename φ) := by
  simp only [references, walk_rename, List.filterMap_map, List.map_filterMap]
  exact List.filterMap_congr fun u _ => reference?_rename φ u

/-- The inline declarations in a renumbered type have the new numbers. -/
@[simp]
theorem literals_rename (t : Ty) : (t.rename φ).literals = t.literals.map φ := by
  simp only [literals, walk_rename, List.filterMap_map, List.map_filterMap]
  exact List.filterMap_congr fun u _ => literal?_rename φ u

/-- Nothing is renumbered when every number stays. -/
theorem rename_id (t : Ty) : t.rename id = t := by
  induction t using induction_parts with
  | step t ih =>
    have list : ∀ ts ⊆ t.parts, renameList id ts = ts := by
      intro ts hts
      rw [renameList_eq_map]
      exact (List.map_congr_left fun u hu => ih u (hts hu)).trans (List.map_id _)
    cases t with
    | typeParameter name c =>
      cases c with
      | none => rfl
      | some c => rw [rename, ih c (List.mem_singleton_self c)]
    | reference name symbol ts target =>
      rw [rename, list ts (List.Subset.refl _), Option.map_id_fun, id]
    | union ts => rw [rename, list ts (List.Subset.refl _)]
    | intersection ts => rw [rename, list ts (List.Subset.refl _)]
    | tuple ts => rw [rename, list ts (List.Subset.refl _)]
    | array t => rw [rename, ih t (List.mem_singleton_self t)]
    | _ => rfl

/-! ## Showing a type -/

/-- Types that are changed without changing their texts are shown as before after a separator. -/
theorem textAfter_map (sep : String) {f : Ty → Ty} {ts : List Ty}
    (h : ∀ t ∈ ts, (f t).text = t.text) : textAfter sep (ts.map f) = textAfter sep ts := by
  induction ts with
  | nil => rfl
  | cons t ts ih =>
    rw [List.map_cons, textAfter, textAfter, h t (List.mem_cons_self ..),
      ih fun u hu => h u (List.mem_cons_of_mem _ hu)]

/-- Types that are changed without changing their texts are shown as before with separators. -/
theorem textList_map (sep : String) {f : Ty → Ty} {ts : List Ty}
    (h : ∀ t ∈ ts, (f t).text = t.text) : textList sep (ts.map f) = textList sep ts := by
  cases ts with
  | nil => rfl
  | cons t ts =>
    rw [List.map_cons, textList, textList, h t (List.mem_cons_self ..),
      textAfter_map sep fun u hu => h u (List.mem_cons_of_mem _ hu)]

/-- A type is shown as it was before it was renumbered. -/
theorem text_rename (t : Ty) : (t.rename φ).text = t.text := by
  induction t using induction_parts with
  | step t ih =>
    cases t with
    | typeParameter name c => cases c <;> rfl
    | reference name symbol ts target =>
      cases ts with
      | nil => rfl
      | cons t ts =>
        have htail := textAfter_map ", " fun u hu => ih u (List.mem_cons_of_mem t hu)
        rw [rename, renameList, renameList_eq_map, text, text, ih t (List.mem_cons_self ..), htail]
    | union ts =>
      rw [rename, renameList_eq_map, text, text]
      exact textList_map " | " ih
    | intersection ts =>
      rw [rename, renameList_eq_map, text, text]
      exact textList_map " & " ih
    | tuple ts =>
      have hlist : textList ", " (ts.map (rename φ)) = textList ", " ts := textList_map ", " ih
      rw [rename, renameList_eq_map, text, text, hlist]
    | array t =>
      have helement := ih t (List.mem_singleton_self t)
      cases t with
      | typeParameter name c => cases c <;> rfl
      | reference name symbol ts target => exact congrArg (· ++ "[]") helement
      | _ => simp_all [rename, text]
    | _ => rfl

end Ty

namespace Conv

variable (φ : EntryId → EntryId)

/-- Renumbering a type leaves the key that it is compared by. -/
theorem heritageKey_rename (t : Ty) : heritageKey (t.rename φ) = heritageKey t := by
  have htext := t.text_rename φ
  cases t with
  | reference name symbol ts target =>
    rw [Ty.rename] at htext ⊢
    simp only [heritageKey, htext]
  | typeParameter name c => cases c <;> exact htext
  | _ => exact htext

/-- A heritage type that is added before renumbering is added renumbered after it. -/
theorem addHeritage_rename (types : List Ty) (t : Ty) :
    addHeritage (types.map (Ty.rename φ)) (t.rename φ) =
      (addHeritage types t).map (Ty.rename φ) := by
  have hkeys : (types.map (Ty.rename φ)).map heritageKey = types.map heritageKey := by
    rw [List.map_map]
    exact List.map_congr_left fun u _ => heritageKey_rename φ u
  unfold addHeritage
  rw [hkeys, heritageKey_rename, Ty.literals_rename, List.isEmpty_map]
  split
  · rfl
  · rw [List.map_append, List.map_singleton]

/-- Heritage that is extended before renumbering is extended by the renumbered types after it. -/
theorem extendHeritage_rename (types more : List Ty) :
    extendHeritage (types.map (Ty.rename φ)) (more.map (Ty.rename φ)) =
      (extendHeritage types more).map (Ty.rename φ) := by
  induction more generalizing types with
  | nil => rfl
  | cons t more ih =>
    rw [extendHeritage, List.map_cons, List.foldl_cons, addHeritage_rename]
    exact ih (addHeritage types t)

end Conv

end ApiAtlas
