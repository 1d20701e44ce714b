import ApiAtlas.Ty.Basic
import Mathlib.Logic.Relation
import Mathlib.Tactic.Common

/-!
# Parts of a type

A type consists of its parts, and the walk through a type visits it and then walks through its
parts in order. So the references and the inline declarations inside a type are its own and those
of its parts.
-/

set_option autoImplicit false

namespace ApiAtlas.Ty

/-- The types that a type consists of. -/
def parts : Ty → List Ty
  | .typeParameter _ constraint => constraint.toList
  | .reference _ _ arguments _ => arguments
  | .union types => types
  | .intersection types => types
  | .array element => [element]
  | .tuple elements => elements
  | .intrinsic _ | .stringLiteral _ | .unknown _ | .literal _ => []

/-- The parts of a type are smaller than the type. -/
theorem sizeOf_lt_of_mem_parts {t u : Ty} (h : u ∈ t.parts) : sizeOf u < sizeOf t := by
  cases t with
  | typeParameter name constraint =>
    obtain rfl := Option.mem_toList.1 h
    simp
    omega
  | reference | union | intersection | tuple =>
    have hsmaller := List.sizeOf_lt_of_mem h
    rw [parts] at hsmaller
    simp
    omega
  | array element =>
    obtain rfl := List.mem_singleton.1 h
    simp
  | _ => cases h

/-- What holds of a type when it holds of its parts holds of every type. -/
theorem induction_parts {motive : Ty → Prop}
    (step : ∀ t : Ty, (∀ u ∈ t.parts, motive u) → motive t) (t : Ty) : motive t :=
  step t fun u hu =>
    have : sizeOf u < sizeOf t := sizeOf_lt_of_mem_parts hu
    induction_parts step u
termination_by sizeOf t

/-- Walking through types is walking through each of them in order. -/
theorem walkList_eq_flatMap (ts : List Ty) : walkList ts = ts.flatMap walk := by
  induction ts with
  | nil => rfl
  | cons t ts ih => rw [walkList, ih, List.flatMap_cons]

/-- The walk visits a type before its parts. -/
theorem walk_eq (t : Ty) : t.walk = t :: t.parts.flatMap walk := by
  cases t with
  | typeParameter name c => cases c <;> simp [walk, parts]
  | _ => simp [walk, parts, walkList_eq_flatMap]

/-- The walk visits exactly the types inside a type. -/
theorem mem_walk_iff {t u : Ty} :
    u ∈ t.walk ↔ Relation.ReflTransGen (fun t u => u ∈ t.parts) t u := by
  constructor
  · intro hu
    induction t using induction_parts with
    | step t ih =>
      rw [walk_eq] at hu
      rcases List.mem_cons.1 hu with rfl | hu
      · exact .refl
      · obtain ⟨v, hv, huv⟩ := List.mem_flatMap.1 hu
        exact .head hv (ih v hv huv)
  · intro hu
    induction hu using Relation.ReflTransGen.head_induction_on with
    | refl =>
      rw [walk_eq]
      exact List.mem_cons_self ..
    | head hv _ ih =>
      rw [walk_eq]
      exact List.mem_cons_of_mem _ (List.mem_flatMap.2 ⟨_, hv, ih⟩)

/-! ## References -/

/-- The references in a type are its own one and those in its parts. -/
theorem references_eq (t : Ty) :
    t.references = t.reference?.toList ++ t.parts.flatMap references := by
  rw [references, walk_eq, List.filterMap_cons, List.filterMap_flatMap]
  cases t.reference? <;> rfl

/-! ## Inline declarations -/

/-- The inline declarations in a type are its own one and those in its parts. -/
theorem literals_eq (t : Ty) : t.literals = t.literal?.toList ++ t.parts.flatMap literals := by
  rw [literals, walk_eq, List.filterMap_cons, List.filterMap_flatMap]
  cases t.literal? <;> rfl

/-- An intrinsic type has no inline declarations. -/
@[simp]
theorem literals_intrinsic (name : String) : (intrinsic name).literals = [] := rfl

/-- A string literal has no inline declarations. -/
@[simp]
theorem literals_stringLiteral (value : String) : (stringLiteral value).literals = [] := rfl

/-- An unknown type has no inline declarations. -/
@[simp]
theorem literals_unknown (name : String) : (unknown name).literals = [] := rfl

/-- An inline declaration is the only one in the type that it is written as. -/
@[simp]
theorem literals_literal (id : EntryId) : (literal id).literals = [id] := rfl

/-- The inline declarations in a type parameter are those in its constraint. -/
@[simp]
theorem literals_typeParameter (name : String) (c : Option Ty) :
    (typeParameter name c).literals = c.toList.flatMap literals :=
  literals_eq _

/-- The inline declarations in a reference are those in its arguments. -/
@[simp]
theorem literals_reference (name : String) (symbol : Option String) (ts : List Ty)
    (target : Option EntryId) :
    (reference name symbol ts target).literals = ts.flatMap literals :=
  literals_eq _

/-- The inline declarations in a union are those in its members. -/
@[simp]
theorem literals_union (ts : List Ty) : (union ts).literals = ts.flatMap literals :=
  literals_eq _

/-- The inline declarations in an intersection are those in its members. -/
@[simp]
theorem literals_intersection (ts : List Ty) :
    (intersection ts).literals = ts.flatMap literals :=
  literals_eq _

/-- The inline declarations in an array are those in its element. -/
@[simp]
theorem literals_array (t : Ty) : (array t).literals = t.literals := by
  rw [literals_eq]
  exact List.append_nil _

/-- The inline declarations in a tuple are those in its elements. -/
@[simp]
theorem literals_tuple (ts : List Ty) : (tuple ts).literals = ts.flatMap literals :=
  literals_eq _

/-! ## Open types -/

/-- Whether no reference inside a type has a target yet. -/
def IsOpen (t : Ty) : Prop :=
  ∀ r ∈ t.references, r.target = none

/-- Whether no reference inside some types has a target yet. -/
def AllOpen (ts : List Ty) : Prop :=
  ∀ t ∈ ts, t.IsOpen

/-- The types in two lists are open just when those in each are. -/
theorem allOpen_append {ts us : List Ty} : AllOpen (ts ++ us) ↔ AllOpen ts ∧ AllOpen us :=
  List.forall_mem_append

/-- A type that may be missing is open just when the list of it is. -/
theorem allOpen_toList {t : Option Ty} : AllOpen t.toList ↔ ∀ u ∈ t, u.IsOpen := by
  simp only [AllOpen, Option.mem_toList, Option.mem_def]

/-- No reference inside open types has a target. -/
theorem AllOpen.flatMap {ts : List Ty} (h : AllOpen ts) :
    ∀ r ∈ ts.flatMap references, r.target = none := by
  intro r hr
  obtain ⟨t, ht, hrt⟩ := List.mem_flatMap.1 hr
  exact h t ht r hrt

/-- A type is open when its parts are, if it is no resolved reference itself. -/
theorem isOpen_of_parts {t : Ty} (ht : t.target? = none) (h : AllOpen t.parts) : t.IsOpen := by
  intro r hr
  rw [references_eq] at hr
  rcases List.mem_append.1 hr with hr | hr
  · rw [target?, Option.mem_toList.1 hr] at ht
    exact ht
  · exact h.flatMap r hr

/-- A type without parts is open if it has no target itself. -/
theorem isOpen_of_parts_eq_nil {t : Ty} (ht : t.target? = none) (h : t.parts = []) : t.IsOpen := by
  refine isOpen_of_parts ht ?_
  rw [h]
  exact List.forall_mem_nil _

end ApiAtlas.Ty
