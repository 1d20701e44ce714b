import ApiAtlas.Conversion.Parts
import ApiAtlas.Proofs.Atlas.Growth
import ApiAtlas.Proofs.Ty.Renamed

/-!
# Renumbered entries

An entry with the entries that it refers to given other numbers. Whatever is changed in an entry can
as well be changed after renumbering.
-/

set_option autoImplicit false

namespace ApiAtlas

namespace Table

variable {κ ν ν' : Type} [DecidableEq κ]

/-- The table with each of its values changed. -/
def mapValues (f : ν → ν') (t : Table κ ν) : Table κ ν' :=
  ⟨t.rows.map fun row => (row.1, f row.2)⟩

/-- Changed values are looked up as the changes of what is looked up. -/
theorem lookup_map (f : ν → ν') (k : κ) (rows : List (κ × ν)) :
    lookup k (rows.map fun row => (row.1, f row.2)) = (lookup k rows).map f := by
  induction rows with
  | nil => rfl
  | cons row rows ih =>
    rw [List.map_cons, lookup, lookup, ih]
    split <;> rfl

/-- A changed value is placed among changed values as a value among values. -/
theorem place_map (f : ν → ν') (k : κ) (v : ν) (rows : List (κ × ν)) :
    place k (f v) (rows.map fun row => (row.1, f row.2)) =
      (place k v rows).map fun row => (row.1, f row.2) := by
  induction rows with
  | nil => rfl
  | cons row rows ih =>
    rw [List.map_cons, place, place, ih]
    split <;> rfl

/-- In a table with changed values, a key leads to the change of its value. -/
@[simp]
theorem get?_mapValues (f : ν → ν') (t : Table κ ν) (k : κ) :
    (t.mapValues f).get? k = (t.get? k).map f :=
  lookup_map f k t.rows

/-- A value that is put and then changed is put as the change of it. -/
theorem mapValues_put (f : ν → ν') (t : Table κ ν) (k : κ) (v : ν) :
    (t.put k v).mapValues f = (t.mapValues f).put k (f v) :=
  congrArg Table.mk (place_map f k v t.rows).symm

omit [DecidableEq κ] in
/-- Renaming nothing leaves a table of lists. -/
theorem mapValues_id (t : Table κ (List ν)) : t.mapValues (List.map id) = t := by
  obtain ⟨rows⟩ := t
  simp [mapValues]

end Table

variable (φ : EntryId → EntryId)

/-- The children renumbered. -/
def Members.rename (m : Members) : Members :=
  ⟨m.ids.map φ, m.byName.mapValues (List.map φ)⟩

/-- The details with the entries that they refer to renumbered. -/
def Details.rename (d : Details) : Details :=
  { d with
    type := d.type.map (Ty.rename φ)
    typeParameters := d.typeParameters.map φ
    signatures := d.signatures.map φ
    indexSignature := d.indexSignature.map φ
    getSignature := d.getSignature.map φ
    setSignature := d.setSignature.map φ
    extended := d.extended.map (Ty.rename φ)
    implemented := d.implemented.map (Ty.rename φ) }

/-- The shape with the entries that it refers to renumbered. -/
def Shape.rename (s : Shape) : Shape :=
  ⟨s.parameters.map φ, s.type.map (Ty.rename φ), s.typeParameters.map φ⟩

/-- The body with the entries that it refers to renumbered. -/
def Body.rename : Body → Body
  | .plain => .plain
  | .container m => .container (m.rename φ)
  | .declaration m d => .declaration (m.rename φ) (d.rename φ)
  | .signature s => .signature (s.rename φ)
  | .parameter type value => .parameter (type.map (Ty.rename φ)) value
  | .typeParameter constraint default =>
    .typeParameter (constraint.map (Ty.rename φ)) (default.map (Ty.rename φ))
  | .project m => .project (m.rename φ)

/-- The entry with the entries that it refers to renumbered. -/
def Entry.rename (e : Entry) : Entry :=
  { e with parent := e.parent.map φ, body := e.body.rename φ }

/-! ## Nothing renumbered -/

/-- Renaming nothing leaves an optional type. -/
theorem optionTy_rename_id (t : Option Ty) : t.map (Ty.rename id) = t := by
  cases t with
  | none => rfl
  | some t => rw [Option.map_some, t.rename_id]

/-- Renaming nothing leaves types. -/
theorem listTy_rename_id (ts : List Ty) : ts.map (Ty.rename id) = ts :=
  (List.map_congr_left fun t _ => t.rename_id).trans (List.map_id ts)

/-- Renaming nothing leaves members. -/
theorem Members.rename_id (m : Members) : m.rename id = m := by
  rw [rename, List.map_id, Table.mapValues_id]

/-- Renaming nothing leaves details. -/
theorem Details.rename_id (d : Details) : d.rename id = d := by
  simp [rename, optionTy_rename_id, listTy_rename_id]

/-- Renaming nothing leaves a signature. -/
theorem Shape.rename_id (s : Shape) : s.rename id = s := by
  simp [rename, optionTy_rename_id]

/-- Renaming nothing leaves an entry. -/
theorem Entry.rename_id (e : Entry) : e.rename id = e := by
  obtain ⟨name, kind, flags, comment, parent, body⟩ := e
  cases body <;>
    simp [rename, Body.rename, Members.rename_id, Details.rename_id, Shape.rename_id,
      optionTy_rename_id]

/-! ## What is read off an entry -/

namespace Entry

variable (e : Entry)

/-- Renumbering leaves the name of an entry. -/
@[simp]
theorem rename_name : (e.rename φ).name = e.name := rfl

/-- Renumbering leaves the kind of an entry. -/
@[simp]
theorem rename_kind : (e.rename φ).kind = e.kind := rfl

/-- Renumbering renumbers the parent of an entry. -/
@[simp]
theorem rename_parent : (e.rename φ).parent = e.parent.map φ := rfl

/-- Renumbering renumbers the members of an entry. -/
@[simp]
theorem members?_rename : (e.rename φ).members? = e.members?.map (Members.rename φ) := by
  obtain ⟨name, kind, flags, comment, parent, body⟩ := e
  cases body <;> rfl

/-- Renumbering an entry renumbers its details, if it has any. -/
@[simp]
theorem details?_rename : (e.rename φ).details? = e.details?.map (Details.rename φ) := by
  obtain ⟨name, kind, flags, comment, parent, body⟩ := e
  cases body <;> rfl

/-- Renumbering renumbers the type parameters of an entry. -/
@[simp]
theorem typeParameters_rename : (e.rename φ).typeParameters = e.typeParameters.map φ := by
  obtain ⟨name, kind, flags, comment, parent, body⟩ := e
  cases body <;> rfl

/-- Renumbering leaves an entry the type parameter that it is or is not. -/
@[simp]
theorem isTypeParameter_rename : (e.rename φ).isTypeParameter = e.isTypeParameter := by
  obtain ⟨name, kind, flags, comment, parent, body⟩ := e
  cases body <;> rfl

/-- Renumbering leaves the symbol of an entry. -/
@[simp]
theorem symbol?_rename : (e.rename φ).symbol? = e.symbol? := by
  obtain ⟨name, kind, flags, comment, parent, body⟩ := e
  cases body <;> rfl

/-- Renumbering leaves an entry the declaration that it is or is not. -/
@[simp]
theorem isDeclaration_rename : (e.rename φ).isDeclaration = e.isDeclaration := by
  obtain ⟨name, kind, flags, comment, parent, body⟩ := e
  cases body <;> rfl

/-- Renumbering leaves the form of the body of an entry. -/
@[simp]
theorem ctorIdx_body_rename : (e.rename φ).body.ctorIdx = e.body.ctorIdx := by
  obtain ⟨name, kind, flags, comment, parent, body⟩ := e
  cases body <;> rfl

/-- A renumbered entry is named just when the entry is. -/
@[simp]
theorem isNamed_rename : (e.rename φ).IsNamed ↔ e.IsNamed := by
  simp [IsNamed]

/-- Renumbering renumbers the types that an entry has itself. -/
theorem ownTypes_rename : (e.rename φ).ownTypes = e.ownTypes.map (Ty.rename φ) := by
  obtain ⟨name, kind, flags, comment, parent, body⟩ := e
  cases body <;> simp [rename, Body.rename, ownTypes, Details.rename, Shape.rename,
    Option.toList_map]

/-- What an entry keeps of another one is kept when both are renumbered. -/
theorem keeps_rename {e e' : Entry} (h : e.Keeps e') : (e.rename φ).Keeps (e'.rename φ) where
  name := h.name
  parent := by rw [rename_parent, rename_parent, h.parent]
  form := by rw [ctorIdx_body_rename, ctorIdx_body_rename, h.form]
  symbol := by rw [symbol?_rename, symbol?_rename, h.symbol]
  kind := fun hd => h.kind (by rwa [isDeclaration_rename] at hd)
  accessor := h.accessor
  literal := h.literal

/-! ## Changing an entry -/

/-- A change of members that goes with renumbering still does when it is applied to an entry. -/
theorem rename_mapMembers {f f' : Members → Members}
    (h : ∀ m, (f m).rename φ = f' (m.rename φ)) :
    (e.mapMembers f).rename φ = (e.rename φ).mapMembers f' := by
  obtain ⟨name, kind, flags, comment, parent, body⟩ := e
  cases body <;> simp [mapMembers, rename, Body.rename, h]

/-- A change of details that goes with renumbering still does when it is applied to an entry. -/
theorem rename_mapDetails {f f' : Details → Details}
    (h : ∀ d, (f d).rename φ = f' (d.rename φ)) :
    (e.mapDetails f).rename φ = (e.rename φ).mapDetails f' := by
  obtain ⟨name, kind, flags, comment, parent, body⟩ := e
  cases body <;> simp [mapDetails, rename, Body.rename, h]

/-- A change of a signature that goes with renumbering still does when it is applied to an entry. -/
theorem rename_mapShape {f f' : Shape → Shape} (h : ∀ s, (f s).rename φ = f' (s.rename φ)) :
    (e.mapShape f).rename φ = (e.rename φ).mapShape f' := by
  obtain ⟨name, kind, flags, comment, parent, body⟩ := e
  cases body <;> simp [mapShape, rename, Body.rename, h]

/-- A type parameter that is added before renumbering is added by its new number after it. -/
theorem rename_addTypeParameter (id : EntryId) :
    (e.addTypeParameter id).rename φ = (e.rename φ).addTypeParameter (φ id) := by
  obtain ⟨name, kind, flags, comment, parent, body⟩ := e
  cases body <;> simp [addTypeParameter, mapDetails, mapShape, rename, Body.rename,
    Details.rename, Shape.rename]

end Entry

/-- A child that is added before renumbering is added by its new number after it. -/
theorem Members.rename_insert (m : Members) (name : String) (id : EntryId) :
    (m.insert name id).rename φ = (m.rename φ).insert name (φ id) := by
  unfold Members.insert Members.rename
  rw [Table.mapValues_put, Table.get?_mapValues, List.map_append, List.map_append]
  cases m.byName.get? name <;> rfl

end ApiAtlas
