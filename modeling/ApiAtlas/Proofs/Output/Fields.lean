import ApiAtlas.Output.Written
import ApiAtlas.Proofs.Resolution.TakeOver
import Mathlib.Data.List.Forall2

/-!
# Fields of the written atlas

What the fields of a written entry are made of when writing succeeds: each step of writing is
inverted once, into the values that it puts together. The names of the fields keep the parts of an
entry apart, so that a field is found where the form of the entry puts it.
-/

set_option autoImplicit false

namespace ApiAtlas

/-- A list of computations succeeds when each of them does. -/
theorem Except.forall₂_of_mapM_eq_ok {α β ε : Type} {f : α → Except ε β} {xs : List α}
    {ys : List β} (h : xs.mapM f = .ok ys) : List.Forall₂ (fun x y => f x = .ok y) xs ys := by
  induction xs generalizing ys with
  | nil =>
    rw [List.mapM_nil] at h
    exact Except.ok.inj h ▸ .nil
  | cons x xs ih =>
    rw [List.mapM_cons] at h
    obtain ⟨y, hy, h⟩ := Except.exists_of_bind_eq_ok h
    obtain ⟨ys', hys, h⟩ := Except.exists_of_bind_eq_ok h
    exact Except.ok.inj h ▸ .cons hy (ih hys)

namespace Json

variable {fs gs : List (String × Json)} {key key' : String}

/-- A key is looked up in the first fields and then in those after them. -/
theorem get?_append (fs gs : List (String × Json)) (key : String) :
    (obj (fs ++ gs)).get? key = ((obj fs).get? key).or ((obj gs).get? key) := by
  rw [get?, get?, get?, List.find?_append, Option.map_or]

/-- A value that is worth writing. -/
def present? (value : Json) : Option Json :=
  if value.isVoid then none else some value

/-- A field has its value under its key, unless the value is not worth writing, and nothing under
other keys. -/
theorem get?_field (key' : String) (value : Json) (key : String) :
    (obj (field key' value)).get? key = if key' = key then value.present? else none := by
  unfold field present?
  cases value.isVoid <;> by_cases h : key' = key <;> simp [get?, h]

/-- In fields with one key the first value is found. -/
theorem get?_map (key' : String) (js : List Json) (key : String) :
    (obj (js.map (key', ·))).get? key = if key' = key then js.head? else none := by
  cases js <;> by_cases h : key' = key <;> simp [get?, h]

end Json

namespace Resolved

variable {expand : EntryId → Except Misuse Json} {fs : List (String × Json)} {j : Json}

/-- Whether entries are written as some values, in order. -/
def Expands (expand : EntryId → Except Misuse Json) (ids : List EntryId) (js : List Json) : Prop :=
  List.Forall₂ (fun i j => expand i = .ok j) ids js

/-- A list of entries that is written is an array of what the entries are written as. -/
theorem entriesJson_ok {ids : List EntryId} (h : entriesJson expand ids = .ok j) :
    ∃ js, j = .arr js ∧ Expands expand ids js := by
  obtain ⟨js, hjs, h⟩ := Except.exists_of_bind_eq_ok h
  exact ⟨js, (Except.ok.inj h).symm, Except.forall₂_of_mapM_eq_ok hjs⟩

/-- A field with an entry that may be missing is written as a field for each value, of which there
is at most one. -/
theorem entryField_ok {key : String} {i : Option EntryId}
    (h : entryField expand key i = .ok fs) :
    ∃ js, fs = js.map (key, ·) ∧ Expands expand i.toList js := by
  cases i with
  | none => exact ⟨[], (Except.ok.inj h).symm, .nil⟩
  | some i =>
    obtain ⟨j, hj, h⟩ := Except.exists_of_bind_eq_ok h
    exact ⟨[j], (Except.ok.inj h).symm, .cons hj .nil⟩

/-- The fields of links are made of references and of the layers of the hierarchy. -/
theorem linkFields_ok {l : Links} (h : linkFields expand l = .ok fs) :
    ∃ extendedBy implementedBy inheritedFrom overwrites implementationOf layers,
      Ty.toJsonListM expand (l.extendedBy.map Reference.toTy) = .ok extendedBy ∧
      Ty.toJsonListM expand (l.implementedBy.map Reference.toTy) = .ok implementedBy ∧
      referenceJson expand l.inheritedFrom = .ok inheritedFrom ∧
      referenceJson expand l.overwrites = .ok overwrites ∧
      referenceJson expand l.implementationOf = .ok implementationOf ∧
      fs = Json.field "extendedBy" (.arr extendedBy) ++
        Json.field "implementedBy" (.arr implementedBy) ++
        Json.field "inheritedFrom" inheritedFrom ++ Json.field "overwrites" overwrites ++
        Json.field "implementationOf" implementationOf ++
        Json.field "typeHierarchy" (.obj layers) := by
  obtain ⟨extendedBy, hextendedBy, h⟩ := Except.exists_of_bind_eq_ok h
  obtain ⟨implementedBy, himplementedBy, h⟩ := Except.exists_of_bind_eq_ok h
  obtain ⟨inheritedFrom, hinheritedFrom, h⟩ := Except.exists_of_bind_eq_ok h
  obtain ⟨overwrites, hoverwrites, h⟩ := Except.exists_of_bind_eq_ok h
  obtain ⟨implementationOf, himplementationOf, h⟩ := Except.exists_of_bind_eq_ok h
  obtain ⟨layers, -, h⟩ := Except.exists_of_bind_eq_ok h
  exact ⟨extendedBy, implementedBy, inheritedFrom, overwrites, implementationOf, layers,
    hextendedBy, himplementedBy, hinheritedFrom, hoverwrites, himplementationOf,
    (Except.ok.inj h).symm⟩

/-- The fields of details are made of types, of entries, and of the fields of links. -/
theorem detailFields_ok {d : Details} {l : Links} (h : detailFields expand d l = .ok fs) :
    ∃ type typeParameters signatures index getter setter extended implemented links,
      typeJson expand d.type = .ok type ∧
      Expands expand d.typeParameters typeParameters ∧
      Expands expand d.signatures signatures ∧
      Expands expand d.indexSignature.toList index ∧
      Expands expand d.getSignature.toList getter ∧
      Expands expand d.setSignature.toList setter ∧
      Ty.toJsonListM expand d.extended = .ok extended ∧
      Ty.toJsonListM expand d.implemented = .ok implemented ∧
      linkFields expand l = .ok links ∧
      fs = Json.field "type" type ++ Json.field "typeParameters" (.arr typeParameters) ++
        Json.field "signatures" (.arr signatures) ++ index.map ("indexSignature", ·) ++
        getter.map ("getSignature", ·) ++ setter.map ("setSignature", ·) ++
        Json.field "defaultValue" (Json.ofText? d.defaultValue) ++
        Json.field "extendedTypes" (.arr extended) ++
        Json.field "implementedTypes" (.arr implemented) ++ links ++
        Json.field "sources" (.arr (d.sources.map SourceRef.toJson)) := by
  obtain ⟨type, htype, h⟩ := Except.exists_of_bind_eq_ok h
  obtain ⟨_, htypeParameters', h⟩ := Except.exists_of_bind_eq_ok h
  obtain ⟨_, hsignatures', h⟩ := Except.exists_of_bind_eq_ok h
  obtain ⟨_, hindex', h⟩ := Except.exists_of_bind_eq_ok h
  obtain ⟨_, hgetter', h⟩ := Except.exists_of_bind_eq_ok h
  obtain ⟨_, hsetter', h⟩ := Except.exists_of_bind_eq_ok h
  obtain ⟨extended, hextended, h⟩ := Except.exists_of_bind_eq_ok h
  obtain ⟨implemented, himplemented, h⟩ := Except.exists_of_bind_eq_ok h
  obtain ⟨links, hlinks, h⟩ := Except.exists_of_bind_eq_ok h
  obtain ⟨typeParameters, rfl, htypeParameters⟩ := entriesJson_ok htypeParameters'
  obtain ⟨signatures, rfl, hsignatures⟩ := entriesJson_ok hsignatures'
  obtain ⟨index, rfl, hindex⟩ := entryField_ok hindex'
  obtain ⟨getter, rfl, hgetter⟩ := entryField_ok hgetter'
  obtain ⟨setter, rfl, hsetter⟩ := entryField_ok hsetter'
  exact ⟨type, typeParameters, signatures, index, getter, setter, extended, implemented, links,
    htype, htypeParameters, hsignatures, hindex, hgetter, hsetter, hextended, himplemented, hlinks,
    (Except.ok.inj h).symm⟩

/-- The field of children is written as an array of what the children are written as. -/
theorem childFields_ok {m : Members} (h : childFields expand m = .ok fs) :
    ∃ children, Expands expand m.ids children ∧ fs = Json.field "children" (.arr children) := by
  obtain ⟨_, hchildren', h⟩ := Except.exists_of_bind_eq_ok h
  obtain ⟨children, rfl, hchildren⟩ := entriesJson_ok hchildren'
  exact ⟨children, hchildren, (Except.ok.inj h).symm⟩

/-- A written entry consists of what every entry has and of what its form adds. -/
theorem writeAt_ok {r : Resolved} {depth : Nat} {i : EntryId}
    (h : r.writeAt (depth + 1) i = .ok j) :
    ∃ e fs, r.atlas.get? i = some e ∧
      bodyFields (r.writeAt depth) (r.linksOf i) e.body = .ok fs ∧
      j = .obj (commonFields i e ++ fs) := by
  rw [writeAt] at h
  obtain ⟨e, he, h⟩ := Except.exists_of_bind_eq_ok h
  obtain ⟨fs, hfs, h⟩ := Except.exists_of_bind_eq_ok h
  refine ⟨e, fs, ?_, hfs, (Except.ok.inj h).symm⟩
  unfold Atlas.fetch at he
  split at he
  · next e' he' => exact Except.ok.inj he ▸ he'
  · cases he

end Resolved

end ApiAtlas
