import ApiAtlas.Output.Written
import ApiAtlas.Proofs.Atlas.Held

/-!
# Entries in the written atlas

`Json.entryIds` reads the ids of the entries that are written in a value: its own, and those of the
entries in its fields, however deep they are inside types. Hierarchies repeat what is written
elsewhere and are left aside. Each step of writing `Yields` a value with the ids of what the entry
holds, if all of that can be written.
-/

set_option autoImplicit false

namespace ApiAtlas

/-- Whether a computation succeeds with a value as required. -/
def Yields {ε α : Type} (x : Except ε α) (P : α → Prop) : Prop :=
  ∃ v, x = .ok v ∧ P v

namespace Yields

variable {ε α β : Type} {x : Except ε α} {P Q : α → Prop}

/-- A value that is as required is yielded. -/
theorem ok {v : α} (h : P v) : Yields (.ok v : Except ε α) P :=
  ⟨v, rfl, h⟩

/-- What is yielded as required is yielded with less required of it. -/
theorem mono (h : Yields x P) (hPQ : ∀ v, P v → Q v) : Yields x Q :=
  let ⟨v, hx, hv⟩ := h
  ⟨v, hx, hPQ v hv⟩

/-- Two computations in turn yield what the second one does from what the first one does. -/
theorem bind {k : α → Except ε β} {R : β → Prop} (h : Yields x P)
    (hk : ∀ v, P v → Yields (k v) R) : Yields (x >>= k) R := by
  obtain ⟨v, rfl, hv⟩ := h
  exact hk v hv

end Yields

namespace Json

/-! ## Reading ids -/

/-- The names of the fields that hold an entry or a list of entries. -/
def entryKeys : List String :=
  ["children", "typeParameters", "signatures", "parameters", "indexSignature", "getSignature",
    "setSignature", "declaration"]

mutual

/-- The ids of the entries that are written in a value, hierarchies left aside; `isEntry` tells
whether the value is an entry or a list of entries itself. -/
def entryIds (isEntry : Bool) : Json → List Json
  | .arr items => entryIdsOfItems isEntry items
  | .obj fields =>
    (if isEntry then [((obj fields).get? "id").getD .null] else []) ++ entryIdsOfFields fields
  | _ => []

/-- The ids of the entries that are written in some values. -/
def entryIdsOfItems (isEntry : Bool) : List Json → List Json
  | [] => []
  | item :: items => item.entryIds isEntry ++ entryIdsOfItems isEntry items

/-- The ids of the entries that are written in some fields. -/
def entryIdsOfFields : List (String × Json) → List Json
  | [] => []
  | (key, value) :: fields =>
    (if key = "typeHierarchy" then [] else value.entryIds (entryKeys.contains key)) ++
      entryIdsOfFields fields

end

/-- The ids in some values are those in each of them, in order. -/
theorem entryIdsOfItems_eq_flatMap (isEntry : Bool) (items : List Json) :
    entryIdsOfItems isEntry items = items.flatMap (entryIds isEntry) := by
  induction items with
  | nil => rfl
  | cons item items ih => rw [entryIdsOfItems, ih, List.flatMap_cons]

/-- The ids in two lists of fields are those in the first one and then those in the second one. -/
@[simp]
theorem entryIdsOfFields_append (fs gs : List (String × Json)) :
    entryIdsOfFields (fs ++ gs) = entryIdsOfFields fs ++ entryIdsOfFields gs := by
  induction fs with
  | nil => rfl
  | cons f fs ih => rw [List.cons_append, entryIdsOfFields, ih, entryIdsOfFields, List.append_assoc]

/-- Nothing is written in a value that is not worth writing. -/
theorem entryIds_of_isVoid {value : Json} (h : value.isVoid = true) :
    value.entryIds false = [] := by
  cases value with
  | arr items => cases items with
    | nil => rfl
    | cons => cases h
  | obj fields => cases fields with
    | nil => rfl
    | cons => cases h
  | _ => rfl

/-- A field that holds no entry itself. -/
theorem entryIdsOfFields_field (key : String) (hkey : key ∉ "typeHierarchy" :: entryKeys)
    (value : Json) : entryIdsOfFields (field key value) = value.entryIds false := by
  obtain ⟨hhierarchy, hentry⟩ := not_or.1 (mt List.mem_cons.2 hkey)
  unfold field
  split
  · next hvoid => rw [entryIds_of_isVoid hvoid, entryIdsOfFields]
  · rw [entryIdsOfFields, if_neg hhierarchy, List.contains_eq_mem, decide_eq_false hentry,
      entryIdsOfFields, List.append_nil]

/-- A field of entries. -/
theorem entryIdsOfFields_entries (key : String) (hkey : key ∈ entryKeys) (items : List Json) :
    entryIdsOfFields (field key (.arr items)) = items.flatMap (entryIds true) := by
  have hhierarchy : key ≠ "typeHierarchy" := fun h => absurd (h ▸ hkey) (by decide)
  cases items with
  | nil => rfl
  | cons item items =>
    rw [field, if_neg (by exact Bool.false_ne_true), entryIdsOfFields, if_neg hhierarchy,
      List.contains_eq_mem, decide_eq_true hkey, entryIdsOfFields, List.append_nil, entryIds,
      entryIdsOfItems_eq_flatMap]

/-- The ids in a type hierarchy are left aside. -/
theorem entryIdsOfFields_hierarchy (value : Json) :
    entryIdsOfFields (field "typeHierarchy" value) = [] := by
  unfold field
  split <;> rfl

end Json

/-! ## Types -/

/-- The ids that are written where an entry is written. -/
def idsAt (expand : EntryId → Except Misuse Json) (i : EntryId) : List Json :=
  (expand i).toOption.elim [] (Json.entryIds true)

/-- Whether each of some entries can be written. -/
def Expandable (expand : EntryId → Except Misuse Json) (ids : List EntryId) : Prop :=
  ∀ i ∈ ids, ∃ j, expand i = .ok j

variable {expand : EntryId → Except Misuse Json}

/-- An entry that can be written yields the ids that are written with it. -/
theorem Expandable.yields {i : EntryId} {ids : List EntryId} (h : Expandable expand ids)
    (hi : i ∈ ids) : Yields (expand i) fun j => j.entryIds true = idsAt expand i := by
  obtain ⟨j, hj⟩ := h i hi
  exact ⟨j, hj, by rw [idsAt, hj]; rfl⟩

namespace Ty

/-- The inline declarations of a part of a type are some of the type. -/
theorem literals_subset_of_mem_parts {t u : Ty} (hu : u ∈ t.parts) : u.literals ⊆ t.literals := by
  rw [t.literals_eq]
  exact fun i hi => List.mem_append_right _ (List.mem_flatMap.2 ⟨u, hu, hi⟩)

/-- Types are written with the ids of their inline declarations when each of them is. -/
theorem toJsonListM_yields_of_forall {ts : List Ty}
    (h : ∀ t ∈ ts, Yields (t.toJsonM expand) fun j =>
      j.entryIds false = t.literals.flatMap (idsAt expand)) :
    Yields (toJsonListM expand ts) fun js =>
      js.flatMap (Json.entryIds false) = (ts.flatMap literals).flatMap (idsAt expand) := by
  induction ts with
  | nil => exact .ok rfl
  | cons t ts ih =>
    obtain ⟨ht, hts⟩ := List.forall_mem_cons.1 h
    refine .bind ht fun j hj => .bind (ih hts) fun js hjs => .ok ?_
    rw [List.flatMap_cons, hj, hjs, List.flatMap_cons, List.flatMap_append]

/-- In a written type the inline declarations are written, by induction on its parts. -/
theorem toJsonM_yields (t : Ty) (h : Expandable expand t.literals) :
    Yields (t.toJsonM expand) fun j =>
      j.entryIds false = t.literals.flatMap (idsAt expand) := by
  induction t using induction_parts with
  | step t ih =>
    have hparts : ∀ u ∈ t.parts, Yields (u.toJsonM expand) fun j =>
        j.entryIds false = u.literals.flatMap (idsAt expand) :=
      fun u hu => ih u hu fun i hi => h i (literals_subset_of_mem_parts hu hi)
    have hlist := toJsonListM_yields_of_forall hparts
    cases t with
    | intrinsic | stringLiteral | unknown => exact .ok rfl
    | typeParameter name constraint =>
      cases constraint with
      | none => exact .ok rfl
      | some c =>
        refine .bind (hparts c (by simp [parts])) fun j hj => .ok ?_
        simpa [Json.entryIds, Json.entryIdsOfFields, Json.entryKeys] using hj
    | reference name symbol arguments target =>
      refine .bind hlist fun js hjs => .ok ?_
      rw [parts] at hjs
      rw [literals_reference, ← hjs]
      cases target <;>
        simp [Json.entryIds, Json.entryIdsOfFields, Json.nat, Json.entryIdsOfItems_eq_flatMap,
          Json.entryIdsOfFields_field "typeArguments" (by decide)]
    | literal declaration =>
      refine .bind (h.yields (i := declaration) (by simp)) fun j hj => .ok ?_
      simpa [Json.entryIds, Json.entryIdsOfFields, Json.entryKeys] using hj
    | union | intersection | tuple =>
      refine .bind hlist fun js hjs => .ok ?_
      simpa [Json.entryIds, Json.entryIdsOfFields, Json.entryKeys, Json.entryIdsOfItems_eq_flatMap,
        parts] using hjs
    | array element =>
      refine .bind (hparts element (by simp [parts])) fun j hj => .ok ?_
      simpa [Json.entryIds, Json.entryIdsOfFields, Json.entryKeys] using hj

/-- A list of types names the entries that its types name, in order. -/
theorem toJsonListM_yields {ts : List Ty} (h : Expandable expand (ts.flatMap literals)) :
    Yields (toJsonListM expand ts) fun js =>
      (Json.arr js).entryIds false = (ts.flatMap literals).flatMap (idsAt expand) := by
  have heach : ∀ t ∈ ts, Yields (t.toJsonM expand) fun j =>
      j.entryIds false = t.literals.flatMap (idsAt expand) := by
    intro t ht
    exact t.toJsonM_yields fun i hi => h i (List.mem_flatMap.2 ⟨t, ht, hi⟩)
  refine (toJsonListM_yields_of_forall heach).mono fun js hjs => ?_
  rw [Json.entryIds, Json.entryIdsOfItems_eq_flatMap, hjs]

end Ty

namespace Resolved

/-! ## Parts of an entry -/

/-- A type that may be missing is written with the ids of its inline declarations. -/
theorem typeJson_yields {t : Option Ty} (h : Expandable expand (t.toList.flatMap Ty.literals)) :
    Yields (typeJson expand t) fun j =>
      j.entryIds false = (t.toList.flatMap Ty.literals).flatMap (idsAt expand) := by
  cases t with
  | none => exact .ok rfl
  | some t =>
    rw [Option.toList_some, List.flatMap_singleton] at h ⊢
    exact t.toJsonM_yields h

/-- A list of entries is written with their ids. -/
theorem entriesJson_yields {ids : List EntryId} (h : Expandable expand ids) :
    Yields (entriesJson expand ids) fun j =>
      ∃ items, j = .arr items ∧
        items.flatMap (Json.entryIds true) = ids.flatMap (idsAt expand) := by
  have items : Yields (ids.mapM expand) fun items =>
      items.flatMap (Json.entryIds true) = ids.flatMap (idsAt expand) := by
    induction ids with
    | nil => exact .ok rfl
    | cons i ids ih =>
      rw [List.mapM_cons]
      refine .bind (h.yields (List.mem_cons_self ..)) fun j hj =>
        .bind (ih fun k hk => h k (List.mem_cons_of_mem i hk)) fun js hjs => .ok ?_
      rw [List.flatMap_cons, hj, hjs, List.flatMap_cons]
  exact .bind items fun js hjs => .ok ⟨js, rfl, hjs⟩

/-- A field with an entry that may be missing is written with its ids. -/
theorem entryField_yields {key : String} (hkey : key ∈ Json.entryKeys) {i : Option EntryId}
    (h : Expandable expand i.toList) :
    Yields (entryField expand key i) fun fs =>
      Json.entryIdsOfFields fs = i.toList.flatMap (idsAt expand) := by
  have hhierarchy : key ≠ "typeHierarchy" := fun h => absurd (h ▸ hkey) (by decide)
  cases i with
  | none => exact .ok rfl
  | some i =>
    refine .bind (h.yields (i := i) (List.mem_singleton_self i)) fun j hj => .ok ?_
    rw [Json.entryIdsOfFields, if_neg hhierarchy, List.contains_eq_mem, decide_eq_true hkey, hj,
      Json.entryIdsOfFields]
    simp

/-- The layers of a hierarchy can be written when the inline declarations of their types can. -/
theorem layersToJson_yields {layers : List Layer}
    (h : ∀ layer ∈ layers, Expandable expand (layer.types.flatMap Ty.literals)) :
    Yields (layersToJson expand layers) fun _ => True := by
  induction layers with
  | nil => exact .ok trivial
  | cons layer layers ih =>
    obtain ⟨hlayer, hlayers⟩ := List.forall_mem_cons.1 h
    exact .bind (Ty.toJsonListM_yields hlayer) fun _ _ => .bind (ih hlayers) fun _ _ => .ok trivial

/-- References that were made for links have nothing written inside them. -/
theorem literals_references (refs : List Reference) :
    (refs.map Reference.toTy).flatMap Ty.literals = [] := by
  rw [List.flatMap_map, List.flatMap_eq_nil_iff]
  exact fun r _ => Ty.literals_reference r.name r.symbol [] r.target

/-- References are written without ids of entries. -/
theorem referencesJson_yields (refs : List Reference) :
    Yields (Ty.toJsonListM expand (refs.map Reference.toTy)) fun js =>
      (Json.arr js).entryIds false = [] := by
  have hnil := literals_references refs
  have h : Expandable expand ((refs.map Reference.toTy).flatMap Ty.literals) :=
    hnil ▸ List.forall_mem_nil _
  exact (Ty.toJsonListM_yields h).mono fun js hjs => by rw [hjs, hnil, List.flatMap_nil]

/-- A reference that may be missing is written without ids of entries. -/
theorem referenceJson_yields (r : Option Reference) :
    Yields (referenceJson expand r) fun j => j.entryIds false = [] := by
  have hnil : ((r.map Reference.toTy).toList).flatMap Ty.literals = [] := by
    rw [Option.toList_map, literals_references]
  have h : Expandable expand ((r.map Reference.toTy).toList.flatMap Ty.literals) :=
    hnil ▸ List.forall_mem_nil _
  exact (typeJson_yields h).mono fun j hj => by rw [hj, hnil, List.flatMap_nil]

/-- Links have no entries outside their hierarchy. -/
theorem linkFields_yields {l : Links}
    (h : ∀ layer ∈ l.hierarchy, Expandable expand (layer.types.flatMap Ty.literals)) :
    Yields (linkFields expand l) fun fs => Json.entryIdsOfFields fs = [] := by
  refine .bind (referencesJson_yields l.extendedBy) fun extendedBy hextendedBy =>
    .bind (referencesJson_yields l.implementedBy) fun implementedBy himplementedBy =>
    .bind (referenceJson_yields l.inheritedFrom) fun inheritedFrom hinheritedFrom =>
    .bind (referenceJson_yields l.overwrites) fun overwrites hoverwrites =>
    .bind (referenceJson_yields l.implementationOf) fun implementationOf himplementationOf =>
    .bind (layersToJson_yields h) fun layers _ => .ok ?_
  simp only [Json.entryIdsOfFields_append, Json.entryIdsOfFields_hierarchy,
    Json.entryIdsOfFields_field "extendedBy" (by decide), hextendedBy,
    Json.entryIdsOfFields_field "implementedBy" (by decide), himplementedBy,
    Json.entryIdsOfFields_field "inheritedFrom" (by decide), hinheritedFrom,
    Json.entryIdsOfFields_field "overwrites" (by decide), hoverwrites,
    Json.entryIdsOfFields_field "implementationOf" (by decide), himplementationOf,
    List.append_nil]

/-- The fields of details write what the details hold. -/
theorem detailFields_yields {d : Details} {l : Links} (h : Expandable expand d.held)
    (hlayers : ∀ layer ∈ l.hierarchy, Expandable expand (layer.types.flatMap Ty.literals)) :
    Yields (detailFields expand d l) fun fs =>
      (Json.entryIdsOfFields fs).Perm (d.held.flatMap (idsAt expand)) := by
  simp only [Details.held, Expandable, List.forall_mem_append] at h
  obtain ⟨⟨⟨⟨⟨htypeParameters, ⟨htype, hextended⟩, himplemented⟩, hsignatures⟩, hindex⟩, hgetter⟩,
    hsetter⟩ := h
  refine .bind (typeJson_yields htype) fun type htype =>
    .bind (entriesJson_yields htypeParameters) fun _ htypeParameters =>
    .bind (entriesJson_yields hsignatures) fun _ hsignatures =>
    .bind (entryField_yields (by decide) hindex) fun index hindex =>
    .bind (entryField_yields (by decide) hgetter) fun getter hgetter =>
    .bind (entryField_yields (by decide) hsetter) fun setter hsetter =>
    .bind (Ty.toJsonListM_yields hextended) fun extended hextended =>
    .bind (Ty.toJsonListM_yields himplemented) fun implemented himplemented =>
    .bind (linkFields_yields hlayers) fun links hlinks => .ok ?_
  obtain ⟨typeParameters, rfl, htypeParameters⟩ := htypeParameters
  obtain ⟨signatures, rfl, hsignatures⟩ := hsignatures
  have hvalue : (Json.ofText? d.defaultValue).entryIds false = [] := by
    cases d.defaultValue <;> rfl
  have hsources : (Json.arr (d.sources.map SourceRef.toJson)).entryIds false = [] := by
    rw [Json.entryIds, Json.entryIdsOfItems_eq_flatMap, List.flatMap_map, List.flatMap_eq_nil_iff]
    intro source _
    unfold SourceRef.toJson
    cases source.line <;> rfl
  simp only [Json.entryIdsOfFields_append, hindex, hgetter, hsetter, hlinks,
    Json.entryIdsOfFields_field "type" (by decide), htype,
    Json.entryIdsOfFields_entries "typeParameters" (by decide), htypeParameters,
    Json.entryIdsOfFields_entries "signatures" (by decide), hsignatures,
    Json.entryIdsOfFields_field "defaultValue" (by decide), hvalue,
    Json.entryIdsOfFields_field "extendedTypes" (by decide), hextended,
    Json.entryIdsOfFields_field "implementedTypes" (by decide), himplemented,
    Json.entryIdsOfFields_field "sources" (by decide), hsources]
  -- The types are written before the signatures and after them.
  classical
  refine List.perm_iff_count.2 fun id => ?_
  simp only [Details.held, List.flatMap_append, List.count_append, List.count_nil]
  omega

/-- The field of children is written with their ids. -/
theorem childFields_yields {m : Members} (h : Expandable expand m.ids) :
    Yields (childFields expand m) fun fs =>
      Json.entryIdsOfFields fs = m.ids.flatMap (idsAt expand) := by
  refine .bind (entriesJson_yields h) fun _ hchildren => .ok ?_
  obtain ⟨children, rfl, hchildren⟩ := hchildren
  rw [Json.entryIdsOfFields_entries _ (by decide), hchildren]

/-- The fields of the form of an entry write what the entry holds. -/
theorem bodyFields_yields {e : Entry} {l : Links} (h : Expandable expand e.held)
    (hlayers : ∀ layer ∈ l.hierarchy, Expandable expand (layer.types.flatMap Ty.literals)) :
    Yields (bodyFields expand l e.body) fun fs =>
      (Json.entryIdsOfFields fs).Perm (e.held.flatMap (idsAt expand)) := by
  obtain ⟨name, kind, flags, comment, parent, body⟩ := e
  cases body with
  | plain => exact .ok (.refl _)
  | container m | project m => exact (childFields_yields h).mono fun _ hfs => hfs ▸ .refl _
  | declaration m d =>
    simp only [Entry.held, Expandable, List.forall_mem_append] at h
    refine .bind (detailFields_yields h.1 hlayers) fun fs hfs =>
      .bind (childFields_yields h.2) fun gs hgs => .ok ?_
    rw [Json.entryIdsOfFields_append, hgs, Entry.held, List.flatMap_append]
    exact hfs.append_right _
  | signature s =>
    simp only [Entry.held, Shape.held, Expandable, List.forall_mem_append] at h
    refine .bind (entriesJson_yields h.1.1) fun _ htypeParameters =>
      .bind (entriesJson_yields h.2) fun _ hparameters =>
      .bind (typeJson_yields h.1.2) fun type htype => .ok ?_
    obtain ⟨typeParameters, rfl, htypeParameters⟩ := htypeParameters
    obtain ⟨parameters, rfl, hparameters⟩ := hparameters
    simp only [Json.entryIdsOfFields_append, Entry.held, Shape.held, List.flatMap_append,
      Json.entryIdsOfFields_entries "typeParameters" (by decide), htypeParameters,
      Json.entryIdsOfFields_entries "parameters" (by decide), hparameters,
      Json.entryIdsOfFields_field "type" (by decide), htype, List.append_assoc]
    exact List.perm_append_comm.append_left _
  | parameter type value =>
    refine .bind (typeJson_yields h) fun j hj => .ok ?_
    have hvalue : (Json.ofText? value).entryIds false = [] := by cases value <;> rfl
    rw [Json.entryIdsOfFields_append, Json.entryIdsOfFields_field _ (by decide), hj,
      Json.entryIdsOfFields_field _ (by decide), hvalue, List.append_nil]
    exact .refl _
  | typeParameter constraint default =>
    simp only [Entry.held, Expandable, List.forall_mem_append] at h
    refine .bind (typeJson_yields h.1) fun limit hlimit =>
      .bind (typeJson_yields h.2) fun j hj => .ok ?_
    rw [Json.entryIdsOfFields_append, Json.entryIdsOfFields_field _ (by decide), hlimit,
      Json.entryIdsOfFields_field _ (by decide), hj, Entry.held, List.flatMap_append]

/-- What every entry has does not hold entries. -/
theorem entryIdsOfFields_commonFields (i : EntryId) (e : Entry) :
    Json.entryIdsOfFields (commonFields i e) = [] := by
  have hflags : e.flags.toJson.entryIds false = [] := by
    unfold Flags.toJson
    rw [Json.entryIds]
    generalize Flag.table.filter (fun row => e.flags.has row.1) = rows
    induction rows with
    | nil => rfl
    | cons row rows ih => simp_all [Json.entryIdsOfFields, Json.entryIds]
  have hcomment : ∀ c : Comment, c.toJson.entryIds false = [] := by
    intro c
    have htags : Json.entryIdsOfItems false (c.tags.map Tag.toJson) = [] := by
      rw [Json.entryIdsOfItems_eq_flatMap, List.flatMap_map, List.flatMap_eq_nil_iff]
      intro tag _
      unfold Tag.toJson
      split
      · split <;> rfl
      · rfl
    unfold Comment.toJson
    split <;> split <;>
      simp [Json.entryIds, Json.entryIdsOfFields, Json.entryKeys, htags]
  unfold commonFields
  split
  · split <;>
      simp [Json.entryIdsOfFields, Json.entryIds, Json.nat, Json.entryKeys, hflags, hcomment]
  · simp [Json.entryIdsOfFields, Json.entryIds, Json.nat, Json.entryKeys, hflags]

/-- A written entry has its own id, and the ids of what it holds. -/
theorem writeAt_yields {r : Resolved} {depth : Nat} {i : EntryId} {e : Entry}
    (he : r.atlas.get? i = some e) (h : Expandable (r.writeAt depth) e.held)
    (hlayers : ∀ layer ∈ (r.linksOf i).hierarchy,
      Expandable (r.writeAt depth) (layer.types.flatMap Ty.literals)) :
    Yields (r.writeAt (depth + 1) i) fun j =>
      (j.entryIds true).Perm (.nat i :: e.held.flatMap (idsAt (r.writeAt depth))) := by
  have hfetch : r.atlas.fetch i = .ok e := by rw [Atlas.fetch, he]
  rw [writeAt, hfetch]
  refine .bind (.ok rfl) fun e' he' =>
    he' ▸ .bind (bodyFields_yields h hlayers) fun fs hfs => .ok ?_
  rw [Json.entryIds, Json.entryIdsOfFields_append, entryIdsOfFields_commonFields, List.nil_append]
  exact hfs.cons _

end Resolved

end ApiAtlas
