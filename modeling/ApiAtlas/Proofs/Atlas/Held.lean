import ApiAtlas.Atlas.Owned
import ApiAtlas.Proofs.Atlas.Growth
import ApiAtlas.Proofs.Ty.Parts

/-!
# What an entry holds

The entries in the slots of an entry, as one list (`Entry.held`), and the lists of numbers among
its parts (`Entry.idLists`), which are to be increasing. A change that puts new entries into the
slots makes the entry take them (`Entry.Takes`), which is shown for each of the slots.
-/

set_option autoImplicit false

namespace ApiAtlas

/-- The entries that details hold, inline declarations of the types included. -/
def Details.held (d : Details) : List EntryId :=
  d.typeParameters ++ (d.type.toList.flatMap Ty.literals ++ d.extended.flatMap Ty.literals ++
    d.implemented.flatMap Ty.literals) ++ d.signatures ++ d.indexSignature.toList ++
    d.getSignature.toList ++ d.setSignature.toList

/-- The entries that a shape holds. -/
def Shape.held (s : Shape) : List EntryId :=
  s.typeParameters ++ s.type.toList.flatMap Ty.literals ++ s.parameters

namespace Entry

/-- The entries in the slots of an entry. -/
def held (e : Entry) : List EntryId :=
  match e.body with
  | .plain => []
  | .container m => m.ids
  | .project m => m.ids
  | .declaration m d => d.held ++ m.ids
  | .signature s => s.held
  | .parameter type _ => type.toList.flatMap Ty.literals
  | .typeParameter constraint default =>
    constraint.toList.flatMap Ty.literals ++ default.toList.flatMap Ty.literals

/-- The children, signatures, parameters and type parameters of an entry. -/
def idLists (e : Entry) : List (List EntryId) :=
  match e.body with
  | .container m => [m.ids]
  | .project m => [m.ids]
  | .declaration m d => [m.ids, d.signatures, d.typeParameters]
  | .signature s => [s.parameters, s.typeParameters]
  | _ => []

/-- Whether all these lists are strictly increasing. -/
def Increasing (e : Entry) : Prop :=
  ∀ ids ∈ e.idLists, ids.Pairwise (· < ·)

end Entry

/-- The inline declarations of an entry's own types are held. -/
theorem Entry.literals_subset_held (e : Entry) : e.ownTypes.flatMap Ty.literals ⊆ e.held := by
  intro i hi
  obtain ⟨name, kind, flags, comment, parent, body⟩ := e
  cases body <;>
    simp only [Entry.ownTypes, Entry.held, Details.held, Shape.held, List.flatMap_append,
      List.flatMap_nil, List.mem_append, List.not_mem_nil] at hi ⊢ <;>
    tauto

/-- An increasing list stays so when something greater is put at its end. -/
theorem pairwise_lt_concat {ids : List EntryId} {i : EntryId} (h : ids.Pairwise (· < ·))
    (hi : ∀ j ∈ ids, j < i) : (ids ++ [i]).Pairwise (· < ·) := by
  rw [List.pairwise_append]
  exact ⟨h, List.pairwise_singleton _ _, fun j hj k hk => List.mem_singleton.1 hk ▸ hi j hj⟩

/-! ## Taking new entries -/

/-- Details take new entries into their slots. -/
structure Details.Takes (d d' : Details) (new : List EntryId) : Prop where
  held : d'.held.Perm (d.held ++ new)
  signatures : d.signatures.Pairwise (· < ·) → d'.signatures.Pairwise (· < ·)
  typeParameters : d.typeParameters.Pairwise (· < ·) → d'.typeParameters.Pairwise (· < ·)

/-- An entry takes new entries into its slots, and its lists stay increasing. -/
structure Entry.Takes (e e' : Entry) (new : List EntryId) : Prop where
  parent : e'.parent = e.parent
  held : e'.held.Perm (e.held ++ new)
  increasing : e.Increasing → e'.Increasing

namespace Details

variable {d : Details} {i : EntryId}

/-- A declaration takes a younger type parameter. -/
theorem takes_typeParameter (hlt : ∀ j ∈ d.typeParameters, j < i) :
    d.Takes { d with typeParameters := d.typeParameters ++ [i] } [i] where
  held := List.perm_iff_count.2 fun c => by simp only [Details.held, List.count_append]; omega
  signatures := id
  typeParameters h := pairwise_lt_concat h hlt

/-- A declaration takes a younger signature. -/
theorem takes_signature (hlt : ∀ j ∈ d.signatures, j < i) :
    d.Takes { d with signatures := d.signatures ++ [i] } [i] where
  held := List.perm_iff_count.2 fun c => by simp only [Details.held, List.count_append]; omega
  signatures h := pairwise_lt_concat h hlt
  typeParameters := id

/-- A declaration without index signature takes one. -/
theorem takes_indexSignature (hnone : d.indexSignature = none) :
    d.Takes { d with indexSignature := some i } [i] where
  held := List.perm_iff_count.2 fun c => by
    simp only [Details.held, List.count_append, hnone, Option.toList_none, List.count_nil,
      Option.toList_some]
    omega
  signatures := id
  typeParameters := id

/-- A declaration without signature for reading takes one. -/
theorem takes_getSignature (hnone : d.getSignature = none) :
    d.Takes { d with getSignature := some i } [i] where
  held := List.perm_iff_count.2 fun c => by
    simp only [Details.held, List.count_append, hnone, Option.toList_none, List.count_nil,
      Option.toList_some]
    omega
  signatures := id
  typeParameters := id

/-- A declaration without signature for writing takes one. -/
theorem takes_setSignature (hnone : d.setSignature = none) :
    d.Takes { d with setSignature := some i } [i] where
  held := List.perm_iff_count.2 fun c => by
    simp only [Details.held, List.count_append, hnone, Option.toList_none, List.count_nil,
      Option.toList_some]
    omega
  signatures := id
  typeParameters := id

/-- A declaration without type takes one, and with it the inline declarations inside. -/
theorem takes_type (hnone : d.type = none) (t : Option Ty) :
    d.Takes { d with type := t } (t.toList.flatMap Ty.literals) where
  held := List.perm_iff_count.2 fun c => by
    simp only [Details.held, List.count_append, hnone, Option.toList_none, List.flatMap_nil,
      List.count_nil]
    omega
  signatures := id
  typeParameters := id

/-- A declaration takes more types that it extends, with the inline declarations inside. -/
theorem takes_extended (ts : List Ty) :
    d.Takes { d with extended := d.extended ++ ts } (ts.flatMap Ty.literals) where
  held := List.perm_iff_count.2 fun c => by
    simp only [Details.held, List.count_append, List.flatMap_append]
    omega
  signatures := id
  typeParameters := id

/-- A declaration takes more types that it implements, with the inline declarations inside. -/
theorem takes_implemented (ts : List Ty) :
    d.Takes { d with implemented := d.implemented ++ ts } (ts.flatMap Ty.literals) where
  held := List.perm_iff_count.2 fun c => by
    simp only [Details.held, List.count_append, List.flatMap_append]
    omega
  signatures := id
  typeParameters := id

end Details

namespace Entry

variable {e : Entry} {i : EntryId} {new : List EntryId}

/-- An entry takes what is held at the end of what it held before. -/
theorem takes_of_eq {e' : Entry} (hparent : e'.parent = e.parent) (hheld : e'.held = e.held ++ new)
    (hinc : e.Increasing → e'.Increasing) : e.Takes e' new :=
  ⟨hparent, hheld ▸ List.Perm.refl _, hinc⟩

/-- What is in no slot may become anything. -/
theorem takes_nil {e' : Entry} (hparent : e'.parent = e.parent) (hbody : e'.body = e.body) :
    e.Takes e' [] := by
  refine takes_of_eq hparent ?_ ?_
  · rw [held, hbody, List.append_nil, held]
  · rw [Increasing, idLists, Increasing, idLists, hbody]
    exact id

/-- An entry takes what its details take. -/
theorem takes_details {m : Members} {d d' : Details} (hb : e.body = .declaration m d)
    (h : d.Takes d' new) : e.Takes { e with body := .declaration m d' } new where
  parent := rfl
  held := by
    simp only [held, hb]
    exact (h.held.append_right _).trans (by
      rw [List.append_assoc, List.append_assoc]
      exact List.perm_append_comm.append_left _)
  increasing hinc := by
    simp only [Increasing, idLists, hb, List.forall_mem_cons] at hinc ⊢
    exact ⟨hinc.1, h.signatures hinc.2.1, h.typeParameters hinc.2.2.1, nofun⟩

/-- The declared type of a declaration, or the result of a signature. -/
def type? (e : Entry) : Option Ty :=
  match e.body with
  | .declaration _ d => d.type
  | .signature s => s.type
  | _ => none

/-- Whether an entry can have type parameters. -/
def IsGeneric (e : Entry) : Prop :=
  e.isDeclaration = true ∨ e.shape?.isSome = true

/-- A signature takes a younger parameter. -/
theorem takes_parameters {s : Shape} (hb : e.body = .signature s)
    (hlt : ∀ j ∈ s.parameters, j < i) :
    e.Takes { e with body := .signature { s with parameters := s.parameters ++ [i] } } [i] := by
  refine takes_of_eq rfl ?_ fun hinc => ?_
  · simp [held, Shape.held, hb]
  · simp only [Increasing, idLists, hb, List.forall_mem_cons] at hinc ⊢
    exact ⟨pairwise_lt_concat hinc.1 hlt, hinc.2⟩

/-- A signature without result takes one, and with it the inline declarations inside. -/
theorem takes_result {s : Shape} (hb : e.body = .signature s) (hnone : s.type = none)
    (t : Option Ty) :
    e.Takes { e with body := .signature { s with type := t } } (t.toList.flatMap Ty.literals) where
  parent := rfl
  held := List.perm_iff_count.2 fun c => by
    simp only [held, Shape.held, hb, List.count_append, hnone, Option.toList_none,
      List.flatMap_nil, List.count_nil]
    omega
  increasing hinc := by
    simpa only [Increasing, idLists, hb] using hinc

/-- A signature takes a younger type parameter. -/
theorem takes_typeParameters {s : Shape} (hb : e.body = .signature s)
    (hlt : ∀ j ∈ s.typeParameters, j < i) :
    e.Takes { e with body := .signature { s with typeParameters := s.typeParameters ++ [i] } }
      [i] where
  parent := rfl
  held := List.perm_iff_count.2 fun c => by
    simp only [held, Shape.held, hb, List.count_append]
    omega
  increasing hinc := by
    simp only [Increasing, idLists, hb, List.forall_mem_cons] at hinc ⊢
    exact ⟨hinc.1, pairwise_lt_concat hinc.2.1 hlt, hinc.2.2⟩

/-- An entry that may have type parameters takes one that is younger than all it holds. -/
theorem takes_addTypeParameter (he : e.IsGeneric) (hlt : ∀ j ∈ e.held, j < i) :
    e.Takes (e.addTypeParameter i) [i] := by
  obtain ⟨name, kind, flags, comment, parent, body⟩ := e
  cases body with
  | declaration m d =>
    refine takes_details rfl (Details.takes_typeParameter fun j hj => hlt j ?_)
    simp [held, Details.held, hj]
  | signature s =>
    refine takes_typeParameters rfl fun j hj => hlt j ?_
    simp [held, Shape.held, hj]
  | _ => rcases he with he | he <;> cases he

/-- A parameter without type takes one, and with it the inline declarations inside. -/
theorem takes_parameterType {v v' : Option String} (hb : e.body = .parameter none v)
    (t : Option Ty) :
    e.Takes { e with body := .parameter t v' } (t.toList.flatMap Ty.literals) :=
  takes_of_eq rfl (by simp [held, hb]) nofun

/-- A type parameter without bounds takes them, with the inline declarations inside. -/
theorem takes_bounds (hb : e.body = .typeParameter none none) (l d : Option Ty) :
    e.Takes { e with body := .typeParameter l d }
      (l.toList.flatMap Ty.literals ++ d.toList.flatMap Ty.literals) :=
  takes_of_eq rfl (by simp [held, hb]) nofun

/-- A container takes a child that is younger than all it holds. -/
theorem takes_insert (he : e.members?.isSome = true) (name : String)
    (hlt : ∀ j ∈ e.held, j < i) : e.Takes (e.mapMembers fun m => m.insert name i) [i] := by
  obtain ⟨name, kind, flags, comment, parent, body⟩ := e
  have lists : ∀ m : Members, m.ids.Pairwise (· < ·) → (∀ j ∈ m.ids, j < i) →
      (m.insert name i).ids.Pairwise (· < ·) := fun m h hm => pairwise_lt_concat h hm
  cases body with
  | container m | project m =>
    refine takes_of_eq rfl rfl fun hinc => ?_
    simp only [Increasing, idLists, mapMembers, List.forall_mem_cons] at hinc ⊢
    exact ⟨lists m hinc.1 hlt, nofun⟩
  | declaration m d =>
    refine takes_of_eq rfl ?_ fun hinc => ?_
    · simp [held, mapMembers, Members.insert]
    · simp only [Increasing, idLists, mapMembers, List.forall_mem_cons] at hinc ⊢
      exact ⟨lists m hinc.1 fun j hj => hlt j (by simp [held, hj]), hinc.2⟩
  | _ => cases he

end Entry

/-! ## Slots -/

namespace Atlas

variable {a : Atlas} {e : Entry}

/-- What is held in a slot is held in order. -/
theorem map_fst_holding (slot : Slot) (ids : List EntryId) :
    (slot.holding ids).map Prod.fst = ids := by
  simp [Slot.holding, Function.comp_def]

/-- The slots hold exactly what the entry holds, if the inline declarations of its types are all
there. -/
theorem map_fst_slots (h : ∀ i ∈ e.held, i < a.size) : (a.slots e).map Prod.fst = e.held := by
  have literals : ∀ ids : List EntryId, (∀ i ∈ ids, i < a.size) →
      ids.filter (fun id => (a.get? id).isSome) = ids :=
    fun ids hids => List.filter_eq_self.2 fun i hi => get?_isSome_iff.2 (hids i hi)
  have hown : a.ownLiterals e = e.ownTypes.flatMap Ty.literals :=
    literals _ fun i hi => h i (e.literals_subset_held hi)
  unfold slots
  rw [hown]
  obtain ⟨name, kind, flags, comment, parent, body⟩ := e
  cases body <;>
    simp [Entry.ownTypes, Entry.held, Details.held, Shape.held, map_fst_holding]

end Atlas

end ApiAtlas
