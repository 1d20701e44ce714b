import ApiAtlas.Proofs.Resolution.Outcome

/-!
# What is in the layers of a hierarchy

The links that resolution leaves have hierarchies for classes and interfaces only, and the types in
their layers are references that were made for them, or types that some declaration extends. So
whatever is written inside such a type is held by that declaration.
-/

set_option autoImplicit false

namespace ApiAtlas

/-- What a declaration extends is among its own types. -/
theorem Entry.extended_subset_ownTypes {e : Entry} {d : Details} (h : e.details? = some d) :
    d.extended ⊆ e.ownTypes := by
  unfold details? at h
  unfold ownTypes
  split at h
  · next m d' hb =>
    obtain rfl := Option.some.inj h
    rw [hb]
    exact fun t ht => List.mem_append_left _ (List.mem_append_right _ ht)
  · cases h

namespace Atlas

/-- Whether the links of an entry have no hierarchy, or that of the entry for some declarations
that extend it. -/
def Layered (a : Atlas) (links : Array Links) : Prop :=
  ∀ i l, links[i]? = some l →
    l.hierarchy = [] ∨ ∃ extending, l.hierarchy = a.hierarchy i extending

variable {a : Atlas} {links links' : Array Links} {i : EntryId} {layer : Layer} {t : Ty}

/-! ## Links -/

/-- Links are layered still after a change that leaves the hierarchy or sets it to that of the
entry. -/
theorem Layered.modify (h : a.Layered links) {f : Links → Links}
    (hf : ∀ l, (f l).hierarchy = l.hierarchy ∨
      ∃ extending, (f l).hierarchy = a.hierarchy i extending) :
    a.Layered (links.modify i f) := by
  intro j l hl
  rw [Array.getElem?_modify] at hl
  split at hl
  · next hij =>
    obtain ⟨l₀, hl₀, rfl⟩ := Option.map_eq_some_iff.1 hl
    rcases hf l₀ with hsame | hnew
    · exact hsame ▸ h j l₀ hl₀
    · exact .inr (hij ▸ hnew)
  · exact h j l hl

/-- Links are layered still after changes that leave hierarchies or set them to those of their
entries. -/
theorem Layered.foldl_modify (h : a.Layered links) {ids : List EntryId}
    {f : EntryId → Links → Links}
    (hf : ∀ id l, (f id l).hierarchy = l.hierarchy ∨
      ∃ extending, (f id l).hierarchy = a.hierarchy id extending) :
    a.Layered (ids.foldl (fun links id => links.modify id (f id)) links) := by
  induction ids generalizing links with
  | nil => exact h
  | cons id ids ih => exact ih (h.modify (hf id))

/-- Referring back to a declaration leaves the hierarchies of what refers to it. -/
theorem Layered.linkBack (h : a.Layered links) (keep : List Reference → Links → Links)
    (hkeep : ∀ refs l, (keep refs l).hierarchy = l.hierarchy) (targets : List EntryId) :
    a.Layered (a.linkBack i keep links targets) := by
  unfold Atlas.linkBack
  induction targets generalizing links with
  | nil => exact h
  | cons target targets ih =>
    rw [List.foldl_cons]
    split
    · exact ih h
    · exact ih (h.modify fun l => .inl (hkeep _ l))

/-- No reverse edge comes with a hierarchy. -/
theorem layered_reverseLinks : a.Layered a.reverseLinks := by
  have linked : ∀ (ids : List EntryId) found, a.Layered found →
      a.Layered (ids.foldl a.linkReverseEdges found) := by
    intro ids
    induction ids with
    | nil => exact fun _ h => h
    | cons id ids ih =>
      intro found h
      have hextended := h.linkBack Links.addExtending (fun _ _ => rfl) (a.bases id) (i := id)
      exact ih _ (hextended.linkBack Links.addImplementing (fun _ _ => rfl) (a.interfaces id))
  refine linked _ _ fun i l hl => ?_
  rw [Array.getElem?_replicate, Option.ite_none_right_eq_some] at hl
  obtain ⟨-, hl⟩ := hl
  obtain rfl := Option.some.inj hl
  exact .inl rfl

/-- Linking a member leaves its hierarchy. -/
theorem linkMember_hierarchy (owner member : EntryId) (ancestors interfaces : List EntryId)
    (l : Links) : (a.linkMember owner ancestors interfaces member l).hierarchy = l.hierarchy := by
  unfold linkMember
  dsimp only
  split <;> split <;> (try split) <;> (try split) <;> rfl

/-- Linking members leaves links layered. -/
theorem Layered.linkMembers (h : a.Layered links) (hok : a.linkMembers links i = .ok links') :
    a.Layered links' := by
  unfold Atlas.linkMembers at hok
  dsimp only at hok
  generalize (if a.kindOf i = .class then a.allInterfaces i else []) = interfaces at hok
  split at hok
  · exact Except.ok.inj hok ▸ h
  · obtain ⟨es, -, hok⟩ := Except.exists_of_bind_eq_ok hok
    exact Except.ok.inj hok ▸ h.foldl_modify fun _ l => .inl (linkMember_hierarchy ..)

/-- Hierarchies are only made by the last step. -/
theorem layered_of_allLinks (h : a.allLinks = .ok links) : a.Layered links := by
  have linked : ∀ (ids : List EntryId) found, a.Layered found → ∀ found',
      ids.foldlM a.linkMembers found = .ok found' → a.Layered found' := by
    intro ids
    induction ids with
    | nil => exact fun found h found' hok => Except.ok.inj hok ▸ h
    | cons id ids ih =>
      intro found h found' hok
      rw [List.foldlM_cons] at hok
      obtain ⟨next, hnext, hok⟩ := Except.exists_of_bind_eq_ok hok
      exact ih next (h.linkMembers hnext) found' hok
  obtain ⟨found, hfound, h⟩ := Except.exists_of_bind_eq_ok h
  rw [← Except.ok.inj h, addHierarchies]
  exact (linked _ _ layered_reverseLinks _ hfound).foldl_modify fun _ _ => .inr ⟨_, rfl⟩

/-! ## Layers -/

/-- Only classes and interfaces have layers. -/
theorem isClassOrInterface_of_hierarchy {extending : List Reference}
    (h : layer ∈ a.hierarchy i extending) : a.isClassOrInterface i = true := by
  unfold hierarchy at h
  dsimp only at h
  split at h
  · cases h
  · next hcond =>
    rw [Bool.or_eq_true, not_or, Bool.not_eq_true', Bool.not_eq_false] at hcond
    exact hcond.1

/-- What has an inline declaration inside it in a layer is what some declaration extends. -/
theorem extended_of_mem_hierarchy {extending : List Reference}
    (h : layer ∈ a.hierarchy i extending) (ht : t ∈ layer.types) (hlit : t.literals ≠ []) :
    ∃ k d, a.details? k = some d ∧ t ∈ d.extended := by
  have plain : ∀ r : Reference, r.toTy.literals = [] := fun r =>
    Ty.literals_reference r.name r.symbol [] r.target
  unfold hierarchy at h
  dsimp only at h
  split at h
  · cases h
  · rcases List.mem_append.1 h with h | h
    · rcases List.mem_append.1 h with h | h
      · obtain ⟨types, htypes, rfl⟩ := List.mem_map.1 h
        rw [List.mem_reverse, List.mem_filter, List.mem_map] at htypes
        obtain ⟨⟨level, -, rfl⟩, -⟩ := htypes
        obtain ⟨k, -, hk⟩ := List.mem_flatMap.1 ht
        cases hd : a.details? k with
        | none => rw [hd] at hk; cases hk
        | some d => rw [hd] at hk; exact ⟨k, d, hd, hk⟩
      · rw [List.mem_singleton.1 h, List.mem_singleton] at ht
        exact absurd (ht ▸ plain _) hlit
    · split at h
      · cases h
      · rw [List.mem_singleton.1 h] at ht
        obtain ⟨r, -, rfl⟩ := List.mem_map.1 ht
        exact absurd (plain r) hlit

/-- A class or an interface has an entry of such a kind. -/
theorem exists_get?_of_isClassOrInterface (h : a.isClassOrInterface i = true) :
    ∃ e, a.get? i = some e ∧ e.kind.isIn Kind.classOrInterface = true := by
  unfold isClassOrInterface kindOf at h
  cases he : a.get? i with
  | none => rw [he] at h; exact absurd h (by decide)
  | some e => rw [he] at h; exact ⟨e, rfl, h⟩

end Atlas

/-! ## The outcome -/

/-- The links of an outcome are those of the converted atlas after its references are resolved. -/
theorem Program.convert_links {settings : Settings} {files : List Source.File} {d : Draft}
    {r : Resolved} (h : convert settings files = .ok (d, r)) :
    d.atlas.resolveReferences.allLinks = .ok r.links := by
  obtain ⟨-, hcomplete, -⟩ := convert_completes h
  obtain ⟨links, hlinks, hcomplete⟩ := Except.exists_of_bind_eq_ok hcomplete
  obtain ⟨_, -, hcomplete⟩ := Except.exists_of_bind_eq_ok hcomplete
  exact (Prod.mk.inj (Except.ok.inj hcomplete)).2 ▸ hlinks

/-- Only a class or an interface has an inline declaration in its hierarchy, and that is inside a
type of some entry. -/
theorem Program.convert_layers {settings : Settings} {files : List Source.File} {d : Draft}
    {r : Resolved} (h : convert settings files = .ok (d, r)) {i c : EntryId} {layer : Layer}
    {t : Ty} (hlayer : layer ∈ (r.linksOf i).hierarchy) (ht : t ∈ layer.types)
    (hc : c ∈ t.literals) :
    (∃ e, d.atlas.get? i = some e ∧ e.kind.isIn Kind.classOrInterface = true) ∧
      ∃ k e, d.atlas.get? k = some e ∧ c ∈ e.ownTypes.flatMap Ty.literals := by
  have referring : ∀ {j e}, d.atlas.resolveReferences.get? j = some e →
      ∃ e₀, d.atlas.get? j = some e₀ ∧ e₀.mapTypes (Ty.resolve d.atlas.lookup) = e := by
    intro j e he
    rw [Atlas.get?_resolveReferences] at he
    exact Option.map_eq_some_iff.1 he
  unfold Resolved.linksOf at hlayer
  cases hl : r.links[i]? with
  | none => rw [hl] at hlayer; cases hlayer
  | some l =>
    rw [hl] at hlayer
    rcases Atlas.layered_of_allLinks (convert_links h) i l hl with hnone | ⟨extending, heq⟩
    · exact absurd hlayer (by simp [hnone])
    · have hmem : layer ∈ d.atlas.resolveReferences.hierarchy i extending := heq ▸ hlayer
      constructor
      · obtain ⟨e, he, hk⟩ := Atlas.exists_get?_of_isClassOrInterface
          (Atlas.isClassOrInterface_of_hierarchy hmem)
        obtain ⟨e₀, he₀, rfl⟩ := referring he
        exact ⟨e₀, he₀, e₀.mapTypes_kind _ ▸ hk⟩
      · obtain ⟨k, details, hd, htd⟩ := Atlas.extended_of_mem_hierarchy hmem ht
          (List.ne_nil_of_mem hc)
        obtain ⟨e, he, hed⟩ := Option.bind_eq_some_iff.1 hd
        obtain ⟨e₀, he₀, rfl⟩ := referring he
        have hown := Entry.extended_subset_ownTypes hed htd
        rw [Entry.ownTypes_mapTypes] at hown
        obtain ⟨t₀, ht₀, rfl⟩ := List.mem_map.1 hown
        exact ⟨k, e₀, he₀, List.mem_flatMap.2 ⟨t₀, ht₀, Ty.literals_resolve _ t₀ ▸ hc⟩⟩

end ApiAtlas
