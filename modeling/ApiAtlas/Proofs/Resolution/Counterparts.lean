import ApiAtlas.Proofs.Conversion.Catalogued
import ApiAtlas.Proofs.Resolution.Levels

/-!
# Overwritten and implemented members

A member overwrites the member of its name in the nearest ancestor that has one as static as it is,
and a member of a class implements the one in the first interface that has one
(`convert_overwrites`, `convert_implementationOf`). Only the first child of the name counts in each
of them (`Atlas.IsCounterpart`): where two children share a name, the second one is not found. What
a member is inherited from and what it overwrites belongs to another declaration; what it implements
does too, unless its class is among its own interfaces (`convert_counterparts_apart`).
-/

set_option autoImplicit false

namespace ApiAtlas

namespace Atlas

variable {a b : Atlas} {m o owner i : EntryId} {owners : List EntryId}

/-! ## Counterparts -/

/-- Whether an entry is what stands for a member in a declaration: the first child of the member's
name, which is a declaration and as static as the member. -/
structure IsCounterpart (a : Atlas) (m owner o : EntryId) : Prop where
  first : (a.childrenOf owner).find? (a.nameOf · = a.nameOf m) = some o
  isDeclaration : a.isDeclaration o = true
  asStatic : a.hasFlag o .isStatic = a.hasFlag m .isStatic

/-- Whether an entry is what stands for a member in the first of some declarations that has a
counterpart of it. -/
def IsNearest (a : Atlas) (owners : List EntryId) (m o : EntryId) : Prop :=
  ∃ before owner after, owners = before ++ owner :: after ∧ a.IsCounterpart m owner o ∧
    ∀ x ∈ before, ∀ o', ¬a.IsCounterpart m x o'

/-- In an atlas that lists children by name, the counterpart that is found is the one there is. -/
theorem Catalogued.counterpart?_eq_some_iff (h : a.Catalogued) :
    a.counterpart? m owner = some o ↔ a.IsCounterpart m owner o := by
  unfold counterpart?
  rw [h.child?_eq_find?]
  constructor
  · intro hfound
    split at hfound
    · next c hfirst =>
      split at hfound
      · next hcond =>
        obtain rfl := Option.some.inj hfound
        rw [Bool.and_eq_true, beq_iff_eq] at hcond
        exact ⟨hfirst, hcond.1, hcond.2⟩
      · cases hfound
    · cases hfound
  · rintro ⟨hfirst, hdecl, hstatic⟩
    rw [hfirst]
    simp [hdecl, hstatic]

/-- The search over several declarations finds the nearest counterpart. -/
theorem Catalogued.findMember?_eq_some_iff (h : a.Catalogued) :
    a.findMember? owners m = some o ↔ a.IsNearest owners m o := by
  have hnone : ∀ x, a.counterpart? m x = none ↔ ∀ o', ¬a.IsCounterpart m x o' := by
    intro x
    rw [Option.eq_none_iff_forall_ne_some]
    exact forall_congr' fun o' => not_congr h.counterpart?_eq_some_iff
  rw [findMember?, List.findSome?_eq_some_iff]
  simp only [h.counterpart?_eq_some_iff, hnone]
  rfl

/-- A nearest counterpart is one in some of the declarations. -/
theorem IsNearest.exists_owner (h : a.IsNearest owners m o) :
    ∃ x ∈ owners, a.IsCounterpart m x o := by
  obtain ⟨before, x, after, rfl, hx, -⟩ := h
  exact ⟨x, List.mem_append_right before List.mem_cons_self, hx⟩

/-- A counterpart belongs to the declaration in which it stands for the member. -/
theorem IsCounterpart.parent?_eq (h : a.IsCounterpart m owner o) (ha : a.ListsOnce) :
    a.parent? o = some owner :=
  ha.parent owner o (List.mem_of_find?_eq_some h.first)

/-! ## Linking -/

/-- A child of a class or an interface is linked to what that finds for it, also if there is nothing
to search. -/
theorem links_of_child {links : Array Links} (ha : a.ListsOnce) (hok : a.allLinks = .ok links)
    (howner : owner ∈ a.declarations.filter a.isClassOrInterface) (hchild : i ∈ a.childrenOf owner)
    (hi : a.isDeclaration i = true) :
    (links[i]?.getD {}).overwrites = a.overwrittenReference owner i ∧
      (links[i]?.getD {}).implementationOf = a.implementedReference owner i := by
  by_cases habove : a.ancestors owner ≠ [] ∨ a.linkedInterfaces owner ≠ []
  · have hlinked : a.LinksMember owner i := ⟨howner, habove, hchild, hi⟩
    exact Prod.mk.inj (Prod.mk.inj (hlinked.counterparts_eq ha hok)).2
  · have hnone : ∀ other, ¬a.LinksMember other i := by
      intro other hother
      have hsame : some other = some owner :=
        (ha.parent other i hother.child).symm.trans (ha.parent owner i hchild)
      obtain rfl := Option.some.inj hsame
      exact habove hother.above
    obtain ⟨hancestors, hinterfaces⟩ := not_or.1 habove
    obtain ⟨hoverwrites, himplements⟩ := Prod.mk.inj
      (Prod.mk.inj (counterparts_eq_none ha hok hnone)).2
    rw [hoverwrites, himplements, overwrittenReference, implementedReference,
      not_not.1 hancestors, not_not.1 hinterfaces]
    simp [findMember?]

/-- Whether a reference leads to a declaration that belongs to something else than a given owner. -/
def LeadsElsewhere (a : Atlas) (owner : Option EntryId) (ref : Reference) : Prop :=
  ∃ o, ref.target = some o ∧ a.isDeclaration o = true ∧ a.parent? o ≠ owner

/-- A reference to an origin leads elsewhere. -/
theorem leadsElsewhere_of_originReference {ref : Reference}
    (h : a.originReference owner i = some ref) : a.LeadsElsewhere (some owner) ref := by
  obtain ⟨o, ho, rfl⟩ := Option.map_eq_some_iff.1 h
  unfold originOf? at ho
  split at ho
  · split at ho
    · next hcond =>
      obtain rfl := Option.some.inj ho
      simp only [Bool.and_eq_true, decide_eq_true_eq] at hcond
      exact ⟨_, rfl, hcond.1.1, hcond.2⟩
    · cases ho
  · cases ho

/-- What is overwritten belongs to an ancestor, and no declaration is an ancestor of itself. -/
theorem leadsElsewhere_of_overwrittenReference {ref : Reference} (ha : a.ListsOnce)
    (hcatalogued : a.Catalogued) (howner : owner < a.size)
    (h : a.overwrittenReference owner i = some ref) : a.LeadsElsewhere (some owner) ref := by
  unfold overwrittenReference at h
  split at h
  · cases h
  · obtain ⟨o, ho, rfl⟩ := Option.map_eq_some_iff.1 h
    obtain ⟨x, hmem, hx⟩ := (hcatalogued.findMember?_eq_some_iff.1 ho).exists_owner
    refine ⟨o, rfl, hx.isDeclaration, fun hparent => ?_⟩
    obtain rfl : x = owner := Option.some.inj ((hx.parent?_eq ha).symm.trans hparent)
    exact ((mem_ancestors_iff howner).1 hmem).2 rfl

/-- What a member implements belongs to one of the interfaces of its owner. -/
theorem exists_interface_of_implementedReference {ref : Reference} (ha : a.ListsOnce)
    (hcatalogued : a.Catalogued) (h : a.implementedReference owner i = some ref) :
    ∃ o x, ref.target = some o ∧ a.isDeclaration o = true ∧ x ∈ a.allInterfaces owner ∧
      a.parent? o = some x := by
  unfold implementedReference at h
  split at h
  · cases h
  · obtain ⟨o, ho, rfl⟩ := Option.map_eq_some_iff.1 h
    obtain ⟨x, hmem, hx⟩ := (hcatalogued.findMember?_eq_some_iff.1 ho).exists_owner
    unfold linkedInterfaces at hmem
    split at hmem
    · exact ⟨o, x, rfl, hx.isDeclaration, hmem, hx.parent?_eq ha⟩
    · cases hmem

/-- What a declaration is inherited from and what it overwrites belongs to something else than it
does, and what it implements belongs to an interface of its owner. -/
theorem counterparts_apart {links : Array Links} (ha : a.ListsOnce) (hcatalogued : a.Catalogued)
    (hok : a.allLinks = .ok links) (i : EntryId) :
    (∀ ref, (links[i]?.getD {}).inheritedFrom = some ref ∨
        (links[i]?.getD {}).overwrites = some ref → a.LeadsElsewhere (a.parent? i) ref) ∧
      ∀ ref, (links[i]?.getD {}).implementationOf = some ref →
        ∃ o owner x, ref.target = some o ∧ a.isDeclaration o = true ∧ a.parent? i = some owner ∧
          x ∈ a.allInterfaces owner ∧ a.parent? o = some x := by
  by_cases hlinked : ∃ owner, a.LinksMember owner i
  · obtain ⟨owner, h⟩ := hlinked
    have hparent : a.parent? i = some owner := ha.parent owner i h.child
    have howner : owner < a.size :=
      lt_of_isDeclaration (mem_declarations.1 (List.mem_filter.1 h.mem_owners).1)
    obtain ⟨hfrom, hrest⟩ := Prod.mk.inj (h.counterparts_eq ha hok)
    obtain ⟨hoverwrites, himplements⟩ := Prod.mk.inj hrest
    rw [hfrom, hoverwrites, himplements, hparent]
    constructor
    · rintro ref (href | href)
      · exact leadsElsewhere_of_originReference href
      · exact leadsElsewhere_of_overwrittenReference ha hcatalogued howner href
    · intro ref href
      obtain ⟨o, x, htarget, hdecl, hx, hox⟩ :=
        exists_interface_of_implementedReference ha hcatalogued href
      exact ⟨o, owner, x, htarget, hdecl, rfl, hx, hox⟩
  · obtain ⟨hfrom, hrest⟩ :=
      Prod.mk.inj (counterparts_eq_none ha hok (not_exists.1 hlinked))
    obtain ⟨hoverwrites, himplements⟩ := Prod.mk.inj hrest
    rw [hfrom, hoverwrites, himplements]
    simp

/-! ## What resolution leaves -/

namespace Resolves

variable (h : a.Resolves b)

include h

/-- Children are listed by name still after resolving. -/
theorem catalogued (ha : a.Catalogued) : b.Catalogued := by
  intro p m hm
  have hmembers : (b.get? p).bind (·.members?) = (a.get? p).bind (·.members?) :=
    h.bind_eq _ fun e _ => e.members?_mapTypes _
  rw [hmembers] at hm
  exact (ha p m hm).congr fun c _ => h.nameOf_eq c

/-- The ancestors are those that there are once references are resolved. -/
theorem ancestors_eq : a.resolveReferences.ancestors = b.ancestors := by
  funext d
  rw [ancestors, h.levels_eq, ancestors]

/-- The interfaces are those that there are once references are resolved. -/
theorem allInterfaces_eq : a.resolveReferences.allInterfaces = b.allInterfaces := by
  have hinterfaces : a.resolveReferences.interfaces = b.interfaces := by
    funext d
    rw [interfaces, interfaces, h.details?_eq, h.target?_eq]
  funext d
  rw [allInterfaces, allInterfaces, h.ancestors_eq, hinterfaces]

/-- Counterparts are those that there are once references are resolved. -/
theorem isCounterpart_iff :
    a.resolveReferences.IsCounterpart m owner o ↔ b.IsCounterpart m owner o := by
  have hreferring := a.resolves_resolveReferences
  have hname : a.resolveReferences.nameOf = b.nameOf := by
    funext i
    rw [hreferring.nameOf_eq, h.nameOf_eq]
  have hchildren : a.resolveReferences.childrenOf owner = b.childrenOf owner := by
    rw [hreferring.childrenOf_eq, h.childrenOf_eq]
  have hflag : ∀ i, a.resolveReferences.hasFlag i .isStatic = b.hasFlag i .isStatic := by
    intro i
    rw [hreferring.hasFlag_eq, h.hasFlag_eq]
  constructor
  · rintro ⟨hfirst, hdecl, hstatic⟩
    exact ⟨hname ▸ hchildren ▸ hfirst, h.isDeclaration_eq o ▸ hdecl, hflag o ▸ hflag m ▸ hstatic⟩
  · rintro ⟨hfirst, hdecl, hstatic⟩
    refine ⟨?_, (h.isDeclaration_eq o).trans hdecl, (hflag o).trans (hstatic.trans (hflag m).symm)⟩
    rw [hname, hchildren]
    exact hfirst

/-- Nearest counterparts are those that there are once references are resolved. -/
theorem isNearest_iff : a.resolveReferences.IsNearest owners m o ↔ b.IsNearest owners m o := by
  simp only [IsNearest, h.isCounterpart_iff]

end Resolves

end Atlas

/-! ## The outcome -/

section Outcome

variable {settings : Settings} {files : List Source.File} {d : Draft} {r : Resolved}
  {owner i : EntryId}

/-- In a converted program nothing is listed twice. -/
theorem Program.convert_listsOnce (h : convert settings files = .ok (d, r)) :
    d.atlas.resolveReferences.ListsOnce := by
  obtain ⟨rfl, -⟩ := convert_ok h
  exact (Atlas.resolves_resolveReferences _).listsOnce ofFiles_listsOnce

/-- In a converted program children are listed by name. -/
theorem Program.convert_catalogued (h : convert settings files = .ok (d, r)) :
    d.atlas.resolveReferences.Catalogued := by
  obtain ⟨rfl, -⟩ := convert_ok h
  exact (Atlas.resolves_resolveReferences _).catalogued
    (states_catalogued _ (ofFiles_mem_states settings files))

/-- The links of a child of a class or an interface are what the converted atlas finds for it after
its references are resolved. -/
theorem Program.convert_child (h : convert settings files = .ok (d, r))
    (howner : r.atlas.isDeclaration owner = true) (hclass : r.atlas.isClassOrInterface owner = true)
    (hchild : i ∈ r.atlas.childrenOf owner) (hi : r.atlas.isDeclaration i = true) :
    (r.linksOf i).overwrites = d.atlas.resolveReferences.overwrittenReference owner i ∧
      (r.linksOf i).implementationOf = d.atlas.resolveReferences.implementedReference owner i := by
  obtain ⟨-, hresolves, -⟩ := convert_ok h
  have hreferring := d.atlas.resolves_resolveReferences
  refine Atlas.links_of_child (convert_listsOnce h) (convert_links h) ?_ ?_ ?_
  · rw [List.mem_filter, Atlas.mem_declarations, hresolves.isDeclaration_eq,
      Atlas.isClassOrInterface, hreferring.kindOf_eq, ← hresolves.kindOf_eq]
    exact ⟨howner, hclass⟩
  · rw [hreferring.childrenOf_eq, ← hresolves.childrenOf_eq]
    exact hchild
  · rw [hresolves.isDeclaration_eq]
    exact hi

/-- What a search among some declarations finds for a member in the converted atlas is its nearest
counterpart in the outcome. -/
theorem Program.convert_nearest (h : convert settings files = .ok (d, r)) {owners : List EntryId}
    {ref : Reference} : (d.atlas.resolveReferences.findMember? owners i).map
        d.atlas.resolveReferences.memberReference = some ref ↔
      ∃ o, r.atlas.IsNearest owners i o ∧ ref = r.atlas.memberReference o := by
  obtain ⟨-, hresolves, -⟩ := convert_ok h
  have hreferring := d.atlas.resolves_resolveReferences
  have hreference : ∀ o,
      d.atlas.resolveReferences.memberReference o = r.atlas.memberReference o :=
    fun o => (hreferring.memberReference_eq o).trans (hresolves.memberReference_eq o).symm
  rw [Option.map_eq_some_iff]
  refine exists_congr fun o => ?_
  rw [(convert_catalogued h).findMember?_eq_some_iff, hresolves.isNearest_iff, hreference]
  exact and_congr_right fun _ => eq_comm

/-- A member that was not copied overwrites its counterpart in the nearest ancestor of its owner
that has one, and nothing if none has one. -/
theorem convert_overwrites (h : Program.convert settings files = .ok (d, r))
    (howner : r.atlas.isDeclaration owner = true) (hclass : r.atlas.isClassOrInterface owner = true)
    (hchild : i ∈ r.atlas.childrenOf owner) {details : Details}
    (hi : r.atlas.details? i = some details) (horigin : details.origin = none) (ref : Reference) :
    (r.linksOf i).overwrites = some ref ↔
      ∃ o, r.atlas.IsNearest (r.atlas.ancestors owner) i o ∧ ref = r.atlas.memberReference o := by
  obtain ⟨-, hresolves, -⟩ := Program.convert_ok h
  have hdecl := Atlas.isDeclaration_of_details? hi
  have hnone : d.atlas.resolveReferences.originOf? owner i = none := by
    rw [Atlas.originOf?, hresolves.details?_eq, hi, Option.bind_some, horigin]
    rfl
  rw [(Program.convert_child h howner hclass hchild hdecl).1, Atlas.overwrittenReference, hnone,
    hresolves.ancestors_eq]
  exact Program.convert_nearest h

/-- A base class with a static and an instance method of one name: the method of that name in the
class that extends it overwrites nothing, since the static one comes first. -/
theorem hidden_method_notOverwritten :
    let method (symbol : String) (modifiers : List String) : Source.Decl :=
      { kind := .method, name := some "m", symbol := some symbol, modifiers := modifiers }
    let file : Source.File :=
      { name := "a.ts",
        decls :=
          [{ kind := .class, name := some "B", symbol := some "B",
             children := [method "B.m" ["static"], method "B#m" []] },
           { kind := .class, name := some "D", symbol := some "D",
             bases := [{ form := .reference, name := some "B", symbol := some "B" }],
             children := [method "D#m" []] }] }
    ∃ d r, Program.convert {} [file] = .ok (d, r) ∧ r.atlas.ancestors 6 = [1] ∧
      r.atlas.childrenOf 1 = [2, 4] ∧ r.atlas.childrenOf 6 = [7] ∧
      r.atlas.nameOf 4 = r.atlas.nameOf 7 ∧
      r.atlas.hasFlag 4 .isStatic = r.atlas.hasFlag 7 .isStatic ∧
      (r.linksOf 7).overwrites = none := by
  intro method file
  have hmade : (Program.convert {} [file]).toOption.map (fun made =>
      (made.2.atlas.ancestors 6, made.2.atlas.childrenOf 1, made.2.atlas.childrenOf 6,
        decide (made.2.atlas.nameOf 4 = made.2.atlas.nameOf 7),
        decide (made.2.atlas.hasFlag 4 .isStatic = made.2.atlas.hasFlag 7 .isStatic),
        (made.2.linksOf 7).overwrites.isNone)) = some ([1], [2, 4], [7], true, true, true) := by
    decide +kernel
  obtain ⟨d, r, hconvert, hmade⟩ := Program.exists_convert hmade
  simp only [Prod.mk.injEq, decide_eq_true_eq, Option.isNone_iff_eq_none] at hmade
  exact ⟨d, r, hconvert, hmade⟩

/-- An instance member of a class implements its counterpart in the first interface of the class
that has one, and nothing if none has one. -/
theorem convert_implementationOf (h : Program.convert settings files = .ok (d, r))
    (howner : r.atlas.isDeclaration owner = true) (hclass : r.atlas.kindOf owner = .class)
    (hchild : i ∈ r.atlas.childrenOf owner) (hi : r.atlas.isDeclaration i = true)
    (hinstance : r.atlas.hasFlag i .isStatic = false) (ref : Reference) :
    (r.linksOf i).implementationOf = some ref ↔
      ∃ o, r.atlas.IsNearest (r.atlas.allInterfaces owner) i o ∧
        ref = r.atlas.memberReference o := by
  obtain ⟨-, hresolves, -⟩ := Program.convert_ok h
  have hreferring := d.atlas.resolves_resolveReferences
  have hkind : d.atlas.resolveReferences.kindOf owner = .class := by
    rw [hreferring.kindOf_eq, ← hresolves.kindOf_eq, hclass]
  have hflag : d.atlas.resolveReferences.hasFlag i .isStatic = false := by
    rw [hreferring.hasFlag_eq, ← hresolves.hasFlag_eq, hinstance]
  have hside : r.atlas.isClassOrInterface owner = true := by
    rw [Atlas.isClassOrInterface, hclass]
    decide
  rw [(Program.convert_child h howner hside hchild hi).2, Atlas.implementedReference, hflag,
    Atlas.linkedInterfaces, if_pos hkind, hresolves.allInterfaces_eq]
  exact Program.convert_nearest h

/-- In the outcome of a conversion, what a declaration is inherited from and what it overwrites
belongs to another owner than it does, so it is never the declaration itself. What it implements
belongs to an interface of its owner. -/
theorem convert_counterparts_apart (h : Program.convert settings files = .ok (d, r))
    (i : EntryId) :
    (∀ ref, (r.linksOf i).inheritedFrom = some ref ∨ (r.linksOf i).overwrites = some ref →
        r.atlas.LeadsElsewhere (r.atlas.parent? i) ref) ∧
      ∀ ref, (r.linksOf i).implementationOf = some ref →
        ∃ o owner x, ref.target = some o ∧ r.atlas.isDeclaration o = true ∧
          r.atlas.parent? i = some owner ∧ x ∈ r.atlas.allInterfaces owner ∧
          r.atlas.parent? o = some x := by
  obtain ⟨-, hresolves, -⟩ := Program.convert_ok h
  have hparent : ∀ j, d.atlas.resolveReferences.parent? j = r.atlas.parent? j :=
    fun j => d.atlas.resolves_resolveReferences.parent?_eq.trans hresolves.parent?_eq.symm
  have hapart := Atlas.counterparts_apart (Program.convert_listsOnce h)
    (Program.convert_catalogued h) (Program.convert_links h) i
  simp only [Atlas.LeadsElsewhere, hparent, hresolves.isDeclaration_eq,
    hresolves.allInterfaces_eq] at hapart
  exact hapart

end Outcome

/-- A class that implements an interface which extends the class: its method implements itself. -/
theorem circular_interface_implementsItself :
    let file : Source.File :=
      { name := "a.ts",
        decls :=
          [{ kind := .class, name := some "A", symbol := some "A",
             interfaces := [{ form := .reference, name := some "I", symbol := some "I" }],
             children := [{ kind := .method, name := some "m", symbol := some "A#m" }] },
           { kind := .interface, name := some "I", symbol := some "I",
             bases := [{ form := .reference, name := some "A", symbol := some "A" }] }] }
    ∃ d r, Program.convert {} [file] = .ok (d, r) ∧ r.atlas.allInterfaces 1 = [4, 1] ∧
      r.atlas.parent? 2 = some 1 ∧
      (r.linksOf 2).implementationOf.map (·.target) = some (some 2) := by
  intro file
  have hmade : (Program.convert {} [file]).toOption.map (fun made =>
      (made.2.atlas.allInterfaces 1, made.2.atlas.parent? 2,
        (made.2.linksOf 2).implementationOf.map (·.target))) =
      some ([4, 1], some 1, some (some 2)) := by
    decide +kernel
  obtain ⟨d, r, hconvert, hmade⟩ := Program.exists_convert hmade
  simp only [Prod.mk.injEq] at hmade
  exact ⟨d, r, hconvert, hmade⟩

end ApiAtlas
