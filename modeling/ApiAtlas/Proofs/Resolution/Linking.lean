import ApiAtlas.Proofs.Conversion.Children
import ApiAtlas.Proofs.Resolution.Hierarchies

/-!
# Linking

A member is linked once, by the class or interface that it belongs to, and only if that extends or
implements something (`Atlas.LinksMember`). So the counterparts of a member are those that its owner
finds (`Atlas.LinksMember.counterparts_eq`), and what is no member of a class or an interface has
none (`Atlas.counterparts_eq_none`).
-/

set_option autoImplicit false

namespace ApiAtlas

/-- Each element that is modified is modified once. -/
theorem getElem?_foldl_modify {α : Type} {ids : List Nat} (hids : ids.Nodup) (f : Nat → α → α)
    (xs : Array α) (i : Nat) : (ids.foldl (fun xs j => xs.modify j (f j)) xs)[i]? =
      if i ∈ ids then xs[i]?.map (f i) else xs[i]? := by
  induction ids generalizing xs with
  | nil => simp
  | cons j ids ih =>
    obtain ⟨hj, hids⟩ := List.nodup_cons.1 hids
    rw [List.foldl_cons, ih hids, Array.getElem?_modify]
    by_cases hji : j = i
    · subst hji
      rw [if_neg hj, if_pos rfl, if_pos List.mem_cons_self]
    · simp [hji, Ne.symm hji]

/-- The members of bases and interfaces that a declaration is linked to: what it is inherited from,
what it overwrites, and what it implements. -/
def Links.counterparts (l : Links) : Option Reference × Option Reference × Option Reference :=
  (l.inheritedFrom, l.overwrites, l.implementationOf)

namespace Atlas

/-- The interfaces whose members the members of a declaration can implement. -/
def linkedInterfaces (a : Atlas) (owner : EntryId) : List EntryId :=
  if a.kindOf owner = .class then a.allInterfaces owner else []

/-- Whether a class or interface links a declaration: it extends or implements something, and the
declaration is one of its children. -/
structure LinksMember (a : Atlas) (owner i : EntryId) : Prop where
  mem_owners : owner ∈ a.declarations.filter a.isClassOrInterface
  above : a.ancestors owner ≠ [] ∨ a.linkedInterfaces owner ≠ []
  child : i ∈ a.childrenOf owner
  isDeclaration : a.isDeclaration i = true

/-- Whether all children that are listed belong to the entry that lists them, and are listed
once. -/
structure ListsOnce (a : Atlas) : Prop where
  nodup : ∀ p, (a.childrenOf p).Nodup
  parent : ∀ p, ∀ c ∈ a.childrenOf p, a.parent? c = some p

variable {a : Atlas} {links links' : Array Links} {i o owner : EntryId}

/-! ## One member -/

/-- What its owner finds as the origin of a member. -/
def originReference (a : Atlas) (owner i : EntryId) : Option Reference :=
  (a.originOf? owner i).map a.memberReference

/-- What a member overwrites: nothing if it is inherited, else the member that stands for it in the
ancestors of its owner. -/
def overwrittenReference (a : Atlas) (owner i : EntryId) : Option Reference :=
  if (a.originOf? owner i).isSome then none
  else (a.findMember? (a.ancestors owner) i).map a.memberReference

/-- What a member implements: nothing if it is static, else the member that stands for it in the
interfaces of its owner. -/
def implementedReference (a : Atlas) (owner i : EntryId) : Option Reference :=
  if a.hasFlag i .isStatic then none
  else (a.findMember? (a.linkedInterfaces owner) i).map a.memberReference

/-- A member that is not linked yet is linked to what its owner finds. -/
theorem linkMember_counterparts (owner : EntryId) {l : Links}
    (hl : l.counterparts = (none, none, none)) :
    (a.linkMember owner (a.ancestors owner) (a.linkedInterfaces owner) i l).counterparts =
      (a.originReference owner i, a.overwrittenReference owner i,
        a.implementedReference owner i) := by
  obtain ⟨extendedBy, implementedBy, inheritedFrom, overwrites, implementationOf, hierarchy⟩ := l
  cases hl
  unfold linkMember originReference overwrittenReference implementedReference
  have hempty : a.linkedInterfaces owner = [] →
      a.findMember? (a.linkedInterfaces owner) i = none := by
    intro h
    rw [h, findMember?, List.findSome?_nil]
  -- What is overwritten and what is implemented are looked for apart, so every combination occurs.
  cases a.originOf? owner i <;> cases a.findMember? (a.ancestors owner) i <;>
    cases hfound : a.findMember? (a.linkedInterfaces owner) i <;>
    cases a.hasFlag i .isStatic <;> by_cases hnone : a.linkedInterfaces owner = [] <;>
    simp_all [Links.counterparts]

/-! ## All members -/

/-- One declaration links its members, and nothing else. -/
theorem getElem?_linkMembers (ha : a.ListsOnce)
    (howner : owner ∈ a.declarations.filter a.isClassOrInterface)
    (hok : a.linkMembers links owner = .ok links') :
    (a.LinksMember owner i → links'[i]? = links[i]?.map
      (a.linkMember owner (a.ancestors owner) (a.linkedInterfaces owner) i)) ∧
    (¬a.LinksMember owner i → links'[i]? = links[i]?) := by
  unfold linkMembers at hok
  dsimp only at hok
  rw [← linkedInterfaces] at hok
  split at hok
  · next hempty =>
    rw [Bool.and_eq_true, List.isEmpty_iff, List.isEmpty_iff] at hempty
    obtain rfl := Except.ok.inj hok
    exact ⟨fun h => absurd hempty (not_and_or.2 h.above), fun _ => rfl⟩
  · next hsome =>
    rw [Bool.and_eq_true, List.isEmpty_iff, List.isEmpty_iff, not_and_or] at hsome
    obtain ⟨_, -, hok⟩ := Except.exists_of_bind_eq_ok hok
    rw [← Except.ok.inj hok, getElem?_foldl_modify ((ha.nodup owner).filter _)]
    refine ⟨fun h => if_pos (List.mem_filter.2 ⟨h.child, h.isDeclaration⟩), fun h => if_neg ?_⟩
    rw [List.mem_filter]
    exact fun hi => h ⟨howner, hsome, hi.1, hi.2⟩

/-- Declarations that do not link an entry leave its links alone. -/
theorem getElem?_foldlM_linkMembers {owners : List EntryId} (ha : a.ListsOnce)
    (howners : owners ⊆ a.declarations.filter a.isClassOrInterface)
    (hok : owners.foldlM a.linkMembers links = .ok links')
    (hi : ∀ owner ∈ owners, ¬a.LinksMember owner i) : links'[i]? = links[i]? := by
  induction owners generalizing links with
  | nil => exact Except.ok.inj hok ▸ rfl
  | cons owner owners ih =>
    obtain ⟨howner, howners⟩ := List.cons_subset.1 howners
    obtain ⟨hnot, hi⟩ := List.forall_mem_cons.1 hi
    rw [List.foldlM_cons] at hok
    obtain ⟨next, hnext, hok⟩ := Except.exists_of_bind_eq_ok hok
    rw [ih howners hok hi, (getElem?_linkMembers ha howner hnext).2 hnot]

/-- A member is linked by its owner only. -/
theorem getElem?_memberLinks (ha : a.ListsOnce) (hok : a.memberLinks = .ok links)
    (h : a.LinksMember owner i) : links[i]? = a.reverseLinks[i]?.map
      (a.linkMember owner (a.ancestors owner) (a.linkedInterfaces owner) i) := by
  have hother : ∀ other, a.LinksMember other i → other = owner := fun other hother =>
    Option.some.inj ((ha.parent other i hother.child).symm.trans (ha.parent owner i h.child))
  have hnodup : (a.declarations.filter a.isClassOrInterface).Nodup :=
    (List.nodup_range.filter _).filter _
  unfold memberLinks at hok
  obtain ⟨front, rest, heq⟩ := List.append_of_mem h.mem_owners
  have hsub : front ++ owner :: rest ⊆ a.declarations.filter a.isClassOrInterface :=
    heq ▸ List.Subset.refl _
  rw [List.append_subset, List.cons_subset] at hsub
  obtain ⟨hfront, howner, hrest⟩ := hsub
  rw [heq] at hok hnodup
  obtain ⟨-, hnodup, hapart⟩ := List.nodup_append.1 hnodup
  rw [List.foldlM_append] at hok
  obtain ⟨before, hbefore, hok⟩ := Except.exists_of_bind_eq_ok hok
  rw [List.foldlM_cons] at hok
  obtain ⟨after, hafter, hok⟩ := Except.exists_of_bind_eq_ok hok
  rw [getElem?_foldlM_linkMembers ha hrest hok fun other hmem hlinks =>
      (List.nodup_cons.1 hnodup).1 (hother other hlinks ▸ hmem),
    (getElem?_linkMembers ha howner hafter).1 h,
    getElem?_foldlM_linkMembers ha hfront hbefore fun other hmem hlinks =>
      hapart other hmem owner List.mem_cons_self (hother other hlinks)]

/-! ## Reverse edges -/

/-- The references to a declaration that an entry gets from some targets of it: one for each time
that the entry is among them, and none if it is the declaration itself. -/
def backReferences (a : Atlas) (d i : EntryId) (targets : List EntryId) : List Reference :=
  if d = i then [] else (targets.filter (· = i)).map fun _ => a.referenceTo d

/-- References to the declarations that have a given one among the targets of their heritage, in
order, one for each time that they have it. -/
def referrers (a : Atlas) (heritage : EntryId → List EntryId) (i : EntryId) : List Reference :=
  a.declarations.flatMap fun d => a.backReferences d i (heritage d)

/-- Referring back to a declaration gives each entry its references at once. -/
theorem getElem?_linkBack {keep : List Reference → Links → Links} (hnil : ∀ l, keep [] l = l)
    (happend : ∀ refs refs' l, keep refs' (keep refs l) = keep (refs ++ refs') l)
    (d : EntryId) (links : Array Links) (targets : List EntryId) (i : EntryId) :
    (a.linkBack d keep links targets)[i]? =
      links[i]?.map (keep (a.backReferences d i targets)) := by
  unfold linkBack
  induction targets generalizing links with
  | nil =>
    have hkeep : keep (a.backReferences d i []) = id := by
      funext l
      simp [backReferences, hnil]
    rw [hkeep, Option.map_id_apply, List.foldl_nil]
  | cons target targets ih =>
    rw [List.foldl_cons, ih]
    by_cases hself : target = d
    · -- The declaration does not refer to itself, whether the entry is the declaration or not.
      subst hself
      by_cases hi : target = i <;> simp [backReferences, hi]
    · rw [if_neg hself, Array.getElem?_modify]
      by_cases hi : target = i
      · subst hi
        rw [if_pos rfl, Option.map_map]
        refine Option.map_congr fun l _ => ?_
        rw [Function.comp_apply, happend]
        simp [backReferences, Ne.symm hself]
      · rw [if_neg hi]
        simp [backReferences, hi]

/-- The reverse edges of one declaration are added to those that are there. -/
theorem getElem?_linkReverseEdges (links : Array Links) (d i : EntryId) :
    (a.linkReverseEdges links d)[i]? = links[i]?.map fun l =>
      { l with
        extendedBy := l.extendedBy ++ a.backReferences d i (a.bases d)
        implementedBy := l.implementedBy ++ a.backReferences d i (a.interfaces d) } := by
  have hextending : ∀ refs refs' l, Links.addExtending refs' (Links.addExtending refs l) =
      Links.addExtending (refs ++ refs') l := by
    intro refs refs' l
    simp [Links.addExtending]
  have himplementing : ∀ refs refs' l,
      Links.addImplementing refs' (Links.addImplementing refs l) =
        Links.addImplementing (refs ++ refs') l := by
    intro refs refs' l
    simp [Links.addImplementing]
  unfold linkReverseEdges
  rw [getElem?_linkBack (fun l => by simp [Links.addImplementing]) himplementing,
    getElem?_linkBack (fun l => by simp [Links.addExtending]) hextending, Option.map_map]
  rfl

/-- The reverse edges of some declarations, one after the other. -/
theorem getElem?_foldl_linkReverseEdges (ds : List EntryId) (links : Array Links) (i : EntryId) :
    (ds.foldl a.linkReverseEdges links)[i]? = links[i]?.map fun l =>
      { l with
        extendedBy := l.extendedBy ++ ds.flatMap fun d => a.backReferences d i (a.bases d)
        implementedBy :=
          l.implementedBy ++ ds.flatMap fun d => a.backReferences d i (a.interfaces d) } := by
  induction ds generalizing links with
  | nil => simp
  | cons d ds ih =>
    rw [List.foldl_cons, ih, getElem?_linkReverseEdges, Option.map_map]
    simp [Function.comp_def]

/-- The pass over all declarations leaves each entry with its referrers. -/
theorem getElem?_reverseLinks (a : Atlas) (i : EntryId) : a.reverseLinks[i]? =
    if i < a.size then
      some { extendedBy := a.referrers a.bases i, implementedBy := a.referrers a.interfaces i }
    else none := by
  rw [reverseLinks, getElem?_foldl_linkReverseEdges, Array.getElem?_replicate]
  split
  · rw [Option.map_some]
    rfl
  · rw [Option.map_none]

/-- Hierarchies are added to what is linked. -/
theorem exists_memberLinks (h : a.allLinks = .ok links) : ∃ linked, a.memberLinks = .ok linked ∧
    ∀ i : Nat, ∃ f : Links → Links, links[i]? = linked[i]?.map f ∧
      ∀ l, f l = { l with hierarchy := (f l).hierarchy } := by
  obtain ⟨linked, hlinked, h⟩ := Except.exists_of_bind_eq_ok h
  refine ⟨linked, hlinked, fun i => ?_⟩
  have hnodup : a.declarations.Nodup := List.nodup_range.filter _
  rw [← Except.ok.inj h, addHierarchies, getElem?_foldl_modify hnodup]
  split
  · exact ⟨_, rfl, fun _ => rfl⟩
  · exact ⟨id, (Option.map_id_apply).symm, fun _ => rfl⟩

/-- A member is linked to what its owner finds. -/
theorem LinksMember.counterparts_eq (h : a.LinksMember owner i) (ha : a.ListsOnce)
    (hok : a.allLinks = .ok links) : (links[i]?.getD {}).counterparts =
      (a.originReference owner i, a.overwrittenReference owner i,
        a.implementedReference owner i) := by
  obtain ⟨linked, hlinked, hsame⟩ := exists_memberLinks hok
  obtain ⟨f, hf, hkeeps⟩ := hsame i
  rw [hf, getElem?_memberLinks ha hlinked h, getElem?_reverseLinks,
    if_pos (lt_of_isDeclaration h.isDeclaration), Option.map_some, Option.map_some,
    Option.getD_some, hkeeps]
  exact linkMember_counterparts owner rfl

/-- What no declaration links as its member has no counterparts. -/
theorem counterparts_eq_none (ha : a.ListsOnce) (hok : a.allLinks = .ok links)
    (hi : ∀ owner, ¬a.LinksMember owner i) :
    (links[i]?.getD {}).counterparts = (none, none, none) := by
  obtain ⟨linked, hlinked, hsame⟩ := exists_memberLinks hok
  obtain ⟨f, hf, hkeeps⟩ := hsame i
  have hleft : linked[i]? = a.reverseLinks[i]? :=
    getElem?_foldlM_linkMembers ha (List.Subset.refl _) hlinked fun owner _ => hi owner
  rw [hf, hleft, getElem?_reverseLinks]
  split
  · rw [Option.map_some, Option.getD_some, hkeeps]
    rfl
  · rfl

/-- What has no origin is not inherited. -/
theorem inheritedFrom_eq_none (ha : a.ListsOnce) (hok : a.allLinks = .ok links)
    (ho : ∀ owner, a.originOf? owner i = none) :
    (links[i]?.getD {}).inheritedFrom = none := by
  by_cases hlinks : ∃ owner, a.LinksMember owner i
  · obtain ⟨owner, h⟩ := hlinks
    have hfrom := congrArg Prod.fst (h.counterparts_eq ha hok)
    rw [originReference, ho] at hfrom
    exact hfrom
  · have hnone := counterparts_eq_none ha hok (not_exists.1 hlinks)
    exact congrArg Prod.fst hnone

end Atlas

end ApiAtlas
