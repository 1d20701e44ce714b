import ApiAtlas.Proofs.Resolution.CommentRun
import ApiAtlas.Proofs.Resolution.Linking

/-!
# Reverse edges

Resolution keeps with each declaration references to those that extend it and to those that
implement it. In an outcome they mirror what the other declarations list (`Resolved.Mirrors`): as
many references as there are types that lead here, none to the declaration itself, and older
declarations before younger ones. Linking members and adding hierarchies does not touch them.
-/

set_option autoImplicit false

namespace ApiAtlas

/-- Whether the references that are kept with each declaration mirror types that declarations
list. -/
structure Resolved.Mirrors (r : Resolved) (listed : Details → List Ty)
    (kept : Links → List Reference) : Prop where
  /-- A declaration is referred to once for each time that it lists the other one. -/
  count : ∀ a b details, a ≠ b → r.atlas.details? a = some details →
    r.atlas.isDeclaration b = true →
      (kept (r.linksOf b)).countP (·.target == some a) =
        (listed details).countP (·.target? == some b)
  /-- References lead to declarations. -/
  exact : ∀ b, ∀ ref ∈ kept (r.linksOf b), ∃ a, r.atlas.isDeclaration a = true ∧
    ref = r.atlas.referenceTo a
  /-- No declaration refers to itself. -/
  notSelf : ∀ b, ∀ ref ∈ kept (r.linksOf b), ref.target ≠ some b
  /-- Older declarations come first. -/
  byAge : ∀ b, ∃ ids : List EntryId, (kept (r.linksOf b)).map (·.target) = ids.map some ∧
    ids.Pairwise (· ≤ ·)

/-- What only one of some distinct elements contributes to a count. -/
theorem List.countP_flatMap_of_nodup {α β : Type} {l : List α} (hl : l.Nodup) {f : α → List β}
    {p : β → Bool} {a : α} (ha : a ∈ l) (hother : ∀ x ∈ l, x ≠ a → (f x).countP p = 0) :
    (l.flatMap f).countP p = (f a).countP p := by
  obtain ⟨front, rest, rfl⟩ := List.append_of_mem ha
  obtain ⟨-, hrest, hfront⟩ := List.nodup_append.1 hl
  have hnone : ∀ xs : List α, (∀ x ∈ xs, (f x).countP p = 0) → (xs.flatMap f).countP p = 0 := by
    intro xs hxs
    induction xs with
    | nil => rfl
    | cons x xs ih =>
      rw [List.flatMap_cons, List.countP_append, hxs x List.mem_cons_self,
        ih fun y hy => hxs y (List.mem_cons_of_mem x hy)]
  rw [List.flatMap_append, List.flatMap_cons, List.countP_append, List.countP_append,
    hnone front fun x hx => hother x (List.mem_append_left _ hx) ?_,
    hnone rest fun x hx => hother x (List.mem_append_right _ (List.mem_cons_of_mem a hx)) ?_,
    Nat.zero_add, Nat.add_zero]
  · exact fun h => (List.nodup_cons.1 hrest).1 (h ▸ hx)
  · exact hfront x hx a List.mem_cons_self

namespace Atlas

variable {a : Atlas} {heritage : EntryId → List EntryId} {i j : EntryId}
  {links links' : Array Links}

/-! ## Referrers -/

/-- An entry gets a reference from each other one that has it as a target, and the reference is to
that one. -/
theorem mem_backReferences {ref : Reference} {targets : List EntryId} :
    ref ∈ a.backReferences j i targets ↔ j ≠ i ∧ i ∈ targets ∧ ref = a.referenceTo j := by
  unfold backReferences
  by_cases hji : j = i
  · simp [hji]
  · rw [if_neg hji, List.mem_map]
    constructor
    · rintro ⟨t, ht, rfl⟩
      obtain ⟨hmem, hti⟩ := List.mem_filter.1 ht
      exact ⟨hji, of_decide_eq_true hti ▸ hmem, rfl⟩
    · rintro ⟨-, hmem, rfl⟩
      exact ⟨i, List.mem_filter.2 ⟨hmem, decide_eq_true rfl⟩, rfl⟩

/-- What refers to a declaration is another declaration that has it among its targets. -/
theorem mem_referrers {ref : Reference} : ref ∈ a.referrers heritage i ↔
    ∃ d, a.isDeclaration d = true ∧ d ≠ i ∧ i ∈ heritage d ∧ ref = a.referenceTo d := by
  simp only [referrers, List.mem_flatMap, mem_declarations, mem_backReferences]

/-- A declaration refers to another one as often as it has it among its targets. -/
theorem countP_referrers (hj : a.isDeclaration j = true) (hne : j ≠ i) :
    (a.referrers heritage i).countP (·.target == some j) = (heritage j).count i := by
  have hother : ∀ d ∈ a.declarations, d ≠ j →
      (a.backReferences d i (heritage d)).countP (·.target == some j) = 0 := by
    intro d _ hd
    rw [List.countP_eq_zero]
    rintro ref href
    obtain ⟨-, -, rfl⟩ := mem_backReferences.1 href
    simp [referenceTo, hd]
  rw [referrers, List.countP_flatMap_of_nodup a.nodup_declarations (mem_declarations.2 hj) hother,
    backReferences, if_neg hne, List.countP_map, List.count, List.countP_eq_length_filter,
    List.countP_eq_length_filter]
  simp [referenceTo, Function.comp_def]
  rfl

/-- Older referrers stand before younger ones. -/
theorem byAge_referrers (a : Atlas) (heritage : EntryId → List EntryId) (i : EntryId) :
    ∃ ids : List EntryId, (a.referrers heritage i).map (·.target) = ids.map some ∧
      ids.Pairwise (· ≤ ·) := by
  have htargets : ∀ d, (a.backReferences d i (heritage d)).map (·.target) =
      ((a.backReferences d i (heritage d)).map fun _ => d).map some := by
    intro d
    rw [List.map_map]
    refine List.map_congr_left fun ref href => ?_
    obtain ⟨-, -, rfl⟩ := mem_backReferences.1 href
    rfl
  refine ⟨a.declarations.flatMap fun d => (a.backReferences d i (heritage d)).map fun _ => d,
    ?_, List.pairwise_flatMap.2 ⟨fun d _ => ?_, ?_⟩⟩
  · rw [referrers, List.map_flatMap, List.map_flatMap]
    exact congrArg a.declarations.flatMap (funext htargets)
  · exact List.pairwise_map.2 (List.pairwise_of_forall fun _ _ => Nat.le_refl d)
  · have hsorted : a.declarations.Pairwise (· < ·) := List.pairwise_lt_range.filter _
    refine hsorted.imp fun {d e} hlt x hx y hy => ?_
    obtain ⟨-, -, rfl⟩ := List.mem_map.1 hx
    obtain ⟨-, -, rfl⟩ := List.mem_map.1 hy
    exact Nat.le_of_lt hlt

/-! ## What later steps leave -/

/-- Links that have the same references to extending and implementing declarations. -/
def SameReferrers (links links' : Array Links) : Prop :=
  ∀ i : Nat, links'[i]?.map (fun l => (l.extendedBy, l.implementedBy)) =
    links[i]?.map fun l => (l.extendedBy, l.implementedBy)

/-- Links with the same referrers as others, which have those of a third, have those of the third.
-/
theorem SameReferrers.trans {links'' : Array Links} (h : SameReferrers links links')
    (h' : SameReferrers links' links'') : SameReferrers links links'' :=
  fun i => (h' i).trans (h i)

/-- Changes that leave referrers leave them when they are made one after the other. -/
theorem sameReferrers_foldl_modify {f : EntryId → Links → Links}
    (hf : ∀ i l, (f i l).extendedBy = l.extendedBy ∧ (f i l).implementedBy = l.implementedBy)
    (ids : List EntryId) (links : Array Links) :
    SameReferrers links (ids.foldl (fun links i => links.modify i (f i)) links) := by
  induction ids generalizing links with
  | nil => exact fun _ => rfl
  | cons id ids ih =>
    refine SameReferrers.trans (fun i => ?_) (ih (links.modify id (f id)))
    rw [Array.getElem?_modify]
    split
    · rw [Option.map_map]
      exact Option.map_congr fun l _ => by rw [Function.comp_apply, (hf id l).1, (hf id l).2]
    · rfl

/-- Linking a member leaves its referrers. -/
theorem linkMember_referrers (owner member : EntryId) (ancestors interfaces : List EntryId)
    (l : Links) :
    (a.linkMember owner ancestors interfaces member l).extendedBy = l.extendedBy ∧
      (a.linkMember owner ancestors interfaces member l).implementedBy = l.implementedBy := by
  unfold linkMember
  dsimp only
  split <;> split <;> (try split) <;> (try split) <;> exact ⟨rfl, rfl⟩

/-- Linking members leaves all referrers. -/
theorem sameReferrers_linkMembers (h : a.linkMembers links i = .ok links') :
    SameReferrers links links' := by
  unfold linkMembers at h
  dsimp only at h
  generalize (if a.kindOf i = .class then a.allInterfaces i else []) = interfaces at h
  split at h
  · exact Except.ok.inj h ▸ fun _ => rfl
  · obtain ⟨_, -, h⟩ := Except.exists_of_bind_eq_ok h
    exact Except.ok.inj h ▸ sameReferrers_foldl_modify (fun _ _ => linkMember_referrers ..) _ _

/-- The references to extending and implementing declarations are those from before members were
linked. -/
theorem sameReferrers_allLinks (h : a.allLinks = .ok links) :
    SameReferrers a.reverseLinks links := by
  have linked : ∀ (owners : List EntryId) found found',
      owners.foldlM a.linkMembers found = .ok found' → SameReferrers found found' := by
    intro owners
    induction owners with
    | nil => exact fun found found' hok => Except.ok.inj hok ▸ fun _ => rfl
    | cons owner owners ih =>
      intro found found' hok
      rw [List.foldlM_cons] at hok
      obtain ⟨next, hnext, hok⟩ := Except.exists_of_bind_eq_ok hok
      exact (sameReferrers_linkMembers hnext).trans (ih next found' hok)
  obtain ⟨found, hfound, h⟩ := Except.exists_of_bind_eq_ok h
  rw [← Except.ok.inj h]
  exact (linked _ _ _ hfound).trans <| sameReferrers_foldl_modify
    (f := fun i l => { l with hierarchy := a.hierarchy i l.extendedBy }) (fun _ _ => ⟨rfl, rfl⟩) _ _

/-- The target of a type in an atlas is a declaration. -/
theorem isDeclaration_of_target? {t : Ty} (h : a.target? t = some i) :
    a.isDeclaration i = true := by
  unfold target? at h
  split at h
  · split at h
    · next hd => exact Option.some.inj h ▸ hd
    · cases h
  · cases h

/-- Only declarations are listed. -/
theorem referrers_eq_nil (hheritage : ∀ d, ∀ j ∈ heritage d, a.isDeclaration j = true)
    (hi : ¬i < a.size) : a.referrers heritage i = [] := by
  refine List.eq_nil_iff_forall_not_mem.2 fun ref href => ?_
  obtain ⟨d, -, -, hmem, -⟩ := mem_referrers.1 href
  exact hi (lt_of_isDeclaration (hheritage d i hmem))

/-- The references to extending and implementing declarations that a finished atlas keeps. -/
theorem kept_referrers (h : a.allLinks = .ok links) (i : EntryId) :
    (links[i]?.getD {}).extendedBy = a.referrers a.bases i ∧
      (links[i]?.getD {}).implementedBy = a.referrers a.interfaces i := by
  have hsame := sameReferrers_allLinks h i
  rw [getElem?_reverseLinks] at hsame
  split at hsame
  · obtain ⟨l, hl, heq⟩ := Option.map_eq_some_iff.1 hsame
    rw [hl]
    exact ⟨congrArg Prod.fst heq, congrArg Prod.snd heq⟩
  · next hi =>
    rw [Option.map_eq_none_iff.1 hsame, referrers_eq_nil _ hi, referrers_eq_nil _ hi]
    · exact ⟨rfl, rfl⟩
    all_goals
      intro d j hj
      obtain ⟨t, -, ht⟩ := List.mem_filterMap.1 hj
      exact isDeclaration_of_target? ht

/-- Completing an atlas whose references are resolved leaves what is known about declarations. -/
theorem Resolves.details?_eq {b : Atlas} (h : a.Resolves b) (i : EntryId) :
    a.resolveReferences.details? i = b.details? i := by
  obtain ⟨c, hc⟩ := h.entries i
  rw [details?, details?, hc, get?_resolveReferences]
  cases a.get? i <;> rfl

/-- What is a declaration once references are resolved is one in what resolution makes. -/
theorem Resolves.isDeclaration_eq {b : Atlas} (h : a.Resolves b) (i : EntryId) :
    a.resolveReferences.isDeclaration i = b.isDeclaration i := by
  rw [isDeclaration, h.details?_eq, isDeclaration]

/-- References to an entry are the same once references are resolved and in what resolution makes.
-/
theorem Resolves.referenceTo_eq {b : Atlas} (h : a.Resolves b) (i : EntryId) :
    a.resolveReferences.referenceTo i = b.referenceTo i := by
  have hname : a.resolveReferences.nameOf i = b.nameOf i :=
    (a.resolves_resolveReferences.nameOf_eq i).trans (h.nameOf_eq i).symm
  rw [referenceTo, referenceTo, hname, h.details?_eq]

end Atlas

/-! ## The outcome -/

/-- References that are kept for the types that declarations list mirror them. -/
theorem Resolved.mirrors_of_referrers {a : Atlas} {r : Resolved} {listed : Details → List Ty}
    {kept : Links → List Reference} (h : a.Resolves r.atlas) {heritage : EntryId → List EntryId}
    (hheritage : ∀ i, heritage i = (((a.resolveReferences.details? i).map listed).getD []).filterMap
      a.resolveReferences.target?)
    (hkept : ∀ i, kept (r.linksOf i) = a.resolveReferences.referrers heritage i) :
    r.Mirrors listed kept := by
  have hdecl := h.isDeclaration_eq
  constructor
  case count =>
    intro i j details hne hi hj
    rw [hkept, Atlas.countP_referrers (by rw [hdecl, Atlas.isDeclaration, hi]; rfl) hne,
      hheritage, h.details?_eq, hi, List.count, List.countP_filterMap]
    refine List.countP_congr fun t _ => ?_
    simp only [Atlas.target?]
    cases t.target? with
    | none => simp
    | some k =>
      by_cases hk : k = j
      · subst hk
        simp [hdecl, hj]
      · by_cases hd : a.resolveReferences.isDeclaration k = true <;> simp [hd, hk]
  case exact =>
    intro i ref href
    obtain ⟨d, hd, -, -, rfl⟩ := Atlas.mem_referrers.1 (hkept i ▸ href)
    exact ⟨d, (hdecl d).symm.trans hd, h.referenceTo_eq d⟩
  case notSelf =>
    intro i ref href
    obtain ⟨d, -, hne, -, rfl⟩ := Atlas.mem_referrers.1 (hkept i ▸ href)
    exact fun heq => hne (Option.some.inj heq)
  case byAge =>
    intro i
    rw [hkept]
    exact Atlas.byAge_referrers _ heritage i

/-- In the outcome of a conversion, the references that a declaration has to those that extend it
mirror their heritage, and those to its implementations mirror the interfaces that these list. -/
theorem convert_mirrors {settings : Settings} {files : List Source.File} {d : Draft}
    {r : Resolved} (h : Program.convert settings files = .ok (d, r)) :
    r.Mirrors (·.extended) (·.extendedBy) ∧ r.Mirrors (·.implemented) (·.implementedBy) := by
  obtain ⟨-, hresolves, -⟩ := Program.convert_ok h
  have hkept := Atlas.kept_referrers (Program.convert_links h)
  exact ⟨Resolved.mirrors_of_referrers hresolves (fun _ => rfl) fun i => (hkept i).1,
    Resolved.mirrors_of_referrers hresolves (fun _ => rfl) fun i => (hkept i).2⟩

/-- A class that another one extends twice, with different arguments, and that a third one, declared
in two parts, extends beside itself: it is referred to twice by the former and once by the latter,
which does not refer to itself. -/
theorem repeated_base_mirrors :
    let argument (s : String) : Source.TypeExpr := .ofString s
    let base (s : String) (arguments : List Source.TypeExpr) : Source.TypeExpr :=
      { form := .reference, name := some s, symbol := some s, arguments := arguments }
    let file : Source.File :=
      { name := "a.ts",
        decls :=
          [{ kind := .class, name := some "B", symbol := some "B" },
           { kind := .class, name := some "D", symbol := some "D",
             bases := [base "B" [argument "x"], base "Missing" [], base "B" [argument "y"]] },
           { kind := .class, name := some "C", symbol := some "C", bases := [base "C" []],
             interfaces := [base "B" []] },
           { kind := .interface, name := some "C", symbol := some "C",
             bases := [base "B" [], base "C" []] }] }
    ∃ d r, Program.convert {} [file] = .ok (d, r) ∧
      (r.linksOf 1).extendedBy.map (·.target) = [some 2, some 2, some 3] ∧
      (r.linksOf 1).implementedBy.map (·.target) = [some 3] ∧
      (r.linksOf 3).extendedBy.map (·.target) = [] ∧
      r.Mirrors (·.extended) (·.extendedBy) ∧ r.Mirrors (·.implemented) (·.implementedBy) := by
  intro argument base file
  have hmade : (Program.convert {} [file]).toOption.map (fun made =>
      ((made.2.linksOf 1).extendedBy.map (·.target),
        (made.2.linksOf 1).implementedBy.map (·.target),
        (made.2.linksOf 3).extendedBy.map (·.target))) =
      some ([some 2, some 2, some 3], [some 3], []) := by
    decide +kernel
  cases hconvert : Program.convert {} [file] with
  | error e =>
    rw [hconvert] at hmade
    cases hmade
  | ok made =>
    obtain ⟨d, r⟩ := made
    rw [hconvert] at hmade
    obtain ⟨hextended, hrest⟩ := Prod.mk.inj (Option.some.inj hmade)
    obtain ⟨himplemented, hself⟩ := Prod.mk.inj hrest
    exact ⟨d, r, rfl, hextended, himplemented, hself, convert_mirrors hconvert⟩

end ApiAtlas
