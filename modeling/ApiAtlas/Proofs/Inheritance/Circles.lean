import ApiAtlas.Proofs.Inheritance.Copies

/-!
# Inheritance in circles

Classes may extend each other in a circle. While such a class is completed, its bases lead back to
it, and one of them reads members of a class that is not complete yet. What holds all the same is
said here of every program: each class is completed once, a declaration keeps its children and
gets new ones behind them, and a class gains copies of members of its bases, under keys that it
does not have itself, with one base for each key (`inheritMembers_gainsCopies`). A state on the way
is `Growing`, and `complete_reaches` says how one completion leads from such a state to another.
-/

set_option autoImplicit false

namespace ApiAtlas.Source

variable {ds now : List Decl} {gained gained' gained'' : String → List Decl} {D b : String}
  {bases idle idle' : List String} {s s' s'' : Inheriting} {m d : Decl} {ms : List Decl}

/-- The declaration without its children. -/
def Decl.leaf (d : Decl) : Decl :=
  { d with children := [] }

/-- The declarations of classes and interfaces in a program, with their addresses. -/
def classNodes (ds : List Decl) : List (Address × Decl) :=
  (placed ds).filter fun c => c.2.classSymbol?.isSome

/-- Whether some members are copies, for a class, of inheritable members that some bases have now;
all members of one key are copied from one base. -/
def CopiedFromBases (classes : ClassTable) (now : List Decl) (bases : List String) (D : String)
    (ms : List Decl) : Prop :=
  ∃ base : Option String × Bool → String, ∀ m ∈ ms, base m.key ∈ bases ∧
    ∃ x ∈ classes.membersOf now (base m.key),
      x.isInheritable = true ∧ m.leaf = (x.inheritedBy D).leaf

/-! ## Declarations without their children -/

/-- Growing a declaration leaves all of it but its children. -/
theorem Decl.leaf_grow (gain : Address → List Decl) (d : Decl) : (d.grow gain).leaf = d.leaf := by
  rw [Decl.grow_eq]
  rfl

/-- What is copied does not depend on the children, which are copied as they are. -/
theorem Decl.leaf_inheritedBy (D : String) (d : Decl) :
    (d.inheritedBy D).leaf = (d.leaf.inheritedBy D).leaf := by
  obtain ⟨kind, name, symbol, children⟩ := d
  cases symbol with
  | none => rfl
  | some old =>
    simp only [inheritedBy, leaf]
    split <;> rfl

/-- Growing declarations leaves all of each but its children. -/
theorem map_leaf_growAmong (gain : Address → List Decl) (i : Nat) (ds : List Decl) :
    (growAmong gain i ds).map Decl.leaf = ds.map Decl.leaf := by
  induction ds generalizing i with
  | nil => rfl
  | cons d ds ih => rw [growAmong, List.map_cons, List.map_cons, Decl.leaf_grow, ih]

/-! ## Classes of a program that has grown -/

/-- The table of classes leads to the declarations that a class had at the start, as they have
grown. -/
theorem declsOf_eq_map_grow (ds : List Decl) (gained : String → List Decl) (D : String) :
    (ClassTable.ofDecls ds).declsOf (grown ds gained) D =
      ((placed ds).filter fun c => c.2.classSymbol? == some D).map fun c =>
        c.2.grow fun q => gainAt ds gained (c.1 ++ q) := by
  rw [ClassTable.declsOf, getD_get?_ofDecls, classPlaces, List.filterMap_map]
  refine List.filterMap_eq_map_iff_forall_eq_some.2 fun c hc => ?_
  exact declAt?_growAmong (declAt?_of_mem_placed (List.mem_of_mem_filter hc))

/-- A class has the same bases after its program has grown. -/
theorem basesOf_eq_classBases (ds : List Decl) (gained : String → List Decl) (D : String) :
    (ClassTable.ofDecls ds).basesOf (grown ds gained) D = classBases ds D := by
  have hnamed : ((ClassTable.ofDecls ds).declsOf (grown ds gained) D).flatMap
      (fun d => d.bases.filterMap (·.symbol)) =
      (classDecls ds D).flatMap fun d => d.bases.filterMap (·.symbol) := by
    rw [declsOf_eq_map_grow, classDecls_eq, List.flatMap_map, List.flatMap_map]
    exact List.flatMap_congr fun c _ => by rw [Decl.grow_eq]
  rw [ClassTable.basesOf, hnamed, foldl_kept_eq_eraseDups, classBases]
  congr 2
  funext b
  rw [Bool.eq_iff_iff]
  simp [isSome_get?_ofDecls]

/-- The members of a class, up to what stands below them: those of its declarations at the start,
each with what it has gained. -/
theorem map_leaf_membersOf (ds : List Decl) (gained : String → List Decl) (D : String) :
    ((ClassTable.ofDecls ds).membersOf (grown ds gained) D).map Decl.leaf =
      ((placed ds).filter fun c => c.2.classSymbol? == some D).flatMap fun c =>
        (c.2.children ++ gainAt ds gained c.1).map Decl.leaf := by
  rw [ClassTable.membersOf, declsOf_eq_map_grow, List.flatMap_map, List.map_flatMap]
  refine List.flatMap_congr fun c _ => ?_
  rw [Decl.grow_eq, List.map_append, List.map_append, map_leaf_growAmong, List.append_nil]

/-- While a class has gained nothing, its members have the keys that they had. -/
theorem map_key_membersOf (hD : gained D = []) :
    ((ClassTable.ofDecls ds).membersOf (grown ds gained) D).map Decl.key =
      (classMembers ds D).map Decl.key := by
  have hleaf : ∀ ms : List Decl, ms.map Decl.key = (ms.map Decl.leaf).map Decl.key := fun ms => by
    rw [List.map_map]
    rfl
  rw [hleaf, hleaf (classMembers ds D), map_leaf_membersOf, classMembers, classDecls_eq,
    List.flatMap_map, List.map_flatMap (f := Decl.leaf)]
  congr 1
  refine List.flatMap_congr fun c hc => ?_
  obtain ⟨hc, hclass⟩ := List.mem_filter.1 hc
  rw [gainAt_eq hc (eq_of_beq hclass), hD, ite_self, List.append_nil]

/-- Where classes gain more, more is gained at each address. -/
theorem gainAt_subset (h : ∀ E, gained E ⊆ gained' E) (p : Address) :
    gainAt ds gained p ⊆ gainAt ds gained' p := by
  unfold gainAt
  split
  · split
    · exact h _
    · exact List.Subset.refl _
  · exact List.Subset.refl _

/-- A member of a class is there still when classes have gained more. -/
theorem exists_mem_membersOf (h : ∀ E, gained E ⊆ gained' E)
    (hm : m ∈ (ClassTable.ofDecls ds).membersOf (grown ds gained) D) :
    ∃ m' ∈ (ClassTable.ofDecls ds).membersOf (grown ds gained') D, m'.leaf = m.leaf := by
  have hleaf := List.mem_map_of_mem (f := Decl.leaf) hm
  rw [map_leaf_membersOf, List.mem_flatMap] at hleaf
  obtain ⟨c, hc, hmc⟩ := hleaf
  refine List.mem_map.1 ?_
  rw [map_leaf_membersOf, List.mem_flatMap]
  refine ⟨c, hc, List.map_subset _ (List.append_subset.2 ⟨?_, ?_⟩) hmc⟩
  · exact List.subset_append_left _ _
  · exact List.subset_append_of_subset_right _ (gainAt_subset h c.1)

/-- Copies of members stay copies when classes gain more. -/
theorem CopiedFromBases.mono (hgained : ∀ E, gained E ⊆ gained' E)
    (h : CopiedFromBases (ClassTable.ofDecls ds) (grown ds gained) bases D ms) :
    CopiedFromBases (ClassTable.ofDecls ds) (grown ds gained') bases D ms := by
  obtain ⟨base, hbase⟩ := h
  refine ⟨base, fun m hm => ?_⟩
  obtain ⟨hb, x, hx, hinheritable, hcopy⟩ := hbase m hm
  obtain ⟨x', hx', hleaf⟩ := exists_mem_membersOf hgained hx
  refine ⟨hb, x', hx', (congrArg Decl.isInheritable hleaf).trans hinheritable, ?_⟩
  rw [hcopy, Decl.leaf_inheritedBy, Decl.leaf_inheritedBy D x', hleaf]

/-- One more base hands on what is not taken yet. -/
theorem CopiedFromBases.concat
    (h : CopiedFromBases (ClassTable.ofDecls ds) now bases D ms)
    {taken : List (Option String × Bool)}
    (htaken : ms.map Decl.key ⊆ taken) :
    CopiedFromBases (ClassTable.ofDecls ds) now (bases ++ [b]) D
      (ms ++ (passedOn taken ((ClassTable.ofDecls ds).membersOf now b)).map
        (Decl.inheritedBy D)) := by
  obtain ⟨base, hbase⟩ := h
  refine ⟨fun k => if k ∈ ms.map Decl.key then base k else b, fun m hm => ?_⟩
  beta_reduce
  rcases List.mem_append.1 hm with hm | hm
  · rw [if_pos (List.mem_map_of_mem hm)]
    obtain ⟨hb, hsource⟩ := hbase m hm
    exact ⟨List.mem_append_left _ hb, hsource⟩
  · obtain ⟨x, hx, rfl⟩ := List.mem_map.1 hm
    obtain ⟨hmember, hkept⟩ := List.mem_filter.1 hx
    rw [Bool.and_eq_true, Bool.not_eq_true', List.contains_eq_mem, decide_eq_false_iff_not] at hkept
    have hkey : (x.inheritedBy D).key ∉ ms.map Decl.key := by
      rw [Decl.inheritedBy_key]
      exact fun h => hkept.2 (htaken h)
    rw [if_neg hkey]
    exact ⟨List.mem_append_right _ (List.mem_singleton_self b), x, hmember, hkept.1, rfl⟩

/-! ## States on the way -/

/-- A program while members are copied, whatever extends what. It is the program that was written,
grown by what the complete classes have gained; these are copies of members that their bases have
now, under keys that they do not have themselves. -/
structure Growing (ds : List Decl) (s : Inheriting) (gained : String → List Decl) : Prop where
  decls : s.decls = grown ds gained
  undone : ∀ D, D ∉ s.done → gained D = []
  nodup : s.done.Nodup
  known : ∀ D ∈ s.done, D ∈ classSymbols ds
  own : ∀ D, ∀ m ∈ gained D, m.key ∉ (classMembers ds D).map Decl.key
  copies : ∀ D, CopiedFromBases (ClassTable.ofDecls ds) (grown ds gained) (classBases ds D) D
    (gained D)
  copied : s.copied = ((classNodes ds).map fun c => (gainAt ds gained c.1).length).sum

/-- What completing some classes does: what was gained stays, and classes that become complete were
not being completed. -/
structure Reaches (ds : List Decl) (idle : List String) (s : Inheriting)
    (gained : String → List Decl) (s' : Inheriting) (gained' : String → List Decl) : Prop where
  growing : Growing ds s' gained'
  done : s.done ⊆ s'.done
  kept : ∀ E, gained E ⊆ gained' E
  new : ∀ E ∈ s'.done, E ∈ s.done ∨ E ∈ idle

/-- Completing no class reaches the same program. -/
theorem Reaches.refl (h : Growing ds s gained) : Reaches ds idle s gained s gained :=
  ⟨h, List.Subset.refl _, fun _ => List.Subset.refl _, fun _ => Or.inl⟩

/-- What completing some classes reaches, and then completing others, is reached by completing all
of them. -/
theorem Reaches.trans (h : Reaches ds idle s gained s' gained')
    (h' : Reaches ds idle s' gained' s'' gained'') : Reaches ds idle s gained s'' gained'' where
  growing := h'.growing
  done := List.Subset.trans h.done h'.done
  kept E := List.Subset.trans (h.kept E) (h'.kept E)
  new E hE := (h'.new E hE).elim (h.new E) Or.inr

/-- What is reached while some classes are being completed is reached while more are. -/
theorem Reaches.mono (hidle : idle ⊆ idle') (h : Reaches ds idle s gained s' gained') :
    Reaches ds idle' s gained s' gained' :=
  ⟨h.growing, h.done, h.kept, fun E hE => (h.new E hE).imp_right fun h => hidle h⟩

/-! ## Addresses -/

/-- The addresses of placed declarations are all different. -/
theorem nodup_map_fst_placedFrom (i : Nat) (ds : List Decl) :
    ((placedFrom i ds).map Prod.fst).Nodup := by
  induction ds using decls_induction generalizing i with
  | nil => exact List.nodup_nil
  | cons d ds ihchildren ih =>
    have hbelow : ∀ p ∈ (placed d.children).map Prod.fst, p ≠ [] := by
      rintro p hp rfl
      obtain ⟨c, hc, hp⟩ := List.mem_map.1 hp
      obtain ⟨j, q, hj, -⟩ := declAt?_of_mem_placedFrom hc
      rw [hp] at hj
      cases hj
    have hlater : ∀ p ∈ (placedFrom (i + 1) ds).map Prod.fst, ∀ q, p ≠ i :: q := by
      rintro p hp q rfl
      obtain ⟨c, hc, hp⟩ := List.mem_map.1 hp
      obtain ⟨j, q', hj, -⟩ := declAt?_of_mem_placedFrom hc
      rw [hp] at hj
      have := (List.cons.inj hj).1
      omega
    rw [placedFrom_cons, List.map_append, List.map_cons, List.map_map]
    refine List.nodup_append.2 ⟨List.nodup_cons.2 ⟨fun h => ?_, ?_⟩, ih (i + 1), ?_⟩
    · obtain ⟨c, hc, hi⟩ := List.mem_map.1 h
      exact hbelow _ (List.mem_map_of_mem hc) (List.cons.inj hi).2
    · have hcomp : (Prod.fst ∘ fun c : Address × Decl => (i :: c.1, c.2)) =
          (i :: ·) ∘ Prod.fst := rfl
      rw [hcomp, ← List.map_map]
      exact (ihchildren 0).map fun p q h => (List.cons.inj h).2
    · rintro p hp q hq rfl
      rcases List.mem_cons.1 hp with rfl | hp
      · exact hlater _ hq [] rfl
      · obtain ⟨c, -, rfl⟩ := List.mem_map.1 hp
        exact hlater _ hq c.1 rfl

/-- A number that is added for one place of a list without repetitions is the whole sum. -/
theorem sum_map_ite_of_nodup {α : Type} [DecidableEq α] {l : List α} {a : α} (hl : l.Nodup)
    (ha : a ∈ l) (n : Nat) : (l.map fun x => if x = a then n else 0).sum = n := by
  rw [List.sum_map_eq_nsmul_single a _ fun x hx _ => if_neg hx,
    List.count_eq_one_of_mem hl ha, if_pos rfl, one_nsmul]

/-- Of the nodes of classes, one is the first declaration of a class. -/
theorem exists_first_classNode (hD : D ∈ classSymbols ds) :
    ∃ c ∈ classNodes ds, c.2.classSymbol? = some D ∧ firstPlace? ds D = some c.1 := by
  obtain ⟨p, hp⟩ : ∃ p, firstPlace? ds D = some p := by
    refine Option.ne_none_iff_exists'.1 fun hnone => ?_
    exact absurd hD (classPlaces_eq_nil_iff.1 (List.head?_eq_none_iff.1 hnone))
  obtain ⟨c, hc, rfl⟩ := List.mem_map.1 (List.mem_of_head? hp)
  obtain ⟨hc, hclass⟩ := List.mem_filter.1 hc
  have hclass := eq_of_beq hclass
  exact ⟨c, List.mem_filter.2 ⟨hc, by rw [hclass]; rfl⟩, hclass, hp⟩

/-- What a class is given, having gained nothing before, comes to what the nodes have gained. -/
theorem sum_gainAt_update (hD : D ∈ classSymbols ds) (hnone : gained D = []) (more : List Decl) :
    ((classNodes ds).map fun c =>
        (gainAt ds (Function.update gained D more) c.1).length).sum =
      ((classNodes ds).map fun c => (gainAt ds gained c.1).length).sum + more.length := by
  obtain ⟨first, hfirst, hclass, hplace⟩ := exists_first_classNode hD
  have hstep : ∀ c ∈ classNodes ds,
      (gainAt ds (Function.update gained D more) c.1).length =
        (gainAt ds gained c.1).length + if c.1 = first.1 then more.length else 0 := by
    intro c hc
    obtain ⟨hc, hsome⟩ := List.mem_filter.1 hc
    obtain ⟨E, hE⟩ := Option.isSome_iff_exists.1 hsome
    rw [gainAt_eq hc hE, gainAt_eq hc hE]
    by_cases hED : E = D
    · subst hED
      rw [hplace, Function.update_self, hnone, ite_self, List.length_nil, Nat.zero_add]
      simp only [Option.some.injEq, eq_comm (a := first.1)]
      split <;> rfl
    · have hc : c.1 ≠ first.1 := by
        intro heq
        have hsame := declAt?_of_mem_placed hc
        rw [heq, declAt?_of_mem_placed (List.mem_of_mem_filter hfirst)] at hsame
        rw [← Option.some.inj hsame, hclass] at hE
        exact hED (Option.some.inj hE).symm
      rw [Function.update_of_ne hED, if_neg hc, Nat.add_zero]
  have hnodup : ((classNodes ds).map Prod.fst).Nodup :=
    (nodup_map_fst_placedFrom 0 ds).sublist (List.filter_sublist.map _)
  rw [List.map_congr_left hstep, List.sum_map_add]
  congr 1
  have hsingle := sum_map_ite_of_nodup hnodup (List.mem_map_of_mem hfirst) more.length
  rwa [List.map_map] at hsingle

/-! ## Completing a class -/

/-- Going through the bases of a class: what they hand on are copies of their members, under keys
that are not taken. -/
theorem foldl_reaches {f : Inheriting → String → Inheriting} (D : String)
    (own : List (Option String × Bool)) (bases : List String)
    (hf : ∀ b s gained, Growing ds s gained →
      ∃ gained', Reaches ds idle s gained (f s b) gained')
    (hs : Growing ds s gained) :
    ∃ s' gained' ms, Reaches ds idle s gained s' gained' ∧
      bases.foldl (baseStep (ClassTable.ofDecls ds) f D) (s, own, []) =
        (s', own ++ ms.map Decl.key, ms) ∧
      (∀ m ∈ ms, m.key ∉ own) ∧
      CopiedFromBases (ClassTable.ofDecls ds) (grown ds gained') bases D ms := by
  induction bases using List.reverseRecOn with
  | nil =>
    exact ⟨s, gained, [], .refl hs, by simp, List.forall_mem_nil _, fun _ => "",
      List.forall_mem_nil _⟩
  | append_singleton bases b ih =>
    obtain ⟨s₁, gained₁, ms, hreach₁, hfold, hown, hcopied⟩ := ih
    obtain ⟨gained₂, hreach₂⟩ := hf b s₁ gained₁ hreach₁.growing
    have hmore := (hcopied.mono hreach₂.kept).concat (b := b) (List.subset_append_right own _)
    refine ⟨f s₁ b, gained₂, _, hreach₁.trans hreach₂, ?_, ?_, hmore⟩
    · rw [List.foldl_append, hfold, List.foldl_cons, List.foldl_nil, baseStep,
        hreach₂.growing.decls, List.map_append, List.append_assoc, List.map_map]
      simp only [Function.comp_def, Decl.inheritedBy_key]
    · refine List.forall_mem_append.2 ⟨hown, fun m hm => ?_⟩
      obtain ⟨x, hx, rfl⟩ := List.mem_map.1 hm
      have hkept := (List.mem_filter.1 hx).2
      rw [Bool.and_eq_true, Bool.not_eq_true', List.contains_eq_mem,
        decide_eq_false_iff_not] at hkept
      rw [Decl.inheritedBy_key]
      exact fun h => hkept.2 (List.mem_append_left _ h)

/-- Giving a class what its bases have handed on. -/
theorem give_reaches (hs : Growing ds s gained) (hD : D ∈ classSymbols ds) (hundone : D ∉ s.done)
    (hown : ∀ m ∈ ms, m.key ∉ (classMembers ds D).map Decl.key)
    (hcopied : CopiedFromBases (ClassTable.ofDecls ds) (grown ds gained) (classBases ds D) D ms) :
    Reaches ds [D] s gained (s.give (ClassTable.ofDecls ds) D ms)
      (Function.update gained D ms) := by
  have hkept : ∀ E, gained E ⊆ Function.update gained D ms E := by
    intro E
    by_cases hE : E = D
    · rw [hE, hs.undone D hundone]
      exact List.nil_subset _
    · rw [Function.update_of_ne hE]
      exact List.Subset.refl _
  refine ⟨?_, List.subset_cons_self _ _, hkept, fun E hE => ?_⟩
  · constructor
    case decls =>
      rw [Inheriting.give, getD_get?_ofDecls, hs.decls]
      exact changeAt_grown hD (hs.undone D hundone) ms
    case undone =>
      intro E hE
      obtain ⟨hED, hE⟩ := not_or.1 (mt List.mem_cons.2 hE)
      rw [Function.update_of_ne hED]
      exact hs.undone E hE
    case nodup => exact List.nodup_cons.2 ⟨hundone, hs.nodup⟩
    case known => exact List.forall_mem_cons.2 ⟨hD, hs.known⟩
    case own =>
      intro E
      by_cases hE : E = D
      · rw [hE, Function.update_self]
        exact hown
      · rw [Function.update_of_ne hE]
        exact hs.own E
    case copies =>
      intro E
      by_cases hE : E = D
      · rw [hE, Function.update_self]
        exact hcopied.mono hkept
      · rw [Function.update_of_ne hE]
        exact (hs.copies E).mono hkept
    case copied =>
      rw [sum_gainAt_update hD (hs.undone D hundone), ← hs.copied]
      rfl
  · exact (List.mem_cons.1 hE).symm.imp_right List.mem_singleton.2

/-- Completing a class that is not being completed; classes that are being completed are left
alone, so that circles come to an end. -/
theorem complete_reaches (idle : List String) (hnodup : idle.Nodup)
    (hknown : ∀ E ∈ idle, E ∈ classSymbols ds) (s : Inheriting) (gained : String → List Decl)
    (D : String) (hs : Growing ds s gained) :
    ∃ gained', Reaches ds idle s gained
        (Inheriting.complete (ClassTable.ofDecls ds) idle s D) gained' ∧
      (D ∈ idle → D ∈ (Inheriting.complete (ClassTable.ofDecls ds) idle s D).done) := by
  induction hn : idle.length using Nat.strongRecOn generalizing idle s gained D with
  | ind n ih =>
    by_cases hidle : D ∈ idle
    case neg =>
      rw [Inheriting.complete, dif_neg hidle]
      exact ⟨gained, .refl hs, fun h => absurd h hidle⟩
    by_cases hdone : D ∈ s.done
    case pos =>
      rw [Inheriting.complete, dif_pos hidle, if_pos (List.contains_iff_mem.2 hdone)]
      exact ⟨gained, .refl hs, fun _ => hdone⟩
    have hlength : (idle.erase D).length < n := by
      have hpositive := List.length_pos_of_mem hidle
      rw [List.length_erase_of_mem hidle, ← hn]
      omega
    rw [complete_eq hidle hdone, hs.decls, basesOf_eq_classBases,
      map_key_membersOf (hs.undone D hdone)]
    -- The class itself is being completed while its bases are.
    have hbases : ∀ b s gained, Growing ds s gained →
        ∃ gained', Reaches ds (idle.erase D) s gained
          (Inheriting.complete (ClassTable.ofDecls ds) (idle.erase D) s b) gained' := by
      intro b s gained hs
      obtain ⟨gained', hreach, -⟩ := ih _ hlength (idle.erase D) (hnodup.erase D)
        (fun E hE => hknown E (List.mem_of_mem_erase hE)) s gained b hs rfl
      exact ⟨gained', hreach⟩
    obtain ⟨s₁, gained₁, ms, hreach, hfold, hown, hcopied⟩ := foldl_reaches D
      ((classMembers ds D).map Decl.key) (classBases ds D) hbases hs
    have hundone : D ∉ s₁.done := fun h =>
      (hreach.new D h).elim hdone (hnodup.not_mem_erase)
    have hgive := give_reaches hreach.growing (hknown D hidle) hundone hown hcopied
    rw [hfold]
    refine ⟨_, (hreach.mono List.erase_subset).trans (hgive.mono ?_), fun _ => List.mem_cons_self⟩
    exact List.cons_subset.2 ⟨hidle, List.nil_subset _⟩

/-! ## Programs with inherited members -/

/-- The table of classes has each class once. -/
theorem nodup_keys_ofDecls (ds : List Decl) : (ClassTable.ofDecls ds).keys.Nodup := by
  rw [ClassTable.ofDecls]
  refine List.foldlRecOn (motive := fun t : ClassTable => t.keys.Nodup) _ _ List.nodup_nil
    fun t ht c _ => ?_
  exact Table.nodup_keys_put t c.1 _ ht

/-- Nothing has been gained before the first class is completed. -/
theorem growing_start (ds : List Decl) : Growing ds { decls := ds } fun _ => [] := by
  constructor
  case decls => rw [grown, gainAt_nothing, growAmong_nil]
  case undone => exact fun _ _ => rfl
  case nodup => exact List.nodup_nil
  case known => exact List.forall_mem_nil _
  case own => exact fun _ => List.forall_mem_nil _
  case copies => exact fun _ => ⟨fun _ => "", List.forall_mem_nil _⟩
  case copied => simp [gainAt_nothing]

/-- Completing classes one after the other completes each of them, whatever extends what. -/
theorem foldl_complete_reaches (keys : List String) (hs : Growing ds s gained)
    (hkeys : keys ⊆ (ClassTable.ofDecls ds).keys) :
    ∃ gained', Reaches ds (ClassTable.ofDecls ds).keys s gained
        (keys.foldl (Inheriting.complete (ClassTable.ofDecls ds) (ClassTable.ofDecls ds).keys) s)
        gained' ∧
      keys ⊆ (keys.foldl
        (Inheriting.complete (ClassTable.ofDecls ds) (ClassTable.ofDecls ds).keys) s).done := by
  induction keys generalizing s gained with
  | nil => exact ⟨gained, .refl hs, List.nil_subset _⟩
  | cons D keys ih =>
    obtain ⟨hD, hkeys⟩ := List.cons_subset.1 hkeys
    obtain ⟨gained₁, hreach₁, hdone₁⟩ := complete_reaches _ (nodup_keys_ofDecls ds)
      (fun E hE => mem_keys_ofDecls.1 hE) s gained D hs
    obtain ⟨gained₂, hreach₂, hdone₂⟩ := ih hreach₁.growing hkeys
    exact ⟨gained₂, hreach₁.trans hreach₂, List.cons_subset.2 ⟨hreach₂.done (hdone₁ hD), hdone₂⟩⟩

/-- When all classes have been gone through, each has been completed once. -/
theorem run_growing (ds : List Decl) : ∃ gained, Growing ds (Inheriting.run ds) gained ∧
    (Inheriting.run ds).done.Perm (classSymbols ds) := by
  obtain ⟨gained, hreach, hdone⟩ := foldl_complete_reaches (ClassTable.ofDecls ds).keys
    (growing_start ds) (List.Subset.refl _)
  refine ⟨gained, hreach.growing, ?_⟩
  refine (List.perm_ext_iff_of_nodup hreach.growing.nodup (nodup_classSymbols ds)).2 fun D => ?_
  exact ⟨hreach.growing.known D, fun hD => hdone (mem_keys_ofDecls.2 hD)⟩

/-- How many children a declaration of a program has more than it had. -/
def childrenGained (after : List Decl) (c : Address × Decl) : Nat :=
  ((declAt? c.1 after).map (·.children.length)).getD 0 - c.2.children.length

/-- What inheritance does to any program, told by the program before and after and by what each
class has gained. -/
structure GainsCopies (before after : List Decl) (gained : String → List Decl) : Prop where
  /-- The first declaration of each class has at its end what the class has gained, and all else is
  as it was. -/
  grown : after = grown before gained
  /-- A declaration stands where it stood, and the children that it had are its first. -/
  kept : ∀ c ∈ placed before, ∃ d, declAt? c.1 after = some d ∧ d.leaf = c.2.leaf ∧
    c.2.children.map Decl.leaf <+: d.children.map Decl.leaf
  /-- A declaration that has gained children is the first one of a class. -/
  first : ∀ c ∈ placed before, childrenGained after c ≠ 0 →
    ∃ D, c.2.classSymbol? = some D ∧ firstPlace? before D = some c.1
  /-- A class gains nothing under a key that one of its declarations had. -/
  own : ∀ D, ∀ m ∈ gained D, m.key ∉ (classMembers before D).map Decl.key
  /-- What a class gains are copies of members of its bases, with one base for each key. -/
  copies : ∀ D, CopiedFromBases (ClassTable.ofDecls before) after (classBases before D) D
    (gained D)
  /-- A gained member is of a kind that is inherited and tells the symbol of a member of a base. -/
  origins : ∀ D, ∀ m ∈ gained D, m.isInheritable = true ∧ ∃ b ∈ classBases before D,
    ∃ x ∈ (ClassTable.ofDecls before).membersOf after b, m.origin = x.symbol

/-- A copy is inheritable like the member that it is a copy of, and tells the symbol of that. -/
theorem Decl.copied_of_leaf_eq {x : Decl} (h : m.leaf = (x.inheritedBy D).leaf) :
    m.isInheritable = x.isInheritable ∧ m.origin = x.symbol := by
  have hkind : m.kind = x.kind := (congrArg Decl.kind h).trans (x.inheritedBy_kind D)
  refine ⟨?_, congrArg Decl.origin h⟩
  rw [isInheritable, hkind, isInheritable]

/-- What a node has gained is what it has more than before. -/
theorem childrenGained_grown (gained : String → List Decl) {c : Address × Decl}
    (hc : c ∈ placed ds) :
    childrenGained (grown ds gained) c = (gainAt ds gained c.1).length := by
  have hat : declAt? c.1 (growAmong (gainAt ds gained) 0 ds) = _ :=
    declAt?_growAmong (declAt?_of_mem_placed hc)
  rw [childrenGained, grown, hat, Decl.grow_eq, Option.map_some, Option.getD_some,
    List.length_append, length_growAmong, List.append_nil, Nat.add_sub_cancel_left]

/-- A state on the way, told by the program before and after. -/
theorem Growing.gainsCopies (h : Growing ds s gained) : GainsCopies ds s.decls gained := by
  rw [h.decls]
  constructor
  case grown => rfl
  case kept =>
    intro c hc
    refine ⟨_, declAt?_growAmong (declAt?_of_mem_placed hc), Decl.leaf_grow _ _, ?_⟩
    rw [Decl.grow_eq, List.map_append, map_leaf_growAmong]
    exact List.prefix_append _ _
  case first =>
    intro c hc hgained
    rw [childrenGained_grown gained hc, gainAt, declAt?_of_mem_placed hc, Option.bind_some]
      at hgained
    split at hgained
    case h_1 D hD =>
      refine ⟨D, hD, ?_⟩
      by_contra hother
      rw [if_neg hother] at hgained
      exact hgained rfl
    case h_2 => exact absurd rfl hgained
  case own => exact h.own
  case copies => exact h.copies
  case origins =>
    intro D m hm
    obtain ⟨base, hbase⟩ := h.copies D
    obtain ⟨hb, x, hx, hinheritable, hcopy⟩ := hbase m hm
    obtain ⟨hkind, horigin⟩ := Decl.copied_of_leaf_eq hcopy
    exact ⟨hkind.trans hinheritable, base m.key, hb, x, hx, horigin⟩

/-- Inheritance comes to an end for every program, however its classes extend each other: each class
is completed once, declarations keep their children and only get copies of members of bases behind
them, and the number that is returned is the number of these copies. -/
theorem inheritMembers_gainsCopies (files : List File) :
    let before := files.flatMap (·.decls)
    let after := (inheritMembers files).1.flatMap (·.decls)
    (∃ gained, GainsCopies before after gained) ∧
      List.Forall₂ (fun f f' : File => f' = { f with decls := f'.decls } ∧
        f'.decls.length = f.decls.length) files (inheritMembers files).1 ∧
      (Inheriting.run before).done.Perm (classSymbols before) ∧
      (inheritMembers files).2 = ((classNodes before).map (childrenGained after)).sum := by
  intro before after
  obtain ⟨gained, hgrowing, hdone⟩ := run_growing before
  have hafter : after = (Inheriting.run before).decls := flatMap_decls_inheritMembers files
  refine ⟨⟨gained, hafter ▸ hgrowing.gainsCopies⟩, (dealOut_spec files _ ?_).2, hdone, ?_⟩
  · change (Inheriting.run before).decls.length = before.length
    rw [hgrowing.decls, grown, length_growAmong]
  · change (Inheriting.run before).copied = _
    rw [hgrowing.copied, hafter, hgrowing.decls]
    refine congrArg List.sum (List.map_congr_left fun c hc => ?_)
    exact (childrenGained_grown gained (List.mem_of_mem_filter hc)).symm

/-- Two classes that extend each other, one of them itself as well, share their members. -/
example :
    let base (s : String) : TypeExpr := { form := .reference, name := some s, symbol := some s }
    let method (owner name : String) : Decl :=
      { kind := .method, name := some name, symbol := some (owner ++ "#" ++ name) }
    let before : List Decl :=
      [{ kind := .class, symbol := some "A", bases := [base "A", base "B"],
         children := [method "A" "a"] },
       { kind := .class, symbol := some "B", bases := [base "A"], children := [method "B" "b"] }]
    let after := (Inheriting.run before).decls
    (classMembers after "A").map (fun m => (m.symbol, m.origin)) =
        [(some "A#a", none), (some "A#b", some "B#b")] ∧
      (classMembers after "B").map (fun m => (m.symbol, m.origin)) =
        [(some "B#b", none), (some "B#a", some "A#a")] := by
  decide +kernel

end ApiAtlas.Source
