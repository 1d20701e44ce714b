import ApiAtlas.Proofs.Inheritance.Members
import ApiAtlas.Proofs.Source.Owners
import Mathlib.Order.WellFoundedSet

/-!
# Heritage of classes

What the declarations of a class extend, and what must hold of that for the heritage to be told
apart later: bases are references, no type parameter hides one of them, and the words under which
two bases are known do not run into each other (`BasesApart`). Inheritance leaves all of this as it
is, and a member that a class gained has its name from one that is written.
-/

set_option autoImplicit false

namespace ApiAtlas.Source

open Relation

variable {ds : List Decl} {gained : String → List Decl} {D : String} {d m : Decl}

/-- What the declarations of a class extend, as it is written. -/
def classHeritage (ds : List Decl) (D : String) : List TypeExpr :=
  (classDecls ds D).flatMap (·.bases)

/-- The names of the type parameters of a class, over all its declarations. -/
def classParams (ds : List Decl) (D : String) : List String :=
  (classDecls ds D).flatMap fun d => d.typeParameters.map (·.name)

/-- Classes and interfaces stand in files, modules and namespaces only. -/
def ClassesInModules (ds : List Decl) : Prop :=
  ∀ d ∈ standing ds, d.kind.opensTop = false → ∀ m ∈ standing d.children, m.classSymbol? = none

instance (ds : List Decl) : Decidable (ClassesInModules ds) :=
  inferInstanceAs (Decidable (∀ d ∈ standing ds, d.kind.opensTop = false →
    ∀ m ∈ standing d.children, m.classSymbol? = none))

/-- Whether a declaration can be declared: it has a name and a symbol. -/
def Decl.IsNamed (d : Decl) : Prop :=
  d.name.getD "" ≠ "" ∧ d.symbol.isSome

instance (d : Decl) : Decidable d.IsNamed :=
  inferInstanceAs (Decidable (_ ∧ _))

/-- Whether a declaration is a class or an interface of the program, or has one below it. -/
def Decl.HasClass (d : Decl) : Prop :=
  d.classSymbol?.isSome ∨ ∃ m ∈ standing d.children, m.classSymbol?.isSome

/-- The name under which a reference is shown. -/
def TypeExpr.shown (t : TypeExpr) : String :=
  Conv.nameOrText t.name t.text

/-- The word that stands for a base when bases are compared: its symbol, or else its name. -/
def TypeExpr.heritageWord (t : TypeExpr) : String :=
  Conv.nameOrText t.symbol t.shown

/-- Whether two words still differ when type arguments are written behind them. -/
def WordsApart (v w : String) : Prop :=
  v ≠ w ∧ ¬v.toList ++ ['<'] <+: w.toList ∧ ¬w.toList ++ ['<'] <+: v.toList

instance (v w : String) : Decidable (WordsApart v w) :=
  inferInstanceAs (Decidable (_ ∧ _))

/-- The words for a base from the program and for anything else that the class extends still differ
when type arguments are written behind them. -/
def BasesApart (ds : List Decl) : Prop :=
  ∀ D ∈ classSymbols ds, ∀ t ∈ classHeritage ds D, t.symbol ∈ (classSymbols ds).map some →
    ∀ u ∈ classHeritage ds D, u.symbol ≠ t.symbol → WordsApart u.heritageWord t.heritageWord

instance (ds : List Decl) : Decidable (BasesApart ds) :=
  inferInstanceAs (Decidable (∀ D ∈ classSymbols ds, ∀ t ∈ classHeritage ds D,
    t.symbol ∈ (classSymbols ds).map some → ∀ u ∈ classHeritage ds D, u.symbol ≠ t.symbol →
      WordsApart u.heritageWord t.heritageWord))

/-- What is extended can be told apart: bases are references, none of them is named like a type
parameter in sight, and their words are apart. -/
structure PlainHeritage (ds : List Decl) : Prop where
  references : ∀ D ∈ classSymbols ds, ∀ t ∈ classHeritage ds D, t.form = .reference
  unbound : ∀ D ∈ classSymbols ds, ∀ t ∈ classHeritage ds D, t.shown ∉ classParams ds D
  apart : BasesApart ds

/-! ## Classes and modules -/

/-- A class carries its symbol. -/
theorem Decl.carries_of_classSymbol? (h : d.classSymbol? = some D) : d.Carries D := by
  unfold classSymbol? at h
  split at h
  · exact Option.eq_some_of_filter_eq_some h
  · cases h

/-- The symbol of a class is its own one, unless that is empty. -/
theorem Decl.classSymbol?_eq (d : Decl) :
    d.classSymbol? = if d.isClass then d.symbol.filter fun s => !s.isEmpty else none :=
  rfl

/-- What has a class's symbol is a class. -/
theorem Decl.isClass_of_classSymbol? (h : d.classSymbol? = some D) : d.isClass = true := by
  rw [Decl.classSymbol?_eq] at h
  split at h
  · assumption
  · cases h

/-- A class opens no top scope. -/
theorem Decl.opensTop_eq_false_of_isClass (h : d.isClass = true) : d.kind.opensTop = false := by
  unfold Decl.isClass at h
  revert h
  cases d.kind <;> decide

/-- What has a class's symbol opens no top scope. -/
theorem Decl.opensTop_eq_false_of_classSymbol? (h : d.classSymbol?.isSome) :
    d.kind.opensTop = false :=
  Decl.opensTop_eq_false_of_isClass (Decl.isClass_of_classSymbol? (Option.some_get h).symm)

/-- Classes that stand in modules only do not stand in other classes. -/
theorem ClassesInModules.flat (h : ClassesInModules ds) : FlatClasses ds :=
  fun d hd hclass => h d hd (Decl.opensTop_eq_false_of_classSymbol? hclass)

/-- Something with a class below it is a module or a namespace. -/
theorem ClassesInModules.opensTop (h : ClassesInModules ds) (hd : d ∈ standing ds)
    (hm : m ∈ standing d.children) (hclass : m.classSymbol?.isSome) : d.kind.opensTop = true := by
  by_contra htop
  rw [h d hd (Bool.eq_false_of_not_eq_true htop) m hm] at hclass
  cases hclass

/-- A base of a class is another class, which a declaration of the class names. -/
theorem mem_classBases {b : String} (h : b ∈ classBases ds D) :
    b ≠ D ∧ b ∈ classSymbols ds ∧ ∃ t ∈ classHeritage ds D, t.symbol = some b := by
  rw [classBases, List.mem_eraseDups, List.mem_filter, List.mem_flatMap] at h
  obtain ⟨⟨d, hd, hb⟩, hother⟩ := h
  obtain ⟨t, ht, hsymbol⟩ := List.mem_filterMap.1 hb
  rw [Bool.and_eq_true, bne_iff_ne, List.contains_iff_mem] at hother
  exact ⟨hother.1, hother.2, t, List.mem_flatMap.2 ⟨d, hd, ht⟩, hsymbol⟩

/-! ## Grown programs -/

/-- What stands in two lists stands in one of them. -/
theorem standing_append (ds es : List Decl) : standing (ds ++ es) = standing ds ++ standing es := by
  induction ds with
  | nil => rfl
  | cons d ds ih => simp [standing, ih]

/-- What stands in a grown program has grown or was gained. -/
theorem mem_standing_growAmong {gain : Address → List Decl} {i : Nat}
    (h : m ∈ standing (growAmong gain i ds)) :
    (∃ c ∈ placedFrom i ds, m = c.2.grow fun q => gain (c.1 ++ q)) ∨
      ∃ p, m ∈ standing (gain p) := by
  induction ds using decls_induction generalizing gain i with
  | nil => simp [growAmong, standing] at h
  | cons d ds ihchildren ih =>
    rw [growAmong, standing, Decl.inner_eq, Decl.grow_eq] at h
    rw [placedFrom_cons]
    rcases List.mem_cons.1 h with rfl | h
    · exact .inl ⟨_, List.mem_cons_self, (Decl.grow_eq _ d).symm⟩
    rcases List.mem_append.1 h with h | h
    · rw [standing_append] at h
      rcases List.mem_append.1 h with h | h
      · rcases ihchildren h with ⟨c, hc, rfl⟩ | ⟨p, hp⟩
        · refine .inl ⟨(i :: c.1, c.2), ?_, rfl⟩
          exact List.mem_cons_of_mem _ (List.mem_append_left _ (List.mem_map_of_mem hc))
        · exact .inr ⟨_, hp⟩
      · exact .inr ⟨_, h⟩
    · rcases ih h with ⟨c, hc, rfl⟩ | hp
      · exact .inl ⟨c, List.mem_cons_of_mem _ (List.mem_append_right _ hc), rfl⟩
      · exact .inr hp

/-- A class in a grown program was one before. -/
theorem mem_standing_grown_of_class (hfree : FreeOfClasses gained)
    (h : m ∈ standing (grown ds gained)) (hm : m.HasClass) :
    ∃ c ∈ placed ds, m = c.2.grow fun q => gainAt ds gained (c.1 ++ q) := by
  rcases mem_standing_growAmong h with hold | ⟨p, hp⟩
  · exact hold
  · have hnone : ∀ x ∈ standing (gainAt ds gained p), x.classSymbol? = none :=
      standing_gainAt hfree p
    rcases hm with hm | ⟨x, hx, hclass⟩
    · rw [hnone m hp] at hm
      cases hm
    · rw [hnone x (standing_children_subset hp hx)] at hclass
      cases hclass

/-- What stands below something in a grown program and is a class was a class below it. -/
theorem exists_class_of_grow {c : Address × Decl} {g : Address → List Decl}
    (hg : ∀ p, ∀ x ∈ standing (g p), x.classSymbol? = none)
    (hm : m ∈ standing (c.2.grow g).children) (hclass : m.classSymbol?.isSome) :
    ∃ x ∈ standing c.2.children, x.classSymbol? = m.classSymbol? := by
  rw [Decl.grow_eq] at hm
  have hm : m ∈ standing (growAmong g 0 c.2.children ++ g []) := hm
  rw [standing_append] at hm
  have hgained : ∀ p, m ∉ standing (g p) := fun p hp => by
    rw [hg p m hp] at hclass
    cases hclass
  rcases mem_standing_growAmong ((List.mem_append.1 hm).resolve_right (hgained [])) with
    ⟨b, hb, rfl⟩ | ⟨p, hp⟩
  · exact ⟨b.2, mem_standing_of_mem_placed hb, (Decl.classSymbol?_grow _ b.2).symm⟩
  · exact absurd hp (hgained p)

/-- Classes stand in modules only still after the program has grown. -/
theorem ClassesInModules.grown (h : ClassesInModules ds) (hfree : FreeOfClasses gained) :
    ClassesInModules (grown ds gained) := by
  intro d hd htop m hm
  by_contra hclass
  have hclass : m.classSymbol?.isSome := Option.isSome_iff_ne_none.2 hclass
  obtain ⟨c, hc, rfl⟩ := mem_standing_grown_of_class hfree hd (.inr ⟨m, hm, hclass⟩)
  obtain ⟨x, hx, hxm⟩ :=
    exists_class_of_grow (c := c) (fun p => standing_gainAt hfree _) hm hclass
  have hopens := h.opensTop (mem_standing_of_mem_placed hc) hx (hxm ▸ hclass)
  rw [Decl.grow_eq] at htop
  exact Bool.noConfusion (htop.symm.trans hopens)

/-- Everything that is a class or has one below it can still be declared. -/
theorem named_grown (hmodules : ClassesInModules ds) (hfree : FreeOfClasses gained)
    (hnamed : ∀ d ∈ standing ds, d.kind.isDeclared → d.IsNamed)
    (hd : d ∈ standing (grown ds gained)) (hclass : d.HasClass) : d.IsNamed := by
  obtain ⟨c, hc, rfl⟩ := mem_standing_grown_of_class hfree hd hclass
  have hstands := mem_standing_of_mem_placed hc
  have hdeclared : c.2.kind.isDeclared = true := by
    rcases hclass with hclass | ⟨m, hm, hclass⟩
    · rw [Decl.classSymbol?_grow, Decl.classSymbol?] at hclass
      split at hclass
      · next hkind =>
        simp only [Bool.or_eq_true, decide_eq_true_eq] at hkind
        rcases hkind with hkind | hkind <;> rw [hkind] <;> rfl
      · cases hclass
    · obtain ⟨x, hx, hxm⟩ :=
        exists_class_of_grow (c := c) (fun p => standing_gainAt hfree _) hm hclass
      have hopens := hmodules.opensTop hstands hx (hxm ▸ hclass)
      rw [DeclKind.opensTop, Bool.or_eq_true, decide_eq_true_eq, decide_eq_true_eq] at hopens
      rcases hopens with hkind | hkind <;> rw [hkind] <;> rfl
  have hname := hnamed c.2 hstands hdeclared
  rw [Decl.grow_eq]
  exact hname

/-- What is read off the declarations of a class without their children is the same after the
program has grown. -/
theorem flatMap_classDecls_grown {α : Type} (hfree : FreeOfClasses gained) (ds : List Decl)
    (D : String) (f : Decl → List α) (hf : ∀ (d : Decl) ms, f { d with children := ms } = f d) :
    (classDecls (grown ds gained) D).flatMap f = (classDecls ds D).flatMap f := by
  rw [classDecls_grown hfree, classDecls_eq, List.flatMap_map, List.flatMap_map]
  refine List.flatMap_congr fun c _ => ?_
  rw [Decl.grow_eq, hf]

/-- A class extends the same types after the program has grown. -/
theorem classHeritage_grown (hfree : FreeOfClasses gained) (ds : List Decl) (D : String) :
    classHeritage (grown ds gained) D = classHeritage ds D :=
  flatMap_classDecls_grown hfree ds D _ fun _ _ => rfl

/-- A class has the same type parameters after the program has grown. -/
theorem classParams_grown (hfree : FreeOfClasses gained) (ds : List Decl) (D : String) :
    classParams (grown ds gained) D = classParams ds D :=
  flatMap_classDecls_grown hfree ds D _ fun _ _ => rfl

/-- The symbols of classes are those with declarations. -/
theorem mem_classSymbols_iff : D ∈ classSymbols ds ↔ classDecls ds D ≠ [] := by
  rw [mem_classSymbols, Ne, classDecls, List.filter_eq_nil_iff]
  simp

/-- A grown program has the same classes. -/
theorem mem_classSymbols_grown (hfree : FreeOfClasses gained) :
    D ∈ classSymbols (grown ds gained) ↔ D ∈ classSymbols ds := by
  rw [mem_classSymbols_iff, mem_classSymbols_iff, classDecls_grown hfree, classDecls_eq, Ne,
    List.map_eq_nil_iff, Ne, List.map_eq_nil_iff]

/-- Heritage is plain still after the program has grown. -/
theorem PlainHeritage.grown (h : PlainHeritage ds) (hfree : FreeOfClasses gained) :
    PlainHeritage (grown ds gained) := by
  have hmap : ∀ s : Option String, s ∈ (classSymbols (Source.grown ds gained)).map some ↔
      s ∈ (classSymbols ds).map some := by
    intro s
    simp only [List.mem_map, mem_classSymbols_grown hfree]
  constructor
  case references =>
    intro D hD
    rw [classHeritage_grown hfree]
    exact h.references D ((mem_classSymbols_grown hfree).1 hD)
  case unbound =>
    intro D hD
    rw [classHeritage_grown hfree, classParams_grown hfree]
    exact h.unbound D ((mem_classSymbols_grown hfree).1 hD)
  case apart =>
    intro D hD
    rw [classHeritage_grown hfree]
    simp only [hmap]
    exact h.apart D ((mem_classSymbols_grown hfree).1 hD)

/-! ## Copies -/

/-- Acyclic classes can be gone through with the bases first. -/
theorem AcyclicClasses.induction {P : String → Prop} (h : AcyclicClasses ds)
    (step : ∀ D ∈ classSymbols ds, (∀ b ∈ classBases ds D, P b) → P D) :
    ∀ D ∈ classSymbols ds, P D := by
  have : IsStrictOrder String (TransGen fun b D => Extends ds D b) :=
    { irrefl := fun D hD => h D (transGen_swap.1 hD) }
  have hwf : {D | D ∈ classSymbols ds}.WellFoundedOn (TransGen fun b D => Extends ds D b) :=
    (List.finite_toSet _).wellFoundedOn
  exact fun D hD => hwf.induction hD fun D hD ih => step D hD fun b hb =>
    ih b (Extends.mem_classSymbols hb) (.single hb)

/-- The members of a class stand in the program. -/
theorem mem_standing_of_mem_classMembers (h : m ∈ classMembers ds D) : m ∈ standing ds := by
  obtain ⟨c, hc, hm⟩ := List.mem_flatMap.1 h
  exact standing_children_subset (List.mem_filter.1 hc).1 (subset_standing _ hm)

/-- A member of a class was one before, or the class has gained it. -/
theorem mem_classMembers_grown (hflat : FlatClasses ds) (hfree : FreeOfClasses gained)
    (h : m ∈ classMembers (grown ds gained) D) : m ∈ classMembers ds D ∨ m ∈ gained D := by
  rw [classMembers_grown hflat hfree] at h
  obtain ⟨c, hc, hm⟩ := List.mem_flatMap.1 h
  rcases List.mem_append.1 hm with hm | hm
  · rw [classMembers, classDecls_eq, List.flatMap_map]
    exact .inl (List.mem_flatMap.2 ⟨c, hc, hm⟩)
  · split at hm
    · exact .inr hm
    · cases hm

/-- What a class has gained is copied from an inheritable member of a base. -/
theorem Inherited.exists_source {after : List Decl} (h : Inherited ds after gained)
    (hD : D ∈ classSymbols ds) (hm : m ∈ gained D) : ∃ b ∈ classBases ds D,
      ∃ x ∈ classMembers after b, x.isInheritable = true ∧ m = x.inheritedBy D := by
  rw [h.order D hD] at hm
  obtain ⟨x, hx, rfl⟩ := List.mem_map.1 hm
  obtain ⟨b, hb, hxb, hinheritable, -⟩ := mem_handedDown.1 hx
  exact ⟨b, hb, x, hxb, hinheritable, rfl⟩

/-- An inheritable member is of a kind that is declared. -/
theorem Decl.isDeclared_of_isInheritable (h : d.isInheritable = true) :
    d.kind.isDeclared = true := by
  simp only [isInheritable, Bool.or_eq_true, decide_eq_true_eq] at h
  rcases h with ((h | h) | h) | h <;> rw [h] <;> rfl

/-- A copy is named like the member that it is a copy of. -/
theorem Decl.name_inheritedBy (D : String) (d : Decl) : (d.inheritedBy D).name = d.name :=
  congrArg Prod.fst (d.inheritedBy_key D)

/-- After inheritance, all members that can be inherited have names and symbols. -/
theorem Inherited.isNamed {after : List Decl} (h : Inherited ds after gained)
    (hmodules : ClassesInModules ds) (hfree : FreeOfClasses gained) (hacyclic : AcyclicClasses ds)
    (hnamed : ∀ d ∈ standing ds, d.kind.isDeclared → d.IsNamed) :
    ∀ D ∈ classSymbols ds, ∀ m ∈ classMembers after D, m.isInheritable = true → m.IsNamed := by
  refine hacyclic.induction fun D hD ih m hm hinheritable => ?_
  rw [h.grown] at hm
  rcases mem_classMembers_grown hmodules.flat hfree hm with hm | hm
  · exact hnamed m (mem_standing_of_mem_classMembers hm)
      (Decl.isDeclared_of_isInheritable hinheritable)
  · obtain ⟨b, hb, x, hx, hsource, rfl⟩ := h.exists_source hD hm
    refine ⟨?_, by rw [Decl.inheritedBy_symbol]; rfl⟩
    rw [Decl.name_inheritedBy]
    exact (ih b hb x hx hsource).1

/-- What a class has gained is among its members. -/
theorem mem_classMembers_of_gained (hflat : FlatClasses ds) (hfree : FreeOfClasses gained)
    (hD : D ∈ classSymbols ds) (hm : m ∈ gained D) : m ∈ classMembers (grown ds gained) D := by
  obtain ⟨p, hp⟩ : ∃ p, firstPlace? ds D = some p := by
    refine Option.ne_none_iff_exists'.1 fun hnone => ?_
    exact absurd hD (classPlaces_eq_nil_iff.1 (List.head?_eq_none_iff.1 hnone))
  obtain ⟨c, hc, rfl⟩ := List.mem_map.1 (List.mem_of_head? hp)
  rw [classMembers_grown hflat hfree]
  refine List.mem_flatMap.2 ⟨c, hc, List.mem_append_right _ ?_⟩
  rwa [if_pos hp]

/-- What stands in a program stands in the grown one, with what it has gained. -/
theorem exists_grow_mem_standing {gain : Address → List Decl} {i : Nat} (hd : d ∈ standing ds) :
    ∃ g, d.grow g ∈ standing (growAmong gain i ds) := by
  induction ds using decls_induction generalizing gain i with
  | nil => simp [standing] at hd
  | cons e ds ihchildren ih =>
    rw [standing, Decl.inner_eq] at hd
    rw [growAmong, standing, Decl.inner_eq]
    rcases List.mem_cons.1 hd with rfl | hd
    · exact ⟨_, List.mem_cons_self⟩
    rcases List.mem_append.1 hd with hd | hd
    · obtain ⟨g, hg⟩ : ∃ g, d.grow g ∈
          standing (growAmong (fun p => gain (i :: p)) 0 e.children) := ihchildren hd
      refine ⟨g, List.mem_cons_of_mem _ (List.mem_append_left _ ?_)⟩
      rw [Decl.grow_eq]
      dsimp only
      rw [standing_append]
      exact List.mem_append_left _ hg
    · obtain ⟨g, hg⟩ : ∃ g, d.grow g ∈ standing (growAmong gain (i + 1) ds) := ih hd
      exact ⟨g, List.mem_cons_of_mem _ (List.mem_append_right _ hg)⟩

end ApiAtlas.Source
