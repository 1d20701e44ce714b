import ApiAtlas.Proofs.Inheritance.Completion

/-!
# Members after inheritance

What the classes of a program have gained once members are inherited, without regard to the order
in which classes were completed: under each name, the copies of what the first base with an
inheritable member of that name then has.
-/

set_option autoImplicit false

namespace ApiAtlas.Source

/-- What the classes of a program have gained by inheritance, told by the program before and
after. -/
structure Inherited (before after : List Decl) (gained : String → List Decl) : Prop where
  /-- The program is as it was, but that the first declaration of each class has at its end what
  the class gained. -/
  grown : after = grown before gained
  /-- Nothing is gained under a key that the class has itself. -/
  own : ∀ D ∈ classSymbols before, ∀ k ∈ (classMembers before D).map Decl.key,
    (gained D).filter (·.key == k) = []
  /-- Under any other key, the class gains one copy of each inheritable member that the first base
  with such a member has in the end, and nothing when there is no such base. -/
  provided : ∀ D ∈ classSymbols before, ∀ k ∉ (classMembers before D).map Decl.key,
    (gained D).filter (·.key == k) =
      match provider? (classMembers after) (classBases before D) k with
      | some b => ((classMembers after b).filter fun m =>
          m.isInheritable && m.key == k).map (Decl.inheritedBy D)
      | none => []
  /-- The copies stand base by base, in the order of the members of the base. -/
  order : ∀ D ∈ classSymbols before, gained D =
    (handedDown ((classMembers before D).map Decl.key) (classMembers after)
      (classBases before D)).map (Decl.inheritedBy D)
  /-- A copy has the symbol of a member of the class and tells the symbol of the member that it is
  a copy of. -/
  copies : ∀ D ∈ classSymbols before, ∀ c ∈ gained D, ∃ b ∈ classBases before D,
    ∃ m ∈ classMembers after b, c = m.inheritedBy D ∧ c.key = m.key ∧ c.kind = m.kind ∧
      c.symbol = some (D ++ (if m.isStatic then "." else "#") ++ m.name.getD "") ∧
      c.origin = m.symbol

variable {own : List (Option String × Bool)} {members : String → List Decl}
  {bases : List String} {k : Option String × Bool}

/-! ## Copies -/

/-- A copied member has the key of the member. -/
theorem Decl.inheritedBy_key (D : String) (d : Decl) : (d.inheritedBy D).key = d.key := by
  cases d
  unfold Decl.inheritedBy
  split
  · split <;> rfl
  · rfl

/-- The symbol of a copied member is put together from the class, the mark of a static or other
member, and its name. -/
theorem Decl.inheritedBy_symbol (D : String) (d : Decl) :
    (d.inheritedBy D).symbol =
      some (D ++ (if d.isStatic then "." else "#") ++ d.name.getD "") := rfl

/-- A copied member originates from the member. -/
theorem Decl.inheritedBy_origin (D : String) (d : Decl) :
    (d.inheritedBy D).origin = d.symbol := rfl

/-! ## One key -/

/-- Nothing is handed down under a key that is taken. -/
theorem handedDown_filter_own (hk : k ∈ own) :
    (handedDown own members bases).filter (·.key == k) = [] := by
  refine List.filter_eq_nil_iff.2 fun m hm hkey => ?_
  obtain ⟨b, -, -, -, hown, -⟩ := mem_handedDown.1 hm
  exact hown (eq_of_beq hkey ▸ hk)

/-- Under one key, bases hand down what the first of them that provides it has. -/
theorem handedDown_filter (hnodup : bases.Nodup) (hk : k ∉ own) :
    (handedDown own members bases).filter (·.key == k) =
      match provider? members bases k with
      | some b => (members b).filter fun m => m.isInheritable && m.key == k
      | none => [] := by
  have hbase : ∀ b, ((members b).filter fun m => m.isInheritable && !own.contains m.key &&
      provider? members bases m.key == some b).filter (·.key == k) =
      if provider? members bases k = some b then
        (members b).filter fun m => m.isInheritable && m.key == k
      else [] := by
    intro b
    rw [List.filter_filter]
    split
    next hb =>
      refine List.filter_congr fun m _ => ?_
      by_cases hkey : m.key = k
      · simp [hkey, hk, hb]
      · simp [beq_eq_false_iff_ne.2 hkey]
    next hb =>
      refine List.filter_eq_nil_iff.2 fun m _ => ?_
      by_cases hkey : m.key = k
      · simp [hkey, hb]
      · simp [beq_eq_false_iff_ne.2 hkey]
  rw [handedDown, List.filter_flatMap]
  simp only [hbase]
  cases hprovider : provider? members bases k with
  | none => simp
  | some b =>
    obtain ⟨front, rest, rfl⟩ := List.append_of_mem (provider?_eq_some hprovider).1
    obtain ⟨-, hrest, hdisjoint⟩ := List.nodup_append.1 hnodup
    have hfront : b ∉ front := fun h => hdisjoint b h b List.mem_cons_self rfl
    have hempty : ∀ bs : List String, b ∉ bs → (bs.flatMap fun b' => if some b = some b' then
        (members b').filter fun m => m.isInheritable && m.key == k else []) = [] := by
      refine fun bs hbs => List.flatMap_eq_nil_iff.2 fun b' hb' => if_neg fun h => hbs ?_
      exact Option.some.inj h ▸ hb'
    rw [List.flatMap_append, List.flatMap_cons, hempty front hfront,
      hempty rest (List.nodup_cons.1 hrest).1, if_pos rfl]
    simp

/-! ## Files -/

/-- The files that declarations are dealt out to have as many of them as before, and are otherwise
as they were. -/
theorem dealOut_spec (files : List File) (ds : List Decl)
    (h : ds.length = (files.flatMap (·.decls)).length) :
    (dealOut files ds).flatMap (·.decls) = ds ∧
      List.Forall₂ (fun f f' : File => f' = { f with decls := f'.decls } ∧
        f'.decls.length = f.decls.length) files (dealOut files ds) := by
  induction files generalizing ds with
  | nil =>
    have hnil : ds = [] := List.eq_nil_of_length_eq_zero h
    exact ⟨by rw [hnil]; rfl, .nil⟩
  | cons f files ih =>
    rw [List.flatMap_cons, List.length_append] at h
    obtain ⟨hdecls, hfiles⟩ := ih (ds.drop f.decls.length) (by rw [List.length_drop]; omega)
    rw [dealOut]
    refine ⟨?_, .cons ⟨rfl, ?_⟩ hfiles⟩
    · rw [List.flatMap_cons, hdecls, List.take_append_drop]
    · exact List.length_take_of_le (by omega)

/-- The classes of a program have gained what they are to gain, and the number that is returned is
the number of copies. -/
theorem inheritMembers_gained {files : List File} (hflat : FlatClasses (files.flatMap (·.decls)))
    (hacyclic : AcyclicClasses (files.flatMap (·.decls))) :
    ∃ gained, FreeOfClasses gained ∧
      Inherited (files.flatMap (·.decls)) ((inheritMembers files).1.flatMap (·.decls)) gained ∧
      List.Forall₂ (fun f f' : File => f' = { f with decls := f'.decls } ∧
        f'.decls.length = f.decls.length) files (inheritMembers files).1 ∧
      (inheritMembers files).2 =
        ((classSymbols (files.flatMap (·.decls))).map fun D => (gained D).length).sum := by
  generalize hbefore : files.flatMap (·.decls) = before at hflat hacyclic
  obtain ⟨gained, hdecls, hfree, hcomplete, hcopied⟩ := run_spec hflat hacyclic
  have hlength : (Inheriting.run before).decls.length = (files.flatMap (·.decls)).length := by
    rw [hdecls, grown, length_growAmong, hbefore]
  obtain ⟨hdealt, hfiles⟩ := dealOut_spec files _ hlength
  have hafter : (inheritMembers files).1.flatMap (·.decls) = grown before gained := by
    rw [inheritMembers, hbefore]
    exact hdealt.trans hdecls
  refine ⟨gained, hfree, ?_, ?_, ?_⟩
  · rw [hafter]
    have hkey : ∀ (D : String) (k : Option String × Bool) (ms : List Decl),
        (ms.map (Decl.inheritedBy D)).filter (·.key == k) =
          (ms.filter (·.key == k)).map (Decl.inheritedBy D) := by
      intro D k ms
      rw [List.filter_map]
      simp only [Function.comp_def, Decl.inheritedBy_key]
    refine ⟨rfl, fun D hD k hk => ?_, fun D hD k hk => ?_, hcomplete, fun D hD c hc => ?_⟩
    · rw [hcomplete D hD, inheritance, hkey, handedDown_filter_own hk, List.map_nil]
    · rw [hcomplete D hD, inheritance, hkey, handedDown_filter (nodup_classBases _ D) hk]
      split <;> rfl
    · rw [hcomplete D hD] at hc
      obtain ⟨m, hm, rfl⟩ := List.mem_map.1 hc
      obtain ⟨b, hb, hmb, -⟩ := mem_handedDown.1 hm
      exact ⟨b, hb, m, hmb, rfl, m.inheritedBy_key D, m.inheritedBy_kind D,
        m.inheritedBy_symbol D, m.inheritedBy_origin D⟩
  · rw [inheritMembers, hbefore]
    exact hfiles
  · rw [inheritMembers, hbefore]
    exact hcopied

/-- After inheritance each class has, besides its own members, copies of those of the first base
that provides their name, in any order of the classes and however they extend each other, as long
as none extends itself. -/
theorem inheritMembers_inherited (files : List File)
    (hflat : FlatClasses (files.flatMap (·.decls)))
    (hacyclic : AcyclicClasses (files.flatMap (·.decls))) :
    ∃ gained,
      Inherited (files.flatMap (·.decls)) ((inheritMembers files).1.flatMap (·.decls)) gained ∧
      List.Forall₂ (fun f f' : File => f' = { f with decls := f'.decls } ∧
        f'.decls.length = f.decls.length) files (inheritMembers files).1 ∧
      (inheritMembers files).2 =
        ((classSymbols (files.flatMap (·.decls))).map fun D => (gained D).length).sum := by
  obtain ⟨gained, -, hgained⟩ := inheritMembers_gained hflat hacyclic
  exact ⟨gained, hgained⟩

/-- A class that is written before its bases and extends one class along two ways: of the members
that both bases have, the first one hands down its own, an overloaded one as often as it is
declared. -/
theorem diamond_inherited :
    let base (s : String) : TypeExpr := { form := .reference, name := some s, symbol := some s }
    let method (owner name : String) (modifiers : List String) : Decl :=
      { kind := .method, name := some name, modifiers := modifiers,
        symbol := some (Naming.memberSymbol owner name (modifiers.contains "static")) }
    let files : List File :=
      [{ name := "d.ts",
         decls := [{ kind := .class, name := some "D", symbol := some "D",
                     bases := [base "B", base "C", base "B", base "Other"],
                     children := [method "D" "own" []] }] },
       { name := "a.ts",
         decls := [{ kind := .class, name := some "B", symbol := some "B", bases := [base "A"],
                     children := [method "B" "m" [], method "B" "m" []] },
                   { kind := .class, name := some "C", symbol := some "C", bases := [base "A"],
                     children := [method "C" "m" [], method "C" "c" ["static"]] },
                   { kind := .class, name := some "A", symbol := some "A",
                     children := [method "A" "own" [], method "A" "m" [], method "A" "a" [],
                       { kind := .constructor, name := some "constructor",
                         symbol := some "A#constructor" }] }] }]
    let before := files.flatMap (·.decls)
    let after := (inheritMembers files).1.flatMap (·.decls)
    FlatClasses before ∧ AcyclicClasses before ∧
      (classMembers after "D").map (fun m => (m.symbol, m.origin)) =
        [(some "D#own", none), (some "D#m", some "B#m"), (some "D#m", some "B#m"),
         (some "D#a", some "B#a"), (some "D.c", some "C.c")] ∧
      ∃ gained, Inherited before after gained ∧
        List.Forall₂ (fun f f' : File => f' = { f with decls := f'.decls } ∧
          f'.decls.length = f.decls.length) files (inheritMembers files).1 ∧
        (inheritMembers files).2 =
          ((classSymbols before).map fun D => (gained D).length).sum := by
  intro base method files before after
  have hflat : FlatClasses before := by decide +kernel
  have hacyclic : AcyclicClasses before :=
    acyclicClasses_of_rank (fun D => if D = "D" then 2 else if D = "A" then 0 else 1)
      (by decide +kernel)
  exact ⟨hflat, hacyclic, by decide +kernel, inheritMembers_inherited files hflat hacyclic⟩

end ApiAtlas.Source
