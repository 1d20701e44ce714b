import ApiAtlas.Proofs.Conversion.Followed

/-!
# Classes of a converted program

By induction on how declarations are nested, converting a program whose entities have distinct
symbols follows it, and every class of the program ends up with an entry: its named members are
registered, and it extends each of its bases that the program has (`ofFiles_includes`).
-/

set_option autoImplicit false

namespace ApiAtlas

open Source

/-- What must hold of a program whose conversion is followed. -/
structure Source.Followable (ds : List Decl) : Prop where
  modules : ClassesInModules ds
  named : ∀ d ∈ standing ds, d.HasClass → d.IsNamed
  plain : PlainHeritage ds
  distinct : SymbolsDistinct ds

/-- A declaration that is a class or has one below it is a class itself, or classes may stand in
it. -/
theorem Source.Followable.hasClass {ds : List Decl} {c d : Decl} (hds : Followable ds)
    (hd : d ∈ standing ds) (hc : c.classSymbol?.isSome) (hcd : c = d ∨ c ∈ standing d.children) :
    d.HasClass ∧ (d.isClass = true ∨ d.kind.opensTop = true) := by
  rcases hcd with rfl | hmem
  · exact ⟨.inl hc, .inl (Decl.isClass_of_classSymbol? (Option.some_get hc).symm)⟩
  · exact ⟨.inr ⟨c, hmem, hc⟩, .inr (hds.modules.opensTop hd hmem hc)⟩

namespace Atlas

variable {a b : Atlas} {ds es es' : List Decl} {c : Decl}

/-- Whether the declarations among some that can be declared have entries. -/
def Registers (a : Atlas) (es : List Decl) : Prop :=
  ∀ d ∈ es, d.kind.isDeclared = true → d.IsNamed → ∃ i, a.lookup d.symbol = some i

/-- Declarations that have entries still have them when the atlas evolves. -/
theorem Registers.mono (h : a.Registers es) (hab : a.Evolves b) : b.Registers es := by
  intro d hd hdeclared hnamed
  obtain ⟨i, hi⟩ := h d hd hdeclared hnamed
  exact ⟨i, hab.lookup_eq hi⟩

/-- Whether a declaration that is a class has an entry that extends each of its bases that the
program has, and its members have entries. -/
def CoversClass (a : Atlas) (ds : List Decl) (c : Decl) : Prop :=
  ∀ D, c.classSymbol? = some D → ∃ i, a.lookup (some D) = some i ∧ a.Registers c.children ∧
    ∀ t ∈ c.bases, t.symbol ∈ (classSymbols ds).map some → a.HasBase i t.symbol

/-- A class that is covered still is when the atlas evolves. -/
theorem CoversClass.mono (h : a.CoversClass ds c) (hab : a.Evolves b) : b.CoversClass ds c := by
  intro D hD
  obtain ⟨i, hi, hmembers, hbases⟩ := h D hD
  exact ⟨i, hab.lookup_eq hi, hmembers.mono hab, fun t ht hs => (hbases t ht hs).mono hab.details⟩

/-- What is no class is covered. -/
theorem coversClass_of_none (hc : c.classSymbol? = none) : a.CoversClass ds c := by
  intro D hD
  rw [hc] at hD
  cases hD

/-- Whether all classes that stand among some declarations are covered. -/
def Covers (a : Atlas) (ds es : List Decl) : Prop :=
  ∀ c ∈ standing es, a.CoversClass ds c

/-- Classes that are covered still are when the atlas evolves. -/
theorem Covers.mono (h : a.Covers ds es) (hab : a.Evolves b) : b.Covers ds es :=
  fun c hc => (h c hc).mono hab

/-- The classes of two lists of declarations are covered when those of each are. -/
theorem Covers.append (h : a.Covers ds es) (h' : a.Covers ds es') : a.Covers ds (es ++ es') := by
  intro c hc
  rw [standing_append] at hc
  exact (List.mem_append.1 hc).elim (h c) (h' c)

/-- The classes in a declaration are covered when it is and those among its children are. -/
theorem covers_singleton {d : Decl} (hd : a.CoversClass ds d) (hchildren : a.Covers ds d.children) :
    a.Covers ds [d] := by
  intro c hc
  obtain ⟨e, he, hce⟩ := mem_standing.1 hc
  obtain rfl := List.mem_singleton.1 he
  exact hce.elim (fun heq => heq ▸ hd) (hchildren c)

/-- What an atlas is like once some declarations of a program are converted. -/
structure Includes (a : Atlas) (ds es : List Decl) : Prop where
  follows : a.Follows ds
  registers : a.Registers es
  covers : a.Covers ds es

end Atlas

/-- Whether declarations of a program may be converted at a site. -/
structure Site.Serves (s : Site) (a : Atlas) (ds es : List Decl) : Prop where
  hosts : a.Hosts s.scope
  owner : ∃ owner, a.home owner = some s.scope ∧ ∀ d ∈ es, (owner, d) ∈ owned ds
  wanted : ∀ k d, Conv.isWanted s.settings k d = true
  /-- No type parameter is in sight of a class. -/
  unbound : s.bound = [] ∨ ∀ d ∈ standing es, d.classSymbol? = none

namespace Site.Serves

variable {s : Site} {a b : Atlas} {ds es : List Decl}

/-- A site serves declarations still when the atlas evolves. -/
theorem mono (h : s.Serves a ds es) (hab : a.Evolves b) : s.Serves b ds es where
  hosts := hab.grows.hosts h.hosts
  owner := by
    obtain ⟨owner, howner, hmem⟩ := h.owner
    exact ⟨owner, hab.home_eq howner, hmem⟩
  wanted := h.wanted
  unbound := h.unbound

/-- A site that serves declarations serves fewer of them. -/
theorem subset {es' : List Decl} (h : s.Serves a ds es) (hsub : es' ⊆ es) :
    s.Serves a ds es' where
  hosts := h.hosts
  owner := by
    obtain ⟨owner, howner, hmem⟩ := h.owner
    exact ⟨owner, howner, fun e he => hmem e (hsub he)⟩
  wanted := h.wanted
  unbound := h.unbound.imp_right fun hnone e he => by
    obtain ⟨c, hc, he⟩ := mem_standing.1 he
    exact hnone e (mem_standing.2 ⟨c, hsub hc, he⟩)

/-- A site inside of a container serves the children of that. In a class, type parameters may be in
sight, but then no class stands among the children. -/
theorem inside {inner : Site} {owner : Option String} {d : Decl} {id : EntryId}
    (h : s.Serves a ds [d]) (hds : Followable ds) (hp : (owner, d) ∈ owned ds)
    (hscope : inner.scope = id) (hsettings : inner.settings = s.settings)
    (hbound : d.isClass = false → inner.bound = s.bound) (hhosts : b.Hosts id)
    (hlookup : b.lookup d.symbol = some id) : inner.Serves b ds d.children := by
  subst hscope
  constructor
  case hosts => exact hhosts
  case owner =>
    exact ⟨d.symbol, Atlas.home_of_lookup hlookup, fun e he => mem_owned_children hp he⟩
  case wanted => exact hsettings ▸ h.wanted
  case unbound =>
    by_cases hc : d.isClass = true
    · exact .inr (hds.modules d (mem_standing_of_mem_owned hp)
        (Decl.opensTop_eq_false_of_isClass hc))
    · rw [hbound (Bool.eq_false_of_not_eq_true hc)]
      refine h.unbound.imp_right fun hnone e he => hnone e (mem_standing.2 ?_)
      exact ⟨d, List.mem_singleton_self d, .inr he⟩

end Site.Serves

namespace Conv

variable {x : Draft} {s : Site} {d : Decl} {ds es : List Decl} {owner : Option String}

/-! ## Leaves -/

/-- A question before some steps does not change which drafts these pass. -/
theorem passed_ask_bind {α β : Type} (f : Atlas → α) (k : α → Conv β) (x : Draft) :
    (ask f >>= k).passed x = (k (f x.atlas)).passed x := rfl

/-- A declaration that is no container is declared first, and then filled. -/
theorem exists_declareAnd (s : Site) (x : Draft) (hleaf : d.isContainer = false)
    (hd : d.kind.isDeclared = true) : ∃ kind name fill, kind.IsBasic ∧ kind ≠ .typeLiteral ∧
      (d.IsNamed → name.getD "" ≠ "") ∧
      (convertDecl s d).run x = (declareAnd s d kind name fill).run x ∧
      (convertDecl s d).passed x = (declareAnd s d kind name fill).passed x := by
  obtain ⟨kind, name, symbol, children, modifiers, type, signature, typeParameters, bases,
    interfaces, comment, defaultValue, origin, file, line, form⟩ := d
  have hbasic : ∀ scope, (accessorKind scope comment).IsBasic ∧
      accessorKind scope comment ≠ .typeLiteral := by
    intro scope
    rcases accessorKind_eq scope comment with h | h <;> rw [h] <;> decide
  cases kind with
  | module | «namespace» | enum | «class» | interface => cases hleaf
  | callSignature | constructSignature | indexSignature | other => cases hd
  | getAccessor | setAccessor =>
    rw [convertDecl, run_ask_bind, passed_ask_bind]
    exact ⟨_, _, _, (hbasic _).1, (hbasic _).2, And.left, rfl, rfl⟩
  | constructor =>
    rw [convertDecl]
    refine ⟨_, _, _, ?_, ?_, ?_, rfl, rfl⟩
    · decide
    · decide
    · exact fun _ => by decide
  | _ =>
    rw [convertDecl]
    refine ⟨_, _, _, ?_, ?_, And.left, rfl, rfl⟩
    · decide
    · decide

/-- A declaration that is declared and then filled ends in what its entry becomes; without an entry
nothing more is done. -/
theorem run_declareAnd {kind : Kind} {name : Option String} {fill : EntryId → Conv Unit}
    {z : Draft} {r : Option EntryId} (h : (declare s d kind name).run x = (r, z)) :
    ((declareAnd s d kind name fill).run x).2 = r.elim z fun id => ((fill id).run z).2 := by
  rw [declareAnd, run_bind, h]
  cases r <;> rfl

/-- Converting a declaration that is no container keeps what the program says of the atlas, and
registers it. -/
theorem leaf_follows (hdistinct : SymbolsDistinct ds) (hleaf : d.isContainer = false)
    (hp : (owner, d) ∈ owned ds) (hx : x.atlas.Identified) (hs : s.Serves x.atlas ds es)
    (hhome : x.atlas.home owner = some s.scope) (h : x.atlas.Follows ds) :
    (convertDecl s d).Gives x fun _ y => y.atlas.Follows ds ∧ y.atlas.Registers [d] := by
  have haside := convertDecl_aside_of_bare s hleaf hx hs.hosts
  have hstep := h.step hdistinct hp hx haside fun t ht => Decl.carry_bare (ht.resolve_right id)
  by_cases hdeclared : d.kind.isDeclared = true
  swap
  · refine ⟨hstep fun hd => absurd hd hdeclared, fun e he hd => ?_⟩
    exact absurd (List.mem_singleton.1 he ▸ hd) hdeclared
  obtain ⟨kind, name, fill, hk, hl, hname, hrun, hpassed⟩ := exists_declareAnd s x hleaf hdeclared
  have hcontainer : ¬(d.isClass = true ∨ d.kind.opensTop = true) := by
    unfold Decl.isContainer at hleaf
    rintro (hc | hc) <;> rw [hc] at hleaf <;> simp at hleaf
  have hdeclare : (declare s d kind name).Gives x _ :=
    declare_follows hdistinct hp hx hs.hosts hhome h (fun k => hs.wanted k d) hk hl hdeclared
      (fun hc => absurd (.inl hc) hcontainer) fun hc => absurd hc hcontainer
  have hself : (declare s d kind name).Runs x _ _ := declare_aside hx hs.hosts hk hl
  -- From where the declaration is declared, the rest of its conversion runs.
  have hwalk := (convertDecl_aside s d hx hs.hosts).chain
  rw [hpassed] at hwalk
  have hruns : (declareAnd s d kind name fill).Runs x _ fun _ _ => True := ⟨hwalk, trivial⟩
  have hevolves : ((declare s d kind name).run x).2.atlas.Evolves
      ((convertDecl s d).run x).2.atlas :=
    hrun ▸ (Runs.of_bind hruns).evolves (hself.identified hx)
  have hend : ((declare s d kind name).run x).1 = none →
      ((convertDecl s d).run x).2 = ((declare s d kind name).run x).2 := by
    intro hnone
    rw [hrun, run_declareAnd (z := ((declare s d kind name).run x).2) (Prod.ext hnone rfl)]
    rfl
  obtain ⟨hfollows, hregistered⟩ := hdeclare
  obtain ⟨hdeclares, hxz⟩ := hself.post
  unfold Conv.Gives
  generalize ((convertDecl s d).run x).2 = y at hstep hevolves hend ⊢
  generalize (declare s d kind name).run x = declared at *
  obtain ⟨r, z⟩ := declared
  dsimp only at *
  refine ⟨hstep fun _ i hi => ?_, fun e he _ hnamed => ?_⟩
  · have hi : z.atlas.lookup d.symbol = some i := by
      cases hr : r with
      | none => exact hend hr ▸ hi
      | some j =>
        have hj := (hdeclares j hr).1.lookup_eq hevolves.before
        rw [hj, ← hevolves.lookup_eq hj, hi]
    refine (hfollows _ hp i hi).mono hevolves (fun hc => absurd (.inl hc) hcontainer)
      fun D hD => absurd (.inl (Decl.isClass_of_classSymbol? hD)) hcontainer
  · obtain rfl := List.mem_singleton.1 he
    obtain ⟨i, hi, -⟩ := hregistered (hname hnamed) hnamed.2
    exact ⟨i, hevolves.lookup_eq hi⟩

/-! ## Containers -/

/-- Filling a container up to its members, which yields the site that these stand at. -/
def openContainer (s : Site) (d : Decl) (id : EntryId) : Conv Site :=
  if d.isClass then openClass s d id else pure (s.within id [])

/-- A container is declared, opened, and then its members are converted. -/
theorem run_convertDecl_container {z : Draft} {r : Option EntryId} (hd : d.isContainer = true)
    (h : (declare s d (kindOf d.kind) d.name).run x = (r, z)) :
    ((convertDecl s d).run x).2 = r.elim z fun id =>
      ((convertDecls ((openContainer s d id).run z).1 d.children).run
        ((openContainer s d id).run z).2).2 := by
  obtain ⟨kind, name, symbol, children, modifiers, type, signature, typeParameters, bases,
    interfaces, comment, defaultValue, origin, file, line, form⟩ := d
  cases kind with
  | module | «namespace» | enum | «class» | interface =>
    rw [convertDecl]
    exact run_declareAnd h
  | _ => cases hd

/-- Containers are entered as basic kinds that are no accessors, and classes as classes or
interfaces. -/
theorem kindOf_container (hd : d.isContainer = true) : (kindOf d.kind).IsBasic ∧
    kindOf d.kind ≠ .typeLiteral ∧ d.kind.isDeclared = true ∧
      (d.isClass = true → (kindOf d.kind).isIn Kind.classOrInterface = true) ∧
        (kindOf d.kind).isIn Kind.accessorLike = false := by
  unfold Decl.isContainer at hd
  unfold Decl.isClass at hd ⊢
  generalize d.kind = k at *
  revert hd
  cases k <;> decide

/-- Opening a container leaves all others aside. A class gets the heritage that its declaration
writes. -/
theorem openContainer_gives {id : EntryId} (hds : Followable ds) (hd : d ∈ standing ds)
    (hx : x.atlas.Identified) (hi : x.atlas.Declares id d.symbol false) :
    (openContainer s d id).Gives x fun inner y =>
      inner.scope = id ∧ inner.settings = s.settings ∧ (d.isClass = false → inner.bound = s.bound) ∧
        x.Aside d.written d.Carries y ∧
          (s.bound = [] → ∀ D, d.classSymbol? = some D → x.atlas.HasHeritage ds D id →
            y.atlas.HasHeritage ds D id ∧
              ∀ t ∈ d.bases, t.symbol ∈ (classSymbols ds).map some →
                y.atlas.HasBase id t.symbol) := by
  unfold openContainer
  split
  · next hclass =>
    obtain ⟨hscope, hsettings, haside, hheritage⟩ := openClass_gives (s := s) hds.plain hd
      (fun t ht => Decl.not_carry_written hds.distinct hd hd ht) hx hi
    refine ⟨hscope, hsettings, fun hnot => ?_, haside, hheritage⟩
    rw [hclass] at hnot
    cases hnot
  · next hclass =>
    refine .pure ⟨rfl, rfl, fun _ => List.nil_append _, .refl hx, fun _ D hD => ?_⟩
    exact absurd (Decl.isClass_of_classSymbol? hD) hclass

/-- The atlas evolves while declarations are converted. -/
theorem convertDecls_evolves (es : List Decl) (hx : x.atlas.Identified)
    (hs : x.atlas.Hosts s.scope) :
    x.atlas.Evolves ((convertDecls s es).run x).2.atlas :=
  (convertDecls_runs (fun d _ => walk.of_decl d) hx hs).evolves hx

/-- Once a container is converted it is included, if its children are when they are converted: it is
entered, its heritage is read, and then its members are converted at the site inside of it. -/
theorem container_includes (hds : Followable ds) (hd : d.isContainer = true)
    (hp : (owner, d) ∈ owned ds) (hx : x.atlas.Identified) (hs : s.Serves x.atlas ds [d])
    (hhome : x.atlas.home owner = some s.scope) (h : x.atlas.Follows ds)
    (hchildren : ∀ (z : Draft) (s : Site), z.atlas.Identified → s.Serves z.atlas ds d.children →
      z.atlas.Follows ds →
        (convertDecls s d.children).Gives z fun _ y => y.atlas.Includes ds d.children) :
    (convertDecl s d).Gives x fun _ y => y.atlas.Includes ds [d] := by
  obtain ⟨hk, hl, hdeclared, hclass, hacc⟩ := kindOf_container hd
  have hstanding := mem_standing_of_mem_owned hp
  have hdeclare : (declare s d (kindOf d.kind) d.name).Gives x _ :=
    declare_follows hds.distinct hp hx hs.hosts hhome h (fun k => hs.wanted k d) hk hl hdeclared
      hclass fun _ => hacc
  have hself : (declare s d (kindOf d.kind) d.name).Runs x _ _ := declare_aside hx hs.hosts hk hl
  obtain ⟨hfollows, hregistered⟩ := hdeclare
  obtain ⟨hdeclares, hxz⟩ := hself.post
  unfold Conv.Gives
  obtain ⟨⟨r, z⟩, hrun⟩ : ∃ rz, (declare s d (kindOf d.kind) d.name).run x = rz := ⟨_, rfl⟩
  rw [hrun] at hfollows hregistered hdeclares hxz
  rw [run_convertDecl_container hd hrun]
  dsimp only at hfollows hregistered hdeclares hxz
  have hz := hxz.identified
  cases r with
  | none =>
    -- What has a class in it and can be declared got an entry.
    have hnone : ∀ c, c.classSymbol?.isSome → (c = d ∨ c ∈ standing d.children) → False := by
      intro c hc hcd
      obtain ⟨hhas, hopens⟩ := hds.hasClass hstanding hc hcd
      obtain ⟨hname, hsymbol⟩ := hds.named d hstanding hhas
      obtain ⟨i, -, hi⟩ := hregistered hname hsymbol
      cases hi hopens
    refine ⟨hfollows, fun e he _ hnamed => ?_, fun c hc => Atlas.coversClass_of_none ?_⟩
    · obtain rfl := List.mem_singleton.1 he
      obtain ⟨i, hi, -⟩ := hregistered hnamed.1 hnamed.2
      exact ⟨i, hi⟩
    · obtain ⟨e, he, hce⟩ := mem_standing.1 hc
      obtain rfl := List.mem_singleton.1 he
      exact Option.not_isSome_iff_eq_none.1 fun hsome => hnone c hsome hce
  | some id =>
    obtain ⟨hid, -⟩ := hdeclares id rfl
    rw [hacc] at hid
    have hlookup := hid.lookup_eq hz
    have hstands := hfollows _ hp id hlookup
    obtain ⟨hscope, hsettings, hbound, hzw, hheritage⟩ :=
      openContainer_gives (s := s) hds hstanding hz hid
    rw [Option.elim_some]
    obtain ⟨⟨inner, w⟩, hopened⟩ : ∃ iw, (openContainer s d id).run z = iw := ⟨_, rfl⟩
    rw [hopened] at hscope hsettings hbound hzw hheritage ⊢
    dsimp only at hscope hsettings hbound hzw hheritage ⊢
    have hevolves := hzw.evolves hz
    have hclasses : ∀ D, d.classSymbol? = some D → s.bound = [] := fun D hD =>
      hs.unbound.resolve_right fun hnone => by
        rw [hnone d (subset_standing _ (List.mem_singleton_self d))] at hD
        cases hD
    have hw : w.atlas.Follows ds := by
      refine hfollows.step hds.distinct hp hz hzw (fun t ht => ?_) fun _ i hi => ?_
      · exact ht.symm.imp_left fun ht => ⟨hdeclared, ht⟩
      · obtain rfl : id = i := Option.some.inj ((hevolves.lookup_eq hlookup).symm.trans hi)
        refine hstands.mono hevolves (fun hc => ?_) fun D hD hinherits =>
          (hheritage (hclasses D hD) D hD hinherits).1
        obtain ⟨symbol, hsymbol, -⟩ := Atlas.lookup_eq_some_iff.1 hlookup
        have hout := Atlas.outside_of_symbolOf (hid.symbolOf.trans hsymbol)
          (Decl.not_carry_written hds.distinct hstanding hstanding hsymbol)
        rw [hzw.kept.kinds id hid.lt hout]
        exact hstands.isClass hc
    have hserves : inner.Serves w.atlas ds d.children :=
      hs.inside hds hp hscope hsettings hbound (hzw.grows.hosts hid.hosts)
        (hevolves.lookup_eq hlookup)
    have hlast := hchildren w inner hzw.identified hserves hw
    have hlastEvolves := convertDecls_evolves d.children hzw.identified hserves.hosts
    refine ⟨hlast.follows, fun e he _ _ => ?_, Atlas.covers_singleton (fun D hD => ?_) hlast.covers⟩
    · obtain rfl := List.mem_singleton.1 he
      exact ⟨id, hlastEvolves.lookup_eq (hevolves.lookup_eq hlookup)⟩
    · obtain ⟨-, hbases⟩ := hheritage (hclasses D hD) D hD (hstands.inherits D hD)
      have hsymbol : d.symbol = some D := Decl.carries_of_classSymbol? hD
      exact ⟨id, hsymbol ▸ hlastEvolves.lookup_eq (hevolves.lookup_eq hlookup), hlast.registers,
        fun t ht hs => (hbases t ht hs).mono hlastEvolves.details⟩

/-- Converting declarations of a program follows it and covers their classes, by induction on how
they are nested. -/
theorem convertDecls_includes (hds : Followable ds) (hx : x.atlas.Identified)
    (hs : s.Serves x.atlas ds es) (h : x.atlas.Follows ds) :
    (convertDecls s es).Gives x fun _ y => y.atlas.Includes ds es := by
  induction es using decls_induction generalizing x s with
  | nil =>
    rw [convertDecls]
    exact .pure ⟨h, List.forall_mem_nil _, List.forall_mem_nil _⟩
  | cons d es ihchildren ih =>
    have hhead : (convertDecl s d).Gives x fun _ y => y.atlas.Includes ds [d] := by
      obtain ⟨owner, hhome, hmem⟩ := hs.owner
      have hp := hmem d List.mem_cons_self
      by_cases hcontainer : d.isContainer = true
      · exact container_includes hds hcontainer hp hx (hs.subset (by simp)) hhome h
          fun z s hz hs hz' => ihchildren hz hs hz'
      · obtain ⟨hfollows, hregisters⟩ :=
          leaf_follows hds.distinct (Bool.eq_false_of_not_eq_true hcontainer) hp hx hs hhome h
        have hleaf : d.isClass = false ∧ d.kind.opensTop = false := by
          simp only [Decl.isContainer, Bool.or_eq_true, not_or, Bool.not_eq_true] at hcontainer
          exact hcontainer.1
        refine ⟨hfollows, hregisters, Atlas.covers_singleton (Atlas.coversClass_of_none ?_)
          fun c hc => Atlas.coversClass_of_none ?_⟩
        · rw [Decl.classSymbol?_eq, hleaf.1]
          rfl
        · exact hds.modules d (mem_standing_of_mem_owned hp) hleaf.2 c hc
    have hfirst := (convertDecl_aside s d hx hs.hosts).evolves hx
    have hserves := (hs.mono hfirst).subset (List.subset_cons_self d es)
    have hrest := ih hfirst.after hserves hhead.follows
    have hlast := convertDecls_evolves es hfirst.after hserves.hosts
    rw [convertDecls]
    refine ⟨hrest.follows, ?_, (hhead.covers.mono hlast).append hrest.covers⟩
    refine List.forall_mem_cons.2 ⟨hhead.registers.mono hlast d ?_, hrest.registers⟩
    exact List.mem_singleton_self d

end Conv

/-! ## Files -/

/-- Whether settings leave nothing out and put all files into one scope. -/
structure Settings.KeepsAll (settings : Settings) : Prop where
  mode : settings.mode = .file
  excludePrivate : settings.excludePrivate = false
  excludeNotExported : settings.excludeNotExported = false
  excludeExternals : settings.excludeExternals = false

variable {settings : Settings} {ds : List Decl} {files : List Source.File} {x : Draft}

namespace Settings.KeepsAll

/-- Settings that leave nothing out want every declaration. -/
theorem isWanted (h : settings.KeepsAll) (k : Kind) (d : Decl) :
    Conv.isWanted settings k d = true := by
  simp [Conv.isWanted, h.excludePrivate, h.excludeNotExported]

/-- Settings that leave nothing out want every file. -/
theorem isWantedIn (h : settings.KeepsAll) (f : Source.File) : f.isWantedIn settings = true := by
  simp [Source.File.isWantedIn, h.excludeExternals]

end Settings.KeepsAll

namespace Atlas.Includes

variable {a b : Atlas} {es es' : List Decl}

/-- Noting which entries came from a file changes nothing else. -/
theorem noteFiles (h : a.Includes ds es) (ha : a.Identified) (t : Table String (List EntryId)) :
    Atlas.Includes { a with files := t } ds es := by
  have hevolves : a.Evolves { a with files := t } :=
    ⟨ha, ha.of_extends (.refl a) rfl rfl fun _ => rfl, .refl a, .refl a⟩
  refine ⟨fun p hp i hi => ?_, h.registers.mono hevolves, h.covers.mono hevolves⟩
  have hstands := h.follows p hp i hi
  exact hstands.mono hevolves hstands.isClass fun _ _ hinherits => hinherits

/-- What was included before more declarations were converted still is. -/
theorem append (h : a.Includes ds es) (hab : a.Evolves b) (h' : b.Includes ds es') :
    b.Includes ds (es ++ es') where
  follows := h'.follows
  registers := List.forall_mem_append.2 ⟨h.registers.mono hab, h'.registers⟩
  covers := (h.covers.mono hab).append h'.covers

end Atlas.Includes

namespace Conv

/-- Once a file is converted, its declarations are included. -/
theorem convertFile_includes (hsettings : settings.KeepsAll) (hds : Followable ds)
    {f : Source.File} (hf : f.decls ⊆ ds) (hx : x.atlas.Identified) (h : x.atlas.Follows ds) :
    (convertFile settings f).Gives x fun _ y => y.atlas.Includes ds f.decls := by
  unfold convertFile Source.File.topDecls
  rw [if_pos (hsettings.isWantedIn f), hsettings.mode]
  dsimp only
  have hserves : Site.Serves ⟨Atlas.root, [], some f.name, f.isExternalIn settings, settings⟩
      x.atlas ds f.decls :=
    { hosts := hx.hosts_root
      owner := ⟨none, rfl, fun e he => mem_owned (hf he)⟩
      wanted := hsettings.isWanted
      unbound := .inl rfl }
  refine .bind hx ((convertDecls_runs (fun d _ => walk.of_decl d) hx hserves.hosts).and
    (convertDecls_includes hds hx hserves h)) ?_
  rintro ids y ⟨-, hy⟩ hxy
  obtain ⟨t, ht⟩ := foldl_noteFile f.name ids y.atlas
  change Atlas.Includes (ids.foldl (fun a id => a.noteFile f.name id) y.atlas) ds f.decls
  rw [ht]
  exact hy.noteFiles hxy.identified t

/-- Once some files are converted, their declarations are included. -/
theorem convertFiles_includes (hsettings : settings.KeepsAll) (hds : Followable ds)
    (hfiles : files.flatMap (·.decls) ⊆ ds) (hx : x.atlas.Identified) (h : x.atlas.Follows ds) :
    (convertFiles settings files).Gives x fun _ y =>
      y.atlas.Includes ds (files.flatMap (·.decls)) := by
  unfold convertFiles
  induction files generalizing x with
  | nil => exact .pure ⟨h, List.forall_mem_nil _, List.forall_mem_nil _⟩
  | cons f files ih =>
    rw [List.flatMap_cons, List.append_subset] at hfiles
    obtain ⟨hf, hfiles⟩ := hfiles
    refine .bind hx ((convertFile_runs hx).and (convertFile_includes hsettings hds hf hx h)) ?_
    rintro _ y ⟨-, hy⟩ hxy
    have hrest : (convertFiles settings files).Runs y (fun _ => True) _ :=
      convertFiles_runs hxy.identified
    rw [List.flatMap_cons]
    exact hy.append (hrest.evolves hxy.identified) (ih hfiles hxy.identified hy.follows)

end Conv

/-- The atlas of a program follows it and covers its classes. -/
theorem ofFiles_includes (hsettings : settings.KeepsAll)
    (hfiles : Followable (files.flatMap (·.decls))) :
    (Draft.ofFiles settings files).atlas.Includes (files.flatMap (·.decls))
      (files.flatMap (·.decls)) := by
  refine Conv.convertFiles_includes hsettings hfiles (List.Subset.refl _)
    (Draft.start_identified settings) fun p _ i hi => ?_
  obtain ⟨s, -, hs⟩ := Atlas.lookup_eq_some_iff.1 hi
  cases hs

end ApiAtlas
