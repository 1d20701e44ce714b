import ApiAtlas.Proofs.Conversion.Covered
import ApiAtlas.Proofs.Conversion.Legible
import ApiAtlas.Proofs.Resolution.Linking
import ApiAtlas.Proofs.Resolution.Targets

/-!
# Origins of inherited members

Members are inherited before conversion, and linked to the members that they were copied from after
it. The two agree: in the outcome of a program whose classes got the members of their bases, every
copy is inherited from the entry of the member that it is a copy of, which belongs to a base of the
copy's class, and nothing that is written is inherited (`inheritMembers_linked`).
-/

set_option autoImplicit false

namespace ApiAtlas

open Source

namespace Atlas

variable {a b : Atlas} {ds : List Decl} {D : String} {m : Decl} {i p : EntryId}

/-! ## What an atlas includes -/

/-- A class has an entry that is a class or an interface and extends its bases. -/
theorem Includes.exists_class (h : a.Includes ds ds) (hD : D ∈ classSymbols ds) :
    ∃ owner, a.lookup (some D) = some owner ∧ a.isClassOrInterface owner = true ∧
      ∀ t ∈ classHeritage ds D, t.symbol ∈ (classSymbols ds).map some →
        a.HasBase owner t.symbol := by
  have known : ∀ c ∈ classDecls ds D, ∃ owner, a.lookup (some D) = some owner ∧
      a.isClassOrInterface owner = true ∧ ∀ t ∈ c.bases,
        t.symbol ∈ (classSymbols ds).map some → a.HasBase owner t.symbol := by
    intro c hc
    obtain ⟨hstands, hclass⟩ := List.mem_filter.1 hc
    have hclass : c.classSymbol? = some D := eq_of_beq hclass
    obtain ⟨owner, hlookup, -, hbases⟩ := h.covers c hstands D hclass
    obtain ⟨home, howned⟩ := exists_owner hstands
    have hsymbol : c.symbol = some D := Decl.carries_of_classSymbol? hclass
    obtain ⟨k, hk, hin⟩ := (h.follows _ howned owner (hsymbol ▸ hlookup)).isClass
      (Decl.isClass_of_classSymbol? hclass)
    refine ⟨owner, hlookup, ?_, hbases⟩
    rw [isClassOrInterface, kindOf, ← kindAt, hk]
    exact hin
  obtain ⟨c, hc⟩ := List.exists_mem_of_ne_nil _ (mem_classSymbols_iff.1 hD)
  obtain ⟨owner, hlookup, hclass, -⟩ := known c hc
  refine ⟨owner, hlookup, hclass, fun t ht hs => ?_⟩
  obtain ⟨c', hc', ht⟩ := List.mem_flatMap.1 ht
  obtain ⟨owner', hlookup', -, hbases⟩ := known c' hc'
  exact Option.some.inj (hlookup.symm.trans hlookup') ▸ hbases t ht hs

/-- A member of a class has an entry that belongs to the class and knows its origin. -/
theorem Includes.exists_member (h : a.Includes ds ds) (hm : m ∈ classMembers ds D)
    (hdeclared : m.kind.isDeclared = true) (hnamed : m.IsNamed) :
    ∃ i owner details, a.lookup m.symbol = some i ∧ a.lookup (some D) = some owner ∧
      a.parent? i = some owner ∧ a.details? i = some details ∧ details.origin = m.origin := by
  obtain ⟨c, hc, hm⟩ := List.mem_flatMap.1 hm
  obtain ⟨hstands, hclass⟩ := List.mem_filter.1 hc
  have hclass : c.classSymbol? = some D := eq_of_beq hclass
  obtain ⟨owner, hlookup, hregisters, -⟩ := h.covers c hstands D hclass
  obtain ⟨i, hi⟩ := hregisters m hm hdeclared hnamed
  obtain ⟨home, howned⟩ := exists_owner hstands
  have hsymbol : c.symbol = some D := Decl.carries_of_classSymbol? hclass
  have hentry := h.follows _ (mem_owned_children howned hm) i hi
  obtain ⟨q, hparent, hhome⟩ := hentry.home
  obtain ⟨details, hdetails, horigin⟩ := hentry.origin
  have hhome : a.home c.symbol = some q := hhome
  rw [hsymbol] at hhome
  exact ⟨i, q, details, hi, hhome, hparent, hdetails, horigin⟩

/-- Different symbols have different entries. -/
theorem Identified.eq_of_lookup (h : a.Identified) {s t : Option String}
    (hs : a.lookup s = some i) (ht : a.lookup t = some i) : s = t := by
  obtain ⟨_, hs⟩ := h.declares_of_lookup hs
  obtain ⟨_, ht⟩ := h.declares_of_lookup ht
  exact hs.symbolOf.symm.trans ht.symbolOf

/-! ## What resolution leaves -/

/-- What extends another declaration has ancestors. -/
theorem ancestors_ne_nil (hp : p ∈ a.bases i) (hne : p ≠ i) (hsize : 0 < a.size) :
    a.ancestors i ≠ [] := by
  have hnext : p ∈ a.nextLevel [i] [i] := by
    simp [nextLevel, hp, hne]
  obtain ⟨n, hn⟩ := Nat.exists_eq_succ_of_ne_zero (Nat.ne_of_gt hsize)
  obtain ⟨q, rest, hlevel⟩ := List.exists_cons_of_ne_nil (List.ne_nil_of_mem hnext)
  rw [ancestors, levels, hn]
  simp [levelsFrom, hlevel]

namespace Resolves

variable (h : a.Resolves b)

include h

/-- Resolution leaves the kind of an entry. -/
theorem kindOf_eq (i : EntryId) : b.kindOf i = a.kindOf i := by
  have hkind : (b.get? i).map (·.kind) = (a.get? i).map (·.kind) := by
    obtain ⟨c, hc⟩ := h.entries i
    rw [hc, Option.map_map]
    exact Option.map_congr fun e _ => e.mapTypes_kind _
  rw [kindOf, hkind, kindOf]

/-- References to members are named as they were. -/
theorem memberReference_eq (i : EntryId) : b.memberReference i = a.memberReference i := by
  have hname : ∀ j, (b.get? j).map (·.name) = (a.get? j).map (·.name) := by
    intro j
    obtain ⟨c, hc⟩ := h.entries j
    rw [hc, Option.map_map]
    exact Option.map_congr fun e _ => e.mapTypes_name _
  have hsymbol : (b.details? i).bind (·.symbol) = (a.details? i).bind (·.symbol) := by
    rw [details?, Option.bind_assoc, details?, Option.bind_assoc]
    exact h.bind_eq _ fun e _ => e.symbol?_mapTypes _
  unfold memberReference referenceTo nameOf
  simp only [h.parent?_eq, hname, hsymbol]

/-- What an entry extends is a base of it once it is found. -/
theorem mem_bases (ha : a.Identified) {symbol : Option String} (hbase : a.HasBase i symbol)
    (hp : a.lookup symbol = some p) : p ∈ b.bases i := by
  obtain ⟨d, hd, name, arguments, hmem⟩ := hbase
  obtain ⟨e, he, hed⟩ := Option.bind_eq_some_iff.1 hd
  obtain ⟨c, hc⟩ := h.of_get? he
  have hresolved : ((b.details? i).map (·.extended)).getD [] =
      d.extended.map (Ty.resolve a.lookup) := by
    rw [details?, hc]
    obtain ⟨ename, kind, flags, comment, parent, body⟩ := e
    cases body <;> cases hed
    rfl
  rw [bases, hresolved]
  refine List.mem_filterMap.2 ⟨_, List.mem_map_of_mem hmem, ?_⟩
  have hdecl := h.grows.isDeclaration (ha.isDeclaration_of_lookup hp)
  have htarget : ((Ty.reference name symbol arguments none).resolve a.lookup).target? = some p := by
    rw [Ty.resolve, hp]
    rfl
  rw [target?, htarget]
  exact if_pos hdecl

/-- Nothing is listed twice still after resolving. -/
theorem listsOnce (ha : a.ListsOnce) : b.ListsOnce :=
  ⟨fun p => h.childrenOf_eq p ▸ ha.nodup p,
    fun p c hc => h.parent?_eq.trans (ha.parent p c (h.childrenOf_eq p ▸ hc))⟩

/-- A class links a member once it is known to extend something else. -/
theorem linksMember (ha : a.Identified) (hplaced : a.Placed) {owner : EntryId}
    {class_ member : Option String} (howner : a.lookup class_ = some owner)
    (hclass : a.isClassOrInterface owner = true) (hp : p ∈ b.bases owner) (hne : p ≠ owner)
    (hi : a.lookup member = some i) (hparent : a.parent? i = some owner) :
    b.LinksMember owner i := by
  have hdecl := ha.isDeclaration_of_lookup hi
  have howner := h.grows.isDeclaration (ha.isDeclaration_of_lookup howner)
  obtain ⟨s, -, hs⟩ := lookup_eq_some_iff.1 hi
  obtain ⟨e, he, hn, -⟩ := ha.registered s i hs
  constructor
  · rw [List.mem_filter, declarations, List.mem_filter, ids, List.mem_range, isClassOrInterface,
      h.kindOf_eq]
    exact ⟨⟨lt_of_isDeclaration howner, howner⟩, hclass⟩
  · exact .inl (ancestors_ne_nil hp hne (Nat.zero_lt_of_lt (lt_of_isDeclaration howner)))
  · rw [h.childrenOf_eq]
    exact hplaced.listed i e owner he hn ((Atlas.parent?_eq he).symm.trans hparent)
  · exact h.grows.isDeclaration hdecl

/-- Resolution leaves the origin of a declaration. -/
theorem origin_eq (i : EntryId) :
    (b.details? i).bind (·.origin) = (a.details? i).bind (·.origin) := by
  rw [details?, Option.bind_assoc, details?, Option.bind_assoc]
  refine h.bind_eq _ fun e c => ?_
  obtain ⟨name, kind, flags, comment, parent, body⟩ := e
  cases body <;> rfl

/-- The origin of an entry is found if it belongs to something else than the owner. -/
theorem originOf?_eq (ha : a.Identified) {owner o : EntryId} {d : Details}
    (hd : a.details? i = some d) (ho : a.lookup d.origin = some o)
    (hparent : a.parent? i = some owner) (hp : a.parent? o = some p) (hne : p ≠ owner) :
    b.originOf? owner i = some o := by
  have hdecl := h.grows.isDeclaration (ha.isDeclaration_of_lookup ho)
  have hoi : o ≠ i := by
    rintro rfl
    exact hne (Option.some.inj (hp.symm.trans hparent))
  have hpo : b.parent? o ≠ some owner := by
    rw [h.parent?_eq, hp]
    exact fun heq => hne (Option.some.inj heq)
  unfold originOf?
  rw [h.lookup_eq, h.origin_eq, hd, Option.bind_some, ho]
  dsimp only
  rw [if_pos]
  simp [hdecl, hoi, hpo]

/-- What has no origin never gets one. -/
theorem originOf?_eq_none {d : Details} (hd : a.details? i = some d) (ho : d.origin = none)
    (owner : EntryId) : b.originOf? owner i = none := by
  unfold originOf?
  rw [h.origin_eq, hd, Option.bind_some, ho]
  rfl

end Resolves

end Atlas

/-! ## The outcome -/

/-- What a copy `m` of a member is linked to, which the class of symbol `D` got. Its entry `i`
belongs to the entry `q` of the class, and is inherited from the entry `o` of the member that it is
a copy of, which belongs to the base `p` of the class. -/
structure Resolved.LinksCopy (r : Resolved) (D : String) (m : Decl) (i q o p : EntryId) :
    Prop where
  copy : r.atlas.lookup m.symbol = some i
  owner : r.atlas.lookup (some D) = some q
  parent : r.atlas.parent? i = some q
  origin : r.atlas.lookup m.origin = some o
  originParent : r.atlas.parent? o = some p
  base : p ∈ r.atlas.bases q
  inheritedFrom : (r.linksOf i).inheritedFrom = some (r.atlas.memberReference o)
  overwrites : (r.linksOf i).overwrites = none

variable {settings : Settings} {files : List Source.File} {d : Draft} {r : Resolved}
  {ds : List Decl} {m : Decl}

/-- Nothing is listed twice in what conversion ends with. -/
theorem ofFiles_listsOnce : (Draft.ofFiles settings files).atlas.ListsOnce where
  nodup p := (ofFiles_listsDeclared.increasing p).imp Nat.ne_of_lt
  parent := (states_placed _ (ofFiles_mem_states settings files)).parent

section Outcome

variable (h : Program.convert settings files = .ok (d, r)) (hincludes : d.atlas.Includes ds ds)

include h hincludes

/-- A member of a class whose origin is a member of another class that its class extends. -/
theorem Program.convert_linksCopy {D b : String} {x : Decl} {t : TypeExpr}
    (hD : D ∈ classSymbols ds) (ht : t ∈ classHeritage ds D) (hb : t.symbol = some b)
    (hbases : b ∈ classSymbols ds) (hne : b ≠ D) (hm : m ∈ classMembers ds D)
    (hx : x ∈ classMembers ds b) (horigin : m.origin = x.symbol)
    (hdeclared : m.kind.isDeclared = true ∧ m.IsNamed)
    (hdeclared' : x.kind.isDeclared = true ∧ x.IsNamed) : ∃ i q o p, r.LinksCopy D m i q o p := by
  obtain ⟨rfl, hresolves, -⟩ := Program.convert_ok h
  have hlinks := Program.convert_links h
  have hmem := ofFiles_mem_states settings files
  have hid := (states_identified _ hmem).1
  have hplaced := states_placed _ hmem
  have honce : (Draft.ofFiles settings files).atlas.ListsOnce := ofFiles_listsOnce
  generalize (Draft.ofFiles settings files).atlas = a at *
  have hreferring := Atlas.resolves_resolveReferences a
  obtain ⟨q, hq, hclass, hheritage⟩ := hincludes.exists_class hD
  obtain ⟨i, q', details, hi, hq', hparent, hdetails, hcopied⟩ :=
    hincludes.exists_member hm hdeclared.1 hdeclared.2
  obtain rfl : q = q' := Option.some.inj (hq.symm.trans hq')
  obtain ⟨o, p, -, ho, hp, hparent', -, -⟩ :=
    hincludes.exists_member hx hdeclared'.1 hdeclared'.2
  -- The base has a symbol of its own, so it is another entry than the class.
  have hpq : p ≠ q := fun heq => hne (Option.some.inj (hid.eq_of_lookup (heq ▸ hp) hq))
  have hbase : a.HasBase q (some b) :=
    hb ▸ hheritage t ht (List.mem_map.2 ⟨b, hbases, hb.symm⟩)
  have hlinked := hreferring.linksMember hid hplaced hq hclass (hreferring.mem_bases hid hbase hp)
    hpq hi hparent
  -- The member that the copy tells is a member of the base, so it is found as the origin.
  have hfound := hreferring.originOf?_eq hid hdetails (hcopied ▸ horigin ▸ ho) hparent hparent' hpq
  have hcounterparts := hlinked.counterparts_eq (hreferring.listsOnce honce) hlinks
  rw [Atlas.originReference, Atlas.overwrittenReference, hfound] at hcounterparts
  obtain ⟨hfrom, hrest⟩ := Prod.mk.inj hcounterparts
  obtain ⟨hover, -⟩ := Prod.mk.inj hrest
  refine ⟨i, q, o, p, ?_⟩
  exact
    { copy := hresolves.lookup_eq ▸ hi
      owner := hresolves.lookup_eq ▸ hq
      parent := hresolves.parent?_eq.trans hparent
      origin := hresolves.lookup_eq ▸ horigin ▸ ho
      originParent := hresolves.parent?_eq.trans hparent'
      base := hresolves.mem_bases hid hbase hp
      inheritedFrom := by
        rw [Resolved.linksOf, hfrom, Option.map_some, hreferring.memberReference_eq,
          hresolves.memberReference_eq]
      overwrites := hover }

/-- A declaration without origin is not inherited. -/
theorem Program.convert_notInherited (hm : m ∈ standing ds) (horigin : m.origin = none)
    {i : EntryId} (hi : r.atlas.lookup m.symbol = some i) : (r.linksOf i).inheritedFrom = none := by
  obtain ⟨rfl, hresolves, -⟩ := Program.convert_ok h
  have hlinks := Program.convert_links h
  have honce : (Draft.ofFiles settings files).atlas.ListsOnce := ofFiles_listsOnce
  generalize (Draft.ofFiles settings files).atlas = a at *
  have hreferring := Atlas.resolves_resolveReferences a
  obtain ⟨owner, howned⟩ := exists_owner hm
  rw [hresolves.lookup_eq] at hi
  obtain ⟨details, hdetails, hsame⟩ := (hincludes.follows _ howned i hi).origin
  have hnone := hreferring.originOf?_eq_none hdetails (hsame.trans horigin)
  exact Atlas.inheritedFrom_eq_none (hreferring.listsOnce honce) hlinks hnone

end Outcome

/-- Members are inherited before conversion, and linked after it, alike: in the outcome of a program
whose classes got the members of their bases, every copy is inherited from the entry of the member
that it is a copy of, which belongs to a base of the class, and overwrites nothing; what is written
by hand is not inherited. -/
theorem inheritMembers_linked (hsettings : settings.KeepsAll)
    (hmodules : ClassesInModules (files.flatMap (·.decls)))
    (hacyclic : AcyclicClasses (files.flatMap (·.decls)))
    (hnamed : ∀ m ∈ standing (files.flatMap (·.decls)), m.kind.isDeclared → m.IsNamed)
    (hplain : PlainHeritage (files.flatMap (·.decls)))
    (hdistinct : SymbolsDistinct ((inheritMembers files).1.flatMap (·.decls)))
    (h : Program.convert settings (inheritMembers files).1 = .ok (d, r)) :
    ∃ gained, Inherited (files.flatMap (·.decls)) ((inheritMembers files).1.flatMap (·.decls))
        gained ∧
      (∀ D ∈ classSymbols (files.flatMap (·.decls)), ∀ m ∈ gained D,
        ∃ i q o p, r.LinksCopy D m i q o p) ∧
      ∀ m ∈ standing (files.flatMap (·.decls)), m.origin = none →
        ∀ i, r.atlas.lookup m.symbol = some i → (r.linksOf i).inheritedFrom = none := by
  obtain ⟨gained, hfree, hinherited, -⟩ := inheritMembers_gained hmodules.flat hacyclic
  refine ⟨gained, hinherited, ?_⟩
  have hgrown := hinherited.grown
  have hall := hinherited.isNamed hmodules hfree hacyclic hnamed
  generalize (inheritMembers files).1 = files' at *
  generalize files.flatMap (·.decls) = before at *
  -- The program with the copies is followable as the written one is, so its conversion follows it.
  have hincludes : d.atlas.Includes (files'.flatMap (·.decls)) (files'.flatMap (·.decls)) := by
    obtain ⟨rfl, -⟩ := Program.convert_ok h
    exact ofFiles_includes hsettings
      { modules := hgrown ▸ hmodules.grown hfree
        named := fun m hm hclass => named_grown hmodules hfree hnamed (hgrown ▸ hm) hclass
        plain := hgrown ▸ hplain.grown hfree
        distinct := hdistinct }
  generalize files'.flatMap (·.decls) = after at *
  have hsymbols : ∀ {D}, D ∈ classSymbols before → D ∈ classSymbols after := fun hD =>
    hgrown ▸ (mem_classSymbols_grown hfree).2 hD
  refine ⟨fun D hD m hm => ?_, fun m hm horigin i hi => ?_⟩
  -- A copy comes from a member of a base that the class still extends in the grown program.
  · obtain ⟨b, hb, x, hx, hinheritable, rfl⟩ := hinherited.exists_source hD hm
    have hmember : x.inheritedBy D ∈ classMembers after D :=
      hgrown ▸ mem_classMembers_of_gained hmodules.flat hfree hD hm
    have hkind : (x.inheritedBy D).isInheritable = true := by
      simpa only [Decl.isInheritable, Decl.inheritedBy_kind] using hinheritable
    obtain ⟨hne, hbases, t, ht, hsymbol⟩ := mem_classBases hb
    rw [← classHeritage_grown hfree, ← hgrown] at ht
    exact Program.convert_linksCopy h hincludes (hsymbols hD) ht hsymbol (hsymbols hbases) hne
      hmember hx (x.inheritedBy_origin D)
      ⟨Decl.isDeclared_of_isInheritable hkind, hall D hD _ hmember hkind⟩
      ⟨Decl.isDeclared_of_isInheritable hinheritable, hall b hbases x hx hinheritable⟩
  · obtain ⟨g, hg⟩ : ∃ g, m.grow g ∈ standing (grown before gained) :=
      exists_grow_mem_standing hm
    have hg : m.grow g ∈ standing after := hgrown ▸ hg
    rw [Decl.grow_eq] at hg
    exact Program.convert_notInherited h hincludes hg horigin hi

/-- A class that is declared twice and gets members along a chain and from a second base: both
copies are linked, and the member that it declares itself is not. -/
theorem partial_class_linked :
    let base (s : String) : TypeExpr := { form := .reference, name := some s, symbol := some s }
    let method (symbol name : String) : Decl :=
      { kind := .method, name := some name, symbol := some symbol }
    let files : List Source.File :=
      [{ name := "d.ts",
         decls := [{ kind := .class, name := some "D", symbol := some "D", bases := [base "B"],
                     children := [method "D#own" "own"] },
                   { kind := .interface, name := some "D", symbol := some "D",
                     bases := [base "C"] }] },
       { name := "a.ts",
         decls := [{ kind := .class, name := some "B", symbol := some "B", bases := [base "A"] },
                   { kind := .class, name := some "A", symbol := some "A",
                     children := [method "A#m" "m", method "A#own" "own"] },
                   { kind := .class, name := some "C", symbol := some "C",
                     children := [method "C#c" "c"] }] }]
    ∃ (d : Draft) (r : Resolved) (gained : String → List Decl),
      Program.convert {} (inheritMembers files).1 = .ok (d, r) ∧
      (gained "D").map (fun m => (m.symbol, m.origin)) =
        [(some "D#m", some "B#m"), (some "D#c", some "C#c")] ∧
      (∀ m ∈ gained "D", ∃ i q o p, r.LinksCopy "D" m i q o p) ∧
      ∀ i, r.atlas.lookup (some "D#own") = some i → (r.linksOf i).inheritedFrom = none := by
  intro base method files
  have hmodules : ClassesInModules (files.flatMap (·.decls)) := by decide +kernel
  have hacyclic : AcyclicClasses (files.flatMap (·.decls)) :=
    acyclicClasses_of_rank (fun D => if D = "D" then 2 else if D = "B" then 1 else 0)
      (by decide +kernel)
  have hplain : PlainHeritage (files.flatMap (·.decls)) :=
    ⟨by decide +kernel, by decide +kernel, by decide +kernel⟩
  have hok : (Program.convert {} (inheritMembers files).1).toOption.isSome = true := by
    decide +kernel
  cases hconvert : Program.convert {} (inheritMembers files).1 with
  | error e =>
    rw [hconvert] at hok
    cases hok
  | ok made =>
    obtain ⟨d, r⟩ := made
    obtain ⟨gained, hinherited, hcopies, hwritten⟩ :=
      inheritMembers_linked ⟨rfl, rfl, rfl, rfl⟩ hmodules hacyclic (by decide +kernel) hplain
        (by decide +kernel) hconvert
    refine ⟨d, r, gained, rfl, ?_, hcopies "D" (by decide +kernel),
      hwritten (method "D#own" "own") ?_ rfl⟩
    · rw [hinherited.order "D" (by decide +kernel)]
      decide +kernel
    · exact standing_children_subset (subset_standing _ List.mem_cons_self)
        (subset_standing _ List.mem_cons_self)

end ApiAtlas
