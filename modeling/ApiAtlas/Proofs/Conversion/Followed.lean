import ApiAtlas.Proofs.Conversion.Inherits

/-!
# Following a program

An atlas follows a program when each declaration that stands in it and whose symbol is registered
has an entry as it should be: it belongs to the entry of the declaration's owner, knows where the
declaration was copied from, and is a class with its heritage if the declaration is one
(`Atlas.Stands`, `Atlas.Follows`). As distinct entities have distinct symbols, converting a
declaration matters for the entry of its own symbol only.
-/

set_option autoImplicit false

namespace ApiAtlas

open Source

/-! ## Registered symbols -/

namespace Atlas

variable {a b : Atlas} {i : EntryId} {symbol : Option String}

/-- What a symbol leads to is declared for it. -/
theorem Identified.declares_of_lookup (h : a.Identified) (hi : a.lookup symbol = some i) :
    ∃ accessor, a.Declares i symbol accessor := by
  obtain ⟨s, rfl, hs⟩ := lookup_eq_some_iff.1 hi
  obtain ⟨e, he, hn, hsymbol⟩ := h.registered s i hs
  exact ⟨_, e, he, hn, hsymbol, rfl⟩

/-- A symbol leads to what is declared for it. -/
theorem Declares.lookup_eq {accessor : Bool} (h : a.Declares i symbol accessor)
    (ha : a.Identified) : a.lookup symbol = some i := by
  obtain ⟨e, he, hn, rfl, -⟩ := h
  obtain ⟨s, hs, hreg⟩ := ha.named i e he hn
  exact lookup_eq_some_iff.2 ⟨s, hs, hreg⟩

/-- The entry of an owner: that of its symbol, or the project. -/
def home (a : Atlas) : Option String → Option EntryId
  | none => some root
  | some s => a.lookup (some s)

/-- What can get children is no accessor. -/
theorem Declares.eq_false_of_hosts {accessor : Bool} (h : a.Declares i symbol accessor)
    (hi : a.Hosts i) : accessor = false := by
  obtain ⟨e, he, -, -, rfl⟩ := h
  obtain ⟨e', he', -, hk⟩ := hi
  rwa [Option.some.inj (he.symm.trans he')]

/-- The home of a symbol is the entry that it leads to. -/
theorem home_of_lookup (h : a.lookup symbol = some i) : a.home symbol = some i := by
  obtain ⟨s, rfl, -⟩ := lookup_eq_some_iff.1 h
  exact h

/-- What an identified atlas becomes while declarations are converted. -/
structure Evolves (a b : Atlas) : Prop where
  before : a.Identified
  after : b.Identified
  grows : a.Extends b
  details : a.DetailsGrow b

namespace Evolves

variable (h : a.Evolves b)

include h

/-- A symbol stays registered for its entry. -/
theorem lookup_eq (hi : a.lookup symbol = some i) : b.lookup symbol = some i := by
  obtain ⟨_, hdeclares⟩ := h.before.declares_of_lookup hi
  exact (h.grows.declares hdeclares).lookup_eq h.after

/-- An owner keeps its home when the atlas evolves. -/
theorem home_eq {owner : Option String} (hi : a.home owner = some i) : b.home owner = some i := by
  cases owner with
  | none => exact hi
  | some s => exact h.lookup_eq hi

end Evolves

end Atlas

/-- The atlas evolves when what is left aside stays. -/
theorem Draft.Aside.evolves {x y : Draft} {inner : List Decl} {heirs : String → Prop}
    (h : x.Aside inner heirs y) (hx : x.atlas.Identified) : x.atlas.Evolves y.atlas :=
  ⟨hx, h.identified, h.grows, h.details⟩

/-- The atlas evolves when a step runs. -/
theorem Conv.Runs.evolves {α : Type} {c : Conv α} {x : Draft} {A : EntryId → Prop}
    {Q : α → Draft → Prop} (h : c.Runs x A Q) (hx : x.atlas.Identified) :
    x.atlas.Evolves (c.run x).2.atlas :=
  ⟨hx, h.identified hx, h.grows hx, h.details_grow hx⟩

/-! ## Entries of declarations -/

/-- Whether an entry is as it should be for a declaration with its owner. -/
structure Atlas.Stands (a : Atlas) (ds : List Decl) (p : Option String × Decl) (i : EntryId) :
    Prop where
  home : ∃ q, a.parent? i = some q ∧ a.home p.1 = some q
  origin : ∃ details, a.details? i = some details ∧ details.origin = p.2.origin
  isClass : p.2.isClass = true → ∃ k, a.kindAt i = some k ∧ k.isIn Kind.classOrInterface = true
  hosts : p.2.isClass = true ∨ p.2.kind.opensTop = true → a.Hosts i
  inherits : ∀ D, p.2.classSymbol? = some D → a.HasHeritage ds D i

/-- Whether the registered declarations of a program have entries as they should be. -/
def Atlas.Follows (a : Atlas) (ds : List Decl) : Prop :=
  ∀ p ∈ Source.owned ds, ∀ i, a.lookup p.2.symbol = some i → a.Stands ds p i

/-- What stands in a program with distinct symbols carries nothing that is written on a declaration.
-/
theorem Source.Decl.not_carry_written {ds : List Decl} (hdistinct : SymbolsDistinct ds) {d e : Decl}
    (hd : d ∈ standing ds) (he : e ∈ standing ds) {t : String} (ht : e.Carries t) :
    ¬Carry d.written t :=
  fun ⟨m, hm, hmt⟩ => hdistinct.apart d hd m hm e he t hmt ht

namespace Atlas.Stands

variable {a b : Atlas} {ds : List Decl} {p q : Option String × Decl} {i : EntryId}

/-- The declarations of one entity have one entry. -/
theorem of_same (h : a.Stands ds p i) (hsame : SameEntity p q) (hsymbol : q.2.symbol = p.2.symbol) :
    a.Stands ds q i where
  home := hsame.owner ▸ h.home
  origin := hsame.origin ▸ h.origin
  isClass := hsame.isClass ▸ h.isClass
  hosts := hsame.isClass ▸ hsame.opensTop ▸ h.hosts
  inherits D hD := h.inherits D <| by
    rw [Decl.classSymbol?_eq, hsame.isClass, hsymbol] at hD
    exact hD

/-- An entry stays as it should be, as long as classes are left what they are. -/
theorem mono (h : a.Stands ds p i) (hab : a.Evolves b)
    (hclass : p.2.isClass = true → ∃ k, b.kindAt i = some k ∧ k.isIn Kind.classOrInterface = true)
    (hinherits : ∀ D, p.2.classSymbol? = some D → a.HasHeritage ds D i → b.HasHeritage ds D i) :
    b.Stands ds p i where
  home := by
    obtain ⟨q, hparent, hhome⟩ := h.home
    exact ⟨q, (hab.grows.parent?_eq (parent?_lt hparent)).trans hparent, hab.home_eq hhome⟩
  origin := by
    obtain ⟨d, hd, horigin⟩ := h.origin
    obtain ⟨d', hd', hgrows⟩ := hab.details i d hd
    exact ⟨d', hd', hgrows.origin.trans horigin⟩
  isClass := hclass
  hosts hd := hab.grows.hosts (h.hosts hd)
  inherits D hD := hinherits D hD (h.inherits D hD)

/-- What is left aside stays as it should be. -/
theorem aside {x y : Draft} {inner : List Decl} {heirs : String → Prop}
    (h : x.atlas.Stands ds p i) (hx : x.atlas.Identified) (hxy : x.Aside inner heirs y)
    (hi : x.atlas.lookup p.2.symbol = some i)
    (hinner : ∀ t, p.2.Carries t → ¬Carry inner t ∧ ¬heirs t) : y.atlas.Stands ds p i := by
  obtain ⟨s, hs, hreg⟩ := lookup_eq_some_iff.1 hi
  obtain ⟨_, hdeclares⟩ := hx.declares_of_lookup hi
  have hsymbol : x.atlas.symbolOf i = some s := hdeclares.symbolOf.trans hs
  refine h.mono (hxy.evolves hx) (fun hclass => ?_) fun D hD hinherits => ?_
  · rw [hxy.kept.kinds i hdeclares.lt (outside_of_symbolOf hsymbol (hinner s hs).1)]
    exact h.isClass hclass
  · have hD : p.2.symbol = some D := Decl.carries_of_classSymbol? hD
    exact hinherits.aside hxy (hdeclares.symbolOf.trans hD) (hinner D hD).1 (hinner D hD).2

end Atlas.Stands

namespace Atlas.Follows

variable {x y : Draft} {ds inner : List Decl} {heirs : String → Prop} {owner : Option String}
  {d : Decl}

/-- What converting a declaration does to a program that is followed is told by the entry of its
own symbol. -/
theorem step (h : x.atlas.Follows ds) (hdistinct : SymbolsDistinct ds)
    (hp : (owner, d) ∈ Source.owned ds) (hx : x.atlas.Identified) (hxy : x.Aside inner heirs y)
    (hinner : ∀ t, Carry inner t ∨ heirs t →
      (d.kind.isDeclared = true ∧ d.Carries t) ∨ Carry d.written t)
    (hself : d.kind.isDeclared = true → ∀ i, y.atlas.lookup d.symbol = some i →
      y.atlas.Stands ds (owner, d) i) : y.atlas.Follows ds := by
  intro q hq i hi
  obtain ⟨s, hs, hreg⟩ := lookup_eq_some_iff.1 hi
  have hd := mem_standing_of_mem_owned hp
  have hwritten : ¬Carry d.written s :=
    Decl.not_carry_written hdistinct hd (mem_standing_of_mem_owned hq) hs
  by_cases hcarry : Carry inner s ∨ heirs s
  · obtain ⟨hdeclared, hds⟩ := (hinner s hcarry).resolve_right hwritten
    have hds : d.symbol = some s := hds
    exact (hself hdeclared i (hds ▸ hs ▸ hi)).of_same (hdistinct.same _ hp q hq s hds hs)
      (hs.trans hds.symm)
  · have hold : x.atlas.lookup q.2.symbol = some i :=
      lookup_eq_some_iff.2 ⟨s, hs, (hxy.spares.symbols s hcarry).symm.trans hreg⟩
    refine (h q hq i hold).aside hx hxy hold fun t ht => ?_
    obtain rfl : t = s := Option.some.inj (Eq.trans (Eq.symm ht) hs)
    exact not_or.1 hcarry

end Atlas.Follows

/-! ## Declaring -/

namespace Conv

variable {x : Draft} {s : Site} {d : Decl} {ds : List Decl} {owner : Option String} {i : EntryId}
  {kind : Kind} {name : Option String} {flags : Flags}

/-- What has no name or no symbol is not declared. -/
theorem run_declare_unnamed (h : ¬(name.getD "" ≠ "" ∧ d.symbol.isSome = true)) :
    (declare s d kind name).run x = (none, x) := by
  have hnone : ((name.getD "").isEmpty || d.symbol.isNone) = true := by
    by_contra hnot
    simp only [Bool.or_eq_true, String.isEmpty_iff, Option.isNone_iff_eq_none, not_or] at hnot
    exact h ⟨hnot.1, Option.isSome_iff_ne_none.2 hnot.2⟩
  unfold declare
  dsimp only
  rw [run_visiting, if_pos hnone]
  rfl

/-- A named declaration that is wanted is merged into the entry of its symbol, or creates one. -/
theorem run_declare (hname : name.getD "" ≠ "") (hsymbol : d.symbol.isSome = true)
    (hs : x.atlas.Hosts s.scope)
    (hwanted : ∀ k, x.atlas.kindAt s.scope = some k → isWanted s.settings k d = true) :
    ∃ flags, (declare s d kind name).run x =
      match x.atlas.lookup d.symbol with
      | some id => (merge s id d kind flags).run x
      | none => (some <$> create s d (name.getD "") kind flags).run x := by
  have hnone : ((name.getD "").isEmpty || d.symbol.isNone) = false := by
    simp [hname, hsymbol]
  obtain ⟨e, he, hm, -⟩ := hs
  let written := Flags.ofModifiers d.modifiers
  refine ⟨if s.external then written.union (Flags.ofList [.isExternal]) else written, ?_⟩
  have hwant : isWanted s.settings e.kind d = true := hwanted e.kind (by rw [Atlas.kindAt, he]; rfl)
  unfold declare
  dsimp only
  rw [run_visiting, if_neg (by rw [hnone]; exact Bool.false_ne_true), run_ask_bind]
  simp only [he, Option.getD_some, Option.isNone_iff_eq_none, ← Option.not_isSome_iff_eq_none, hm,
    not_true_eq_false, if_false, hwant, Bool.not_true, Bool.false_eq_true, run_ask_bind]
  cases x.atlas.lookup d.symbol <;> rfl

/-- Declaring leaves aside all symbols but its own. -/
theorem declare_aside (hx : x.atlas.Identified) (hs : x.atlas.Hosts s.scope) (hk : kind.IsBasic)
    (hl : kind ≠ .typeLiteral) :
    (declare s d kind name).Runs x (x.atlas.Reach [s.scope] [d]) fun r y =>
      (∀ j ∈ r, y.atlas.Declares j d.symbol (kind.isIn Kind.accessorLike) ∧ KindLike kind y j) ∧
        x.Aside [d] (fun _ => False) y := by
  have hmem := List.mem_singleton_self d
  have hcouples : Couples (.itself s.settings fun t => Carry [d] t ∨ False) [d]
      (declare s d kind name) _ x x _ _ :=
    declare_couples (related_itself s.settings hx) hs (fun t ht => .inl ⟨d, hmem, ht⟩)
      (fun _ _ => rfl) hk hl hmem
  have hruns := (declare_runs hx hs hk hl hmem).aside hx hcouples
  exact ⟨hruns.chain, hcouples.post, hruns.post.2⟩

/-- What is merged goes into the entry of its symbol, unless only one of the two is an accessor. -/
theorem merge_stays {accessor : Bool} (hd : x.atlas.Declares i d.symbol accessor)
    (hk : kind.isIn Kind.accessorLike = accessor) :
    (merge s i d kind flags).Gives x fun r _ => r = some i := by
  obtain ⟨e, he, hn, -, rfl⟩ := hd
  unfold merge
  refine .ask_bind ?_
  simp only [he, Option.getD_some, hn.1, Bool.not_true, Bool.false_eq_true, if_false]
  split
  · split
    · rfl
    · split
      · next hne =>
        rw [hk, bne_self_eq_false] at hne
        cases hne
      · rfl
  · rfl

/-- Merging a declaration leaves the heritage of its entry. -/
theorem merge_heritageAt {accessor : Bool} (hx : x.atlas.Identified)
    (hd : x.atlas.Declares i d.symbol accessor) (hl : kind ≠ .typeLiteral) {D : String}
    (hD : d.symbol = some D) :
    (merge s i d kind flags).Gives x fun _ y => y.atlas.heritageAt i = x.atlas.heritageAt i := by
  have hcouples : Couples (.itself s.settings fun _ => False) [d] (merge s i d kind flags) _ x x _
      _ :=
    merge_couples (related_itself s.settings hx) hd hl (List.mem_singleton_self d)
  exact hcouples.spares.heritage i D (hd.symbolOf.trans hD) not_false

/-- The entry of a new symbol belongs to the scope, has the origin of its declaration and no
heritage yet. -/
theorem create_stands {name symbol : String} (hx : x.atlas.Identified)
    (hs : x.atlas.Hosts s.scope) (hsymbol : d.symbol = some symbol)
    (hfree : x.atlas.symbols.get? symbol = none) (hk : kind.IsBasic) (hl : kind ≠ .typeLiteral) :
    (create s d name kind flags).Gives x fun j y => y.atlas.parent? j = some s.scope ∧
      (∃ details, y.atlas.details? j = some details ∧ details.origin = d.origin) ∧
        y.atlas.heritageAt j = some ([], []) := by
  let e : Entry :=
    { name := name, kind := kind, flags := flags, comment := d.comment,
      body := .declaration {} { symbol := some symbol, origin := d.origin } }
  let z : Draft := { x with atlas := (x.atlas.enter s.scope e (some symbol)).1 }
  have hedit : Edit s.scope x z := .enter e _ symbol rfl rfl hfree hl hs hk
  have hz := hedit.identified hx
  have hnew : z.atlas.get? x.atlas.size = some { e with parent := some s.scope } := by
    rw [Atlas.get?_enter e (some symbol) hs.lt (hx.size_notMem_childrenOf _), if_pos rfl]
  have hroot : x.atlas.size ≠ Atlas.root := Nat.ne_of_gt hx.zero_lt_size
  have hnote : (noteSource s x.atlas.size d).Runs z (fun _ => True) fun _ y =>
      True ∧ z.Aside [] (fun _ => False) y :=
    (noteSource_runs trivial).aside hz (noteSource_couples (related_itself s.settings hz) hroot)
  obtain ⟨-, hzy⟩ := hnote.post
  obtain ⟨details, hdetails, hgrows⟩ := hzy.details x.atlas.size
    { symbol := some symbol, origin := d.origin } (by rw [Atlas.details?, hnew]; rfl)
  have hsymbolOf : z.atlas.symbolOf x.atlas.size = some symbol := by
    rw [Atlas.symbolOf_eq hnew]
    rfl
  have hrun : (create s d name kind flags).run x =
      (x.atlas.size, ((noteSource s x.atlas.size d).run z).2) := by
    unfold create
    rw [hsymbol]
    rfl
  unfold Conv.Gives
  rw [hrun]
  refine ⟨?_, ⟨details, hdetails, hgrows.origin⟩, ?_⟩
  · rw [hzy.grows.parent?_eq (Atlas.get?_lt hnew), Atlas.parent?_eq hnew]
  · rw [hzy.spares.heritage _ symbol hsymbolOf (not_or.2 ⟨not_carry_nil _, not_false⟩),
      Atlas.heritageAt, hnew]
    rfl

/-- Once a declaration is declared, the program is still followed. If the declaration has a name
and a symbol, the symbol is registered; a class, a module or a namespace then gets that entry. -/
theorem declare_follows (hdistinct : SymbolsDistinct ds) (hp : (owner, d) ∈ owned ds)
    (hx : x.atlas.Identified) (hs : x.atlas.Hosts s.scope)
    (hhome : x.atlas.home owner = some s.scope) (h : x.atlas.Follows ds)
    (hwanted : ∀ k, isWanted s.settings k d = true) (hk : kind.IsBasic) (hl : kind ≠ .typeLiteral)
    (hdeclared : d.kind.isDeclared = true)
    (hclass : d.isClass = true → kind.isIn Kind.classOrInterface = true)
    (hacc : d.isClass = true ∨ d.kind.opensTop = true → kind.isIn Kind.accessorLike = false) :
    (declare s d kind name).Gives x fun r y => y.atlas.Follows ds ∧
      (name.getD "" ≠ "" → d.symbol.isSome = true → ∃ i, y.atlas.lookup d.symbol = some i ∧
        (d.isClass = true ∨ d.kind.opensTop = true → r = some i)) := by
  by_cases hnamed : name.getD "" ≠ "" ∧ d.symbol.isSome = true
  swap
  · unfold Conv.Gives
    rw [run_declare_unnamed hnamed]
    exact ⟨h, fun hname hsymbol => absurd ⟨hname, hsymbol⟩ hnamed⟩
  obtain ⟨symbol, hsymbol⟩ := Option.isSome_iff_exists.1 hnamed.2
  have haside : (declare s d kind name).Runs x _ _ := declare_aside hx hs hk hl
  have hrun : ∃ flags, (declare s d kind name).run x = _ :=
    run_declare hnamed.1 hnamed.2 hs fun k _ => hwanted k
  obtain ⟨hdeclares, hxy⟩ := haside.post
  obtain ⟨flags, hrun⟩ := hrun
  unfold Conv.Gives
  generalize (declare s d kind name).run x = result at hdeclares hxy hrun ⊢
  obtain ⟨r, y⟩ := result
  -- It is enough to know the entry of the symbol.
  suffices hself : ∃ i, y.atlas.lookup d.symbol = some i ∧ y.atlas.Stands ds (owner, d) i ∧
      (d.isClass = true ∨ d.kind.opensTop = true → r = some i) by
    obtain ⟨i, hi, hstands, hsome⟩ := hself
    refine ⟨h.step hdistinct hp hx hxy (fun t ht => .inl ⟨hdeclared, ?_⟩) fun _ j hj => ?_,
      fun _ _ => ⟨i, hi, hsome⟩⟩
    · obtain ⟨e, he, het⟩ := ht.resolve_right id
      exact List.mem_singleton.1 he ▸ het
    · exact Option.some.inj (hi.symm.trans hj) ▸ hstands
  have classKind : ∀ i, r = some i → d.isClass = true →
      ∃ k, y.atlas.kindAt i = some k ∧ k.isIn Kind.classOrInterface = true := by
    intro i hi hc
    obtain ⟨k, hk, -, hresembles⟩ := (hdeclares i hi).2
    exact ⟨k, hk, hresembles.trans (hclass hc)⟩
  cases hlookup : x.atlas.lookup d.symbol with
  | some i =>
    rw [hlookup] at hrun
    obtain ⟨accessor, hi⟩ := hx.declares_of_lookup hlookup
    have hold := h _ hp i hlookup
    have hsome : d.isClass = true ∨ d.kind.opensTop = true → r = some i := by
      intro hc
      have hmerge : (merge s i d kind flags).Gives x fun r _ => r = some i :=
        merge_stays hi ((hacc hc).trans (hi.eq_false_of_hosts (hold.hosts hc)).symm)
      exact (congrArg Prod.fst hrun).trans hmerge
    have hevolves := hxy.evolves hx
    refine ⟨i, hevolves.lookup_eq hlookup, ?_, hsome⟩
    refine hold.mono hevolves (fun hc => classKind i (hsome (.inl hc)) hc)
      fun D hD hinherits => hinherits.mono hxy.grows ?_
    have hheritage : (merge s i d kind flags).Gives x fun _ y =>
        y.atlas.heritageAt i = x.atlas.heritageAt i :=
      merge_heritageAt hx hi hl (Decl.carries_of_classSymbol? hD)
    have hy : y = ((merge s i d kind flags).run x).2 := congrArg Prod.snd hrun
    exact hy ▸ hheritage
  | none =>
    rw [hlookup] at hrun
    have hfree : x.atlas.symbols.get? symbol = none := by
      simpa [Atlas.lookup, hsymbol] using hlookup
    have hr : r = some ((create s d (name.getD "") kind flags).run x).1 := congrArg Prod.fst hrun
    have hy : y = ((create s d (name.getD "") kind flags).run x).2 := congrArg Prod.snd hrun
    have hcreate : (create s d (name.getD "") kind flags).Gives x _ :=
      create_stands hx hs hsymbol hfree hk hl
    obtain ⟨hparent, horigin, hheritage⟩ := hcreate
    rw [← hy] at hparent horigin hheritage
    generalize ((create s d (name.getD "") kind flags).run x).1 = j at *
    obtain ⟨hj, -⟩ := hdeclares j hr
    refine ⟨j, hj.lookup_eq hxy.identified, ?_, fun _ => hr⟩
    exact
      { home := ⟨s.scope, hparent, (hxy.evolves hx).home_eq hhome⟩
        origin := horigin
        isClass := classKind j hr
        hosts := fun hc => (hacc hc ▸ hj).hosts
        inherits := fun D hD => ⟨[], [], hheritage, List.forall_mem_nil _, List.forall_mem_nil _⟩ }

end Conv

end ApiAtlas
