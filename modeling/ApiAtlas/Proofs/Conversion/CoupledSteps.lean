import ApiAtlas.Proofs.Conversion.Coupling

/-!
# Coupled steps of conversion

Each step of conversion couples with the same step for what is left of a declaration. Declaring
couples as long as the settings of the two conversions want the same in the container, and does
nothing for a declaration that is dropped.
-/

set_option autoImplicit false

namespace ApiAtlas.Conv

open Source (Decl)

variable {K : Coupling} {x y : Draft} {s : Site} {d : Decl} {i : EntryId} {ds : List Decl}

/-! ## Declaring -/

/-- Dropping what stands in a declaration leaves what is reported of its symbol. -/
theorem symbolDetail_strip (drop : Bool → Decl → Bool) (d : Decl) :
    symbolDetail (d.strip drop) = symbolDetail d := by
  rw [symbolDetail, symbolDetail, Decl.strip_symbol]

/-- Noting where a declaration is written couples. -/
theorem noteSource_couples (h : K.Related x y) (hi : i ≠ Atlas.root) :
    Couples K ds (noteSource (K.left s) i d) (noteSource (K.right s) (K.rename i) (d.strip K.drop))
      x y id fun _ _ => True := by
  unfold noteSource
  simp only [Decl.strip_file, Decl.strip_line]
  dsimp only [Coupling.left, Coupling.right]
  split
  · split
    · exact .pure h rfl trivial
    · refine .changeDetails h hi (fun d => ?_) (fun d => ?_) (fun d => ?_) fun _ => trivial
      · split
        · next hc => rw [if_pos (show (d.rename K.rename).sources.contains _ = true from hc)]
        · next hc => rw [if_neg (show ¬(d.rename K.rename).sources.contains _ = true from hc)]; rfl
      · split <;> rfl
      · split <;> exact ⟨rfl, rfl⟩
  · exact .pure h rfl trivial

/-- Merging does not change the kind of the entry. -/
theorem mergeInto_couples (h : K.Related x y) (hd : x.atlas.isDeclaration i = true)
    {flags : Flags} :
    Couples K ds (mergeInto (K.left s) i d flags)
      (mergeInto (K.right s) (K.rename i) (d.strip K.drop) flags) x y id
      fun _ z => z.atlas.kindAt i = x.atlas.kindAt i := by
  have hi := (K.identified h).ne_root hd
  have hmerge : Couples K [] (mergeInto (K.left s) i d flags)
      (mergeInto (K.right s) (K.rename i) (d.strip K.drop) flags) x y id fun _ _ => True := by
    unfold mergeInto
    rw [Decl.strip_comment]
    refine .bind (.changeEntry (U := fun _ _ => True) h hi (fun e => rfl) (fun e _ => ?_)
      (Or.inl fun e => rfl) (Or.inl fun e _ => rfl) fun _ _ => trivial) ?_
    · exact ⟨⟨rfl, rfl, rfl, rfl, fun _ => rfl, rfl, Iff.rfl⟩, rfl⟩
    · intro _ z w _ hrel _
      exact noteSource_couples hrel hi
  exact hmerge.sameKind (Atlas.lt_of_isDeclaration hd)

/-- Whether two kinds agree on whether what they hold stands at the top, and on being a class or an
interface. -/
def Resembles (k k' : Kind) : Prop :=
  k.isIn Kind.topKinds = k'.isIn Kind.topKinds ∧
    k.isIn Kind.classOrInterface = k'.isIn Kind.classOrInterface

instance (k k' : Kind) : Decidable (Resembles k k') :=
  inferInstanceAs (Decidable (_ ∧ _))

/-- Whether an entry is of a kind that resembles another one. -/
def KindLike (kind : Kind) (z : Draft) (i : EntryId) : Prop :=
  ∃ k, z.atlas.kindAt i = some k ∧ Resembles k kind

/-- What two kinds silently merge into resembles the one that comes later. -/
theorem commonKind?_resembles {k k' common : Kind} (h : commonKind? k k' = some common) :
    Resembles common k' := by
  unfold commonKind? at h
  split at h
  · next hk => rcases hk with ⟨rfl, rfl⟩ | ⟨rfl, rfl⟩ <;> cases h <;> decide
  · split at h
    · next hk => rcases hk with ⟨rfl, rfl⟩ | ⟨rfl, rfl⟩ <;> cases h <;> decide
    · split at h
      · next hk => rcases hk with ⟨rfl, rfl⟩ | ⟨rfl, rfl⟩ <;> cases h <;> decide
      · cases h

/-- What a declaration brings is added on both sides, and leaves the kind of the entry. -/
theorem merged_couples {kind : Kind} {flags : Flags} (h : K.Related x y)
    (hd : x.atlas.isDeclaration i = true) (hlike : KindLike kind x i) :
    Couples K ds (do mergeInto (K.left s) i d flags; return some i : Conv (Option EntryId))
      (do mergeInto (K.right s) (K.rename i) (d.strip K.drop) flags; return some (K.rename i))
      x y (Option.map K.rename) fun r z => ∀ j ∈ r, KindLike kind z j := by
  refine .bind (mergeInto_couples h hd) fun _ _ _ hkind hrel _ => .pure hrel rfl ?_
  rintro j ⟨⟩
  obtain ⟨k, hk, hresembles⟩ := hlike
  exact ⟨k, hkind.trans hk, hresembles⟩

/-- A declared entry gets another kind on both sides, before more is merged into it. -/
theorem recast_couples {k kind : Kind} {flags : Flags} {e : Entry} (h : K.Related x y)
    (he : x.atlas.get? i = some e) (hn : e.IsNamed) (hinside : ¬x.atlas.Outside i ds)
    (hl : k ≠ .typeLiteral) (hacc : k.isIn Kind.accessorLike = e.kind.isIn Kind.accessorLike)
    (hlike : Resembles k kind) :
    Couples K ds
      (do
        changeEntry i fun e => { e with kind := k }
        mergeInto (K.left s) i d flags
        return some i : Conv (Option EntryId))
      (do
        changeEntry (K.rename i) fun e => { e with kind := k }
        mergeInto (K.right s) (K.rename i) (d.strip K.drop) flags
        return some (K.rename i))
      x y (Option.map K.rename) fun r z => ∀ j ∈ r, KindLike kind z j := by
  have hroot : i ≠ Atlas.root := (K.identified h).ne_root ((Atlas.isDeclaration_eq he).trans hn.1)
  refine .bind (.changeEntry
    (U := fun _ v => v.atlas = x.atlas.modify i fun e => { e with kind := k }) h hroot
    (fun e => rfl) (fun e' he' => ?_) (Or.inr hinside) (Or.inl fun e' _ => rfl)
    fun _ h => h) fun _ v _ hv hrel _ => ?_
  · rw [he, Option.some.injEq] at he'
    subst he'
    exact ⟨⟨rfl, rfl, rfl, rfl, fun hd => absurd (hn.1.symm.trans hd) Bool.noConfusion, hacc,
      fun h => absurd h hl, fun h => absurd h hn.2⟩, rfl⟩
  · have hget : v.atlas.get? i = some { e with kind := k } := by
      rw [hv, Atlas.get?_modify_self _ he]
    exact merged_couples hrel ((Atlas.isDeclaration_eq hget).trans hn.1)
      ⟨k, by rw [Atlas.kindAt, hget]; rfl, hlike⟩

/-- Merging a declaration into its entry couples, and the entry is then of a kind like the
declaration's. -/
theorem merge_couples {kind : Kind} {flags : Flags} {accessor : Bool} (h : K.Related x y)
    (hd : x.atlas.Declares i d.symbol accessor) (hl : kind ≠ .typeLiteral) (hmem : d ∈ ds) :
    Couples K ds (merge (K.left s) i d kind flags)
      (merge (K.right s) (K.rename i) (d.strip K.drop) kind flags) x y (Option.map K.rename)
      fun r z => ∀ j ∈ r, KindLike kind z j := by
  have hx := K.identified h
  have hroot := hx.ne_root hd.isDeclaration
  obtain ⟨e, he, hn, hs, ha⟩ := hd
  obtain ⟨symbol, hsymbol, -⟩ := hx.named i e he hn
  have hinside : ∀ z : Draft, x.atlas.Extends z.atlas → ¬z.atlas.Outside i ds := by
    intro z hxz hout
    refine hout d hmem symbol (hs.symm.trans hsymbol) ?_
    rw [hxz.symbolOf_eq (Atlas.get?_lt he), Atlas.symbolOf_eq he, hsymbol]
  obtain ⟨e', he', halike⟩ := Coupling.exists_alike h he
  have hn' : e'.isDeclaration = true := by
    rw [Entry.isDeclaration, halike.details, Option.isSome_map]
    exact hn.1
  unfold merge
  refine .ask_bind ?_
  simp only [he, he', Option.getD_some, hn.1, hn', Bool.not_true, Bool.false_eq_true, if_false,
    halike.kind, halike.name, symbolDetail_strip]
  split
  · split
    · next common hcommon =>
      obtain ⟨hcl, hce, -⟩ := commonKind?_spec hcommon
      exact recast_couples h he hn (hinside x (.refl _)) hcl hce (commonKind?_resembles hcommon)
    · split
      · refine .bind (.report (U := fun _ _ => True) h fun _ _ => trivial) ?_
        intro _ z w _ hrel _
        exact .pure hrel rfl fun j hj => absurd hj (Option.not_mem_none j)
      · next hacc =>
        have hkk : e.kind.isIn Kind.accessorLike = kind.isIn Kind.accessorLike := by
          simpa using hacc
        refine .bind (.report (U := fun _ z => z.atlas = x.atlas) h fun _ h => h)
          fun _ z _ hz hrel hkept => ?_
        exact recast_couples hrel (by rw [hz, he]) hn (hinside z hkept.grows) hl hkk.symm ⟨rfl, rfl⟩
  · next hkind =>
    obtain rfl : e.kind = kind := by simpa using hkind
    exact merged_couples h ((Atlas.isDeclaration_eq he).trans hn.1)
      ⟨e.kind, by rw [Atlas.kindAt, he]; rfl, rfl, rfl⟩

/-- Entering a declaration under a symbol that is new. -/
theorem enter_couples {e : Entry} {d : Details} {symbol : String} (h : K.Related x y)
    (hs : x.atlas.Hosts s.scope) (hb : e.body = .declaration {} d)
    (hd : d = { symbol := some symbol, origin := d.origin })
    (hfree : x.atlas.symbols.get? symbol = none) (hc : K.Carried symbol)
    (hl : e.kind ≠ .typeLiteral) (hp : e.parent = none) :
    Couples K ds (enter s.scope e (some symbol)) (enter (K.rename s.scope) e (some symbol)) x y
      K.rename fun j z => j = x.atlas.size ∧ j < z.atlas.size ∧ z.atlas.kindAt j = some e.kind := by
  have hx := K.identified h
  have hrename : e.rename K.rename = e := by
    obtain ⟨name, kind, flags, comment, parent, body⟩ := e
    obtain rfl : body = .declaration {} d := hb
    obtain rfl : parent = none := hp
    rw [hd]
    rfl
  have hget := Atlas.get?_enter e (some symbol) hs.lt (hx.size_notMem_childrenOf _)
  have hrel := K.enter h hb hd hl hfree hc hs
  rw [hrename] at hrel
  refine ⟨K.fresh h, hrel, ⟨Atlas.extends_enter hx e symbol hs.lt, fun j hj _ => ?_⟩,
    .enter hx hs.lt hc, rfl, ?_, ?_⟩
  · change ((x.atlas.enter s.scope e (some symbol)).1.get? j).map _ = _
    rw [hget, if_neg (Nat.ne_of_lt hj)]
    obtain ⟨e', he'⟩ := Atlas.exists_get? hj
    split
    · rw [Atlas.kindAt, he', Option.map_some, Option.map_some, Option.map_some]
      obtain ⟨name, kind, flags, comment, parent, body⟩ := e'
      cases body <;> rfl
    · rfl
  · change x.atlas.size < (x.atlas.enter s.scope e (some symbol)).1.size
    rw [Atlas.size_enter]
    exact Nat.lt_succ_self _
  · change ((x.atlas.enter s.scope e (some symbol)).1.get? x.atlas.size).map _ = _
    rw [hget, if_pos rfl]
    rfl

/-- Creating the entry of a declaration couples, and the entry is of a kind like the declaration's.
-/
theorem create_couples {kind : Kind} {flags : Flags} {name symbol : String} (h : K.Related x y)
    (hs : x.atlas.Hosts s.scope) (hsym : d.symbol = some symbol)
    (hfree : x.atlas.symbols.get? symbol = none) (hc : K.Carried symbol)
    (hl : kind ≠ .typeLiteral) :
    Couples K ds (create (K.left s) d name kind flags)
      (create (K.right s) (d.strip K.drop) name kind flags) x y K.rename
      fun j z => KindLike kind z j := by
  have hx := K.identified h
  have hroot : x.atlas.size ≠ Atlas.root := Nat.ne_of_gt hx.zero_lt_size
  unfold create
  simp only [Decl.strip_symbol, Decl.strip_origin, Decl.strip_comment, hsym]
  refine .bind (enter_couples h hs rfl rfl hfree hc hl rfl) fun j z w hj hzw _ => ?_
  obtain ⟨rfl, hlt, hkind⟩ := hj
  have hnote : Couples K [] (noteSource (K.left s) x.atlas.size d)
      (noteSource (K.right s) (K.rename x.atlas.size) (d.strip K.drop)) z w id fun _ _ => True :=
    noteSource_couples hzw hroot
  exact .bind (hnote.sameKind hlt) fun _ _ _ hv hrel _ =>
    .pure hrel rfl ⟨kind, hv.trans hkind, rfl, rfl⟩

/-- Dropping what stands in a declaration leaves whether it is wanted. -/
theorem isWanted_strip (settings : Settings) (k : Kind) (d : Decl) (drop : Bool → Decl → Bool) :
    isWanted settings k (d.strip drop) = isWanted settings k d := by
  rw [isWanted, isWanted, Decl.strip_modifiers]

/-- Declaring couples when both conversions want the declaration, or neither does. -/
theorem declare_couples {kind : Kind} {name : Option String} (h : K.Related x y)
    (hs : x.atlas.Hosts s.scope) (hc : ∀ symbol, d.Carries symbol → K.Carried symbol)
    (hwanted : ∀ k, x.atlas.kindAt s.scope = some k →
      isWanted K.after k d = isWanted K.before k d)
    (hk : kind.IsBasic) (hl : kind ≠ .typeLiteral) (hmem : d ∈ ds) :
    Couples K ds (declare (K.left s) d kind name) (declare (K.right s) (d.strip K.drop) kind name)
      x y (Option.map K.rename) fun r z => ∀ j ∈ r,
        z.atlas.Declares j d.symbol (kind.isIn Kind.accessorLike) ∧ KindLike kind z j := by
  have hx := K.identified h
  -- That the entry is declared for the symbol is known of each conversion by itself.
  suffices hcouples : Couples K ds (declare (K.left s) d kind name)
      (declare (K.right s) (d.strip K.drop) kind name) x y (Option.map K.rename)
      fun r z => ∀ j ∈ r, KindLike kind z j by
    have hruns : (declare (K.left s) d kind name).Runs x _ _ := declare_runs hx hs hk hl hmem
    exact ⟨hcouples.value, hcouples.related, hcouples.kept, hcouples.spares,
      fun j hj => ⟨hruns.post j hj, hcouples.post j hj⟩⟩
  unfold declare
  dsimp only
  refine .visiting ?_
  rw [Decl.strip_symbol, Decl.strip_modifiers]
  split
  · exact .pure h rfl nofun
  next hnamed =>
  obtain ⟨symbol, hsym⟩ : ∃ symbol, d.symbol = some symbol := by
    rw [← Option.ne_none_iff_exists']
    simp only [Bool.or_eq_true, Option.isNone_iff_eq_none, not_or] at hnamed
    exact hnamed.2
  refine .ask_bind ?_
  -- Both scopes are there and of one kind, so the declaration is wanted in both or in none.
  obtain ⟨e, he, hm, hke⟩ := id hs
  obtain ⟨e', he', halike⟩ := Coupling.exists_alike h he
  have hm' : e'.members?.isSome = true := halike.members.trans hm
  have hwant : isWanted K.after e'.kind (d.strip K.drop) = isWanted K.before e.kind d := by
    rw [halike.kind, isWanted_strip]
    exact hwanted e.kind (by rw [Atlas.kindAt, he]; rfl)
  dsimp only [Coupling.left, Coupling.right]
  simp only [he, he', Option.getD_some, Option.isNone_iff_eq_none, ← Option.not_isSome_iff_eq_none,
    hm, hm', not_true_eq_false, if_false, hwant]
  split
  · exact .pure h rfl nofun
  refine .ask_bind ?_
  -- The symbol leads to corresponding entries, or is free on both sides.
  have hlookup : y.atlas.lookup d.symbol = (x.atlas.lookup d.symbol).map K.rename := by
    rw [hsym]
    exact K.lookup h (hc symbol hsym)
  rw [hlookup]
  cases hid : x.atlas.lookup d.symbol with
  | some j =>
    obtain ⟨s', hs', hreg⟩ := Atlas.lookup_eq_some_iff.1 hid
    obtain ⟨e', he', hn', hsym'⟩ := hx.registered s' j hreg
    have hdecl : x.atlas.Declares j d.symbol (e'.kind.isIn Kind.accessorLike) :=
      ⟨e', he', hn', hsym'.trans hs'.symm, rfl⟩
    exact merge_couples h hdecl hl hmem
  | none =>
    have hfree : x.atlas.symbols.get? symbol = none := by
      simpa [Atlas.lookup, hsym] using hid
    refine .bind (create_couples h hs hsym hfree (hc symbol hsym) hl)
      fun j z w hlike hrel _ => .pure hrel rfl ?_
    rintro i ⟨⟩
    exact hlike

/-- Two steps in turn are run one after the other. -/
theorem run_bind {α β : Type} (c : Conv α) (k : α → Conv β) (x : Draft) :
    (c >>= k).run x = (k (c.run x).1).run (c.run x).2 := rfl

/-- A question is answered from the atlas, and the draft stays as it is. -/
theorem run_ask_bind {α β : Type} (f : Atlas → α) (k : α → Conv β) (x : Draft) :
    (ask f >>= k).run x = (k (f x.atlas)).run x := rfl

/-- What the settings do not want is not declared. -/
theorem declare_unwanted {settings : Settings} {kind : Kind} {name : Option String}
    (hs : x.atlas.Hosts s.scope) (hset : s.settings = settings)
    (hunwanted : ∀ k, x.atlas.kindAt s.scope = some k → isWanted settings k d = false) :
    (declare s d kind name).run x = (none, x) := by
  obtain ⟨e, he, hm, hke⟩ := hs
  have hwant : isWanted s.settings e.kind d = false :=
    hset ▸ hunwanted e.kind (by rw [Atlas.kindAt, he]; rfl)
  unfold declare
  dsimp only
  rw [run_visiting]
  split
  · rfl
  · rw [run_ask_bind]
    simp only [he, Option.getD_some, Option.isNone_iff_eq_none, ← Option.not_isSome_iff_eq_none,
      hm, not_true_eq_false, if_false, hwant, Bool.not_false, if_true]
    rfl

/-- Declaring and filling, where the filling may rely on an entry of the symbol. -/
theorem declareAnd_couples {kind : Kind} {name : Option String} {fill fill' : EntryId → Conv Unit}
    (h : K.Related x y) (hs : x.atlas.Hosts s.scope)
    (hc : ∀ symbol, d.Carries symbol → K.Carried symbol)
    (hwanted : ∀ k, x.atlas.kindAt s.scope = some k →
      isWanted K.after k d = isWanted K.before k d)
    (hk : kind.IsBasic) (hl : kind ≠ .typeLiteral) (hmem : d ∈ ds)
    (hfill : ∀ j z w, K.Related z w →
      z.atlas.Declares j d.symbol (kind.isIn Kind.accessorLike) → KindLike kind z j →
      Couples K ds (fill j) (fill' (K.rename j)) z w id fun _ _ => True) :
    Couples K ds (declareAnd (K.left s) d kind name fill)
      (declareAnd (K.right s) (d.strip K.drop) kind name fill') x y (Option.map K.rename)
      fun _ _ => True := by
  refine .bind (declare_couples h hs hc hwanted hk hl hmem) fun r z w hr hrel _ => ?_
  cases r with
  | none => exact .pure hrel rfl trivial
  | some j =>
    obtain ⟨hdeclares, hlike⟩ := hr j rfl
    exact .then_pure (hfill j z w hrel hdeclares hlike) rfl

/-- Declaring what is not wanted does nothing. -/
theorem declareAnd_unwanted {settings : Settings} {kind : Kind} {name : Option String}
    {fill : EntryId → Conv Unit} (hs : x.atlas.Hosts s.scope) (hset : s.settings = settings)
    (hunwanted : ∀ k, x.atlas.kindAt s.scope = some k → isWanted settings k d = false) :
    (declareAnd s d kind name fill).run x = (none, x) := by
  rw [declareAnd, run_bind, declare_unwanted hs hset hunwanted]
  rfl

/-! ## Parts -/

variable {owner : EntryId}

/-- Opening a signature couples, and its entry is the next one. -/
theorem openSignature_couples {name : String} {kind : Kind} {comment : Option Comment}
    {flags : Flags} (h : K.Related x y) (hs : s.scope < x.atlas.size)
    (hk : kind ∈ Kind.someSignature) :
    Couples K ds (openSignature (K.left s) name kind comment flags)
      (openSignature (K.right s) name kind comment flags) x y K.rename
      fun j z => j = x.atlas.size ∧ j < z.atlas.size ∧ z.atlas.isDeclaration j = false := by
  refine .weaken (.addEntry h rfl hs ?_ rfl) fun j z hj => ⟨hj.1, Atlas.get?_lt hj.2, ?_⟩
  · exact ⟨rfl, hk⟩
  · exact (Atlas.isDeclaration_eq hj.2).trans rfl

/-- Opening a parameter couples if both are written alike but for their types. -/
theorem openParameter_couples {p p' : Source.Param} {comment : Option Comment}
    (h : K.Related x y) (hs : s.scope < x.atlas.size) (hname : p'.name = p.name)
    (homit : mayBeOmitted p' = mayBeOmitted p) (hrest : p'.rest = p.rest)
    (hdefault : p'.defaultValue = p.defaultValue) :
    Couples K ds (openParameter (K.left s) p comment) (openParameter (K.right s) p' comment) x y
      K.rename fun j z => j = x.atlas.size ∧ z.atlas.IsParameter j := by
  refine .weaken (.addEntry h rfl hs ?_ ?_) fun _ _ hj => ⟨hj.1, _, _, _, hj.2, rfl⟩
  · rfl
  · rw [hname, paramFlags, homit, hrest, hdefault]
    rfl

/-- Opening an inline declaration couples, and its entry is the next one. -/
theorem openLiteral_couples (h : K.Related x y) (hs : s.scope < x.atlas.size) :
    Couples K ds (openLiteral (K.left s)) (openLiteral (K.right s)) x y K.rename
      fun j z => j = x.atlas.size ∧ z.atlas.Hosts j ∧ z.atlas.kindAt j = some .typeLiteral ∧
        z.atlas.symbolOf j = none := by
  refine .weaken (.addEntry h rfl hs ?_ rfl) fun j z hj => ⟨hj.1, ?_, ?_, ?_⟩
  · exact ⟨rfl, rfl, rfl⟩
  · exact ⟨_, hj.2, rfl, show Kind.typeLiteral.isIn Kind.accessorLike = false by decide⟩
  · rw [Atlas.kindAt, hj.2]
    rfl
  · rw [Atlas.symbolOf_eq hj.2]
    rfl

/-- A type parameter is opened for an entry that is no declaration, or one whose symbol may be
declared. -/
theorem openTypeParameter_couples {name : String} (h : K.Related x y)
    (ho : owner < x.atlas.size) (hroot : owner ≠ Atlas.root)
    (howner : x.atlas.isDeclaration owner = false ∨
      ∀ s, x.atlas.symbolOf owner = some s → K.Carried s) :
    Couples K ds (openTypeParameter owner name) (openTypeParameter (K.rename owner) name) x y
      K.rename fun j z => j = x.atlas.size ∧ z.atlas.IsTypeParameter j := by
  refine .bind (.addEntry h rfl ho ?_ rfl) fun j z w hj hrel hxz => ?_
  · exact ⟨rfl, rfl⟩
  have hpar : z.atlas.IsTypeParameter j := ⟨_, _, _, hj.2, rfl⟩
  refine .bind (.changeEntry (U := fun _ _ => True) hrel hroot ?hf ?hkeeps (.inl ?hkind)
    ?hheritage fun _ _ => trivial) ?next
  case next =>
    intro _ z' w' _ hrel hkept
    exact .pure hrel rfl ⟨hj.1, hkept.grows.isTypeParameter hpar⟩
  case hf => exact fun e => e.rename_addTypeParameter K.rename j
  case hkeeps =>
    rintro ⟨name, kind, flags, comment, parent, body⟩ -
    cases body <;> exact ⟨Entry.keeps_body rfl rfl, rfl⟩
  case hkind =>
    rintro ⟨name, kind, flags, comment, parent, body⟩
    cases body <;> rfl
  case hheritage =>
    refine howner.imp (fun hnone e he => ?_)
      fun hcarried s hs => hcarried s ((hxz.grows.symbolOf_eq ho).symm.trans hs)
    rw [← hxz.grows.isDeclaration_eq ho, Atlas.isDeclaration_eq he] at hnone
    rw [e.heritage_addTypeParameter, Entry.heritage_eq_none hnone]
    rfl

/-- Filling a parameter couples: it holds nothing but its type. -/
theorem fillParameter_couples {i : EntryId} {t : Option Ty} {v : Option String}
    (h : K.Related x y) (hroot : i ≠ Atlas.root) (hi : x.atlas.IsParameter i) :
    Couples K ds (changeEntry i fun e => { e with body := .parameter t v })
      (changeEntry (K.rename i) fun e =>
        { e with body := .parameter (t.map (Ty.rename K.rename)) v }) x y id fun _ _ => True := by
  obtain ⟨⟨name, kind, flags, comment, parent, body⟩, t', v', he, rfl⟩ := hi
  refine .changeEntry h hroot (fun _ => rfl) (fun e he' => ?_) (.inl fun _ => rfl)
    (.inl fun e he' => ?_) fun _ _ => trivial
  · obtain rfl := Option.some.inj (he.symm.trans he')
    exact ⟨Entry.keeps_body rfl rfl, rfl⟩
  · obtain rfl := Option.some.inj (he.symm.trans he')
    rfl

/-- Filling a type parameter couples: it holds nothing but its constraint and its default. -/
theorem fillTypeParameter_couples {i : EntryId} {l t : Option Ty} (h : K.Related x y)
    (hroot : i ≠ Atlas.root) (hi : x.atlas.IsTypeParameter i) :
    Couples K ds (changeEntry i fun e => { e with body := .typeParameter l t })
      (changeEntry (K.rename i) fun e =>
        { e with
            body := .typeParameter (l.map (Ty.rename K.rename)) (t.map (Ty.rename K.rename)) })
      x y id fun _ _ => True := by
  obtain ⟨⟨name, kind, flags, comment, parent, body⟩, l', t', he, rfl⟩ := hi
  refine .changeEntry h hroot (fun _ => rfl) (fun e he' => ?_) (.inl fun _ => rfl)
    (.inl fun e he' => ?_) fun _ _ => trivial
  · obtain rfl := Option.some.inj (he.symm.trans he')
    exact ⟨Entry.keeps_body rfl rfl, rfl⟩
  · obtain rfl := Option.some.inj (he.symm.trans he')
    rfl

/-- Adding a signature to its owner couples. -/
theorem addSignature_couples {sig : EntryId} (h : K.Related x y) (hroot : owner ≠ Atlas.root) :
    Couples K ds (addSignature owner sig) (addSignature (K.rename owner) (K.rename sig)) x y id
      fun _ _ => True := by
  have hrename : ∀ d : Details,
      Details.rename K.rename { d with signatures := d.signatures ++ [sig] } =
        { d.rename K.rename with
          signatures := (d.rename K.rename).signatures ++ [K.rename sig] } := by
    simp [Details.rename]
  exact .changeDetails h hroot hrename (fun _ => rfl) (fun _ => ⟨rfl, rfl⟩) fun _ => trivial

/-- Dropping declarations inside of types leaves which parameter is out of order. -/
theorem misplaced?_strip (drop : Bool → Decl → Bool) (name : String) (omitted : Bool)
    (ps : List Source.Param) :
    misplaced? name omitted (Source.stripParams drop ps) = misplaced? name omitted ps := by
  induction ps generalizing omitted with
  | nil => rfl
  | cons p ps ih =>
    obtain ⟨pname, type, optional, rest, defaultValue⟩ := p
    have hempty : (Source.stripParams drop ps).isEmpty = ps.isEmpty := by
      cases ps with
      | nil => rfl
      | cons p ps =>
        cases p
        rfl
    rw [Source.stripParams, misplaced?, misplaced?, ih, ih, hempty]
    rfl

/-- The check of the order of parameters couples. -/
theorem checkOrder_couples {name : String} {ps : List Source.Param} (h : K.Related x y) :
    Couples K ds (checkOrder (K.left s) i name ps)
      (checkOrder (K.right s) (K.rename i) name (Source.stripParams K.drop ps)) x y id
      fun _ _ => True := by
  unfold checkOrder
  rw [misplaced?_strip]
  split
  · exact ⟨rfl, K.report h (K.same_signature _ _ _ _), ⟨.refl _, fun _ _ _ => rfl⟩,
      .of_atlas_eq rfl, trivial⟩
  · exact .pure h rfl trivial

/-- The report on a signature that belongs to nothing couples. -/
theorem reportLoose_couples {what : String} {line : Option Int} (h : K.Related x y) :
    Couples K ds (reportLoose (K.left s) what line) (reportLoose (K.right s) what line) x y
      (Option.map K.rename) fun _ _ => True :=
  .then_pure (.report (U := fun _ _ => True) h fun _ _ => trivial) rfl

end ApiAtlas.Conv
