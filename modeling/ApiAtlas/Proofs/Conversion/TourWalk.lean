import ApiAtlas.Proofs.Conversion.Sight
import ApiAtlas.Proofs.Conversion.Tours

/-!
# Conversion tours every symbol

Converting types, signatures and declarations tours a symbol of declarations that can be called, by
induction on how they are nested: a declaration of the symbol is a visit, and around those that are
written inside another declaration, all that is touched stands apart from the entry of the symbol.
So does the conversion of a program (`convertFiles_tours`).
-/

set_option autoImplicit false

namespace ApiAtlas

open Source

/-- Whether a site, in an identified draft, stands apart from a symbol. -/
structure Site.Clear (s : Site) (k : String) (settings : Settings) (x : Draft) : Prop where
  identified : x.atlas.Identified
  settings_eq : s.settings = settings
  scope : x.atlas.IsApart k s.scope

namespace Site.Clear

variable {s : Site} {k : String} {settings : Settings} {x y : Draft} {A : EntryId → Prop}

/-- The scope of a clear site is in the atlas. -/
theorem lt (h : s.Clear k settings x) : s.scope < x.atlas.size :=
  h.scope.1

/-- A site is still clear in a draft that has grown. -/
theorem grown (h : s.Clear k settings x) (hxy : x.Grown A y) : s.Clear k settings y :=
  ⟨hxy.identified, h.settings_eq, hxy.grows.isApart h.identified h.scope⟩

/-- The site inside an entry that stands apart. -/
theorem within {id : EntryId} (h : s.Clear k settings x) (hid : x.atlas.IsApart k id)
    (bound : List String) : (s.within id bound).Clear k settings x :=
  ⟨h.identified, h.settings_eq, hid⟩

end Site.Clear

/-- What stands apart from a symbol still does in a draft that has grown. -/
theorem Draft.Grown.isApart {x y : Draft} {A : EntryId → Prop} {k : String} {id : EntryId}
    (hxy : x.Grown A y) (hx : x.atlas.Identified) (hid : x.atlas.IsApart k id) :
    y.atlas.IsApart k id :=
  hxy.grows.isApart hx hid

namespace Conv

variable {k : String} {settings : Settings} {x : Draft} {s : Site} {id : EntryId}

/-- Whether converting a type tours a symbol. -/
def TypeTours (k : String) (settings : Settings) (t : TypeExpr) : Prop :=
  Overloads k t.decls → ∀ (s : Site) (x : Draft), s.Clear k settings x →
    (convertType s t).Tours k settings x

/-- Whether converting a signature tours a symbol. -/
def SignatureTours (k : String) (settings : Settings) (w : Signature) : Prop :=
  Overloads k w.decls → ∀ (s : Site) name kind comment flags (x : Draft), s.Clear k settings x →
    kind ∈ Kind.someSignature →
    (convertSignature s name kind comment flags w).Tours k settings x

/-- Whether converting a declaration tours a symbol. -/
def DeclTours (k : String) (settings : Settings) (d : Decl) : Prop :=
  Overloads k (d :: d.nested) → ∀ (s : Site) (x : Draft), s.Clear k settings x →
    x.atlas.Hosts s.scope → (convertDecl s d).Tours k settings x

/-! ## Lists and options -/

/-- Converting a list of types tours a symbol when converting each of them does. -/
theorem convertTypes_tours {ts : List TypeExpr} (h : ∀ t ∈ ts, TypeTours k settings t)
    (ho : Overloads k (declsOfTypes ts)) (hs : s.Clear k settings x) :
    (convertTypes s ts).Tours k settings x := by
  induction ts generalizing x with
  | nil => exact .pure
  | cons t ts ih =>
    obtain ⟨ht, hts⟩ := List.forall_mem_cons.1 h
    rw [declsOfTypes, overloads_append] at ho
    refine .bind hs.identified (walk.of_type t s x hs.identified hs.lt) (ht ho.1 s x hs) ?_
    exact fun _ y _ hxy => .then_pure (ih hts ho.2 (hs.grown hxy))

/-- Converting a type that may be missing tours a symbol when converting the type does. -/
theorem convertType?_tours {t : Option TypeExpr} (h : ∀ u ∈ t, TypeTours k settings u)
    (ho : Overloads k (declsOfType? t)) (hs : s.Clear k settings x) :
    (convertType? s t).Tours k settings x := by
  cases t with
  | none => exact .pure
  | some t => exact .then_pure (h t rfl ho s x hs)

/-- Opening a signature at a clear site tours a symbol. -/
theorem openSignature_tours {name : String} {kind : Kind} {comment : Option Comment}
    {flags : Flags} (hs : s.Clear k settings x) (hk : kind ∈ Kind.someSignature) :
    (openSignature s name kind comment flags).Tours k settings x :=
  (openSignature_runs (A := fun i => i = x.atlas.size) hs.lt hk rfl).tours hs.identified
    (.inl (Nat.le_refl _)) rfl rfl

/-- Converting a signature that may be missing tours a symbol when converting the signature does. -/
theorem convertSignature?_tours {w : Option Signature} {name : String} {kind : Kind}
    {comment : Option Comment} {flags : Flags} (h : ∀ v ∈ w, SignatureTours k settings v)
    (ho : Overloads k (declsOfSignature? w)) (hs : s.Clear k settings x)
    (hk : kind ∈ Kind.someSignature) :
    (convertSignature? s name kind comment flags w).Tours k settings x := by
  cases w with
  | none => exact openSignature_tours hs hk
  | some w => exact h w rfl ho s name kind comment flags x hs hk

/-- Converting declarations tours a symbol when converting each of them does. -/
theorem convertDecls_tours {ds : List Decl} (h : ∀ d ∈ ds, DeclTours k settings d)
    (ho : Overloads k (declsOf ds)) (hs : s.Clear k settings x) (hh : x.atlas.Hosts s.scope) :
    (convertDecls s ds).Tours k settings x := by
  induction ds generalizing x with
  | nil => exact .pure
  | cons d ds ih =>
    obtain ⟨hd, hds⟩ := List.forall_mem_cons.1 h
    rw [declsOf, ← List.cons_append, overloads_append] at ho
    refine .bind hs.identified (walk.of_decl d s x hs.identified hh) (hd ho.1 s x hs hh) ?_
    exact fun _ y _ hxy => .then_pure (ih hds ho.2 (hs.grown hxy) (hxy.grows.hosts hh))

/-- Converting parameters tours a symbol when converting their types does. -/
theorem convertParams_tours {ps : List Param} {comment : Option Comment}
    (h : ∀ p ∈ ps, ∀ t ∈ p.type, TypeTours k settings t) (ho : Overloads k (declsOfParams ps))
    (hs : s.Clear k settings x) :
    (convertParams s s.scope comment ps).Tours k settings x := by
  induction ps generalizing x with
  | nil => exact .pure
  | cons p ps ih =>
    obtain ⟨name, type, optional, rest, defaultValue⟩ := p
    obtain ⟨htype, hps⟩ := List.forall_mem_cons.1 h
    rw [declsOfParams, overloads_append] at ho
    rw [convertParams]
    have hopen : (openParameter s ⟨name, type, optional, rest, defaultValue⟩ comment).Runs x
        (fun i => i = x.atlas.size) _ := openParameter_runs hs.lt rfl
    refine .bind hs.identified hopen (hopen.tours hs.identified (.inl (Nat.le_refl _)) rfl rfl) ?_
    rintro id y ⟨rfl, hpar, hpp⟩ hxy
    have hsy := hs.grown hxy
    have hapart := hpar.isApart hpp hsy.scope
    refine .bind hsy.identified (convertType?_runs (s := s.within x.atlas.size [])
      (fun t _ => walk.of_type t) hsy.identified hpar.lt)
      (convertType?_tours htype ho.1 (hsy.within hapart [])) ?_
    rintro converted z hopen hyz
    have hsz := hsy.grown hyz
    have hparz := hyz.grows.isParameter hpar
    have hfill := fillParameter_runs (v := defaultValue) (A := fun i => i = x.atlas.size) hparz
      hopen rfl
    refine .bind hsz.identified hfill (hfill.tours hsz.identified
      (.inr (hyz.isApart hsy.identified hapart)) rfl rfl) ?_
    rintro _ v - hzv
    have hsv := hsz.grown hzv
    have hadd := addParameter_runs (A := fun i => i = s.scope)
      (((hyz.grows.trans hzv.grows).parent?_eq hpar.lt).trans hpp) rfl
    refine .bind hsv.identified hadd (hadd.tours hsv.identified (.inr hsv.scope) rfl rfl) ?_
    exact fun _ w _ hvw => ih hps ho.2 (hsv.grown hvw)

/-- Converting type parameters tours a symbol when converting their constraints and defaults does.
-/
theorem convertTypeParams_tours {ps : List TypeParam} {owner : EntryId} {bound : List String}
    (h : ∀ p ∈ ps, p.All (TypeTours k settings)) (ho : Overloads k (declsOfTypeParams ps))
    (hs : s.Clear k settings x) (hno : x.atlas.NoAccessor owner)
    (howner : x.atlas.IsApart k owner) :
    (convertTypeParams s owner bound ps).Tours k settings x := by
  induction ps generalizing x bound with
  | nil => exact .pure
  | cons p ps ih =>
    obtain ⟨name, constraint, default⟩ := p
    obtain ⟨⟨hconstraint, hdefault⟩, hps⟩ := List.forall_mem_cons.1 h
    rw [declsOfTypeParams, overloads_append, overloads_append] at ho
    obtain ⟨⟨hoc, hod⟩, ho⟩ := ho
    rw [convertTypeParams]
    -- Opening a type parameter changes its owner only, which is apart from what `k` stands for.
    have hopen : (openTypeParameter owner name).Runs x
        (fun i => i = x.atlas.size ∨ i = owner) _ :=
      openTypeParameter_runs hs.identified hno (.inr rfl) (.inl rfl)
    have hlisted : (openTypeParameter owner name).Gives x _ := openTypeParameter_listed howner.1
    refine .bind hs.identified (hopen.and hlisted) (.past rfl (hopen.past hs.identified ?_ rfl)) ?_
    · rintro i (rfl | rfl)
      · exact .inl (Nat.le_refl _)
      · exact .inr howner
    rintro id y ⟨⟨rfl, hpar⟩, ⟨e, he, hp, -⟩, -⟩ hxy
    have hsy := hs.grown hxy
    have hapart := hpar.isApart ((Atlas.parent?_eq he).trans hp)
      (hxy.isApart hs.identified howner)
    refine .bind hsy.identified (convertType?_runs (s := s.within x.atlas.size _)
      (fun t _ => walk.of_type t) hsy.identified hpar.lt)
      (convertType?_tours hconstraint hoc (hsy.within hapart _)) ?_
    rintro limit z hlimit hyz
    have hsz := hsy.grown hyz
    have hparz := hyz.grows.isTypeParameter hpar
    have hapartz := hyz.isApart hsy.identified hapart
    refine .bind hsz.identified (convertType?_runs (s := s.within x.atlas.size _)
      (fun t _ => walk.of_type t) hsz.identified hparz.lt)
      (convertType?_tours hdefault hod (hsz.within hapartz _)) ?_
    rintro standard v hstandard hzv
    have hsv := hsz.grown hzv
    have hfill := fillTypeParameter_runs (A := fun i => i = x.atlas.size)
      (hzv.grows.isTypeParameter hparz) hlimit hstandard rfl
    refine .bind hsv.identified hfill (hfill.tours hsv.identified
      (.inr (hzv.isApart hsz.identified hapartz)) rfl rfl) ?_
    rintro _ w - hvw
    have hxw := ((hxy.grows.trans hyz.grows).trans hzv.grows).trans hvw.grows
    exact ih hps ho (hsv.grown hvw) (hxw.noAccessor hno) (hxw.isApart hs.identified howner)

/-- Converting what a signature returns tours a symbol when converting its types does. -/
theorem convertResult?_tours {w : Option Signature}
    (h : ∀ v ∈ w, v.All (TypeTours k settings)) (ho : Overloads k (declsOfSignature? w))
    (hs : s.Clear k settings x) : (convertResult? s w).Tours k settings x := by
  cases w with
  | none => exact .pure
  | some w =>
    obtain ⟨parameters, result, typeParameters⟩ := w
    rw [declsOfSignature?, Signature.decls, overloads_append] at ho
    exact convertType?_tours (h _ rfl).2.1 ho.2 hs

/-- Converting the type of a first parameter tours a symbol when converting the types of the
signature does. -/
theorem convertFirstParam?_tours {w : Option Signature}
    (h : ∀ v ∈ w, v.All (TypeTours k settings)) (ho : Overloads k (declsOfSignature? w))
    (hs : s.Clear k settings x) : (convertFirstParam? s w).Tours k settings x := by
  cases w with
  | none => exact .pure
  | some w =>
    obtain ⟨parameters, result, typeParameters⟩ := w
    cases parameters with
    | nil => exact .pure
    | cons p ps =>
      obtain ⟨name, type, optional, rest, defaultValue⟩ := p
      rw [declsOfSignature?, Signature.decls, declsOfParams, overloads_append, overloads_append,
        overloads_append] at ho
      exact convertType?_tours (List.forall_mem_cons.1 (h _ rfl).1).1 ho.1.2.1 hs

/-! ## Filling -/

/-- The check of the order of parameters tours any symbol. -/
theorem checkOrder_tours {name : String} {ps : List Param} :
    (checkOrder s id name ps).Tours k settings x := by
  unfold checkOrder
  split
  · exact .report
  · exact .pure

/-- An inline declaration is filled like any other. -/
theorem inlineType_tours {fill : EntryId → Conv Unit} (hs : s.Clear k settings x)
    (hfill : ∀ id (y : Draft), s.Clear k settings y → y.atlas.Hosts id → y.atlas.IsApart k id →
      (fill id).Tours k settings y) : (inlineType s fill).Tours k settings x := by
  have hopen := openLiteral_runs (A := fun i => i = x.atlas.size) hs.lt rfl
  have hparent : (openLiteral s).Gives x fun id y => ∃ e, y.atlas.get? id = some e ∧
      e.symbol? = none ∧ e.parent = some s.scope :=
    ⟨_, Atlas.get?_add_self x.atlas _, rfl, rfl⟩
  refine .bind hs.identified (hopen.and hparent)
    (hopen.tours hs.identified (.inl (Nat.le_refl _)) rfl rfl) ?_
  rintro id y ⟨⟨-, hhosts⟩, e, he, hsymbol, hp⟩ hxy
  have hsy := hs.grown hxy
  exact .then_pure (hfill id y hsy hhosts (Atlas.isApart_of_parent he hsymbol hp hsy.scope))

/-- Filling a function or a method apart from a symbol tours the symbol when converting its
signature does. -/
theorem fillCallable_tours {shown : Atlas → EntryId → String}
    {signature : Site → String → Conv EntryId} {A : EntryId → Prop} {Q : EntryId → Draft → Prop}
    (hx : x.atlas.Identified) (hid : x.atlas.IsApart k id)
    (h : (signature (s.within id []) (shown x.atlas id)).Runs x A Q ∧
      (signature (s.within id []) (shown x.atlas id)).Tours k settings x) :
    (fillCallable s shown signature id).Tours k settings x :=
  .ask_bind <| .bind hx h.1 h.2 fun _ _ _ hxy => .changeDetails (hxy.isApart hx hid)

/-- Filling a variable or a property apart from a symbol tours the symbol when converting its type
does. -/
theorem fillValue_tours {type : Site → Conv (Option Ty)} {value : Option String}
    {A : EntryId → Prop} (hx : x.atlas.Identified) (hid : x.atlas.IsApart k id)
    (h : ((type (s.within id [])).Runs x A fun ty _ => ∀ u ∈ ty, u.IsOpen) ∧
      (type (s.within id [])).Tours k settings x) :
    (fillValue s type value id).Tours k settings x := by
  refine .ask_bind ?_
  split
  · refine .bind hx h.1 h.2 fun ty y hopen hxy => ?_
    have hidy := hxy.isApart hx hid
    have hset := setType_runs (x := y) (A := fun i => i = id) hopen rfl
    refine .bind hxy.identified hset (.changeDetails hidy) fun _ z _ hyz => ?_
    exact .changeDetails (hyz.isApart hxy.identified hidy)
  · exact .changeDetails hid

/-- Filling an alias apart from a symbol tours the symbol when converting its type parameters and
its type does. -/
theorem fillAlias_tours {typeParams : EntryId → Conv (List String)}
    {type : Site → Conv (Option Ty)} {d : Decl} {A : EntryId → Prop} {B : Draft → EntryId → Prop}
    {Q : List String → Draft → Prop} {R : Option Ty → Draft → Prop} (hx : x.atlas.Identified)
    (hid : x.atlas.IsApart k id)
    (hp : (typeParams id).Runs x A Q ∧ (typeParams id).Tours k settings x)
    (h : ∀ bound (y : Draft), x.Grown A y → (type (s.within id bound)).Runs y (B y) R ∧
      (type (s.within id bound)).Tours k settings y) :
    (fillAlias s d typeParams type id).Tours k settings x := by
  refine .ask_bind ?_
  split
  · exact .ask_bind .report
  · refine .bind hx hp.1 hp.2 fun bound y _ hxy => ?_
    obtain ⟨hruns, htours⟩ := h bound y hxy
    refine .bind hxy.identified hruns htours fun ty z _ hyz => ?_
    exact .changeDetails (hyz.isApart hxy.identified (hxy.isApart hx hid))

/-- Filling an accessor apart from a symbol tours the symbol when converting its type and its
signature does. -/
theorem fillAccessor_tours {isGetter : Bool} {d : Decl} {value : Site → Conv (Option Ty)}
    {signature : Site → Conv EntryId} {A B : EntryId → Prop} {Q : Option Ty → Draft → Prop}
    {R : EntryId → Draft → Prop} (hx : x.atlas.Identified) (hid : x.atlas.IsApart k id)
    (hv : (value (s.within id [])).Runs x A Q ∧ (value (s.within id [])).Tours k settings x)
    (h : (signature (s.within id [])).Runs x B R ∧
      (signature (s.within id [])).Tours k settings x) :
    (fillAccessor s d isGetter value signature id).Tours k settings x := by
  refine .ask_bind ?_
  dsimp only
  split
  · split
    · exact .bind hx hv.1 hv.2 fun _ _ _ hxy => .changeDetails (hxy.isApart hx hid)
    · exact .pure
  · split
    · exact .report
    · exact .bind hx h.1 h.2 fun _ _ _ hxy => .changeDetails (hxy.isApart hx hid)

/-- Adding a signature to what it stands in tours a symbol when converting the signature does. -/
theorem addCallable_tours {what : String} {line : Option Int} {signature : Conv EntryId}
    {A : EntryId → Prop} {Q : EntryId → Draft → Prop} (hs : s.Clear k settings x)
    (h : signature.Runs x A Q ∧ signature.Tours k settings x) :
    (addCallable s what line signature).Tours k settings x := by
  refine .ask_bind ?_
  split
  · exact .report_bind
  · exact .bind hs.identified h.1 h.2 fun _ _ _ hxy =>
      .then_pure (.changeDetails (hs.grown hxy).scope)

/-- Adding an index signature to what it stands in tours a symbol when converting the signature
does. -/
theorem addIndex_tours {line : Option Int} {signature : Conv EntryId} {A : EntryId → Prop}
    {Q : EntryId → Draft → Prop} (hs : s.Clear k settings x)
    (h : signature.Runs x A Q ∧ signature.Tours k settings x) :
    (addIndex s line signature).Tours k settings x := by
  refine .ask_bind ?_
  split
  · exact .report_bind
  · split
    · exact .ask_bind .report_bind
    · exact .bind hs.identified h.1 h.2 fun _ _ _ hxy =>
        .then_pure (.changeDetails (hs.grown hxy).scope)

/-- Binding the type parameters of an entry, unless it has them, tours a symbol when creating them
does. -/
theorem knownOrNew_tours {typeParams : EntryId → Conv (List String)}
    (h : (typeParams id).Tours k settings x) : (knownOrNew typeParams id).Tours k settings x := by
  refine .ask_bind ?_
  split
  · exact h
  · exact .past rfl (Draft.past_of_atlas_eq rfl)

/-- The parts of a class are converted one after the other, and its own entry only gets its
heritage in between. -/
theorem fillClass_tours {typeParameters : List TypeParam} {bases interfaces : List TypeExpr}
    {children : List Decl} (hp : ∀ p ∈ typeParameters, p.All (TypeTours k settings))
    (hb : ∀ t ∈ bases, TypeTours k settings t) (hi : ∀ t ∈ interfaces, TypeTours k settings t)
    (hc : ∀ d ∈ children, DeclTours k settings d)
    (hop : Overloads k (declsOfTypeParams typeParameters))
    (hob : Overloads k (declsOfTypes bases)) (hoi : Overloads k (declsOfTypes interfaces))
    (hoc : Overloads k (declsOf children)) (hs : s.Clear k settings x) (hid : x.atlas.Hosts id)
    (hapart : x.atlas.IsApart k id) :
    (fillClass s (fun id => convertTypeParams s id [] typeParameters)
      (fun s => convertTypes s bases) (fun s => convertTypes s interfaces)
      (fun s => convertDecls s children) id).Tours k settings x := by
  have hparams : (convertTypeParams s id [] typeParameters).Runs x _ _ :=
    convertTypeParams_runs (fun p _ => typeParam_runs p) hs.identified hid.noAccessor
  refine .bind hs.identified (knownOrNew_runs hparams)
    (knownOrNew_tours (convertTypeParams_tours hp hop hs hid.noAccessor hapart)) ?_
  rintro bound y - hxy
  have hsy := (hs.grown hxy).within (hxy.isApart hs.identified hapart) bound
  have hidy := hxy.grows.hosts hid
  refine .bind hsy.identified (convertTypes_runs (fun t _ => walk.of_type t) hsy.identified hsy.lt)
    (convertTypes_tours hb hob hsy) ?_
  rintro extended z hopen hyz
  have hsz := hsy.grown hyz
  have hidz := hyz.grows.hosts hidy
  refine .bind hsz.identified (extended_runs (A := fun i => i = id) hidz.noAccessor hopen rfl)
    (.changeDetails hsz.scope) ?_
  rintro _ v - hzv
  have hsv := hsz.grown hzv
  have hidv := hzv.grows.hosts hidz
  refine .bind hsv.identified (convertTypes_runs (fun t _ => walk.of_type t) hsv.identified hsv.lt)
    (convertTypes_tours hi hoi hsv) ?_
  rintro implemented u hopen' hvu
  have hsu := hsv.grown hvu
  have hidu := hvu.grows.hosts hidv
  refine .bind hsu.identified (implemented_runs (A := fun i => i = id) hidu.noAccessor hopen' rfl)
    (.changeDetails hsu.scope) ?_
  rintro _ t - hut
  have hst := hsu.grown hut
  have hidt := hut.grows.hosts hidu
  exact .bind hst.identified (convertDecls_runs (fun d _ => walk.of_decl d) hst.identified hidt)
    (convertDecls_tours hc hoc hst hidt) fun ids v _ _ => .pure

/-! ## Declaring -/

/-- Declaring another symbol passes a symbol by, and so does the filling but for the visits that
are made of what is written inside. -/
theorem declareAnd_tours {d : Decl} {kind : Kind} {name : Option String}
    {fill : EntryId → Conv Unit} (hd : ¬d.Carries k) (hs : s.Clear k settings x)
    (hh : x.atlas.Hosts s.scope) (hk : kind.IsBasic) (hl : kind ≠ .typeLiteral)
    (hfill : ∀ id (y : Draft), s.Clear k settings y →
      y.atlas.Declares id d.symbol (kind.isIn Kind.accessorLike) → y.atlas.IsApart k id →
      (fill id).Tours k settings y) : (declareAnd s d kind name fill).Tours k settings x := by
  have hnot : ¬Carry [d] k := fun ⟨e, he, hek⟩ => hd (List.mem_singleton.1 he ▸ hek)
  have hdeclare : (declare s d kind name).Runs x _ _ := declare_aside hs.identified hh hk hl
  have hpast : x.Past k ((declare s d kind name).run x).2 := by
    refine hdeclare.past hs.identified (fun i hi => ?_)
      (hdeclare.post.2.spares.symbols k (not_or.2 ⟨hnot, not_false⟩))
    rcases hi with hge | hmem | ⟨e, he, t, ht, hit⟩
    · exact .inl hge
    · exact .inr (List.mem_singleton.1 hmem ▸ hs.scope)
    · exact .inr (Atlas.isApart_of_symbolOf hit fun htk => hnot ⟨e, he, htk ▸ ht⟩)
  have htours : (declare s d kind name).Tours k settings x := by
    rw [Tours, declare_visits.visitsOf_eq_nil hnot]
    exact .past hpast
  refine .bind hs.identified hdeclare htours ?_
  rintro r y ⟨hdeclares, -⟩ hxy
  cases r with
  | none => exact .pure
  | some id =>
    have hid := (hdeclares id rfl).1
    exact .then_pure (hfill id y (hs.grown hxy) hid (hid.isApart hxy.identified hd))

/-- Declaring an accessor, whichever of its two kinds it gets. -/
theorem accessor_tours {d : Decl} {scope : Kind} {comment : Option Comment} {name : Option String}
    {fill : EntryId → Conv Unit} (hd : ¬d.Carries k) (hs : s.Clear k settings x)
    (hh : x.atlas.Hosts s.scope)
    (hfill : ∀ id (y : Draft), s.Clear k settings y → y.atlas.IsApart k id →
      (fill id).Tours k settings y) :
    (declareAnd s d (accessorKind scope comment) name fill).Tours k settings x := by
  rcases accessorKind_eq scope comment with h | h <;> rw [h] <;>
    exact declareAnd_tours hd hs hh (by decide) (by decide)
      fun id y hsy _ hapart => hfill id y hsy hapart

/-! ## One of them -/

/-- Converting a type tours a symbol when converting its arguments, its members and its signature
does. -/
theorem type_tours {t : TypeExpr} (ha : ∀ u ∈ t.arguments, TypeTours k settings u)
    (hm : ∀ d ∈ t.members, DeclTours k settings d)
    (hw : ∀ w ∈ t.signature, SignatureTours k settings w) : TypeTours k settings t := by
  intro ho s x hs
  obtain ⟨form, name, symbol, arguments, members, signature, text⟩ := t
  have hmembers : ∀ d ∈ members, DeclTours k settings d := hm
  rw [TypeExpr.decls, overloads_append, overloads_append] at ho
  have args : ∀ f : List Ty → Ty, (do return f (← convertTypes s arguments) : Conv Ty).Tours k
      settings x := fun f => .then_pure (convertTypes_tours ha ho.1.1 hs)
  cases form with
  | intrinsic | stringLiteral | unknown => exact .pure
  | reference =>
    rw [convertType]
    split
    · exact .pure
    · exact args _
  | union | intersection | tuple => exact args _
  | array =>
    cases arguments with
    | nil => exact .pure
    | cons element rest =>
      rw [declsOfTypes, overloads_append] at ho
      exact .then_pure ((List.forall_mem_cons.1 ha).1 ho.1.1.1 s x hs)
  | object =>
    rw [convertType]
    refine inlineType_tours hs fun id y hsy hid hapart => ?_
    exact .then_pure (convertDecls_tours hmembers ho.1.2 (hsy.within hapart []) hid)
  | function =>
    cases signature with
    | none =>
      rw [convertType]
      exact inlineType_tours hs fun id y hsy hid hapart => .pure
    | some w =>
      rw [convertType]
      refine inlineType_tours hs fun id y hsy hid hapart => ?_
      exact fillCallable_tours hsy.identified hapart
        ⟨walk.signature w (walk.of_signature w) _ _ _ _ _ y hsy.identified hid.lt (by decide),
          hw w rfl ho.2 _ _ _ _ _ y (hsy.within hapart []) (by decide)⟩

/-- Converting a signature tours a symbol when converting the types that are written on it does. -/
theorem signature_tours {w : Signature} (h : w.All (TypeTours k settings)) :
    SignatureTours k settings w := by
  intro ho s name kind comment flags x hs hk
  obtain ⟨parameters, result, typeParameters⟩ := w
  obtain ⟨hps, hresult, htps⟩ := h
  rw [Signature.decls, overloads_append, overloads_append] at ho
  rw [convertSignature]
  refine .bind hs.identified (openSignature_runs (A := fun i => i = x.atlas.size) hs.lt hk rfl)
    (openSignature_tours hs hk) ?_
  rintro id y ⟨rfl, hsig⟩ hxy
  have hsy := hs.grown hxy
  have hapart := hsig.isApart hsy.scope
  have hno := hsig.noAccessor (List.cons_subset.2 ⟨hk, List.nil_subset _⟩)
  refine .bind hsy.identified (convertTypeParams_runs (fun p _ => typeParam_runs p)
    hsy.identified hno) (convertTypeParams_tours htps ho.1.1 hsy hno hapart) ?_
  rintro bound z - hyz
  dsimp only
  have hsz := (hsy.grown hyz).within (hyz.isApart hsy.identified hapart) bound
  refine .bind hsz.identified (convertParams_runs (s := s.within x.atlas.size bound)
    (fun p _ t _ => walk.of_type t) hsz.identified hsz.lt) (convertParams_tours hps ho.1.2 hsz) ?_
  rintro _ v - hzv
  have hsv := hsz.grown hzv
  refine .bind hsv.identified (convertType?_runs (fun t _ => walk.of_type t) hsv.identified
    hsv.lt) (convertType?_tours hresult ho.2 hsv) ?_
  rintro type u hopen hvu
  have hsu := hsv.grown hvu
  have hset := setResult_runs (x := u) (A := fun i => i = x.atlas.size) hopen rfl
  refine .bind hsu.identified hset (hset.tours hsu.identified (.inr hsu.scope) rfl rfl) ?_
  rintro _ t - -
  exact .then_pure checkOrder_tours

/-! ## Declarations -/

/-- Converting a declaration tours a symbol when converting what stands in it and what is written on
it does: a declaration of the symbol itself is one visit, and any other one is filled apart from the
symbol. -/
theorem decl_tours {d : Decl} (hc : ∀ e ∈ d.children, DeclTours k settings e)
    (ht : ∀ t ∈ d.type, TypeTours k settings t)
    (hw : ∀ w ∈ d.signature, SignatureTours k settings w ∧ w.All (TypeTours k settings))
    (hp : ∀ p ∈ d.typeParameters, p.All (TypeTours k settings))
    (hb : ∀ t ∈ d.bases, TypeTours k settings t) (hi : ∀ t ∈ d.interfaces, TypeTours k settings t) :
    DeclTours k settings d := by
  intro ho s x hs hh
  have hx := hs.identified
  obtain ⟨hself, ho⟩ := List.forall_mem_cons.1 ho
  -- A declaration of the symbol is a visit by itself, since nothing of the symbol stands inside it.
  by_cases hd : d.Carries k
  · exact .visit hx hs.settings_eq hh hs.scope (hself hd).1 hd (hself hd).2
  have signatures : ∀ w ∈ d.signature, SignatureTours k settings w := fun w hmem => (hw w hmem).1
  have parts : ∀ w ∈ d.signature, w.All (TypeTours k settings) := fun w hmem => (hw w hmem).2
  obtain ⟨kind, name, symbol, children, modifiers, type, signature, typeParameters, bases,
    interfaces, comment, defaultValue, origin, file, line, form⟩ := d
  dsimp only at hc ht hp hb hi signatures parts
  rw [Decl.nested] at ho
  obtain ⟨hoc, hrest⟩ := overloads_append.1 ho
  obtain ⟨⟨⟨⟨hot, how⟩, hop⟩, hob⟩, hoi⟩ : (((Overloads k (declsOfType? type) ∧
      Overloads k (declsOfSignature? signature)) ∧ Overloads k (declsOfTypeParams typeParameters)) ∧
      Overloads k (declsOfTypes bases)) ∧ Overloads k (declsOfTypes interfaces) := by
    simpa only [overloads_append] using hrest
  -- Any other one is filled apart from the symbol; what is then put into it has to run besides.
  have typed : ∀ {s : Site} {y : Draft}, s.Clear k settings y →
      (convertType? s type).Runs y (y.atlas.Reach [] (declsOfType? type))
        (fun ty _ => ∀ u ∈ ty, u.IsOpen) ∧ (convertType? s type).Tours k settings y := fun hsy =>
    ⟨convertType?_runs (fun t _ => walk.of_type t) hsy.identified hsy.lt,
      convertType?_tours ht hot hsy⟩
  have called : ∀ {s : Site} {title : String} {sort : Kind} {flags : Flags} {y : Draft},
      s.Clear k settings y → sort ∈ Kind.someSignature →
      (convertSignature? s title sort comment flags signature).Runs y
        (y.atlas.Reach [] (declsOfSignature? signature))
        (fun id z => id = y.atlas.size ∧ z.atlas.IsSignatureOf id s.scope [sort]) ∧
        (convertSignature? s title sort comment flags signature).Tours k settings y :=
    fun hsy hsort =>
    ⟨convertSignature?_runs (fun w _ => walk.signature w (walk.of_signature w)) hsy.identified
      hsy.lt hsort, convertSignature?_tours signatures how hsy hsort⟩
  cases kind with
  | module | «namespace» | enum =>
    rw [convertDecl]
    refine declareAnd_tours hd hs hh (by decide) (by decide) fun id y hsy hid hapart => ?_
    exact .then_pure (convertDecls_tours hc hoc (hsy.within hapart []) hid.hosts)
  | «class» | interface =>
    rw [convertDecl]
    refine declareAnd_tours hd hs hh (by decide) (by decide) fun id y hsy hid hapart => ?_
    exact fillClass_tours hp hb hi hc hop hob hoi hoc hsy hid.hosts hapart
  | function | method | constructor =>
    rw [convertDecl]
    refine declareAnd_tours hd hs hh (by decide) (by decide) fun id y hsy _ hapart => ?_
    exact fillCallable_tours hsy.identified hapart (called (hsy.within hapart []) (by decide))
  | callSignature | constructSignature =>
    rw [convertDecl]
    exact addCallable_tours hs (called hs (by decide))
  | indexSignature =>
    rw [convertDecl]
    exact addIndex_tours hs (called hs (by decide))
  | getAccessor =>
    rw [convertDecl]
    refine .ask_bind (accessor_tours hd hs hh fun id y hsy hapart => ?_)
    have hin := hsy.within hapart []
    cases type with
    | some t =>
      exact fillAccessor_tours hsy.identified hapart (typed hin) (called hin (by decide))
    | none =>
      exact fillAccessor_tours hsy.identified hapart
        ⟨convertResult?_runs (fun w _ => walk.of_signature w) hin.identified hin.lt,
          convertResult?_tours parts how hin⟩ (called hin (by decide))
  | setAccessor =>
    rw [convertDecl]
    refine .ask_bind (accessor_tours hd hs hh fun id y hsy hapart => ?_)
    have hin := hsy.within hapart []
    cases type with
    | some t =>
      exact fillAccessor_tours hsy.identified hapart (typed hin) (called hin (by decide))
    | none =>
      exact fillAccessor_tours hsy.identified hapart
        ⟨convertFirstParam?_runs (fun w _ => walk.of_signature w) hin.identified hin.lt,
          convertFirstParam?_tours parts how hin⟩ (called hin (by decide))
  | «variable» | property | enumMember =>
    rw [convertDecl]
    refine declareAnd_tours hd hs hh (by decide) (by decide) fun id y hsy _ hapart => ?_
    exact fillValue_tours hsy.identified hapart (typed (hsy.within hapart []))
  | typeAlias =>
    rw [convertDecl]
    refine declareAnd_tours hd hs hh (by decide) (by decide) fun id y hsy hid hapart => ?_
    have hno := hid.hosts.noAccessor
    exact fillAlias_tours (B := fun z => z.atlas.Reach [] (declsOfType? type)) hsy.identified
      hapart ⟨convertTypeParams_runs (fun p _ => typeParam_runs p) hsy.identified hno,
        convertTypeParams_tours hp hop hsy hno hapart⟩ fun bound z hyz =>
          typed ((hsy.grown hyz).within (hyz.isApart hsy.identified hapart) bound)
  | other =>
    rw [convertDecl]
    exact .report_bind

/-- All that is written tours a symbol, by induction on how it is nested. -/
theorem tourWalk (k : String) (settings : Settings) :
    Steps (TypeTours k settings) (SignatureTours k settings) (DeclTours k settings) where
  type _ := type_tours
  signature _ := signature_tours
  decl _ := decl_tours

/-! ## Files -/

/-- Converting a file tours a symbol. -/
theorem convertFile_tours {f : Source.File}
    (ho : Overloads k (declsOf (f.topDecls settings.mode))) (hx : x.atlas.Identified) :
    (convertFile settings f).Tours k settings x := by
  unfold convertFile
  split
  · refine .bind hx (convertDecls_runs (fun d _ => walk.of_decl d) hx hx.hosts_root)
      (convertDecls_tours (fun d _ => (tourWalk k settings).of_decl d) ho
        ⟨hx, rfl, hx.isApart_root⟩ hx.hosts_root) ?_
    rintro ids y - -
    obtain ⟨t, ht⟩ := foldl_noteFile f.name ids y.atlas
    refine .past rfl ?_
    change Draft.Past k y { y with atlas := ids.foldl (fun a id => a.noteFile f.name id) y.atlas }
    rw [ht]
    exact ⟨rfl, fun _ _ => rfl⟩
  · exact .pure

/-- Converting files tours a symbol whose declarations can all be called and do not stand inside
each other's types. -/
theorem convertFiles_tours {files : List Source.File}
    (ho : Overloads k (declsOf (files.flatMap (·.topDecls settings.mode))))
    (hx : x.atlas.Identified) : (convertFiles settings files).Tours k settings x := by
  unfold convertFiles
  induction files generalizing x with
  | nil => exact .pure
  | cons f files ih =>
    rw [List.flatMap_cons, declsOf_append, overloads_append] at ho
    exact .bind hx (convertFile_runs hx) (convertFile_tours ho.1 hx) fun _ _ _ hxy =>
      ih ho.2 hxy.identified

end Conv

end ApiAtlas
