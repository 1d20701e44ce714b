import ApiAtlas.Proofs.Conversion.CoupledFilling
import ApiAtlas.Proofs.Conversion.Walk

/-!
# The coupled walk

Converting whatever is written couples with converting what is left of it when declarations are
dropped. Types, signatures and declarations each have a predicate, which follows from the predicates
of the parts; a declaration that is dropped does nothing on its own side. The induction over all
that is written puts them together (`coupledWalk`).
-/

set_option autoImplicit false

namespace ApiAtlas

open Source

namespace Coupling

variable {K : Coupling} {x : Draft} {ds ds' : List Decl} {scope : EntryId} {top : Bool}

/-- The kind of a scope that fits tells whether what it holds stands at the top. -/
theorem Fits.tops (h : K.Fits x.atlas scope top ds) {k : Kind}
    (hk : x.atlas.kindAt scope = some k) : K.strict → k.isIn Kind.topKinds = top := by
  intro hstrict
  obtain ⟨-, k', hk', htop⟩ := h hstrict
  obtain rfl : k' = k := Option.some.inj (hk'.symm.trans hk)
  exact htop

/-- The entry of a declaration fits what is below the declaration. -/
theorem Allows.fits {d : Decl} {kind : Kind} {accessor : Bool} {i : EntryId}
    (h : K.Allows (d :: d.nested)) (hd : x.atlas.Declares i d.symbol accessor)
    (hi : Conv.KindLike kind x i) : K.Fits x.atlas i (kind.isIn Kind.topKinds) d.nested := by
  refine fun hstrict => ⟨fun m hm s hms hs => ?_, ?_⟩
  · rw [hd.symbolOf] at hs
    exact h.apart hstrict d (List.mem_cons_self ..) m hm s hms hs
  · obtain ⟨k, hk, htop, -⟩ := hi
    exact ⟨k, hk, htop⟩

end Coupling

namespace Conv

variable {K : Coupling} {x y : Draft} {s : Site} {ds : List Decl} {top : Bool}

/-! ## What is to be shown -/

/-- Converting a type couples with converting what is left of it. -/
def TypeCouples (K : Coupling) (t : TypeExpr) : Prop :=
  ∀ (s : Site) (x y : Draft), K.Related x y → s.scope < x.atlas.size → K.Allows t.decls →
    Couples K t.decls (convertType (K.left s) t) (convertType (K.right s) (t.strip K.drop)) x y
      (Ty.rename K.rename) fun _ _ => True

/-- Converting a signature couples with converting what is left of it. -/
def SignatureCouples (K : Coupling) (w : Signature) : Prop :=
  ∀ (s : Site) (name : String) (kind : Kind) (comment : Option Comment) (flags : Flags)
    (x y : Draft), K.Related x y → s.scope < x.atlas.size → K.Allows w.decls →
    kind ∈ Kind.someSignature →
    Couples K w.decls (convertSignature (K.left s) name kind comment flags w)
      (convertSignature (K.right s) name kind comment flags (w.strip K.drop)) x y K.rename
      fun _ _ => True

/-- Converting a declaration that is not dropped couples with converting what is left of it. -/
def DeclCouples (K : Coupling) (d : Decl) : Prop :=
  ∀ (top : Bool) (s : Site) (x y : Draft), K.Related x y → x.atlas.Hosts s.scope →
    K.Allows (d :: d.nested) → K.Fits x.atlas s.scope top (d :: d.nested) →
    K.drop top d = false →
    Couples K (d :: d.nested) (convertDecl (K.left s) d) (convertDecl (K.right s) (d.strip K.drop))
      x y (Option.map K.rename) fun _ _ => True

/-! ## Declarations that are dropped -/

/-- A declaration that the settings do not want gets no entry and changes nothing. -/
theorem convertDecl_unwanted {d : Decl} (hk : d.kind.isDeclared = true)
    (hs : x.atlas.Hosts s.scope)
    (hunwanted : ∀ k, x.atlas.kindAt s.scope = some k → isWanted s.settings k d = false) :
    (convertDecl s d).run x = (none, x) := by
  obtain ⟨kind, name, symbol, children, modifiers, type, signature, typeParameters, bases,
    interfaces, comment, defaultValue, origin, file, line, form⟩ := d
  cases kind with
  | callSignature | constructSignature | indexSignature | other =>
    exact absurd hk (by simp [DeclKind.isDeclared])
  | getAccessor | setAccessor =>
    rw [convertDecl, run_ask_bind]
    exact declareAnd_unwanted hs rfl hunwanted
  | _ =>
    rw [convertDecl]
    exact declareAnd_unwanted hs rfl hunwanted

/-! ## Several of them, or none -/

/-- Converting a list of types couples when converting each of them does. -/
theorem convertTypes_couples {ts : List TypeExpr} (h : ∀ t ∈ ts, TypeCouples K t)
    (hxy : K.Related x y) (hs : s.scope < x.atlas.size) (hallow : K.Allows (declsOfTypes ts)) :
    Couples K (declsOfTypes ts) (convertTypes (K.left s) ts)
      (convertTypes (K.right s) (stripTypes K.drop ts)) x y (List.map (Ty.rename K.rename))
      fun _ _ => True := by
  induction ts generalizing x y with
  | nil =>
    rw [stripTypes, convertTypes, convertTypes]
    exact .pure hxy rfl trivial
  | cons t ts ih =>
    obtain ⟨ht, hts⟩ := List.forall_mem_cons.1 h
    rw [stripTypes, convertTypes, convertTypes]
    rw [declsOfTypes] at hallow ⊢
    refine .bind ((ht s x y hxy hs (hallow.mono (by simp))).inside (by simp))
      fun ty z w _ hzw hxz => ?_
    exact .bind_pure ((ih hts hzw (Nat.lt_of_lt_of_le hs hxz.grows.size_le)
      (hallow.mono (by simp))).inside (by simp)) (fun _ => rfl) fun _ _ _ => trivial

/-- Converting a type that may be missing couples when converting the type does. -/
theorem convertType?_couples {t : Option TypeExpr} (h : ∀ u ∈ t, TypeCouples K u)
    (hxy : K.Related x y) (hs : s.scope < x.atlas.size) (hallow : K.Allows (declsOfType? t)) :
    Couples K (declsOfType? t) (convertType? (K.left s) t)
      (convertType? (K.right s) (stripType? K.drop t)) x y (Option.map (Ty.rename K.rename))
      fun _ _ => True := by
  cases t with
  | none =>
    rw [stripType?, convertType?, convertType?]
    exact .pure hxy rfl trivial
  | some t =>
    rw [stripType?, convertType?, convertType?]
    exact .bind_pure (h t rfl s x y hxy hs hallow) (fun _ => rfl) fun _ _ _ => trivial

/-- Converting a signature that may be missing couples when converting the signature does. -/
theorem convertSignature?_couples {w : Option Signature} {name : String} {kind : Kind}
    {comment : Option Comment} {flags : Flags} (h : ∀ v ∈ w, SignatureCouples K v)
    (hxy : K.Related x y) (hs : s.scope < x.atlas.size) (hallow : K.Allows (declsOfSignature? w))
    (hk : kind ∈ Kind.someSignature) :
    Couples K (declsOfSignature? w) (convertSignature? (K.left s) name kind comment flags w)
      (convertSignature? (K.right s) name kind comment flags (stripSignature? K.drop w)) x y
      K.rename fun _ _ => True := by
  cases w with
  | none =>
    rw [stripSignature?, convertSignature?, convertSignature?]
    exact (openSignature_couples hxy hs hk).weaken fun _ _ _ => trivial
  | some w =>
    rw [stripSignature?, convertSignature?, convertSignature?]
    exact h w rfl s name kind comment flags x y hxy hs hallow hk

/-- Some declarations at one place, of which those to drop do nothing. -/
theorem convertDecls_couples (h : ∀ d ∈ ds, DeclCouples K d) (hxy : K.Related x y)
    (hs : x.atlas.Hosts s.scope) (hallow : K.Allows (declsOf ds))
    (hfits : K.Fits x.atlas s.scope top (declsOf ds)) :
    Couples K (declsOf ds) (convertDecls (K.left s) ds)
      (convertDecls (K.right s) (stripDecls K.drop top ds)) x y (List.map K.rename)
      fun _ _ => True := by
  induction ds generalizing x y with
  | nil =>
    rw [stripDecls, convertDecls, convertDecls]
    exact .pure hxy rfl trivial
  | cons d ds ih =>
    obtain ⟨hd, hds⟩ := List.forall_mem_cons.1 h
    have hhead : d :: d.nested ⊆ declsOf (d :: ds) := by
      rw [declsOf]
      exact List.cons_subset_cons _ (List.subset_append_left _ _)
    have htail : declsOf ds ⊆ declsOf (d :: ds) := by
      rw [declsOf]
      exact List.subset_cons_of_subset _ (List.subset_append_right _ _)
    rw [stripDecls, convertDecls]
    split
    · next hdrop =>
      have hnone : (convertDecl (K.left s) d).run x = (none, x) :=
        convertDecl_unwanted (K.drop_declared hdrop) hs fun k hk =>
          K.drop_unwanted hdrop (hfits.tops hk)
      have hrest := (ih hds hxy hs (hallow.mono htail) (hfits.mono htail)).inside htail
      refine .skip hnone ?_
      exact ⟨hrest.value, hrest.related, hrest.kept, hrest.spares, trivial⟩
    · next hkeep =>
      rw [convertDecls]
      refine .bind ((hd top s x y hxy hs (hallow.mono hhead) (hfits.mono hhead)
        (Bool.eq_false_iff.2 hkeep)).inside hhead) fun first z w _ hzw hxz => ?_
      have hrest := ih hds hzw (hxz.grows.hosts hs) (hallow.mono htail)
        ((hfits.kept hxz (List.Subset.refl _) hs.lt).mono htail)
      refine .bind_pure (hrest.inside htail) (fun rest => ?_) fun _ _ _ => trivial
      rw [List.map_append]
      cases first <;> rfl

/-- Converting parameters couples when converting their types does. -/
theorem convertParams_couples {ps : List Param} {comment : Option Comment} {owner : EntryId}
    (h : ∀ p ∈ ps, ∀ t ∈ p.type, TypeCouples K t) (hxy : K.Related x y)
    (hs : s.scope < x.atlas.size) (hroot : owner ≠ Atlas.root)
    (hallow : K.Allows (declsOfParams ps)) :
    Couples K (declsOfParams ps) (convertParams (K.left s) owner comment ps)
      (convertParams (K.right s) (K.rename owner) comment (stripParams K.drop ps)) x y id
      fun _ _ => True := by
  induction ps generalizing x y with
  | nil =>
    rw [stripParams, convertParams, convertParams]
    exact .pure hxy rfl trivial
  | cons p ps ih =>
    obtain ⟨name, type, optional, rest, defaultValue⟩ := p
    obtain ⟨hp, hps⟩ := List.forall_mem_cons.1 h
    rw [stripParams, convertParams, convertParams]
    rw [declsOfParams] at hallow ⊢
    refine .bind (openParameter_couples hxy hs rfl rfl rfl rfl) fun j z w hj hzw hxz => ?_
    obtain ⟨rfl, hpar⟩ := hj
    have hnew : x.atlas.size ≠ Atlas.root := Nat.ne_of_gt (K.identified hxy).zero_lt_size
    refine .bind ((convertType?_couples (s := s.within x.atlas.size []) hp hzw hpar.lt
      (hallow.mono (by simp))).inside (by simp)) fun ty z' w' _ hzw' hzz' => ?_
    refine .bind (fillParameter_couples hzw' hnew (hzz'.grows.isParameter hpar))
      fun _ v u _ hvu hzv => ?_
    refine .bind (.changeShape (U := fun _ _ => True) hvu hroot (fun shape => ?_) fun _ => trivial)
      fun _ v' u' _ hvu' hvv' => ?_
    · simp [Shape.rename]
    have hgrows := (((hxz.trans hzz').trans hzv).trans hvv').grows
    exact (ih hps hvu' (Nat.lt_of_lt_of_le hs hgrows.size_le) (hallow.mono (by simp))).inside
      (by simp)

/-- Converting type parameters couples when converting their constraints and defaults does. -/
theorem convertTypeParams_couples {ps : List TypeParam} {owner : EntryId} {bound : List String}
    (h : ∀ p ∈ ps, p.All (TypeCouples K)) (hxy : K.Related x y) (ho : owner < x.atlas.size)
    (hroot : owner ≠ Atlas.root)
    (howner : x.atlas.isDeclaration owner = false ∨
      ∀ s, x.atlas.symbolOf owner = some s → K.Carried s)
    (hallow : K.Allows (declsOfTypeParams ps)) :
    Couples K (declsOfTypeParams ps) (convertTypeParams (K.left s) owner bound ps)
      (convertTypeParams (K.right s) (K.rename owner) bound (stripTypeParams K.drop ps)) x y id
      fun _ _ => True := by
  induction ps generalizing x y bound with
  | nil =>
    rw [stripTypeParams, convertTypeParams, convertTypeParams]
    exact .pure hxy rfl trivial
  | cons p ps ih =>
    obtain ⟨name, constraint, default⟩ := p
    obtain ⟨⟨hc, hd⟩, hps⟩ := List.forall_mem_cons.1 h
    rw [stripTypeParams, convertTypeParams, convertTypeParams]
    rw [declsOfTypeParams] at hallow ⊢
    refine .bind (openTypeParameter_couples hxy ho hroot howner) fun j z w hj hzw hxz => ?_
    obtain ⟨rfl, hpar⟩ := hj
    have hnew : x.atlas.size ≠ Atlas.root := Nat.ne_of_gt (K.identified hxy).zero_lt_size
    refine .bind ((convertType?_couples (s := s.within x.atlas.size (name :: bound)) hc hzw hpar.lt
      (hallow.mono (by simp))).inside (by simp)) fun limit z' w' _ hzw' hzz' => ?_
    have hpar' := hzz'.grows.isTypeParameter hpar
    refine .bind ((convertType?_couples (s := s.within x.atlas.size (name :: bound)) hd hzw'
      hpar'.lt (hallow.mono (by simp))).inside (by simp)) fun standard v u _ hvu hzv => ?_
    refine .bind (fillTypeParameter_couples hvu hnew (hzv.grows.isTypeParameter hpar'))
      fun _ v' u' _ hvu' hvv' => ?_
    have hgrows := (((hxz.trans hzz').trans hzv).trans hvv').grows
    refine (ih hps hvu' (Nat.lt_of_lt_of_le ho hgrows.size_le) ?_ (hallow.mono (by simp))).inside
      (by simp)
    rw [hgrows.isDeclaration_eq ho, hgrows.symbolOf_eq ho]
    exact howner

/-- Converting what a signature returns couples when converting its types does. -/
theorem convertResult?_couples {w : Option Signature} (h : ∀ v ∈ w, v.All (TypeCouples K))
    (hxy : K.Related x y) (hs : s.scope < x.atlas.size)
    (hallow : K.Allows (declsOfSignature? w)) :
    Couples K (declsOfSignature? w) (convertResult? (K.left s) w)
      (convertResult? (K.right s) (stripSignature? K.drop w)) x y
      (Option.map (Ty.rename K.rename)) fun _ _ => True := by
  cases w with
  | none =>
    rw [stripSignature?, convertResult?, convertResult?]
    exact .pure hxy rfl trivial
  | some w =>
    obtain ⟨parameters, result, typeParameters⟩ := w
    rw [stripSignature?, Signature.strip, convertResult?, convertResult?]
    rw [declsOfSignature?, Signature.decls] at hallow ⊢
    exact (convertType?_couples (h _ rfl).2.1 hxy hs (hallow.mono (by simp))).inside (by simp)

/-- Converting the type of a first parameter couples when converting the types of the signature
does. -/
theorem convertFirstParam?_couples {w : Option Signature} (h : ∀ v ∈ w, v.All (TypeCouples K))
    (hxy : K.Related x y) (hs : s.scope < x.atlas.size)
    (hallow : K.Allows (declsOfSignature? w)) :
    Couples K (declsOfSignature? w) (convertFirstParam? (K.left s) w)
      (convertFirstParam? (K.right s) (stripSignature? K.drop w)) x y
      (Option.map (Ty.rename K.rename)) fun _ _ => True := by
  cases w with
  | none => exact .pure hxy rfl trivial
  | some w =>
    obtain ⟨parameters, result, typeParameters⟩ := w
    cases parameters with
    | nil => exact .pure hxy rfl trivial
    | cons p ps =>
      obtain ⟨name, type, optional, rest, defaultValue⟩ := p
      rw [stripSignature?, Signature.strip, stripParams, convertFirstParam?, convertFirstParam?]
      rw [declsOfSignature?, Signature.decls, declsOfParams] at hallow ⊢
      have htype := (List.forall_mem_cons.1 (h _ rfl).1).1
      exact (convertType?_couples htype hxy hs (hallow.mono (by simp))).inside (by simp)

/-! ## One of them -/

/-- Converting a type couples when converting its arguments, its members and its signature does. -/
theorem type_couples {t : TypeExpr} (ha : ∀ u ∈ t.arguments, TypeCouples K u)
    (hm : ∀ d ∈ t.members, DeclCouples K d) (hw : ∀ w ∈ t.signature, SignatureCouples K w) :
    TypeCouples K t := by
  intro s x y hxy hs hallow
  obtain ⟨form, name, symbol, arguments, members, signature, text⟩ := t
  rw [TypeExpr.decls] at hallow ⊢
  rw [TypeExpr.strip]
  have hargs : declsOfTypes arguments ⊆
      declsOfTypes arguments ++ declsOf members ++ declsOfSignature? signature := by simp
  have hmembers : declsOf members ⊆
      declsOfTypes arguments ++ declsOf members ++ declsOfSignature? signature := by simp
  have args := (convertTypes_couples ha hxy hs (hallow.mono hargs)).inside hargs
  cases form with
  | intrinsic => exact .pure hxy rfl trivial
  | reference =>
    have hempty : (stripTypes K.drop arguments).isEmpty = arguments.isEmpty := by
      cases arguments <;> rfl
    rw [convertType, convertType, hempty, show (K.right s).bound = (K.left s).bound from rfl]
    split
    · exact .pure hxy rfl trivial
    · refine .bind_pure args (fun tys => ?_) fun _ _ _ => trivial
      rw [Ty.rename, Ty.renameList_eq_map]
      rfl
  | union | intersection | tuple =>
    refine .bind_pure args (fun tys => ?_) fun _ _ _ => trivial
    rw [Ty.rename, Ty.renameList_eq_map]
  | array =>
    cases arguments with
    | nil => exact .pure hxy rfl trivial
    | cons element rest =>
      have helement := (List.forall_mem_cons.1 ha).1
      rw [declsOfTypes] at hallow ⊢
      exact .bind_pure ((helement s x y hxy hs (hallow.mono (by simp))).inside (by simp))
        (fun _ => rfl) fun _ _ _ => trivial
  | stringLiteral => exact .pure hxy rfl trivial
  | object =>
    rw [convertType, convertType]
    refine inlineType_couples hxy hs fun z w hzw hz hkind hsymbol => ?_
    refine fillContainer_couples hzw (.inside hmembers fun bound z' w' hzw' hzz' => ?_)
    -- An inline declaration has no symbol, so nothing below repeats it, and it is of no top kind.
    have hfits : K.Fits z'.atlas x.atlas.size false (declsOf members) := fun _ =>
      ⟨Atlas.outside_of_symbolOf_eq_none ((hzz'.grows.symbolOf_eq hz.lt).trans hsymbol), _,
        (hzz'.kinds _ hz.lt (Atlas.outside_of_symbolOf_eq_none hsymbol)).trans hkind, by decide⟩
    exact convertDecls_couples (s := s.within x.atlas.size bound) hm hzw' (hzz'.grows.hosts hz)
      (hallow.mono hmembers) hfits
  | function =>
    cases signature with
    | none =>
      rw [stripSignature?, convertType, convertType]
      exact inlineType_couples hxy hs fun z w hzw _ _ _ => .pure hzw rfl trivial
    | some v =>
      rw [stripSignature?, convertType, convertType]
      refine inlineType_couples hxy hs fun z w hzw hz _ _ => ?_
      have hnew : x.atlas.size ≠ Atlas.root := Nat.ne_of_gt (K.identified hxy).zero_lt_size
      refine fillCallable_couples hzw hnew rfl fun shown bound z' w' hzw' hzz' => ?_
      have hlt := Nat.lt_of_lt_of_le hz.lt hzz'.grows.size_le
      exact (hw v rfl (s.within x.atlas.size bound) shown _ _ _ z' w' hzw' hlt
        (hallow.mono (by simp [declsOfSignature?])) (by decide)).inside
          (by simp [declsOfSignature?])
  | unknown => exact .pure hxy rfl trivial

/-- Converting a signature couples when converting the types that are written on it does. -/
theorem signature_couples {w : Signature} (h : w.All (TypeCouples K)) : SignatureCouples K w := by
  intro s name kind comment flags x y hxy hs hallow hk
  obtain ⟨parameters, result, typeParameters⟩ := w
  obtain ⟨hps, hr, htps⟩ := h
  rw [Signature.decls] at hallow ⊢
  rw [Signature.strip, convertSignature, convertSignature]
  refine .bind (openSignature_couples hxy hs hk) fun j z w hj hzw hxz => ?_
  obtain ⟨rfl, hlt, hsignature⟩ := hj
  have hnew : x.atlas.size ≠ Atlas.root := Nat.ne_of_gt (K.identified hxy).zero_lt_size
  refine .bind ((convertTypeParams_couples htps hzw hlt hnew (Or.inl hsignature)
    (hallow.mono (by simp))).inside (by simp)) fun bound z' w' _ hzw' hzz' => ?_
  have hlt' := Nat.lt_of_lt_of_le hlt hzz'.grows.size_le
  refine .bind ((convertParams_couples (s := s.within x.atlas.size bound) hps hzw' hlt' hnew
    (hallow.mono (by simp))).inside (by simp)) fun _ v u _ hvu hzv => ?_
  have hlt'' := Nat.lt_of_lt_of_le hlt' hzv.grows.size_le
  refine .bind ((convertType?_couples (s := s.within x.atlas.size bound) hr hvu hlt''
    (hallow.mono (by simp))).inside (by simp)) fun type v' u' _ hvu' hvv' => ?_
  refine .bind (.changeShape (U := fun _ _ => True) hvu' hnew (fun _ => rfl) fun _ => trivial)
    fun _ r t _ hrt hvr => ?_
  exact .then_pure (checkOrder_couples hrt) rfl

/-! ## Declarations -/

/-- The report on a kind of declaration that is not converted couples. -/
theorem reportUnsupported_couples {d : Decl} (h : K.Related x y) :
    Couples K ds (reportUnsupported (K.left s) d) (reportUnsupported (K.right s) (d.strip K.drop))
      x y id fun _ _ => True := by
  obtain ⟨kind, name, symbol, children, modifiers, type, signature, typeParameters, bases,
    interfaces, comment, defaultValue, origin, file, line, form⟩ := d
  rw [Decl.strip]
  exact .report h fun _ _ => trivial

/-- The members of an entry couple, when the kind of the entry tells whether what stands in the
declaration stands at the top. -/
theorem members_couple {d : Decl} {kind : Kind} {i : EntryId}
    (hc : ∀ c ∈ d.children, DeclCouples K c) (hallow : K.Allows (d :: d.nested))
    (hi : x.atlas.Declares i d.symbol false) (hlike : KindLike kind x i)
    (htop : kind.isIn Kind.topKinds = d.kind.opensTop) :
    PartCouples K d.nested s i x (fun s => convertDecls s d.children)
      (fun s => convertDecls s (stripDecls K.drop d.kind.opensTop d.children))
      (List.map K.rename) := by
  have hchildren := d.children_subset_nested
  have hinner := hallow.mono (List.subset_cons_self d d.nested)
  refine .inside hchildren fun bound z w hzw hxz => ?_
  have hfits := (hallow.fits hi hlike).kept hxz (List.Subset.refl _) hi.lt
  rw [htop] at hfits
  exact convertDecls_couples (s := s.within i bound) hc hzw (hxz.grows.hosts hi.hosts)
    (hinner.mono hchildren) (hfits.mono hchildren)

/-- Declaring and filling an accessor couples, whichever of its two kinds it gets: the scopes of the
two conversions are of one kind. -/
theorem accessor_couples {d : Decl} {name : Option String} {comment : Option Comment}
    {fill fill' : EntryId → Conv Unit} (h : K.Related x y) (hs : x.atlas.Hosts s.scope)
    (hcarried : ∀ symbol, d.Carries symbol → K.Carried symbol)
    (hwanted : ∀ k, x.atlas.kindAt s.scope = some k → isWanted K.after k d = isWanted K.before k d)
    (hmem : d ∈ ds)
    (hfill : ∀ j z w, K.Related z w → z.atlas.Declares j d.symbol true →
      Couples K ds (fill j) (fill' (K.rename j)) z w id fun _ _ => True) :
    Couples K ds
      (ask (fun a => ((a.get? (K.left s).scope).map (·.kind)).getD (.mixed 0)) >>= fun k =>
        declareAnd (K.left s) d (accessorKind k comment) name fill)
      (ask (fun a => ((a.get? (K.right s).scope).map (·.kind)).getD (.mixed 0)) >>= fun k =>
        declareAnd (K.right s) (d.strip K.drop) (accessorKind k comment) name fill')
      x y (Option.map K.rename) fun _ _ => True := by
  have hscope : ((y.atlas.get? (K.right s).scope).map (·.kind)).getD (.mixed 0) =
      ((x.atlas.get? (K.left s).scope).map (·.kind)).getD (.mixed 0) :=
    congrArg (·.getD (.mixed 0)) (Coupling.kindAt_eq h s.scope)
  refine .ask_bind ?_
  rw [hscope]
  rcases accessorKind_eq (((x.atlas.get? (K.left s).scope).map (·.kind)).getD (.mixed 0)) comment
    with hkind | hkind <;> rw [hkind]
  · exact declareAnd_couples h hs hcarried hwanted (by decide) (by decide) hmem
      fun j z w hzw hj _ => hfill j z w hzw hj
  · exact declareAnd_couples h hs hcarried hwanted (by decide) (by decide) hmem
      fun j z w hzw hj _ => hfill j z w hzw hj

/-- Converting a declaration couples when converting what stands in it and what is written on it
does: there is one case for each way to fill an entry. -/
theorem decl_couples {d : Decl} (hc : ∀ c ∈ d.children, DeclCouples K c)
    (ht : ∀ t ∈ d.type, TypeCouples K t)
    (hw : ∀ w ∈ d.signature, SignatureCouples K w ∧ w.All (TypeCouples K))
    (hp : ∀ p ∈ d.typeParameters, p.All (TypeCouples K)) (hb : ∀ t ∈ d.bases, TypeCouples K t)
    (hi : ∀ t ∈ d.interfaces, TypeCouples K t) : DeclCouples K d := by
  intro top s x y hxy hs hallow hfits hkeep
  have hwanted : d.kind.isDeclared = true → ∀ k, x.atlas.kindAt s.scope = some k →
      isWanted K.after k d = isWanted K.before k d :=
    fun hd k hk => K.keep_wanted hkeep hd (hfits.tops hk)
  have hself : d ∈ d :: d.nested := List.mem_cons_self ..
  have hcarried := hallow.carried d hself
  have hnested : d.nested ⊆ d :: d.nested := List.subset_cons_self ..
  have hinner := hallow.mono hnested
  have hwritten := d.written_subset_nested
  have htype := List.Subset.trans d.type_subset_written hwritten
  have hsignature := List.Subset.trans d.signature_subset_written hwritten
  have hparams := List.Subset.trans d.typeParameters_subset_written hwritten
  have hbases := List.Subset.trans d.bases_subset_written hwritten
  have hinterfaces := List.Subset.trans d.interfaces_subset_written hwritten
  have signatures : ∀ w ∈ d.signature, SignatureCouples K w := fun w hmem => (hw w hmem).1
  have parts : ∀ w ∈ d.signature, w.All (TypeCouples K) := fun w hmem => (hw w hmem).2
  -- What is declared is filled inside of the declaration, and only what is nested there may matter.
  have declared : ∀ {k : Kind} {name : Option String} {fill fill' : EntryId → Conv Unit},
      d.kind.isDeclared = true → k.IsBasic → k ≠ .typeLiteral →
      (∀ j z w, K.Related z w → z.atlas.Declares j d.symbol (k.isIn Kind.accessorLike) →
        KindLike k z j →
        Couples K d.nested (fill j) (fill' (K.rename j)) z w id fun _ _ => True) →
      Couples K (d :: d.nested) (declareAnd (K.left s) d k name fill)
        (declareAnd (K.right s) (d.strip K.drop) k name fill') x y (Option.map K.rename)
        fun _ _ => True :=
    fun hd hk hl hfill => declareAnd_couples hxy hs hcarried (hwanted hd) hk hl hself
      fun j z w hzw hj hlike => (hfill j z w hzw hj hlike).inside hnested
  obtain ⟨kind, name, symbol, children, modifiers, type, signature, typeParameters, bases,
    interfaces, comment, defaultValue, origin, file, line, form⟩ := d
  cases kind with
  | module | «namespace» | enum =>
    rw [Decl.strip, convertDecl, convertDecl]
    exact declared rfl (by decide) (by decide) fun j z w hzw hj hlike =>
      fillContainer_couples hzw (members_couple hc hallow hj hlike rfl)
  | «class» | interface =>
    rw [Decl.strip, convertDecl, convertDecl]
    refine declared rfl (by decide) (by decide) fun j z w hzw hj hlike => ?_
    -- The class may get type parameters, since its own symbol may be declared.
    have hroot := (K.identified hzw).ne_root hj.isDeclaration
    have hown : ∀ s, z.atlas.symbolOf j = some s → K.Carried s :=
      fun s hs => hcarried s (hj.symbolOf.symm.trans hs)
    refine fillClass_couples hzw hroot hj.lt hown ?_ (.of_allowed hbases hinner hj.lt ?_)
      (.of_allowed hinterfaces hinner hj.lt ?_) (members_couple hc hallow hj hlike rfl)
    · exact (convertTypeParams_couples hp hzw hj.lt hroot (Or.inr hown)
        (hinner.mono hparams)).inside hparams
    · exact fun s z w => convertTypes_couples hb
    · exact fun s z w => convertTypes_couples hi
  | function | method =>
    rw [Decl.strip, convertDecl, convertDecl]
    refine declared rfl (by decide) (by decide) fun j z w hzw hj _ => ?_
    refine fillCallable_couples hzw ((K.identified hzw).ne_root hj.isDeclaration)
      (Coupling.nameOf_eq hzw j) fun shown => .of_allowed hsignature hinner hj.lt ?_
    exact fun s z w hzw hs hallow => convertSignature?_couples signatures hzw hs hallow (by decide)
  | constructor =>
    rw [Decl.strip, convertDecl, convertDecl]
    refine declared rfl (by decide) (by decide) fun j z w hzw hj _ => ?_
    -- The signature is named for the class, which is the scope and has the same name on both sides.
    refine fillCallable_couples hzw ((K.identified hzw).ne_root hj.isDeclaration)
      (congrArg ("new " ++ ·) (Coupling.nameOf_eq hzw s.scope))
      fun shown => .of_allowed hsignature hinner hj.lt ?_
    exact fun s z w hzw hs hallow => convertSignature?_couples signatures hzw hs hallow (by decide)
  | callSignature | constructSignature =>
    rw [Decl.strip, convertDecl, convertDecl]
    exact addCallable_couples hxy ((convertSignature?_couples signatures hxy hs.lt
      (hinner.mono hsignature) (by decide)).inside (List.Subset.trans hsignature hnested))
  | indexSignature =>
    rw [Decl.strip, convertDecl, convertDecl]
    exact addIndex_couples hxy ((convertSignature?_couples signatures hxy hs.lt
      (hinner.mono hsignature) (by decide)).inside (List.Subset.trans hsignature hnested))
  | getAccessor =>
    rw [Decl.strip, convertDecl, convertDecl]
    refine accessor_couples hxy hs hcarried (hwanted rfl) hself fun j z w hzw hj =>
      .inside (fillAccessor_couples hzw hj.isDeclaration ?_
        (.of_allowed hsignature hinner hj.lt fun s z w hzw hs hallow =>
          convertSignature?_couples signatures hzw hs hallow (by decide))) hnested
    rw [isSome_stripType?]
    cases type.isSome with
    | true => exact .of_allowed htype hinner hj.lt fun s z w => convertType?_couples ht
    | false => exact .of_allowed hsignature hinner hj.lt fun s z w => convertResult?_couples parts
  | setAccessor =>
    rw [Decl.strip, convertDecl, convertDecl]
    refine accessor_couples hxy hs hcarried (hwanted rfl) hself fun j z w hzw hj =>
      .inside (fillAccessor_couples hzw hj.isDeclaration ?_
        (.of_allowed hsignature hinner hj.lt fun s z w hzw hs hallow =>
          convertSignature?_couples signatures hzw hs hallow (by decide))) hnested
    rw [isSome_stripType?]
    cases type.isSome with
    | true => exact .of_allowed htype hinner hj.lt fun s z w => convertType?_couples ht
    | false =>
      exact .of_allowed hsignature hinner hj.lt fun s z w => convertFirstParam?_couples parts
  | «variable» | property | enumMember =>
    rw [Decl.strip, convertDecl, convertDecl]
    refine declared rfl (by decide) (by decide) fun j z w hzw hj _ => ?_
    exact fillValue_couples hzw ((K.identified hzw).ne_root hj.isDeclaration)
      (.of_allowed htype hinner hj.lt fun s z w => convertType?_couples ht)
  | typeAlias =>
    rw [Decl.strip, convertDecl, convertDecl]
    refine declared rfl (by decide) (by decide) fun j z w hzw hj _ => ?_
    have hroot := (K.identified hzw).ne_root hj.isDeclaration
    refine fillAlias_couples hzw hroot ?_
      (.of_allowed htype hinner hj.lt fun s z w => convertType?_couples ht)
    exact (convertTypeParams_couples hp hzw hj.lt hroot (Or.inr fun s hs =>
      hcarried s (hj.symbolOf.symm.trans hs)) (hinner.mono hparams)).inside hparams
  | other =>
    rw [Decl.strip, convertDecl, convertDecl]
    exact .then_pure (reportUnsupported_couples hxy) rfl

/-- All that is written couples, by induction on how it is nested. -/
theorem coupledWalk (K : Coupling) :
    Steps (TypeCouples K) (SignatureCouples K) (DeclCouples K) where
  type _ := type_couples
  signature _ := signature_couples
  decl _ := decl_couples

/-! ## Files -/

/-- The declarations of a file couple with what is left of them. -/
theorem topDecls_couples {f : File} {s : Site} (h : K.Related x y)
    (hscope : s.scope = Atlas.root) (hmodule : K.drop true f.toModule = false) {mode : Mode}
    (hallow : K.Allows (declsOf (f.topDecls mode))) :
    Couples K (declsOf (f.topDecls mode)) (convertDecls (K.left s) (f.topDecls mode))
      (convertDecls (K.right s) ((f.strip K.drop).topDecls mode)) x y (List.map K.rename)
      fun _ _ => True := by
  have hx := K.identified h
  rw [File.topDecls_strip hmodule]
  refine convertDecls_couples (fun d _ => (coupledWalk K).of_decl d) h ?_ hallow fun _ => ?_
  · rw [hscope]
    exact hx.hosts_root
  · obtain ⟨e, m, he, -, hk, -⟩ := hx.project
    rw [hscope]
    exact ⟨hx.outside_root _, .project, by rw [Atlas.kindAt, he, Option.map_some, hk], by decide⟩

end Conv

end ApiAtlas
