import ApiAtlas.Proofs.Conversion.Law
import ApiAtlas.Proofs.Conversion.Walk

/-!
# Conversion upholds laws

Converting types, signatures and declarations upholds every law, by induction on how they are
nested. What is asked of a program is that its declarations fit at the top, and that the members of
its inline objects may be such members.
-/

set_option autoImplicit false

namespace ApiAtlas

open Source (Decl TypeExpr Signature Param TypeParam inlinedOf inlinedOfTypes inlinedOfType?
  inlinedOfSignature? inlinedOfParams inlinedOfTypeParams)

namespace Law

/-- Whether some declarations may all be members of inline objects. -/
def Admits (L : Law) (ms : List Decl) : Prop :=
  ∀ m ∈ ms, L.Inside m

variable {L : Law} {ms ms' : List Decl}

/-- The declarations of two lists may be members of inline objects just when those of each may. -/
theorem admits_append : L.Admits (ms ++ ms') ↔ L.Admits ms ∧ L.Admits ms' :=
  List.forall_mem_append

end Law

namespace Conv

variable {L : Law} {x : Draft} {s : Site}

/-- Whether converting a type upholds a law. -/
def TypeUpholds (L : Law) (t : TypeExpr) : Prop :=
  L.Admits t.inlined → ∀ (s : Site) (x : Draft), L.Obeyed x →
    (convertType s t).Upholds L x fun _ _ => True

/-- Whether converting a signature upholds a law. -/
def SignatureUpholds (L : Law) (w : Signature) : Prop :=
  L.Admits w.inlined → ∀ (s : Site) name kind comment flags (x : Draft), L.Obeyed x →
    kind ∈ Kind.someSignature →
    (convertSignature s name kind comment flags w).Upholds L x fun _ _ => True

/-- Whether converting a declaration upholds a law wherever the declaration fits. -/
def DeclUpholds (L : Law) (d : Decl) : Prop :=
  L.Admits d.inlined → ∀ (s : Site) (x : Draft), L.Obeyed x → L.Fits x.atlas s.scope d →
    (convertDecl s d).Upholds L x fun _ _ => True

/-! ## Lists and options -/

/-- Converting a list of types upholds a law when converting each of them does. -/
theorem convertTypes_upholds {ts : List TypeExpr} (h : ∀ t ∈ ts, TypeUpholds L t)
    (hin : L.Admits (inlinedOfTypes ts)) (hx : L.Obeyed x) :
    (convertTypes s ts).Upholds L x fun _ _ => True := by
  induction ts generalizing x with
  | nil => exact .pure hx trivial
  | cons t ts ih =>
    obtain ⟨ht, hts⟩ := List.forall_mem_cons.1 h
    rw [inlinedOfTypes, Law.admits_append] at hin
    exact .bind (ht hin.1 s x hx) fun _ y _ hxy =>
      .bind (ih hts hin.2 hxy.obeyed) fun _ _ _ hyz => .pure hyz.obeyed trivial

/-- Converting a type that may be missing upholds a law when converting the type does. -/
theorem convertType?_upholds {t : Option TypeExpr} (h : ∀ u ∈ t, TypeUpholds L u)
    (hin : L.Admits (inlinedOfType? t)) (hx : L.Obeyed x) :
    (convertType? s t).Upholds L x fun _ _ => True := by
  cases t with
  | none => exact .pure hx trivial
  | some t => exact .bind (h t rfl hin s x hx) fun _ _ _ hxy => .pure hxy.obeyed trivial

/-- Converting a signature that may be missing upholds a law when converting the signature does. -/
theorem convertSignature?_upholds {w : Option Signature} {name : String} {kind : Kind}
    {comment : Option Comment} {flags : Flags} (h : ∀ v ∈ w, SignatureUpholds L v)
    (hin : L.Admits (inlinedOfSignature? w)) (hx : L.Obeyed x) (hk : kind ∈ Kind.someSignature) :
    (convertSignature? s name kind comment flags w).Upholds L x fun _ _ => True := by
  cases w with
  | none => exact (openSignature_upholds hx hk).weaken
  | some w => exact h w rfl hin s name kind comment flags x hx hk

/-- Converting declarations that fit into a scope upholds a law when converting each of them does.
-/
theorem convertDecls_upholds {ds : List Decl} (h : ∀ d ∈ ds, DeclUpholds L d)
    (hin : L.Admits (inlinedOf ds)) (hx : L.Obeyed x)
    (hfits : ∀ d ∈ ds, L.Fits x.atlas s.scope d) :
    (convertDecls s ds).Upholds L x fun _ _ => True := by
  induction ds generalizing x with
  | nil => exact .pure hx trivial
  | cons d ds ih =>
    obtain ⟨hd, hds⟩ := List.forall_mem_cons.1 h
    obtain ⟨hfit, hfits⟩ := List.forall_mem_cons.1 hfits
    rw [inlinedOf, Law.admits_append] at hin
    refine .bind (hd hin.1 s x hx hfit) fun _ y _ hxy => ?_
    exact .bind (ih hds hin.2 hxy.obeyed fun c hc => L.grow hxy.lookup (hfits c hc))
      fun _ _ _ hyz => .pure hyz.obeyed trivial

/-- Converting parameters upholds a law when converting their types does. -/
theorem convertParams_upholds {owner : EntryId} {comment : Option Comment} {ps : List Param}
    (h : ∀ p ∈ ps, ∀ t ∈ p.type, TypeUpholds L t) (hin : L.Admits (inlinedOfParams ps))
    (hx : L.Obeyed x) : (convertParams s owner comment ps).Upholds L x fun _ _ => True := by
  induction ps generalizing x with
  | nil => exact .pure hx trivial
  | cons p ps ih =>
    obtain ⟨name, type, optional, rest, defaultValue⟩ := p
    obtain ⟨htype, hps⟩ := List.forall_mem_cons.1 h
    rw [inlinedOfParams, Law.admits_append] at hin
    rw [convertParams]
    refine .bind (openParameter_upholds hx) ?_
    rintro id y rfl hxy
    refine .bind (convertType?_upholds htype hin.1 hxy.obeyed) fun converted z _ hyz => ?_
    refine .bind (.changeEntry hyz.obeyed hx.holds fun e _ =>
      .fill _ (Nat.le_refl _) trivial) fun _ v _ hzv => ?_
    refine .bind (.changeShape hzv.obeyed hzv.obeyed.holds fun e shape hb =>
      .parameter shape _ hb) fun _ u _ hvu => ?_
    exact ih hps hin.2 hvu.obeyed

/-- Converting type parameters upholds a law when converting their constraints and defaults does. -/
theorem convertTypeParams_upholds {owner : EntryId} {bound : List String} {ps : List TypeParam}
    (h : ∀ p ∈ ps, p.All (TypeUpholds L)) (hin : L.Admits (inlinedOfTypeParams ps))
    (hx : L.Obeyed x) : (convertTypeParams s owner bound ps).Upholds L x fun _ _ => True := by
  induction ps generalizing x bound with
  | nil => exact .pure hx trivial
  | cons p ps ih =>
    obtain ⟨name, constraint, default⟩ := p
    obtain ⟨⟨hconstraint, hdefault⟩, hps⟩ := List.forall_mem_cons.1 h
    rw [inlinedOfTypeParams, Law.admits_append, Law.admits_append] at hin
    obtain ⟨⟨hinc, hind⟩, hin⟩ := hin
    rw [convertTypeParams]
    refine .bind (openTypeParameter_upholds hx) ?_
    rintro id y rfl hxy
    refine .bind (convertType?_upholds hconstraint hinc hxy.obeyed) fun limit z _ hyz => ?_
    refine .bind (convertType?_upholds hdefault hind hyz.obeyed) fun standard v _ hzv => ?_
    refine .bind (.changeEntry hzv.obeyed hx.holds fun e _ =>
      .fill _ (Nat.le_refl _) trivial) fun _ u _ hvu => ?_
    exact ih hps hin hvu.obeyed

/-- Converting what a signature returns upholds a law when converting its types does. -/
theorem convertResult?_upholds {w : Option Signature} (h : ∀ v ∈ w, v.All (TypeUpholds L))
    (hin : L.Admits (inlinedOfSignature? w)) (hx : L.Obeyed x) :
    (convertResult? s w).Upholds L x fun _ _ => True := by
  cases w with
  | none => exact .pure hx trivial
  | some w =>
    obtain ⟨parameters, result, typeParameters⟩ := w
    rw [inlinedOfSignature?, Signature.inlined, Law.admits_append] at hin
    exact convertType?_upholds (h _ rfl).2.1 hin.2 hx

/-- Converting the type of a first parameter upholds a law when converting the types of the
signature does. -/
theorem convertFirstParam?_upholds {w : Option Signature}
    (h : ∀ v ∈ w, v.All (TypeUpholds L)) (hin : L.Admits (inlinedOfSignature? w))
    (hx : L.Obeyed x) : (convertFirstParam? s w).Upholds L x fun _ _ => True := by
  cases w with
  | none => exact .pure hx trivial
  | some w =>
    obtain ⟨parameters, result, typeParameters⟩ := w
    cases parameters with
    | nil => exact .pure hx trivial
    | cons p ps =>
      obtain ⟨name, type, optional, rest, defaultValue⟩ := p
      rw [inlinedOfSignature?, Signature.inlined, inlinedOfParams, Law.admits_append,
        Law.admits_append, Law.admits_append] at hin
      exact convertType?_upholds (List.forall_mem_cons.1 (h _ rfl).1).1 hin.1.2.1 hx

/-! ## One of them -/

/-- Converting a type upholds a law when converting its arguments, its members and its signature
does. -/
theorem type_upholds {t : TypeExpr} (ha : ∀ u ∈ t.arguments, TypeUpholds L u)
    (hm : ∀ d ∈ t.members, DeclUpholds L d) (hw : ∀ w ∈ t.signature, SignatureUpholds L w) :
    TypeUpholds L t := by
  intro hin s x hx
  obtain ⟨form, name, symbol, arguments, members, signature, text⟩ := t
  rw [TypeExpr.inlined, Law.admits_append, Law.admits_append, Law.admits_append] at hin
  obtain ⟨⟨⟨hinArguments, hinMembers⟩, hinBelow⟩, hinSignature⟩ := hin
  have args : (convertTypes s arguments).Upholds L x fun _ _ => True :=
    convertTypes_upholds ha hinArguments hx
  have parts : ∀ f : List Ty → Ty, (do return f (← convertTypes s arguments) : Conv Ty).Upholds L x
      fun _ _ => True := fun f => .bind args fun _ _ _ hxy => .pure hxy.obeyed trivial
  cases form with
  | intrinsic | stringLiteral | unknown => exact .pure hx trivial
  | reference =>
    rw [convertType]
    split
    · exact .pure hx trivial
    · exact parts _
  | union | intersection | tuple => exact parts _
  | array =>
    cases arguments with
    | nil => exact .pure hx trivial
    | cons element rest =>
      rw [inlinedOfTypes, Law.admits_append] at hinArguments
      have helement := (List.forall_mem_cons.1 ha).1
      exact .bind (helement hinArguments.1 s x hx) fun _ _ _ hxy => .pure hxy.obeyed trivial
  | object =>
    rw [convertType]
    refine inlineType_upholds hx fun id y hxy => fillContainer_upholds ?_
    exact convertDecls_upholds (s := s.within id []) hm hinBelow hxy.obeyed
      fun d hd => L.inside (hinMembers d hd)
  | function =>
    cases signature with
    | none =>
      rw [convertType]
      exact inlineType_upholds hx fun _ _ hxy => .pure hxy.obeyed trivial
    | some w =>
      rw [convertType]
      refine inlineType_upholds hx fun id y hxy => fillCallable_upholds fun shown => ?_
      exact hw w rfl hinSignature _ _ _ _ _ y hxy.obeyed (by decide)

/-- Converting a signature upholds a law when converting the types that are written on it does. -/
theorem signature_upholds {w : Signature} (h : w.All (TypeUpholds L)) : SignatureUpholds L w := by
  intro hin s name kind comment flags x hx hk
  obtain ⟨parameters, result, typeParameters⟩ := w
  obtain ⟨hps, hr, htps⟩ := h
  rw [Signature.inlined, Law.admits_append, Law.admits_append] at hin
  obtain ⟨⟨hinTypeParams, hinParams⟩, hinResult⟩ := hin
  rw [convertSignature]
  refine .bind (openSignature_upholds hx hk) ?_
  rintro id y rfl hxy
  refine .bind (convertTypeParams_upholds htps hinTypeParams hxy.obeyed) fun bound z _ hyz => ?_
  dsimp only
  refine .bind (convertParams_upholds hps hinParams hyz.obeyed) fun _ v _ hzv => ?_
  refine .bind (convertType?_upholds hr hinResult hzv.obeyed) fun type u _ hvu => ?_
  refine .bind (.changeShape hvu.obeyed hx.holds fun e shape _ => .fill _ (Nat.le_refl _) trivial)
    fun _ t _ hut => ?_
  exact .bind (checkOrder_upholds hut.obeyed) fun _ _ _ htr => .pure htr.obeyed trivial

/-! ## Declarations -/

/-- A declaration may be entered as the kind that its own kind stands for. -/
theorem becomes_kindOf (d : Decl) : d.Becomes (kindOf d.kind) := by
  refine ⟨?_, ?_, ?_⟩ <;> cases d.kind <;> decide

/-- An accessor may be entered as an accessor or as a constant. -/
theorem becomes_accessorKind (d : Decl) (scope : Kind) (comment : Option Comment) :
    d.Becomes (accessorKind scope comment) := by
  rcases accessorKind_eq scope comment with h | h <;> rw [h] <;>
    exact ⟨by decide, by decide, fun hin => absurd hin (by decide)⟩

/-- Converting a declaration upholds a law when converting what stands in it and what is written on
it does: there is one case for each way to fill an entry. -/
theorem decl_upholds {d : Decl} (hc : ∀ c ∈ d.children, DeclUpholds L c)
    (ht : ∀ t ∈ d.type, TypeUpholds L t)
    (hw : ∀ w ∈ d.signature, SignatureUpholds L w ∧ w.All (TypeUpholds L))
    (hp : ∀ p ∈ d.typeParameters, p.All (TypeUpholds L)) (hb : ∀ t ∈ d.bases, TypeUpholds L t)
    (hi : ∀ t ∈ d.interfaces, TypeUpholds L t) : DeclUpholds L d := by
  intro hin s x hx hfits
  have signatures : ∀ w ∈ d.signature, SignatureUpholds L w := fun w hmem => (hw w hmem).1
  have parts : ∀ w ∈ d.signature, w.All (TypeUpholds L) := fun w hmem => (hw w hmem).2
  have hbecomes := becomes_kindOf d
  -- What stands in a container fits into its entry, as soon as the symbol leads there.
  have hchild : ∀ {a : Atlas} {id : EntryId}, L.Fits a s.scope d →
      d.kind ∈ Source.DeclKind.containers → a.lookup d.symbol = some id →
      ∀ c ∈ d.children, L.Fits a id c := L.child
  obtain ⟨kind, name, symbol, children, modifiers, type, signature, typeParameters, bases,
    interfaces, comment, defaultValue, origin, file, line, form⟩ := d
  rw [Decl.inlined] at hin
  simp only [Law.admits_append] at hin
  obtain ⟨⟨⟨⟨⟨hinChildren, hinType⟩, hinSignature⟩, hinTypeParams⟩, hinBases⟩, hinInterfaces⟩ := hin
  have typed : ∀ {s : Site} {y : Draft}, L.Obeyed y →
      (convertType? s type).Upholds L y fun _ _ => True :=
    fun hy => convertType?_upholds ht hinType hy
  have called : ∀ {s : Site} {name : String} {kind : Kind} {flags : Flags} {y : Draft},
      L.Obeyed y → kind ∈ Kind.someSignature →
      (convertSignature? s name kind comment flags signature).Upholds L y fun _ _ => True :=
    fun hy hk => convertSignature?_upholds signatures hinSignature hy hk
  cases kind with
  | module | «namespace» | enum =>
    rw [convertDecl]
    refine declareAnd_upholds hx hfits hbecomes
      fun id y hid hxy => fillContainer_upholds ?_
    exact convertDecls_upholds (s := s.within id []) hc hinChildren hxy.obeyed
      (hchild (L.grow hxy.lookup hfits) (by simp [Source.DeclKind.containers]) hid)
  | «class» | interface =>
    rw [convertDecl]
    refine declareAnd_upholds hx hfits hbecomes fun id y hid hxy => ?_
    refine fillClass_upholds hxy.obeyed
      (convertTypeParams_upholds hp hinTypeParams hxy.obeyed)
      (fun bound z hyz => convertTypes_upholds hb hinBases hyz.obeyed)
      (fun bound z hyz => convertTypes_upholds hi hinInterfaces hyz.obeyed)
      fun bound z hyz => ?_
    exact convertDecls_upholds (s := s.within id bound) hc hinChildren hyz.obeyed
      (hchild (L.grow (hxy.trans hyz).lookup hfits) (by simp [Source.DeclKind.containers])
        (hyz.lookup _ _ hid))
  | function | method =>
    rw [convertDecl]
    exact declareAnd_upholds hx hfits hbecomes
      fun id y _ hxy => fillCallable_upholds fun _ => called hxy.obeyed (by decide)
  | constructor =>
    rw [convertDecl]
    exact declareAnd_upholds hx hfits hbecomes
      fun id y _ hxy => fillCallable_upholds fun _ => called hxy.obeyed (by decide)
  | callSignature | constructSignature =>
    rw [convertDecl]
    exact addCallable_upholds hx (called hx (by decide))
  | indexSignature =>
    rw [convertDecl]
    exact addIndex_upholds hx (called hx (by decide))
  | getAccessor =>
    rw [convertDecl]
    refine .ask_bind (declareAnd_upholds hx hfits (becomes_accessorKind _ _ _) fun id y _ hxy =>
      fillAccessor_upholds hxy.obeyed ?_ (called hxy.obeyed (by decide)))
    split
    · exact typed hxy.obeyed
    · exact convertResult?_upholds parts hinSignature hxy.obeyed
  | setAccessor =>
    rw [convertDecl]
    refine .ask_bind (declareAnd_upholds hx hfits (becomes_accessorKind _ _ _) fun id y _ hxy =>
      fillAccessor_upholds hxy.obeyed ?_ (called hxy.obeyed (by decide)))
    split
    · exact typed hxy.obeyed
    · exact convertFirstParam?_upholds parts hinSignature hxy.obeyed
  | «variable» | property | enumMember =>
    rw [convertDecl]
    exact declareAnd_upholds hx hfits hbecomes
      fun id y _ hxy => fillValue_upholds hxy.obeyed (typed hxy.obeyed)
  | typeAlias =>
    rw [convertDecl]
    exact declareAnd_upholds hx hfits hbecomes
      fun id y _ hxy => fillAlias_upholds hxy.obeyed
        (convertTypeParams_upholds hp hinTypeParams hxy.obeyed) fun _ _ hyz => typed hyz.obeyed
  | other =>
    rw [convertDecl]
    exact .bind (.report hx (R := fun _ _ => True) fun _ _ => trivial) fun _ _ _ hxy =>
      .pure hxy.obeyed trivial

/-- All that is written upholds a law, by induction on how it is nested. -/
theorem lawWalk (L : Law) :
    Source.Steps (TypeUpholds L) (SignatureUpholds L) (DeclUpholds L) where
  type _ := type_upholds
  signature _ := signature_upholds
  decl _ := decl_upholds

/-! ## Files -/

/-- Converting a file upholds a law that its declarations fit. -/
theorem convertFile_upholds {settings : Settings} {f : Source.File} (hx : L.Obeyed x)
    (hfits : ∀ d ∈ f.topDecls settings.mode, ∀ a, L.Fits a Atlas.root d)
    (hin : L.Admits (inlinedOf (f.topDecls settings.mode))) :
    (convertFile settings f).Upholds L x fun _ _ => True := by
  unfold convertFile
  split
  · refine .bind (convertDecls_upholds (fun d _ => (lawWalk L).of_decl d) hin hx
      fun d hd => hfits d hd _) fun ids y _ hxy => ?_
    obtain ⟨t, ht⟩ := foldl_noteFile f.name ids y.atlas
    refine .update hxy.obeyed hxy.obeyed.holds ?_ trivial
    dsimp only
    rw [ht]
    exact .files t
  · exact .pure hx trivial

/-- Converting files upholds a law. -/
theorem convertFiles_upholds {settings : Settings} {files : List Source.File} (hx : L.Obeyed x)
    (hfits : ∀ f ∈ files, ∀ d ∈ f.topDecls settings.mode, ∀ a, L.Fits a Atlas.root d)
    (hin : ∀ f ∈ files, L.Admits (inlinedOf (f.topDecls settings.mode))) :
    (convertFiles settings files).Upholds L x fun _ _ => True := by
  unfold convertFiles
  induction files generalizing x with
  | nil => exact .pure hx trivial
  | cons f files ih =>
    obtain ⟨hfit, hfits⟩ := List.forall_mem_cons.1 hfits
    obtain ⟨hinf, hin⟩ := List.forall_mem_cons.1 hin
    exact .bind (convertFile_upholds hx hfit hinf) fun _ _ _ hxy => ih hxy.obeyed hfits hin

/-- A law that asks nothing of the declarations still holds after files are converted. -/
theorem convertFiles_holds {settings : Settings} {files : List Source.File} (hx : L.Obeyed x)
    (hfits : ∀ a scope d, L.Fits a scope d) (hinside : ∀ d, L.Inside d) :
    L.Holds ((convertFiles settings files).run x).2.atlas := by
  have hupholds : (convertFiles settings files).Upholds L x fun _ _ => True := by
    refine convertFiles_upholds hx ?_ ?_
    · intro f _ d _ a
      exact hfits a Atlas.root d
    · intro f _ d _
      exact hinside d
  exact hupholds.1.obeyed.holds

end Conv

end ApiAtlas
