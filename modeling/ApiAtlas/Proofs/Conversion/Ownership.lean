import ApiAtlas.Proofs.Atlas.Traversal
import ApiAtlas.Proofs.Conversion.FilledOnce
import ApiAtlas.Proofs.Conversion.Identity

/-!
# Ownership

Conversion keeps the atlas tidy, if no declaration inside a type carries the symbol of a
declaration around that type. Converting a type or a signature leaves pending what it yields, for
the entry at the site to take; converting a declaration leaves nothing pending. As before there is a
predicate for types, signatures and declarations, and the induction over all that is written puts
them together (`ownership`).
-/

set_option autoImplicit false

namespace ApiAtlas.Conv

open Source

variable {x y : Draft} {s : Site} {ds : List Decl} {P : List EntryId}

/-- Converting a type leaves its inline declarations to the entry at the site. -/
def TypeOwns (t : TypeExpr) : Prop :=
  ∀ (s : Site) (x : Draft) (P : List EntryId), x.atlas.Identified → s.scope < x.atlas.size →
    Apart t.decls → x.atlas.Tidy P →
    (convertType s t).Gives x fun ty y => y.atlas.Owes P s.scope ty.literals

/-- Converting a signature leaves the signature to the entry at the site. -/
def SignatureOwns (w : Signature) : Prop :=
  ∀ (s : Site) (name : String) (kind : Kind) (comment : Option Comment) (flags : Flags) (x : Draft)
    (P : List EntryId), x.atlas.Identified → s.scope < x.atlas.size → kind ∈ Kind.someSignature →
    Apart w.decls → x.atlas.Tidy P →
    (convertSignature s name kind comment flags w).Gives x fun id y =>
      y.atlas.Owes P s.scope [id]

/-- Converting a declaration leaves nothing. -/
def DeclOwns (d : Decl) : Prop :=
  ∀ (s : Site) (x : Draft) (P : List EntryId), x.atlas.Identified → x.atlas.Hosts s.scope →
    Apart (d :: d.nested) → x.atlas.Outside s.scope d.written → x.atlas.Tidy P →
    (convertDecl s d).Gives x fun _ y => y.atlas.Tidy P

/-! ## Several of them, or none -/

/-- Converting a list of types owes their inline declarations to the scope, when converting each
type does. -/
theorem convertTypes_owns {ts : List TypeExpr} (h : ∀ t ∈ ts, TypeOwns t)
    (hx : x.atlas.Identified) (hs : s.scope < x.atlas.size) (hap : Apart (declsOfTypes ts))
    (ht : x.atlas.Tidy P) :
    (convertTypes s ts).Runs x (x.atlas.Reach [] (declsOfTypes ts)) fun tys y =>
      Ty.AllOpen tys ∧ y.atlas.Owes P s.scope (tys.flatMap Ty.literals) := by
  refine (convertTypes_runs (fun t _ => walk.of_type t) hx hs).and ?_
  induction ts generalizing x P with
  | nil =>
    rw [convertTypes]
    exact .pure (ht.owes_nil _)
  | cons t ts ih =>
    obtain ⟨hfirst, hrest⟩ := List.forall_mem_cons.1 h
    rw [declsOfTypes] at hap
    rw [convertTypes]
    refine .bind hx ((walk.of_type t s x hx hs).and (hfirst s x P hx hs (hap.mono (by simp)) ht)) ?_
    rintro ty y ⟨-, hty⟩ hxy
    have hsy := Nat.lt_of_lt_of_le hs hxy.grows.size_le
    refine .bind hxy.identified ((convertTypes_runs (fun t _ => walk.of_type t) hxy.identified
      hsy).and (ih hrest hxy.identified hsy (hap.mono (by simp)) hty.tidy)) ?_
    rintro tys z ⟨-, htys⟩ hyz
    exact .pure (hty.append htys hyz.grows)

/-- Converting a type that may be missing owes its inline declarations to the scope, when converting
the type does. -/
theorem convertType?_owns {t : Option TypeExpr} (h : ∀ u ∈ t, TypeOwns u)
    (hx : x.atlas.Identified) (hs : s.scope < x.atlas.size) (hap : Apart (declsOfType? t))
    (ht : x.atlas.Tidy P) :
    (convertType? s t).Runs x (x.atlas.Reach [] (declsOfType? t)) fun ty y =>
      (∀ u ∈ ty, u.IsOpen) ∧ y.atlas.Owes P s.scope (ty.toList.flatMap Ty.literals) := by
  refine (convertType?_runs (fun t _ => walk.of_type t) hx hs).and ?_
  cases t with
  | none =>
    rw [convertType?]
    exact .pure (ht.owes_nil _)
  | some t =>
    rw [convertType?]
    refine .bind hx ((walk.of_type t s x hx hs).and (h t rfl s x P hx hs hap ht)) ?_
    rintro ty y ⟨-, hty⟩ -
    exact .pure (by simpa using hty)

/-- Converting a signature that may be missing owes the signature to the scope, when converting the
signature does. -/
theorem convertSignature?_owns {w : Option Signature} {name : String} {kind : Kind}
    {comment : Option Comment} {flags : Flags} (h : ∀ v ∈ w, SignatureOwns v)
    (hx : x.atlas.Identified) (hs : s.scope < x.atlas.size) (hk : kind ∈ Kind.someSignature)
    (hap : Apart (declsOfSignature? w)) (ht : x.atlas.Tidy P) :
    (convertSignature? s name kind comment flags w).Runs x
      (x.atlas.Reach [] (declsOfSignature? w)) fun id y =>
        (id = x.atlas.size ∧ y.atlas.IsSignatureOf id s.scope [kind]) ∧
          y.atlas.Owes P s.scope [id] := by
  have runs : ∀ v ∈ w, SignatureRuns v := fun v _ => walk.signature v (walk.of_signature v)
  refine (convertSignature?_runs runs hx hs hk).and ?_
  cases w with
  | none =>
    rw [convertSignature?]
    exact (openSignature_gives hx ht hs).1
  | some w =>
    rw [convertSignature?]
    exact h w rfl s name kind comment flags x P hx hs hk hap ht

/-- Converting declarations that stand apart leaves the atlas tidy, when converting each of them
does. -/
theorem convertDecls_gives (h : ∀ d ∈ ds, DeclOwns d) (hx : x.atlas.Identified)
    (hs : x.atlas.Hosts s.scope) (hap : Apart (declsOf ds))
    (hout : ∀ d ∈ ds, x.atlas.Outside s.scope d.written) (ht : x.atlas.Tidy P) :
    (convertDecls s ds).Gives x fun _ y => y.atlas.Tidy P := by
  induction ds generalizing x with
  | nil =>
    rw [convertDecls]
    exact .pure ht
  | cons d ds ih =>
    obtain ⟨hd, hds⟩ := List.forall_mem_cons.1 h
    obtain ⟨hod, hods⟩ := List.forall_mem_cons.1 hout
    rw [declsOf] at hap
    rw [convertDecls]
    refine .bind hx ((walk.of_decl d s x hx hs).and (hd s x P hx hs (hap.mono ?_) hod ht)) ?_
    · exact List.cons_subset_cons _ (List.subset_append_left _ _)
    · rintro first y ⟨-, hy⟩ hxy
      have hrest : declsOf ds ⊆ d :: (d.nested ++ declsOf ds) :=
        List.subset_cons_of_subset _ (List.subset_append_right _ _)
      exact ih hds hxy.identified (hxy.grows.hosts hs) (hap.mono hrest)
        (fun c hc => (hods c hc).grow hxy.grows hs.lt) hy

/-- The parameters of the signature at the site are stored with it, and its result stays as it
is. -/
theorem convertParams_gives {ps : List Param} {comment : Option Comment}
    (h : ∀ p ∈ ps, ∀ t ∈ p.type, TypeOwns t) (hx : x.atlas.Identified)
    (hs : x.atlas.IsSignature s.scope) (hap : Apart (declsOfParams ps)) (ht : x.atlas.Tidy P) :
    (convertParams s s.scope comment ps).Gives x fun _ y =>
      y.atlas.Tidy P ∧ y.atlas.typeOf s.scope = x.atlas.typeOf s.scope := by
  induction ps generalizing x with
  | nil =>
    rw [convertParams]
    exact .pure ⟨ht, rfl⟩
  | cons p ps ih =>
    obtain ⟨name, type, optional, rest, defaultValue⟩ := p
    obtain ⟨hp, hps⟩ := List.forall_mem_cons.1 h
    rw [declsOfParams] at hap
    rw [convertParams]
    -- The parameter is newer than the signature, and nothing before the last step touches the
    -- signature: it has no symbol.
    have hne : s.scope ≠ x.atlas.size := Nat.ne_of_lt hs.lt
    refine .bind hx ((openParameter_runs (A := (· = x.atlas.size)) hs.lt rfl).and
      (openParameter_gives hx ht hs.lt)) ?_
    rintro id y ⟨⟨rfl, hpar, -⟩, howes, hbody⟩ hxy
    have hxy_scope := hxy.frame _ hs.lt hne
    have hsy := hxy.grows.isSignature hs
    refine .bind hxy.identified (convertType?_owns (s := s.within _ []) hp hxy.identified hpar.lt
      (hap.mono (by simp)) howes.tidy) ?_
    rintro ty z ⟨hopen, hty⟩ hyz
    have hyz_scope := (hsy.outside _).frame hyz hsy.lt List.not_mem_nil
    have hbodyz := hbody.of_get? ((hpar.outside _).frame hyz hpar.lt List.not_mem_nil)
    refine .bind hyz.identified ((fillParameter_runs (A := (· = x.atlas.size))
      (hyz.grows.isParameter hpar) hopen rfl).and (fillParameter_gives hbodyz hty)) ?_
    rintro _ v ⟨-, hv⟩ hzv
    have hsz := hyz.grows.isSignature hsy
    have hscope : v.atlas.get? s.scope = x.atlas.get? s.scope :=
      (hzv.frame _ hsz.lt hne).trans (hyz_scope.trans hxy_scope)
    have hparent : v.atlas.parent? x.atlas.size = some s.scope := by
      rw [(hyz.grows.trans hzv.grows).parent?_eq hpar.lt]
      exact howes.parent _ (List.mem_singleton_self _)
    have hsv := hzv.grows.isSignature hsz
    refine .bind hzv.identified ((addParameter_runs (A := fun _ => True) hparent trivial).and
      (addParameter_gives hsv ⟨hv, fun q hq => List.mem_singleton.1 hq ▸ hparent⟩
        fun e he j hj => ht.held_lt (hscope ▸ he) hj)) ?_
    rintro _ w ⟨-, hw, htype⟩ hvw
    refine (ih hps hvw.identified (hvw.grows.isSignature hsv) (hap.mono (by simp)) hw).mono ?_
    rintro _ u ⟨hu, hutype⟩
    exact ⟨hu, by rw [hutype, htype, Atlas.typeOf_eq_of_get? hscope]⟩

/-- The type parameters of an entry are stored with it, and its type stays as it is. -/
theorem convertTypeParams_gives {ps : List TypeParam} {owner : EntryId} {bound : List String}
    (h : ∀ p ∈ ps, p.All TypeOwns) (hx : x.atlas.Identified) (hno : x.atlas.NoAccessor owner)
    (hg : x.atlas.IsGeneric owner) (hout : x.atlas.Outside owner (declsOfTypeParams ps))
    (hap : Apart (declsOfTypeParams ps)) (ht : x.atlas.Tidy P) :
    (convertTypeParams s owner bound ps).Gives x fun _ y =>
      y.atlas.Tidy P ∧ y.atlas.typeOf owner = x.atlas.typeOf owner := by
  -- By induction on the parameters. While the types of the first one are converted, its entry and
  -- the owner stay as they are, since what is inside of these types is neither.
  induction ps generalizing x bound with
  | nil =>
    rw [convertTypeParams]
    exact .pure ⟨ht, rfl⟩
  | cons p ps ih =>
    obtain ⟨name, constraint, default⟩ := p
    obtain ⟨⟨hc, hd⟩, hps⟩ := List.forall_mem_cons.1 h
    rw [declsOfTypeParams] at hap hout
    rw [convertTypeParams]
    have hne : owner ≠ x.atlas.size := Nat.ne_of_lt hno.lt
    refine .bind hx ((openTypeParameter_runs (A := fun _ => True) hx hno trivial trivial).and
      (openTypeParameter_gives hx ht hg)) ?_
    rintro id y ⟨⟨rfl, hpar⟩, hy, hbody, htype⟩ hxy
    have houty := hout.grow hxy.grows hno.lt
    have hnoy := hxy.grows.noAccessor hno
    refine .bind hxy.identified (convertType?_owns hc hxy.identified hpar.lt (hap.mono (by simp))
      hy) ?_
    rintro limit z ⟨hlimit, hz⟩ hyz
    have hyz_owner := (houty.mono (by simp)).frame hyz hnoy.lt List.not_mem_nil
    have hbodyz := hbody.of_get? ((hpar.outside _).frame hyz hpar.lt List.not_mem_nil)
    have houtz := houty.grow hyz.grows hnoy.lt
    have hnoz := hyz.grows.noAccessor hnoy
    have hparz := hyz.grows.isTypeParameter hpar
    refine .bind hyz.identified (convertType?_owns hd hyz.identified hparz.lt (hap.mono (by simp))
      hz.tidy) ?_
    rintro standard v ⟨hstandard, hv⟩ hzv
    have hzv_owner := (houtz.mono (by simp)).frame hzv hnoz.lt List.not_mem_nil
    have hbodyv := hbodyz.of_get? ((hparz.outside _).frame hzv hparz.lt List.not_mem_nil)
    refine .bind hzv.identified ((fillTypeParameter_runs (A := (· = x.atlas.size))
      (hzv.grows.isTypeParameter hparz) hlimit hstandard rfl).and (fillTypeParameter_gives hbodyv
        (hz.append hv hzv.grows))) ?_
    rintro _ w ⟨-, hw⟩ hvw
    have hnov := hzv.grows.noAccessor hnoz
    -- So the owner is still as the opening left it, and with it the owner's type.
    have howner : w.atlas.get? owner = y.atlas.get? owner :=
      (hvw.frame _ hnov.lt hne).trans (hzv_owner.trans hyz_owner)
    have hxw := ((hxy.grows.trans hyz.grows).trans hzv.grows).trans hvw.grows
    refine (ih hps hvw.identified (hxw.noAccessor hno) (hxw.isGeneric hg)
      ((hout.grow hxw hno.lt).mono (by simp)) (hap.mono (by simp)) hw).mono ?_
    rintro _ u ⟨hu, hutype⟩
    exact ⟨hu, by rw [hutype, Atlas.typeOf_eq_of_get? howner, htype]⟩

/-- Converting what a signature returns owes the inline declarations of the result to the scope. -/
theorem convertResult?_owns {w : Option Signature} (h : ∀ v ∈ w, v.All TypeOwns)
    (hx : x.atlas.Identified) (hs : s.scope < x.atlas.size) (hap : Apart (declsOfSignature? w))
    (ht : x.atlas.Tidy P) :
    (convertResult? s w).Runs x (x.atlas.Reach [] (declsOfSignature? w)) fun ty y =>
      y.atlas.Owes P s.scope (ty.toList.flatMap Ty.literals) := by
  cases w with
  | none =>
    rw [convertResult?]
    exact .pure (ht.owes_nil _)
  | some w =>
    obtain ⟨parameters, result, typeParameters⟩ := w
    rw [convertResult?, declsOfSignature?, Signature.decls]
    rw [declsOfSignature?, Signature.decls] at hap
    have hresult := convertType?_owns (h _ rfl).2.1 hx hs (hap.mono (by simp)) ht
    exact (hresult.inside (.refl _) (by simp)).weaken fun _ _ h => h.2

/-- Converting the type of a first parameter owes its inline declarations to the scope. -/
theorem convertFirstParam?_owns {w : Option Signature} (h : ∀ v ∈ w, v.All TypeOwns)
    (hx : x.atlas.Identified) (hs : s.scope < x.atlas.size) (hap : Apart (declsOfSignature? w))
    (ht : x.atlas.Tidy P) :
    (convertFirstParam? s w).Runs x (x.atlas.Reach [] (declsOfSignature? w)) fun ty y =>
      y.atlas.Owes P s.scope (ty.toList.flatMap Ty.literals) := by
  have absent : (Pure.pure none : Conv (Option Ty)).Runs x (x.atlas.Reach [] (declsOfSignature? w))
      fun ty y => y.atlas.Owes P s.scope (ty.toList.flatMap Ty.literals) :=
    .pure (ht.owes_nil _)
  cases w with
  | none => exact absent
  | some w =>
    obtain ⟨parameters, result, typeParameters⟩ := w
    cases parameters with
    | nil => exact absent
    | cons p ps =>
      obtain ⟨name, type, optional, rest, defaultValue⟩ := p
      rw [convertFirstParam?, declsOfSignature?, Signature.decls, declsOfParams]
      rw [declsOfSignature?, Signature.decls, declsOfParams] at hap
      have htype := (List.forall_mem_cons.1 (h _ rfl).1).1
      have hfirst := convertType?_owns htype hx hs (hap.mono (by simp)) ht
      exact (hfirst.inside (.refl _) (by simp)).weaken fun _ _ h => h.2

/-! ## One of them -/

/-- Converting a type owes its inline declarations to the scope, when converting its arguments, its
members and its signature leaves things where they belong. -/
theorem type_owns {t : TypeExpr} (ha : ∀ u ∈ t.arguments, TypeOwns u)
    (hm : ∀ d ∈ t.members, DeclOwns d) (hw : ∀ w ∈ t.signature, SignatureOwns w) :
    TypeOwns t := by
  intro s x P hx hs hap ht
  obtain ⟨form, name, symbol, arguments, members, signature, text⟩ := t
  -- A type without inline declarations owes nothing, and others owe what their parts do.
  have atom : x.atlas.Owes P s.scope [] := ht.owes_nil _
  rw [TypeExpr.decls] at hap
  have args := convertTypes_owns ha hx hs (hap.mono (by simp)) ht
  cases form with
  | intrinsic => exact .pure atom
  | reference =>
    rw [convertType]
    split
    · exact .pure (by simpa using atom)
    · exact .bind hx args fun _ _ h _ => .pure (by simpa using h.2)
  | union => exact .bind hx args fun _ _ h _ => .pure (by simpa using h.2)
  | intersection => exact .bind hx args fun _ _ h _ => .pure (by simpa using h.2)
  | array =>
    cases arguments with
    | nil => exact .pure atom
    | cons element rest =>
      rw [convertType]
      rw [declsOfTypes] at hap
      refine .bind hx ((walk.of_type element s x hx hs).and ((List.forall_mem_cons.1 ha).1 s x P
        hx hs (hap.mono (by simp)) ht)) ?_
      rintro ty y ⟨-, hty⟩ -
      exact .pure (by simpa using hty)
  | tuple => exact .bind hx args fun _ _ h _ => .pure (by simpa using h.2)
  | stringLiteral => exact .pure atom
  | object =>
    rw [convertType]
    refine inlineType_gives (A := fun _ => True) hx hs ht (fun y hy hyi => ?_)
      fun y hy hbody hyi hty => ?_
    · exact fillContainer_runs hyi ((convertDecls_runs (s := s.within _ [])
        (fun d _ => walk.of_decl d) hyi hy).mono (fun _ _ => trivial) fun _ _ h => h)
    · exact fillContainer_gives (convertDecls_gives (s := s.within _ []) hm hyi hy
        (hap.mono (by simp)) (fun d _ => hbody.outside_literal _) hty)
  | function =>
    cases signature with
    | none =>
      rw [convertType]
      exact inlineType_gives (A := fun _ => True) hx hs ht (fun y hy hyi => .pure trivial)
        fun y hy hbody hyi hty => .pure hty
    | some w =>
      rw [declsOfSignature?] at hap
      -- The signature is converted inside of the inline declaration, which has no symbol.
      have written := fun (y : Draft) (hy : y.atlas.Hosts x.atlas.size) hyi =>
        walk.signature w (walk.of_signature w) (s.within x.atlas.size []) literalName
          .callSignature none Flags.none y hyi hy.lt (by decide)
      rw [convertType]
      refine inlineType_gives (A := fun _ => True) hx hs ht (fun y hy hyi => ?_)
        fun y hy hbody hyi hty => ?_
      · exact fillCallable_runs hyi hy trivial ((written y hy hyi).mono (fun _ _ => trivial)
          fun _ _ h => h.2.mono (by decide))
      · refine fillCallable_gives hyi hbody.isDeclaration_literal hty
          ((hbody.outside_literal w.decls).not_reach hy.lt List.not_mem_nil) ?_
        refine ((written y hy hyi).and (hw w rfl _ _ _ _ _ y _ hyi hy.lt (by decide)
          (hap.mono (by simp)) hty)).weaken fun _ _ h => ⟨h.1.1, h.2⟩
  | unknown => exact .pure atom

/-- Converting a signature owes it to the scope, when converting the types that are written on it
does so with their inline declarations. -/
theorem signature_owns {w : Signature} (h : w.All TypeOwns) : SignatureOwns w := by
  intro s name kind comment flags x P hx hs hk hap ht
  obtain ⟨parameters, result, typeParameters⟩ := w
  obtain ⟨hps, hr, htps⟩ := h
  rw [Signature.decls] at hap
  rw [convertSignature]
  refine .bind hx ((openSignature_runs (A := fun _ => True) hs hk trivial).and
    (openSignature_gives hx ht hs)) ?_
  rintro id y ⟨⟨rfl, hsig⟩, howes, hnone⟩ hxy
  have hsy := hsig.isSignature
  have hno := hsig.noAccessor (List.cons_subset.2 ⟨hk, List.nil_subset _⟩)
  refine .bind hxy.identified ((convertTypeParams_runs (fun p _ => typeParam_runs p)
    hxy.identified hno).and (convertTypeParams_gives htps hxy.identified hno hsy.isGeneric
      (hsy.outside _) (hap.mono (by simp)) howes.tidy)) ?_
  rintro bound z ⟨-, hz, hyz_type⟩ hyz
  have hsz := hyz.grows.isSignature hsy
  dsimp only
  refine .bind hyz.identified ((convertParams_runs (s := s.within _ bound)
    (fun p _ t _ => walk.of_type t) hyz.identified hsz.lt).and (convertParams_gives
      (s := s.within _ bound) hps hyz.identified hsz (hap.mono (by simp)) hz)) ?_
  rintro _ v ⟨-, hv, hzv_type⟩ hzv
  have hsv := hzv.grows.isSignature hsz
  refine .bind hzv.identified (convertType?_owns (s := s.within _ bound) hr hzv.identified hsv.lt
    (hap.mono (by simp)) hv) ?_
  rintro type u ⟨hopen, hu⟩ hvu
  have hsu := hvu.grows.isSignature hsv
  -- The place for the result is free still: nothing since the opening has touched the signature.
  have hfree : u.atlas.typeOf x.atlas.size = none := by
    rw [Atlas.typeOf_eq_of_get? ((hsv.outside _).frame hvu hsv.lt List.not_mem_nil)]
    exact hzv_type.trans (hyz_type.trans hnone)
  refine .bind hvu.identified ((setResult_runs (A := fun _ => True) hopen trivial).and
    (setResult_gives hsu hfree hu)) ?_
  rintro _ t ⟨-, htt⟩ hut
  have hyt := ((hyz.grows.trans hzv.grows).trans hvu.grows).trans hut.grows
  have hparent : t.atlas.parent? x.atlas.size = some s.scope := by
    rw [hyt.parent?_eq hsy.lt]
    exact howes.parent _ (List.mem_singleton_self _)
  refine .then_pure ?_
  have done : t.atlas.Owes P s.scope [x.atlas.size] :=
    ⟨htt, fun q hq => List.mem_singleton.1 hq ▸ hparent⟩
  unfold checkOrder
  split
  · exact .report fun r hr => hr ▸ done
  · exact .pure done

/-- Declaring and filling an accessor, whichever of its two kinds it gets. -/
theorem accessor_owns {d : Decl} {scope : Kind} {comment : Option Comment} {name : Option String}
    {fill : EntryId → Conv Unit} (hx : x.atlas.Identified) (hs : x.atlas.Hosts s.scope)
    (ht : x.atlas.Tidy P)
    (hfill : ∀ id (y : Draft), y.atlas.Declares id d.symbol true → y.atlas.Identified →
      y.atlas.Tidy P → (fill id).Gives y fun _ z => z.atlas.Tidy P) :
    (declareAnd s d (accessorKind scope comment) name fill).Gives x fun _ y => y.atlas.Tidy P := by
  rcases accessorKind_eq scope comment with h | h <;> rw [h] <;>
    exact declareAnd_gives hx hs (by decide) (by decide) ht hfill

/-- Converting a declaration leaves the atlas tidy, when converting what stands in it and what is
written on it does: there is one case for each way to fill an entry, and what that way opens is owed
to the entry until it is added. -/
theorem decl_owns {d : Decl} (hc : ∀ c ∈ d.children, DeclOwns c) (ht : ∀ t ∈ d.type, TypeOwns t)
    (hw : ∀ w ∈ d.signature, SignatureOwns w ∧ w.All TypeOwns)
    (hp : ∀ p ∈ d.typeParameters, p.All TypeOwns) (hb : ∀ t ∈ d.bases, TypeOwns t)
    (hi : ∀ t ∈ d.interfaces, TypeOwns t) : DeclOwns d := by
  intro s x P hx hs hap hout htidy
  -- What is inside a type of the declaration, or of something below it, is no declaration of its
  -- symbol.
  have inside : ∀ {y : Draft} {id accessor}, y.atlas.Declares id d.symbol accessor →
      ∀ k ∈ d :: d.nested, y.atlas.Outside id k.written := by
    intro y id accessor hdy k hk m hm sym hsym heq
    rw [hdy.symbolOf] at heq
    exact hap d (List.mem_cons_self ..) k hk m hm sym hsym heq
  have free : ∀ {y : Draft} {id accessor}, y.atlas.Declares id d.symbol accessor →
      ¬ y.atlas.Reach [] d.written id :=
    fun hdy => (inside hdy d (List.mem_cons_self ..)).not_reach hdy.lt List.not_mem_nil
  have freeScope : ¬ x.atlas.Reach [] d.written s.scope := hout.not_reach hs.lt List.not_mem_nil
  have kids : ∀ c ∈ d.children, c ∈ d :: d.nested := fun c hmem =>
    List.mem_cons_of_mem _ (d.children_subset_nested (mem_declsOf.2 ⟨c, hmem, Or.inl rfl⟩))
  have apart : ∀ {es : List Decl}, es ⊆ d.nested → Apart es := fun hsub =>
    hap.mono (List.subset_cons_of_subset _ hsub)
  have hchildren : Apart (declsOf d.children) := apart d.children_subset_nested
  have inner : ∀ {es : List Decl}, es ⊆ d.written → Apart es := fun hes =>
    apart (List.Subset.trans hes d.written_subset_nested)
  have htype := d.type_subset_written
  have hsignature := d.signature_subset_written
  have hparams := d.typeParameters_subset_written
  have hbases := d.bases_subset_written
  have hinterfaces := d.interfaces_subset_written
  have signatures : ∀ w ∈ d.signature, SignatureOwns w := fun w hmem => (hw w hmem).1
  have parts : ∀ w ∈ d.signature, w.All TypeOwns := fun w hmem => (hw w hmem).2
  obtain ⟨kind, name, symbol, children, modifiers, type, signature, typeParameters, bases,
    interfaces, comment, defaultValue, origin, file, line, form⟩ := d
  cases kind with
  | module | «namespace» | enum =>
    rw [convertDecl]
    refine declareAnd_gives hx hs (by decide) (by decide) htidy fun id y hdy hy hty => ?_
    have members := convertDecls_gives (s := s.within id []) hc hy hdy.hosts hchildren
      (fun c hmem => inside hdy c (kids c hmem)) hty
    exact fillContainer_gives members
  | «class» | interface =>
    rw [convertDecl]
    refine declareAnd_gives hx hs (by decide) (by decide) htidy fun id y hdy hy hty => ?_
    -- The type parameters are listed by the class at once, the inline declarations of its heritage
    -- are owed to it until the heritage is extended, and its members are no debt.
    have hno := hdy.hosts.noAccessor
    have hg := Atlas.isGeneric_of_isDeclaration hdy.isDeclaration
    refine fillClass_gives (A := fun _ => True) hy hdy.isDeclaration hno hty ?_
      (fun bound z hyz hz htz => ?_) (fun bound z hyz hz htz => ?_) fun bound z hyz hz htz => ?_
    · have houtside := (inside hdy _ (List.mem_cons_self ..)).mono hparams
      refine .mono (.and (convertTypeParams_runs (fun p _ => typeParam_runs p) hy hno)
        (convertTypeParams_gives hp hy hno hg houtside (inner hparams) hty))
        (fun _ _ => trivial) fun _ _ h => h.2.1
    · have hlt := (hyz.declares hdy).lt
      exact (convertTypes_owns hb hz hlt (inner hbases) htz).mono (fun _ _ => trivial)
        fun _ _ h => h
    · have hlt := (hyz.declares hdy).lt
      exact (convertTypes_owns hi hz hlt (inner hinterfaces) htz).mono (fun _ _ => trivial)
        fun _ _ h => h
    · have hhosts := (hyz.declares hdy).hosts
      exact convertDecls_gives (s := s.within id bound) hc hz hhosts hchildren
        (fun c hmem => inside (hyz.declares hdy) c (kids c hmem)) htz
  | function | method | constructor =>
    rw [convertDecl]
    refine declareAnd_gives hx hs (by decide) (by decide) htidy fun id y hdy hy hty => ?_
    refine fillCallable_gives hy hdy.isDeclaration hty (free hdy) (((convertSignature?_owns
      (s := s.within id []) signatures hy hdy.lt ?_ (inner hsignature) hty).inside (.refl _)
        hsignature).weaken fun _ _ h => ⟨h.1.1, h.2⟩)
    decide
  | callSignature | constructSignature =>
    rw [convertDecl]
    -- These signatures are owed to the scope, which gets no entry of its own here.
    refine addCallable_gives hx htidy freeScope (((convertSignature?_owns signatures hx hs.lt ?_
      (inner hsignature) htidy).inside (.refl _) hsignature).weaken fun _ _ h => ⟨h.1.1, h.2⟩)
    decide
  | indexSignature =>
    rw [convertDecl]
    refine addIndex_gives hx htidy freeScope (((convertSignature?_owns signatures hx hs.lt ?_
      (inner hsignature) htidy).inside (.refl _) hsignature).weaken fun _ _ h => h.2)
    decide
  | getAccessor =>
    rw [convertDecl]
    refine .ask_bind (accessor_owns hx hs htidy fun id y hdy hy hty => ?_)
    refine fillAccessor_gives hy hdy.isDeclaration hty (free hdy) ?_ ?_
    -- The type is the written one, or else the result of the signature.
    · split
      · have htyped := convertType?_owns (s := s.within id []) ht hy hdy.lt (inner htype) hty
        exact (htyped.inside (.refl _) htype).weaken fun _ _ h => h.2
      · have hresult := convertResult?_owns (s := s.within id []) parts hy hdy.lt
          (inner hsignature) hty
        exact hresult.inside (.refl _) hsignature
    · refine ((convertSignature?_owns (s := s.within id []) signatures hy hdy.lt ?_
        (inner hsignature) hty).inside (.refl _) hsignature).weaken fun _ _ h => h.2
      decide
  | setAccessor =>
    rw [convertDecl]
    refine .ask_bind (accessor_owns hx hs htidy fun id y hdy hy hty => ?_)
    refine fillAccessor_gives hy hdy.isDeclaration hty (free hdy) ?_ ?_
    -- The type is the written one, or else that of the first parameter.
    · split
      · have htyped := convertType?_owns (s := s.within id []) ht hy hdy.lt (inner htype) hty
        exact (htyped.inside (.refl _) htype).weaken fun _ _ h => h.2
      · have hfirst := convertFirstParam?_owns (s := s.within id []) parts hy hdy.lt
          (inner hsignature) hty
        exact hfirst.inside (.refl _) hsignature
    · refine ((convertSignature?_owns (s := s.within id []) signatures hy hdy.lt ?_
        (inner hsignature) hty).inside (.refl _) hsignature).weaken fun _ _ h => h.2
      decide
  | «variable» | property | enumMember =>
    rw [convertDecl]
    refine declareAnd_gives hx hs (by decide) (by decide) htidy fun id y hdy hy hty => ?_
    have htyped := convertType?_owns (s := s.within id []) ht hy hdy.lt (inner htype) hty
    exact fillValue_gives hy hdy.isDeclaration hty (free hdy)
      ((htyped.inside (.refl _) htype).weaken fun _ _ h => h.2)
  | typeAlias =>
    rw [convertDecl]
    refine declareAnd_gives hx hs (by decide) (by decide) htidy fun id y hdy hy hty => ?_
    have hno := hdy.hosts.noAccessor
    have hg := Atlas.isGeneric_of_isDeclaration hdy.isDeclaration
    refine fillAlias_gives (B := fun _ => True) hy hdy.isDeclaration hty (free hdy) ?_
      fun bound z hyz hz htz => ?_
    · have houtside := (inside hdy _ (List.mem_cons_self ..)).mono hparams
      refine .mono (.and (convertTypeParams_runs (fun p _ => typeParam_runs p) hy hno)
        (convertTypeParams_gives hp hy hno hg houtside (inner hparams) hty))
        (fun _ _ => trivial) fun _ _ h => h.2
    · have hlt := (hyz.declares hdy).lt
      have htyped := convertType?_owns (s := s.within id bound) ht hz hlt (inner htype) htz
      exact (htyped.inside hyz htype).weaken fun _ _ h => h.2
  | other =>
    rw [convertDecl]
    exact .report_bind fun y hy => .pure (hy ▸ htidy)

/-- All that is written owns, by induction on how it is nested. -/
theorem ownership : Steps TypeOwns SignatureOwns DeclOwns where
  type _ := type_owns
  signature _ := signature_owns
  decl _ := decl_owns

/-! ## Files -/

/-- Converting a file leaves the atlas tidy if its declarations stand apart. -/
theorem convertFile_gives {settings : Settings} {f : Source.File} (hx : x.atlas.Identified)
    (hap : Apart (declsOf (f.topDecls settings.mode))) (ht : x.atlas.Tidy P) :
    (convertFile settings f).Gives x fun _ y => y.atlas.Tidy P := by
  unfold convertFile
  split
  · have hroot := hx.hosts_root
    refine .bind hx (.and (convertDecls_runs (fun d _ => walk.of_decl d) hx hroot)
      (convertDecls_gives (fun d _ => ownership.of_decl d) hx hroot hap
        (fun d _ => hx.outside_root _) ht)) ?_
    rintro ids y ⟨-, hy⟩ -
    obtain ⟨t, ht⟩ := foldl_noteFile f.name ids y.atlas
    change (ids.foldl (fun a id => a.noteFile f.name id) y.atlas).Tidy P
    rw [ht]
    exact hy.of_get? rfl fun _ => rfl
  · exact .pure ht

/-- Converting files leaves the atlas tidy if the declarations of each stand apart. -/
theorem convertFiles_gives {settings : Settings} {files : List Source.File}
    (hx : x.atlas.Identified) (hap : ∀ f ∈ files, Apart (declsOf (f.topDecls settings.mode)))
    (ht : x.atlas.Tidy P) : (convertFiles settings files).Gives x fun _ y => y.atlas.Tidy P := by
  unfold convertFiles
  induction files generalizing x with
  | nil => exact .pure ht
  | cons f files ih =>
    obtain ⟨hf, hfiles⟩ := List.forall_mem_cons.1 hap
    refine .bind hx ((convertFile_runs hx).and (convertFile_gives hx hf ht)) ?_
    rintro _ y ⟨-, hy⟩ hxy
    exact ih hxy.identified hfiles hy

end ApiAtlas.Conv

namespace ApiAtlas

/-- An atlas that only has the project is tidy. -/
theorem Atlas.tidy_create (name : String) : (Atlas.create name).Tidy [] := by
  have hget : ∀ p e, (Atlas.create name).get? p = some e → e.held = [] ∧ e.idLists = [[]] := by
    intro p e he
    obtain rfl : p = Atlas.root := Nat.lt_one_iff.1 (Atlas.get?_lt he)
    obtain rfl : _ = e := Option.some.inj he
    exact ⟨rfl, rfl⟩
  have hparent : ∀ q, (Atlas.create name).parent? q = none := by
    intro q
    by_contra hq
    obtain ⟨p, hp⟩ := Option.ne_none_iff_exists'.1 hq
    obtain rfl : q = Atlas.root := Nat.lt_one_iff.1 (Atlas.parent?_lt hp)
    cases hp
  constructor
  case nodup_pending => exact List.nodup_nil
  case pending_lt => exact nofun
  case nodup_held => exact fun p e he => (hget p e he).1 ▸ List.nodup_nil
  case mem_held =>
    intro p e q he
    rw [(hget p e he).1, hparent]
    simp
  case increasing =>
    intro p e he ids hids
    rw [(hget p e he).2, List.mem_singleton] at hids
    exact hids ▸ List.Pairwise.nil

/-- At the end of conversion nothing is pending. -/
theorem ofFiles_tidy {settings : Settings} {files : List Source.File}
    (hap : ∀ f ∈ files, Source.Apart (Source.declsOf (f.topDecls settings.mode))) :
    (Draft.ofFiles settings files).atlas.Tidy [] :=
  Conv.convertFiles_gives (Draft.start_identified settings) hap (Atlas.tidy_create settings.name)

end ApiAtlas
