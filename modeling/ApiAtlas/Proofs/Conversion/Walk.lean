import ApiAtlas.Conversion.Program
import ApiAtlas.Proofs.Conversion.Filled

/-!
# Runs of the walk

Converting whatever is written `Runs` from every identified atlas. What a conversion touches are
the new entries, its scope or owner, and the entries of the symbols that are written inside. Types,
signatures and declarations each have a predicate, which follows from the predicates of the parts;
the induction over all that is written puts them together (`walk`). The files of a program are
converted one after the other (`convertFiles_runs`).
-/

set_option autoImplicit false

namespace ApiAtlas.Conv

open Source

variable {x y : Draft} {s : Site} {ids ids' : List EntryId} {ds ds' : List Decl}

/-- A later run for fewer declarations is a run within the same reach. -/
theorem Runs.within {α : Type} {c : Conv α} {Q : α → Draft → Prop}
    (h : c.Runs y (y.atlas.Reach ids' ds') Q) (hxy : x.atlas.Extends y.atlas)
    (hids : ∀ i ∈ ids', x.atlas.Reach ids ds i) (hds : ds' ⊆ ds) :
    c.Runs y (x.atlas.Reach ids ds) Q :=
  h.mono (fun _ hi => hi.mono hxy hids hds) fun _ _ hq => hq

/-- The same, for a run that only touches what is new or written. -/
theorem Runs.inside {α : Type} {c : Conv α} {Q : α → Draft → Prop}
    (h : c.Runs y (y.atlas.Reach [] ds') Q) (hxy : x.atlas.Extends y.atlas) (hds : ds' ⊆ ds) :
    c.Runs y (x.atlas.Reach ids ds) Q :=
  h.within hxy (List.forall_mem_nil _) hds

/-! ## What is to be shown -/

/-- Converting a type touches what is inside it and yields an open type. -/
def TypeRuns (t : TypeExpr) : Prop :=
  ∀ (s : Site) (x : Draft), x.atlas.Identified → s.scope < x.atlas.size →
    (convertType s t).Runs x (x.atlas.Reach [] t.decls) fun ty _ => ty.IsOpen

/-- Converting a signature touches what is inside it and yields a new entry of the kind that is
asked for. -/
def SignatureRuns (w : Signature) : Prop :=
  ∀ (s : Site) (name : String) (kind : Kind) (comment : Option Comment) (flags : Flags) (x : Draft),
    x.atlas.Identified → s.scope < x.atlas.size → kind ∈ Kind.someSignature →
    (convertSignature s name kind comment flags w).Runs x (x.atlas.Reach [] w.decls)
      fun id y => id = x.atlas.size ∧ y.atlas.IsSignatureOf id s.scope [kind]

/-- Converting a declaration touches its scope, the entry of its symbol, and what is inside it. -/
def DeclRuns (d : Decl) : Prop :=
  ∀ (s : Site) (x : Draft), x.atlas.Identified → x.atlas.Hosts s.scope →
    (convertDecl s d).Runs x (x.atlas.Reach [s.scope] (d :: d.nested)) fun _ _ => True

/-! ## Several of them, or none -/

/-- Converting a list of types runs and yields open types, when converting each of them does. -/
theorem convertTypes_runs {ts : List TypeExpr} (h : ∀ t ∈ ts, TypeRuns t) (hx : x.atlas.Identified)
    (hs : s.scope < x.atlas.size) :
    (convertTypes s ts).Runs x (x.atlas.Reach [] (declsOfTypes ts))
      fun tys _ => Ty.AllOpen tys := by
  induction ts generalizing x with
  | nil =>
    rw [convertTypes]
    exact .pure (List.forall_mem_nil _)
  | cons t ts ih =>
    obtain ⟨ht, hts⟩ := List.forall_mem_cons.1 h
    rw [convertTypes, declsOfTypes]
    refine .bind hx ((ht s x hx hs).inside (.refl _) (by simp)) fun ty y hty hxy hy => ?_
    refine .bind hy ((ih hts hy (Nat.lt_of_lt_of_le hs hxy.size_le)).inside hxy (by simp))
      fun tys z htys _ _ => .pure ?_
    exact List.forall_mem_cons.2 ⟨hty, htys⟩

/-- Converting a type that may be missing runs and yields an open type, when converting the type
does. -/
theorem convertType?_runs {t : Option TypeExpr} (h : ∀ u ∈ t, TypeRuns u)
    (hx : x.atlas.Identified) (hs : s.scope < x.atlas.size) :
    (convertType? s t).Runs x (x.atlas.Reach [] (declsOfType? t))
      fun ty _ => ∀ u ∈ ty, u.IsOpen := by
  cases t with
  | none =>
    rw [convertType?]
    refine .pure ?_
    rintro u ⟨⟩
  | some t =>
    rw [convertType?, declsOfType?]
    refine .bind hx (h t rfl s x hx hs) fun ty y hty _ _ => .pure ?_
    rintro u ⟨⟩
    exact hty

/-- Converting a signature that may be missing runs and yields a new entry of the kind that is asked
for, when converting the signature does. -/
theorem convertSignature?_runs {w : Option Signature} {name : String} {kind : Kind}
    {comment : Option Comment} {flags : Flags} (h : ∀ v ∈ w, SignatureRuns v)
    (hx : x.atlas.Identified) (hs : s.scope < x.atlas.size) (hk : kind ∈ Kind.someSignature) :
    (convertSignature? s name kind comment flags w).Runs x
      (x.atlas.Reach [] (declsOfSignature? w))
      fun id y => id = x.atlas.size ∧ y.atlas.IsSignatureOf id s.scope [kind] := by
  cases w with
  | none =>
    rw [convertSignature?]
    exact openSignature_runs hs hk Atlas.reach_size
  | some w =>
    rw [convertSignature?, declsOfSignature?]
    exact h w rfl s name kind comment flags x hx hs hk

/-- Converting declarations runs, when converting each of them does: it touches their scope, and
what is inside them. -/
theorem convertDecls_runs (h : ∀ d ∈ ds, DeclRuns d) (hx : x.atlas.Identified)
    (hs : x.atlas.Hosts s.scope) :
    (convertDecls s ds).Runs x (x.atlas.Reach [s.scope] (declsOf ds)) fun _ _ => True := by
  induction ds generalizing x with
  | nil =>
    rw [convertDecls]
    exact .pure trivial
  | cons d ds ih =>
    obtain ⟨hd, hds⟩ := List.forall_mem_cons.1 h
    rw [convertDecls, declsOf]
    refine .bind hx ((hd s x hx hs).within (.refl _) (fun i hi => Atlas.reach_mem hi) ?_)
      fun first y _ hxy hy => ?_
    · exact List.cons_subset_cons _ (List.subset_append_left _ _)
    · refine .then_pure hy ((ih hds hy (hxy.hosts hs)).within hxy (fun i hi => Atlas.reach_mem hi)
        ?_)
      exact List.subset_cons_of_subset _ (List.subset_append_right _ _)

/-- The parameters of the signature at the site are recorded with it. -/
theorem convertParams_runs {ps : List Param} {comment : Option Comment}
    (h : ∀ p ∈ ps, ∀ t ∈ p.type, TypeRuns t) (hx : x.atlas.Identified)
    (hs : s.scope < x.atlas.size) :
    (convertParams s s.scope comment ps).Runs x (x.atlas.Reach [s.scope] (declsOfParams ps))
      fun _ _ => True := by
  induction ps generalizing x with
  | nil =>
    rw [convertParams]
    exact .pure trivial
  | cons p ps ih =>
    obtain ⟨name, type, optional, rest, defaultValue⟩ := p
    obtain ⟨hp, hps⟩ := List.forall_mem_cons.1 h
    rw [convertParams, declsOfParams]
    refine .bind hx (openParameter_runs hs Atlas.reach_size) ?_
    rintro id y ⟨rfl, hpar, hpp⟩ hxy hy
    refine .bind hy ((convertType?_runs hp hy hpar.lt).inside hxy (by simp))
      fun ty z hty hyz hz => ?_
    refine .bind hz (fillParameter_runs (hyz.isParameter hpar) hty Atlas.reach_size)
      fun _ v _ hzv hv => ?_
    refine .bind hv (addParameter_runs ?_ (Atlas.reach_mem (List.mem_singleton_self _)))
      fun _ w _ hvw hw => ?_
    · rw [(hyz.trans hzv).parent?_eq hpar.lt, hpp]
    · have hxw := ((hxy.trans hyz).trans hzv).trans hvw
      refine (ih hps hw (Nat.lt_of_lt_of_le hs hxw.size_le)).within hxw
        (fun i hi => Atlas.reach_mem hi) (by simp)

/-- Converting type parameters runs, when converting their constraints and defaults does: it touches
their owner, and what is inside them. -/
theorem convertTypeParams_runs {ps : List TypeParam} {owner : EntryId} {bound : List String}
    (h : ∀ p ∈ ps, p.All TypeRuns) (hx : x.atlas.Identified) (ho : x.atlas.NoAccessor owner) :
    (convertTypeParams s owner bound ps).Runs x (x.atlas.Reach [owner] (declsOfTypeParams ps))
      fun _ _ => True := by
  induction ps generalizing x bound with
  | nil =>
    rw [convertTypeParams]
    exact .pure trivial
  | cons p ps ih =>
    obtain ⟨name, constraint, default⟩ := p
    obtain ⟨⟨hc, hd⟩, hps⟩ := List.forall_mem_cons.1 h
    rw [convertTypeParams, declsOfTypeParams]
    refine .bind hx (openTypeParameter_runs hx ho (Atlas.reach_mem (List.mem_singleton_self _))
      Atlas.reach_size) ?_
    rintro id y ⟨rfl, hpar⟩ hxy hy
    refine .bind hy ((convertType?_runs hc hy hpar.lt).inside hxy (by simp))
      fun limit z hlimit hyz hz => ?_
    refine .bind hz ((convertType?_runs hd hz (hyz.isTypeParameter hpar).lt).inside
      (hxy.trans hyz) (by simp)) fun standard v hstandard hzv hv => ?_
    refine .bind hv (fillTypeParameter_runs ((hyz.trans hzv).isTypeParameter hpar) hlimit hstandard
      Atlas.reach_size) fun _ w _ hvw hw => ?_
    have hxw := ((hxy.trans hyz).trans hzv).trans hvw
    exact (ih hps hw (hxw.noAccessor ho)).within hxw (fun i hi => Atlas.reach_mem hi) (by simp)

/-- Converting what a signature returns runs and yields an open type. -/
theorem convertResult?_runs {w : Option Signature} (h : ∀ v ∈ w, v.All TypeRuns)
    (hx : x.atlas.Identified) (hs : s.scope < x.atlas.size) :
    (convertResult? s w).Runs x (x.atlas.Reach [] (declsOfSignature? w))
      fun ty _ => ∀ u ∈ ty, u.IsOpen := by
  cases w with
  | none =>
    rw [convertResult?]
    refine .pure ?_
    rintro u ⟨⟩
  | some w =>
    obtain ⟨parameters, result, typeParameters⟩ := w
    rw [convertResult?, declsOfSignature?, Signature.decls]
    exact (convertType?_runs (h _ rfl).2.1 hx hs).inside (.refl _) (by simp)

/-- Converting the type of a first parameter runs and yields an open type. -/
theorem convertFirstParam?_runs {w : Option Signature}
    (h : ∀ v ∈ w, v.All TypeRuns) (hx : x.atlas.Identified)
    (hs : s.scope < x.atlas.size) :
    (convertFirstParam? s w).Runs x (x.atlas.Reach [] (declsOfSignature? w))
      fun ty _ => ∀ u ∈ ty, u.IsOpen := by
  have absent : (Pure.pure none : Conv (Option Ty)).Runs x (x.atlas.Reach [] (declsOfSignature? w))
      fun ty _ => ∀ u ∈ ty, u.IsOpen := by
    refine .pure ?_
    rintro u ⟨⟩
  cases w with
  | none => exact absent
  | some w =>
    obtain ⟨parameters, result, typeParameters⟩ := w
    cases parameters with
    | nil => exact absent
    | cons p ps =>
      obtain ⟨name, type, optional, rest, defaultValue⟩ := p
      rw [convertFirstParam?, declsOfSignature?, Signature.decls, declsOfParams]
      have htype := (List.forall_mem_cons.1 (h _ rfl).1).1
      exact (convertType?_runs htype hx hs).inside (.refl _) (by simp)

/-! ## One of them -/

/-- Converting a type touches what is inside it, when this holds of its arguments, its members and
its signature. -/
theorem type_runs {t : TypeExpr} (ha : ∀ u ∈ t.arguments, TypeRuns u)
    (hm : ∀ d ∈ t.members, DeclRuns d) (hw : ∀ w ∈ t.signature, SignatureRuns w) :
    TypeRuns t := by
  intro s x hx hs
  obtain ⟨form, name, symbol, arguments, members, signature, text⟩ := t
  have args : (convertTypes s arguments).Runs x
      (x.atlas.Reach [] (TypeExpr.decls ⟨form, name, symbol, arguments, members, signature, text⟩))
      fun tys _ => Ty.AllOpen tys :=
    (convertTypes_runs ha hx hs).inside (.refl _) (by simp [TypeExpr.decls])
  cases form with
  | intrinsic => exact .pure (Ty.isOpen_of_parts_eq_nil rfl rfl)
  | reference =>
    rw [convertType]
    split
    · exact .pure (Ty.isOpen_of_parts_eq_nil rfl rfl)
    · exact .bind hx args fun _ _ h _ _ => .pure (Ty.isOpen_of_parts rfl h)
  | union => exact .bind hx args fun _ _ h _ _ => .pure (Ty.isOpen_of_parts rfl h)
  | intersection => exact .bind hx args fun _ _ h _ _ => .pure (Ty.isOpen_of_parts rfl h)
  | array =>
    cases arguments with
    | nil => exact .pure (Ty.isOpen_of_parts_eq_nil rfl rfl)
    | cons element rest =>
      have helement := (List.forall_mem_cons.1 ha).1
      refine .bind hx ((helement s x hx hs).inside (.refl _) ?_) fun _ _ h _ _ => .pure ?_
      · simp [TypeExpr.decls, declsOfTypes]
      · exact Ty.isOpen_of_parts rfl (List.forall_mem_singleton.2 h)
  | tuple => exact .bind hx args fun _ _ h _ _ => .pure (Ty.isOpen_of_parts rfl h)
  | stringLiteral => exact .pure (Ty.isOpen_of_parts_eq_nil rfl rfl)
  | object =>
    rw [convertType]
    -- The members only touch the inline declaration, which is new, and what is inside of them.
    refine inlineType_runs hx hs Atlas.reach_size fun y hy hxy hyi => ?_
    refine fillContainer_runs hyi ((convertDecls_runs (s := s.within _ []) hm hyi hy).within hxy
      ?_ (by simp [TypeExpr.decls]))
    exact fun i hi => List.mem_singleton.1 hi ▸ Atlas.reach_size
  | function =>
    cases signature with
    | none =>
      rw [convertType]
      exact inlineType_runs hx hs Atlas.reach_size fun y hy hxy hyi => .pure trivial
    | some w =>
      rw [convertType]
      refine inlineType_runs hx hs Atlas.reach_size fun y hy hxy hyi => ?_
      refine fillCallable_runs hyi hy Atlas.reach_size (((hw w rfl (s.within _ []) _ _ _ _ y hyi
        hy.lt (by decide)).inside hxy ?_).weaken fun _ _ h => h.2.mono (by decide))
      simp [TypeExpr.decls, declsOfSignature?]
  | unknown => exact .pure (Ty.isOpen_of_parts_eq_nil rfl rfl)

/-- Converting a signature touches what is inside it, when this holds of the types that are written
on it. -/
theorem signature_runs {w : Signature} (h : w.All TypeRuns) : SignatureRuns w := by
  intro s name kind comment flags x hx hs hk
  obtain ⟨parameters, result, typeParameters⟩ := w
  obtain ⟨hps, hr, htps⟩ := h
  rw [convertSignature, Signature.decls]
  refine .bind hx (openSignature_runs hs hk Atlas.reach_size) ?_
  rintro id y ⟨rfl, hsig⟩ hxy hy
  have hno := hsig.noAccessor (List.cons_subset.2 ⟨hk, List.nil_subset _⟩)
  have fresh : ∀ i ∈ [x.atlas.size], x.atlas.Reach []
      (declsOfTypeParams typeParameters ++ declsOfParams parameters ++ declsOfType? result) i :=
    fun i hi => List.mem_singleton.1 hi ▸ Atlas.reach_size
  refine .bind hy ((convertTypeParams_runs htps hy hno).within hxy fresh (by simp))
    fun bound z _ hyz hz => ?_
  dsimp only
  refine .bind hz ((convertParams_runs (s := s.within _ bound) hps hz
    (hyz.isSignatureOf hsig).lt).within (hxy.trans hyz) fresh (by simp)) fun _ v _ hzv hv => ?_
  have hyv := hyz.trans hzv
  refine .bind hv ((convertType?_runs hr hv (hyv.isSignatureOf hsig).lt).inside (hxy.trans hyv)
    (by simp)) fun type u htype hvu hu => ?_
  refine .bind hu (setResult_runs htype Atlas.reach_size) fun _ t _ hut ht => ?_
  refine .bind ht (checkOrder_runs Atlas.reach_size) fun _ r _ htr _ => .pure ⟨rfl, ?_⟩
  exact (((hyv.trans hvu).trans hut).trans htr).isSignatureOf hsig

/-! ## Declarations -/

/-- The report on a kind of declaration that is not converted runs. -/
theorem reportUnsupported_runs {d : Decl} {A : EntryId → Prop} (hA : A s.scope) :
    (reportUnsupported s d).Runs x A fun _ _ => True := by
  have key : ∀ row ∈ Kind.table, (row.2.1.toList.head?.any (· != 'n')) = true := by decide
  refine .report hA (fun _ => .of_unsupported fun row hrow rest hm => ?_) fun _ _ => trivial
  have hany := key row hrow
  rw [Option.any_eq_true] at hany
  obtain ⟨c, hc, hne⟩ := hany
  rw [bne_iff_ne] at hne
  have hhead := congrArg (fun m : String => m.toList.head?) hm
  simp only [String.toList_append, List.head?_append, hc] at hhead
  simp only [show "no converter for ".toList.head? = some 'n' from rfl, Option.some_or,
    Option.some.injEq] at hhead
  exact hne hhead.symm

/-- An accessor becomes a constant or an accessor. -/
theorem accessorKind_eq (scope : Kind) (comment : Option Comment) :
    accessorKind scope comment = .constant ∨ accessorKind scope comment = .accessor := by
  unfold accessorKind
  split
  · split
    · exact Or.inl rfl
    · exact Or.inr rfl
  · exact Or.inr rfl

/-- Declaring an accessor, whichever of its two kinds it gets. -/
theorem accessor_runs {d : Decl} {scope : Kind} {comment : Option Comment} {name : Option String}
    {ds : List Decl} {fill : EntryId → Conv Unit} (hx : x.atlas.Identified)
    (hs : x.atlas.Hosts s.scope) (hd : d ∈ ds)
    (hfill : ∀ id (y : Draft), y.atlas.Declares id d.symbol true → x.atlas.Extends y.atlas →
      y.atlas.Identified → x.atlas.Reach [s.scope] ds id →
      (fill id).Runs y (x.atlas.Reach [s.scope] ds) fun _ _ => True) :
    (declareAnd s d (accessorKind scope comment) name fill).Runs x (x.atlas.Reach [s.scope] ds)
      fun _ _ => True := by
  rcases accessorKind_eq scope comment with h | h <;> rw [h] <;>
    exact declareAnd_runs hx hs (by decide) (by decide) hd hfill

/-- Converting a declaration touches its scope, the entry of its symbol and what is inside it, when
this holds of what stands in it and what is written on it: there is one case for each way to fill an
entry. -/
theorem decl_runs {d : Decl} (hc : ∀ c ∈ d.children, DeclRuns c) (ht : ∀ t ∈ d.type, TypeRuns t)
    (hw : ∀ w ∈ d.signature, SignatureRuns w ∧ w.All TypeRuns)
    (hp : ∀ p ∈ d.typeParameters, p.All TypeRuns) (hb : ∀ t ∈ d.bases, TypeRuns t)
    (hi : ∀ t ∈ d.interfaces, TypeRuns t) : DeclRuns d := by
  intro s x hx hs
  have hself : x.atlas.Reach [s.scope] (d :: d.nested) s.scope :=
    Atlas.reach_mem (List.mem_singleton_self _)
  have hd : d ∈ d :: d.nested := List.mem_cons_self ..
  -- The parts of the declaration are converted inside its entry, within reach of the declaration.
  have owned : ∀ {id}, x.atlas.Reach [s.scope] (d :: d.nested) id →
      ∀ i ∈ [id], x.atlas.Reach [s.scope] (d :: d.nested) i := by
    intro id hid i hi
    rw [List.mem_singleton.1 hi]
    exact hid
  have below : ∀ {es : List Decl}, es ⊆ d.written → es ⊆ d :: d.nested := by
    intro es hes
    exact List.subset_cons_of_subset _ (List.Subset.trans hes d.written_subset_nested)
  have hchildren : declsOf d.children ⊆ d :: d.nested :=
    List.subset_cons_of_subset _ d.children_subset_nested
  have htype := below d.type_subset_written
  have hsignature := below d.signature_subset_written
  have hparams := below d.typeParameters_subset_written
  have hbases := below d.bases_subset_written
  have hinterfaces := below d.interfaces_subset_written
  have signatures : ∀ w ∈ d.signature, SignatureRuns w := fun w hmem => (hw w hmem).1
  have parts : ∀ w ∈ d.signature, w.All TypeRuns := fun w hmem => (hw w hmem).2
  obtain ⟨kind, name, symbol, children, modifiers, type, signature, typeParameters, bases,
    interfaces, comment, defaultValue, origin, file, line, form⟩ := d
  cases kind with
  | module | «namespace» | enum =>
    rw [convertDecl]
    refine declareAnd_runs hx hs (by decide) (by decide) hd fun id y hdy hxy hy hid => ?_
    have members := (convertDecls_runs (s := s.within id []) hc hy hdy.hosts).within hxy
      (owned hid) hchildren
    exact fillContainer_runs hy members
  | «class» | interface =>
    rw [convertDecl]
    refine declareAnd_runs hx hs (by decide) (by decide) hd fun id y hdy hxy hy hid => ?_
    -- Type parameters and members touch the class, and heritage only what is written in it.
    have hno := hdy.hosts.noAccessor
    refine fillClass_runs hy hno hid ?_ (fun bound z hyz hz => ?_) (fun bound z hyz hz => ?_)
      fun bound z hyz hz => ?_
    · exact (convertTypeParams_runs hp hy hno).within hxy (owned hid) hparams
    · have hlt := (hyz.declares hdy).lt
      exact (convertTypes_runs hb hz hlt).inside (hxy.trans hyz) hbases
    · have hlt := (hyz.declares hdy).lt
      exact (convertTypes_runs hi hz hlt).inside (hxy.trans hyz) hinterfaces
    · have hhosts := (hyz.declares hdy).hosts
      exact (convertDecls_runs (s := s.within id bound) hc hz hhosts).within (hxy.trans hyz)
        (owned hid) hchildren
  | function | method | constructor =>
    rw [convertDecl]
    refine declareAnd_runs hx hs (by decide) (by decide) hd fun id y hdy hxy hy hid => ?_
    refine fillCallable_runs hy hdy.hosts hid (((convertSignature?_runs (s := s.within id [])
      signatures hy hdy.lt ?_).inside hxy hsignature).weaken fun _ _ h => h.2.mono ?_)
    · decide
    · decide
  | callSignature | constructSignature =>
    rw [convertDecl]
    -- These signatures get no entry of their own: they belong to the scope.
    refine addCallable_runs hx hs hself (by decide) (((convertSignature?_runs signatures hx hs.lt
      ?_).inside (.refl _) hsignature).weaken fun _ _ h => h.2.mono ?_)
    · decide
    · decide
  | indexSignature =>
    rw [convertDecl]
    refine addIndex_runs hx hs hself (((convertSignature?_runs signatures hx hs.lt ?_).inside
      (.refl _) hsignature).weaken fun _ _ h => h.2)
    decide
  | getAccessor =>
    rw [convertDecl]
    refine .ask_bind (accessor_runs hx hs hd fun id y hdy hxy hy hid => ?_)
    refine fillAccessor_runs hy hdy hid ?_ ?_
    · split
      · exact (convertType?_runs ht hy hdy.lt).inside hxy htype
      · exact (convertResult?_runs parts hy hdy.lt).inside hxy hsignature
    · refine ((convertSignature?_runs (s := s.within id []) signatures hy hdy.lt ?_).inside hxy
        hsignature).weaken fun _ _ h => h.2
      decide
  | setAccessor =>
    rw [convertDecl]
    refine .ask_bind (accessor_runs hx hs hd fun id y hdy hxy hy hid => ?_)
    refine fillAccessor_runs hy hdy hid ?_ ?_
    · split
      · exact (convertType?_runs ht hy hdy.lt).inside hxy htype
      · exact (convertFirstParam?_runs parts hy hdy.lt).inside hxy hsignature
    · refine ((convertSignature?_runs (s := s.within id []) signatures hy hdy.lt ?_).inside hxy
        hsignature).weaken fun _ _ h => h.2
      decide
  | «variable» | property | enumMember =>
    rw [convertDecl]
    refine declareAnd_runs hx hs (by decide) (by decide) hd fun id y hdy hxy hy hid => ?_
    refine fillValue_runs hy hid ?_
    exact (convertType?_runs (s := s.within id []) ht hy hdy.lt).inside hxy htype
  | typeAlias =>
    rw [convertDecl]
    refine declareAnd_runs hx hs (by decide) (by decide) hd fun id y hdy hxy hy hid => ?_
    refine fillAlias_runs hy hid ?_ fun bound z hyz hz => ?_
    · exact (convertTypeParams_runs hp hy hdy.hosts.noAccessor).within hxy (owned hid) hparams
    · have hlt := (hyz.declares hdy).lt
      exact (convertType?_runs (s := s.within id bound) ht hz hlt).inside (hxy.trans hyz) htype
  | other =>
    rw [convertDecl]
    exact .then_pure hx (reportUnsupported_runs hself)

/-- All that is written runs, by induction on how it is nested. -/
theorem walk : Steps TypeRuns SignatureRuns DeclRuns where
  type _ := type_runs
  signature _ := signature_runs
  decl _ := decl_runs

/-- Converting the types that are written on a type parameter touches what is inside them. -/
theorem typeParam_runs (p : TypeParam) : p.All TypeRuns :=
  ⟨fun t _ => walk.of_type t, fun t _ => walk.of_type t⟩

/-! ## Files -/

/-- Noting the file of some entries changes the table of files only. -/
theorem foldl_noteFile (file : String) (ids : List EntryId) (a : Atlas) :
    ∃ t, ids.foldl (fun a id => a.noteFile file id) a = { a with files := t } := by
  induction ids generalizing a with
  | nil => exact ⟨a.files, rfl⟩
  | cons id ids ih =>
    obtain ⟨t, ht⟩ := ih (a.noteFile file id)
    exact ⟨t, by rw [List.foldl_cons, ht]; rfl⟩

/-- Converting a file runs. -/
theorem convertFile_runs {settings : Settings} {f : Source.File} (hx : x.atlas.Identified) :
    (convertFile settings f).Runs x (fun _ => True) fun _ _ => True := by
  unfold convertFile
  split
  · refine .bind hx ((convertDecls_runs (fun d _ => walk.of_decl d) hx hx.hosts_root).mono
      (fun _ _ => trivial) fun _ _ h => h) fun ids y _ _ _ => ?_
    obtain ⟨t, ht⟩ := foldl_noteFile f.name ids y.atlas
    refine .update (i := Atlas.root) ?_ trivial trivial
    dsimp only
    rw [ht]
    exact .files t
  · exact .pure trivial

/-- Converting files runs. -/
theorem convertFiles_runs {settings : Settings} {files : List Source.File}
    (hx : x.atlas.Identified) :
    (convertFiles settings files).Runs x (fun _ => True) fun _ _ => True := by
  unfold convertFiles
  induction files generalizing x with
  | nil => exact .pure trivial
  | cons f files ih =>
    refine .bind hx (convertFile_runs hx) ?_
    intro _ y _ _ hy
    exact ih hy

end ApiAtlas.Conv
