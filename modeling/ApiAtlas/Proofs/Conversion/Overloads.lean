import ApiAtlas.Proofs.Conversion.Entered
import ApiAtlas.Proofs.Conversion.TourWalk
import ApiAtlas.Proofs.Conversion.Voiced
import ApiAtlas.Resolution.Comments

/-!
# Overloads

The declarations of a symbol that can be called share an entry, and each of them brings a signature.
On a tour of the symbol, each declaration that is let in gets one signature behind those that are
there (`Atlas.Gathered`, `Draft.Tour.gathered`), with the parameters and type parameters that are
written; nothing in between touches them. In the end a symbol has the overloads of the declarations
that were let in, in the order in which they were visited (`Draft.ofFiles_gathered`). No declaration
is visited more often than it is written (`Draft.visitsOf_subperm`), and those at the top of files
are all visited, in order (`Draft.visitsOf_of_top`). A function that is the only declaration of its
symbol says the same as its only signature (`ofFiles_speaks`).
-/

set_option autoImplicit false

namespace ApiAtlas

open Source

/-! ## Flags of parameters -/

namespace Conv

/-- A parameter may be left out exactly if it is optional or has a default. -/
theorem has_isOptional_paramFlags (p : Param) :
    (paramFlags p).has .isOptional = (p.optional || p.defaultValue.isSome) := by
  rw [paramFlags, mayBeOmitted]
  cases p.optional || p.defaultValue.isSome <;> cases p.rest <;> decide

/-- A parameter takes the rest exactly if it is written so. -/
theorem has_isRest_paramFlags (p : Param) : (paramFlags p).has .isRest = p.rest := by
  rw [paramFlags]
  cases mayBeOmitted p <;> cases p.rest <;> decide

end Conv

/-! ## What an overload is -/

/-- The kind of the signature that a declaration brings which can be called. -/
def Source.DeclKind.signatureKind : DeclKind → Kind
  | .constructor => .constructorSignature
  | _ => .callSignature

/-- What a declaration brings that can be called is a signature of one of the known kinds. -/
theorem Source.DeclKind.signatureKind_mem (sort : DeclKind) :
    sort.signatureKind ∈ Kind.someSignature := by
  cases sort <;> decide

namespace Atlas

variable {a b : Atlas} {k : String} {i sig owner : EntryId} {d : Decl}

/-- Whether an entry is a written parameter of a signature: it has the same name and default, may be
left out exactly if it is optional or has a default, and takes the rest exactly if that is
written. -/
def HasParam (a : Atlas) (owner : EntryId) (p : Param) (i : EntryId) : Prop :=
  ∃ e type, a.get? i = some e ∧ e.parent = some owner ∧ e.name = p.name ∧
    e.body = .parameter type p.defaultValue ∧ type.isSome = p.type.isSome ∧
    e.flags.has .isOptional = (p.optional || p.defaultValue.isSome) ∧
    e.flags.has .isRest = p.rest

/-- Whether an entry is a written type parameter of a signature: it has the same name, and a
constraint and a default exactly if they are written. -/
def HasTypeParam (a : Atlas) (owner : EntryId) (p : TypeParam) (i : EntryId) : Prop :=
  ∃ e limit standard, a.get? i = some e ∧ e.parent = some owner ∧ e.name = p.name ∧
    e.body = .typeParameter limit standard ∧ limit.isSome = p.constraint.isSome ∧
    standard.isSome = p.default.isSome

/-- Whether an entry is the signature that a declaration brings to an entry: it has the parameters
and type parameters that are written, in order. -/
def IsOverload (a : Atlas) (owner : EntryId) (d : Decl) (sig : EntryId) : Prop :=
  ∃ e shape, a.get? sig = some e ∧ e.parent = some owner ∧ e.kind = d.kind.signatureKind ∧
    e.body = .signature shape ∧
    List.Forall₂ (a.HasParam sig) (d.signature.getD {}).parameters shape.parameters ∧
    List.Forall₂ (a.HasTypeParam sig) (d.signature.getD {}).typeParameters shape.typeParameters

/-- Whether an entry is an overload with the comment of its declaration. -/
def VoicesOverload (a : Atlas) (owner : EntryId) (d : Decl) (sig : EntryId) : Prop :=
  a.IsOverload owner d sig ∧ a.commentOf sig = d.comment

/-- A written parameter belongs to what its signature belongs to, and has no symbol. -/
theorem HasParam.partOf {p : Param} (h : a.HasParam owner p i) (howner : a.PartOf k owner) :
    a.PartOf k i ∧ a.symbolOf i = none := by
  obtain ⟨e, type, he, hp, -, hb, -⟩ := h
  exact partOf_of_parent he (by rw [Entry.symbol?, Entry.details?, hb]; rfl) hp howner

/-- A written type parameter belongs to what its signature belongs to, and has no symbol. -/
theorem HasTypeParam.partOf {p : TypeParam} (h : a.HasTypeParam owner p i)
    (howner : a.PartOf k owner) : a.PartOf k i ∧ a.symbolOf i = none := by
  obtain ⟨e, limit, standard, he, hp, -, hb, -⟩ := h
  exact partOf_of_parent he (by rw [Entry.symbol?, Entry.details?, hb]; rfl) hp howner

/-- An overload belongs to what its owner belongs to, and has no symbol. -/
theorem IsOverload.partOf (h : a.IsOverload owner d sig) (howner : a.PartOf k owner) :
    a.PartOf k sig ∧ a.symbolOf sig = none := by
  obtain ⟨e, shape, he, hp, -, hb, -⟩ := h
  exact partOf_of_parent he (by rw [Entry.symbol?, Entry.details?, hb]; rfl) hp howner

/-- Whether an entry is a written parameter only depends on the entry. -/
theorem HasParam.congr {p : Param} (h : a.HasParam owner p i) (hi : b.get? i = a.get? i) :
    b.HasParam owner p i := by
  obtain ⟨e, type, he, hrest⟩ := h
  exact ⟨e, type, hi.trans he, hrest⟩

/-- Whether an entry is a written type parameter only depends on the entry. -/
theorem HasTypeParam.congr {p : TypeParam} (h : a.HasTypeParam owner p i)
    (hi : b.get? i = a.get? i) : b.HasTypeParam owner p i := by
  obtain ⟨e, limit, standard, he, hrest⟩ := h
  exact ⟨e, limit, standard, hi.trans he, hrest⟩

/-- An overload stays what it is as long as no part of the entry without a symbol changes. -/
theorem VoicesOverload.congr (h : a.VoicesOverload owner d sig) (howner : a.PartOf k owner)
    (hkept : ∀ j, a.PartOf k j → a.symbolOf j = none → b.get? j = a.get? j) :
    b.VoicesOverload owner d sig := by
  have hpart := h.1.partOf howner
  have hsig := hkept sig hpart.1 hpart.2
  obtain ⟨⟨e, shape, he, hp, hk, hb, hparams, htypeParams⟩, hc⟩ := h
  refine ⟨⟨e, shape, hsig.trans he, hp, hk, hb, hparams.imp fun _ j hj => ?_,
    htypeParams.imp fun _ j hj => ?_⟩, by rw [commentOf, hsig, ← hc, commentOf]⟩
  · exact hj.congr (hkept j (hj.partOf hpart.1).1 (hj.partOf hpart.1).2)
  · exact hj.congr (hkept j (hj.partOf hpart.1).1 (hj.partOf hpart.1).2)

/-- A parameter that is read is the one that is written. -/
theorem ReadsParam.hasParam {bound : List String} {p : Param} (h : a.ReadsParam owner bound p i) :
    a.HasParam owner p i := by
  obtain ⟨e, type, he, hp, hname, hflags, hb, htype⟩ := h
  refine ⟨e, type, he, hp, hname, hb, ?_, ?_, ?_⟩
  · simpa using congrArg Option.isSome htype
  · rw [hflags, Conv.has_isOptional_paramFlags]
  · rw [hflags, Conv.has_isRest_paramFlags]

/-- Type parameters that are read are the written ones, in order. -/
theorem ReadsTypeParams.hasTypeParams {bound : List String} {ps : List TypeParam}
    {is : List EntryId} (h : a.ReadsTypeParams owner bound ps is) :
    List.Forall₂ (a.HasTypeParam owner) ps is := by
  induction h with
  | nil => exact .nil
  | cons h hs ih =>
    obtain ⟨e, limit, standard, he, hp, hname, hb, hlimit, hstandard⟩ := h
    refine .cons ⟨e, limit, standard, he, hp, hname, hb, ?_, ?_⟩ ih
    · simpa using congrArg Option.isSome hlimit
    · simpa using congrArg Option.isSome hstandard

/-- A signature that is read is an overload. -/
theorem ReadsSignature.isOverload {bound : List String} {w : Signature}
    (h : a.ReadsSignature bound w sig) (hsig : a.IsSignatureOf sig owner [d.kind.signatureKind])
    (hw : d.signature = some w) : a.IsOverload owner d sig := by
  obtain ⟨shape, ⟨e, he, hb⟩, htypeParams, hparams, -⟩ := h
  obtain ⟨e', he', -, hp, hk⟩ := hsig
  obtain rfl := Option.some.inj (he.symm.trans he')
  rw [IsOverload, hw]
  exact ⟨e, shape, he, hp, List.mem_singleton.1 hk, hb, hparams.imp fun _ _ hj => hj.hasParam,
    htypeParams.hasTypeParams⟩

/-! ## All overloads of an entry -/

/-- Whether an entry is the declaration of a symbol, with some comment, or none, and its signatures
are the overloads of some declarations, one for each. -/
def HasOverloads (a : Atlas) (k : String) (i : EntryId) (c : Option Comment) (ds : List Decl) :
    Prop :=
  ∃ e members details, a.get? i = some e ∧ e.body = .declaration members details ∧
    details.symbol = some k ∧ e.kind.isIn Kind.accessorLike = false ∧ e.comment = c ∧
    details.allSignatures = details.signatures ∧
    List.Forall₂ (a.VoicesOverload i) ds details.signatures

/-- Whether a symbol is free if it has no declarations, and else has an entry whose signatures are
the overloads of its declarations, one for each, in order. -/
def Overloaded (a : Atlas) (k : String) (ds : List Decl) : Prop :=
  (ds = [] ∧ a.lookup (some k) = none) ∨
    ds ≠ [] ∧ ∃ i details, a.lookup (some k) = some i ∧ a.details? i = some details ∧
      details.allSignatures = details.signatures ∧
      List.Forall₂ (a.IsOverload i) ds details.signatures

/-- What is known of a symbol after some declarations of it are let in: it is free if there are
none, and else has an entry with their overloads, and with the first comment among theirs. -/
def Gathered (a : Atlas) (k : String) (ds : List Decl) : Prop :=
  (ds = [] ∧ a.lookup (some k) = none) ∨
    ds ≠ [] ∧ ∃ i, a.lookup (some k) = some i ∧ a.HasOverloads k i (ds.findSome? (·.comment)) ds

/-- Overloads stay those of their declarations while the entries that belong to the symbol stay as
they are. -/
theorem forall₂_voicesOverload_congr {ds : List Decl} {sigs : List EntryId}
    (h : List.Forall₂ (a.VoicesOverload owner) ds sigs) (howner : a.PartOf k owner)
    (hkept : ∀ j, a.PartOf k j → a.symbolOf j = none → b.get? j = a.get? j) :
    List.Forall₂ (b.VoicesOverload owner) ds sigs :=
  h.imp fun _ _ hsig => hsig.congr howner hkept

namespace HasOverloads

variable {c : Option Comment} {ds : List Decl}

/-- The entry with the overloads of a symbol has the symbol. -/
theorem symbolOf (h : a.HasOverloads k i c ds) : a.symbolOf i = some k := by
  obtain ⟨e, members, details, he, hb, hsymbol, -⟩ := h
  rw [symbolOf_eq he, Entry.symbol?, Entry.details?, hb]
  exact hsymbol

/-- The overloads of an entry stay what they are as long as none of its parts changes. -/
theorem congr (h : a.HasOverloads k i c ds)
    (hkept : ∀ j, a.PartOf k j → b.get? j = a.get? j) : b.HasOverloads k i c ds := by
  have hi : a.PartOf k i := .self h.symbolOf
  obtain ⟨e, members, details, he, hb, hsymbol, hk, hc, hall, hsigs⟩ := h
  exact ⟨e, members, details, (hkept i hi).trans he, hb, hsymbol, hk, hc, hall,
    forall₂_voicesOverload_congr hsigs hi fun j hj _ => hkept j hj⟩

/-- One more signature is one more overload. -/
theorem addSignature (h : a.HasOverloads k i c ds) (hsig : a.VoicesOverload i d sig) :
    (a.modify i fun e => e.mapDetails fun x =>
      { x with signatures := x.signatures ++ [sig] }).HasOverloads k i c (ds ++ [d]) := by
  have hi := h.symbolOf
  obtain ⟨e, members, details, he, hb, hsymbol, hk, hc, hall, hsigs⟩ := h
  have hkept : ∀ j, a.PartOf k j → a.symbolOf j = none →
      (a.modify i fun e => e.mapDetails fun x =>
        { x with signatures := x.signatures ++ [sig] }).get? j = a.get? j := by
    refine fun j _ hj => get?_modify_of_ne _ ?_
    rintro rfl
    exact Option.some_ne_none k (hi.symm.trans hj)
  refine ⟨_, members, { details with signatures := details.signatures ++ [sig] },
    get?_modify_self _ he, ?_, hsymbol, ?_, ?_, ?_, ?_⟩
  · rw [Entry.mapDetails, hb]
  · rw [Entry.mapDetails, hb]
    exact hk
  · rw [Entry.mapDetails, hb]
    exact hc
  · simpa [Details.allSignatures] using hall
  · exact List.rel_append (forall₂_voicesOverload_congr hsigs (.self hi) hkept)
      (.cons (hsig.congr (.self hi) hkept) .nil)

end HasOverloads

/-- A symbol whose declarations are gathered is overloaded by them. -/
theorem Gathered.overloaded {ds : List Decl} (h : a.Gathered k ds) : a.Overloaded k ds := by
  refine h.imp_right fun ⟨hne, i, hi, hover⟩ => ?_
  obtain ⟨e, members, details, he, hb, -, -, -, hall, hsigs⟩ := hover
  refine ⟨hne, i, details, hi, ?_, hall, hsigs.imp fun _ _ hsig => hsig.1⟩
  rw [details?, he, Option.bind_some, Entry.details?, hb]

end Atlas

/-- What passes a symbol by leaves what is known of it as it is. -/
theorem Draft.Past.gathered {k : String} {x y : Draft} {ds : List Decl} (h : x.Past k y)
    (hds : x.atlas.Gathered k ds) : y.atlas.Gathered k ds := by
  refine hds.imp (fun ⟨hnil, hfree⟩ => ⟨hnil, h.lookup.trans hfree⟩) ?_
  rintro ⟨hne, i, hi, hover⟩
  exact ⟨hne, i, h.lookup.trans hi, hover.congr h.kept⟩

/-- What is within reach leaves all parts of a symbol's entry alone, unless it starts from one of
them, or the symbol itself is within reach. -/
theorem Draft.Grown.partOf_kept {k : String} {x y : Draft} {ids : List EntryId} {ds : List Decl}
    (hxy : x.Grown (x.atlas.Reach ids ds) y) (hids : ∀ i ∈ ids, x.atlas.IsApart k i) {j : EntryId}
    (hj : x.atlas.PartOf k j) (hk : x.atlas.symbolOf j = some k → ¬Carry ds k) :
    y.atlas.get? j = x.atlas.get? j := by
  refine hxy.frame j hj.lt ?_
  rintro (hge | hmem | ⟨e, he, t, ht, hjt⟩)
  · exact Nat.not_lt.2 hge hj.lt
  · exact (hids j hmem).2 hj
  · cases hj with
    | self hjk =>
      obtain rfl := Option.some.inj (hjt.symm.trans hjk)
      exact hk hjk ⟨e, he, ht⟩
    | inner hnone => exact Option.some_ne_none t (hjt.symm.trans hnone)

/-! ## Visits -/

namespace Visit

/-- Whether a visited declaration has a name, and is one that the settings let in. -/
def isAdmitted (v : Visit) (settings : Settings) : Bool :=
  !v.name.isEmpty && Conv.isWanted settings v.container v.decl

/-- The declarations among some visited ones that got an entry. -/
def accepted (vs : List Visit) : List Decl :=
  (vs.filter (·.entry.isSome)).map (·.decl)

/-- The declarations accepted from two lists of visits are those from the first and then those from
the second. -/
theorem accepted_append (vs ws : List Visit) :
    accepted (vs ++ ws) = accepted vs ++ accepted ws := by
  rw [accepted, List.filter_append, List.map_append]
  rfl

end Visit

namespace Conv

variable {x : Draft} {s : Site} {d : Decl} {k : String} {kind : Kind} {name : Option String}
  {ds : List Decl} {id : EntryId}

/-- A declaration gets an entry if it is named and wanted, unless it is left to merging. -/
theorem declare_gathered (hx : x.atlas.Identified) (hs : x.atlas.Hosts s.scope)
    (hscope : x.atlas.IsApart k s.scope) (hbasic : kind.IsBasic) (hl : kind ≠ .typeLiteral)
    (hk : kind.isIn Kind.accessorLike = false) (hsymbol : d.symbol = some k)
    (h : x.atlas.Gathered k ds) (hname : name.getD "" ≠ "")
    (hwanted : ∀ c, x.atlas.kindAt s.scope = some c → isWanted s.settings c d = true) :
    (declare s d kind name).Gives x fun r y => ∃ i, r = some i ∧ y.atlas.lookup (some k) = some i ∧
      y.atlas.HasOverloads k i ((ds.findSome? (·.comment)).or d.comment) ds := by
  have haside : (declare s d kind name).Runs x _ _ := declare_aside hx hs hbasic hl
  have hgrown := haside.grown hx
  have hrun : ∃ flags, (declare s d kind name).run x = _ :=
    run_declare hname (by rw [hsymbol]; rfl) hs hwanted
  obtain ⟨flags, hrun⟩ := hrun
  rw [hsymbol] at hrun
  unfold Conv.Gives
  rcases h with ⟨rfl, hfree⟩ | ⟨-, i, hi, hover⟩
  · simp only [hfree] at hrun
    rw [hrun]
    have hcreate : (create s d (name.getD "") kind flags).Gives x _ := create_entry hx hs hsymbol
    obtain ⟨hlookup, sources, hentry⟩ := hcreate
    exact ⟨_, rfl, hlookup, _, _, _, hentry, rfl, rfl, hk, rfl, rfl, .nil⟩
  · simp only [hi] at hrun
    rw [hrun] at hgrown ⊢
    have hpart : x.atlas.PartOf k i := .self hover.symbolOf
    obtain ⟨e, members, details, he, hb, hsame, hke, hc, hall, hsigs⟩ := hover
    have hmerge : (merge s i d kind flags).Gives x _ := merge_entry he hb (hk.trans hke.symm)
    obtain ⟨hr, hsymbols, common, sources, hcommon, hentry⟩ := hmerge
    refine ⟨i, hr, (congrArg (·.get? k) hsymbols).trans hi, _, _, _, hentry, rfl,
      hsame, hcommon.trans hke, ?_, hall, ?_⟩
    · rw [← hc]
    · refine Atlas.forall₂_voicesOverload_congr hsigs hpart fun j hj hnone =>
        hgrown.partOf_kept ?_ hj fun hjk => absurd (hjk.symm.trans hnone) (Option.some_ne_none k)
      exact fun j hj => List.mem_singleton.1 hj ▸ hscope

/-- What can be called is declared, and then gets a signature with the same comment. -/
theorem exists_fillCallable (s : Site) (hd : d.kind ∈ DeclKind.callables) :
    ∃ kind name shown, kind.IsBasic ∧ kind ≠ .typeLiteral ∧ kind.isIn Kind.accessorLike = false ∧
      convertDecl s d = declareAnd s d kind name (fillCallable s shown fun s title =>
        convertSignature? s title d.kind.signatureKind d.comment (signatureFlags d)
          d.signature) := by
  obtain ⟨kind, name, symbol, children, modifiers, type, signature, typeParameters, bases,
    interfaces, comment, defaultValue, origin, file, line, form⟩ := d
  cases kind with
  | function | method | constructor =>
    rw [convertDecl]
    exact ⟨_, _, _, by decide, by decide, by decide, rfl⟩
  | _ => simp [DeclKind.callables] at hd

/-- The signature of a declaration has what is written of it. -/
theorem convertSignature?_overload {title : String} {flags : Flags} (hx : x.atlas.Identified)
    (hs : s.scope < x.atlas.size) :
    (convertSignature? s title d.kind.signatureKind d.comment flags d.signature).Gives x
      fun sig y => y.atlas.VoicesOverload s.scope d sig := by
  have hsays : (convertSignature? s title d.kind.signatureKind d.comment flags d.signature).Gives x
      fun sig y => y.atlas.SignatureSays sig d.comment :=
    convertSignature?_signatureSays hx hs d.kind.signatureKind_mem
  have hruns : (convertSignature? s title d.kind.signatureKind d.comment flags d.signature).Runs x
      _ _ :=
    convertSignature?_runs (fun w _ => walk.signature w (walk.of_signature w)) hx hs
      d.kind.signatureKind_mem
  obtain ⟨e, he, -, hc⟩ := hsays
  refine ⟨?_, by rw [Atlas.commentOf, he, Option.bind_some, hc]⟩
  cases hw : d.signature with
  | none =>
    rw [convertSignature?, Atlas.IsOverload, hw]
    exact ⟨_, {}, Atlas.get?_add_self x.atlas _, rfl, rfl, rfl, .nil, .nil⟩
  | some w =>
    rw [hw] at hruns
    rw [convertSignature?] at hruns ⊢
    have hreads : (convertSignature s title d.kind.signatureKind d.comment flags w).Gives x _ :=
      convertSignature_reads hx hs d.kind.signatureKind_mem
    exact hreads.isOverload hruns.post.2 hw

/-- Filling the entry of a declaration adds its overload. -/
theorem fillCallable_gathered {shown : Atlas → EntryId → String} {c : Option Comment}
    {flags : Flags} (hx : x.atlas.Identified) (hi : x.atlas.lookup (some k) = some id)
    (hinner : ¬Carry (declsOfSignature? d.signature) k) (h : x.atlas.HasOverloads k id c ds) :
    (fillCallable s shown (fun s title =>
      convertSignature? s title d.kind.signatureKind d.comment flags d.signature) id).Gives x
      fun _ y => y.atlas.lookup (some k) = some id ∧ y.atlas.HasOverloads k id c (ds ++ [d]) := by
  obtain ⟨_, hdeclares⟩ := hx.declares_of_lookup hi
  unfold fillCallable
  refine .ask_bind ?_
  have hruns : (convertSignature? (s.within id []) (shown x.atlas id) d.kind.signatureKind
      d.comment flags d.signature).Runs x _ _ :=
    convertSignature?_runs (fun w _ => walk.signature w (walk.of_signature w)) hx
      hdeclares.lt d.kind.signatureKind_mem
  refine .bind hx (hruns.and (convertSignature?_overload hx hdeclares.lt)) ?_
  rintro sig y ⟨-, hsig⟩ hxy
  have hdy := hxy.grows.declares hdeclares
  -- The signature leaves the entry and its parts alone.
  have hkept : ∀ j, x.atlas.PartOf k j → y.atlas.get? j = x.atlas.get? j := fun j hj =>
    hxy.partOf_kept (fun _ hi => absurd hi List.not_mem_nil) hj fun _ => hinner
  exact ⟨hdy.lookup_eq hxy.identified, (h.congr hkept).addSignature hsig⟩

/-! ## Visits of the symbol -/

/-- Declaring and filling is a single visit of a symbol that is not written further inside. -/
theorem visitsOf_declareAnd {fill : EntryId → Conv Unit} {es : List Decl} (hk : d.Carries k)
    (hfill : ∀ id, (fill id).Visits es) (hes : ¬Carry es k) :
    (declareAnd s d kind name fill).visitsOf k x = [declareVisit s d kind name x] := by
  have hvisit : (declare s d kind name).visitsOf k x = [declareVisit s d kind name x] := by
    rw [visitsOf, visited_declare]
    exact List.filter_cons_of_pos (decide_eq_true (p := d.symbol = some k) hk)
  rw [declareAnd, visitsOf_bind, hvisit]
  cases ((declare s d kind name).run x).1 with
  | none => rfl
  | some id =>
    exact congrArg (List.cons _)
      (Visits.visitsOf_eq_nil ((hfill id).before fun _ => .pure) hes _)

/-- A declaration that is not admitted changes nothing. -/
theorem run_declare_rejected (hs : x.atlas.Hosts s.scope)
    (hv : (declareVisit s d kind name x).isAdmitted s.settings = false) :
    (declare s d kind name).run x = (none, x) := by
  rcases Bool.and_eq_false_iff.1 hv with hname | hwanted
  · refine run_declare_unnamed fun hnamed => hnamed.1 (String.isEmpty_iff.1 ?_)
    simpa [declareVisit] using hname
  · refine declare_unwanted hs rfl fun c hc => ?_
    obtain ⟨e, he, rfl⟩ := Option.map_eq_some_iff.1 hc
    simpa [declareVisit, he] using hwanted

/-- A declaration that is declared and filled gets an entry if it is admitted, and then brings an
overload; otherwise it changes nothing. -/
theorem declareAnd_gathered {fill : EntryId → Conv Unit} (hx : x.atlas.Identified)
    (hs : x.atlas.Hosts s.scope) (hscope : x.atlas.IsApart k s.scope) (hbasic : kind.IsBasic)
    (hl : kind ≠ .typeLiteral) (hacc : kind.isIn Kind.accessorLike = false)
    (hsymbol : d.symbol = some k) (h : x.atlas.Gathered k ds)
    (hfill : ∀ (id : EntryId) (y : Draft) c, y.atlas.Identified →
      y.atlas.lookup (some k) = some id → y.atlas.HasOverloads k id c ds →
      (fill id).Gives y fun _ z =>
        z.atlas.lookup (some k) = some id ∧ z.atlas.HasOverloads k id c (ds ++ [d])) :
    (declareVisit s d kind name x).entry.isSome =
        (declareVisit s d kind name x).isAdmitted s.settings ∧
      (declareAnd s d kind name fill).Gives x fun _ y =>
        y.atlas.Gathered k (ds ++ Visit.accepted [declareVisit s d kind name x]) := by
  cases hv : (declareVisit s d kind name x).isAdmitted s.settings with
  | false =>
    -- A declaration that is not admitted makes no entry and is not filled.
    have hrun := run_declare_rejected hs hv
    have hentry : (declareVisit s d kind name x).entry = none := congrArg Prod.fst hrun
    refine ⟨by rw [hentry]; rfl, ?_⟩
    unfold Conv.Gives
    rw [declareAnd, run_bind, hrun, Visit.accepted, List.filter_cons_of_neg (by simp [hentry]),
      List.filter_nil, List.map_nil, List.append_nil]
    exact h
  | true =>
    obtain ⟨hname, hwanted⟩ := Bool.and_eq_true_iff.1 hv
    -- An admitted one is declared, and what fills it puts it behind those that came before.
    have hnamed : name.getD "" ≠ "" := by simpa [declareVisit] using hname
    have hdeclared : (declare s d kind name).Gives x _ :=
      declare_gathered hx hs hscope hbasic hl hacc hsymbol h hnamed fun c hc => by
        obtain ⟨e, he, rfl⟩ := Option.map_eq_some_iff.1 hc
        simpa [declareVisit, he] using hwanted
    obtain ⟨i, hr, hlookup, hover⟩ := id hdeclared
    have hentry : (declareVisit s d kind name x).entry = some i := hr
    have haccepted : Visit.accepted [declareVisit s d kind name x] = [d] := by
      rw [Visit.accepted, List.filter_cons_of_pos (by simp [hentry])]
      rfl
    refine ⟨by rw [hentry]; rfl, ?_⟩
    rw [haccepted]
    refine .bind hx ((declare_aside hx hs hbasic hl).and hdeclared) ?_
    rintro r y ⟨-, j, rfl, hlookup, hover⟩ hxy
    refine .then_pure ((hfill j y _ hxy.identified hlookup hover).mono ?_)
    rintro - z ⟨hlookup, hover⟩
    refine .inr ⟨List.append_ne_nil_of_right_ne_nil _ (List.cons_ne_nil _ _), j, hlookup, ?_⟩
    rw [List.findSome?_append]
    simpa using hover

/-- Filling a function or a method only visits what is written in its signature. -/
theorem fillCallable_signature_visits {shown : Atlas → EntryId → String} {sort : Kind}
    {comment : Option Comment} {flags : Flags} {w : Option Signature} :
    (fillCallable s shown (fun s title => convertSignature? s title sort comment flags w) id).Visits
      (declsOfSignature? w) :=
  fillCallable_visits fun _ _ => convertSignature?_visits fun w _ =>
    visitsWalk.signature w (visitsWalk.of_signature w)

/-- A declaration of a symbol is visited once. It gets an entry if it is admitted, and then brings
an overload; otherwise it changes nothing. -/
theorem convertDecl_gathered (hx : x.atlas.Identified) (hs : x.atlas.Hosts s.scope)
    (hscope : x.atlas.IsApart k s.scope) (hd : d.kind ∈ DeclKind.callables) (hk : d.Carries k)
    (hapart : ¬Carry d.written k) (h : x.atlas.Gathered k ds) :
    ∃ v : Visit, (convertDecl s d).visitsOf k x = [v] ∧
      v.entry.isSome = v.isAdmitted s.settings ∧
      (convertDecl s d).Gives x fun _ y => y.atlas.Gathered k (ds ++ Visit.accepted [v]) := by
  obtain ⟨kind, name, shown, hbasic, hl, hacc, hconvert⟩ := exists_fillCallable s hd
  have hinner : ¬Carry (declsOfSignature? d.signature) k :=
    fun ⟨e, he, hek⟩ => hapart ⟨e, d.signature_subset_written he, hek⟩
  rw [hconvert]
  exact ⟨declareVisit s d kind name x,
    visitsOf_declareAnd hk (fun _ => fillCallable_signature_visits) hinner,
    declareAnd_gathered hx hs hscope hbasic hl hacc hk h fun _ _ _ hy hi hover =>
      fillCallable_gathered hy hi hinner hover⟩

/-! ## The order of the visits -/

/-- A declaration that has no other one of the symbol inside is visited, if it is of the symbol. -/
theorem map_visitsOf_convertDecl (hd : d.Carries k → d.kind ∈ DeclKind.callables)
    (hnested : ¬Carry d.nested k) :
    ((convertDecl s d).visitsOf k x).map (·.decl) = [d].filter (·.symbol = some k) := by
  by_cases hk : d.symbol = some k
  · obtain ⟨kind, name, shown, -, -, -, hconvert⟩ := exists_fillCallable s (hd hk)
    have hinner : ¬Carry (declsOfSignature? d.signature) k := fun ⟨e, he, hek⟩ =>
      hnested ⟨e, d.written_subset_nested (d.signature_subset_written he), hek⟩
    rw [hconvert, visitsOf_declareAnd hk (fun _ => fillCallable_signature_visits) hinner,
      List.filter_cons_of_pos (by simpa using hk), List.filter_nil]
    rfl
  · have hcarry : ¬Carry (d :: d.nested) k := by
      rintro ⟨e, he, hek⟩
      rcases List.mem_cons.1 he with rfl | he
      · exact hk hek
      · exact hnested ⟨e, he, hek⟩
    rw [Visits.visitsOf_eq_nil (visitsWalk.of_decl d s) hcarry x,
      List.filter_cons_of_neg (by simpa using hk), List.filter_nil, List.map_nil]

/-- Declarations are visited in order. -/
theorem map_visitsOf_convertDecls
    (h : ∀ d ∈ ds, (d.Carries k → d.kind ∈ DeclKind.callables) ∧ ¬Carry d.nested k) :
    ((convertDecls s ds).visitsOf k x).map (·.decl) = ds.filter (·.symbol = some k) := by
  induction ds generalizing x with
  | nil => rfl
  | cons d ds ih =>
    obtain ⟨hd, hds⟩ := List.forall_mem_cons.1 h
    have hrest : ∀ (r : Option EntryId) (y : Draft),
        (((convertDecls s ds >>= fun is => pure (r.toList ++ is) : Conv _).visitsOf k y).map
          (·.decl)) = ds.filter (·.symbol = some k) := by
      intro r y
      rw [visitsOf_bind, List.map_append, ih hds]
      exact List.append_nil _
    rw [convertDecls, visitsOf_bind, List.map_append, map_visitsOf_convertDecl hd.1 hd.2, hrest,
      ← List.filter_append, List.singleton_append]

/-- Converting a file visits the declarations of a symbol that stand at its top, in order, if the
file is wanted. -/
theorem map_visitsOf_convertFile {settings : Settings} {f : Source.File}
    (h : ∀ d ∈ f.topDecls settings.mode,
      (d.Carries k → d.kind ∈ DeclKind.callables) ∧ ¬Carry d.nested k) :
    ((convertFile settings f).visitsOf k x).map (·.decl) =
      if f.isWantedIn settings then (f.topDecls settings.mode).filter (·.symbol = some k)
      else [] := by
  unfold convertFile
  split
  · rw [visitsOf_bind, List.map_append, map_visitsOf_convertDecls h]
    exact List.append_nil _
  · rfl

/-- The files that are let in are visited in order. -/
theorem map_visitsOf_convertFiles {settings : Settings} {files : List Source.File}
    (h : ∀ d ∈ files.flatMap (·.topDecls settings.mode),
      (d.Carries k → d.kind ∈ DeclKind.callables) ∧ ¬Carry d.nested k) :
    ((convertFiles settings files).visitsOf k x).map (·.decl) =
      ((files.filter (·.isWantedIn settings)).flatMap (·.topDecls settings.mode)).filter
        (·.symbol = some k) := by
  unfold convertFiles
  induction files generalizing x with
  | nil => rfl
  | cons f files ih =>
    rw [List.flatMap_cons, List.forall_mem_append] at h
    have hrest := fun y => ih (x := y) h.2
    rw [List.forM, visitsOf_bind, List.map_append, hrest, map_visitsOf_convertFile h.1,
      List.filter_cons]
    split
    · rw [List.flatMap_cons, List.filter_append]
    · rfl

end Conv

/-! ## Whole tours -/

/-- Along a tour, the declarations of the symbol that are admitted get an entry together, and bring
one overload each. -/
theorem Draft.Tour.gathered {k : String} {settings : Settings} {x y : Draft} {vs : List Visit}
    {ds : List Decl} (h : Draft.Tour k settings x vs y) (hds : x.atlas.Gathered k ds) :
    y.atlas.Gathered k (ds ++ Visit.accepted vs) ∧
      ∀ v ∈ vs, v.entry.isSome = v.isAdmitted settings := by
  induction h generalizing ds with
  | past h =>
    refine ⟨?_, nofun⟩
    rw [Visit.accepted, List.filter_nil, List.map_nil, List.append_nil]
    exact h.gathered hds
  | visit hx hset hs hscope hd hk hapart =>
    obtain ⟨v, hvisits, hadmitted, hy⟩ :=
      Conv.convertDecl_gathered hx hs hscope hd hk hapart hds
    rw [hvisits]
    exact ⟨hy, fun w hw => List.mem_singleton.1 hw ▸ hset ▸ hadmitted⟩
  | append h h' ih ih' =>
    obtain ⟨hy, hvs⟩ := ih hds
    obtain ⟨hz, hws⟩ := ih' hy
    rw [Visit.accepted_append, ← List.append_assoc]
    exact ⟨hz, List.forall_mem_append.2 ⟨hvs, hws⟩⟩

/-! ## Programs -/

namespace Draft

variable {settings : Settings} {files : List Source.File} {k : String}

/-- The visits of the declarations of a symbol while a program is converted, in order. -/
def visitsOf (k : String) (settings : Settings) (files : List Source.File) : List Visit :=
  (visits settings files).filter (·.decl.symbol = some k)

/-- A declaration is visited at most as often as it is written. -/
theorem visitsOf_subperm (k : String) (settings : Settings) (files : List Source.File) :
    ((visitsOf k settings files).map (·.decl)).Subperm
      ((declsOf (files.flatMap (·.topDecls settings.mode))).filter (·.symbol = some k)) := by
  have hvisits : ((visits settings files).map (·.decl)).Subperm _ :=
    Conv.convertFiles_visits files (start settings)
  have hkept := hvisits.filter fun d : Decl => decide (d.symbol = some k)
  rwa [List.filter_map] at hkept

/-- Where declarations of a symbol stand at the top of files only, all those in the files that are
let in are visited, in order. -/
theorem visitsOf_of_top
    (h : ∀ d ∈ files.flatMap (·.topDecls settings.mode),
      (d.Carries k → d.kind ∈ DeclKind.callables) ∧ ¬Carry d.nested k) :
    (visitsOf k settings files).map (·.decl) =
      ((files.filter (·.isWantedIn settings)).flatMap (·.topDecls settings.mode)).filter
        (·.symbol = some k) :=
  Conv.map_visitsOf_convertFiles h

/-- Once all files are converted, a symbol whose declarations can be called has the overloads of
those that were visited and admitted. -/
theorem ofFiles_gathered (h : Overloads k (declsOf (files.flatMap (·.topDecls settings.mode)))) :
    (ofFiles settings files).atlas.Gathered k (Visit.accepted (visitsOf k settings files)) ∧
      ∀ v ∈ visitsOf k settings files, v.entry.isSome = v.isAdmitted settings := by
  have hfree : (start settings).atlas.Gathered k [] := .inl ⟨rfl, rfl⟩
  exact (Conv.convertFiles_tours h (start_identified settings)).gathered hfree

end Draft

/-! ## The only declaration of a symbol -/

/-- Whether a declaration can be called and is the only one of some that carries its symbol. -/
structure Source.Unique (k : String) (ds : List Decl) (d : Decl) : Prop where
  callable : d.kind ∈ DeclKind.callables
  only : ds.filter (·.symbol = some k) = [d]

/-- An only declaration does not stand inside its own types. -/
theorem Source.Unique.overloads {k : String} {ds : List Decl} {d : Decl} (h : Unique k ds d)
    (hclosed : Closed ds) : Overloads k ds := by
  intro e he hek
  have hsub := (hclosed e he).filter fun d : Decl => decide (d.symbol = some k)
  have hself : (e :: e.nested).filter (fun d : Decl => decide (d.symbol = some k)) =
      e :: e.nested.filter fun d : Decl => decide (d.symbol = some k) :=
    List.filter_cons_of_pos (decide_eq_true (p := e.symbol = some k) hek)
  rw [h.only, hself] at hsub
  obtain ⟨rfl, hnested⟩ :=
    List.cons_eq_cons.1 ((List.sublist_singleton.1 hsub).resolve_left (List.cons_ne_nil _ _))
  refine ⟨h.callable, fun ⟨m, hm, hmk⟩ => ?_⟩
  have hmem : m ∈ e.nested.filter fun d : Decl => decide (d.symbol = some k) :=
    List.mem_filter.2 ⟨e.written_subset_nested hm, decide_eq_true hmk⟩
  rw [hnested] at hmem
  exact List.not_mem_nil hmem

/-- Whether an entry is a declaration with a single signature, and both have some comment, or
none. -/
structure Atlas.Speaks (a : Atlas) (i sig : EntryId) (c : Option Comment) : Prop where
  entry : ∃ e details, a.get? i = some e ∧ e.details? = some details ∧
    details.signatures = [sig] ∧ details.getSignature = none ∧ details.setSignature = none ∧
      e.comment = c
  signature : a.SignatureSays sig c

/-- A single overload speaks with the comment of its declaration. -/
theorem Atlas.HasOverloads.speaks {a : Atlas} {k : String} {i : EntryId} {c : Option Comment}
    {d : Decl} (h : a.HasOverloads k i c [d]) (hc : d.comment = c) : ∃ sig, a.Speaks i sig c := by
  obtain ⟨e, members, details, he, hb, -, -, hce, hall, hsigs⟩ := h
  obtain ⟨sig, _, ⟨⟨e', shape, he', -, -, hb', -⟩, hsaid⟩, hnil, hsig⟩ :=
    List.forall₂_cons_left_iff.1 hsigs
  rw [List.forall₂_nil_left_iff.1 hnil] at hsig
  obtain ⟨-, hget, hset⟩ : details.indexSignature = none ∧ details.getSignature = none ∧
      details.setSignature = none := by
    simpa [Details.allSignatures] using hall
  refine ⟨sig, ⟨e, details, he, by rw [Entry.details?, hb], hsig, hget, hset, hce⟩,
    e', he', by rw [Entry.shape?, hb']; rfl, ?_⟩
  rwa [commentOf, he', Option.bind_some, hc] at hsaid

/-- Once all files are converted, a declaration that can be called and is the only one of its symbol
has a single signature, and both have the comment that is written. -/
theorem ofFiles_speaks {settings : Settings} {files : List Source.File} {k : String} {d : Decl}
    (hd : Unique k (declsOf (files.flatMap (·.topDecls settings.mode))) d) {i : EntryId}
    (hi : (Draft.ofFiles settings files).atlas.lookup (some k) = some i) :
    ∃ sig, (Draft.ofFiles settings files).atlas.Speaks i sig d.comment := by
  obtain ⟨⟨-, hnone⟩ | ⟨hne, j, hj, hover⟩, -⟩ :=
    Draft.ofFiles_gathered (hd.overloads (closed_decls _))
  · exact absurd (hi.symm.trans hnone) (Option.some_ne_none i)
  -- What is let in was visited, and is therefore the only declaration.
  have honly : Visit.accepted (Draft.visitsOf k settings files) = [d] := by
    have hvisited := Draft.visitsOf_subperm k settings files
    rw [hd.only] at hvisited
    have hsub : (Visit.accepted (Draft.visitsOf k settings files)).Sublist
        ((Draft.visitsOf k settings files).map (·.decl)) :=
      List.filter_sublist.map _
    exact (List.subperm_singleton_iff.1 (hsub.subperm.trans hvisited)).resolve_left hne
  rw [honly, List.findSome?_singleton] at hover
  obtain rfl := Option.some.inj (hi.symm.trans hj)
  exact hover.speaks rfl

end ApiAtlas
