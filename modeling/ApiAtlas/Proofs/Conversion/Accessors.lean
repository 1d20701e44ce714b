import ApiAtlas.Proofs.Conversion.Entered
import ApiAtlas.Proofs.Conversion.Followed

/-!
# Getters, setters and constants

The getters and setters of a symbol share an entry. A tag on one of them makes it a constant,
wherever in a class the tag stands (`Atlas.Accessed`). The signatures depend on the place: those
that come before the first tag bring theirs, and the constant keeps it (`convertDecls_accessed`).
-/

set_option autoImplicit false

namespace ApiAtlas

open Source

namespace Source

/-- The kinds of declarations that are accessors. -/
def DeclKind.accessors : List DeclKind :=
  [.getAccessor, .setAccessor]

/-- Whether an accessor is a getter. -/
def Decl.isGetter (d : Decl) : Bool :=
  d.kind = .getAccessor

/-- Whether the comment of a declaration says that it is a constant. -/
def Decl.isTagged (d : Decl) : Bool :=
  d.comment.any (·.hasTag "constant")

/-- Whether some accessors bring a get signature, or a set signature: one of them does that comes
before all that are tagged. -/
def Brings (ds : List Decl) (isGetter : Bool) : Bool :=
  (ds.takeWhile (!·.isTagged)).any (·.isGetter == isGetter)

variable {ds : List Decl} {d : Decl} {isGetter : Bool}

/-- Accessors bring a signature if the first one does, or if it is not tagged and the others do. -/
theorem brings_cons : Brings (d :: ds) isGetter =
    (!d.isTagged && (d.isGetter == isGetter || Brings ds isGetter)) := by
  unfold Brings
  cases hd : d.isTagged <;> simp [hd]

/-- One more accessor brings its signature, if none of them is tagged. -/
theorem brings_concat : Brings (ds ++ [d]) isGetter =
    (Brings ds isGetter || !(ds ++ [d]).any Decl.isTagged && d.isGetter == isGetter) := by
  induction ds with
  | nil =>
    rw [List.nil_append, brings_cons]
    simp [Brings]
  | cons t ds ih =>
    rw [List.cons_append, brings_cons, brings_cons, ih, List.any_cons]
    cases t.isTagged with
    | true => simp
    | false => simp [Bool.or_assoc]

end Source

namespace Atlas

/-- Whether an entry is an accessor, or a constant, with a get signature or without, and with a set
signature or without. -/
def IsAccessor (a : Atlas) (i : EntryId) (constant : Bool) (slots : Bool → Bool) : Prop :=
  ∃ e members details, a.get? i = some e ∧ e.body = .declaration members details ∧
    e.kind = (if constant then .constant else .accessor) ∧
    ∀ isGetter, (Conv.accessorSignature isGetter details).isSome = slots isGetter

/-- What is known of a symbol after some accessors of it: it is free, if there are none. Its entry
is a constant if one of them is tagged, and has the signatures that they bring. -/
def Accessed (a : Atlas) (k : String) (ds : List Decl) : Prop :=
  (ds = [] ∧ a.lookup (some k) = none) ∨
    ∃ i, a.lookup (some k) = some i ∧ a.IsAccessor i (ds.any Decl.isTagged) (Brings ds)

variable {a b : Atlas} {i : EntryId} {k : String} {constant : Bool} {slots : Bool → Bool}
  {ds : List Decl}

/-- Whether an entry is an accessor only depends on the entry. -/
theorem IsAccessor.congr (h : a.IsAccessor i constant slots) (hi : b.get? i = a.get? i) :
    b.IsAccessor i constant slots := by
  obtain ⟨e, members, details, he, hrest⟩ := h
  exact ⟨e, members, details, hi.trans he, hrest⟩

/-- An accessor cannot get children. -/
theorem IsAccessor.not_hosts (h : a.IsAccessor i constant slots) : ¬a.Hosts i := by
  obtain ⟨e, members, details, he, -, hk, -⟩ := h
  rintro ⟨e', he', -, hk'⟩
  obtain rfl := Option.some.inj (he.symm.trans he')
  rw [hk] at hk'
  cases constant <;> cases hk'

/-- A change of the details adds signatures to an accessor. -/
theorem IsAccessor.mapDetails {slots' : Bool → Bool} {f : Details → Details}
    (h : a.IsAccessor i constant slots)
    (hf : ∀ details isGetter, (Conv.accessorSignature isGetter details).isSome = slots isGetter →
      (Conv.accessorSignature isGetter (f details)).isSome = slots' isGetter) :
    (a.modify i fun e => e.mapDetails f).IsAccessor i constant slots' := by
  obtain ⟨e, members, details, he, hb, hk, hslots⟩ := h
  refine ⟨{ e with body := .declaration members (f details) }, members, f details, ?_, rfl, hk,
    fun isGetter => hf details isGetter (hslots isGetter)⟩
  rw [get?_modify_self _ he, Entry.mapDetails, hb]

end Atlas

namespace Conv

variable {x : Draft} {s : Site} {d : Decl} {k : String} {id : EntryId} {constant : Bool}
  {slots : Bool → Bool} {kind : Kind} {flags : Flags} {ds es : List Decl}

/-- A new entry of a kind has no signatures yet. -/
theorem create_isAccessor {name : String} (hx : x.atlas.Identified) (hs : x.atlas.Hosts s.scope)
    (hsymbol : d.symbol = some k) (constant : Bool) :
    (create s d name (if constant then .constant else .accessor) flags).Gives x fun i y =>
      y.atlas.lookup (some k) = some i ∧ y.atlas.IsAccessor i constant fun _ => false := by
  refine (create_entry hx hs hsymbol).mono ?_
  rintro i y ⟨hlookup, sources, hentry⟩
  exact ⟨hlookup, _, {}, _, hentry, rfl, rfl, fun isGetter => by cases isGetter <;> rfl⟩

/-- An accessor that is merged into leaves the symbols, and the entry is still of the same form. -/
theorem mergeInto_isAccessor (h : x.atlas.IsAccessor id constant slots) :
    (mergeInto s id d flags).Gives x fun _ y =>
      y.atlas.symbols = x.atlas.symbols ∧ y.atlas.IsAccessor id constant slots := by
  obtain ⟨e, members, details, he, hb, hk, hslots⟩ := h
  refine (mergeInto_entry he hb).mono ?_
  rintro _ y ⟨hsymbols, sources, hentry⟩
  exact ⟨hsymbols, _, members, { details with sources := sources }, hentry, rfl, hk, hslots⟩

/-- An accessor that is merged with a constant becomes one. -/
theorem merge_isAccessor {tagged : Bool} (h : x.atlas.IsAccessor id constant slots) :
    (merge s id d (if tagged then .constant else .accessor) flags).Gives x fun r y =>
      r = some id ∧ y.atlas.symbols = x.atlas.symbols ∧
        y.atlas.IsAccessor id (constant || tagged) slots := by
  have ⟨e, members, details, he, hb, hk, hslots⟩ := h
  have hdecl : e.isDeclaration = true := by simp [Entry.isDeclaration, Entry.details?, hb]
  unfold merge
  refine .ask_bind ?_
  simp only [he, Option.getD_some, hdecl, Bool.not_true, Bool.false_eq_true, if_false]
  by_cases hsame : constant = tagged
  · subst hsame
    rw [if_neg (not_not.2 hk), Bool.or_self]
    exact .then_pure ((mergeInto_isAccessor h).mono fun _ _ hmerged => ⟨rfl, hmerged⟩)
  · obtain ⟨hne, hcommon, hor⟩ : e.kind ≠ (if tagged then .constant else .accessor) ∧
        commonKind? e.kind (if tagged then .constant else .accessor) = some .constant ∧
          (constant || tagged) = true := by
      rw [hk]
      cases constant <;> cases tagged <;> first | exact absurd rfl hsame | decide
    rw [if_pos hne, hcommon, hor]
    refine .change_bind fun y hy => ?_
    have hrecast : y.atlas.IsAccessor id true slots := by
      rw [hy]
      exact ⟨_, members, details, Atlas.get?_modify_self _ he, hb, rfl, hslots⟩
    have hsymbols : y.atlas.symbols = x.atlas.symbols := by rw [hy, Atlas.symbols_modify]
    exact .then_pure (hsymbols ▸ (mergeInto_isAccessor hrecast).mono fun _ _ h => ⟨rfl, h⟩)

/-- Declaring an accessor leaves the signatures of its symbol as they are. -/
theorem declare_isAccessor {name : Option String} {tagged : Bool} (hx : x.atlas.Identified)
    (hs : x.atlas.Hosts s.scope) (hkind : x.atlas.kindAt s.scope = some kind)
    (hsymbol : d.symbol = some k) (hname : name.getD "" ≠ "")
    (hwanted : isWanted s.settings kind d = true) (h : x.atlas.Accessed k ds) :
    (declare s d (if tagged then .constant else .accessor) name).Gives x fun r y =>
      ∃ i, r = some i ∧ y.atlas.lookup (some k) = some i ∧
        y.atlas.IsAccessor i (ds.any Decl.isTagged || tagged) (Brings ds) := by
  have hosts := hs
  obtain ⟨e, he, hm, -⟩ := hosts
  obtain rfl : e.kind = kind := by simpa [Atlas.kindAt, he] using hkind
  have hnamed : ((name.getD "").isEmpty || d.symbol.isNone) = false := by simp [hname, hsymbol]
  have hcontainer : e.members?.isNone = false := Option.isNone_eq_false_iff.2 hm
  unfold declare
  dsimp only
  refine .visiting ?_
  rw [hnamed, if_neg Bool.false_ne_true]
  refine .ask_bind ?_
  rw [he, Option.getD_some, hcontainer, if_neg Bool.false_ne_true, hwanted, Bool.not_true,
    if_neg Bool.false_ne_true]
  refine .ask_bind ?_
  rw [hsymbol]
  obtain ⟨rfl, hfree⟩ | ⟨i, hi, haccessor⟩ := h
  · rw [hfree]
    exact ⟨_, rfl, create_isAccessor hx hs hsymbol tagged⟩
  · rw [hi]
    refine (merge_isAccessor haccessor).mono ?_
    rintro r y ⟨hr, hsymbols, hstill⟩
    exact ⟨i, hr, (congrArg (·.get? k) hsymbols).trans hi, hstill⟩

/-- Filling an accessor adds its signature, unless it is a constant. -/
theorem fillAccessor_isAccessor {isGetter : Bool} {value : Site → Conv (Option Ty)}
    {signature : Site → Conv EntryId} {A : EntryId → Prop} {Q : Option Ty → Draft → Prop}
    {R : EntryId → Draft → Prop} (hx : x.atlas.Identified)
    (h : x.atlas.IsAccessor id constant slots) (hA : ¬A id)
    (hv : (value (s.within id [])).Runs x A Q) (hs : (signature (s.within id [])).Runs x A R) :
    (fillAccessor s d isGetter value signature id).Gives x fun _ y =>
      y.atlas.IsAccessor id constant fun g => slots g || !constant && isGetter == g := by
  have ⟨e, members, details, he, hb, hk, hslots⟩ := h
  have hdetails : e.details? = some details := by rw [Entry.details?, hb]
  -- What else is converted leaves the entry alone.
  have kept : ∀ {y : Draft}, x.Grown A y → y.atlas.IsAccessor id constant slots :=
    fun hxy => h.congr (hxy.frame id (Atlas.get?_lt he) hA)
  unfold fillAccessor
  refine .ask_bind ?_
  simp only [he, Option.getD_some, hdetails]
  cases constant with
  | true =>
    simp only [Bool.not_true, Bool.false_and, Bool.or_false]
    have hconstant : e.kind = .constant := hk
    rw [if_pos hconstant]
    split
    · refine .bind hx hv fun ty y _ hxy => ?_
      exact (kept hxy).mapDetails fun details g hg => by cases g <;> exact hg
    · exact h
  | false =>
    have hconstant : e.kind ≠ .constant := by
      rw [hk]
      decide
    rw [if_neg hconstant, hslots]
    simp only [Bool.not_false, Bool.true_and]
    split
    · next hfull =>
      refine .report fun y hy => ?_
      have hsame : (fun g => slots g || isGetter == g) = slots := by
        funext g
        by_cases hg : isGetter = g
        · rw [← hg, hfull, Bool.true_or]
        · simp [hg]
      rw [hsame, hy]
      exact h
    · refine .bind hx hs fun sig y _ hxy => ?_
      refine (kept hxy).mapDetails fun details g hg => ?_
      rw [← hg]
      cases isGetter <;> cases g <;> simp [accessorSignature, withAccessorSignature]

/-- In a class or an interface, a declaration becomes an accessor unless it is tagged as a constant.
-/
theorem accessorKind_of_class (h : kind.isIn Kind.classOrInterface = true) (d : Decl) :
    accessorKind kind d.comment = if d.isTagged then .constant else .accessor := by
  unfold accessorKind Decl.isTagged
  cases d.comment with
  | none => rfl
  | some c =>
    dsimp only
    rw [h, Bool.true_and, Option.any_some]

/-- An accessor is declared, and then filled with what is written in it. -/
theorem exists_fillAccessor (s : Site) (hd : d.kind ∈ DeclKind.accessors) :
    ∃ value signature, convertDecl s d = (do
        let scopeKind ← ask fun a => ((a.get? s.scope).map (·.kind)).getD (.mixed 0)
        declareAnd s d (accessorKind scopeKind d.comment) d.name
          (fillAccessor s d d.isGetter value signature)) ∧
      ∀ (x : Draft) (id : EntryId), x.atlas.Identified → id < x.atlas.size →
        ((value (s.within id [])).Runs x (x.atlas.Reach [] d.written) fun ty _ =>
          ∀ u ∈ ty, u.IsOpen) ∧
        (signature (s.within id [])).Runs x (x.atlas.Reach [] d.written) fun sig y =>
          y.atlas.IsSignatureOf sig id
            [if d.isGetter then .getSignature else .setSignature] := by
  have htype := d.type_subset_written
  have hsignature := d.signature_subset_written
  have types : ∀ t ∈ d.type, TypeRuns t := fun t _ => walk.of_type t
  have signatures : ∀ w ∈ d.signature, SignatureRuns w := fun w _ =>
    walk.signature w (walk.of_signature w)
  have parts : ∀ w ∈ d.signature, w.All TypeRuns := fun w _ => walk.of_signature w
  obtain ⟨kind, name, symbol, children, modifiers, type, signature, typeParameters, bases,
    interfaces, comment, defaultValue, origin, file, line, form⟩ := d
  cases kind with
  | getAccessor =>
    refine ⟨_, _, convertDecl.eq_def .., fun x id hx hid => ⟨?_, ?_⟩⟩
    · split
      · exact (convertType?_runs types hx hid).inside (.refl _) htype
      · exact (convertResult?_runs parts hx hid).inside (.refl _) hsignature
    · refine ((convertSignature?_runs (s := s.within id []) signatures hx hid ?_).inside (.refl _)
        hsignature).weaken fun _ _ h => h.2
      decide
  | setAccessor =>
    refine ⟨_, _, convertDecl.eq_def .., fun x id hx hid => ⟨?_, ?_⟩⟩
    · split
      · exact (convertType?_runs types hx hid).inside (.refl _) htype
      · exact (convertFirstParam?_runs parts hx hid).inside (.refl _) hsignature
    · refine ((convertSignature?_runs (s := s.within id []) signatures hx hid ?_).inside (.refl _)
        hsignature).weaken fun _ _ h => h.2
      decide
  | _ => simp [DeclKind.accessors] at hd

/-- One more accessor of a class or an interface. -/
theorem convertDecl_accessed (hx : x.atlas.Identified) (hs : x.atlas.Hosts s.scope)
    (hkind : x.atlas.kindAt s.scope = some kind) (hclass : kind.isIn Kind.classOrInterface = true)
    (hd : d.kind ∈ DeclKind.accessors) (hsymbol : d.symbol = some k) (hname : d.name.getD "" ≠ "")
    (hwanted : isWanted s.settings kind d = true) (hapart : ¬Carry d.written k)
    (h : x.atlas.Accessed k ds) :
    (convertDecl s d).Gives x fun _ y => y.atlas.Accessed k (ds ++ [d]) := by
  obtain ⟨value, signature, hconvert, hparts⟩ := exists_fillAccessor s hd
  rw [hconvert]
  refine .ask_bind ?_
  have hscope : ((x.atlas.get? s.scope).map (·.kind)).getD (.mixed 0) = kind := by
    rw [← Atlas.kindAt, hkind, Option.getD_some]
  rw [hscope, accessorKind_of_class hclass, declareAnd]
  obtain ⟨hbasic, hliteral, haccessor⟩ :
      (if d.isTagged then Kind.constant else .accessor).IsBasic ∧
        (if d.isTagged then Kind.constant else .accessor) ≠ .typeLiteral ∧
          (if d.isTagged then Kind.constant else .accessor).isIn Kind.accessorLike = true := by
    split <;> decide
  refine .bind hx ((declare_runs hx hs hbasic hliteral (List.mem_singleton_self d)).and
    (declare_isAccessor hx hs hkind hsymbol hname hwanted h)) ?_
  rintro _ y ⟨hdeclares, i, rfl, hlookup, hi⟩ hxy
  have hdy := haccessor ▸ hdeclares i rfl
  obtain ⟨hvalue, hsignature⟩ := hparts y i hxy.identified hdy.lt
  -- No declaration inside the accessor reaches its entry.
  have hout : ¬y.atlas.Reach [] d.written i :=
    (Atlas.outside_of_symbolOf (hdy.symbolOf.trans hsymbol) hapart).not_reach hdy.lt
      List.not_mem_nil
  have hfill : (fillAccessor s d d.isGetter value signature i).Gives y _ :=
    fillAccessor_isAccessor hxy.identified hi hout hvalue hsignature
  have within : ∀ j, y.atlas.Reach [] d.written j → y.atlas.Reach [i] d.written j :=
    fun j hj => hj.mono (.refl _) (List.forall_mem_nil _) (List.Subset.refl _)
  have hruns : (fillAccessor s d d.isGetter value signature i).Runs y _ _ :=
    fillAccessor_runs hxy.identified hdy (Atlas.reach_mem (List.mem_singleton_self i))
      (hvalue.mono within fun _ _ h => h) (hsignature.mono within fun _ _ h => h)
  have hdz := (hruns.grows hxy.identified).declares hdy
  refine .then_pure (.inr ⟨i, hsymbol ▸ hdz.lookup_eq (hruns.identified hxy.identified), ?_⟩)
  have hbrings : Brings (ds ++ [d]) = _ := funext fun _ => brings_concat
  rw [hbrings, List.any_append, List.any_cons, List.any_nil, Bool.or_false]
  exact hfill

/-- A declaration of another symbol changes nothing of what is known. -/
theorem convertDecl_accessed_of_not_carry (hx : x.atlas.Identified) (hs : x.atlas.Hosts s.scope)
    (hd : ¬Carry (d :: d.nested) k) (h : x.atlas.Accessed k ds) :
    (convertDecl s d).Gives x fun _ y => y.atlas.Accessed k ds := by
  have hruns := convertDecl_aside s d hx hs
  have hlookup : ((convertDecl s d).run x).2.atlas.lookup (some k) = x.atlas.lookup (some k) :=
    hruns.post.2.spares.symbols k (not_or.2 ⟨hd, not_false⟩)
  obtain ⟨rfl, hfree⟩ | ⟨i, hi, haccessor⟩ := h
  · exact .inl ⟨rfl, hlookup.trans hfree⟩
  refine .inr ⟨i, hlookup.trans hi, haccessor.congr ?_⟩
  obtain ⟨_, hdeclares⟩ := hx.declares_of_lookup hi
  refine (Atlas.outside_of_symbolOf hdeclares.symbolOf hd).frame (hruns.grown hx) hdeclares.lt ?_
  -- The scope can get members, which an accessor cannot.
  rw [List.mem_singleton]
  rintro rfl
  exact haccessor.not_hosts hs

/-- The members of a class or an interface: those of a symbol, if they are accessors, make a
constant of it if one of them is tagged, and bring the signatures of those before. -/
theorem convertDecls_accessed (hx : x.atlas.Identified) (hs : x.atlas.Hosts s.scope)
    (hkind : x.atlas.kindAt s.scope = some kind) (hclass : kind.isIn Kind.classOrInterface = true)
    (hscope : x.atlas.Outside s.scope (declsOf es))
    (hmembers : ∀ d ∈ es, d.symbol = some k → d.kind ∈ DeclKind.accessors ∧
      d.name.getD "" ≠ "" ∧ isWanted s.settings kind d = true)
    (hnested : ∀ d ∈ es, ¬Carry d.nested k) (h : x.atlas.Accessed k ds) :
    (convertDecls s es).Gives x fun _ y =>
      y.atlas.Accessed k (ds ++ es.filter (·.symbol = some k)) := by
  induction es generalizing x ds with
  | nil =>
    rw [convertDecls, List.filter_nil, List.append_nil]
    exact .pure h
  | cons d es ih =>
    obtain ⟨hd, hes⟩ := List.forall_mem_cons.1 hmembers
    obtain ⟨hdn, hesn⟩ := List.forall_mem_cons.1 hnested
    have hstep : (convertDecl s d).Gives x fun _ y =>
        y.atlas.Accessed k (ds ++ [d].filter (·.symbol = some k)) := by
      by_cases hk : d.symbol = some k
      · obtain ⟨haccessor, hname, hwanted⟩ := hd hk
        have hwritten : ¬Carry d.written k := by
          rintro ⟨e, he, hek⟩
          exact hdn ⟨e, d.written_subset_nested he, hek⟩
        rw [List.filter_singleton, decide_eq_true hk]
        exact convertDecl_accessed hx hs hkind hclass haccessor hk hname hwanted hwritten h
      · rw [List.filter_singleton, decide_eq_false hk, cond_false, List.append_nil]
        refine convertDecl_accessed_of_not_carry hx hs ?_ h
        rintro ⟨e, he, hek⟩
        rcases List.mem_cons.1 he with rfl | he
        · exact hk hek
        · exact hdn ⟨e, he, hek⟩
    rw [convertDecls]
    refine .bind hx ((convertDecl_aside s d hx hs).and hstep) ?_
    rintro first y ⟨⟨-, haside⟩, hy⟩ hxy
    -- The scope stays what it is.
    have hkept := haside.kept.kinds s.scope hs.lt (hscope.mono (by simp [declsOf]))
    have hrest : (convertDecls s es).Gives y _ :=
      ih hxy.identified (hxy.grows.hosts hs) (hkept.trans hkind)
        ((hscope.mono (by simp [declsOf])).grow hxy.grows hs.lt) hes hesn hy
    rw [List.append_assoc, ← List.filter_append] at hrest
    exact hrest

/-- A getter and a setter of a symbol that is new: the first one brings its signature unless it is
tagged itself, the second one if neither is tagged. -/
theorem convertDecls_getter_setter {d d' : Decl} (hx : x.atlas.Identified)
    (hs : x.atlas.Hosts s.scope) (hkind : x.atlas.kindAt s.scope = some kind)
    (hclass : kind.isIn Kind.classOrInterface = true)
    (hscope : x.atlas.Outside s.scope (declsOf es))
    (hmembers : ∀ d ∈ es, d.symbol = some k → d.kind ∈ DeclKind.accessors ∧
      d.name.getD "" ≠ "" ∧ isWanted s.settings kind d = true)
    (hnested : ∀ d ∈ es, ¬Carry d.nested k) (hfree : x.atlas.lookup (some k) = none)
    (hpair : es.filter (·.symbol = some k) = [d, d']) (hother : d'.isGetter = !d.isGetter) :
    (convertDecls s es).Gives x fun _ y => ∃ i, y.atlas.lookup (some k) = some i ∧
      y.atlas.IsAccessor i (d.isTagged || d'.isTagged) fun g =>
        !d.isTagged && (g == d.isGetter || !d'.isTagged) := by
  refine (convertDecls_accessed hx hs hkind hclass hscope hmembers hnested
    (.inl ⟨rfl, hfree⟩)).mono fun _ y hy => ?_
  rw [List.nil_append, hpair] at hy
  obtain ⟨hnil, -⟩ | ⟨i, hi, haccessor⟩ := hy
  · cases hnil
  have hconstant : [d, d'].any Decl.isTagged = (d.isTagged || d'.isTagged) := by simp
  have hbrings : Brings [d, d'] = fun g => !d.isTagged && (g == d.isGetter || !d'.isTagged) := by
    funext g
    rw [brings_cons, brings_cons, hother]
    cases g <;> cases d.isGetter <;> simp [Brings]
  rw [hconstant, hbrings] at haccessor
  exact ⟨i, hi, haccessor⟩

end Conv

/-- A getter before a tagged setter: the constant keeps the get signature. -/
theorem late_tag_keeps_getSignature :
    let type : TypeExpr := { form := .intrinsic, name := some "number" }
    let file : Source.File :=
      { name := "a.ts",
        decls :=
          [{ kind := .class, name := some "A", symbol := some "A",
             children :=
               [{ kind := .getAccessor, name := some "x", symbol := some "A#x",
                  signature := some { result := some type } },
                { kind := .setAccessor, name := some "x", symbol := some "A#x",
                  signature := some { parameters := [{ name := "v", type := some type }] },
                  comment := some ⟨"", [⟨"constant", "", none⟩]⟩ }] }] }
    let made := (Draft.ofFiles {} [file]).atlas
    made.kindAt 2 = some .constant ∧ (made.details? 2).bind (·.getSignature) = some 3 ∧
      (made.details? 2).bind (·.setSignature) = none ∧ made.kindAt 3 = some .getSignature := by
  decide +kernel

end ApiAtlas
