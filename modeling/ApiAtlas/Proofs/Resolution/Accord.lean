import ApiAtlas.Proofs.Conversion.Overloads
import ApiAtlas.Proofs.Resolution.Documentation
import ApiAtlas.Proofs.Resolution.Frame

/-!
# Declarations in accord with their signatures

A function and its signature are documented apart: the function takes over the comment of its
source, and the signature that of the source's first signature. They still say the same afterwards
if the source and its first signature do (`Atlas.Accords.takeOver`), and so on along the chain of
sources (`convert_accords`). Functions that are each the only declaration of their symbol say the
same to begin with, so that a function whose sources are such functions does so in the end
(`convert_unique_accords`). A source without signatures breaks the chain: a function that is
documented by a variable leaves its signature undocumented (`variable_source_discord`).
-/

set_option autoImplicit false

namespace ApiAtlas

/-- Whether a signature is the first one of a declaration, and listed only once. -/
structure Details.StartsWith (details : Details) (sig : EntryId) : Prop where
  first : details.signatures.head? = some sig
  once : sig ∉ details.signatures.tail ++ details.getSignature.toList ++ details.setSignature.toList

/-- The first signature of a declaration is one of its signatures. -/
theorem Details.StartsWith.mem_allSignatures {details : Details} {sig : EntryId}
    (h : details.StartsWith sig) : sig ∈ details.allSignatures := by
  have hmem : sig ∈ details.signatures := List.mem_of_head? h.first
  simp [allSignatures, hmem]

/-- The only signature of a declaration is its first one. -/
theorem Details.startsWith_of_eq_singleton {details : Details} {sig : EntryId}
    (h : details.signatures = [sig]) (hget : details.getSignature = none)
    (hset : details.setSignature = none) : details.StartsWith sig :=
  ⟨by rw [h, List.head?_cons], by simp [h, hget, hset]⟩

namespace Atlas

variable {a b : Atlas} {links : Array Links} {d e s sig their : EntryId}

/-- Whether a declaration says what its first signature says. -/
def Accords (a : Atlas) (d : EntryId) : Prop :=
  ∃ details sig, a.details? d = some details ∧ details.StartsWith sig ∧
    a.commentOf sig = a.commentOf d

/-- What is in accord with its first signature is a declaration. -/
theorem Accords.isDeclaration (h : a.Accords d) : a.isDeclaration d = true := by
  obtain ⟨details, -, hdetails, -⟩ := h
  exact isDeclaration_of_details? hdetails

/-- A declaration that speaks is in accord with its only signature. -/
theorem Speaks.accords {i : EntryId} {c : Option Comment} (h : a.Speaks i sig c) :
    a.Accords i := by
  obtain ⟨⟨e, details, he, hdetails, hsigs, hget, hset, hc⟩, e', he', -, hc'⟩ := h
  refine ⟨details, sig, ?_, Details.startsWith_of_eq_singleton hsigs hget hset, ?_⟩
  · rw [details?, he, Option.bind_some, hdetails]
  · rw [commentOf, he', Option.bind_some, hc', commentOf, he, Option.bind_some, hc]

/-- Resolving references resolves the types in the details of an entry and leaves the rest of them.
-/
theorem details?_resolveReferences (a : Atlas) (i : EntryId) :
    a.resolveReferences.details? i = (a.details? i).map fun details =>
      { details with
        type := details.type.map (Ty.resolve a.lookup)
        extended := details.extended.map (Ty.resolve a.lookup)
        implemented := details.implemented.map (Ty.resolve a.lookup) } := by
  rw [details?, get?_resolveReferences, details?]
  cases a.get? i with
  | none => rfl
  | some e =>
    obtain ⟨name, kind, flags, comment, parent, body⟩ := e
    cases body <;> rfl

/-- Resolving references changes neither comments nor lists of signatures. -/
theorem Accords.resolveReferences (h : a.Accords d) : a.resolveReferences.Accords d := by
  obtain ⟨details, sig, hdetails, ⟨hfirst, honce⟩, hsame⟩ := h
  refine ⟨_, sig, (details?_resolveReferences a d).trans (congrArg _ hdetails), ⟨hfirst, honce⟩, ?_⟩
  rw [commentOf_resolveReferences, commentOf_resolveReferences, hsame]

/-- Signatures stay with their declarations when comments are changed. -/
theorem Recommented.signaturesOwned (h : a.Recommented b) (ha : a.SignaturesOwned) :
    b.SignaturesOwned := by
  intro d details hd sig hsig
  rw [h.details?_eq] at hd
  obtain ⟨entry, hentry, hshape, hparent, hkind⟩ := ha d details hd sig hsig
  obtain ⟨c, hc⟩ := h.entries sig
  rw [hentry, Option.map_some] at hc
  exact ⟨_, hc, hshape, hparent, hkind⟩

/-! ## One step -/

/-- The first signatures correspond, and no other pair changes the first signature. -/
theorem signaturePairs_eq {mine theirs : Details} (hmine : mine.StartsWith sig)
    (htheirs : theirs.StartsWith their) :
    ∃ others, signaturePairs mine theirs = (sig, their) :: others ∧
      ∀ pair ∈ others, sig ≠ pair.1 := by
  obtain ⟨rest, hrest⟩ := List.head?_eq_some_iff.1 hmine.first
  obtain ⟨rest', hrest'⟩ := List.head?_eq_some_iff.1 htheirs.first
  have honce := hmine.once
  rw [hrest, List.tail_cons] at honce
  refine ⟨_, by rw [signaturePairs, hrest, hrest', List.zip_cons_cons, List.cons_append,
    List.cons_append], fun pair hpair hsame => honce ?_⟩
  simp only [List.mem_append] at hpair ⊢
  rcases hpair with (hpair | hpair) | hpair
  · exact Or.inl (Or.inl (hsame ▸ (List.of_mem_zip hpair).1))
  · exact Or.inl (Or.inr (hsame ▸ (List.of_mem_zip hpair).1))
  · exact Or.inr (hsame ▸ (List.of_mem_zip hpair).1)

/-- A signature has an entry with its shape. -/
theorem exists_of_isSignature (h : a.isSignature sig = true) :
    ∃ e, a.get? sig = some e ∧ e.shape?.isSome = true := by
  obtain ⟨shape, hshape⟩ := Option.isSome_iff_exists.1 h
  obtain ⟨e, he, hshape⟩ := Option.bind_eq_some_iff.1 hshape
  exact ⟨e, he, by rw [hshape, Option.isSome_some]⟩

/-- A signature that asks for documentation takes over the comment of another one, if that has
one. -/
theorem commentOf_inheritSignature_self (hsig : a.isSignature sig = true)
    (htheir : a.isSignature their = true) (hasks : asksForComment (a.commentOf sig) = true) :
    (a.inheritSignature (sig, their)).commentOf sig =
      ((a.commentOf their).map fun c => Comment.inherit c (a.commentOf sig)).or
        (a.commentOf sig) := by
  obtain ⟨mine, hmine, hshape⟩ := exists_of_isSignature hsig
  obtain ⟨theirs, htheirs, hshape'⟩ := exists_of_isSignature htheir
  have hlt : sig < a.size := get?_lt hmine
  have hcomment : a.commentOf sig = mine.comment := by rw [commentOf, hmine, Option.bind_some]
  have hcomment' : a.commentOf their = theirs.comment := by
    rw [commentOf, htheirs, Option.bind_some]
  rw [inheritSignature, hmine, htheirs, hcomment']
  cases hc : theirs.comment with
  | none => simp only [hc, Option.map_none, Option.none_or]
  | some c =>
    rw [hcomment] at hasks ⊢
    simp only [hc, hshape, hshape', hasks, Bool.and_self, if_true]
    rw [commentOf_setComment, if_pos ⟨rfl, hlt⟩, Option.map_some, Option.some_or]

/-- What asks for documentation, or says nothing at all, can take over a comment. -/
theorem asksForComment_of_commentSource (h : a.commentSource links d = .ok (some s))
    (hvoiced : a.commentOf d ≠ some ⟨"", []⟩) : asksForComment (a.commentOf d) = true := by
  unfold commentSource at h
  cases hc : a.commentOf d with
  | none => rfl
  | some c =>
    cases ht : c.tag? Comment.inheritTag none with
    | some t =>
      show c.hasTag Comment.inheritTag = true
      rw [Comment.hasTag, ht, Option.isSome_some]
    | none =>
      simp only [hc, Option.bind_some, ht] at h
      split at h
      · next hempty =>
        obtain ⟨summary, tags⟩ := c
        simp only [Comment.isEmpty, Bool.and_eq_true, String.isEmpty_iff, List.isEmpty_iff]
          at hempty
        rw [hc, hempty.1, hempty.2] at hvoiced
        exact absurd rfl hvoiced
      · cases h

/-- A declaration in accord that takes over documentation from another one in accord stays so. -/
theorem Accords.takeOver (howned : a.SignaturesOwned) (hd : a.Accords d) (hs : a.Accords s)
    (hasks : asksForComment (a.commentOf d) = true) : (a.takeOver d s).Accords d := by
  have hdecl := hd.isDeclaration
  obtain ⟨mine, sig, hmine, hsig, hsame⟩ := hd
  obtain ⟨theirs, their, htheirs, htheir, hsame'⟩ := hs
  have hb := recommented_inheritComment a d s
  have isSig : ∀ {x details i}, a.details? x = some details → i ∈ details.allSignatures →
      (a.inheritComment d s).isSignature i = true ∧
        (a.inheritComment d s).commentOf i = a.commentOf i := by
    intro x details i hx hi
    have hi := howned x details hx i hi
    have hne : i ≠ d := by
      rintro rfl
      rw [hi.isDeclaration_eq] at hdecl
      cases hdecl
    obtain ⟨entry, hentry, hshape, -⟩ := hi
    refine ⟨?_, commentOf_inheritComment_of_ne hne⟩
    rw [isSignature, hb.bind_eq (·.shape?) fun _ _ => rfl, hentry, Option.bind_some, hshape]
  obtain ⟨hisSig, hsigComment⟩ := isSig hmine hsig.mem_allSignatures
  obtain ⟨hisTheir, htheirComment⟩ := isSig htheirs htheir.mem_allSignatures
  obtain ⟨others, hpairs, hothers⟩ := signaturePairs_eq hsig htheir
  refine ⟨mine, sig, (recommented_takeOver a d s).details?_eq.trans hmine, hsig, ?_⟩
  have hafter : (a.takeOver d s).commentOf sig =
      ((a.inheritComment d s).inheritSignature (sig, their)).commentOf sig := by
    rw [Atlas.takeOver, inheritSignatures, hb.details?_eq, hb.details?_eq, hmine, htheirs]
    simp only [hpairs, List.foldl_cons]
    exact commentOf_foldl_inheritSignature_of_notMem hothers
  rw [hafter, commentOf_inheritSignature_self hisSig hisTheir (by rw [hsigComment, hsame, hasks]),
    hsigComment, htheirComment, hsame, hsame', commentOf_takeOver_self hdecl]
  cases a.commentOf s <;> rfl

/-- Other declarations stay in accord. -/
theorem Accords.takeOver_of_ne (howned : a.SignaturesOwned) (hd : a.isDeclaration d = true)
    (he : a.Accords e) (hne : e ≠ d) : (a.takeOver d s).Accords e := by
  have hdecl := he.isDeclaration
  obtain ⟨details, sig, hdetails, hsig, hsame⟩ := he
  have hapart : ¬a.Concerns d sig := by
    intro hconcerns
    have hown : a.Concerns e sig := .inr ⟨details, hdetails, hsig.mem_allSignatures⟩
    exact hne (howned.concerns_unique hdecl hd hown hconcerns)
  refine ⟨details, sig, (recommented_takeOver a d s).details?_eq.trans hdetails, hsig, ?_⟩
  rw [commentOf_takeOver_of_not_concerns hapart, hsame,
    commentOf_takeOver_of_isDeclaration hdecl hne]

/-! ## The walk -/

/-- Whether a declaration takes its documentation from another one. -/
def TakesFrom (a : Atlas) (links : Array Links) (d s : EntryId) : Prop :=
  a.commentSource links d = .ok (some s)

/-- Whether the declarations on the chain of sources of a declaration are all in accord, and say
something if they have a comment. -/
def ChainAccords (a : Atlas) (links : Array Links) (d : EntryId) : Prop :=
  ∀ e, Relation.ReflTransGen (a.TakesFrom links) d e →
    a.Accords e ∧ a.commentOf e ≠ some ⟨"", []⟩

/-- When a chain of sources is in accord, it is so at any time of the walk. -/
theorem ChainAccords.inheritComments (howned : a.SignaturesOwned) (hchain : a.ChainAccords links d)
    (h : a.inheritComments links = .ok b) : b.Accords d := by
  obtain ⟨src, w, hsrc, hsteps, rfl⟩ := inheritComments_steps h
  have always := CommentWalk.steps_induction
    (I := fun w => ∀ e, Relation.ReflTransGen (a.TakesFrom links) d e → w.atlas.Accords e) hsteps
    (fun u v hu hI hstep => ?_) (CommentWalk.sound_start a) fun e he => (hchain e he).1
  · exact always.2 d .refl
  · cases hstep with
    | own x hx hnew hs => exact hI
    | take x s hx hnew hs hready =>
      have hownedNow := hu.recommented.signaturesOwned howned
      intro e he
      by_cases hex : e = x
      · subst hex
        have hsource : a.TakesFrom links e s :=
          (hsrc e (mem_declarations.2 hx)).trans (congrArg Except.ok hs)
        have hasks := asksForComment_of_commentSource hsource (hchain e he).2
        rw [← hu.untouched e hx hnew] at hasks
        exact (hI e he).takeOver hownedNow (hI s (he.tail hsource)) hasks
      · exact (hI e he).takeOver_of_ne hownedNow (hu.recommented.isDeclaration_eq.trans hx) hex

end Atlas

/-! ## The outcome -/

/-- In the outcome of a conversion, a declaration says what its first signature says if that holds
before of it and of all declarations on its chain of sources, and those that have a comment say
something. -/
theorem convert_accords {settings : Settings} {files : List Source.File} {d : Draft}
    {r : Resolved} (h : Program.convert settings files = .ok (d, r)) {i : EntryId}
    (hchain : d.atlas.resolveReferences.ChainAccords r.links i) : r.atlas.Accords i := by
  obtain ⟨rfl, hcomplete, -⟩ := Program.convert_completes h
  have howned : (Draft.ofFiles settings files).atlas.resolveReferences.SignaturesOwned :=
    Atlas.SignaturesOwned.resolveReferences
      (states_kept _ (ofFiles_mem_states settings files)).1
  obtain ⟨links, hlinks, hcomplete⟩ := Except.exists_of_bind_eq_ok hcomplete
  obtain ⟨documented, hdocumented, hcomplete⟩ := Except.exists_of_bind_eq_ok hcomplete
  obtain ⟨hatlas, rfl⟩ := Prod.mk.inj (Except.ok.inj hcomplete)
  have haccords : documented.Accords i := hchain.inheritComments howned hdocumented
  rw [← hatlas]
  exact haccords

/-- A function is in accord with its only signature if it is the only declaration of its symbol, and
stays so if all declarations on its chain of sources are such functions, none with an empty
comment. -/
theorem convert_unique_accords {settings : Settings} {files : List Source.File} {d : Draft}
    {r : Resolved} (h : Program.convert settings files = .ok (d, r)) {i : EntryId}
    (hchain : ∀ e, Relation.ReflTransGen (d.atlas.resolveReferences.TakesFrom r.links) i e →
      ∃ k f, Source.Unique k (Source.declsOf (files.flatMap (·.topDecls settings.mode))) f ∧
        d.atlas.lookup (some k) = some e ∧ f.comment ≠ some ⟨"", []⟩) :
    d.atlas.Accords i ∧ r.atlas.Accords i := by
  obtain ⟨rfl, -⟩ := Program.convert_completes h
  have before : ∀ e,
      Relation.ReflTransGen ((Draft.ofFiles settings files).atlas.resolveReferences.TakesFrom
        r.links) i e → (Draft.ofFiles settings files).atlas.Accords e ∧
          (Draft.ofFiles settings files).atlas.commentOf e ≠ some ⟨"", []⟩ := by
    intro e he
    obtain ⟨k, f, hf, hlookup, hvoiced⟩ := hchain e he
    obtain ⟨sig, hspeaks⟩ := ofFiles_speaks hf hlookup
    obtain ⟨⟨entry, -, hentry, -, -, -, -, hc⟩, -⟩ := id hspeaks
    refine ⟨hspeaks.accords, ?_⟩
    rwa [Atlas.commentOf, hentry, Option.bind_some, hc]
  refine ⟨(before i .refl).1, convert_accords h fun e he => ?_⟩
  obtain ⟨haccords, hvoiced⟩ := before e he
  exact ⟨haccords.resolveReferences, by rwa [Atlas.commentOf_resolveReferences]⟩

/-- A function that names a variable as the source of its documentation: it says what the variable
says, but its signature still asks for documentation. -/
theorem variable_source_discord :
    let ask : Comment := ⟨"", [⟨Comment.inheritTag, "v", none⟩]⟩
    let file : Source.File :=
      { name := "a.ts",
        decls := [
          { kind := .variable, name := some "v", symbol := some "v",
            comment := some ⟨"Text.", []⟩ },
          { kind := .function, name := some "f", symbol := some "f", comment := some ask,
            signature := some {} }] }
    ∃ d r, Program.convert {} [file] = .ok (d, r) ∧ d.atlas.Accords 2 ∧
      r.atlas.commentOf 2 = some ⟨"Text.", []⟩ ∧ r.atlas.commentOf 3 = some ask ∧
      ¬r.atlas.Accords 2 := by
  intro ask file
  have hmade : (Program.convert {} [file]).toOption.map (fun made =>
      ([made.1.atlas, made.2.atlas].flatMap fun a => [2, 3].map a.commentOf,
        [made.1.atlas, made.2.atlas].map fun a => (a.details? 2).map fun details =>
          [details.signatures, details.getSignature.toList, details.setSignature.toList])) =
      some ([some ask, some ask, some ⟨"Text.", []⟩, some ask],
        [some [[3], [], []], some [[3], [], []]]) := by
    decide +kernel
  obtain ⟨d, r, hconvert, hmade⟩ := Program.exists_convert hmade
  simp only [List.flatMap_cons, List.flatMap_nil, List.map_cons, List.map_nil, List.cons_append,
    List.nil_append, Prod.mk.injEq, List.cons.injEq, and_true] at hmade
  obtain ⟨⟨hbefore, hbefore', hafter, hafter'⟩, hheld, hheld'⟩ := hmade
  obtain ⟨details, hdetails, hsigs⟩ := Option.map_eq_some_iff.1 hheld
  obtain ⟨details', hdetails', hsigs'⟩ := Option.map_eq_some_iff.1 hheld'
  simp only [List.cons.injEq, Option.toList_eq_nil_iff, and_true] at hsigs hsigs'
  refine ⟨d, r, hconvert, ⟨details, 3, hdetails, ?_, hbefore'.trans hbefore.symm⟩, hafter, hafter',
    ?_⟩
  · exact Details.startsWith_of_eq_singleton hsigs.1 hsigs.2.1 hsigs.2.2
  · rintro ⟨details'', sig, hdetails'', hsig, hsame⟩
    obtain rfl := Option.some.inj (hdetails'.symm.trans hdetails'')
    have hfirst := hsig.first
    rw [hsigs'.1, List.head?_cons] at hfirst
    obtain rfl := Option.some.inj hfirst
    rw [hafter, hafter'] at hsame
    simp [ask] at hsame

end ApiAtlas
