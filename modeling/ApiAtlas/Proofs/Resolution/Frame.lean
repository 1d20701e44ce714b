import ApiAtlas.Proofs.Resolution.Ends

/-!
# What resolution leaves alone

Resolution fills in the targets of references and the comments of declarations and signatures, and
it marks the atlas as resolved. All else, the frame of the atlas (`Atlas.frame`), is the same before
and after, whether resolution succeeds or not. Documentation that was written stays as it is: that
of a declaration that does not ask for another one's, and that of every signature which only such
declarations list. An atlas that is resolved already is not touched (`Atlas.resolve_keeps`).
-/

set_option autoImplicit false

namespace ApiAtlas

/-! ## Frames -/

namespace Ty

mutual

/-- The type without the targets of the references inside it. -/
def frame : Ty → Ty
  | .typeParameter name (some c) => .typeParameter name (some c.frame)
  | .typeParameter name none => .typeParameter name none
  | .reference name symbol arguments _ => .reference name symbol (frameList arguments) none
  | .union types => .union (frameList types)
  | .intersection types => .intersection (frameList types)
  | .array element => .array element.frame
  | .tuple elements => .tuple (frameList elements)
  | .intrinsic name => .intrinsic name
  | .stringLiteral value => .stringLiteral value
  | .unknown name => .unknown name
  | .literal declaration => .literal declaration

/-- Each type of a list without the targets of its references. -/
def frameList : List Ty → List Ty
  | [] => []
  | t :: ts => t.frame :: frameList ts

end

/-- Resolving a list of types leaves all of it but targets, when this holds of each type. -/
theorem frameList_resolveList {lookup : Option String → Option EntryId} {ts : List Ty}
    (h : ∀ t ∈ ts, (t.resolve lookup).frame = t.frame) :
    frameList (resolveList lookup ts) = frameList ts := by
  induction ts with
  | nil => rfl
  | cons t ts ih =>
    have hhead := h t List.mem_cons_self
    have htail := ih fun u hu => h u (List.mem_cons_of_mem t hu)
    simp only [resolveList, frameList, hhead, htail]

/-- Resolving a type only gives targets to references. -/
@[simp]
theorem frame_resolve (lookup : Option String → Option EntryId) (t : Ty) :
    (t.resolve lookup).frame = t.frame := by
  induction t using induction_parts with
  | step t ih =>
    cases t with
    | typeParameter name c =>
      cases c with
      | none => rfl
      | some c =>
        have hc := ih c (by simp [parts])
        simp only [resolve, frame, hc]
    | reference | union | intersection | tuple =>
      have hparts := frameList_resolveList ih
      simp only [parts] at hparts
      simp only [resolve, frame, hparts]
    | array t =>
      have ht := ih t (by simp [parts])
      simp only [resolve, frame, ht]
    | _ => rfl

end Ty

namespace Entry

/-- Whether an entry can take over documentation: it is a declaration or a signature. -/
def takesComments (e : Entry) : Bool :=
  e.isDeclaration || e.shape?.isSome

/-- The entry without what resolution can fill in: the targets of its references and, if it can
take over documentation, its comment. -/
def frame (e : Entry) : Entry :=
  { e.mapTypes Ty.frame with comment := if e.takesComments then none else e.comment }

/-- Resolving the types of an entry leaves all of it but targets. -/
theorem frame_mapTypes (lookup : Option String → Option EntryId) (e : Entry) :
    (e.mapTypes (Ty.resolve lookup)).frame = e.frame := by
  have hframe : Ty.frame ∘ Ty.resolve lookup = Ty.frame :=
    funext fun t => t.frame_resolve lookup
  obtain ⟨name, kind, flags, comment, parent, body⟩ := e
  cases body <;>
    simp [frame, mapTypes, takesComments, isDeclaration, details?, shape?, hframe]

/-- The comment of an entry that can take over documentation does not count. -/
theorem frame_comment {e : Entry} {c : Option Comment}
    (h : e.takesComments = false → c = e.comment) :
    Entry.frame { e with comment := c } = e.frame := by
  obtain ⟨name, kind, flags, comment, parent, body⟩ := e
  cases body <;> simp_all [frame, mapTypes, takesComments, isDeclaration, details?, shape?]

end Entry

namespace Atlas

variable {a b : Atlas} {links : Array Links} {src : EntryId → Option EntryId} {d i : EntryId}

/-- The atlas without what resolution can fill in. -/
def frame (a : Atlas) : Atlas :=
  { a with entries := a.entries.map Entry.frame, resolved := false }

/-- The entries of an atlas without what resolution can fill in are its entries without that. -/
theorem get?_frame (a : Atlas) (i : EntryId) : a.frame.get? i = (a.get? i).map Entry.frame :=
  Array.getElem?_map

/-- Resolving references leaves all of an atlas but targets. -/
theorem frame_resolveReferences (a : Atlas) : a.resolveReferences.frame = a.frame := by
  refine ext_get? (fun i => ?_) rfl rfl rfl
  rw [get?_frame, get?_frame, get?_resolveReferences, Option.map_map]
  exact Option.map_congr fun e _ => e.frame_mapTypes a.lookup

/-- The frame is the same when only comments change that do not count. -/
theorem Recommented.frame_eq (h : a.Recommented b)
    (hkept : ∀ i e, a.get? i = some e → e.takesComments = false → b.commentOf i = e.comment) :
    b.frame = a.frame := by
  refine ext_get? (fun i => ?_) h.symbols h.files rfl
  rw [get?_frame, get?_frame]
  obtain ⟨c, hc⟩ := h.entries i
  cases he : a.get? i with
  | none => simp [hc, he]
  | some e =>
    have hb : b.get? i = some { e with comment := c } := by rw [hc, he, Option.map_some]
    have hcomment : b.commentOf i = c := by simp [commentOf, hb]
    rw [hb, Option.map_some, Option.map_some]
    refine congrArg some (Entry.frame_comment fun htakes => ?_)
    rw [← hcomment]
    exact hkept i e he htakes

/-- Resolving references leaves comments. -/
theorem commentOf_resolveReferences (a : Atlas) (i : EntryId) :
    a.resolveReferences.commentOf i = a.commentOf i := by
  rw [commentOf, get?_resolveReferences, commentOf]
  cases a.get? i with
  | none => rfl
  | some e =>
    obtain ⟨name, kind, flags, comment, parent, body⟩ := e
    cases body <;> rfl

/-! ## Documentation -/

/-- Whether a declaration is documented by itself: its comment says something, and does not ask for
another one's. -/
def IsDocumented (a : Atlas) (d : EntryId) : Prop :=
  ∃ c, a.commentOf d = some c ∧ c.isEmpty = false ∧ c.hasTag Comment.inheritTag = false

/-- What is documented by itself has no source. -/
theorem IsDocumented.commentSource_eq (h : a.IsDocumented d) :
    a.commentSource links d = .ok none := by
  obtain ⟨c, hc, hempty, htag⟩ := h
  have hnone : c.tag? Comment.inheritTag none = none := by
    simpa only [Comment.hasTag, Option.isSome_eq_false_iff, Option.isNone_iff_eq_none] using htag
  simp only [commentSource, hc, Option.bind_some, hnone, hempty, Bool.false_eq_true, if_false]

/-- The inherited documentation of an atlas comes from a walk along sources. -/
theorem inheritComments_steps (h : a.inheritComments links = .ok b) :
    ∃ src w, a.Sources links src ∧
      Relation.ReflTransGen (CommentWalk.Step a src) ⟨a, []⟩ w ∧ w.atlas = b := by
  obtain ⟨src, hsrc⟩ := exists_sources links ((inheritComments_ok_iff links).1 ⟨b, h⟩)
  obtain ⟨w, hw, hsteps, -⟩ := walkComments_steps hsrc (.refl _)
  refine ⟨src, w, hsrc, hsteps, ?_⟩
  rw [inheritComments, hw] at h
  exact Except.ok.inj h

/-- A comment stays if no declaration that has a source changes it when it takes over
documentation. -/
theorem commentOf_inheritComments (h : a.inheritComments links = .ok b)
    (hi : ∀ d s, a.isDeclaration d = true → ¬a.IsDocumented d → ∀ c, a.Recommented c →
      (c.takeOver d s).commentOf i = c.commentOf i) : b.commentOf i = a.commentOf i := by
  obtain ⟨src, w, hsrc, hsteps, rfl⟩ := inheritComments_steps h
  refine (CommentWalk.steps_induction (I := fun w => w.atlas.commentOf i = a.commentOf i) hsteps
    (fun u v hu hI hstep => ?_) (CommentWalk.sound_start a) rfl).2
  cases hstep with
  | own d hd hnew hs => exact hI
  | take d s hd hnew hs hready =>
    have hundocumented : ¬a.IsDocumented d := by
      intro hdocumented
      have hsource := hsrc d (mem_declarations.2 hd)
      rw [hdocumented.commentSource_eq, hs] at hsource
      cases Except.ok.inj hsource
    exact (hi d s hd hundocumented u.atlas hu.recommented).trans hI

/-- Inheriting documentation changes nothing else. -/
theorem frame_inheritComments (h : a.inheritComments links = .ok b) : b.frame = a.frame := by
  refine (inheritComments_recommented h).frame_eq fun i e he htakes => ?_
  have hshape : e.shape? = none := by simp_all [Entry.takesComments]
  have hplain : a.isDeclaration i = false := by
    rw [isDeclaration, details?, he]
    simp_all [Entry.takesComments, Entry.isDeclaration]
  have hcomment : a.commentOf i = e.comment := by rw [commentOf, he, Option.bind_some]
  rw [← hcomment]
  refine commentOf_inheritComments h fun d s hd _ c hc => ?_
  have hid : i ≠ d := by
    rintro rfl
    rw [hd] at hplain
    cases hplain
  refine commentOf_takeOver_of_shape ?_ hid
  rw [hc.bind_eq (·.shape?) fun _ _ => rfl, he, Option.bind_some, hshape]

/-- A declaration that is documented by itself keeps its comment. -/
theorem IsDocumented.commentOf_eq (hi : a.isDeclaration i = true) (hdocumented : a.IsDocumented i)
    (h : a.inheritComments links = .ok b) : b.commentOf i = a.commentOf i := by
  refine commentOf_inheritComments h fun d s _ hundocumented c hc => ?_
  have hid : i ≠ d := by
    rintro rfl
    exact hundocumented hdocumented
  exact commentOf_takeOver_of_isDeclaration (hc.isDeclaration_eq.trans hi) hid

/-- Whether all declarations that list an entry among their signatures are documented by
themselves. -/
def OnlyDocumented (a : Atlas) (i : EntryId) : Prop :=
  ∀ d details, a.details? d = some details → i ∈ details.allSignatures → a.IsDocumented d

/-- Whether an entry is a signature. -/
def isSignature (a : Atlas) (i : EntryId) : Bool :=
  ((a.get? i).bind (·.shape?)).isSome

/-- A signature keeps its comment if only declarations list it that are documented by
themselves. -/
theorem OnlyDocumented.commentOf_eq (hi : a.isSignature i = true) (honly : a.OnlyDocumented i)
    (h : a.inheritComments links = .ok b) : b.commentOf i = a.commentOf i := by
  refine commentOf_inheritComments h fun d s hd hundocumented c hc => ?_
  refine commentOf_takeOver_of_not_concerns fun hconcerns => ?_
  rcases hc.concerns_iff.1 hconcerns with rfl | ⟨details, hdetails, hmem⟩
  · rw [isSignature, shape?_eq_none_of_isDeclaration hd] at hi
    cases hi
  · exact hundocumented (honly d details hdetails hmem)

/-- A declaration whose signatures belong to it is the only one that lists them. -/
theorem SignaturesOwned.onlyDocumented (h : a.SignaturesOwned) {details : Details}
    (hd : a.details? d = some details) (hdocumented : a.IsDocumented d)
    (hi : i ∈ details.allSignatures) : a.isSignature i = true ∧ a.OnlyDocumented i := by
  obtain ⟨e, he, hshape, hparent, -⟩ := h d details hd i hi
  refine ⟨?_, fun d' details' hd' hi' => ?_⟩
  · rw [isSignature, he, Option.bind_some, hshape]
  · obtain ⟨e', he', -, hparent', -⟩ := h d' details' hd' i hi'
    have hsame : e = e' := Option.some.inj (he.symm.trans he')
    have howner : d = d' := Option.some.inj (hparent.symm.trans (hsame ▸ hparent'))
    exact howner ▸ hdocumented

/-- Resolving references leaves which entries are declarations. -/
theorem isDeclaration_resolveReferences (a : Atlas) (i : EntryId) :
    a.resolveReferences.isDeclaration i = a.isDeclaration i := by
  rw [isDeclaration, details?, get?_resolveReferences, isDeclaration, details?]
  cases a.get? i with
  | none => rfl
  | some e => exact (e.keeps_mapTypes _).isDeclaration

/-- Resolving references leaves which entries are signatures. -/
theorem isSignature_resolveReferences (a : Atlas) (i : EntryId) :
    a.resolveReferences.isSignature i = a.isSignature i := by
  rw [isSignature, get?_resolveReferences, isSignature]
  cases a.get? i with
  | none => rfl
  | some e => exact (e.keeps_mapTypes _).isSome_shape

/-- Resolving references leaves which declarations are documented by themselves. -/
theorem isDocumented_resolveReferences :
    a.resolveReferences.IsDocumented d ↔ a.IsDocumented d := by
  rw [IsDocumented, IsDocumented, commentOf_resolveReferences]

/-- What is only listed by declarations documented by themselves is so still when references are
resolved. -/
theorem OnlyDocumented.resolveReferences (h : a.OnlyDocumented i) :
    a.resolveReferences.OnlyDocumented i := by
  intro d details hd hi
  obtain ⟨e', he', hed⟩ := Option.bind_eq_some_iff.1 hd
  rw [get?_resolveReferences] at he'
  obtain ⟨e, he, rfl⟩ := Option.map_eq_some_iff.1 he'
  obtain ⟨d₀, hd₀, hsame⟩ := e.exists_details?_of_mapTypes _ hed
  have hdetails : a.details? d = some d₀ := by rw [details?, he, Option.bind_some, hd₀]
  exact isDocumented_resolveReferences.2 (h d d₀ hdetails (hsame ▸ hi))

/-! ## Resolution -/

/-- How resolution of an atlas that is not resolved can end: in documentation that is inherited
after references are resolved, or in a refusal, which leaves only the references resolved. -/
theorem resolve_cases (h : a.resolved = false) :
    (∃ links b r, a.resolveReferences.inheritComments links = .ok b ∧
      a.resolve.1 = { b with resolved := true } ∧ a.resolve.2 = .ok r ∧ r.atlas = a.resolve.1) ∨
    a.resolve.1 = a.resolveReferences ∧ ∃ m, a.resolve.2 = .error (.misuse m) := by
  have hopen : ¬a.resolved = true := by simp [h]
  unfold resolve
  rw [if_neg hopen]
  dsimp only
  split
  · next closed links hcomplete =>
    obtain ⟨found, -, hcomplete⟩ := Except.exists_of_bind_eq_ok hcomplete
    obtain ⟨b, hb, hcomplete⟩ := Except.exists_of_bind_eq_ok hcomplete
    obtain ⟨rfl, -⟩ := Prod.mk.inj (Except.ok.inj hcomplete)
    exact .inl ⟨found, b, _, hb, rfl, rfl, rfl⟩
  · next m _ => exact .inr ⟨rfl, m, rfl⟩

/-- Resolution leaves all of an atlas but what it can fill in. -/
theorem frame_resolve (h : a.resolved = false) : a.resolve.1.frame = a.frame := by
  rcases resolve_cases h with ⟨links, b, r, hb, hclosed, -⟩ | ⟨hreferring, -⟩
  · have hframe : a.resolve.1.frame = b.frame := by rw [hclosed]; rfl
    rw [hframe, frame_inheritComments hb, frame_resolveReferences]
  · rw [hreferring, frame_resolveReferences]

/-- What is kept when documentation is inherited is kept by resolution. -/
theorem commentOf_resolve (h : a.resolved = false)
    (hi : ∀ links b, a.resolveReferences.inheritComments links = .ok b →
      b.commentOf i = a.resolveReferences.commentOf i) :
    a.resolve.1.commentOf i = a.commentOf i := by
  rcases resolve_cases h with ⟨links, b, r, hb, hclosed, -⟩ | ⟨hreferring, -⟩
  · have hcomment : a.resolve.1.commentOf i = b.commentOf i := by rw [hclosed]; rfl
    rw [hcomment, hi links b hb, commentOf_resolveReferences]
  · rw [hreferring, commentOf_resolveReferences]

/-- Resolution leaves the comment of a declaration that is documented by itself. -/
theorem IsDocumented.commentOf_resolve_eq (h : a.resolved = false)
    (hd : a.isDeclaration d = true) (hdocumented : a.IsDocumented d) :
    a.resolve.1.commentOf d = a.commentOf d := by
  refine commentOf_resolve h fun links b hb => ?_
  exact (isDocumented_resolveReferences.2 hdocumented).commentOf_eq
    ((a.isDeclaration_resolveReferences d).trans hd) hb

/-- Resolution leaves the comment of a signature whose declarations are all documented by
themselves. -/
theorem OnlyDocumented.commentOf_resolve_eq (h : a.resolved = false)
    (hi : a.isSignature i = true) (honly : a.OnlyDocumented i) :
    a.resolve.1.commentOf i = a.commentOf i := by
  refine commentOf_resolve h fun links b hb => ?_
  exact honly.resolveReferences.commentOf_eq ((a.isSignature_resolveReferences i).trans hi) hb

/-- Resolution of an atlas that is not resolved yet changes nothing outside of its frame, and marks
it as resolved when it succeeds. Declarations that are documented by themselves keep their comments,
and so do all their signatures when the atlas comes from a conversion; in any atlas, the signatures
that only such declarations list do. An atlas that is resolved is refused and stays as it is. -/
theorem resolve_keeps (a : Atlas) :
    (a.resolved = false →
      a.resolve.1.frame = a.frame ∧
      (∀ r, a.resolve.2 = .ok r → r.atlas = a.resolve.1 ∧ r.atlas.resolved = true) ∧
      (∀ d, a.isDeclaration d = true → a.IsDocumented d →
        a.resolve.1.commentOf d = a.commentOf d) ∧
      (∀ i, a.isSignature i = true → a.OnlyDocumented i →
        a.resolve.1.commentOf i = a.commentOf i) ∧
      ∀ settings files, a = (Draft.ofFiles settings files).atlas →
        ∀ d details, a.details? d = some details → a.IsDocumented d →
          ∀ i ∈ details.allSignatures, a.resolve.1.commentOf i = a.commentOf i) ∧
    (a.resolved = true → ∃ f : Failure, a.resolve = (a, .error (.failure f)) ∧
      f.diagnostic.code = .alreadyResolved) := by
  refine ⟨fun hopen => ?_, fun hresolved => ?_⟩
  · have hsignature : ∀ i, a.isSignature i = true → a.OnlyDocumented i →
        a.resolve.1.commentOf i = a.commentOf i :=
      fun i hi honly => honly.commentOf_resolve_eq hopen hi
    refine ⟨frame_resolve hopen, ?_, ?_, hsignature, ?_⟩
    · intro r hr
      rcases resolve_cases hopen with ⟨links, b, r', -, hclosed, hr', hatlas⟩ | ⟨-, m, hm⟩
      · obtain rfl : r' = r := Except.ok.inj (hr'.symm.trans hr)
        exact ⟨hatlas, by rw [hatlas, hclosed]⟩
      · rw [hm] at hr
        cases hr
    · exact fun d hd hdocumented => hdocumented.commentOf_resolve_eq hopen hd
    · rintro settings files rfl d details hd hdocumented i hi
      have howned := (states_kept _ (ofFiles_mem_states settings files)).1
      have hlisted := howned.onlyDocumented hd hdocumented hi
      exact hsignature i hlisted.1 hlisted.2
  · refine ⟨.alreadyResolved (a.nameOf root), ?_, rfl⟩
    rw [resolve, if_pos hresolved]

/-- A class that documents one of the two methods of its base anew: this one keeps its comment, and
so does its signature, while the other one takes over that of the base. Resolving again is
refused. -/
theorem overridden_method_keeps :
    let method (symbol name : String) (comment : Option Comment) : Source.Decl :=
      { kind := .method, name := some name, symbol := some symbol, comment := comment,
        signature := some {} }
    let file : Source.File :=
      { name := "a.ts",
        decls :=
          [{ kind := .class, name := some "B", symbol := some "B",
             children := [method "B#m" "m" (some ⟨"Base.", []⟩),
                          method "B#n" "n" (some ⟨"Other.", []⟩)] },
           { kind := .class, name := some "D", symbol := some "D",
             bases := [{ form := .reference, name := some "B", symbol := some "B" }],
             children := [method "D#m" "m" (some ⟨"Own.", []⟩), method "D#n" "n" none] }] }
    let a := (Draft.ofFiles {} [file]).atlas
    a.resolved = false ∧ a.lookup (some "D#m") = some 7 ∧ a.isDeclaration 7 = true ∧
      a.IsDocumented 7 ∧ a.lookup (some "D#n") = some 9 ∧
      a.resolve.1.commentOf 9 = some ⟨"Other.", []⟩ ∧
      a.resolve.1.frame = a.frame ∧ a.resolve.1.commentOf 7 = a.commentOf 7 ∧
      a.isSignature 8 = true ∧ a.OnlyDocumented 8 ∧ a.resolve.1.commentOf 8 = a.commentOf 8 ∧
      a.resolve.1.resolved = true ∧ ∃ f : Failure,
        a.resolve.1.resolve = (a.resolve.1, .error (.failure f)) ∧
          f.diagnostic.code = .alreadyResolved := by
  intro method file a
  have hopen : a.resolved = false := by decide +kernel
  have hclosed : a.resolve.1.resolved = true := by decide +kernel
  have hdeclared : a.isDeclaration 7 = true := by decide +kernel
  have hdocumented : a.IsDocumented 7 :=
    ⟨⟨"Own.", []⟩, by decide +kernel, by decide +kernel, by decide +kernel⟩
  have hlists : ∃ details, a.details? 7 = some details ∧ 8 ∈ details.allSignatures := by
    have hsome : (a.details? 7).map (·.allSignatures) = some [8] := by decide +kernel
    obtain ⟨details, hdetails, heq⟩ := Option.map_eq_some_iff.1 hsome
    exact ⟨details, hdetails, heq ▸ List.mem_singleton_self 8⟩
  obtain ⟨details, hdetails, hmem⟩ := hlists
  have howned : a.SignaturesOwned := (states_kept _ (ofFiles_mem_states {} [file])).1
  obtain ⟨hsignature, honly⟩ := howned.onlyDocumented hdetails hdocumented hmem
  obtain ⟨hframe, -, hdeclarations, -, hconverted⟩ := (resolve_keeps a).1 hopen
  have hkept : a.resolve.1.commentOf 8 = a.commentOf 8 :=
    hconverted {} [file] rfl 7 details hdetails hdocumented 8 hmem
  exact ⟨hopen, by decide +kernel, hdeclared, hdocumented, by decide +kernel, by decide +kernel,
    hframe, hdeclarations 7 hdeclared hdocumented, hsignature, honly, hkept, hclosed,
    (resolve_keeps a.resolve.1).2 hclosed⟩

end Atlas

end ApiAtlas
