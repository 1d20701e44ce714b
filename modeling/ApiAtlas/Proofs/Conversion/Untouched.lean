import ApiAtlas.Proofs.Conversion.Amendment
import ApiAtlas.Proofs.Conversion.Visits

/-!
# Signatures that are left alone

Whatever is converted, and from whatever draft, the signatures and parameters that are there stay as
they are, and nothing is reported about the order of their parameters (`Draft.LeavesParts`): what is
added to an entry that is there is added to a declaration, and a report on the order of parameters
is made where their signature was opened. Since this is said of the draft in which the conversion
began, it is an invariant of each step (`Conv.Leaves`), and the walk follows by induction on how
declarations are nested (`leavesWalk`).
-/

set_option autoImplicit false

namespace ApiAtlas

open Source

/-- Whether a problem is the order of the parameters of a signature. -/
def Diagnostic.BlamesOrder (g : Diagnostic) (sig : EntryId) : Prop :=
  g.code = .invalidSignature ∧ ("signature", Json.nat sig) ∈ g.details

/-- The report on the order of the parameters of a signature. -/
def Site.orderProblem (s : Site) (sig : EntryId) (message : String) : Diagnostic :=
  ⟨.invalidSignature, message, [("signature", Json.nat sig)] ++
    match s.file with
    | some f => if f.isEmpty then [] else [("file", Json.str f)]
    | none => []⟩

/-- The report on the order of a signature's parameters is about that signature only. -/
theorem blamesOrder_orderProblem {s : Site} {sig i : EntryId} {message : String} :
    (s.orderProblem sig message).BlamesOrder i ↔ i = sig := by
  have hfile : ∀ g ∈ (match s.file with
      | some f => if f.isEmpty then [] else [("file", Json.str f)]
      | none => []), g.1 = "file" := by
    intro g hg
    split at hg
    · split at hg
      · cases hg
      · exact congrArg Prod.fst (List.mem_singleton.1 hg)
    · cases hg
  constructor
  · rintro ⟨-, hi⟩
    rcases List.mem_append.1 hi with hi | hi
    · have hnat := congrArg Prod.snd (List.mem_singleton.1 hi)
      exact Int.ofNat_inj.1 (Json.int.inj hnat)
    · exact absurd (show "signature" = "file" from hfile _ hi) (by decide)
  · rintro rfl
    exact ⟨rfl, List.mem_append_left _ (List.mem_singleton_self _)⟩

/-- The check of the order of parameters adds the report on a misplaced one, if there is one. -/
theorem Conv.run_checkOrder (s : Site) (id : EntryId) (name : String) (ps : List Param)
    (y : Draft) : ((checkOrder s id name ps).run y).2 =
      match misplaced? name false ps with
      | some message =>
        { y with diagnostics := y.diagnostics.push (s.orderProblem id message) }
      | none => y := by
  obtain ⟨scope, bound, file, external, settings⟩ := s
  unfold checkOrder
  cases misplaced? name false ps with
  | none => rfl
  | some message => cases file <;> simp [report, Site.orderProblem, update]

/-- Whether an entry is a signature, a parameter or a type parameter. -/
def Atlas.HasPart (a : Atlas) (i : EntryId) : Prop :=
  ∃ e, a.get? i = some e ∧ e.body.IsPart

namespace Entry

variable {e : Entry}

/-- What is a part has no members to change. -/
theorem mapMembers_of_isPart (f : Members → Members) (h : e.body.IsPart) : e.mapMembers f = e := by
  obtain ⟨name, kind, flags, comment, parent, body⟩ := e
  cases body <;> first | rfl | cases h

/-- What is a part has no details to change. -/
theorem mapDetails_of_isPart (f : Details → Details) (h : e.body.IsPart) : e.mapDetails f = e := by
  obtain ⟨name, kind, flags, comment, parent, body⟩ := e
  cases body <;> first | rfl | cases h

/-- What is a part is no declaration. -/
theorem not_isDeclaration_of_isPart (h : e.body.IsPart) : ¬ e.isDeclaration = true := by
  obtain ⟨name, kind, flags, comment, parent, body⟩ := e
  cases body <;> first | exact Bool.false_ne_true | cases h

end Entry

/-- Whether one draft comes after another and leaves the parts of entries that are there as they
are, save for some, and no report since then is about the order of parameters there. -/
structure Draft.LeavesParts (A : EntryId → Prop) (x y : Draft) : Prop where
  size_le : x.atlas.size ≤ y.atlas.size
  parts : ∀ i e, x.atlas.get? i = some e → e.body.IsPart → ¬ A i → y.atlas.get? i = some e
  reports : ∃ new, y.diagnostics.toList = x.diagnostics.toList ++ new ∧
    ∀ g ∈ new, ∀ i, g.BlamesOrder i → x.atlas.size ≤ i

namespace Draft.LeavesParts

variable {A : EntryId → Prop} {x y : Draft} {i : EntryId}

/-- A draft leaves its own parts as they are. -/
theorem refl (x : Draft) : x.LeavesParts A x :=
  ⟨Nat.le_refl _, fun _ _ he _ _ => he, [], (List.append_nil _).symm, nofun⟩

/-- Adding an entry leaves parts as they are. -/
theorem add (h : x.LeavesParts A y) (e : Entry) :
    x.LeavesParts A { y with atlas := (y.atlas.add e).1 } where
  size_le := Nat.le_trans h.size_le (by simp)
  parts i e' he' hpart hA := by
    have hold := h.parts i e' he' hpart hA
    exact (Atlas.get?_add_of_lt e (Atlas.get?_lt hold)).trans hold
  reports := h.reports

/-- A change of an entry leaves parts as they are if it leaves a part that it is made to. -/
theorem modify (h : x.LeavesParts A y) {f : Entry → Entry}
    (hf : ∀ e, x.atlas.get? i = some e → e.body.IsPart → ¬ A i → f e = e) :
    x.LeavesParts A { y with atlas := y.atlas.modify i f } where
  size_le := Nat.le_trans h.size_le (by simp)
  parts j e he hpart hA := by
    have hold := h.parts j e he hpart hA
    by_cases hj : j = i
    · subst hj
      exact (Atlas.get?_modify_self f hold).trans (congrArg some (hf e he hpart hA))
    · exact (Atlas.get?_modify_of_ne f hj).trans hold
  reports := h.reports

/-- Registering a symbol leaves parts as they are. -/
theorem register (h : x.LeavesParts A y) (symbol : Option String) (i : EntryId) :
    x.LeavesParts A { y with atlas := y.atlas.register symbol i } where
  size_le := Nat.le_trans h.size_le (by simp)
  parts j e he hpart hA := (Atlas.get?_register _ _ _ _).trans (h.parts j e he hpart hA)
  reports := h.reports

/-- Children are entered into containers only. -/
theorem enter (h : x.LeavesParts A y) (scope : EntryId) (e : Entry) (symbol : Option String) :
    x.LeavesParts A { y with atlas := (y.atlas.enter scope e symbol).1 } := by
  have hattached : x.LeavesParts A
      { y with atlas := (y.atlas.add e).1.attach scope y.atlas.size e.name } := by
    unfold Atlas.attach
    split
    · exact h.add e
    · refine ((h.add e).modify fun e' he' => ?_).modify fun e' _ hpart _ => ?_
      · exact absurd (Atlas.get?_lt he') (Nat.not_lt.2 h.size_le)
      · exact Entry.mapMembers_of_isPart _ hpart
  exact hattached.register symbol y.atlas.size

/-- A report leaves parts as they are if it is not about the order of their parameters. -/
theorem report (h : x.LeavesParts A y) {g : Diagnostic}
    (hg : ∀ i, g.BlamesOrder i → x.atlas.size ≤ i) :
    x.LeavesParts A { y with diagnostics := y.diagnostics.push g } where
  size_le := h.size_le
  parts := h.parts
  reports := by
    obtain ⟨new, hnew, hlate⟩ := h.reports
    refine ⟨new ++ [g], by simp [hnew], fun g' hg' => ?_⟩
    rcases List.mem_append.1 hg' with hg' | hg'
    · exact hlate g' hg'
    · exact List.mem_singleton.1 hg' ▸ hg

/-- What is a declaration now was no part before. -/
theorem of_isDeclaration (h : x.LeavesParts A y) (hi : y.atlas.isDeclaration i = true)
    (hpart : x.atlas.HasPart i) : A i := by
  obtain ⟨e, he, hbody⟩ := hpart
  by_contra hA
  rw [Atlas.isDeclaration_eq (h.parts i e he hbody hA)] at hi
  exact Entry.not_isDeclaration_of_isPart hbody hi

end Draft.LeavesParts

/-- Whether a step keeps, however far the conversion from a draft has come, that parts are left as
they are; and it yields what is required. -/
def Conv.Leaves {α : Type} (c : Conv α) (A : EntryId → Prop) (x : Draft) (Q : α → Prop) : Prop :=
  ∀ y, x.LeavesParts A y → x.LeavesParts A (c.run y).2 ∧ Q (c.run y).1

namespace Conv

variable {α β : Type} {c : Conv α} {A : EntryId → Prop} {x : Draft} {Q : α → Prop} {R : β → Prop}
  {s : Site} {d : Decl} {id : EntryId}

namespace Leaves

/-- Yielding a value leaves parts alone. -/
theorem pure {a : α} (h : Q a) : (pure a : Conv α).Leaves A x Q :=
  fun _ hy => ⟨hy, h⟩

/-- A step that leaves parts alone still does with less required of what it yields. -/
theorem mono {Q' : α → Prop} (h : c.Leaves A x Q) (hQ : ∀ a, Q a → Q' a) : c.Leaves A x Q' :=
  fun y hy => ⟨(h y hy).1, hQ _ (h y hy).2⟩

/-- Two steps in turn leave parts alone when each of them does. -/
theorem bind {k : α → Conv β} (h : c.Leaves A x Q) (hk : ∀ a, Q a → (k a).Leaves A x R) :
    (c >>= k).Leaves A x R :=
  fun y hy => hk _ (h y hy).2 _ (h y hy).1

/-- What is read off was so at some time since the conversion began. -/
theorem ask_bind {f : Atlas → α} {k : α → Conv β}
    (hk : ∀ y, x.LeavesParts A y → (k (f y.atlas)).Leaves A x R) : (ask f >>= k).Leaves A x R :=
  fun y hy => hk y hy y hy

/-- A step that is noted as a visit leaves parts alone when it does otherwise. -/
theorem visiting {c : Conv (Option EntryId)} {Q : Option EntryId → Prop} {name : String}
    (h : c.Leaves A x Q) : (visiting s d name c).Leaves A x Q := h

/-- Adding an entry leaves parts alone, and the entry is new. -/
theorem add (e : Entry) : (addEntry e).Leaves A x fun i => x.atlas.size ≤ i :=
  fun _ hy => ⟨hy.add e, hy.size_le⟩

/-- A step that asks for nothing of what the one before it yields. -/
theorem then_ {k : α → Conv β} (h : c.Leaves A x Q) (hk : ∀ a, (k a).Leaves A x R) :
    (c >>= k).Leaves A x R :=
  h.bind fun a _ => hk a

/-- Entering a declaration leaves parts alone, and its entry is new. -/
theorem enter (scope : EntryId) (e : Entry) (symbol : Option String) :
    (Conv.enter scope e symbol).Leaves A x fun i => x.atlas.size ≤ i :=
  fun _ hy => ⟨hy.enter scope e symbol, hy.size_le⟩

/-- An entry can be changed if it is no part that must be left alone. -/
theorem change (f : Entry → Entry) (hid : x.atlas.HasPart id → A id) :
    (changeEntry id f).Leaves A x fun _ => True :=
  fun _ hy => ⟨hy.modify fun e he hpart hA => absurd (hid ⟨e, he, hpart⟩) hA, trivial⟩

/-- A change of details leaves parts alone. -/
theorem details (f : Details → Details) : (changeDetails id f).Leaves A x fun _ => True :=
  fun _ hy => ⟨hy.modify fun _ _ hpart _ => Entry.mapDetails_of_isPart f hpart, trivial⟩

/-- A report that is not about a signature leaves parts alone. -/
theorem report {code : Code} (hcode : code ≠ .invalidSignature) (message : String)
    (details : List (String × Json)) :
    (Conv.report s code message details).Leaves A x fun _ => True :=
  fun _ hy => ⟨hy.report fun _ hg => absurd hg.1 hcode, trivial⟩

end Leaves

/-- What is new was no part before. -/
theorem not_hasPart_of_le (h : x.atlas.size ≤ id) (hpart : x.atlas.HasPart id) : A id := by
  obtain ⟨e, he, -⟩ := hpart
  exact absurd (Atlas.get?_lt he) (Nat.not_lt.2 h)

/-! ## Declaring -/

/-- Noting where a declaration is written leaves parts alone. -/
theorem noteSource_leaves : (noteSource s id d).Leaves A x fun _ => True := by
  unfold noteSource
  dsimp only
  split
  · split
    · exact .pure trivial
    · exact .details _
  · exact .pure trivial

/-- Merging a declaration leaves parts alone. -/
theorem merge_leaves {kind : Kind} {flags : Flags} : (merge s id d kind flags).Leaves A x
    fun r => ∀ i ∈ r, x.atlas.HasPart i → A i := by
  unfold merge
  refine .ask_bind fun y hy => ?_
  dsimp only
  split
  next => exact .then_ (.report (by decide) _ _) fun _ => .pure nofun
  next hdecl =>
    have hid : x.atlas.HasPart id → A id := by
      refine hy.of_isDeclaration ?_
      rwa [Bool.not_eq_true, Bool.not_eq_false', Atlas.isDeclaration_getD] at hdecl
    have finish : (do mergeInto s id d flags; return some id : Conv (Option EntryId)).Leaves A x
        fun r => ∀ i ∈ r, x.atlas.HasPart i → A i :=
      .then_ (.then_ (.change _ hid) fun _ => noteSource_leaves) fun _ =>
        .pure fun i hi => Option.mem_some.1 hi ▸ hid
    split
    · split
      · exact .then_ (.change _ hid) fun _ => finish
      · split
        · exact .then_ (.report (by decide) _ _) fun _ => .pure nofun
        · exact .then_ (.report (by decide) _ _) fun _ => .then_ (.change _ hid) fun _ => finish
    · exact finish

/-- Creating the entry of a declaration leaves parts alone, and the entry is new. -/
theorem create_leaves {kind : Kind} {flags : Flags} {name : String} :
    (create s d name kind flags).Leaves A x fun i => x.atlas.size ≤ i :=
  .bind (.enter _ _ _) fun _ hi => .then_ noteSource_leaves fun _ => .pure hi

/-- Declaring leaves parts alone. -/
theorem declare_leaves {kind : Kind} {name : Option String} :
    (declare s d kind name).Leaves A x fun r => ∀ i ∈ r, x.atlas.HasPart i → A i := by
  unfold declare
  refine .visiting ?_
  dsimp only
  split
  · exact .pure nofun
  refine .ask_bind fun container _ => ?_
  split
  · exact .then_ (.report (by decide) _ _) fun _ => .pure nofun
  split
  · exact .pure nofun
  refine .ask_bind fun known _ => ?_
  split
  · exact merge_leaves
  · exact .bind create_leaves fun i hi => .pure fun j hj =>
      Option.mem_some.1 hj ▸ not_hasPart_of_le hi

/-- Declaring and filling leaves parts alone when filling does. -/
theorem declareAnd_leaves {kind : Kind} {name : Option String} {fill : EntryId → Conv Unit}
    (h : ∀ id, (x.atlas.HasPart id → A id) → (fill id).Leaves A x fun _ => True) :
    (declareAnd s d kind name fill).Leaves A x fun _ => True := by
  refine .bind declare_leaves fun r hr => ?_
  cases r with
  | none => exact .pure trivial
  | some id => exact .then_ (h id (hr id rfl)) fun _ => .pure trivial

/-! ## Filling -/

/-- Writing a type in place leaves parts alone when filling its declaration does. -/
theorem inlineType_leaves {fill : EntryId → Conv Unit}
    (h : ∀ id, (fill id).Leaves A x fun _ => True) :
    (inlineType s fill).Leaves A x fun _ => True :=
  .then_ (.add _) fun id => .then_ (h id) fun _ => .pure trivial

/-- Filling a container leaves parts alone when converting its members does. -/
theorem fillContainer_leaves {members : Site → Conv (List EntryId)}
    (h : ∀ s, (members s).Leaves A x fun _ => True) :
    (fillContainer s members id).Leaves A x fun _ => True :=
  .then_ (h _) fun _ => .pure trivial

/-- Filling a class leaves parts alone when converting its type parameters, its heritage and its
members does. -/
theorem fillClass_leaves {typeParams : EntryId → Conv (List String)}
    {bases interfaces : Site → Conv (List Ty)} {members : Site → Conv (List EntryId)}
    (hp : (typeParams id).Leaves A x fun _ => True)
    (hb : ∀ s, (bases s).Leaves A x fun _ => True)
    (hi : ∀ s, (interfaces s).Leaves A x fun _ => True)
    (hm : ∀ s, (members s).Leaves A x fun _ => True) :
    (fillClass s typeParams bases interfaces members id).Leaves A x fun _ => True := by
  have hknown : (knownOrNew typeParams id).Leaves A x fun _ => True := by
    refine .ask_bind fun y _ => ?_
    split
    · exact hp
    · exact fun y hy => ⟨hy, trivial⟩
  exact .then_ hknown fun _ => .then_ (hb _) fun _ => .then_ (.details _) fun _ =>
    .then_ (hi _) fun _ => .then_ (.details _) fun _ => .then_ (hm _) fun _ => .pure trivial

/-- Filling a function or a method leaves parts alone when converting its signature does. -/
theorem fillCallable_leaves {name : Atlas → EntryId → String}
    {signature : Site → String → Conv EntryId}
    (h : ∀ s name, (signature s name).Leaves A x fun _ => True) :
    (fillCallable s name signature id).Leaves A x fun _ => True :=
  .ask_bind fun _ _ => .then_ (h _ _) fun _ => .details _

/-- Filling an accessor leaves parts alone when converting its type and its signature does. -/
theorem fillAccessor_leaves {isGetter : Bool} {value : Site → Conv (Option Ty)}
    {signature : Site → Conv EntryId} (hv : ∀ s, (value s).Leaves A x fun _ => True)
    (hs : ∀ s, (signature s).Leaves A x fun _ => True) :
    (fillAccessor s d isGetter value signature id).Leaves A x fun _ => True := by
  refine .ask_bind fun _ _ => ?_
  dsimp only
  split
  · split
    · exact .then_ (hv _) fun _ => .details _
    · exact .pure trivial
  · split
    · exact .report (by decide) _ _
    · exact .then_ (hs _) fun _ => .details _

/-- Filling a variable or a property leaves parts alone when converting its type does. -/
theorem fillValue_leaves {type : Site → Conv (Option Ty)} {value : Option String}
    (h : ∀ s, (type s).Leaves A x fun _ => True) :
    (fillValue s type value id).Leaves A x fun _ => True := by
  refine .ask_bind fun _ _ => ?_
  split
  · exact .then_ (h _) fun _ => .then_ (.details _) fun _ => .details _
  · exact .details _

/-- Filling an alias leaves parts alone when converting its type parameters and its type does. -/
theorem fillAlias_leaves {typeParams : EntryId → Conv (List String)}
    {type : Site → Conv (Option Ty)} (hp : (typeParams id).Leaves A x fun _ => True)
    (ht : ∀ s, (type s).Leaves A x fun _ => True) :
    (fillAlias s d typeParams type id).Leaves A x fun _ => True := by
  refine .ask_bind fun _ _ => ?_
  split
  · exact .ask_bind fun _ _ => .report (by decide) _ _
  · exact .then_ hp fun _ => .then_ (ht _) fun _ => .details _

/-- The report on a signature that belongs to nothing leaves parts alone. -/
theorem reportLoose_leaves {what : String} {line : Option Int} :
    (reportLoose s what line).Leaves A x fun _ => True :=
  .then_ (.report (by decide) _ _) fun _ => .pure trivial

/-- Adding a signature to what it stands in leaves parts alone when converting the signature does.
-/
theorem addCallable_leaves {what : String} {line : Option Int} {signature : Conv EntryId}
    (h : signature.Leaves A x fun _ => True) :
    (addCallable s what line signature).Leaves A x fun _ => True := by
  refine .ask_bind fun _ _ => ?_
  split
  · exact reportLoose_leaves
  · exact .then_ h fun _ => .then_ (.details _) fun _ => .pure trivial

/-- Adding an index signature to what it stands in leaves parts alone when converting the signature
does. -/
theorem addIndex_leaves {line : Option Int} {signature : Conv EntryId}
    (h : signature.Leaves A x fun _ => True) :
    (addIndex s line signature).Leaves A x fun _ => True := by
  refine .ask_bind fun _ _ => ?_
  split
  · exact reportLoose_leaves
  · split
    · exact .ask_bind fun _ _ => .then_ (.report (by decide) _ _) fun _ => .pure trivial
    · exact .then_ h fun _ => .then_ (.details _) fun _ => .pure trivial

/-- A report on the order of parameters is about the signature that has them. -/
theorem checkOrder_leaves {name : String} {ps : List Param} (hid : x.atlas.size ≤ id) :
    (checkOrder s id name ps).Leaves A x fun _ => True := by
  refine fun y hy => ⟨?_, trivial⟩
  rw [run_checkOrder]
  split
  · exact hy.report fun i hi => blamesOrder_orderProblem.1 hi ▸ hid
  · exact hy

/-! ## What is to be shown -/

/-- Whether converting a type leaves parts alone. -/
def TypeLeaves (t : TypeExpr) : Prop :=
  ∀ A x s, (convertType s t).Leaves A x fun _ => True

/-- Whether converting a signature leaves parts alone. -/
def SignatureLeaves (w : Signature) : Prop :=
  ∀ A x s name kind comment flags,
    (convertSignature s name kind comment flags w).Leaves A x fun _ => True

/-- Whether converting a declaration leaves parts alone. -/
def DeclLeaves (d : Decl) : Prop :=
  ∀ A x s, (convertDecl s d).Leaves A x fun _ => True

/-! ## Lists and options -/

/-- Converting a list of types leaves parts alone when converting each of them does. -/
theorem convertTypes_leaves {ts : List TypeExpr} (h : ∀ t ∈ ts, TypeLeaves t) :
    (convertTypes s ts).Leaves A x fun _ => True := by
  induction ts with
  | nil => exact .pure trivial
  | cons t ts ih =>
    obtain ⟨ht, hts⟩ := List.forall_mem_cons.1 h
    exact .then_ (ht A x s) fun _ => .then_ (ih hts) fun _ => .pure trivial

/-- Converting a type that may be missing leaves parts alone when converting the type does. -/
theorem convertType?_leaves {t : Option TypeExpr} (h : ∀ u ∈ t, TypeLeaves u) :
    (convertType? s t).Leaves A x fun _ => True := by
  cases t with
  | none => exact .pure trivial
  | some t => exact .then_ (h t rfl A x s) fun _ => .pure trivial

/-- Converting a signature that may be missing leaves parts alone when converting the signature
does. -/
theorem convertSignature?_leaves {w : Option Signature} {name : String} {kind : Kind}
    {comment : Option Comment} {flags : Flags} (h : ∀ v ∈ w, SignatureLeaves v) :
    (convertSignature? s name kind comment flags w).Leaves A x fun _ => True := by
  cases w with
  | none => exact .mono (.add _) fun _ _ => trivial
  | some w => exact h w rfl A x s name kind comment flags

/-- Converting declarations leaves parts alone when converting each of them does. -/
theorem convertDecls_leaves {ds : List Decl} (h : ∀ d ∈ ds, DeclLeaves d) :
    (convertDecls s ds).Leaves A x fun _ => True := by
  induction ds with
  | nil => exact .pure trivial
  | cons d ds ih =>
    obtain ⟨hd, hds⟩ := List.forall_mem_cons.1 h
    exact .then_ (hd A x s) fun _ => .then_ (ih hds) fun _ => .pure trivial

/-- Converting parameters leaves parts alone when converting their types does. -/
theorem convertParams_leaves {owner : EntryId} {comment : Option Comment} {ps : List Param}
    (h : ∀ p ∈ ps, ∀ t ∈ p.type, TypeLeaves t) (howner : x.atlas.HasPart owner → A owner) :
    (convertParams s owner comment ps).Leaves A x fun _ => True := by
  induction ps with
  | nil => exact .pure trivial
  | cons p ps ih =>
    obtain ⟨name, type, optional, rest, defaultValue⟩ := p
    obtain ⟨htype, hps⟩ := List.forall_mem_cons.1 h
    exact .bind (.add _) fun id hid => .then_ (convertType?_leaves htype) fun _ =>
      .then_ (.change _ (not_hasPart_of_le hid)) fun _ => .then_ (.change _ howner) fun _ => ih hps

/-- Converting type parameters leaves parts alone when converting their constraints and defaults
does. -/
theorem convertTypeParams_leaves {owner : EntryId} {bound : List String} {ps : List TypeParam}
    (h : ∀ p ∈ ps, p.All TypeLeaves) (howner : x.atlas.HasPart owner → A owner) :
    (convertTypeParams s owner bound ps).Leaves A x fun _ => True := by
  induction ps generalizing bound with
  | nil => exact .pure trivial
  | cons p ps ih =>
    obtain ⟨name, constraint, default⟩ := p
    obtain ⟨⟨hconstraint, hdefault⟩, hps⟩ := List.forall_mem_cons.1 h
    have hopen : (openTypeParameter owner name).Leaves A x fun i => x.atlas.size ≤ i :=
      .bind (.add _) fun _ hi => .then_ (.change _ howner) fun _ => .pure hi
    exact .bind hopen fun _ hid => .then_ (convertType?_leaves hconstraint) fun _ =>
      .then_ (convertType?_leaves hdefault) fun _ =>
        .then_ (.change _ (not_hasPart_of_le hid)) fun _ => ih hps

/-- Converting what a signature returns leaves parts alone when converting its types does. -/
theorem convertResult?_leaves {w : Option Signature} (h : ∀ v ∈ w, v.All TypeLeaves) :
    (convertResult? s w).Leaves A x fun _ => True := by
  cases w with
  | none => exact .pure trivial
  | some w =>
    obtain ⟨parameters, result, typeParameters⟩ := w
    exact convertType?_leaves (h _ rfl).2.1

/-- Converting the type of a first parameter leaves parts alone when converting the types of the
signature does. -/
theorem convertFirstParam?_leaves {w : Option Signature} (h : ∀ v ∈ w, v.All TypeLeaves) :
    (convertFirstParam? s w).Leaves A x fun _ => True := by
  cases w with
  | none => exact .pure trivial
  | some w =>
    obtain ⟨parameters, result, typeParameters⟩ := w
    cases parameters with
    | nil => exact .pure trivial
    | cons p ps =>
      obtain ⟨name, type, optional, rest, defaultValue⟩ := p
      exact convertType?_leaves (List.forall_mem_cons.1 (h _ rfl).1).1

/-! ## One of them -/

/-- Converting a type leaves parts alone when converting its arguments, its members and its
signature does. -/
theorem type_leaves {t : TypeExpr} (ha : ∀ u ∈ t.arguments, TypeLeaves u)
    (hm : ∀ d ∈ t.members, DeclLeaves d) (hw : ∀ w ∈ t.signature, SignatureLeaves w) :
    TypeLeaves t := by
  intro A x s
  obtain ⟨form, name, symbol, arguments, members, signature, text⟩ := t
  have args : (convertTypes s arguments).Leaves A x fun _ => True := convertTypes_leaves ha
  cases form with
  | intrinsic | stringLiteral | unknown => exact .pure trivial
  | reference =>
    rw [convertType]
    split
    · exact .pure trivial
    · exact .then_ args fun _ => .pure trivial
  | union | intersection | tuple => exact .then_ args fun _ => .pure trivial
  | array =>
    cases arguments with
    | nil => exact .pure trivial
    | cons element rest =>
      have helement : TypeLeaves element := (List.forall_mem_cons.1 ha).1
      exact .then_ (helement A x s) fun _ => .pure trivial
  | object =>
    exact inlineType_leaves fun _ => fillContainer_leaves fun _ => convertDecls_leaves hm
  | function =>
    cases signature with
    | none => exact inlineType_leaves fun _ => .pure trivial
    | some w =>
      exact inlineType_leaves fun _ => fillCallable_leaves fun _ _ => hw w rfl _ _ _ _ _ _ _

/-- Converting a signature leaves parts alone when converting the types that are written on it does.
-/
theorem signature_leaves {w : Signature} (h : w.All TypeLeaves) : SignatureLeaves w := by
  intro A x s name kind comment flags
  obtain ⟨parameters, result, typeParameters⟩ := w
  obtain ⟨hps, hresult, htps⟩ := h
  rw [convertSignature]
  exact .bind (.add _) fun _ hid =>
    .then_ (convertTypeParams_leaves htps (not_hasPart_of_le hid)) fun _ =>
      .then_ (convertParams_leaves hps (not_hasPart_of_le hid)) fun _ =>
        .then_ (convertType?_leaves hresult) fun _ =>
          .then_ (.change _ (not_hasPart_of_le hid)) fun _ =>
            .then_ (checkOrder_leaves hid) fun _ => .pure trivial

/-- Converting a declaration leaves parts alone when converting what stands in it and what is
written on it does: there is one case for each way to fill an entry. -/
theorem decl_leaves {d : Decl} (hc : ∀ c ∈ d.children, DeclLeaves c)
    (ht : ∀ t ∈ d.type, TypeLeaves t)
    (hw : ∀ w ∈ d.signature, SignatureLeaves w ∧ w.All TypeLeaves)
    (hp : ∀ p ∈ d.typeParameters, p.All TypeLeaves) (hb : ∀ t ∈ d.bases, TypeLeaves t)
    (hi : ∀ t ∈ d.interfaces, TypeLeaves t) : DeclLeaves d := by
  intro A x s
  -- Only what converts type parameters is to know the owner: nothing else is added to a part.
  have parts : ∀ w ∈ d.signature, w.All TypeLeaves := fun w hmem => (hw w hmem).2
  have typed : ∀ s, (convertType? s d.type).Leaves A x fun _ => True := fun _ =>
    convertType?_leaves ht
  have called : ∀ s title sort comment flags,
      (convertSignature? s title sort comment flags d.signature).Leaves A x fun _ => True :=
    fun s title sort comment flags => convertSignature?_leaves fun w hmem => (hw w hmem).1
  obtain ⟨kind, name, symbol, children, modifiers, type, signature, typeParameters, bases,
    interfaces, comment, defaultValue, origin, file, line, form⟩ := d
  dsimp only at hc hp hb hi parts typed called
  cases kind with
  | module | «namespace» | enum =>
    rw [convertDecl]
    exact declareAnd_leaves fun _ _ => fillContainer_leaves fun _ => convertDecls_leaves hc
  | «class» | interface =>
    rw [convertDecl]
    exact declareAnd_leaves fun _ hid => fillClass_leaves (convertTypeParams_leaves hp hid)
      (fun _ => convertTypes_leaves hb) (fun _ => convertTypes_leaves hi)
      fun _ => convertDecls_leaves hc
  | function | method | constructor =>
    rw [convertDecl]
    exact declareAnd_leaves fun _ _ => fillCallable_leaves fun _ _ => called _ _ _ _ _
  | callSignature | constructSignature =>
    rw [convertDecl]
    exact addCallable_leaves (called _ _ _ _ _)
  | indexSignature =>
    rw [convertDecl]
    exact addIndex_leaves (called _ _ _ _ _)
  | getAccessor =>
    rw [convertDecl]
    refine .ask_bind fun _ _ => declareAnd_leaves fun _ _ =>
      fillAccessor_leaves (fun _ => ?_) fun _ => called _ _ _ _ _
    split
    · exact typed _
    · exact convertResult?_leaves parts
  | setAccessor =>
    rw [convertDecl]
    refine .ask_bind fun _ _ => declareAnd_leaves fun _ _ =>
      fillAccessor_leaves (fun _ => ?_) fun _ => called _ _ _ _ _
    split
    · exact typed _
    · exact convertFirstParam?_leaves parts
  | «variable» | property | enumMember =>
    rw [convertDecl]
    exact declareAnd_leaves fun _ _ => fillValue_leaves typed
  | typeAlias =>
    rw [convertDecl]
    exact declareAnd_leaves fun _ hid => fillAlias_leaves (convertTypeParams_leaves hp hid) typed
  | other =>
    rw [convertDecl]
    exact .then_ (.report (by decide) _ _) fun _ => .pure trivial

/-- Whatever is converted, parts that are there are left alone, by induction on how declarations
are nested. -/
theorem leavesWalk : Steps TypeLeaves SignatureLeaves DeclLeaves where
  type _ := type_leaves
  signature _ := signature_leaves
  decl _ := decl_leaves

end Conv

end ApiAtlas
