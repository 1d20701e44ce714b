import ApiAtlas.Conversion.Program
import ApiAtlas.Proofs.Source.Nesting
import Mathlib.Data.List.Perm.Subperm

/-!
# Visited declarations

Which declarations a step of conversion visits depends on the draft: a type that is known already is
not converted again, and nothing inside a declaration that the settings leave out is. Whatever the
draft, a step visits only what is written in it, and each declaration at most as often as it is
written (`Conv.Visits`). This needs nothing of the draft, so that each step has one rule, and the
walk follows by induction on how declarations are nested (`convertFiles_visits`).
-/

set_option autoImplicit false

namespace ApiAtlas

open Source

/-- Whether a step visits, from any draft, only some declarations, each at most as often as it is
listed. -/
def Conv.Visits {α : Type} (c : Conv α) (ds : List Decl) : Prop :=
  ∀ x, ((c.visited x).map (·.decl)).Subperm ds

namespace Conv

variable {α β : Type} {c : Conv α} {ds es : List Decl} {s : Site} {d : Decl} {id : EntryId}

namespace Visits

/-- A step that visits only some declarations visits only those of a list that has them all. -/
theorem mono (h : c.Visits ds) (hsub : ds.Subperm es) : c.Visits es :=
  fun x => (h x).trans hsub

/-- What visits nothing visits no more than anything else. -/
theorem quiet (h : c.Visits []) : c.Visits ds :=
  h.mono List.nil_subperm

/-- A step that visits only some declarations visits only these and those of a second list. -/
theorem left (h : c.Visits ds) : c.Visits (ds ++ es) :=
  h.mono (List.sublist_append_left ds es).subperm

/-- A step that visits only some declarations visits only those of a first list and these. -/
theorem right (h : c.Visits es) : c.Visits (ds ++ es) :=
  h.mono (List.sublist_append_right ds es).subperm

/-- A step that visits only what is inside a declaration visits only it and what is inside it. -/
theorem below (h : c.Visits ds) : c.Visits (d :: ds) :=
  h.mono (List.sublist_cons_self d ds).subperm

/-- Yielding a value visits nothing. -/
theorem pure {a : α} : (pure a : Conv α).Visits [] :=
  fun _ => List.nil_subperm

/-- A change of the draft visits nothing. -/
theorem update {f : Draft → α × Draft} : (update f).Visits [] :=
  fun _ => List.nil_subperm

/-- Two steps in turn visit what the first one does and then what the second one does. -/
theorem bind {k : α → Conv β} (h : c.Visits ds) (hk : ∀ a, (k a).Visits es) :
    (c >>= k).Visits (ds ++ es) := by
  intro x
  change ((c.visited x ++ (k (c.run x).1).visited (c.run x).2).map (·.decl)).Subperm (ds ++ es)
  rw [List.map_append]
  exact (h x).append (hk _ _)

/-- A step after one that visits nothing. -/
theorem after {k : α → Conv β} (h : c.Visits []) (hk : ∀ a, (k a).Visits ds) :
    (c >>= k).Visits ds :=
  bind h hk

/-- A step before one that visits nothing. -/
theorem before {k : α → Conv β} (h : c.Visits ds) (hk : ∀ a, (k a).Visits []) :
    (c >>= k).Visits ds :=
  (bind h hk).mono (by rw [List.append_nil])

/-- A question visits what the steps after it do for any answer. -/
theorem ask_bind {f : Atlas → α} {k : α → Conv β} (hk : ∀ a, (k a).Visits ds) :
    (Conv.ask f >>= k).Visits ds :=
  after (fun _ => List.nil_subperm) hk

/-- What visits nothing notes no visit. -/
theorem visited_eq_nil (h : c.Visits []) (x : Draft) : c.visited x = [] :=
  List.map_eq_nil_iff.1 (List.subperm_nil.1 (h x))

end Visits

/-! ## Declaring -/

/-- Noting where a declaration is written visits nothing. -/
theorem noteSource_visits : (noteSource s id d).Visits [] := by
  unfold noteSource
  dsimp only
  split
  · split
    · exact .pure
    · exact .update
  · exact .pure

/-- Merging a declaration visits nothing further. -/
theorem merge_visits {kind : Kind} {flags : Flags} : (merge s id d kind flags).Visits [] := by
  have finish : (do mergeInto s id d flags; return some id : Conv (Option EntryId)).Visits [] :=
    .after (.after .update fun _ => noteSource_visits) fun _ => .pure
  unfold merge
  refine .ask_bind fun e => ?_
  dsimp only
  split
  · exact .after .update fun _ => .pure
  split
  · split
    · exact .after .update fun _ => finish
    · split
      · exact .after .update fun _ => .pure
      · exact .after .update fun _ => .after .update fun _ => finish
  · exact finish

/-- Creating the entry of a declaration visits nothing further. -/
theorem create_visits {kind : Kind} {flags : Flags} {name : String} :
    (create s d name kind flags).Visits [] :=
  .after .update fun _ => .after noteSource_visits fun _ => .pure

/-- The visit of a declaration that is declared under a name. -/
def declareVisit (s : Site) (d : Decl) (kind : Kind) (name : Option String) (x : Draft) : Visit :=
  ⟨d, name.getD "", ((x.atlas.get? s.scope).getD default).kind, ((declare s d kind name).run x).1⟩

/-- Declaring is a single visit. -/
theorem visited_declare {kind : Kind} {name : Option String} (x : Draft) :
    (declare s d kind name).visited x = [declareVisit s d kind name x] := by
  unfold declare
  refine congrArg (List.cons _) (Visits.visited_eq_nil ?_ x)
  dsimp only
  split
  · exact .pure
  refine .ask_bind fun container => ?_
  split
  · exact .after .update fun _ => .pure
  split
  · exact .pure
  refine .ask_bind fun known => ?_
  split
  · exact merge_visits
  · exact .after create_visits fun _ => .pure

/-- Declaring visits the declaration. -/
theorem declare_visits {kind : Kind} {name : Option String} :
    (declare s d kind name).Visits [d] := by
  intro x
  rw [visited_declare]
  exact List.Subperm.refl [d]

/-- Declaring and filling visits the declaration and what filling does. -/
theorem declareAnd_visits {kind : Kind} {name : Option String} {fill : EntryId → Conv Unit}
    (h : ∀ id, (fill id).Visits ds) : (declareAnd s d kind name fill).Visits (d :: ds) := by
  rw [← List.singleton_append]
  refine .bind declare_visits fun r => ?_
  cases r with
  | none => exact .quiet .pure
  | some id => exact .before (h id) fun _ => .pure

/-! ## Filling -/

/-- Writing a type in place visits what filling its declaration does. -/
theorem inlineType_visits {fill : EntryId → Conv Unit} (h : ∀ id, (fill id).Visits ds) :
    (inlineType s fill).Visits ds :=
  .after .update fun id => .before (h id) fun _ => .pure

/-- Filling a container visits what converting its members does. -/
theorem fillContainer_visits {members : Site → Conv (List EntryId)}
    (h : ∀ s, (members s).Visits ds) : (fillContainer s members id).Visits ds :=
  .before (h _) fun _ => .pure

/-- Filling a class visits what converting its type parameters, its heritage and its members does.
-/
theorem fillClass_visits {typeParams : EntryId → Conv (List String)}
    {bases interfaces : Site → Conv (List Ty)} {members : Site → Conv (List EntryId)}
    {ps bs is ms : List Decl} (hp : ∀ id, (typeParams id).Visits ps)
    (hb : ∀ s, (bases s).Visits bs) (hi : ∀ s, (interfaces s).Visits is)
    (hm : ∀ s, (members s).Visits ms) :
    (fillClass s typeParams bases interfaces members id).Visits (ms ++ (ps ++ bs ++ is)) := by
  have hknown : (knownOrNew typeParams id).Visits ps := by
    refine .ask_bind fun known => ?_
    split
    · exact hp id
    · exact fun _ => List.nil_subperm
  have hfill : (fillClass s typeParams bases interfaces members id).Visits
      (ps ++ (bs ++ (is ++ ms))) :=
    .bind hknown fun _ => .bind (hb _) fun _ => .after .update fun _ =>
      .bind (hi _) fun _ => .after .update fun _ => .before (hm _) fun _ => .pure
  refine hfill.mono ?_
  rw [← List.append_assoc, ← List.append_assoc]
  exact List.perm_append_comm.subperm

/-- Filling a function or a method visits what converting its signature does. -/
theorem fillCallable_visits {name : Atlas → EntryId → String}
    {signature : Site → String → Conv EntryId} (h : ∀ s name, (signature s name).Visits ds) :
    (fillCallable s name signature id).Visits ds :=
  .ask_bind fun _ => .before (h _ _) fun _ => .update

/-- Filling an accessor visits what converting its type and its signature does. -/
theorem fillAccessor_visits {isGetter : Bool} {value : Site → Conv (Option Ty)}
    {signature : Site → Conv EntryId} (hv : ∀ s, (value s).Visits ds)
    (hs : ∀ s, (signature s).Visits ds) :
    (fillAccessor s d isGetter value signature id).Visits ds := by
  refine .ask_bind fun entry => ?_
  dsimp only
  split
  · split
    · exact .before (hv _) fun _ => .update
    · exact .quiet .pure
  · split
    · exact .quiet .update
    · exact .before (hs _) fun _ => .update

/-- Filling a variable or a property visits what converting its type does. -/
theorem fillValue_visits {type : Site → Conv (Option Ty)} {value : Option String}
    (h : ∀ s, (type s).Visits ds) : (fillValue s type value id).Visits ds := by
  refine .ask_bind fun known => ?_
  split
  · exact .before (h _) fun _ => .after .update fun _ => .update
  · exact .quiet .update

/-- Filling an alias visits what converting its type parameters and its type does. -/
theorem fillAlias_visits {typeParams : EntryId → Conv (List String)}
    {type : Site → Conv (Option Ty)} {ps : List Decl} (hp : ∀ id, (typeParams id).Visits ps)
    (ht : ∀ s, (type s).Visits ds) : (fillAlias s d typeParams type id).Visits (ps ++ ds) := by
  refine .ask_bind fun known => ?_
  split
  · exact .ask_bind fun _ => .quiet .update
  · exact .bind (hp id) fun _ => .before (ht _) fun _ => .update

/-- The report on a signature that belongs to nothing visits nothing. -/
theorem reportLoose_visits {what : String} {line : Option Int} :
    (reportLoose s what line).Visits [] :=
  .after .update fun _ => .pure

/-- Adding a signature to what it stands in visits what converting the signature does. -/
theorem addCallable_visits {what : String} {line : Option Int} {signature : Conv EntryId}
    (h : signature.Visits ds) : (addCallable s what line signature).Visits ds := by
  refine .ask_bind fun owner => ?_
  split
  · exact .quiet reportLoose_visits
  · exact .before h fun _ => .after .update fun _ => .pure

/-- Adding an index signature to what it stands in visits what converting the signature does. -/
theorem addIndex_visits {line : Option Int} {signature : Conv EntryId}
    (h : signature.Visits ds) : (addIndex s line signature).Visits ds := by
  refine .ask_bind fun owner => ?_
  split
  · exact .quiet reportLoose_visits
  · split
    · exact .ask_bind fun _ => .quiet (.after .update fun _ => .pure)
    · exact .before h fun _ => .after .update fun _ => .pure

/-! ## What is to be shown -/

/-- Whether converting a type visits only what is inside it. -/
def TypeVisits (t : TypeExpr) : Prop :=
  ∀ s, (convertType s t).Visits t.decls

/-- Whether converting a signature visits only what is inside it. -/
def SignatureVisits (w : Signature) : Prop :=
  ∀ s name kind comment flags, (convertSignature s name kind comment flags w).Visits w.decls

/-- Whether converting a declaration visits only it and what is inside it. -/
def DeclVisits (d : Decl) : Prop :=
  ∀ s, (convertDecl s d).Visits (d :: d.nested)

/-! ## Lists and options -/

/-- Converting a list of types visits only what is inside them. -/
theorem convertTypes_visits {ts : List TypeExpr} (h : ∀ t ∈ ts, TypeVisits t) :
    (convertTypes s ts).Visits (declsOfTypes ts) := by
  induction ts with
  | nil => exact .pure
  | cons t ts ih =>
    obtain ⟨ht, hts⟩ := List.forall_mem_cons.1 h
    exact .bind (ht s) fun _ => .before (ih hts) fun _ => .pure

/-- Converting a type that may be missing visits only what is inside it. -/
theorem convertType?_visits {t : Option TypeExpr} (h : ∀ u ∈ t, TypeVisits u) :
    (convertType? s t).Visits (declsOfType? t) := by
  cases t with
  | none => exact .pure
  | some t => exact .before (h t rfl s) fun _ => .pure

/-- Converting a signature that may be missing visits only what is inside it. -/
theorem convertSignature?_visits {w : Option Signature} {name : String} {kind : Kind}
    {comment : Option Comment} {flags : Flags} (h : ∀ v ∈ w, SignatureVisits v) :
    (convertSignature? s name kind comment flags w).Visits (declsOfSignature? w) := by
  cases w with
  | none => exact .update
  | some w => exact h w rfl s name kind comment flags

/-- Converting declarations visits only them and what is inside them. -/
theorem convertDecls_visits (h : ∀ d ∈ ds, DeclVisits d) :
    (convertDecls s ds).Visits (declsOf ds) := by
  induction ds with
  | nil => exact .pure
  | cons d ds ih =>
    obtain ⟨hd, hds⟩ := List.forall_mem_cons.1 h
    exact .bind (hd s) fun _ => .before (ih hds) fun _ => .pure

/-- Converting parameters visits only what is inside their types. -/
theorem convertParams_visits {owner : EntryId} {comment : Option Comment} {ps : List Param}
    (h : ∀ p ∈ ps, ∀ t ∈ p.type, TypeVisits t) :
    (convertParams s owner comment ps).Visits (declsOfParams ps) := by
  induction ps with
  | nil => exact .pure
  | cons p ps ih =>
    obtain ⟨name, type, optional, rest, defaultValue⟩ := p
    obtain ⟨htype, hps⟩ := List.forall_mem_cons.1 h
    exact .after .update fun _ => .bind (convertType?_visits htype) fun _ =>
      .after .update fun _ => .after .update fun _ => ih hps

/-- Converting type parameters visits only what is inside their constraints and defaults. -/
theorem convertTypeParams_visits {owner : EntryId} {bound : List String} {ps : List TypeParam}
    (h : ∀ p ∈ ps, p.All TypeVisits) :
    (convertTypeParams s owner bound ps).Visits (declsOfTypeParams ps) := by
  induction ps generalizing bound with
  | nil => exact .pure
  | cons p ps ih =>
    obtain ⟨name, constraint, default⟩ := p
    obtain ⟨⟨hconstraint, hdefault⟩, hps⟩ := List.forall_mem_cons.1 h
    rw [declsOfTypeParams, List.append_assoc]
    exact .after (.after .update fun _ => .after .update fun _ => .pure) fun _ =>
      .bind (convertType?_visits hconstraint) fun _ =>
        .bind (convertType?_visits hdefault) fun _ => .after .update fun _ => ih hps

/-- Converting what a signature returns visits only what is inside the signature. -/
theorem convertResult?_visits {w : Option Signature} (h : ∀ v ∈ w, v.All TypeVisits) :
    (convertResult? s w).Visits (declsOfSignature? w) := by
  cases w with
  | none => exact .pure
  | some w =>
    obtain ⟨parameters, result, typeParameters⟩ := w
    exact .right (convertType?_visits (h _ rfl).2.1)

/-- Converting the type of a first parameter visits only what is inside the signature. -/
theorem convertFirstParam?_visits {w : Option Signature} (h : ∀ v ∈ w, v.All TypeVisits) :
    (convertFirstParam? s w).Visits (declsOfSignature? w) := by
  cases w with
  | none => exact .pure
  | some w =>
    obtain ⟨parameters, result, typeParameters⟩ := w
    cases parameters with
    | nil => exact .quiet .pure
    | cons p ps =>
      obtain ⟨name, type, optional, rest, defaultValue⟩ := p
      exact .left (.right (.left (convertType?_visits (List.forall_mem_cons.1 (h _ rfl).1).1)))

/-! ## One of them -/

/-- Converting a type visits only what is inside it, when this holds of its arguments, its members
and its signature. -/
theorem type_visits {t : TypeExpr} (ha : ∀ u ∈ t.arguments, TypeVisits u)
    (hm : ∀ d ∈ t.members, DeclVisits d) (hw : ∀ w ∈ t.signature, SignatureVisits w) :
    TypeVisits t := by
  intro s
  obtain ⟨form, name, symbol, arguments, members, signature, text⟩ := t
  have args : (convertTypes s arguments).Visits
      (declsOfTypes arguments ++ declsOf members ++ declsOfSignature? signature) :=
    .left (.left (convertTypes_visits ha))
  cases form with
  | intrinsic | stringLiteral | unknown => exact .quiet .pure
  | reference =>
    rw [convertType]
    split
    · exact .quiet .pure
    · exact .before args fun _ => .pure
  | union | intersection | tuple => exact .before args fun _ => .pure
  | array =>
    cases arguments with
    | nil => exact .quiet .pure
    | cons element rest =>
      have helement : TypeVisits element := (List.forall_mem_cons.1 ha).1
      exact .left (.left (.left (.before (helement s) fun _ => .pure)))
  | object =>
    exact .left (.right (inlineType_visits fun _ => fillContainer_visits fun _ =>
      convertDecls_visits hm))
  | function =>
    cases signature with
    | none => exact .quiet (inlineType_visits fun _ => .pure)
    | some w =>
      exact .right (inlineType_visits fun _ => fillCallable_visits fun _ _ => hw w rfl _ _ _ _ _)

/-- Converting a signature visits only what is inside it, when this holds of the types that are
written on it. -/
theorem signature_visits {w : Signature} (h : w.All TypeVisits) : SignatureVisits w := by
  intro s name kind comment flags
  obtain ⟨parameters, result, typeParameters⟩ := w
  obtain ⟨hps, hresult, htps⟩ := h
  have hcheck : ∀ id, (checkOrder s id name parameters).Visits [] := by
    intro id
    unfold checkOrder
    split
    · exact .update
    · exact .pure
  rw [convertSignature, Signature.decls, List.append_assoc]
  exact .after .update fun _ => .bind (convertTypeParams_visits htps) fun _ =>
    .bind (convertParams_visits hps) fun _ => .before (convertType?_visits hresult) fun _ =>
      .after .update fun _ => .after (hcheck _) fun _ => .pure

/-- Converting a declaration visits only it and what is inside it, when this holds of what stands in
it and what is written on it: there is one case for each way to fill an entry. -/
theorem decl_visits {d : Decl} (hc : ∀ c ∈ d.children, DeclVisits c)
    (ht : ∀ t ∈ d.type, TypeVisits t)
    (hw : ∀ w ∈ d.signature, SignatureVisits w ∧ w.All TypeVisits)
    (hp : ∀ p ∈ d.typeParameters, p.All TypeVisits) (hb : ∀ t ∈ d.bases, TypeVisits t)
    (hi : ∀ t ∈ d.interfaces, TypeVisits t) : DeclVisits d := by
  intro s
  have parts : ∀ w ∈ d.signature, w.All TypeVisits := fun w hmem => (hw w hmem).2
  have typed : ∀ s, (convertType? s d.type).Visits (declsOfType? d.type) := fun _ =>
    convertType?_visits ht
  have called : ∀ s title sort comment flags,
      (convertSignature? s title sort comment flags d.signature).Visits
        (declsOfSignature? d.signature) := fun s title sort comment flags =>
    convertSignature?_visits fun w hmem => (hw w hmem).1
  obtain ⟨kind, name, symbol, children, modifiers, type, signature, typeParameters, bases,
    interfaces, comment, defaultValue, origin, file, line, form⟩ := d
  dsimp only at hc hp hb hi parts typed called
  -- A type comes first among what is written, and a signature after it.
  have inType : ∀ {c : Conv Unit}, c.Visits (declsOfType? type) →
      c.Visits (declsOf children ++ (declsOfType? type ++ declsOfSignature? signature ++
        declsOfTypeParams typeParameters ++ declsOfTypes bases ++ declsOfTypes interfaces)) :=
    fun h => .right (.left (.left (.left (.left h))))
  have inSignature : ∀ {α : Type} {c : Conv α}, c.Visits (declsOfSignature? signature) →
      c.Visits (declsOf children ++ (declsOfType? type ++ declsOfSignature? signature ++
        declsOfTypeParams typeParameters ++ declsOfTypes bases ++ declsOfTypes interfaces)) :=
    fun h => .right (.left (.left (.left (.right h))))
  rw [Decl.nested]
  cases kind with
  | module | «namespace» | enum =>
    rw [convertDecl]
    exact declareAnd_visits fun _ => .left (fillContainer_visits fun _ => convertDecls_visits hc)
  | «class» | interface =>
    rw [convertDecl]
    refine declareAnd_visits fun _ => (fillClass_visits (fun _ => convertTypeParams_visits hp)
      (fun _ => convertTypes_visits hb) (fun _ => convertTypes_visits hi)
      fun _ => convertDecls_visits hc).mono ?_
    exact ((((List.sublist_append_right _ _).append_right _).append_right _).append_left _).subperm
  | function | method | constructor =>
    rw [convertDecl]
    exact declareAnd_visits fun _ => inSignature (fillCallable_visits fun _ _ => called _ _ _ _ _)
  | callSignature | constructSignature =>
    rw [convertDecl]
    exact .below (inSignature (addCallable_visits (called _ _ _ _ _)))
  | indexSignature =>
    rw [convertDecl]
    exact .below (inSignature (addIndex_visits (called _ _ _ _ _)))
  | getAccessor =>
    rw [convertDecl]
    refine .ask_bind fun _ => declareAnd_visits fun _ => .right (.left (.left (.left
      (fillAccessor_visits (fun _ => ?_) fun _ => .right (called _ _ _ _ _)))))
    split
    · exact .left (typed _)
    · exact .right (convertResult?_visits parts)
  | setAccessor =>
    rw [convertDecl]
    refine .ask_bind fun _ => declareAnd_visits fun _ => .right (.left (.left (.left
      (fillAccessor_visits (fun _ => ?_) fun _ => .right (called _ _ _ _ _)))))
    split
    · exact .left (typed _)
    · exact .right (convertFirstParam?_visits parts)
  | «variable» | property | enumMember =>
    rw [convertDecl]
    exact declareAnd_visits fun _ => inType (fillValue_visits typed)
  | typeAlias =>
    rw [convertDecl]
    refine declareAnd_visits fun _ => .right (.left (.left ?_))
    refine (fillAlias_visits (fun _ => convertTypeParams_visits hp) typed).mono ?_
    exact List.perm_append_comm.subperm.trans
      ((List.sublist_append_left _ _).append_right _).subperm
  | other =>
    rw [convertDecl]
    exact .quiet (.after .update fun _ => .pure)

/-- Whatever is written, its conversion visits only what is inside it, by induction on how it is
nested. -/
theorem visitsWalk : Steps TypeVisits SignatureVisits DeclVisits where
  type _ := type_visits
  signature _ := signature_visits
  decl _ := decl_visits

/-! ## Files -/

variable {settings : Settings}

/-- Converting a file visits only the declarations in it. -/
theorem convertFile_visits {f : Source.File} :
    (convertFile settings f).Visits (declsOf (f.topDecls settings.mode)) := by
  unfold convertFile
  split
  · exact .before (convertDecls_visits fun d _ => visitsWalk.of_decl d) fun _ => .update
  · exact .quiet .pure

/-- Converting files visits only declarations that are written in them, each at most as often as it
is written. -/
theorem convertFiles_visits (files : List Source.File) :
    (convertFiles settings files).Visits (declsOf (files.flatMap (·.topDecls settings.mode))) := by
  unfold convertFiles
  induction files with
  | nil => exact .pure
  | cons f files ih =>
    rw [List.flatMap_cons, declsOf_append]
    exact .bind convertFile_visits fun _ => ih

end Conv

end ApiAtlas
