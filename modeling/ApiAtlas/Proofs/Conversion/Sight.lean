import ApiAtlas.Proofs.Conversion.Aside
import ApiAtlas.Proofs.Conversion.Readings
import ApiAtlas.Proofs.Conversion.Stored
import ApiAtlas.Proofs.Conversion.Untouched
import ApiAtlas.Resolution.References

/-!
# Type parameters in sight

A type parameter is in sight of its own constraint and default and of the type parameters after it,
but not of those before it (`Atlas.ReadsTypeParams`, `forward_typeParameter_unread`). All of them
are in sight of what else is written in their signature (`Conv.convertSignature_reads`), of the
heritage and the members of their class (`Conv.openClass_reads`), and of the type that their alias
stands for (`Conv.fillAlias_reads`).
-/

set_option autoImplicit false

namespace ApiAtlas

open Source

/-- The names of some type parameters, the last one first. -/
def Source.boundNames (ps : List TypeParam) : List String :=
  (ps.map (·.name)).reverse

namespace Entry

/-- The entry with more type parameters, if it can have some. -/
def addTypeParameters (is : List EntryId) (e : Entry) : Entry :=
  (e.mapDetails fun d => { d with typeParameters := d.typeParameters ++ is }).mapShape
    fun s => { s with typeParameters := s.typeParameters ++ is }

/-- No type parameters are added to an entry from an empty list. -/
theorem addTypeParameters_nil (e : Entry) : e.addTypeParameters [] = e := by
  obtain ⟨name, kind, flags, comment, parent, body⟩ := e
  cases body <;> simp [addTypeParameters, mapDetails, mapShape]

/-- Type parameters are added to an entry one after the other. -/
theorem addTypeParameters_cons (e : Entry) (i : EntryId) (is : List EntryId) :
    e.addTypeParameters (i :: is) = (e.addTypeParameter i).addTypeParameters is := by
  obtain ⟨name, kind, flags, comment, parent, body⟩ := e
  cases body <;> simp [addTypeParameters, addTypeParameter, mapDetails, mapShape]

end Entry

namespace Atlas

/-- Whether an entry is a type parameter of an owner, whose constraint and default are read with
some type parameters in sight. -/
def ReadsTypeParam (a : Atlas) (owner : EntryId) (bound : List String) (p : TypeParam)
    (i : EntryId) : Prop :=
  ∃ e limit standard, a.get? i = some e ∧ e.parent = some owner ∧ e.name = p.name ∧
    e.body = .typeParameter limit standard ∧
    limit.map Ty.unnumbered = p.constraint.map (·.read bound) ∧
    standard.map Ty.unnumbered = p.default.map (·.read bound)

/-- Whether entries are the type parameters of an owner, each read with itself and those before it
in sight. -/
inductive ReadsTypeParams (a : Atlas) (owner : EntryId) :
    List String → List TypeParam → List EntryId → Prop
  | nil {bound : List String} : ReadsTypeParams a owner bound [] []
  | cons {bound : List String} {p : TypeParam} {ps : List TypeParam} {i : EntryId}
    {is : List EntryId} (h : a.ReadsTypeParam owner (p.name :: bound) p i)
    (hs : ReadsTypeParams a owner (p.name :: bound) ps is) :
    ReadsTypeParams a owner bound (p :: ps) (i :: is)

/-- Whether an entry is a parameter of a signature with its flags, whose type is read with some type
parameters in sight. -/
def ReadsParam (a : Atlas) (owner : EntryId) (bound : List String) (p : Param) (i : EntryId) :
    Prop :=
  ∃ e type, a.get? i = some e ∧ e.parent = some owner ∧ e.name = p.name ∧
    e.flags = Conv.paramFlags p ∧ e.body = .parameter type p.defaultValue ∧
    type.map Ty.unnumbered = p.type.map (·.read bound)

variable {a b : Atlas} {i owner : EntryId} {bound : List String}

/-- Whether an entry is a type parameter that is read only depends on the entry. -/
theorem ReadsTypeParam.congr {p : TypeParam} (h : a.ReadsTypeParam owner bound p i)
    (hi : b.get? i = a.get? i) : b.ReadsTypeParam owner bound p i := by
  obtain ⟨e, limit, standard, he, hrest⟩ := h
  exact ⟨e, limit, standard, hi.trans he, hrest⟩

/-- Whether an entry is a parameter that is read only depends on the entry. -/
theorem ReadsParam.congr {p : Param} (h : a.ReadsParam owner bound p i)
    (hi : b.get? i = a.get? i) : b.ReadsParam owner bound p i := by
  obtain ⟨e, type, he, hrest⟩ := h
  exact ⟨e, type, hi.trans he, hrest⟩

/-- A type parameter that is read is a type parameter. -/
theorem ReadsTypeParam.isTypeParameter {p : TypeParam} (h : a.ReadsTypeParam owner bound p i) :
    a.IsTypeParameter i := by
  obtain ⟨e, limit, standard, he, -, -, hb, -⟩ := h
  exact ⟨e, limit, standard, he, hb⟩

/-- A parameter that is read is a parameter. -/
theorem ReadsParam.isParameter {p : Param} (h : a.ReadsParam owner bound p i) :
    a.IsParameter i := by
  obtain ⟨e, type, he, -, -, -, hb, -⟩ := h
  exact ⟨e, type, p.defaultValue, he, hb⟩

/-- Type parameters are left as they are read by what changes none. -/
theorem ReadsTypeParams.grown {x y : Draft} {A : EntryId → Prop} {ps : List TypeParam}
    {is : List EntryId} (h : x.atlas.ReadsTypeParams owner bound ps is) (hxy : x.Grown A y)
    (hA : ∀ i, x.atlas.IsTypeParameter i → ¬A i) : y.atlas.ReadsTypeParams owner bound ps is := by
  induction h with
  | nil => exact .nil
  | cons h hs ih =>
    exact .cons (h.congr (hxy.frame _ h.isTypeParameter.lt (hA _ h.isTypeParameter))) ih

/-- Type parameters are left as they are read when something else is converted. -/
theorem ReadsTypeParams.beside {x y : Draft} {ds : List Decl} {ps : List TypeParam}
    {is : List EntryId} (h : x.atlas.ReadsTypeParams owner bound ps is)
    (hxy : x.Grown (x.atlas.Reach [] ds) y) : y.atlas.ReadsTypeParams owner bound ps is :=
  h.grown hxy fun _ hi => (hi.outside _).not_reach hi.lt List.not_mem_nil

/-- Parameters are left as they are read by what changes none. -/
theorem ReadsParam.grown {x y : Draft} {A : EntryId → Prop} {ps : List Param}
    {is : List EntryId} (h : List.Forall₂ (x.atlas.ReadsParam owner bound) ps is)
    (hxy : x.Grown A y) (hA : ∀ i, x.atlas.IsParameter i → ¬A i) :
    List.Forall₂ (y.atlas.ReadsParam owner bound) ps is :=
  h.imp fun _ i hi => hi.congr (hxy.frame i hi.isParameter.lt (hA i hi.isParameter))

/-- Entries with different bodies are different. -/
theorem HasBody.ne {body body' : Body} (h : a.HasBody i body) (h' : a.HasBody owner body')
    (hne : body ≠ body') : i ≠ owner := by
  rintro rfl
  obtain ⟨e, he, hb⟩ := h
  obtain ⟨e', he', hb'⟩ := h'
  obtain rfl := Option.some.inj (he.symm.trans he')
  exact hne (hb.symm.trans hb')

/-- A type parameter is not the signature that it belongs to. -/
theorem IsTypeParameter.ne_signature {shape : Shape} (h : a.IsTypeParameter i)
    (howner : a.HasBody owner (.signature shape)) : i ≠ owner := by
  obtain ⟨e, limit, standard, he, hi⟩ := h
  exact HasBody.ne ⟨e, he, hi⟩ howner (by rintro ⟨⟩)

/-- A type parameter is not the declaration that it belongs to. -/
theorem IsTypeParameter.ne_declaration {m : Members} {d : Details} (h : a.IsTypeParameter i)
    (howner : a.HasBody owner (.declaration m d)) : i ≠ owner := by
  obtain ⟨e, limit, standard, he, hi⟩ := h
  exact HasBody.ne ⟨e, he, hi⟩ howner (by rintro ⟨⟩)

/-- A parameter is not the signature that it belongs to. -/
theorem IsParameter.ne_signature {shape : Shape} (h : a.IsParameter i)
    (howner : a.HasBody owner (.signature shape)) : i ≠ owner := by
  obtain ⟨e, type, value, he, hi⟩ := h
  exact HasBody.ne ⟨e, he, hi⟩ howner (by rintro ⟨⟩)

/-- Whether an entry is a signature, all of which is read with its own type parameters in sight and
some more; the type parameters themselves only with those before them. -/
def ReadsSignature (a : Atlas) (bound : List String) (w : Signature) (i : EntryId) : Prop :=
  ∃ shape, a.HasBody i (.signature shape) ∧
    a.ReadsTypeParams i bound w.typeParameters shape.typeParameters ∧
    List.Forall₂ (a.ReadsParam i (boundNames w.typeParameters ++ bound)) w.parameters
      shape.parameters ∧
    shape.type.map Ty.unnumbered = w.result.map (·.read (boundNames w.typeParameters ++ bound))

end Atlas

/-- A part that is left alone keeps its body. -/
theorem Draft.LeavesParts.hasBody {A : EntryId → Prop} {x y : Draft} {i : EntryId} {body : Body}
    (h : x.LeavesParts A y) (hi : x.atlas.HasBody i body) (hpart : body.IsPart) (hA : ¬ A i) :
    y.atlas.HasBody i body := by
  obtain ⟨e, he, rfl⟩ := hi
  exact ⟨e, h.parts i e he hpart hA, rfl⟩

/-- A parameter that is left alone is read as before. -/
theorem Draft.LeavesParts.readsParam {A : EntryId → Prop} {x y : Draft} {i owner : EntryId}
    {bound : List String} {p : Param} (h : x.LeavesParts A y)
    (hi : x.atlas.ReadsParam owner bound p i) (hA : ¬ A i) :
    y.atlas.ReadsParam owner bound p i := by
  obtain ⟨e, type, he, hparent, hname, hflags, hbody, htype⟩ := hi
  have hpart : e.body.IsPart := by
    rw [hbody]
    trivial
  exact ⟨e, type, h.parts i e he hpart hA, hparent, hname, hflags, hbody, htype⟩

namespace Conv

open Source.TypeExpr (readAll)

variable {x : Draft} {s : Site} {owner : EntryId} {bound : List String}

/-- The type parameters that are in sight once some are converted. -/
theorem convertTypeParams_bound (ps : List TypeParam) :
    (convertTypeParams s owner bound ps).Gives x fun names _ =>
      names = boundNames ps ++ bound := by
  induction ps generalizing x bound with
  | nil => rfl
  | cons p ps ih =>
    obtain ⟨name, constraint, default⟩ := p
    rw [convertTypeParams, boundNames, List.map_cons, List.reverse_cons, List.append_assoc]
    exact ih

/-- A type parameter that is opened comes last among those of its owner. -/
theorem openTypeParameter_listed {name : String} (ho : owner < x.atlas.size) :
    (openTypeParameter owner name).Gives x fun i y =>
      (∃ e, y.atlas.get? i = some e ∧ e.parent = some owner ∧ e.name = name) ∧
      y.atlas.get? owner = (x.atlas.get? owner).map (·.addTypeParameter i) := by
  let p : Entry :=
    { name := name, kind := .typeParameter, parent := some owner,
      body := .typeParameter none none }
  have hold : (x.atlas.add p).1.get? owner = x.atlas.get? owner := Atlas.get?_add_of_lt p ho
  have hnew : (x.atlas.add p).1.get? x.atlas.size = some p := Atlas.get?_add_self x.atlas p
  refine ⟨⟨p, (Atlas.get?_modify_of_ne _ (Nat.ne_of_gt ho)).trans hnew, rfl, rfl⟩, ?_⟩
  exact (Atlas.get?_modify ..).trans ((if_pos rfl).trans (congrArg (Option.map _) hold))

/-- Type parameters are converted one after the other. -/
theorem convertTypeParams_cons_gives {p : TypeParam} {ps : List TypeParam}
    {Q : List String → Draft → Prop}
    (h : (convertTypeParams s owner bound [p] >>= fun names =>
      convertTypeParams s owner names ps).Gives x Q) :
    (convertTypeParams s owner bound (p :: ps)).Gives x Q := by
  obtain ⟨name, constraint, default⟩ := p
  simp only [convertTypeParams] at h ⊢
  exact h

/-- A type parameter is converted with itself and those before it in sight. -/
theorem convertTypeParam_reads {p : TypeParam} (hx : x.atlas.Identified)
    (hno : x.atlas.NoAccessor owner) (hout : x.atlas.Outside owner (declsOfTypeParams [p])) :
    (convertTypeParams s owner bound [p]).Gives x fun names y => names = p.name :: bound ∧
      y.atlas.get? owner = (x.atlas.get? owner).map (·.addTypeParameter x.atlas.size) ∧
      y.atlas.ReadsTypeParam owner (names ++ s.bound) p x.atlas.size := by
  obtain ⟨name, constraint, default⟩ := p
  rw [declsOfTypeParams] at hout
  rw [convertTypeParams]
  have hne : owner ≠ x.atlas.size := Nat.ne_of_lt hno.lt
  refine .bind hx ((openTypeParameter_runs (A := fun _ => True) hx hno trivial trivial).and
    (openTypeParameter_listed hno.lt)) ?_
  rintro i y ⟨⟨rfl, hpar⟩, ⟨e, he, hparent, hname⟩, hlist⟩ hxy
  have houty := hout.grow hxy.grows hno.lt
  have hnoy := hxy.grows.noAccessor hno
  refine .bind hxy.identified ((convertType?_runs (fun t _ => walk.of_type t) hxy.identified
    hpar.lt).and (convertType?_reads constraint)) ?_
  rintro limit z ⟨-, hlimits⟩ hyz
  have hownerz := (houty.mono (by simp)).frame hyz hnoy.lt List.not_mem_nil
  have hez := ((hpar.outside _).frame hyz hpar.lt List.not_mem_nil).trans he
  have houtz := houty.grow hyz.grows hnoy.lt
  have hnoz := hyz.grows.noAccessor hnoy
  have hparz := hyz.grows.isTypeParameter hpar
  refine .bind hyz.identified ((convertType?_runs (fun t _ => walk.of_type t) hyz.identified
    hparz.lt).and (convertType?_reads default)) ?_
  rintro standard v ⟨-, hstandards⟩ hzv
  have hownerv := (houtz.mono (by simp)).frame hzv hnoz.lt List.not_mem_nil
  have hev := ((hparz.outside _).frame hzv hparz.lt List.not_mem_nil).trans hez
  refine .change_bind fun w hw => ?_
  have howner : w.atlas.get? owner = y.atlas.get? owner := by
    rw [hw, Atlas.get?_modify_of_ne _ hne, hownerv, hownerz]
  have hew : w.atlas.get? x.atlas.size = some { e with body := .typeParameter limit standard } := by
    rw [hw]
    exact Atlas.get?_modify_self _ hev
  rw [convertTypeParams]
  exact .pure ⟨rfl, howner.trans hlist, _, limit, standard, hew, hparent, hname, rfl, hlimits,
    hstandards⟩

/-- Type parameters are converted in order, each with those before it in sight. -/
theorem convertTypeParams_reads {ps : List TypeParam} (hx : x.atlas.Identified)
    (hno : x.atlas.NoAccessor owner) (hout : x.atlas.Outside owner (declsOfTypeParams ps)) :
    (convertTypeParams s owner bound ps).Gives x fun _ y => ∃ is,
      y.atlas.get? owner = (x.atlas.get? owner).map (·.addTypeParameters is) ∧
      y.atlas.ReadsTypeParams owner (bound ++ s.bound) ps is := by
  induction ps generalizing x bound with
  | nil =>
    have hsame : (x.atlas.get? owner).map (·.addTypeParameters []) = x.atlas.get? owner := by
      simp only [Entry.addTypeParameters_nil, Option.map_id']
    exact ⟨[], hsame.symm, .nil⟩
  | cons p ps ih =>
    have hparts : declsOfTypeParams (p :: ps) = declsOfTypeParams [p] ++ declsOfTypeParams ps := by
      cases p
      simp [declsOfTypeParams]
    rw [hparts] at hout
    refine convertTypeParams_cons_gives (.bind hx ((convertTypeParams_runs
      (fun p _ => typeParam_runs p) hx hno).and
        (convertTypeParam_reads hx hno (hout.mono (List.subset_append_left ..)))) ?_)
    rintro _ y ⟨-, rfl, hlist, hread⟩ hxy
    have hnoy := hxy.grows.noAccessor hno
    have hruns : (convertTypeParams s owner (p.name :: bound) ps).Runs y _ _ :=
      convertTypeParams_runs (fun p _ => typeParam_runs p) hxy.identified hnoy
    have hrest : (convertTypeParams s owner (p.name :: bound) ps).Gives y _ :=
      ih hxy.identified hnoy ((hout.mono (List.subset_append_right ..)).grow hxy.grows hno.lt)
    obtain ⟨is, hlists, hreads⟩ := hrest
    refine ⟨x.atlas.size :: is, ?_, .cons ?_ hreads⟩
    · rw [hlists, hlist, Option.map_map]
      exact congrArg (Option.map · _) (funext fun e => (e.addTypeParameters_cons _ is).symm)
    · have hpar := hread.isTypeParameter
      exact hread.congr ((hpar.outside _).frame (hruns.grown hxy.identified) hpar.lt
        (List.mem_singleton.not.2 (Nat.ne_of_gt hno.lt)))

/-- All type parameters of an owner are in sight once they are converted. -/
theorem convertTypeParams_all {ps : List TypeParam} (hx : x.atlas.Identified)
    (hno : x.atlas.NoAccessor owner) (hout : x.atlas.Outside owner (declsOfTypeParams ps)) :
    (convertTypeParams s owner [] ps).Gives x fun names y => names = boundNames ps ∧ ∃ is,
      y.atlas.get? owner = (x.atlas.get? owner).map (·.addTypeParameters is) ∧
      y.atlas.ReadsTypeParams owner s.bound ps is := by
  have hreads : (convertTypeParams s owner [] ps).Gives x _ := convertTypeParams_reads hx hno hout
  have hnames : (convertTypeParams s owner [] ps).Gives x _ := convertTypeParams_bound ps
  exact ⟨hnames.trans (List.append_nil _), hreads⟩

/-- A declaration gets all of its type parameters. -/
theorem convertTypeParams_declaration {ps : List TypeParam} {m : Members} {e : Details}
    (hx : x.atlas.Identified) (hno : x.atlas.NoAccessor owner)
    (hout : x.atlas.Outside owner (declsOfTypeParams ps))
    (hbody : x.atlas.HasBody owner (.declaration m e)) :
    (convertTypeParams s owner [] ps).Gives x fun names y => names = boundNames ps ∧ ∃ is,
      y.atlas.HasBody owner
        (.declaration m { e with typeParameters := e.typeParameters ++ is }) ∧
      y.atlas.ReadsTypeParams owner s.bound ps is := by
  obtain ⟨entry, hget, hb⟩ := hbody
  refine (convertTypeParams_all hx hno hout).mono ?_
  rintro names y ⟨hnames, is, howner, hreads⟩
  rw [hget, Option.map_some] at howner
  refine ⟨hnames, is, ⟨_, howner, ?_⟩, hreads⟩
  simp only [Entry.addTypeParameters, Entry.mapDetails, Entry.mapShape, hb]

/-- A parameter that is opened is the one that is written. -/
theorem openParameter_written (p : Param) (comment : Option Comment) :
    (openParameter s p comment).Gives x fun i y =>
      ∃ e, y.atlas.get? i = some e ∧ e.parent = some s.scope ∧ e.name = p.name ∧
        e.flags = paramFlags p ∧ e.body = .parameter none p.defaultValue :=
  ⟨_, Atlas.get?_add_self x.atlas _, rfl, rfl, rfl, rfl⟩

/-- A change of a signature changes the body of its entry. -/
theorem changeShape_hasBody {i : EntryId} {shape : Shape} (f : Shape → Shape)
    (h : x.atlas.HasBody i (.signature shape)) :
    (changeEntry i fun e => e.mapShape f).Gives x fun _ y =>
      y.atlas.HasBody i (.signature (f shape)) := by
  obtain ⟨e, he, hb⟩ := h
  refine ⟨_, Atlas.get?_modify_self _ he, ?_⟩
  rw [Entry.mapShape, hb]

/-- Parameters are converted one after the other. -/
theorem convertParams_cons_gives {p : Param} {ps : List Param} {comment : Option Comment}
    {Q : Unit → Draft → Prop}
    (h : (convertParams s owner comment [p] >>= fun _ =>
      convertParams s owner comment ps).Gives x Q) :
    (convertParams s owner comment (p :: ps)).Gives x Q := by
  obtain ⟨name, type, optional, rest, defaultValue⟩ := p
  simp only [convertParams] at h ⊢
  exact h

/-- Converting a type leaves all parts alone. -/
theorem convertType?_gives_leavesParts (s : Site) (t : Option TypeExpr) (x : Draft) :
    (convertType? s t).Gives x fun _ y => x.LeavesParts (fun _ => False) y :=
  ((convertType?_leaves fun u _ => leavesWalk.of_type u) x (.refl x)).1

/-- A parameter is converted with all type parameters in sight and recorded last. -/
theorem convertParam_reads {p : Param} {comment : Option Comment} {shape : Shape}
    (hbody : x.atlas.HasBody s.scope (.signature shape)) :
    (convertParams s s.scope comment [p]).Gives x fun _ y =>
      y.atlas.HasBody s.scope
        (.signature { shape with parameters := shape.parameters ++ [x.atlas.size] }) ∧
      y.atlas.ReadsParam s.scope s.bound p x.atlas.size := by
  obtain ⟨name, type, optional, rest, defaultValue⟩ := p
  obtain ⟨sig, hsig, hb⟩ := hbody
  have hne : s.scope ≠ x.atlas.size := Nat.ne_of_lt (Atlas.get?_lt hsig)
  rw [convertParams]
  obtain ⟨e, he, hp, hname, hflags, hbodye⟩ := openParameter_written (x := x) (s := s)
    ⟨name, type, optional, rest, defaultValue⟩ comment
  have hold : ((openParameter s ⟨name, type, optional, rest, defaultValue⟩ comment).run
      x).2.atlas.get? s.scope = some sig := (Atlas.get?_add_of_lt _ (Atlas.get?_lt hsig)).trans hsig
  refine .seq (Q := fun i y => i = x.atlas.size ∧ y.atlas.get? x.atlas.size = some e ∧
    y.atlas.get? s.scope = some sig) ⟨rfl, he, hold⟩ ?_
  rintro _ y ⟨rfl, hey, hsigy⟩
  -- Converting the type leaves both the parameter and its signature alone.
  have hstep : (convertType? (s.within x.atlas.size []) type).Gives y fun converted z =>
      converted.map Ty.unnumbered = type.map (·.read s.bound) ∧
      y.LeavesParts (fun _ => False) z :=
    ⟨convertType?_reads type, convertType?_gives_leavesParts _ type y⟩
  refine .seq hstep ?_
  rintro converted z ⟨hreads, hyz⟩
  have hez := hyz.parts _ e hey (by rw [hbodye]; trivial) id
  have hsigz := hyz.parts _ sig hsigy (by rw [hb]; trivial) id
  refine .change_bind fun v hv => ?_
  have hsigv : v.atlas.get? s.scope = some sig := by
    rw [hv, Atlas.get?_modify_of_ne _ hne, hsigz]
  have hev : v.atlas.get? x.atlas.size =
      some { e with body := .parameter converted defaultValue } := by
    rw [hv]
    exact Atlas.get?_modify_self _ hez
  refine .change_bind fun w hw => ?_
  have hbodyw : w.atlas.HasBody s.scope
      (.signature { shape with parameters := shape.parameters ++ [x.atlas.size] }) := by
    rw [hw]
    exact ⟨_, Atlas.get?_modify_self _ hsigv, by rw [Entry.mapShape, hb]⟩
  have hew : w.atlas.get? x.atlas.size = v.atlas.get? x.atlas.size := by
    rw [hw, Atlas.get?_modify_of_ne _ hne.symm]
  rw [convertParams]
  exact .pure ⟨hbodyw, _, converted, hew.trans hev, hp, hname, hflags, rfl, hreads⟩

/-- Parameters are converted in order, each read with all type parameters in sight. -/
theorem convertParams_reads {ps : List Param} {comment : Option Comment} {shape : Shape}
    (hbody : x.atlas.HasBody s.scope (.signature shape)) :
    (convertParams s s.scope comment ps).Gives x fun _ y => ∃ is,
      y.atlas.HasBody s.scope (.signature { shape with parameters := shape.parameters ++ is }) ∧
      List.Forall₂ (y.atlas.ReadsParam s.scope s.bound) ps is := by
  induction ps generalizing x shape with
  | nil => exact ⟨[], by rwa [List.append_nil], .nil⟩
  | cons p ps ih =>
    refine convertParams_cons_gives (.seq (convertParam_reads hbody) ?_)
    rintro _ y ⟨hbodyy, hread⟩
    have hrest : (convertParams s s.scope comment ps).Leaves (· = s.scope) y fun _ => True :=
      convertParams_leaves (fun _ _ t _ => leavesWalk.of_type t) fun _ => rfl
    have hleaves := (hrest y (.refl y)).1
    obtain ⟨is, hlist, hreads⟩ := ih hbodyy
    refine ⟨x.atlas.size :: is, by simpa using hlist, .cons ?_ hreads⟩
    exact hleaves.readsParam hread (Nat.ne_of_gt hbody.lt)

/-- Checking the order of parameters at most reports something. -/
theorem checkOrder_atlas {i : EntryId} {name : String} {ps : List Param} :
    (checkOrder s i name ps).Gives x fun _ y => y.atlas = x.atlas := by
  unfold checkOrder
  split <;> rfl

/-- All of a signature is read with its own type parameters in sight, and those around it. -/
theorem convertSignature_reads {name : String} {kind : Kind} {comment : Option Comment}
    {flags : Flags} {w : Signature} (hx : x.atlas.Identified) (hs : s.scope < x.atlas.size)
    (hk : kind ∈ Kind.someSignature) :
    (convertSignature s name kind comment flags w).Gives x fun i y =>
      y.atlas.ReadsSignature s.bound w i := by
  obtain ⟨parameters, result, typeParameters⟩ := w
  rw [convertSignature]
  refine .bind hx ((openSignature_runs (A := (· = x.atlas.size)) hs hk rfl).and
    (R := fun i y => y.atlas.HasBody i (.signature {})) ⟨_, Atlas.get?_add_self x.atlas _, rfl⟩) ?_
  rintro i y ⟨⟨rfl, hsig⟩, hbody⟩ hxy
  have hno := hsig.noAccessor (List.cons_subset.2 ⟨hk, List.nil_subset _⟩)
  have hscope : y.atlas.IsSignature x.atlas.size := hsig.isSignature
  refine .bind hxy.identified ((convertTypeParams_runs (fun p _ => typeParam_runs p)
    hxy.identified hno).and (convertTypeParams_all hxy.identified hno (hscope.outside _))) ?_
  rintro _ z ⟨-, rfl, is, howner, htypeParams⟩ hyz
  -- The signature was opened empty, so it lists the type parameters of `w` and no others.
  have hbodyz : z.atlas.HasBody x.atlas.size (.signature { typeParameters := is }) := by
    obtain ⟨e, he, hb⟩ := hbody
    refine ⟨_, by rw [howner, he]; rfl, ?_⟩
    simp only [Entry.addTypeParameters, Entry.mapDetails, Entry.mapShape, hb, List.nil_append]
  have hscopez := hyz.grows.isSignature hscope
  dsimp only
  have hparams : (convertParams (s.within x.atlas.size (boundNames typeParameters)) x.atlas.size
      comment parameters).Gives z _ :=
    convertParams_reads (s := s.within x.atlas.size _) hbodyz
  refine .bind hyz.identified ((convertParams_runs (s := s.within x.atlas.size _)
    (fun _ _ t _ => walk.of_type t) hyz.identified hscopez.lt).and hparams) ?_
  rintro _ v ⟨-, js, hbodyv, hreadsv⟩ hzv
  -- The parameters are made beside the type parameters, which read as before.
  have htypeParamsv := htypeParams.grown hzv fun i hi => (hi.outside _).not_reach hi.lt
    (List.mem_singleton.not.2 (hi.ne_signature hbodyz))
  have hscopev := hzv.grows.isSignature hscopez
  refine .bind hzv.identified ((convertType?_runs (fun t _ => walk.of_type t) hzv.identified
    hscopev.lt).and (convertType?_reads result)) ?_
  rintro type u ⟨hopen, htype⟩ hvu
  have hbodyu := hbodyv.of_get? ((hscopev.outside _).frame hvu hscopev.lt List.not_mem_nil)
  have htypeParamsu := htypeParamsv.beside hvu
  have hreadsu := Atlas.ReadsParam.grown hreadsv hvu fun i hi =>
    (hi.outside _).not_reach hi.lt List.not_mem_nil
  refine .bind hvu.identified ((setResult_runs (A := (· = x.atlas.size)) hopen rfl).and
    (changeShape_hasBody _ hbodyu)) ?_
  rintro _ t ⟨-, hbodyt⟩ hut
  have htypeParamst := htypeParamsu.grown hut fun i hi => hi.ne_signature hbodyu
  have hreadst := Atlas.ReadsParam.grown hreadsu hut fun i hi => hi.ne_signature hbodyu
  -- Checking the order of the parameters only reports.
  refine .then_pure (checkOrder_atlas.mono fun _ r hr => ?_)
  rw [hr]
  exact ⟨_, hbodyt, htypeParamst, hreadst, htype⟩

/-! ## Classes -/

/-- A change of details changes the body of their entry. -/
theorem changeDetails_hasBody {i : EntryId} {m : Members} {e : Details} (f : Details → Details)
    (h : x.atlas.HasBody i (.declaration m e)) :
    (changeDetails i f).Gives x fun _ y => y.atlas.HasBody i (.declaration m (f e)) := by
  obtain ⟨e, he, hb⟩ := h
  refine ⟨_, Atlas.get?_modify_self _ he, ?_⟩
  rw [Entry.mapDetails, hb]

/-- A class without type parameters gets those that are written. -/
theorem knownOrNew_reads {i : EntryId} {m : Members} {e : Details} {ps : List TypeParam}
    (hx : x.atlas.Identified) (hno : x.atlas.NoAccessor i)
    (hout : x.atlas.Outside i (declsOfTypeParams ps))
    (hbody : x.atlas.HasBody i (.declaration m e)) :
    (knownOrNew (fun i => convertTypeParams s i [] ps) i).Gives x fun names y => ∃ is,
      y.atlas.HasBody i (.declaration m { e with typeParameters := e.typeParameters ++ is }) ∧
      (e.typeParameters = [] →
        names = boundNames ps ∧ y.atlas.ReadsTypeParams i s.bound ps is) := by
  have hknown : ((x.atlas.get? i).map (·.typeParameters)).getD [] = e.typeParameters := by
    obtain ⟨entry, hget, hb⟩ := hbody
    rw [hget, Option.map_some, Option.getD_some, Entry.typeParameters, hb]
  refine .ask_bind ?_
  rw [hknown]
  split
  · next hnone =>
    refine (convertTypeParams_declaration hx hno hout hbody).mono ?_
    rintro names y ⟨hnames, is, hbodyy, hreads⟩
    exact ⟨is, hbodyy, fun _ => ⟨hnames, hreads⟩⟩
  · next hsome =>
    refine ⟨[], by rwa [List.append_nil], fun hnone => ?_⟩
    rw [hnone] at hsome
    exact absurd rfl hsome

/-- A class without type parameters has all that are written in sight of its heritage. -/
theorem openClass_reads {d : Decl} {i : EntryId} {m : Members} {e : Details}
    (hx : x.atlas.Identified) (hi : x.atlas.Declares i d.symbol false)
    (hout : x.atlas.Outside i d.written) (hbody : x.atlas.HasBody i (.declaration m e)) :
    (openClass s d i).Gives x fun inner y => ∃ is bases interfaces,
      y.atlas.HasBody i (.declaration m
        { e with
          typeParameters := e.typeParameters ++ is
          extended := extendHeritage e.extended bases
          implemented := extendHeritage e.implemented interfaces }) ∧
      bases.map Ty.unnumbered = readAll inner.bound d.bases ∧
      interfaces.map Ty.unnumbered = readAll inner.bound d.interfaces ∧
      (e.typeParameters = [] → inner.bound = boundNames d.typeParameters ++ s.bound ∧
        y.atlas.ReadsTypeParams i s.bound d.typeParameters is) := by
  have hno := hi.hosts.noAccessor
  unfold openClass
  refine .bind hx ((knownOrNew_runs (convertTypeParams_runs (fun p _ => typeParam_runs p) hx
    hno)).and (knownOrNew_reads hx hno (hout.mono d.typeParameters_subset_written) hbody)) ?_
  rintro names y ⟨-, is, hbodyy, hnew⟩ hxy
  have houty := hout.grow hxy.grows hi.lt
  have hiy := hxy.grows.declares hi
  have hbases := convertTypes_reads (x := y) (s := s.within i names) d.bases
  refine .bind hxy.identified ((convertTypes_runs (s := s.within i names)
    (fun t _ => walk.of_type t) hxy.identified hiy.lt).and hbases) ?_
  rintro bases z ⟨hopen, hbases⟩ hyz
  have hbodyz := hbodyy.of_get?
    ((houty.mono d.bases_subset_written).frame hyz hiy.lt List.not_mem_nil)
  have houtz := houty.grow hyz.grows hiy.lt
  have hiz := hyz.grows.declares hiy
  refine .bind hyz.identified ((extended_runs (A := (· = i)) hiz.hosts.noAccessor hopen rfl).and
    (changeDetails_hasBody _ hbodyz)) ?_
  rintro _ v ⟨-, hbodyv⟩ hzv
  have houtv := houtz.grow hzv.grows hiz.lt
  have hiv := hzv.grows.declares hiz
  have hinterfaces := convertTypes_reads (x := v) (s := s.within i names) d.interfaces
  refine .bind hzv.identified ((convertTypes_runs (s := s.within i names)
    (fun t _ => walk.of_type t) hzv.identified hiv.lt).and hinterfaces) ?_
  rintro interfaces u ⟨hopen', hinterfaces⟩ hvu
  have hbodyu := hbodyv.of_get?
    ((houtv.mono d.interfaces_subset_written).frame hvu hiv.lt List.not_mem_nil)
  have hiu := hvu.grows.declares hiv
  refine .bind hvu.identified ((implemented_runs (A := (· = i)) hiu.hosts.noAccessor hopen'
    rfl).and (changeDetails_hasBody _ hbodyu)) ?_
  rintro _ t ⟨-, hbodyt⟩ hut
  refine .pure ⟨is, bases, interfaces, hbodyt, hbases, hinterfaces, fun hnone => ?_⟩
  -- None of the steps after the type parameters changes one of them.
  obtain ⟨rfl, hreads⟩ := hnew hnone
  have hreadsv := (hreads.beside hyz).grown hzv fun j hj => hj.ne_declaration hbodyz
  exact ⟨rfl, (hreadsv.beside hvu).grown hut fun j hj => hj.ne_declaration hbodyu⟩

/-- An alias has all type parameters that are written in sight of the type that it stands for. -/
theorem fillAlias_reads {d : Decl} {i : EntryId} {m : Members} {e : Details}
    (hx : x.atlas.Identified) (hno : x.atlas.NoAccessor i) (hout : x.atlas.Outside i d.written)
    (hbody : x.atlas.HasBody i (.declaration m e)) (hnew : e.type = none) :
    (fillAlias s d (fun i => convertTypeParams s i [] d.typeParameters)
      (fun s => convertType? s d.type) i).Gives x fun _ y => ∃ is type,
        y.atlas.HasBody i (.declaration m
          { e with type := type, typeParameters := e.typeParameters ++ is }) ∧
        type.map Ty.unnumbered =
          d.type.map (·.read (boundNames d.typeParameters ++ s.bound)) ∧
        y.atlas.ReadsTypeParams i s.bound d.typeParameters is := by
  have hknown : (x.atlas.details? i).bind (·.type) = none := by
    obtain ⟨entry, hget, hb⟩ := hbody
    rw [Atlas.details?, hget, Option.bind_some, Entry.details?, hb, Option.bind_some, hnew]
  refine .ask_bind ?_
  rw [hknown, Option.isSome_none, if_neg Bool.false_ne_true]
  refine .bind hx ((convertTypeParams_runs (fun p _ => typeParam_runs p) hx hno).and
    (convertTypeParams_declaration hx hno (hout.mono d.typeParameters_subset_written) hbody)) ?_
  rintro _ y ⟨-, rfl, is, hbodyy, hreads⟩ hxy
  have hnoy := hxy.grows.noAccessor hno
  have htype := convertType?_reads (x := y) (s := s.within i (boundNames d.typeParameters)) d.type
  refine .bind hxy.identified ((convertType?_runs
    (s := s.within i (boundNames d.typeParameters)) (fun t _ => walk.of_type t) hxy.identified
      hnoy.lt).and htype) ?_
  rintro type z ⟨hopen, htype⟩ hyz
  have hbodyz := hbodyy.of_get? (((hout.grow hxy.grows hno.lt).mono d.type_subset_written).frame
    hyz hnoy.lt List.not_mem_nil)
  have hset : (changeDetails i fun e => { e with type := type }).Runs z (· = i) fun _ _ => True :=
    setType_runs hopen rfl
  have hreadsv :=
    (hreads.beside hyz).grown (hset.grown hyz.identified) fun j hj => hj.ne_declaration hbodyz
  exact ⟨is, type, changeDetails_hasBody _ hbodyz, htype, hreadsv⟩

end Conv

/-- A type parameter that is named before it is written: a reference, which leads nowhere. -/
theorem forward_typeParameter_unread :
    let inSight : TypeExpr := { form := .reference, name := some "U" }
    let file : Source.File :=
      { name := "a.ts",
        decls :=
          [{ kind := .class, name := some "A", symbol := some "A",
             typeParameters := [{ name := "T", constraint := some inSight }, { name := "U" }],
             bases := [inSight] }] }
    let made := (Draft.ofFiles {} [file]).atlas
    (made.get? 1).map (·.ownTypes.map Ty.form) = some ["typeParameter"] ∧
      (made.get? 2).map (·.ownTypes.map Ty.form) = some ["reference"] ∧
      (made.get? 3).map (·.name) = some "U" ∧
      made.dangling = [(2, ⟨"U", none, none⟩)] := by
  decide +kernel

end ApiAtlas
