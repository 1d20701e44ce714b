import ApiAtlas.Proofs.Source.Standing

/-!
# Types inside types

A written type holds others: its arguments, the types of its signature and those of the members of
an inline object. `TypeExpr.within` lists a type with all that are inside it, and `Decl.types` does
so for the types that are written on a declaration. A property of all these types and one of the
declarations inside them are put together part by part (`TypeExpr.Holds`).
-/

set_option autoImplicit false

namespace ApiAtlas.Source

mutual

/-- A written type and all types inside it, at any depth. -/
def TypeExpr.within : TypeExpr → List TypeExpr
  | ⟨form, name, symbol, arguments, members, signature, text⟩ =>
    ⟨form, name, symbol, arguments, members, signature, text⟩ ::
      (withinTypes arguments ++ withinDecls members ++ withinSignature? signature)

/-- Written types and all types inside them. -/
def withinTypes : List TypeExpr → List TypeExpr
  | [] => []
  | t :: ts => t.within ++ withinTypes ts

/-- A type that may be written and all types inside it. -/
def withinType? : Option TypeExpr → List TypeExpr
  | none => []
  | some t => t.within

/-- The types inside a signature, at any depth. -/
def Signature.within : Signature → List TypeExpr
  | ⟨parameters, result, typeParameters⟩ =>
    withinParams parameters ++ withinType? result ++ withinTypeParams typeParameters

/-- The types inside a signature that may be written. -/
def withinSignature? : Option Signature → List TypeExpr
  | none => []
  | some w => w.within

/-- The types inside parameters. -/
def withinParams : List Param → List TypeExpr
  | [] => []
  | ⟨_, type, _, _, _⟩ :: ps => withinType? type ++ withinParams ps

/-- The types inside the constraints and defaults of type parameters. -/
def withinTypeParams : List TypeParam → List TypeExpr
  | [] => []
  | ⟨_, constraint, default⟩ :: ps =>
    withinType? constraint ++ withinType? default ++ withinTypeParams ps

/-- The types inside a declaration and the declarations below it. -/
def Decl.within : Decl → List TypeExpr
  | ⟨_, _, _, children, _, type, signature, typeParameters, bases, interfaces, _, _, _, _, _, _⟩ =>
    withinDecls children ++
      (withinType? type ++ withinSignature? signature ++ withinTypeParams typeParameters ++
        withinTypes bases ++ withinTypes interfaces)

/-- The types inside some declarations. -/
def withinDecls : List Decl → List TypeExpr
  | [] => []
  | d :: ds => d.within ++ withinDecls ds

end

/-- The types that are written on a declaration, at any depth, without those of its children. -/
def Decl.types (d : Decl) : List TypeExpr :=
  withinType? d.type ++ withinSignature? d.signature ++ withinTypeParams d.typeParameters ++
    withinTypes d.bases ++ withinTypes d.interfaces

/-- Whether the types that are directly written on a declaration satisfy a predicate. -/
structure Decl.AllTypes (P : TypeExpr → Prop) (d : Decl) : Prop where
  type : ∀ t ∈ d.type, P t
  signature : ∀ w ∈ d.signature, w.All P
  typeParameters : ∀ q ∈ d.typeParameters, q.All P
  bases : ∀ t ∈ d.bases, P t
  interfaces : ∀ t ∈ d.interfaces, P t

/-- Whether all types inside a type satisfy a predicate, and all declarations inside it another. -/
def TypeExpr.Holds (Q : TypeExpr → Prop) (R : Decl → Prop) (t : TypeExpr) : Prop :=
  (∀ u ∈ t.within, Q u) ∧ ∀ m ∈ t.decls, R m

variable {Q : TypeExpr → Prop} {R : Decl → Prop}

/-- The types inside a declaration are those inside its children and those written on it. -/
theorem Decl.within_eq (d : Decl) : d.within = withinDecls d.children ++ d.types := by
  cases d
  rw [within, types]

namespace Decl.AllTypes

variable {P : TypeExpr → Prop} {d : Decl}

/-- All types on a declaration without types satisfy anything. -/
theorem of_none (h : d.type = none ∧ d.signature = none ∧ d.typeParameters = [] ∧ d.bases = [] ∧
    d.interfaces = []) : d.AllTypes P := by
  obtain ⟨htype, hsignature, htypeParameters, hbases, hinterfaces⟩ := h
  exact ⟨by simp [htype], by simp [hsignature], by simp [htypeParameters], by simp [hbases],
    by simp [hinterfaces]⟩

/-- All types on a declaration satisfy what its own type and its type parameters do, if there are no
others. -/
theorem of_type (h : ∀ t ∈ d.type, P t) (htypeParameters : ∀ q ∈ d.typeParameters, q.All P)
    (hrest : d.signature = none ∧ d.bases = [] ∧ d.interfaces = []) : d.AllTypes P := by
  obtain ⟨hsignature, hbases, hinterfaces⟩ := hrest
  exact ⟨h, by simp [hsignature], htypeParameters, by simp [hbases], by simp [hinterfaces]⟩

/-- All types on a declaration satisfy what its type parameters and its heritage do, if there are no
others. -/
theorem of_heritage (htypeParameters : ∀ q ∈ d.typeParameters, q.All P)
    (hbases : ∀ t ∈ d.bases, P t) (hinterfaces : ∀ t ∈ d.interfaces, P t)
    (hrest : d.type = none ∧ d.signature = none) : d.AllTypes P := by
  obtain ⟨htype, hsignature⟩ := hrest
  exact ⟨by simp [htype], by simp [hsignature], htypeParameters, hbases, hinterfaces⟩

/-- All types on a declaration satisfy what those in its signature do, if there are no others. -/
theorem of_signature {w : Signature} (h : w.All P) (hsignature : d.signature = some w)
    (hrest : d.type = none ∧ d.typeParameters = [] ∧ d.bases = [] ∧ d.interfaces = []) :
    d.AllTypes P := by
  obtain ⟨htype, htypeParameters, hbases, hinterfaces⟩ := hrest
  exact ⟨by simp [htype], by simpa [hsignature] using h, by simp [htypeParameters],
    by simp [hbases], by simp [hinterfaces]⟩

end Decl.AllTypes

/-! ## Parts -/

/-- What is inside some types holds just when it holds inside each of them. -/
theorem holds_types (ts : List TypeExpr) :
    ((∀ u ∈ withinTypes ts, Q u) ∧ ∀ m ∈ declsOfTypes ts, R m) ↔ ∀ t ∈ ts, t.Holds Q R := by
  induction ts with
  | nil => simp [withinTypes, declsOfTypes]
  | cons t ts ih =>
    rw [List.forall_mem_cons, ← ih, withinTypes, declsOfTypes, List.forall_mem_append,
      List.forall_mem_append, TypeExpr.Holds]
    tauto

/-- What is inside a type that may be missing holds just when it holds inside the type. -/
theorem holds_type? (t : Option TypeExpr) :
    ((∀ u ∈ withinType? t, Q u) ∧ ∀ m ∈ declsOfType? t, R m) ↔ ∀ u ∈ t, u.Holds Q R := by
  cases t with
  | none => simp [withinType?, declsOfType?]
  | some t => simp [withinType?, declsOfType?, TypeExpr.Holds]

/-- What is inside parameters holds just when it holds inside their types. -/
theorem holds_params (ps : List Param) :
    ((∀ u ∈ withinParams ps, Q u) ∧ ∀ m ∈ declsOfParams ps, R m) ↔
      ∀ p ∈ ps, ∀ t ∈ p.type, t.Holds Q R := by
  induction ps with
  | nil => simp [withinParams, declsOfParams]
  | cons p ps ih =>
    obtain ⟨name, type, optional, rest, defaultValue⟩ := p
    rw [List.forall_mem_cons, ← ih, ← holds_type?, withinParams, declsOfParams,
      List.forall_mem_append, List.forall_mem_append]
    tauto

/-- What is inside type parameters holds just when it holds inside their constraints and defaults.
-/
theorem holds_typeParams (ps : List TypeParam) :
    ((∀ u ∈ withinTypeParams ps, Q u) ∧ ∀ m ∈ declsOfTypeParams ps, R m) ↔
      ∀ p ∈ ps, p.All (TypeExpr.Holds Q R) := by
  induction ps with
  | nil => simp [withinTypeParams, declsOfTypeParams]
  | cons p ps ih =>
    obtain ⟨name, constraint, default⟩ := p
    rw [List.forall_mem_cons, ← ih, TypeParam.All, ← holds_type?, ← holds_type?, withinTypeParams,
      declsOfTypeParams]
    simp only [List.forall_mem_append]
    tauto

/-- What is inside a signature holds just when it holds inside the types that are written in it. -/
theorem holds_signature (w : Signature) :
    ((∀ u ∈ w.within, Q u) ∧ ∀ m ∈ w.decls, R m) ↔ w.All (TypeExpr.Holds Q R) := by
  obtain ⟨parameters, result, typeParameters⟩ := w
  rw [Signature.All, ← holds_params, ← holds_type?, ← holds_typeParams, Signature.within,
    Signature.decls]
  simp only [List.forall_mem_append]
  tauto

/-- What is inside a signature that may be missing holds just when it holds inside the types that
are written in it. -/
theorem holds_signature? (w : Option Signature) :
    ((∀ u ∈ withinSignature? w, Q u) ∧ ∀ m ∈ declsOfSignature? w, R m) ↔
      ∀ v ∈ w, v.All (TypeExpr.Holds Q R) := by
  cases w with
  | none => simp [withinSignature?, declsOfSignature?]
  | some w => simp [withinSignature?, declsOfSignature?, ← holds_signature]

/-- What is inside some declarations holds when it holds of each of them and inside it. -/
theorem holds_members {ds : List Decl}
    (h : ∀ d ∈ ds, (∀ u ∈ d.within, Q u) ∧ R d ∧ ∀ k ∈ d.nested, R k) :
    (∀ u ∈ withinDecls ds, Q u) ∧ ∀ m ∈ declsOf ds, R m := by
  induction ds with
  | nil => simp [withinDecls, declsOf]
  | cons d ds ih =>
    obtain ⟨⟨hwithin, hd, hnested⟩, hds⟩ := List.forall_mem_cons.1 h
    obtain ⟨hwithins, hdecls⟩ := ih hds
    rw [withinDecls, declsOf, List.forall_mem_append, List.forall_mem_cons, List.forall_mem_append]
    exact ⟨⟨hwithin, hwithins⟩, hd, hnested, hdecls⟩

/-- What holds inside the types of a declaration holds of its types, and the other way round. -/
theorem Decl.allTypes_holds (d : Decl) :
    d.AllTypes (TypeExpr.Holds Q R) ↔ (∀ u ∈ d.types, Q u) ∧ ∀ m ∈ d.written, R m := by
  have hparts : d.AllTypes (TypeExpr.Holds Q R) ↔
      (∀ t ∈ d.type, t.Holds Q R) ∧ (∀ w ∈ d.signature, w.All (TypeExpr.Holds Q R)) ∧
        (∀ q ∈ d.typeParameters, q.All (TypeExpr.Holds Q R)) ∧ (∀ t ∈ d.bases, t.Holds Q R) ∧
        ∀ t ∈ d.interfaces, t.Holds Q R :=
    ⟨fun ⟨ht, hw, hp, hb, hi⟩ => ⟨ht, hw, hp, hb, hi⟩,
      fun ⟨ht, hw, hp, hb, hi⟩ => ⟨ht, hw, hp, hb, hi⟩⟩
  rw [hparts, ← holds_type?, ← holds_signature?, ← holds_typeParams, ← holds_types, ← holds_types,
    Decl.types, Decl.written]
  simp only [List.forall_mem_append]
  tauto

/-- What holds inside a type holds of it, of its arguments, of what its members are and hold, and of
its signature. -/
theorem TypeExpr.holds_of_parts {t : TypeExpr} (htype : Q t)
    (harguments : ∀ u ∈ t.arguments, u.Holds Q R)
    (hmembers : ∀ m ∈ t.members, (∀ u ∈ m.within, Q u) ∧ R m ∧ ∀ k ∈ m.nested, R k)
    (hsignature : ∀ w ∈ t.signature, w.All (TypeExpr.Holds Q R)) : t.Holds Q R := by
  obtain ⟨form, name, symbol, arguments, members, signature, text⟩ := t
  have hdecls := holds_members hmembers
  have hold := (holds_types arguments).2 harguments
  have hnew := (holds_signature? signature).2 hsignature
  rw [TypeExpr.Holds, within, decls]
  simp only [List.forall_mem_cons, List.forall_mem_append]
  exact ⟨⟨htype, ⟨hold.1, hdecls.1⟩, hnew.1⟩, ⟨hold.2, hdecls.2⟩, hnew.2⟩

/-! ## Declarations -/

/-- What occurs in a program stands there, or it is written inside a type of what stands there. -/
theorem mem_declsOf_iff_standing {m : Decl} {ds : List Decl} :
    m ∈ declsOf ds ↔ ∃ d ∈ standing ds, m = d ∨ m ∈ d.written := by
  induction ds using decls_induction with
  | nil => simp [declsOf, standing]
  | cons d ds ihchildren ih =>
    rw [declsOf, Decl.nested_eq, standing, Decl.inner_eq]
    simp only [List.mem_cons, List.mem_append, ihchildren, ih, or_and_right, exists_or,
      exists_eq_left]
    rw [or_comm (a := ∃ e ∈ standing d.children, _), or_assoc, or_assoc]

end ApiAtlas.Source
