import ApiAtlas.Source.Decl
import Mathlib.Tactic.Common

/-!
# Declarations inside declarations

A declaration holds others as its children and in the types that are written on it, and these hold
others in turn. `Decl.nested` lists all of them, `Decl.written` those that stand inside the written
types. Declarations are `Apart` when none of them has, inside a type, a declaration of its own
symbol.
-/

set_option autoImplicit false

namespace ApiAtlas.Source

mutual

/-- The declarations inside a written type, at any depth. -/
def TypeExpr.decls : TypeExpr → List Decl
  | ⟨_, _, _, arguments, members, signature, _⟩ =>
    declsOfTypes arguments ++ declsOf members ++ declsOfSignature? signature

/-- The declarations inside written types. -/
def declsOfTypes : List TypeExpr → List Decl
  | [] => []
  | t :: ts => t.decls ++ declsOfTypes ts

/-- The declarations inside a type that may be written. -/
def declsOfType? : Option TypeExpr → List Decl
  | none => []
  | some t => t.decls

/-- The declarations inside a signature, at any depth. -/
def Signature.decls : Signature → List Decl
  | ⟨parameters, result, typeParameters⟩ =>
    declsOfTypeParams typeParameters ++ declsOfParams parameters ++ declsOfType? result

/-- The declarations inside a signature that may be written. -/
def declsOfSignature? : Option Signature → List Decl
  | none => []
  | some written => written.decls

/-- The declarations inside the types of parameters. -/
def declsOfParams : List Param → List Decl
  | [] => []
  | ⟨_, type, _, _, _⟩ :: ps => declsOfType? type ++ declsOfParams ps

/-- The declarations inside the constraints and defaults of type parameters. -/
def declsOfTypeParams : List TypeParam → List Decl
  | [] => []
  | ⟨_, constraint, default⟩ :: ps =>
    declsOfType? constraint ++ declsOfType? default ++ declsOfTypeParams ps

/-- The declarations below a declaration, at any depth. -/
def Decl.nested : Decl → List Decl
  | ⟨_, _, _, children, _, type, signature, typeParameters, bases, interfaces, _, _, _, _, _, _⟩ =>
    declsOf children ++
      (declsOfType? type ++ declsOfSignature? signature ++ declsOfTypeParams typeParameters ++
        declsOfTypes bases ++ declsOfTypes interfaces)

/-- Some declarations and all that are below them. -/
def declsOf : List Decl → List Decl
  | [] => []
  | d :: ds => d :: (d.nested ++ declsOf ds)

end

namespace Decl

/-- The declarations inside the types that are written on a declaration: its own type, its
signature, its type parameters and its heritage. -/
def written (d : Decl) : List Decl :=
  declsOfType? d.type ++ declsOfSignature? d.signature ++ declsOfTypeParams d.typeParameters ++
    declsOfTypes d.bases ++ declsOfTypes d.interfaces

/-- Below a declaration are its children with what is below them, and what is written on it. -/
theorem nested_eq (d : Decl) : d.nested = declsOf d.children ++ d.written := by
  cases d
  rw [nested, written]

/-- What is written on a declaration is below it. -/
theorem written_subset_nested (d : Decl) : d.written ⊆ d.nested := by
  rw [nested_eq]
  exact List.subset_append_right _ _

/-- The children of a declaration are below it. -/
theorem children_subset_nested (d : Decl) : declsOf d.children ⊆ d.nested := by
  rw [nested_eq]
  exact List.subset_append_left _ _

/-- What is inside the type of a declaration is written on it. -/
theorem type_subset_written (d : Decl) : declsOfType? d.type ⊆ d.written := by
  intro m hm
  simp [written, hm]

/-- What is inside the signature of a declaration is written on it. -/
theorem signature_subset_written (d : Decl) : declsOfSignature? d.signature ⊆ d.written := by
  intro m hm
  simp [written, hm]

/-- What is inside the type parameters of a declaration is written on it. -/
theorem typeParameters_subset_written (d : Decl) :
    declsOfTypeParams d.typeParameters ⊆ d.written := by
  intro m hm
  simp [written, hm]

/-- What is inside the bases of a declaration is written on it. -/
theorem bases_subset_written (d : Decl) : declsOfTypes d.bases ⊆ d.written := by
  intro m hm
  simp [written, hm]

/-- What is inside the interfaces of a declaration is written on it. -/
theorem interfaces_subset_written (d : Decl) : declsOfTypes d.interfaces ⊆ d.written := by
  intro m hm
  simp [written, hm]

end Decl

/-- Some declarations with all that is below them are these and what is below each of them. -/
theorem mem_declsOf {m : Decl} {ds : List Decl} :
    m ∈ declsOf ds ↔ ∃ d ∈ ds, m = d ∨ m ∈ d.nested := by
  induction ds with
  | nil => simp [declsOf]
  | cons d ds ih => simp [declsOf, ih, or_assoc]

/-- What is in and below two lists of declarations is what is in and below the first one and then
the second one. -/
theorem declsOf_append (ds es : List Decl) : declsOf (ds ++ es) = declsOf ds ++ declsOf es := by
  induction ds with
  | nil => rfl
  | cons d ds ih => simp [declsOf, ih]

/-! ## Induction -/

/-- Whether the types that are written on a type parameter satisfy a predicate. -/
def TypeParam.All (P : TypeExpr → Prop) (p : TypeParam) : Prop :=
  (∀ t ∈ p.constraint, P t) ∧ ∀ t ∈ p.default, P t

/-- Whether the types that are written in a signature satisfy a predicate. -/
def Signature.All (P : TypeExpr → Prop) (w : Signature) : Prop :=
  (∀ p ∈ w.parameters, ∀ t ∈ p.type, P t) ∧ (∀ t ∈ w.result, P t) ∧
    ∀ p ∈ w.typeParameters, p.All P

/-- Predicates of types, signatures and declarations that hold of each when they hold of its
parts. The parts of a declaration are also those of its signature, since an accessor may take its
type from there. -/
structure Steps (P : TypeExpr → Prop) (Q : Signature → Prop) (R : Decl → Prop) : Prop where
  type : ∀ t : TypeExpr, (∀ u ∈ t.arguments, P u) → (∀ d ∈ t.members, R d) →
    (∀ w ∈ t.signature, Q w) → P t
  signature : ∀ w : Signature, w.All P → Q w
  decl : ∀ d : Decl, (∀ c ∈ d.children, R c) → (∀ t ∈ d.type, P t) →
    (∀ w ∈ d.signature, Q w ∧ w.All P) → (∀ p ∈ d.typeParameters, p.All P) →
    (∀ t ∈ d.bases, P t) → (∀ t ∈ d.interfaces, P t) → R d

namespace Steps

variable {P : TypeExpr → Prop} {Q : Signature → Prop} {R : Decl → Prop}

mutual

/-- What steps to a type from its parts holds of every type. -/
theorem of_type (h : Steps P Q R) : ∀ t, P t
  | ⟨_, _, _, arguments, members, signature, _⟩ =>
    h.type _ (h.of_types arguments) (h.of_decls members)
      fun w hw => (h.of_signature? signature w hw).1

/-- What steps to a type from its parts holds of every type in a list. -/
theorem of_types (h : Steps P Q R) : ∀ ts : List TypeExpr, ∀ t ∈ ts, P t
  | [] => nofun
  | t :: ts => List.forall_mem_cons.2 ⟨h.of_type t, h.of_types ts⟩

/-- What steps to a type from its parts holds of every type that may be missing. -/
theorem of_type? (h : Steps P Q R) : ∀ t : Option TypeExpr, ∀ u ∈ t, P u
  | none => nofun
  | some t => fun _ hu => Option.mem_some.1 hu ▸ h.of_type t

/-- What steps to a type from its parts holds of all types in a signature. -/
theorem of_signature (h : Steps P Q R) : ∀ w : Signature, w.All P
  | ⟨parameters, result, typeParameters⟩ =>
    ⟨h.of_params parameters, h.of_type? result, h.of_typeParams typeParameters⟩

/-- What steps to a signature from its parts holds of every signature that may be missing, and of
all types in it. -/
theorem of_signature? (h : Steps P Q R) : ∀ w : Option Signature, ∀ v ∈ w, Q v ∧ v.All P
  | none => nofun
  | some w => fun _ hv =>
    Option.mem_some.1 hv ▸ ⟨h.signature w (h.of_signature w), h.of_signature w⟩

/-- What steps to a type from its parts holds of the types of all parameters. -/
theorem of_params (h : Steps P Q R) : ∀ ps : List Param, ∀ p ∈ ps, ∀ t ∈ p.type, P t
  | [] => nofun
  | ⟨_, type, _, _, _⟩ :: ps => List.forall_mem_cons.2 ⟨h.of_type? type, h.of_params ps⟩

/-- What steps to a type from its parts holds of all types on type parameters. -/
theorem of_typeParams (h : Steps P Q R) : ∀ ps : List TypeParam, ∀ p ∈ ps, p.All P
  | [] => nofun
  | ⟨_, constraint, default⟩ :: ps =>
    List.forall_mem_cons.2 ⟨⟨h.of_type? constraint, h.of_type? default⟩, h.of_typeParams ps⟩

/-- What steps to a declaration from its parts holds of every declaration. -/
theorem of_decl (h : Steps P Q R) : ∀ d, R d
  | ⟨_, _, _, children, _, type, signature, typeParameters, bases, interfaces, _, _, _, _, _, _⟩ =>
    h.decl _ (h.of_decls children) (h.of_type? type) (h.of_signature? signature)
      (h.of_typeParams typeParameters) (h.of_types bases) (h.of_types interfaces)

/-- What steps to a declaration from its parts holds of every declaration in a list. -/
theorem of_decls (h : Steps P Q R) : ∀ ds : List Decl, ∀ d ∈ ds, R d
  | [] => nofun
  | d :: ds => List.forall_mem_cons.2 ⟨h.of_decl d, h.of_decls ds⟩

end

end Steps

/-! ## What stands inside -/

/-- Whether some declarations are listed together with all that stands inside each of them. -/
def Closed (ds : List Decl) : Prop :=
  ∀ d ∈ ds, (d :: d.nested).Sublist ds

/-- No declarations are closed. -/
theorem closed_nil : Closed [] :=
  nofun

/-- Two closed lists of declarations are closed together. -/
theorem Closed.append {ds es : List Decl} (h : Closed ds) (h' : Closed es) : Closed (ds ++ es) := by
  intro d hd
  rcases List.mem_append.1 hd with hd | hd
  · exact (h d hd).trans (List.sublist_append_left ds es)
  · exact (h' d hd).trans (List.sublist_append_right ds es)

/-- A declaration is closed together with what is below it. -/
theorem Closed.cons {d : Decl} (h : Closed d.nested) : Closed (d :: d.nested) := by
  intro e he
  rcases List.mem_cons.1 he with rfl | he
  · exact .refl _
  · exact (h e he).cons d

mutual

/-- The declarations inside a type are closed. -/
theorem closed_type : ∀ t : TypeExpr, Closed t.decls
  | ⟨_, _, _, arguments, members, signature, _⟩ =>
    ((closed_types arguments).append (closed_decls members)).append (closed_signature? signature)

/-- The declarations inside types are closed. -/
theorem closed_types : ∀ ts : List TypeExpr, Closed (declsOfTypes ts)
  | [] => closed_nil
  | t :: ts => (closed_type t).append (closed_types ts)

/-- The declarations inside a type that may be missing are closed. -/
theorem closed_type? : ∀ t : Option TypeExpr, Closed (declsOfType? t)
  | none => closed_nil
  | some t => closed_type t

/-- The declarations inside a signature are closed. -/
theorem closed_signature : ∀ w : Signature, Closed w.decls
  | ⟨parameters, result, typeParameters⟩ =>
    ((closed_typeParams typeParameters).append (closed_params parameters)).append
      (closed_type? result)

/-- The declarations inside a signature that may be missing are closed. -/
theorem closed_signature? : ∀ w : Option Signature, Closed (declsOfSignature? w)
  | none => closed_nil
  | some w => closed_signature w

/-- The declarations inside the types of parameters are closed. -/
theorem closed_params : ∀ ps : List Param, Closed (declsOfParams ps)
  | [] => closed_nil
  | ⟨_, type, _, _, _⟩ :: ps => (closed_type? type).append (closed_params ps)

/-- The declarations inside the constraints and defaults of type parameters are closed. -/
theorem closed_typeParams : ∀ ps : List TypeParam, Closed (declsOfTypeParams ps)
  | [] => closed_nil
  | ⟨_, constraint, default⟩ :: ps =>
    ((closed_type? constraint).append (closed_type? default)).append (closed_typeParams ps)

/-- The declarations below a declaration are closed. -/
theorem closed_nested : ∀ d : Decl, Closed d.nested
  | ⟨_, _, _, children, _, type, signature, typeParameters, bases, interfaces, _, _, _, _, _, _⟩ =>
    (closed_decls children).append
      (((((closed_type? type).append (closed_signature? signature)).append
        (closed_typeParams typeParameters)).append (closed_types bases)).append
          (closed_types interfaces))

/-- Declarations with all that is below them are closed. -/
theorem closed_decls : ∀ ds : List Decl, Closed (declsOf ds)
  | [] => closed_nil
  | d :: ds => (closed_nested d).cons.append (closed_decls ds)

end

/-! ## Declarations of other symbols -/

/-- Whether a declaration carries a symbol. -/
def Decl.Carries (d : Decl) (s : String) : Prop :=
  d.symbol = some s

/-- No declaration inside a type carries the symbol of a declaration around that type: if `n` is
one of the given declarations and `k` is `n` itself or below it, then nothing inside the types
written on `k` carries the symbol of `n`. -/
def Apart (ds : List Decl) : Prop :=
  ∀ n ∈ ds, ∀ k ∈ n :: n.nested, ∀ m ∈ k.written, ∀ s, m.Carries s → ¬ n.Carries s

/-- Of declarations that stand apart, some alone stand apart too. -/
theorem Apart.mono {ds es : List Decl} (h : Apart es) (hsub : ds ⊆ es) : Apart ds :=
  fun n hn => h n (hsub hn)

/-- Declarations stand apart if what is written on each of them, or on one below it, has another
symbol or none. -/
theorem apart_iff {ds : List Decl} :
    Apart ds ↔ ∀ n ∈ ds, ∀ k ∈ n :: n.nested, ∀ m ∈ k.written,
      m.symbol = none ∨ m.symbol ≠ n.symbol := by
  refine forall₂_congr fun n _ => forall₂_congr fun k _ => forall₂_congr fun m _ => ?_
  unfold Decl.Carries
  cases hm : m.symbol with
  | none => simp
  | some s => simp [eq_comm]

instance (ds : List Decl) : Decidable (Apart ds) :=
  decidable_of_iff _ apart_iff.symm

end ApiAtlas.Source
