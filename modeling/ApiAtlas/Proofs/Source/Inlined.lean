import ApiAtlas.Proofs.Source.Standing

/-!
# Members of inline objects

The declarations that are written as members of an object inside a type: `inlinedOf` lists those
that occur anywhere in some declarations, however deep types and declarations are nested in each
other. Usually they are plain: properties, methods, accessors and signatures under symbols of their
own (`PlainInlined`).
-/

set_option autoImplicit false

namespace ApiAtlas.Source

mutual

/-- The members of the inline objects inside a written type. -/
def TypeExpr.inlined : TypeExpr → List Decl
  | ⟨form, _, _, arguments, members, signature, _⟩ =>
    inlinedOfTypes arguments ++ (if form = .object then members else []) ++ inlinedOf members ++
      inlinedOfSignature? signature

/-- The members of the inline objects inside written types. -/
def inlinedOfTypes : List TypeExpr → List Decl
  | [] => []
  | t :: ts => t.inlined ++ inlinedOfTypes ts

/-- The members of the inline objects inside a type that may be written. -/
def inlinedOfType? : Option TypeExpr → List Decl
  | none => []
  | some t => t.inlined

/-- The members of the inline objects inside a signature. -/
def Signature.inlined : Signature → List Decl
  | ⟨parameters, result, typeParameters⟩ =>
    inlinedOfTypeParams typeParameters ++ inlinedOfParams parameters ++ inlinedOfType? result

/-- The members of the inline objects inside a signature that may be written. -/
def inlinedOfSignature? : Option Signature → List Decl
  | none => []
  | some written => written.inlined

/-- The members of the inline objects inside the types of parameters. -/
def inlinedOfParams : List Param → List Decl
  | [] => []
  | ⟨_, type, _, _, _⟩ :: ps => inlinedOfType? type ++ inlinedOfParams ps

/-- The members of the inline objects inside the bounds of type parameters. -/
def inlinedOfTypeParams : List TypeParam → List Decl
  | [] => []
  | ⟨_, constraint, default⟩ :: ps =>
    inlinedOfType? constraint ++ inlinedOfType? default ++ inlinedOfTypeParams ps

/-- The members of the inline objects inside a declaration, in its types and below it. -/
def Decl.inlined : Decl → List Decl
  | ⟨_, _, _, children, _, type, signature, typeParameters, bases, interfaces, _, _, _, _, _, _⟩ =>
    inlinedOf children ++ inlinedOfType? type ++ inlinedOfSignature? signature ++
      inlinedOfTypeParams typeParameters ++ inlinedOfTypes bases ++ inlinedOfTypes interfaces

/-- The members of the inline objects inside some declarations. -/
def inlinedOf : List Decl → List Decl
  | [] => []
  | d :: ds => d.inlined ++ inlinedOf ds

end

/-- The members of inline objects in some declarations are those in each of them, in order. -/
theorem inlinedOf_eq_flatMap (ds : List Decl) : inlinedOf ds = ds.flatMap Decl.inlined := by
  induction ds with
  | nil => rfl
  | cons d ds ih => rw [inlinedOf, ih, List.flatMap_cons]

/-- The kinds of plain members. -/
def DeclKind.plainMembers : List DeclKind :=
  [.property, .method, .getAccessor, .setAccessor, .callSignature, .constructSignature,
    .indexSignature]

/-- Whether a declaration is a plain member of an inline object in a program: of one of these
kinds, and under no symbol of a declaration that stands in the program. -/
structure Decl.IsPlainMember (m : Decl) (ds : List Decl) : Prop where
  kind : m.kind ∈ DeclKind.plainMembers
  symbol : ∀ d ∈ standing ds, m.symbol ≠ none → d.symbol ≠ m.symbol

/-- Whether inline objects in a program only have plain members. -/
def PlainInlined (ds : List Decl) : Prop :=
  ∀ m ∈ inlinedOf ds, m.IsPlainMember ds

instance (m : Decl) (ds : List Decl) : Decidable (m.IsPlainMember ds) :=
  decidable_of_iff (m.kind ∈ DeclKind.plainMembers ∧
      ∀ d ∈ standing ds, m.symbol ≠ none → d.symbol ≠ m.symbol)
    ⟨fun h => ⟨h.1, h.2⟩, fun h => ⟨h.kind, h.symbol⟩⟩

instance (ds : List Decl) : Decidable (PlainInlined ds) :=
  inferInstanceAs (Decidable (∀ m ∈ inlinedOf ds, m.IsPlainMember ds))

end ApiAtlas.Source
