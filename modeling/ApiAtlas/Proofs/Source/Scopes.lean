import ApiAtlas.Proofs.Source.Literals
import ApiAtlas.Proofs.Source.Stripped
import ApiAtlas.Source.Inheritance

/-!
# Scopes around types

The scopes in which the types of a declaration are written are those of the modules and namespaces
around it, innermost first. A namespace adds its symbol to them and a module starts them anew; what
is declared for the whole program from inside stands in the outermost scope alone.
-/

set_option autoImplicit false

namespace ApiAtlas.Source

/-- The scopes inside a declaration of a kind and a symbol. -/
def DeclKind.scopesInside (k : DeclKind) (symbol : Option String) (scopes : List String) :
    List String :=
  match k with
  | .namespace => symbol.getD "" :: scopes
  | .module => [symbol.getD "", ""]
  | _ => scopes

/-- Whether a declaration stands in the outermost scope, by its symbol. -/
def Decl.IsGlobal (d : Decl) : Prop :=
  d.symbol = none ∨ d.symbol = d.name

mutual

/-- Whether the types on a declaration and on those below it satisfy a relation with the scopes
that they are written in. -/
def Decl.Scoped (R : List String → TypeExpr → Prop) (scopes : List String) : Decl → Prop
  | ⟨kind, _, symbol, children, _, type, signature, typeParameters, bases, interfaces, _, _, _, _,
      _, _⟩ =>
    (∀ t ∈ withinType? type ++ withinSignature? signature ++ withinTypeParams typeParameters ++
      withinTypes bases ++ withinTypes interfaces, R scopes t) ∧
    ScopedAmong R (kind.scopesInside symbol scopes) kind.opensTop children

/-- Whether the types on some declarations and on those below them satisfy a relation with the
scopes that they are written in; `top` tells whether the declarations may stand in the outermost
scope instead. -/
def ScopedAmong (R : List String → TypeExpr → Prop) (scopes : List String) (top : Bool) :
    List Decl → Prop
  | [] => True
  | d :: ds =>
    (d.Scoped R scopes ∨ top = true ∧ d.IsGlobal ∧ d.Scoped R [""]) ∧ ScopedAmong R scopes top ds

end

/-- The scopes at the top of a file: its module, if it is one, and the outermost scope. -/
def File.scopes (f : File) : List String :=
  f.moduleSymbol.toList ++ [""]

/-- Whether the types in a file satisfy a relation with the scopes that they are written in. -/
def File.Scoped (R : List String → TypeExpr → Prop) (f : File) : Prop :=
  ScopedAmong R f.scopes true f.decls

variable {R R' : List String → TypeExpr → Prop} {scopes : List String} {top : Bool}

/-- Declarations are scoped if each of them is, or is global and scoped in the outermost scope where
that may be. -/
theorem scopedAmong_iff {ds : List Decl} : ScopedAmong R scopes top ds ↔
    ∀ d ∈ ds, d.Scoped R scopes ∨ top = true ∧ d.IsGlobal ∧ d.Scoped R [""] := by
  induction ds with
  | nil => simp [ScopedAmong]
  | cons d ds ih => rw [ScopedAmong, ih, List.forall_mem_cons]

/-- A declaration is scoped if its types are read in the scopes, and its children are scoped in
those inside it. -/
theorem Decl.scoped_iff {d : Decl} : d.Scoped R scopes ↔ (∀ t ∈ d.types, R scopes t) ∧
    ScopedAmong R (d.kind.scopesInside d.symbol scopes) d.kind.opensTop d.children := by
  cases d
  rw [Scoped, types]

/-- Declarations that are scoped still are with less required of their types. -/
theorem ScopedAmong.mono {ds : List Decl} (hR : ∀ scopes t, R scopes t → R' scopes t)
    (h : ScopedAmong R scopes top ds) : ScopedAmong R' scopes top ds := by
  induction ds using decls_induction generalizing scopes top with
  | nil => trivial
  | cons d ds ihchildren ih =>
    have hd : ∀ {scopes}, d.Scoped R scopes → d.Scoped R' scopes := fun hd => by
      rw [Decl.scoped_iff] at hd ⊢
      exact ⟨fun t ht => hR _ t (hd.1 t ht), ihchildren hd.2⟩
    rw [ScopedAmong] at h ⊢
    exact ⟨h.1.imp hd fun ⟨htop, hglobal, hscoped⟩ => ⟨htop, hglobal, hd hscoped⟩, ih h.2⟩

/-- What opens no top scope has the scopes around it inside. -/
theorem DeclKind.scopesInside_eq {k : DeclKind} (h : k.opensTop = false) (symbol : Option String)
    (scopes : List String) : k.scopesInside symbol scopes = scopes := by
  cases k <;> first | rfl | cases h

end ApiAtlas.Source
