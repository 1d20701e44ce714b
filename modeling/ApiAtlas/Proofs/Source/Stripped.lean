import ApiAtlas.Conversion.Program
import ApiAtlas.Proofs.Source.Nesting

/-!
# Programs with declarations left out

A program without the declarations that a test tells to drop, at any depth: among the children of
declarations and among the members of types that are written in place. The test is told whether
the declaration stands at the top, that is directly in a file, a module or a namespace.
-/

set_option autoImplicit false

namespace ApiAtlas.Source

/-- Whether what stands directly in a declaration of a kind stands at the top. -/
def DeclKind.opensTop (k : DeclKind) : Bool :=
  k = .module || k = .namespace

/-- Whether a kind is that of declarations with an entry of their own. Signatures of a declaration
have none, and neither has what is not described. -/
def DeclKind.isDeclared (k : DeclKind) : Bool :=
  k != .callSignature && k != .constructSignature && k != .indexSignature && k != .other

mutual

/-- The type without the declarations to drop. -/
def TypeExpr.strip (drop : Bool → Decl → Bool) : TypeExpr → TypeExpr
  | ⟨form, name, symbol, arguments, members, signature, text⟩ =>
    ⟨form, name, symbol, stripTypes drop arguments, stripDecls drop false members,
      stripSignature? drop signature, text⟩

/-- The types without the declarations to drop. -/
def stripTypes (drop : Bool → Decl → Bool) : List TypeExpr → List TypeExpr
  | [] => []
  | t :: ts => t.strip drop :: stripTypes drop ts

/-- The type that may be written, without the declarations to drop. -/
def stripType? (drop : Bool → Decl → Bool) : Option TypeExpr → Option TypeExpr
  | none => none
  | some t => some (t.strip drop)

/-- The signature without the declarations to drop. -/
def Signature.strip (drop : Bool → Decl → Bool) : Signature → Signature
  | ⟨parameters, result, typeParameters⟩ =>
    ⟨stripParams drop parameters, stripType? drop result, stripTypeParams drop typeParameters⟩

/-- The signature that may be written, without the declarations to drop. -/
def stripSignature? (drop : Bool → Decl → Bool) : Option Signature → Option Signature
  | none => none
  | some w => some (w.strip drop)

/-- The parameters without the declarations to drop. -/
def stripParams (drop : Bool → Decl → Bool) : List Param → List Param
  | [] => []
  | ⟨name, type, optional, rest, defaultValue⟩ :: ps =>
    ⟨name, stripType? drop type, optional, rest, defaultValue⟩ :: stripParams drop ps

/-- The type parameters without the declarations to drop. -/
def stripTypeParams (drop : Bool → Decl → Bool) : List TypeParam → List TypeParam
  | [] => []
  | ⟨name, constraint, default⟩ :: ps =>
    ⟨name, stripType? drop constraint, stripType? drop default⟩ :: stripTypeParams drop ps

/-- The declaration without the declarations to drop below it. -/
def Decl.strip (drop : Bool → Decl → Bool) : Decl → Decl
  | ⟨kind, name, symbol, children, modifiers, type, signature, typeParameters, bases, interfaces,
      comment, defaultValue, origin, file, line, form⟩ =>
    ⟨kind, name, symbol, stripDecls drop kind.opensTop children, modifiers, stripType? drop type,
      stripSignature? drop signature, stripTypeParams drop typeParameters, stripTypes drop bases,
      stripTypes drop interfaces, comment, defaultValue, origin, file, line, form⟩

/-- Some declarations without those to drop; `top` tells whether they stand at the top. -/
def stripDecls (drop : Bool → Decl → Bool) (top : Bool) : List Decl → List Decl
  | [] => []
  | d :: ds =>
    if drop top d then stripDecls drop top ds else d.strip drop :: stripDecls drop top ds

end

/-- The file without the declarations to drop. -/
def File.strip (drop : Bool → Decl → Bool) (f : File) : File :=
  { f with decls := stripDecls drop true f.decls }

variable (drop : Bool → Decl → Bool)

/-! ## What stays -/

namespace Decl

variable (d : Decl)

/-- Dropping what stands in a declaration leaves its kind. -/
@[simp]
theorem strip_kind : (d.strip drop).kind = d.kind := by
  cases d
  rw [strip]

/-- Dropping what stands in a declaration leaves its symbol. -/
@[simp]
theorem strip_symbol : (d.strip drop).symbol = d.symbol := by
  cases d
  rw [strip]

/-- Dropping what stands in a declaration leaves its modifiers. -/
@[simp]
theorem strip_modifiers : (d.strip drop).modifiers = d.modifiers := by
  cases d
  rw [strip]

/-- Dropping what stands in a declaration leaves its comment. -/
@[simp]
theorem strip_comment : (d.strip drop).comment = d.comment := by
  cases d
  rw [strip]

/-- Dropping what stands in a declaration leaves its origin. -/
@[simp]
theorem strip_origin : (d.strip drop).origin = d.origin := by
  cases d
  rw [strip]

/-- Dropping what stands in a declaration leaves its file. -/
@[simp]
theorem strip_file : (d.strip drop).file = d.file := by
  cases d
  rw [strip]

/-- Dropping what stands in a declaration leaves its line. -/
@[simp]
theorem strip_line : (d.strip drop).line = d.line := by
  cases d
  rw [strip]

end Decl

/-- A type is written still when declarations are dropped from it. -/
@[simp]
theorem isSome_stripType? (t : Option TypeExpr) : (stripType? drop t).isSome = t.isSome := by
  cases t <;> rfl

/-! ## Nothing to drop -/

/-- The test that drops nothing. -/
def keepAll : Bool → Decl → Bool := fun _ _ => false

/-- Whether a type is as it was when nothing is dropped from it. -/
def TypeExpr.IsWhole (t : TypeExpr) : Prop :=
  t.strip keepAll = t

/-- Types that are whole stay as they are when nothing is dropped. -/
theorem stripTypes_eq {ts : List TypeExpr} (h : ∀ t ∈ ts, t.IsWhole) :
    stripTypes keepAll ts = ts := by
  induction ts with
  | nil => rfl
  | cons t ts ih =>
    obtain ⟨ht, hts⟩ := List.forall_mem_cons.1 h
    rw [stripTypes, ih hts]
    exact congrArg (· :: ts) ht

/-- A whole type that may be missing stays as it is when nothing is dropped. -/
theorem stripType?_eq {t : Option TypeExpr} (h : ∀ u ∈ t, u.IsWhole) :
    stripType? keepAll t = t := by
  cases t with
  | none => rfl
  | some t => exact congrArg some (h t rfl)

/-- Type parameters with whole types stay as they are when nothing is dropped. -/
theorem stripTypeParams_eq {ps : List TypeParam} (h : ∀ p ∈ ps, p.All TypeExpr.IsWhole) :
    stripTypeParams keepAll ps = ps := by
  induction ps with
  | nil => rfl
  | cons p ps ih =>
    obtain ⟨name, constraint, default⟩ := p
    obtain ⟨⟨hc, hd⟩, hps⟩ := List.forall_mem_cons.1 h
    rw [stripTypeParams, ih hps, stripType?_eq hc, stripType?_eq hd]

/-- Parameters with whole types stay as they are when nothing is dropped. -/
theorem stripParams_eq {ps : List Param} (h : ∀ p ∈ ps, ∀ t ∈ p.type, t.IsWhole) :
    stripParams keepAll ps = ps := by
  induction ps with
  | nil => rfl
  | cons p ps ih =>
    obtain ⟨name, type, optional, rest, defaultValue⟩ := p
    obtain ⟨hp, hps⟩ := List.forall_mem_cons.1 h
    rw [stripParams, ih hps, stripType?_eq hp]

/-- A whole signature that may be missing stays as it is when nothing is dropped. -/
theorem stripSignature?_eq {w : Option Signature} (h : ∀ v ∈ w, v.strip keepAll = v) :
    stripSignature? keepAll w = w := by
  cases w with
  | none => rfl
  | some w => exact congrArg some (h w rfl)

/-- Declarations stay as they are when nothing is dropped, if each of them does. -/
theorem stripDecls_eq {top : Bool} {ds : List Decl} (h : ∀ d ∈ ds, d.strip keepAll = d) :
    stripDecls keepAll top ds = ds := by
  induction ds with
  | nil => rfl
  | cons d ds ih =>
    obtain ⟨hd, hds⟩ := List.forall_mem_cons.1 h
    rw [stripDecls, ih hds, hd]
    rfl

/-- Types, signatures and declarations stay as they are when nothing is dropped, if their parts do.
-/
theorem steps_whole :
    Steps TypeExpr.IsWhole (fun w => w.strip keepAll = w) fun d => d.strip keepAll = d where
  type t ha hm hw := by
    obtain ⟨form, name, symbol, arguments, members, signature, text⟩ := t
    rw [TypeExpr.IsWhole, TypeExpr.strip, stripTypes_eq ha, stripDecls_eq hm, stripSignature?_eq hw]
  signature w h := by
    obtain ⟨parameters, result, typeParameters⟩ := w
    obtain ⟨hps, hr, htps⟩ := h
    rw [Signature.strip, stripParams_eq hps, stripType?_eq hr, stripTypeParams_eq htps]
  decl d hc ht hw hp hb hi := by
    obtain ⟨kind, name, symbol, children, modifiers, type, signature, typeParameters, bases,
      interfaces, comment, defaultValue, origin, file, line, form⟩ := d
    rw [Decl.strip, stripDecls_eq hc, stripType?_eq ht, stripSignature?_eq fun w h => (hw w h).1,
      stripTypeParams_eq hp, stripTypes_eq hb, stripTypes_eq hi]

/-- Dropping nothing leaves declarations as they are. -/
theorem stripDecls_keepAll (top : Bool) (ds : List Decl) : stripDecls keepAll top ds = ds :=
  stripDecls_eq fun d _ => steps_whole.of_decl d

/-! ## Files -/

/-- A file stays as it is when nothing is dropped. -/
theorem File.strip_keepAll (f : File) : f.strip keepAll = f := by
  rw [File.strip, stripDecls_keepAll]

/-- Files stay as they are when nothing is dropped. -/
theorem File.map_strip_keepAll (files : List File) : files.map (File.strip keepAll) = files :=
  (List.map_congr_left fun f _ => f.strip_keepAll).trans (List.map_id files)

/-- The declarations that a file without those to drop contributes, if its module stays. -/
theorem File.topDecls_strip {drop : Bool → Decl → Bool} {f : File}
    (hmodule : drop true f.toModule = false) (mode : Mode) :
    (f.strip drop).topDecls mode = stripDecls drop true (f.topDecls mode) := by
  cases mode with
  | file => rfl
  | modules =>
    change [(f.strip drop).toModule] = stripDecls drop true [f.toModule]
    rw [stripDecls, hmodule, stripDecls]
    rfl

end ApiAtlas.Source
