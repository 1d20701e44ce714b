import ApiAtlas.Proofs.Conversion.Gives
import ApiAtlas.Proofs.Ty.Renamed

/-!
# Readings of written types

What a written type is converted to depends on the type parameters in sight and on nothing that was
converted before, but for the numbers of its inline declarations (`Conv.convertType_reads`): it is
the reading of the type (`Source.TypeExpr.read`), where a name without type arguments is a type
parameter exactly if it is one of those in sight.
-/

set_option autoImplicit false

namespace ApiAtlas

open Source

namespace Ty

/-- The type with every inline declaration numbered 0. -/
def unnumbered (t : Ty) : Ty :=
  t.rename fun _ => 0

end Ty

namespace Source.TypeExpr

open Conv (nameOrText textOr)

mutual

/-- The type that a written type stands for when some type parameters are in sight, with every
inline declaration numbered 0. -/
def read (bound : List String) : TypeExpr → Ty
  | ⟨form, name, symbol, arguments, _, _, text⟩ =>
    match form with
    | .intrinsic => .intrinsic (nameOrText name text)
    | .reference =>
      if bound.contains (nameOrText name text) && arguments.isEmpty then
        .typeParameter (nameOrText name text) none
      else .reference (nameOrText name text) symbol (readAll bound arguments) none
    | .union => .union (readAll bound arguments)
    | .intersection => .intersection (readAll bound arguments)
    | .array =>
      match arguments with
      | [] => .unknown (textOr text "unknown[]")
      | element :: _ => .array (element.read bound)
    | .tuple => .tuple (readAll bound arguments)
    | .stringLiteral => .stringLiteral (name.getD "")
    | .object | .function => .literal 0
    | .unknown => .unknown (textOr text (nameOrText name "unknown"))

/-- The types that written types stand for, in order. -/
def readAll (bound : List String) : List TypeExpr → List Ty
  | [] => []
  | t :: ts => t.read bound :: readAll bound ts

end

/-- What holds of a written type when it holds of its arguments holds of every written type. -/
theorem induction_arguments {motive : TypeExpr → Prop}
    (step : ∀ t : TypeExpr, (∀ u ∈ t.arguments, motive u) → motive t) (t : TypeExpr) :
    motive t := by
  have steps : Steps motive (fun _ => True) fun _ => True := by
    constructor
    case type => exact fun t harguments _ _ => step t harguments
    case signature => exact fun _ _ => trivial
    case decl => exact fun _ _ _ _ _ _ _ => trivial
  exact steps.of_type t

end Source.TypeExpr

namespace Conv

open Source.TypeExpr (readAll)

variable {x : Draft} {s : Site}

/-- Converting a list of types yields their readings when converting each of them does. -/
theorem convertTypes_reads_of_mem {ts : List TypeExpr}
    (h : ∀ t ∈ ts, ∀ x, (convertType s t).Gives x fun ty _ => ty.unnumbered = t.read s.bound) :
    (convertTypes s ts).Gives x fun tys _ => tys.map Ty.unnumbered = readAll s.bound ts := by
  induction ts generalizing x with
  | nil => rfl
  | cons t ts ih =>
    obtain ⟨ht, hts⟩ := List.forall_mem_cons.1 h
    rw [convertTypes]
    exact congrArg₂ List.cons (ht x) (ih hts)

/-- A written type is converted to its reading. -/
theorem convertType_reads (t : TypeExpr) :
    (convertType s t).Gives x fun ty _ => ty.unnumbered = t.read s.bound := by
  induction t using TypeExpr.induction_arguments generalizing x with
  | step t ih =>
    obtain ⟨form, name, symbol, arguments, members, signature, text⟩ := t
    have args : Ty.renameList (fun _ => 0) ((convertTypes s arguments).run x).1 =
        readAll s.bound arguments :=
      (Ty.renameList_eq_map ..).trans (convertTypes_reads_of_mem fun u hu x => ih u hu)
    cases form with
    | intrinsic | stringLiteral | unknown => exact .pure rfl
    | union => exact congrArg Ty.union args
    | intersection => exact congrArg Ty.intersection args
    | tuple => exact congrArg Ty.tuple args
    | array =>
      cases arguments with
      | nil => exact .pure rfl
      | cons element rest => exact congrArg Ty.array (ih element (List.mem_cons_self ..))
    | reference =>
      rw [convertType, TypeExpr.read]
      split
      · exact .pure rfl
      · exact congrArg (Ty.reference _ symbol · none) args
    | object => rfl
    | function => cases signature <;> rfl

/-- Written types are converted to their readings. -/
theorem convertTypes_reads (ts : List TypeExpr) :
    (convertTypes s ts).Gives x fun tys _ => tys.map Ty.unnumbered = readAll s.bound ts :=
  convertTypes_reads_of_mem fun t _ _ => convertType_reads t

/-- A type that may be written is converted to its reading. -/
theorem convertType?_reads (t : Option TypeExpr) :
    (convertType? s t).Gives x fun ty _ => ty.map Ty.unnumbered = t.map (·.read s.bound) := by
  cases t with
  | none => rfl
  | some t => exact congrArg some (convertType_reads t)

end Conv

end ApiAtlas
