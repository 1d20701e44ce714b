import ApiAtlas.Json.Basic
import ApiAtlas.Ty.Basic

/-!
# Types as JSON

How a type is written. What stands for an inline declaration is left to the caller: its number
when a type is shown by itself, the whole declaration when the atlas is written.
-/

set_option autoImplicit false

namespace ApiAtlas.Ty

mutual

/-- A type as JSON; `expand` writes an inline declaration. -/
def toJsonM {m : Type → Type} [Monad m] (expand : EntryId → m Json) : Ty → m Json
  | .intrinsic name => pure (.obj [("type", .str "intrinsic"), ("name", .str name)])
  | .stringLiteral value => pure (.obj [("type", .str "stringLiteral"), ("value", .str value)])
  | .unknown name => pure (.obj [("type", .str "unknown"), ("name", .str name)])
  | .typeParameter name none => pure (.obj [("type", .str "typeParameter"), ("name", .str name)])
  | .typeParameter name (some c) => do
    let constraint ← c.toJsonM expand
    pure (.obj [("type", .str "typeParameter"), ("name", .str name), ("constraint", constraint)])
  | .reference name _ arguments target => do
    let written ← toJsonListM expand arguments
    pure (.obj ([("type", .str "reference"), ("name", .str name)] ++
      (match target with
        | some id => [("id", .nat id)]
        | none => []) ++
      Json.field "typeArguments" (.arr written)))
  | .literal declaration => do
    let written ← expand declaration
    pure (.obj [("type", .str "reflection"), ("declaration", written)])
  | .union types => do
    pure (.obj [("type", .str "union"), ("types", .arr (← toJsonListM expand types))])
  | .intersection types => do
    pure (.obj [("type", .str "intersection"), ("types", .arr (← toJsonListM expand types))])
  | .array element => do
    pure (.obj [("type", .str "array"), ("elementType", ← element.toJsonM expand)])
  | .tuple elements => do
    pure (.obj [("type", .str "tuple"), ("elements", .arr (← toJsonListM expand elements))])

/-- Types as JSON, in order. -/
def toJsonListM {m : Type → Type} [Monad m] (expand : EntryId → m Json) : List Ty → m (List Json)
  | [] => pure []
  | t :: ts => do
    let first ← t.toJsonM expand
    let rest ← toJsonListM expand ts
    pure (first :: rest)

end

/-- A type as JSON with inline declarations written by a function. -/
def toJsonWith (expand : EntryId → Json) (t : Ty) : Json :=
  Id.run (t.toJsonM fun id => pure (expand id))

/-- A type as JSON with inline declarations written by their number. -/
def toJson (t : Ty) : Json :=
  t.toJsonWith fun id => .obj [("id", .nat id)]

end ApiAtlas.Ty
