import ApiAtlas.Json.Basic
import ApiAtlas.Mask

/-!
# Flags

The properties that modifiers give to an entry. Flags are a set of bits; merging declarations
unites their sets.
-/

set_option autoImplicit false

namespace ApiAtlas

/-- One property of an entry. -/
inductive Flag where
  | isExported
  | isPrivate
  | isProtected
  | isPublic
  | isStatic
  | isAbstract
  | isOptional
  | isRest
  | isExternal
  | isReadonly
  | isConst
  deriving DecidableEq, Repr, Inhabited

namespace Flag

/-- The flags in the order of their bits, each with the modifier that sets it and the key under
which it is written. -/
def table : List (Flag × String × String) :=
  [(.isExported, "export", "isExported"),
   (.isPrivate, "private", "isPrivate"),
   (.isProtected, "protected", "isProtected"),
   (.isPublic, "public", "isPublic"),
   (.isStatic, "static", "isStatic"),
   (.isAbstract, "abstract", "isAbstract"),
   (.isOptional, "optional", "isOptional"),
   (.isRest, "rest", "isRest"),
   (.isExternal, "external", "isExternal"),
   (.isReadonly, "readonly", "isReadonly"),
   (.isConst, "const", "isConst")]

/-- The bit of a flag. -/
def bit : Flag → Nat
  | .isExported => 0x1
  | .isPrivate => 0x2
  | .isProtected => 0x4
  | .isPublic => 0x8
  | .isStatic => 0x10
  | .isAbstract => 0x20
  | .isOptional => 0x40
  | .isRest => 0x80
  | .isExternal => 0x100
  | .isReadonly => 0x200
  | .isConst => 0x400

end Flag

/-- A set of flags. -/
structure Flags where
  bits : Nat
  deriving DecidableEq, Repr, Inhabited

namespace Flags

/-- No flag. -/
def none : Flags := ⟨0⟩

/-- The set of some flags. -/
def ofList (flags : List Flag) : Flags :=
  ⟨flags.foldl (fun n f => n ||| f.bit) 0⟩

/-- The set that an integer stands for. -/
def ofInt (n : Int) : Flags :=
  ⟨Mask.ofInt Flag.table.length n⟩

/-- All flags of two sets. -/
def union (a b : Flags) : Flags :=
  ⟨a.bits ||| b.bits⟩

/-- The flags that two sets share. -/
def inter (a b : Flags) : Flags :=
  ⟨a.bits &&& b.bits⟩

/-- Whether a flag is set. -/
def has (a : Flags) (f : Flag) : Bool :=
  a.bits &&& f.bit != 0

/-- Whether two sets share a flag. -/
def meets (a b : Flags) : Bool :=
  (a.inter b).bits != 0

/-- The flags that modifiers set; other modifiers set none. -/
def ofModifiers (modifiers : List String) : Flags :=
  ofList (modifiers.filterMap fun m => (Flag.table.find? fun row => row.2.1 == m).map (·.1))

/-- The flags as JSON, one true field for each. -/
def toJson (a : Flags) : Json :=
  .obj ((Flag.table.filter fun row => a.has row.1).map fun row => (row.2.2, .bool true))

end Flags

end ApiAtlas
