/-!
# Masks

Sets of named bits, held as natural numbers. An integer is read as such a set too: a negative one
stands for all bits but some.
-/

set_option autoImplicit false

namespace ApiAtlas

namespace Mask

/-- The room above zero in which a negative integer is counted down: the named bits, or all bits
that the integer reaches when it lies below them. -/
def room (width : Nat) (n : Int) : Nat :=
  if n.natAbs ≤ 1 <<< width then 1 <<< width else 1 <<< (n.natAbs.log2 + 1)

/-- The set that an integer stands for among `width` named bits. -/
def ofInt (width : Nat) (n : Int) : Nat :=
  if 0 ≤ n then n.toNat else (n + room width n).toNat

end Mask

end ApiAtlas
