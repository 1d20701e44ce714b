/-!
# Hexadecimal digits

Numbers written in base sixteen with small letters and leading zeros up to a least width.
-/

set_option autoImplicit false

namespace ApiAtlas.Text

/-- The lowest `width` hexadecimal digits of a number, most significant first. -/
def hexDigits (width n : Nat) : List Char :=
  (List.range width).map fun i => Nat.digitChar (n >>> (4 * (width - 1 - i)) % 16)

end ApiAtlas.Text
