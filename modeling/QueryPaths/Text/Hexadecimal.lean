/-! # Hexadecimal digits

    The values of the digits `0` to `9`, `a` to `f` and `A` to `F`.
-/

namespace QueryPaths.Text

/-- **The value of a hexadecimal digit.** -/
def hexDigit? (c : Char) : Option Nat :=
  if c.isDigit then some (c.toNat - '0'.toNat)
  else if 'a' ≤ c ∧ c ≤ 'f' then some (c.toNat - 'a'.toNat + 10)
  else if 'A' ≤ c ∧ c ≤ 'F' then some (c.toNat - 'A'.toNat + 10)
  else none

end QueryPaths.Text
