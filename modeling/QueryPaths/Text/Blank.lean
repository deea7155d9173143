/-! # White space

    The Unicode property `White_Space`: the characters that separate words in
    any script. It is stable, so the list is short and final.
-/

namespace QueryPaths.Text

/-- **Is `c` white space?** -/
def isWhiteSpace (c : Char) : Bool :=
  let n := c.toNat
  (0x09 ≤ n && n ≤ 0x0d) || n == 0x20 || n == 0x85 || n == 0xa0 || n == 0x1680 ||
    (0x2000 ≤ n && n ≤ 0x200a) || n == 0x2028 || n == 0x2029 || n == 0x202f || n == 0x205f ||
    n == 0x3000

end QueryPaths.Text
