import QueryPaths.Text.Quoted

/-! # String literals of the generated source

    A string literal shows its text as a quoted text does, with one
    difference: a NUL in front of an octal digit is written `\x00`, so that
    nobody takes the two for one octal escape.
-/

namespace QueryPaths.Source

/-- Does the text start with an octal digit? -/
def startsOctal : List Char → Bool
  | c :: _ => '0' ≤ c && c ≤ '7'
  | [] => false

/-- The text between the quotes. -/
def literalBody : List Char → List Char
  | [] => []
  | c :: rest =>
    (if c = '\x00' ∧ startsOctal rest = true then ['\\', 'x', '0', '0'] else Text.escapeChar c) ++
      literalBody rest

/-- **A string literal** with the given value. -/
def literal (s : String) : List Char := '"' :: literalBody s.toList ++ ['"']

end QueryPaths.Source
