/-! # Constant names

    A raw field name may be any text; the constant generated for it is an
    upper-case identifier with its words separated by underscores.

    * **`normalize`** turns every character that is neither an ASCII letter,
      an ASCII digit nor an underscore into an underscore.
    * **`words`** splits at underscores and at changes of letter case or
      between letters and digits. Empty words are kept, so underscores survive
      in number.
    * **`constantName`** joins the upper-cased words. A name without letters
      and digits becomes `FIELD`, and a leading digit gets an underscore in
      front.

    The result depends on the raw name alone, and different raw names may
    share it.
-/

namespace QueryPaths.Name

/-! ## Normalisation -/

/-- ASCII letters, ASCII digits and the underscore. -/
def isWordChar (c : Char) : Bool := c.isAlphanum || c == '_'

/-- Every character outside `isWordChar` becomes an underscore. -/
def normalize (raw : List Char) : List Char :=
  raw.map fun c => if isWordChar c then c else '_'

/-! ## Words -/

/-- **Word boundary**: does a word end after `a` when `rest` follows?

    * between a lower-case and an upper-case letter,
    * between a letter and a digit, and between a digit and a letter,
    * after an upper-case letter that an upper-case and then a lower-case
      letter follow, so that `HTTPServer` is `HTTP` and `Server`. -/
def endsWord (a : Char) : List Char → Bool
  | [] => false
  | b :: rest =>
    (a.isLower && b.isUpper) || (a.isLower && b.isDigit) || (a.isUpper && b.isDigit) ||
      (a.isDigit && b.isLower) || (a.isDigit && b.isUpper) ||
      (a.isUpper && b.isUpper && rest.head?.any Char.isLower)

/-- **The words of a normalised name**, empty ones included. There is always
    at least one. -/
def words : List Char → List (List Char)
  | [] => [[]]
  | c :: rest =>
    if c = '_' then [] :: words rest
    else
      match words rest with
      | [] => [[c]]
      | w :: ws => if endsWord c rest then [c] :: w :: ws else (c :: w) :: ws

/-! ## The constant name -/

/-- The upper-cased words of a normalised name, joined by underscores. -/
def upperSnake (name : List Char) : List Char :=
  ['_'].intercalate ((words name).map (·.map Char.toUpper))

/-- The name that stands in for one without a letter or digit. -/
def blankName : List Char := ['F', 'I', 'E', 'L', 'D']

/-- The last two repairs: a blank name is replaced, a leading digit is covered. -/
def repair (name : List Char) : List Char :=
  if name.all (· == '_') then blankName
  else if name.head?.any Char.isDigit then '_' :: name
  else name

/-- **The constant generated for a raw field name.** -/
def constantName (raw : String) : String :=
  String.ofList (repair (upperSnake (normalize raw.toList)))

end QueryPaths.Name
