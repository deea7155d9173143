import QueryPaths.Text.Hexadecimal

/-! # Numbers in TOML documents

    Whole numbers are written in base ten with or without a sign, or without
    one in base two, eight or sixteen. A number with a fraction or an exponent is
    a real number, and so are the words for infinity and for no number.
    Underscores may stand between digits.

    * **`wholeNumber?`**, **`Real.ofChars?`**: the numbers that texts stand for.
    * **`isWord`**, **`Real.isRepresentable`**: do numbers fit into sixty-four
      bits?
    * **`Real.toFloat`**: the double of a real number.
    * **`isMisspelt`**: is it a whole number with characters that are no digits?
-/

namespace QueryPaths.Toml

open Text (hexDigit?)

/-! ## Digits -/

/-- The value of a digit in a base of at most sixteen. -/
def digit? (base : Nat) (c : Char) : Option Nat :=
  match hexDigit? c with
  | some d => if d < base then some d else none
  | none => none

/-- **Digits**, at least one, with single underscores between them: their values. -/
def digits? (base : Nat) : List Char → Option (List Nat)
  | [] => none
  | [c] => (digit? base c).map ([·])
  | c :: '_' :: rest => do
    let d ← digit? base c
    let ds ← digits? base rest
    return d :: ds
  | c :: rest => do
    let d ← digit? base c
    let ds ← digits? base rest
    return d :: ds

/-- The number that digits stand for. -/
def ofDigits (base : Nat) (digits : List Nat) : Nat :=
  digits.foldl (fun acc d => acc * base + d) 0

/-- The sign at the front, and the text behind it. -/
def takeSign : List Char → Option Char × List Char
  | '+' :: rest => (some '+', rest)
  | '-' :: rest => (some '-', rest)
  | s => (none, s)

/-- Decimal digits without a zero in front of others. -/
def plainDigits? (s : List Char) : Option (List Nat) := do
  let digits ← digits? 10 s
  if digits.length > 1 ∧ digits.head? = some 0 then none else some digits

/-! ## Whole numbers -/

/-- **The whole number** that a text stands for. -/
def wholeNumber? (s : List Char) : Option Int :=
  match s with
  | '0' :: 'x' :: rest => (digits? 16 rest).map fun ds => ofDigits 16 ds
  | '0' :: 'o' :: rest => (digits? 8 rest).map fun ds => ofDigits 8 ds
  | '0' :: 'b' :: rest => (digits? 2 rest).map fun ds => ofDigits 2 ds
  | s =>
    let (sign, rest) := takeSign s
    (plainDigits? rest).map fun ds =>
      if sign = some '-' then -(ofDigits 10 ds : Int) else ofDigits 10 ds

/-- Half of the words of sixty-four bits stand for numbers that are not negative. -/
def wordBound : Nat := UInt64.size / 2

/-- Does a whole number fit into a signed word of sixty-four bits? -/
def isWord (n : Int) : Bool := -(wordBound : Int) ≤ n && n < wordBound

/-! ## Real numbers -/

/-- A real number as it is written. -/
inductive Real where
  | nan
  | infinite (negative : Bool)
  /-- The number `digits * 10 ^ exponent`, or its negative. -/
  | decimal (negative : Bool) (digits : List Nat) (exponent : Int)
  deriving DecidableEq, Repr, Inhabited

/-- The exponent of a number, behind its letter. -/
def exponent? (s : List Char) : Option Int :=
  let (sign, rest) := takeSign s
  (digits? 10 rest).map fun ds =>
    if sign = some '-' then -(ofDigits 10 ds : Int) else ofDigits 10 ds

/-- Is it the letter before an exponent? -/
def isExponentMark (c : Char) : Bool := c == 'e' || c == 'E'

/-- The real number that a text without a sign stands for: digits, then a fraction
    or an exponent or both. -/
def decimal? (negative : Bool) (s : List Char) : Option Real := do
  let significand := s.takeWhile (!isExponentMark ·)
  let exponent ←
    match s.dropWhile (!isExponentMark ·) with
    | [] => some none
    | _ :: rest => (exponent? rest).map some
  let whole ← plainDigits? (significand.takeWhile (· != '.'))
  match significand.dropWhile (· != '.'), exponent with
  | [], none => none
  | [], some e => return .decimal negative whole e
  | _ :: rest, e =>
    let fraction ← digits? 10 rest
    return .decimal negative (whole ++ fraction) (e.getD 0 - fraction.length)

/-- **The real number** that a text stands for. -/
def Real.ofChars? (s : List Char) : Option Real :=
  let (sign, rest) := takeSign s
  let negative := sign == some '-'
  if rest = ['i', 'n', 'f'] then some (.infinite negative)
  else if rest = ['n', 'a', 'n'] then some .nan
  else decimal? negative rest

/-- Decimal exponents beyond this one lie outside the doubles. -/
def maxExponent : Int := 400

/-- The double of a number without a sign. Far outside the doubles the exponent
    alone decides. -/
def magnitude (digits : List Nat) (exponent : Int) : Float :=
  let significant := digits.dropWhile (· == 0)
  let top : Int := significant.length + exponent
  if significant = [] ∨ top < -maxExponent then 0
  else if top > maxExponent then 1 / 0
  else
    let value := ofDigits 10 significant
    if exponent < 0 then Float.ofScientific value true (-exponent).toNat
    else Float.ofScientific value false exponent.toNat

/-- **The double of a real number.** -/
def Real.toFloat : Real → Float
  | .nan => 0 / 0
  | .infinite negative => if negative then -(1 / 0) else 1 / 0
  | .decimal negative digits exponent =>
    let value := magnitude digits exponent
    if negative then -value else value

/-- Is there a double for the number, infinity standing for itself only? -/
def Real.isRepresentable : Real → Bool
  | .nan | .infinite _ => true
  | .decimal _ digits exponent => !(magnitude digits exponent).isInf

/-! ## Misspelt numbers -/

/-- Do underscores stand between digits only? Those of base sixteen will do. -/
def separatesDigits : List Char → Bool
  | [] => true
  | [c] => c != '_'
  | c :: d :: rest =>
    (c != '_' || (hexDigit? d).isSome) && (d != '_' || (hexDigit? c).isSome) &&
      separatesDigits (d :: rest)

/-- Does the text begin with plain digits and an underscore? -/
def beginsWithGroup (s : List Char) : Bool :=
  let first := s.takeWhile Char.isDigit
  first != [] && first.head? != some '0' && (s.dropWhile Char.isDigit).head? == some '_'

/-- Does the character tell that a text is no whole number? It belongs to real
    numbers, or stands between a date and a time of day. -/
def leavesWhole (c : Char) : Bool := c == '.' || isExponentMark c || c == ' '

/-- **Is it a misspelt whole number?** It begins like one, with the name of a base
    and nothing behind it, or with digits and an underscore. By that alone it is
    known for a whole number, but some of its characters are no digits. -/
def isMisspelt (s : List Char) : Bool :=
  s == ['0', 'x'] || s == ['0', 'o'] || s == ['0', 'b'] ||
    (beginsWithGroup (takeSign s).2 && separatesDigits s && !s.any leavesWhole)

end QueryPaths.Toml
