import QueryPaths.Decimal.Shortest

/-! # Spelling of floating-point numbers

    A double is spelled by its shortest decimal. A format decides which numbers
    are written out in positional notation and which with an exponent, and where
    ties go.

    * **`Style`**: the decisions of a format.
    * **`spell`**: the spelling of a double.
-/

namespace QueryPaths.Decimal

/-- How a format spells numbers. A number that is not written out gets an exponent,
    which always has a sign. -/
structure Style where
  /-- The smallest and the largest exponent of the first digit that are written
      out; `none` if all are. -/
  positional : Option (Int × Int)
  /-- Which of two shortest decimals is taken if they are equally near. -/
  tie : Tie

/-- Is a number with that exponent of its first digit written out? -/
def Style.writesOut (style : Style) (lead : Int) : Bool :=
  match style.positional with
  | none => true
  | some (low, high) => low ≤ lead && lead ≤ high

/-- Digits written out, the first standing for `10 ^ lead`. There is always a
    digit on either side of the point. -/
def writeOut (digits : List Char) (lead : Int) : List Char :=
  if lead < 0 then '0' :: '.' :: (List.replicate (-lead - 1).toNat '0' ++ digits)
  else
    let whole := lead.toNat + 1
    let padded := digits ++ List.replicate (whole - digits.length) '0'
    let fraction := padded.drop whole
    padded.take whole ++ '.' :: (if fraction = [] then ['0'] else fraction)

/-- Digits with an exponent, and a point behind the first if there are more. -/
def writeExponent (digits : List Char) (lead : Int) : List Char :=
  let sign := if lead < 0 then '-' else '+'
  let tail := match digits with
    | first :: second :: rest => first :: '.' :: second :: rest
    | short => short
  tail ++ 'e' :: sign :: Nat.toDigits 10 lead.natAbs

/-- A positive number in a style. -/
def Scaled.spell (style : Style) (s : Scaled) : List Char :=
  let digits := Nat.toDigits 10 s.digits
  let lead := s.exponent + digits.length - 1
  if style.writesOut lead then writeOut digits lead else writeExponent digits lead

/-- The parts of a double: is it negative, and its magnitude unless that is zero,
    infinite or no number. -/
inductive Parts where
  | nan
  | infinite (negative : Bool)
  | zero (negative : Bool)
  | finite (negative : Bool) (magnitude : Binary)
  deriving DecidableEq, Repr

/-- **Takes a double apart** by its bits: one for the sign, eleven for the
    exponent, fifty-two for the fraction. -/
def Parts.ofBits (bits : Nat) : Parts :=
  let negative := bits >>> 63 % 2 == 1
  let exponent := bits >>> 52 % powerOfTwo 11
  let fraction := bits % powerOfTwo 52
  if exponent + 1 = powerOfTwo 11 then (if fraction = 0 then .infinite negative else .nan)
  else if exponent = 0 then
    (if fraction = 0 then .zero negative else .finite negative ⟨fraction, -1074⟩)
  else .finite negative ⟨fraction + powerOfTwo 52, (exponent : Int) - 1075⟩

/-- A minus sign if there is to be one. -/
def signText (negative : Bool) : String := if negative then "-" else ""

/-- **The spelling of a double.** -/
def spell (style : Style) (value : Float) : String :=
  match Parts.ofBits value.toBits.toNat with
  | .nan => "NaN"
  | .infinite negative => signText negative ++ "inf"
  | .zero negative => signText negative ++ "0.0"
  | .finite negative magnitude =>
    signText negative ++ String.ofList ((magnitude.shortest style.tie).spell style)

end QueryPaths.Decimal
