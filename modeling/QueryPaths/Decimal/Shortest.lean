/-! # Shortest decimals

    A double stands for every real number that rounds to it. Among the decimals
    in that range, the one with the fewest digits is taken, and of several the
    nearest to the double. If two are equally near, a rule for ties decides.

    * **`Binary`**: a positive double as `mantissa * 2 ^ exponent`.
    * **`Tie`**: the rules for ties.
    * **`shortest`**: its shortest decimal, found grid by grid in exact
      arithmetic: on the grid of decimals with a given number of digits, only
      the two neighbours of the double need to be looked at.
-/

namespace QueryPaths.Decimal

/-- The positive number `mantissa * 2 ^ exponent`. -/
structure Binary where
  /-- The significant bits. -/
  mantissa : Nat
  /-- The power of two. -/
  exponent : Int
  deriving DecidableEq, Repr

/-- The number `digits * 10 ^ exponent`. -/
structure Scaled where
  /-- The digits, read as a number. -/
  digits : Nat
  /-- The power of ten. -/
  exponent : Int
  deriving DecidableEq, Repr

/-- A double's neighbourhood, all in parts of one denominator: the numbers from
    `low` to `high` round to `value`. -/
structure Neighbourhood where
  /-- The lower end. -/
  low : Nat
  /-- The double itself. -/
  value : Nat
  /-- The upper end. -/
  high : Nat
  /-- The common denominator. -/
  unit : Nat
  /-- Do the ends themselves round to the double? -/
  closed : Bool

/-- The power of two with this exponent. -/
def powerOfTwo (n : Nat) : Nat := 1 <<< n

/-- The power of ten with this exponent. -/
def powerOfTen (n : Nat) : Nat := Nat.pow 10 n

/-- **The numbers that round to a double.** Below a power of two the doubles lie
    twice as close. -/
def Binary.neighbourhood (b : Binary) : Neighbourhood :=
  let quarter := b.exponent - 2
  let scale := powerOfTwo quarter.toNat
  let below := if b.mantissa = powerOfTwo 52 ∧ b.exponent > -1074 then 1 else 2
  { low := (4 * b.mantissa - below) * scale
    value := 4 * b.mantissa * scale
    high := (4 * b.mantissa + 2) * scale
    unit := powerOfTwo (-quarter).toNat
    closed := b.mantissa % 2 == 0 }

/-- The exponent of the first digit of `num / den`, both positive. -/
def leadingExponent (num den : Nat) : Int :=
  let guess : Int := (Nat.toDigits 10 num).length - (Nat.toDigits 10 den).length
  if num * powerOfTen (-guess).toNat ≥ den * powerOfTen guess.toNat then guess else guess - 1

/-- The grid point `k * 10 ^ power`, if it rounds to the double. -/
def Neighbourhood.admits (n : Neighbourhood) (power : Int) (k : Nat) : Bool :=
  let point := k * powerOfTen power.toNat * n.unit
  let low := n.low * powerOfTen (-power).toNat
  let high := n.high * powerOfTen (-power).toNat
  if n.closed then low ≤ point && point ≤ high else low < point && point < high

/-- Which of two neighbours on a grid is taken if they are equally near. -/
inductive Tie where
  /-- The one that is an even number of steps from zero. -/
  | toEven
  /-- The one further from zero. -/
  | away
  deriving DecidableEq, Repr, Inhabited

/-- Does a tie go to the lower neighbour, which is `k` steps from zero? -/
def Tie.takesLower : Tie → Nat → Bool
  | .toEven, k => k % 2 == 0
  | .away, _ => false

/-- **The nearest point of the grid** of multiples of `10 ^ power` that rounds to
    the double. -/
def Neighbourhood.onGrid (n : Neighbourhood) (tie : Tie) (power : Int) : Option Scaled :=
  let value := n.value * powerOfTen (-power).toNat
  let step := powerOfTen power.toNat * n.unit
  let k := value / step
  let below := value - k * step
  let above := (k + 1) * step - value
  match n.admits power k, n.admits power (k + 1) with
  | true, true =>
    if below < above ∨ (below = above ∧ tie.takesLower k) then some ⟨k, power⟩
    else some ⟨k + 1, power⟩
  | true, false => some ⟨k, power⟩
  | false, true => some ⟨k + 1, power⟩
  | false, false => none

/-- Moves trailing zeros of the digits into the exponent. -/
def Scaled.strip (s : Scaled) : Scaled :=
  if h : s.digits ≠ 0 ∧ s.digits % 10 = 0 then
    Scaled.strip ⟨s.digits / 10, s.exponent + 1⟩
  else s
termination_by s.digits
decreasing_by exact Nat.div_lt_self (Nat.pos_of_ne_zero h.1) (by decide)

/-- **The shortest decimal** that rounds to the double. Seventeen digits always
    suffice. -/
def Binary.shortest (b : Binary) (tie : Tie) : Scaled :=
  let n := b.neighbourhood
  let lead := leadingExponent n.value n.unit
  let found := (List.range 17).findSome? fun (more : Nat) => n.onGrid tie (lead - more)
  (found.getD ⟨0, 0⟩).strip

end QueryPaths.Decimal
