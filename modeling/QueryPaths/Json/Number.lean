import QueryPaths.Decimal.Spelling
import QueryPaths.Json.Error

/-! # Numbers in JSON documents

    * **`NumberText`**: a number as it is written.
    * **`lexNumber`** takes one from the front of a text. What is wrong with it
      is told apart by whether the number is wanted or passed over: a text that
      ends inside a number is cut short for the one, a bad number for the other.
    * **`NumberText.found`**: the number that is meant. Whole numbers of up to
      sixty-four bits are exact, all others are doubles.
-/

namespace QueryPaths.Json

/-! ## Written numbers -/

/-- A number as it is written. -/
structure NumberText where
  /-- Is there a minus sign? -/
  negative : Bool
  /-- The digits before the point. -/
  whole : List Char
  /-- The digits behind the point, if there is one. -/
  fraction : Option (List Char) := none
  /-- The sign and the digits of the exponent, if there is one. -/
  exponent : Option (Option Char × List Char) := none
  deriving DecidableEq, Repr, Inhabited

/-- **The text of a number.** -/
def NumberText.chars (n : NumberText) : List Char :=
  (if n.negative then ['-'] else []) ++ n.whole ++
    (match n.fraction with
      | none => []
      | some digits => '.' :: digits) ++
    match n.exponent with
    | none => []
    | some (sign, digits) => 'e' :: sign.toList ++ digits

/-- A fault of a number, as it is for a reader who wants the number and for one
    who passes it over. -/
structure Mishap where
  /-- The fault if the value is wanted. -/
  wanted : Fault
  /-- The fault if it is passed over. -/
  skipped : Fault
  deriving DecidableEq, Repr, Inhabited

/-- The fault of a missing digit. -/
def missingDigit (rest : List Char) : Mishap :=
  ⟨if rest = [] then .valueCut else .badNumber, .badNumber⟩

/-- The longest run of digits at the front, and the text behind it. -/
def digitRun (s : List Char) : List Char × List Char :=
  (s.takeWhile Char.isDigit, s.dropWhile Char.isDigit)

/-- The run is split off, and nothing is lost. -/
theorem length_digitRun (s : List Char) :
    (digitRun s).1.length + (digitRun s).2.length = s.length := by
  simp only [digitRun, ← List.length_append, List.takeWhile_append_dropWhile]

/-- The digits at the front, at least one. -/
def lexDigits (s : List Char) : Except Mishap (List Char × List Char) :=
  if (digitRun s).1 = [] then .error (missingDigit (digitRun s).2) else .ok (digitRun s)

theorem length_of_lexDigits {s digits rest : List Char} (h : lexDigits s = .ok (digits, rest)) :
    rest.length < s.length := by
  have run := length_digitRun s
  unfold lexDigits at h
  split at h
  · simp at h
  · rename_i some_digit
    have := List.length_pos_iff.2 some_digit
    simp only [Except.ok.injEq] at h
    rw [h] at run this
    simp only at run this
    omega

/-- The sign at the front, if there is one. -/
def lexSign : List Char → Option Char × List Char
  | '+' :: rest => (some '+', rest)
  | '-' :: rest => (some '-', rest)
  | s => (none, s)

theorem length_lexSign (s : List Char) : (lexSign s).2.length ≤ s.length := by
  unfold lexSign
  split <;> simp

/-- The exponent at the front, if there is one. -/
def lexExponent (n : NumberText) : List Char → Except Mishap (NumberText × List Char)
  | [] => .ok (n, [])
  | e :: s =>
    if e = 'e' ∨ e = 'E' then do
      let (digits, rest) ← lexDigits (lexSign s).2
      return ({ n with exponent := some ((lexSign s).1, digits) }, rest)
    else .ok (n, e :: s)

theorem length_of_lexExponent {n m : NumberText} {s rest : List Char}
    (h : lexExponent n s = .ok (m, rest)) : rest.length ≤ s.length := by
  cases s with
  | nil => simp_all [lexExponent]
  | cons e s =>
    simp only [lexExponent] at h
    split at h
    · cases hd : lexDigits (lexSign s).2 with
      | error _ => simp [hd, bind, Except.bind] at h
      | ok found =>
        have : found.2.length < (lexSign s).2.length := length_of_lexDigits hd
        have := length_lexSign s
        simp only [hd, bind, Except.bind, pure, Except.pure, Except.ok.injEq, Prod.mk.injEq] at h
        rw [← h.2, List.length_cons]
        omega
    · simp_all

/-- The fraction at the front, if there is one, and what follows. -/
def lexFraction (n : NumberText) : List Char → Except Mishap (NumberText × List Char)
  | '.' :: s => do
    let (digits, rest) ← lexDigits s
    lexExponent { n with fraction := some digits } rest
  | s => lexExponent n s

theorem length_of_lexFraction {n m : NumberText} {s rest : List Char}
    (h : lexFraction n s = .ok (m, rest)) : rest.length ≤ s.length := by
  unfold lexFraction at h
  split at h
  · rename_i s
    cases hd : lexDigits s with
    | error _ => simp [hd, bind, Except.bind] at h
    | ok found =>
      have : found.2.length < s.length := length_of_lexDigits hd
      simp only [hd, bind, Except.bind] at h
      have := length_of_lexExponent h
      rw [List.length_cons]
      omega
  · exact length_of_lexExponent h

/-- **The number at the front**, behind its sign, and the text behind it. A zero
    stands alone before the point. -/
def lexNumber (negative : Bool) : List Char → Except Mishap (NumberText × List Char)
  | '0' :: s =>
    if s.head?.any Char.isDigit then .error ⟨.badNumber, .badNumber⟩
    else lexFraction ⟨negative, ['0'], none, none⟩ s
  | s => do
    let (digits, rest) ← lexDigits s
    lexFraction ⟨negative, digits, none, none⟩ rest

/-- **A number is more than nothing.** -/
theorem length_of_lexNumber {negative : Bool} {m : NumberText} {s rest : List Char}
    (h : lexNumber negative s = .ok (m, rest)) : rest.length < s.length := by
  unfold lexNumber at h
  split at h
  · split at h
    · simp at h
    · have := length_of_lexFraction h
      rw [List.length_cons]
      omega
  · cases hd : lexDigits s with
    | error _ => simp [hd, bind, Except.bind] at h
    | ok found =>
      have : found.2.length < _ := length_of_lexDigits hd
      simp only [hd, bind, Except.bind] at h
      have := length_of_lexFraction h
      omega

/-! ## The number that is meant -/

/-- The largest whole number of sixty-four bits. -/
def maxWord : Nat := UInt64.size - 1

/-- The value of a digit. -/
def digitValue (c : Char) : Nat := c.toNat - '0'.toNat

/-- **Reads digits onto a significand** while it fits into sixty-four bits, and
    counts the digits that do not fit any more. -/
def gather (significand : Nat) : List Char → Nat × List Char
  | [] => (significand, [])
  | c :: rest =>
    let more := significand * 10 + digitValue c
    if more > maxWord then (significand, c :: rest) else gather more rest

/-- The double of a power of ten. -/
def powerOfTen (n : Nat) : Float := Float.ofScientific 1 false n

/-- Divides by a power of ten, in steps that a double can hold. -/
def divideDown (value : Float) (power : Nat) : Float :=
  if power ≤ 308 then value / powerOfTen power
  else if value == 0 then value
  else divideDown (value / powerOfTen 308) (power - 308)
termination_by power

/-- **The double of a significand and a power of ten**, unless it is too large. -/
def scaleDouble (significand : Nat) (power : Int) : Except Fault Float :=
  let value := significand.toUInt64.toFloat
  if power < 0 then .ok (divideDown value (-power).toNat)
  else if power > 308 then (if significand = 0 then .ok value else .error .numberRange)
  else
    let scaled := value * powerOfTen power.toNat
    if scaled.isInf then .error .numberRange else .ok scaled

/-- The largest exponent that is still counted. -/
def maxExponent : Nat := UInt32.size / 2 - 1

/-- The double of a number with digits before and behind the point and an
    exponent. -/
def NumberText.double (n : NumberText) : Except Fault Float :=
  let (head, dropped) := gather 0 n.whole
  let fraction := n.fraction.getD []
  let (significand, ignored) := gather head fraction
  let power : Int := dropped.length - (fraction.length - ignored.length : Nat)
  match n.exponent with
  | none => scaleDouble significand power
  | some (sign, digits) =>
    let size := digits.foldl (fun acc c => acc * 10 + digitValue c) 0
    if size > maxExponent then
      if significand ≠ 0 ∧ sign ≠ some '-' then .error .numberRange else .ok 0
    else scaleDouble significand (if sign = some '-' then power - size else power + size)

/-- JSON numbers are written out from five places behind the point up to sixteen
    before it, and ties go to the even digit. -/
def numberStyle : Decimal.Style := ⟨some (-5, 15), .toEven⟩

/-- How the double of a number is spelled, with its sign. -/
def spellSigned (negative : Bool) (value : Float) : String :=
  Decimal.spell numberStyle (if negative then -value else value)

/-- **The number that is meant.** Without a point and an exponent it is whole as
    far as sixty-four bits go; minus zero is not whole. -/
def NumberText.found (n : NumberText) : Except Fault Decode.Found :=
  let floating := n.double.map fun value => .floating (spellSigned n.negative value)
  match n.fraction, n.exponent, gather 0 n.whole with
  | none, none, (value, []) =>
    if !n.negative then .ok (.integer value)
    else if value ≠ 0 ∧ value ≤ UInt64.size / 2 then .ok (.integer (-value))
    else floating
  | _, _, _ => floating

end QueryPaths.Json
