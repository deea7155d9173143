/-! # Dates and times in TOML documents

    A moment is a date, a time of day, or both, and then perhaps with the offset
    of a time zone.

    * **`Date`**, **`Clock`**, **`Moment`**: the data.
    * **`Moment.ofChars?`**: the moment that a text stands for.
-/

namespace QueryPaths.Toml

/-! ## Data -/

/-- A day. -/
structure Date where
  /-- The year, of four digits. -/
  year : Nat
  /-- The month, from one. -/
  month : Nat
  /-- The day of the month, from one. -/
  day : Nat
  deriving DecidableEq, Repr, Inhabited

/-- A time of day. -/
structure Clock where
  /-- The hour. -/
  hour : Nat
  /-- The minute. -/
  minute : Nat
  /-- The second, if it is given; one may be leapt to at the end of a minute. -/
  second : Option Nat
  /-- The digits of the fraction of a second. -/
  fraction : List Char
  deriving DecidableEq, Repr, Inhabited

/-- An offset from universal time. -/
inductive Offset where
  /-- Universal time itself. -/
  | universal
  /-- So many minutes ahead, or behind if negative. -/
  | minutes (ahead : Int)
  deriving DecidableEq, Repr, Inhabited

/-- A date, a time of day, or both. -/
inductive Moment where
  | date (date : Date)
  | clock (clock : Clock)
  /-- A date and a time of day, with an offset if one is given. -/
  | both (date : Date) (clock : Clock) (offset : Option Offset)
  deriving DecidableEq, Repr, Inhabited

/-- Is it a year with a twenty-ninth of February? -/
def isLeapYear (year : Nat) : Bool :=
  year % 4 == 0 && (year % 100 != 0 || year % 400 == 0)

/-- The number of days of a month. -/
def daysIn (year month : Nat) : Nat :=
  match month with
  | 2 => if isLeapYear year then 29 else 28
  | 4 | 6 | 9 | 11 => 30
  | _ => 31

/-- Is there such a day? -/
def Date.isValid (d : Date) : Bool :=
  1 ≤ d.month && d.month ≤ 12 && 1 ≤ d.day && d.day ≤ daysIn d.year d.month

/-- Is there such a time? -/
def Clock.isValid (c : Clock) : Bool :=
  c.hour ≤ 23 && c.minute ≤ 59 && c.second.all (· ≤ 60)

/-! ## Reading -/

/-- A number of exactly `count` digits, and the text behind it. -/
def fixedNumber? (count : Nat) (s : List Char) : Option (Nat × List Char) :=
  let digits := s.take count
  if digits.length = count ∧ digits.all Char.isDigit then
    some (digits.foldl (fun acc c => acc * 10 + (c.toNat - '0'.toNat)) 0, s.drop count)
  else none

/-- The text behind a certain character. -/
def behind? (c : Char) : List Char → Option (List Char)
  | d :: rest => if d = c then some rest else none
  | [] => none

/-- A date, and the text behind it. -/
def takeDate? (s : List Char) : Option (Date × List Char) := do
  let (year, s) ← fixedNumber? 4 s
  let (month, s) ← fixedNumber? 2 (← behind? '-' s)
  let (day, s) ← fixedNumber? 2 (← behind? '-' s)
  let date : Date := ⟨year, month, day⟩
  if date.isValid then some (date, s) else none

/-- The fraction of a second, if there is one, and the text behind it. -/
def takeFraction? : List Char → Option (List Char × List Char)
  | '.' :: rest =>
    let digits := rest.takeWhile Char.isDigit
    if digits = [] then none else some (digits, rest.dropWhile Char.isDigit)
  | s => some ([], s)

/-- A time of day, and the text behind it. -/
def takeClock? (s : List Char) : Option (Clock × List Char) := do
  let (hour, s) ← fixedNumber? 2 s
  let (minute, s) ← fixedNumber? 2 (← behind? ':' s)
  let (clock, s) ←
    match s with
    | ':' :: s => do
      let (second, s) ← fixedNumber? 2 s
      let (fraction, s) ← takeFraction? s
      some (Clock.mk hour minute (some second) fraction, s)
    | s => some (Clock.mk hour minute none [], s)
  if clock.isValid then some (clock, s) else none

/-- An offset that ends the text, if there is one. Its hours and minutes are those
    of a time of day. -/
def offset? (s : List Char) : Option (Option Offset) :=
  match s with
  | [] => some none
  | ['Z'] | ['z'] => some (some .universal)
  | sign :: s => do
    let (hours, s) ← fixedNumber? 2 s
    let (minutes, s) ← fixedNumber? 2 (← behind? ':' s)
    let total := hours * 60 + minutes
    if s ≠ [] ∨ hours > 23 ∨ minutes > 59 then none
    else if sign = '+' then some (some (.minutes total))
    else if sign = '-' then some (some (.minutes (-total)))
    else none

/-- Does the character stand between a date and a time of day? -/
def isMomentMark (c : Char) : Bool := c == 'T' || c == 't' || c == ' '

/-- **The moment** that a text stands for. -/
def Moment.ofChars? (s : List Char) : Option Moment :=
  match takeDate? s with
  | some (day, []) => some (.date day)
  | some (day, mark :: rest) => do
    if isMomentMark mark then
      let (time, rest) ← takeClock? rest
      return .both day time (← offset? rest)
    else none
  | none =>
    match takeClock? s with
    | some (time, []) => some (.clock time)
    | _ => none

end QueryPaths.Toml
