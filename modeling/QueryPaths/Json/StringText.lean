import QueryPaths.Json.Error
import QueryPaths.Text.Hexadecimal

/-! # Strings in JSON documents

    A string is a row of units between double quotes: characters, escaped
    characters, and code units of UTF-16 in hexadecimal. A string that is passed
    over only has to be made of units that end in a quote; in one that is wanted
    the code units must make up characters as well.

    * **`lexUnits`**: the units behind an opening quote, and how they end.
    * **`joinUnits`**: the characters that units make up.
    * **`encode`**: how a text is written as a string.
-/

namespace QueryPaths.Json

open Text (hexDigit?)

/-! ## Units -/

/-- A part of a written string. -/
inductive StringUnit where
  /-- A character that stands for itself. -/
  | plain (c : Char)
  /-- A character behind a backslash. -/
  | escaped (c : Char)
  /-- A code unit of UTF-16. -/
  | code (unit : Nat)
  deriving DecidableEq, Repr, Inhabited

/-- How the units of a string end. -/
inductive StringEnd where
  /-- With a quote; `rest` is the text behind it. -/
  | closed (rest : List Char)
  /-- The text ends. -/
  | cut
  /-- A backslash is the last character of the text. -/
  | cutEscape
  /-- A backslash stands before a character that it does not go with. -/
  | badEscape
  /-- An escape `\u` without four hexadecimal digits; `short` if the text ends. -/
  | badCode (short : Bool)
  /-- A control character. -/
  | control
  deriving DecidableEq, Repr, Inhabited

/-- The value of four hexadecimal digits. -/
def hexCode? (a b c d : Char) : Option Nat := do
  let a ← hexDigit? a
  let b ← hexDigit? b
  let c ← hexDigit? c
  let d ← hexDigit? d
  return ((a * 16 + b) * 16 + c) * 16 + d

/-- The character that an escape of two characters stands for. -/
def simpleEscape? (c : Char) : Option Char :=
  match c with
  | '"' => some '"'
  | '\\' => some '\\'
  | '/' => some '/'
  | 'b' => some '\x08'
  | 'f' => some '\x0c'
  | 'n' => some '\n'
  | 'r' => some '\r'
  | 't' => some '\t'
  | _ => none

/-- Are fewer than four bytes of text left? -/
def tooShortForCode (s : List Char) : Bool := (String.ofList s).utf8ByteSize < 4

/-- **The units behind an opening quote**, and how they end. -/
def lexUnits : List Char → List StringUnit × StringEnd
  | [] => ([], .cut)
  | c :: rest =>
    if c = '"' then ([], .closed rest)
    else if c = '\\' then
      match rest with
      | [] => ([], .cutEscape)
      | 'u' :: x :: y :: z :: w :: tail =>
        match hexCode? x y z w with
        | some unit => let (units, stop) := lexUnits tail; (.code unit :: units, stop)
        | none => ([], .badCode false)
      | 'u' :: tail => ([], .badCode (tooShortForCode tail))
      | e :: tail =>
        match simpleEscape? e with
        | some meant => let (units, stop) := lexUnits tail; (.escaped meant :: units, stop)
        | none => ([], .badEscape)
    else if c.toNat < 0x20 then ([], .control)
    else let (units, stop) := lexUnits rest; (.plain c :: units, stop)

theorem length_of_lexUnits {s rest : List Char} (h : (lexUnits s).2 = .closed rest) :
    rest.length < s.length := by
  fun_induction lexUnits s <;> simp_all <;> omega

/-- The fault of an ending, for a reader who passes the string over. -/
def StringEnd.fault? : StringEnd → Option Fault
  | .closed _ => none
  | .cut | .cutEscape => some .stringCut
  | .badEscape => some .badEscape
  | .badCode short => some (if short then .stringCut else .badEscape)
  | .control => some .controlChar

/-! ## Characters -/

/-- Is the code unit the first half of a surrogate pair? -/
def isLeading (unit : Nat) : Bool := 0xd800 ≤ unit && unit ≤ 0xdbff

/-- Is the code unit the second half of a surrogate pair? -/
def isTrailing (unit : Nat) : Bool := 0xdc00 ≤ unit && unit ≤ 0xdfff

/-- The character of a surrogate pair. -/
def pairChar (first second : Nat) : Char :=
  Char.ofNat ((first - 0xd800) * 0x400 + (second - 0xdc00) + 0x10000)

/-- The fault of a first half with no code unit behind it. -/
def StringEnd.halfPairFault : StringEnd → Fault
  | .cut | .cutEscape => .stringCut
  | .badCode short => if short then .stringCut else .badEscape
  | .closed _ | .badEscape | .control => .halfPair

/-- **The characters that units make up**, or the first fault among the units and
    their end. -/
def joinUnits (stop : StringEnd) : List StringUnit → Except Fault (List Char)
  | [] =>
    match stop.fault? with
    | some fault => .error fault
    | none => .ok []
  | .plain c :: rest => (joinUnits stop rest).map (c :: ·)
  | .escaped c :: rest => (joinUnits stop rest).map (c :: ·)
  | .code first :: .code second :: rest =>
    if isTrailing first then .error .loneSurrogate
    else if isLeading first then
      if isTrailing second then (joinUnits stop rest).map (pairChar first second :: ·)
      else .error .loneSurrogate
    else (joinUnits stop (.code second :: rest)).map (Char.ofNat first :: ·)
  | .code first :: rest =>
    if isTrailing first then .error .loneSurrogate
    else if isLeading first then
      .error (if rest = [] then stop.halfPairFault else .halfPair)
    else (joinUnits stop rest).map (Char.ofNat first :: ·)

/-! ## Writing -/

/-- How one character is written in a string: quotes, backslashes and control
    characters are escaped, everything else stands for itself. -/
def encodeChar (c : Char) : List Char :=
  match c with
  | '"' => ['\\', '"']
  | '\\' => ['\\', '\\']
  | '\x08' => ['\\', 'b']
  | '\x0c' => ['\\', 'f']
  | '\n' => ['\\', 'n']
  | '\r' => ['\\', 'r']
  | '\t' => ['\\', 't']
  | c =>
    if c.toNat < 0x20 then
      ['\\', 'u', '0', '0', Nat.digitChar (c.toNat / 16), Nat.digitChar (c.toNat % 16)]
    else [c]

/-- **A text written as a string.** -/
def encode (s : String) : List Char := '"' :: s.toList.flatMap encodeChar ++ ['"']

end QueryPaths.Json
