import QueryPaths.Json.StringText

/-! # JSON values

    The values that are written out, and two ways to write them: on one line, or
    with an element or member on each line.

    * **`Value.compact`**: on one line.
    * **`Value.pretty`**: indented by two spaces for each level.
-/

namespace QueryPaths.Json

/-- A value to be written out. -/
inductive Value where
  | string (text : String)
  | array (elements : List Value)
  /-- The members in the order in which they are written. -/
  | object (members : List (String × Value))
  deriving Repr, Inhabited

/-! ## One line -/

mutual

/-- The characters of a value on one line. -/
def Value.compactChars : Value → List Char
  | .string text => encode text
  | .array elements => '[' :: compactElements elements ++ [']']
  | .object members => '\x7b' :: compactMembers members ++ ['\x7d']

/-- The elements of an array on one line. -/
def compactElements : List Value → List Char
  | [] => []
  | [value] => value.compactChars
  | value :: rest => value.compactChars ++ ',' :: compactElements rest

/-- The members of an object on one line. -/
def compactMembers : List (String × Value) → List Char
  | [] => []
  | [(key, value)] => encode key ++ ':' :: value.compactChars
  | (key, value) :: rest => encode key ++ ':' :: value.compactChars ++ ',' :: compactMembers rest

end

/-- **A value on one line.** -/
def Value.compact (value : Value) : String := String.ofList value.compactChars

/-! ## Indented -/

/-- A new line at a level. -/
def newLine (level : Nat) : List Char := '\n' :: List.replicate (2 * level) ' '

mutual

/-- The characters of a value that stands at a level. Brackets of empty values
    stand together. -/
def Value.prettyChars (level : Nat) : Value → List Char
  | .string text => encode text
  | .array [] => ['[', ']']
  | .array (value :: rest) =>
    '[' :: prettyElements (level + 1) (value :: rest) ++ newLine level ++ [']']
  | .object [] => ['\x7b', '\x7d']
  | .object (member :: rest) =>
    '\x7b' :: prettyMembers (level + 1) (member :: rest) ++ newLine level ++ ['\x7d']

/-- The elements of an array, each on lines of its own. -/
def prettyElements (level : Nat) : List Value → List Char
  | [] => []
  | [value] => newLine level ++ value.prettyChars level
  | value :: rest =>
    newLine level ++ value.prettyChars level ++ ',' :: prettyElements level rest

/-- The members of an object, each on lines of its own. -/
def prettyMembers (level : Nat) : List (String × Value) → List Char
  | [] => []
  | [(key, value)] => newLine level ++ encode key ++ ':' :: ' ' :: value.prettyChars level
  | (key, value) :: rest =>
    newLine level ++ encode key ++ ':' :: ' ' :: value.prettyChars level ++
      ',' :: prettyMembers level rest

end

/-- **A value with an element or member on each line.** -/
def Value.pretty (value : Value) : String := String.ofList (value.prettyChars 0)

end QueryPaths.Json
