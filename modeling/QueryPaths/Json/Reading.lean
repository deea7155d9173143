import QueryPaths.Json.Number
import QueryPaths.Json.StringText

/-! # Reading JSON text

    A text is read into a tree up to the place where its notation is at fault.
    Whether a fault matters depends on who looks: values of unknown fields are
    passed over and need only be well formed, while wanted values must also
    stand for something. So the tree keeps both answers, and the order of its
    parts is the order of the text.

    * **`Reading`**, **`Elements`**, **`Members`**: the tree.
    * **`Reading.skip`**: the first fault for a reader who passes the value over.
    * **`scanValue`**: reads a value from the front of a text.
    * **`scanDocument`**: reads a whole text.
-/

namespace QueryPaths.Json

mutual

/-- A value, as far as it can be read. -/
inductive Reading where
  | null
  | boolean (value : Bool)
  /-- A number, or why it stands for none. -/
  | number (found : Except Fault Decode.Found)
  /-- A string, or why it stands for none. -/
  | string (text : Except Fault String)
  | array (elements : Elements)
  | object (members : Members)
  /-- The value is at fault, and nothing behind it can be read. -/
  | broken (mishap : Mishap)

/-- The elements of an array, from one of them onwards. -/
inductive Elements where
  /-- The array ends. -/
  | closed
  /-- The text ends. -/
  | cut
  /-- Neither a comma nor the end follows. -/
  | unseparated
  /-- A comma and then the end follow. -/
  | trailingComma
  /-- A comma follows, and the text ends. -/
  | cutAfterComma
  /-- A value follows. -/
  | element (value : Reading) (rest : Elements)

/-- The members of an object, from one of them onwards. -/
inductive Members where
  /-- The object ends. -/
  | closed
  /-- The text ends. -/
  | cut
  /-- Neither a comma nor the end follows. -/
  | unseparated
  /-- A comma and then the end follow. -/
  | trailingComma
  /-- A comma follows, and the text ends. -/
  | cutAfterComma
  /-- Something else than a string follows. -/
  | keyNotString
  /-- A key and its value follow. -/
  | member (key : Except Fault String) (value : Reading) (rest : Members)

end

instance : Inhabited Reading := ⟨.null⟩

/-! ## Passing over -/

mutual

/-- **The first fault of a value that is passed over.** -/
def Reading.skip : Reading → Except Fault Unit
  | .null | .boolean _ | .number _ | .string _ => .ok ()
  | .array elements => elements.skip
  | .object members => members.skip
  | .broken mishap => .error mishap.skipped

/-- The first fault of elements that are passed over. -/
def Elements.skip : Elements → Except Fault Unit
  | .closed => .ok ()
  | .cut => .error .listCut
  | .unseparated => .error .listUnseparated
  | .trailingComma => .error .noValue
  | .cutAfterComma => .error .valueCut
  | .element value rest => do
    value.skip
    rest.skip

/-- The first fault of members that are passed over. Keys need not stand for
    anything. -/
def Members.skip : Members → Except Fault Unit
  | .closed => .ok ()
  | .cut => .error .objectCut
  | .unseparated => .error .objectUnseparated
  | .trailingComma => .error .keyNotString
  | .cutAfterComma => .error .objectCut
  | .keyNotString => .error .keyNotString
  | .member _ value rest => do
    value.skip
    rest.skip

end

/-! ## Scanning -/

/-- The characters between tokens. -/
def isBlank (c : Char) : Bool := c == ' ' || c == '\n' || c == '\t' || c == '\r'

/-- The text behind the characters between tokens. -/
def skipBlank (s : List Char) : List Char := s.dropWhile isBlank

/-- Text behind a part of a document: no longer than `bound`. -/
abbrev Tail (bound : Nat) := { rest : List Char // rest.length ≤ bound }

/-- A tail is one for every larger bound, too. -/
def Tail.widen {m n : Nat} (t : Tail m) (h : m ≤ n) : Tail n := ⟨t.1, Nat.le_trans t.2 h⟩

theorem length_skipBlank (s : List Char) : (skipBlank s).length ≤ s.length :=
  (List.dropWhile_sublist _).length_le

/-- What `skipBlank` leaves, with its first character taken off, is shorter. -/
theorem length_of_skipBlank {s rest : List Char} {c : Char} (h : skipBlank s = c :: rest) :
    rest.length < s.length := by
  have := length_skipBlank s
  rw [h] at this
  simp at this
  omega

/-- A reading and the text behind it, if the text can be read any further. -/
abbrev Scan (α : Type) (bound : Nat) := α × Option (Tail bound)

/-- A scan of a text is one of every longer text, too. -/
def Scan.widen {α : Type} {m n : Nat} (scan : Scan α m) (h : m ≤ n) : Scan α n :=
  (scan.1, scan.2.map (·.widen h))

/-- Reads the rest of a word. -/
def scanWord (word : List Char) (meant : Reading) (s : List Char) : Scan Reading s.length :=
  if word.isPrefixOf s then (meant, some ⟨s.drop word.length, by simp⟩)
  else
    let fault : Fault := if s.isPrefixOf word then .valueCut else .badWord
    (.broken ⟨fault, fault⟩, none)

/-- Reads a number behind its minus sign. -/
def scanNegative (s : List Char) : Scan Reading s.length :=
  match h : lexNumber true s with
  | .error mishap => (.broken mishap, none)
  | .ok (number, rest) =>
    (.number number.found, some ⟨rest, Nat.le_of_lt (length_of_lexNumber h)⟩)

/-- Reads a number that begins with the digit `c`. -/
def scanNumber (c : Char) (s : List Char) : Scan Reading s.length :=
  match h : lexNumber false (c :: s) with
  | .error mishap => (.broken mishap, none)
  | .ok (number, rest) =>
    (.number number.found, some ⟨rest, Nat.le_of_lt_succ (length_of_lexNumber h)⟩)

/-- Reads a text behind its opening quote. -/
def scanText (s : List Char) :
    Except Mishap (Except Fault String × { rest : List Char // rest.length < s.length }) :=
  match h : (lexUnits s).2 with
  | .closed rest =>
    .ok ((joinUnits (.closed rest) (lexUnits s).1).map String.ofList,
      ⟨rest, length_of_lexUnits h⟩)
  | stop =>
    let skipped := stop.fault?.getD .stringCut
    let wanted := match joinUnits stop (lexUnits s).1 with
      | .error fault => fault
      | .ok _ => skipped
    .error ⟨wanted, skipped⟩

/-- Reads a string behind its opening quote. -/
def scanString (s : List Char) : Scan Reading s.length :=
  match scanText s with
  | .error mishap => (.broken mishap, none)
  | .ok (text, ⟨rest, shorter⟩) => (.string text, some ⟨rest, Nat.le_of_lt shorter⟩)

/-- A value that every reader reports with one fault. -/
def brokenAt (fault : Fault) : Reading := .broken ⟨fault, fault⟩

mutual

/-- **Reads the value that begins with `c`.** -/
def scanValue (c : Char) (s : List Char) : Scan Reading s.length :=
  if c = '"' then scanString s
  else if c = '[' then
    let (elements, rest) := scanElements s
    (.array elements, rest)
  else if c = '\x7b' then
    let (members, rest) := scanMembers s
    (.object members, rest)
  else if c = 'n' then scanWord ['u', 'l', 'l'] .null s
  else if c = 't' then scanWord ['r', 'u', 'e'] (.boolean true) s
  else if c = 'f' then scanWord ['a', 'l', 's', 'e'] (.boolean false) s
  else if c = '-' then scanNegative s
  else if c.isDigit then scanNumber c s
  else (brokenAt .noValue, none)
termination_by 3 * s.length + 1

/-- Reads the elements behind an opening bracket. -/
def scanElements (s : List Char) : Scan Elements s.length :=
  match h : skipBlank s with
  | [] => (.cut, none)
  | c :: rest =>
    have shorter := length_of_skipBlank h
    if c = ']' then (.closed, some ⟨rest, by omega⟩)
    else (scanElement c rest).widen (by omega)
termination_by 3 * s.length

/-- Reads the element that begins with `c`, and those behind it. -/
def scanElement (c : Char) (s : List Char) : Scan Elements s.length :=
  match scanValue c s with
  | (value, none) => (.element value .cut, none)
  | (value, some ⟨rest, shorter⟩) =>
    let (more, tail) := (scanMoreElements rest).widen shorter
    (.element value more, tail)
termination_by 3 * s.length + 2

/-- Reads the elements behind an element. -/
def scanMoreElements (s : List Char) : Scan Elements s.length :=
  match h : skipBlank s with
  | [] => (.cut, none)
  | c :: rest =>
    have shorter := length_of_skipBlank h
    if c = ']' then (.closed, some ⟨rest, by omega⟩)
    else if c ≠ ',' then (.unseparated, none)
    else
      match h : skipBlank rest with
      | [] => (.cutAfterComma, none)
      | d :: tail =>
        have := length_of_skipBlank h
        if d = ']' then (.trailingComma, none) else (scanElement d tail).widen (by omega)
termination_by 3 * s.length

/-- Reads the members behind an opening brace. -/
def scanMembers (s : List Char) : Scan Members s.length :=
  match h : skipBlank s with
  | [] => (.cut, none)
  | c :: rest =>
    have shorter := length_of_skipBlank h
    if c = '\x7d' then (.closed, some ⟨rest, by omega⟩)
    else if c = '"' then (scanMember rest).widen (by omega)
    else (.keyNotString, none)
termination_by 3 * s.length

/-- Reads the member behind the opening quote of its key, and those behind it. -/
def scanMember (s : List Char) : Scan Members s.length :=
  match scanText s with
  | .error mishap => (.member (.error mishap.wanted) (brokenAt mishap.skipped) .cut, none)
  | .ok (key, ⟨behind, shorter⟩) =>
    match scanMemberValue behind with
    | (value, none) => (.member key value .cut, none)
    | (value, some ⟨rest, shorter'⟩) =>
      let (more, tail) := (scanMoreMembers rest).widen (by omega)
      (.member key value more, tail)
termination_by 3 * s.length

/-- Reads the colon behind a key, and the value behind it. -/
def scanMemberValue (s : List Char) : Scan Reading s.length :=
  match h : skipBlank s with
  | [] => (brokenAt .objectCut, none)
  | c :: rest =>
    have shorter := length_of_skipBlank h
    if c ≠ ':' then (brokenAt .noColon, none)
    else
      match h : skipBlank rest with
      | [] => (brokenAt .valueCut, none)
      | d :: tail =>
        have := length_of_skipBlank h
        (scanValue d tail).widen (by omega)
termination_by 3 * s.length + 2

/-- Reads the members behind a member. -/
def scanMoreMembers (s : List Char) : Scan Members s.length :=
  match h : skipBlank s with
  | [] => (.cut, none)
  | c :: rest =>
    have shorter := length_of_skipBlank h
    if c = '\x7d' then (.closed, some ⟨rest, by omega⟩)
    else if c ≠ ',' then (.unseparated, none)
    else
      match h : skipBlank rest with
      | [] => (.cutAfterComma, none)
      | d :: tail =>
        have := length_of_skipBlank h
        if d = '\x7d' then (.trailingComma, none)
        else if d = '"' then (scanMember tail).widen (by omega)
        else (.keyNotString, none)
termination_by 3 * s.length

end

/-! ## Whole texts -/

/-- A text that holds one value. -/
structure Document where
  /-- The value. -/
  value : Reading
  /-- Is there more text behind it? -/
  trailing : Bool
  deriving Inhabited

/-- **Reads a whole text.** -/
def scanDocument (text : String) : Document :=
  match skipBlank text.toList with
  | [] => ⟨brokenAt .valueCut, false⟩
  | c :: s =>
    match scanValue c s with
    | (value, none) => ⟨value, false⟩
    | (value, some rest) => ⟨value, !(skipBlank rest.1).isEmpty⟩

end QueryPaths.Json
