import QueryPaths.Toml.Token
import QueryPaths.Toml.Value

/-! # TOML documents

    A document is a row of lines. A line holds nothing, a key and its value, or
    the header of the table that the following lines belong to.

    * **`scalar?`**: the value of a string or a word.
    * **`Piece.part?`**: the values of arrays and of tables in braces, from the
      inside out.
    * **`keyPath?`**, **`keyValue?`**, **`Line.ofPieces?`**: the parts of a line.
    * **`readDocument`**: the table that a document stands for.
-/

namespace QueryPaths.Toml

/-! ## Values -/

/-- A token, or the value of a pair of brackets. -/
inductive Part where
  | token (token : Token)
  | value (value : Value)
  deriving Repr, Inhabited

/-- The characters of a token that can be part of a number or the like. -/
def Part.chars? : Part → Option (List Char)
  | .token (.word chars) => some chars
  | .token (.blank chars) => some chars
  | .token .dot => some ['.']
  | _ => none

/-- **The value of a word**: a truth value, a number, or a moment. A misspelt number
    is one, too. -/
def ofWord? (s : List Char) : Option Value :=
  if s = ['t', 'r', 'u', 'e'] then some (.boolean true)
  else if s = ['f', 'a', 'l', 's', 'e'] then some (.boolean false)
  else
    (wholeNumber? s).map .whole <|> (Real.ofChars? s).map .real <|>
      (Moment.ofChars? s).map .moment <|> if isMisspelt s then some .misspelt else none

/-- Blanks and line breaks, where they mean nothing. -/
def Part.isGap : Part → Bool
  | .token .lineBreak | .token (.blank _) => true
  | _ => false

/-- Blanks on a line. -/
def Part.isBlank : Part → Bool
  | .token (.blank _) => true
  | _ => false

/-- A list without the elements at both ends that mean nothing. -/
def trim {α : Type} (meansNothing : α → Bool) (parts : List α) : List α :=
  ((parts.dropWhile meansNothing).reverse.dropWhile meansNothing).reverse

/-- **The value of parts.** -/
def valueOf? (parts : List Part) : Option Value :=
  match trim Part.isGap parts with
  | [.value v] => some v
  | [.token (.text content _)] => some (.string content)
  | parts => do ofWord? (← parts.mapM Part.chars?).flatten

/-- Is it this token? -/
def Part.isToken (t : Token) : Part → Bool
  | .token u => u == t
  | .value _ => false

/-- **The parts between commas.** After a last comma, and between brackets that hold
    nothing, there is no part. -/
def items (parts : List Part) : List (List Part) :=
  let segments := parts.splitOnP (Part.isToken .comma)
  if (segments.getLast?.getD []).all Part.isGap then segments.dropLast else segments

/-- The key that parts stand for: a word of ASCII letters, digits, underscores and
    hyphens, or a string on one line. -/
def key? (parts : List Part) : Option String :=
  match trim Part.isBlank parts with
  | [.token (.word chars)] =>
    if chars.all fun c => c.isAlphanum || c == '_' || c == '-' then some (String.ofList chars)
    else none
  | [.token (.text content false)] => some content
  | _ => none

/-- **A dotted key.** It leads no deeper than brackets may. -/
def keyPath? (parts : List Part) : Option KeyPath := do
  let path ← (parts.splitOnP (Part.isToken .dot)).mapM key?
  if path.length ≤ maxDepth then some path else none

/-- **A key and its value**, with an equals sign between them. -/
def keyValue? (parts : List Part) : Option (KeyPath × Value) := do
  let behind := parts.dropWhile (!Part.isToken .equals ·)
  let path ← keyPath? (trim Part.isGap (parts.takeWhile (!Part.isToken .equals ·)))
  match behind with
  | [] => none
  | _ :: parts => return (path, ← valueOf? parts)

/-- The value of a pair of brackets. -/
def groupValue? (bracket : Bracket) (parts : List Part) : Option Value :=
  match bracket with
  | .square => ((items parts).mapM valueOf?).map .array
  | .curly => do
    let given ← (items parts).mapM keyValue?
    return .table .inline (← Entries.assignAll [] given)

mutual

/-- **A piece as a part.** -/
def Piece.part? : Piece → Option Part
  | .token t => some (.token t)
  | .group bracket inner => do
    let parts ← parts? inner
    return .value (← groupValue? bracket parts)

/-- Pieces as parts. -/
def parts? : List Piece → Option (List Part)
  | [] => some []
  | piece :: rest => do
    let part ← piece.part?
    let others ← parts? rest
    return part :: others

end

/-! ## Lines -/

/-- What a line holds. -/
inductive Line where
  | empty
  /-- A key and its value. -/
  | entry (path : KeyPath) (value : Value)
  /-- The header of a table; `element` if there may be several under the key. -/
  | header (element : Bool) (path : KeyPath)
  deriving Repr, Inhabited

/-- A dotted key between the brackets of a header. -/
def headerPath? (inner : List Piece) : Option KeyPath := do keyPath? (← parts? inner)

/-- Is the piece a blank? -/
def Piece.isBlank : Piece → Bool
  | .token (.blank _) => true
  | _ => false

/-- **A line.** Brackets at its start are those of a header, and the double ones
    stand together. -/
def Line.ofPieces? (pieces : List Piece) : Option Line :=
  match trim Piece.isBlank pieces with
  | [] => some .empty
  | [.group .square [.group .square inner]] => (headerPath? inner).map (.header true)
  | [.group .square inner] => (headerPath? inner).map (.header false)
  | pieces => do
    let (path, value) ← keyValue? (← parts? pieces)
    return .entry path value

/-! ## Documents -/

/-- A header and the entries behind it. -/
structure Section where
  /-- May there be several tables under the key? -/
  element : Bool
  /-- The keys of the header. -/
  path : KeyPath
  /-- The entries. -/
  given : List (KeyPath × Value)
  deriving Repr, Inhabited

/-- The entries in front of the first header, and the sections behind them. -/
def sections : List Line → List (KeyPath × Value) × List Section
  | [] => ([], [])
  | .empty :: rest => sections rest
  | .entry path value :: rest =>
    let (given, more) := sections rest
    ((path, value) :: given, more)
  | .header element path :: rest =>
    let (given, more) := sections rest
    ([], ⟨element, path, given⟩ :: more)

/-- Adds a section to a document. -/
def addSection (entries : Entries) (s : Section) : Option Entries :=
  match s.path.getLast? with
  | none => none
  | some key =>
    entries.within
      (if s.element then Entries.openElement key s.given else Entries.openTable key s.given)
      s.path.dropLast

/-- Is the piece a line break? -/
def Piece.isLineBreak : Piece → Bool
  | .token .lineBreak => true
  | _ => false

/-- **The table that a document stands for**, unless it is at fault. Numbers may be
    of any size here, or misspelt. -/
def readDocument (text : String) : Option Entries := do
  let lines ← ((← pieces text).splitOnP Piece.isLineBreak).mapM Line.ofPieces?
  let (given, more) := sections lines
  more.foldlM addSection (← Entries.assignAll [] given)

end QueryPaths.Toml
