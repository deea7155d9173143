import QueryPaths.Decode.DataError

/-! # Errors of JSON documents

    A document is refused for the first thing that is wrong with it in the order
    of the text: a fault of the notation, or data that does not fit.
-/

namespace QueryPaths.Json

/-- A fault of the notation. -/
inductive Fault where
  /-- The text ends inside an array. -/
  | listCut
  /-- The text ends inside an object. -/
  | objectCut
  /-- The text ends inside a string. -/
  | stringCut
  /-- The text ends where a value should stand. -/
  | valueCut
  /-- Something else stands where a value should. -/
  | noValue
  /-- A word other than `null`, `true` and `false`. -/
  | badWord
  /-- No colon behind a key. -/
  | noColon
  /-- Neither a comma nor the end of the array behind an element. -/
  | listUnseparated
  /-- Neither a comma nor the end of the object behind a member. -/
  | objectUnseparated
  /-- Something else stands where a key should. -/
  | keyNotString
  /-- A comma before the end. -/
  | trailingComma
  /-- More text behind the end. -/
  | trailingText
  /-- A number that is not written as one. -/
  | badNumber
  /-- A number too large for a double. -/
  | numberRange
  /-- A backslash before a character that it does not go with. -/
  | badEscape
  /-- The first half of a surrogate pair with no escape behind it. -/
  | halfPair
  /-- A surrogate that is not in its place. -/
  | loneSurrogate
  /-- A control character inside a string. -/
  | controlChar
  deriving DecidableEq, Repr, Inhabited

/-- **The wording** of a fault. -/
def Fault.message : Fault → String
  | .listCut => "EOF while parsing a list"
  | .objectCut => "EOF while parsing an object"
  | .stringCut => "EOF while parsing a string"
  | .valueCut => "EOF while parsing a value"
  | .noValue => "expected value"
  | .badWord => "expected ident"
  | .noColon => "expected `:`"
  | .listUnseparated => "expected `,` or `]`"
  | .objectUnseparated => "expected `,` or `\x7d`"
  | .keyNotString => "key must be a string"
  | .trailingComma => "trailing comma"
  | .trailingText => "trailing characters"
  | .badNumber => "invalid number"
  | .numberRange => "number out of range"
  | .badEscape => "invalid escape"
  | .halfPair => "unexpected end of hex escape"
  | .loneSurrogate => "lone leading surrogate in hex escape"
  | .controlChar => "control character (\\u0000-\\u001F) found while parsing a string"

/-- Does the text end too early? -/
def Fault.isCut : Fault → Bool
  | .listCut | .objectCut | .stringCut | .valueCut => true
  | _ => false

/-- The reason why a document is refused. -/
inductive Error where
  /-- The notation is at fault. -/
  | syntactic (fault : Fault)
  /-- The data does not fit. -/
  | data (error : Decode.DataError)
  deriving DecidableEq, Repr, Inhabited

/-- **The wording** of an error. -/
def Error.message : Error → String
  | .syntactic fault => fault.message
  | .data error => error.message

/-- The kinds of errors. -/
inductive Category where
  /-- The notation is at fault. -/
  | grammar
  /-- The text ends too early. -/
  | cut
  /-- The data does not fit. -/
  | data
  deriving DecidableEq, Repr, Inhabited

/-- The kind of an error. -/
def Error.category : Error → Category
  | .syntactic fault => if fault.isCut then .cut else .grammar
  | .data _ => .data

end QueryPaths.Json
