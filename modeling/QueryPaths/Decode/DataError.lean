import QueryPaths.Text.Quoted

/-! # Data errors

    A well-formed document may still hold the wrong data: a value of another
    type, a record with too few values, or with fields that are missing,
    repeated or unknown. The wording is the same for every document format.
-/

namespace QueryPaths.Decode

/-- What stands in a document, as far as a message tells. -/
inductive Found where
  | null
  | boolean (value : Bool)
  | integer (value : Int)
  /-- A number with a fraction or exponent, as it is spelled. -/
  | floating (spelling : String)
  | string (value : String)
  | sequence
  | map
  deriving DecidableEq, Repr, Inhabited

/-- What a document should hold in a place. -/
inductive Expected where
  | string
  | boolean
  | sequence
  /-- A record of that name. -/
  | record (name : String)
  deriving DecidableEq, Repr, Inhabited

/-- What is wrong with the data of a document. -/
inductive DataError where
  /-- A value has the wrong type. -/
  | wrongType (found : Found) (expected : Expected)
  /-- A record written as a list ends before its required values. -/
  | tooShort (length : Nat) (record : String) (size : Nat)
  /-- A required field is missing. -/
  | missingField (name : String)
  /-- A field is given twice. -/
  | duplicateField (name : String)
  /-- A field is not one of the known ones. -/
  | unknownField (name : String) (known : List String)
  deriving DecidableEq, Repr, Inhabited

/-- The wording for a found value. -/
def Found.text : Found → String
  | .null => "null"
  | .boolean value => "boolean `" ++ (if value then "true" else "false") ++ "`"
  | .integer value => "integer `" ++ Int.repr value ++ "`"
  | .floating spelling => "floating point `" ++ spelling ++ "`"
  | .string value => "string " ++ Text.quoted value
  | .sequence => "sequence"
  | .map => "map"

/-- The wording for what was expected. -/
def Expected.text : Expected → String
  | .string => "a string"
  | .boolean => "a boolean"
  | .sequence => "a sequence"
  | .record name => "struct " ++ name

/-- The wording for a choice of field names. -/
def choiceText (known : List String) : String :=
  let ticked := known.map fun name => "`" ++ name ++ "`"
  match ticked with
  | [] => "there are no fields"
  | [one] => "expected " ++ one
  | [one, two] => "expected " ++ one ++ " or " ++ two
  | more => "expected one of " ++ ", ".intercalate more

/-- **The wording** of a data error. -/
def DataError.message : DataError → String
  | .wrongType found expected => "invalid type: " ++ found.text ++ ", expected " ++ expected.text
  | .tooShort length record size =>
    "invalid length " ++ Nat.repr length ++ ", expected struct " ++ record ++ " with " ++
      Nat.repr size ++ " elements"
  | .missingField name => "missing field `" ++ name ++ "`"
  | .duplicateField name => "duplicate field `" ++ name ++ "`"
  | .unknownField name known => "unknown field `" ++ name ++ "`, " ++ choiceText known

end QueryPaths.Decode
