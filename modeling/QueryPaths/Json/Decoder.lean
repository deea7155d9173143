import QueryPaths.Json.Reading

/-! # Decoding JSON text

    A decoder takes a reading and gives a value of a wanted type, or the first
    thing that is wrong in the order of the text. A record is written as an
    object, with its fields in any order and unknown ones passed over, or as an
    array, with the values of its fields in their order.

    * **`Decoder.string`**, **`boolean`**, **`optional`**, **`list`**: decoders
      of simple types.
    * **`RecordShape`**: the fields of a record.
    * **`RecordShape.decoder`**: the decoder of a record.
    * **`Decoder.run`** decodes a whole text.
-/

namespace QueryPaths.Json

open Decode (DataError Expected)

/-- A decoder of values of type `α`. -/
abbrev Decoder (α : Type) := Reading → Except Error α

/-! ## Simple types -/

/-- **A value of another type than the expected one.** Numbers and strings are
    read to their end before their type is looked at; arrays and objects are
    not. -/
def Reading.mistyped (expected : Expected) : Reading → Error
  | .null => .data (.wrongType .null expected)
  | .boolean value => .data (.wrongType (.boolean value) expected)
  | .number (.ok found) => .data (.wrongType found expected)
  | .number (.error fault) => .syntactic fault
  | .string (.ok text) => .data (.wrongType (.string text) expected)
  | .string (.error fault) => .syntactic fault
  | .array _ => .data (.wrongType .sequence expected)
  | .object _ => .data (.wrongType .map expected)
  | .broken mishap => .syntactic mishap.wanted

namespace Decoder

/-- Decodes a text. -/
def string : Decoder String
  | .string (.ok text) => .ok text
  | reading => .error (reading.mistyped .string)

/-- Decodes a truth value. -/
def boolean : Decoder Bool
  | .boolean value => .ok value
  | reading => .error (reading.mistyped .boolean)

/-- Decodes a value that may be `null`. -/
def optional {α : Type} (decoder : Decoder α) : Decoder (Option α)
  | .null => .ok none
  | reading => (decoder reading).map some

end Decoder

/-- Decodes all elements of an array. -/
def Elements.decode {α : Type} (decoder : Decoder α) : Elements → Except Error (List α)
  | .closed => .ok []
  | .cut => .error (.syntactic .listCut)
  | .unseparated => .error (.syntactic .listUnseparated)
  | .trailingComma => .error (.syntactic .trailingComma)
  | .cutAfterComma => .error (.syntactic .valueCut)
  | .element value rest => do
    let head ← decoder value
    let tail ← rest.decode decoder
    return head :: tail

/-- Decodes an array whose elements are of one type. -/
def Decoder.list {α : Type} (decoder : Decoder α) : Decoder (List α)
  | .array elements => elements.decode decoder
  | reading => .error (reading.mistyped .sequence)

/-! ## Records -/

/-- A field of a record. Values that have been read are gathered in a draft of
    type `δ`. -/
structure Slot (δ : Type) where
  /-- The name of the field. -/
  name : String
  /-- Must the field be given? -/
  required : Bool
  /-- Has it been read? -/
  isFilled : δ → Bool
  /-- Decodes a value for the field and puts it into the draft. -/
  fill : δ → Decoder δ

/-- The fields of a record of type `α`. -/
structure RecordShape (δ α : Type) where
  /-- The name of the record in messages. -/
  name : String
  /-- The fields in their order. -/
  slots : List (Slot δ)
  /-- The record of a draft, or what is missing. -/
  complete : δ → Except DataError α

namespace RecordShape

variable {δ α : Type}

/-- Reads a field into a draft. A field that has been read before is refused
    before its value is looked at; the value of an unknown field is passed
    over. -/
def readMember (shape : RecordShape δ α) (draft : δ) (key : String) (value : Reading) :
    Except Error δ :=
  match shape.slots.find? (·.name == key) with
  | none => (value.skip.map fun _ => draft).mapError .syntactic
  | some slot =>
    if slot.isFilled draft then .error (.data (.duplicateField key)) else slot.fill draft value

/-- **Decodes an object**: its members are read into the draft one by one. -/
def ofMembers (shape : RecordShape δ α) (draft : δ) : Members → Except Error α
  | .closed => (shape.complete draft).mapError .data
  | .cut => .error (.syntactic .objectCut)
  | .unseparated => .error (.syntactic .objectUnseparated)
  | .trailingComma => .error (.syntactic .trailingComma)
  | .cutAfterComma => .error (.syntactic .valueCut)
  | .keyNotString => .error (.syntactic .keyNotString)
  | .member (.error fault) _ _ => .error (.syntactic fault)
  | .member (.ok key) value rest => do
    let draft ← shape.readMember draft key value
    shape.ofMembers draft rest

/-- The end of an array that stands for a record, once all fields are read. -/
def atEnd (shape : RecordShape δ α) (draft : δ) : Elements → Except Error α
  | .closed => (shape.complete draft).mapError .data
  | .cut => .error (.syntactic .listCut)
  | .trailingComma => .error (.syntactic .trailingComma)
  | .unseparated | .cutAfterComma | .element _ _ => .error (.syntactic .trailingText)

/-- **Decodes an array**: its elements are read into the fields in their order.
    The last ones may be missing unless they are required. -/
def ofElements (shape : RecordShape δ α) (draft : δ) :
    List (Slot δ) → Elements → Except Error α
  | [], elements => shape.atEnd draft elements
  | slot :: slots, .closed =>
    if slot.required then
      .error (.data (.tooShort (shape.slots.length - (slots.length + 1)) shape.name
        shape.slots.length))
    else shape.ofElements draft slots .closed
  | _ :: _, .cut => .error (.syntactic .listCut)
  | _ :: _, .unseparated => .error (.syntactic .listUnseparated)
  | _ :: _, .trailingComma => .error (.syntactic .trailingComma)
  | _ :: _, .cutAfterComma => .error (.syntactic .valueCut)
  | slot :: slots, .element value rest => do
    let draft ← slot.fill draft value
    shape.ofElements draft slots rest

/-- **The decoder of a record**, starting from an empty draft. -/
def decoder (shape : RecordShape δ α) (empty : δ) : Decoder α
  | .object members => shape.ofMembers empty members
  | .array elements => shape.ofElements empty shape.slots elements
  | reading => .error (reading.mistyped (.record shape.name))

end RecordShape

/-! ## Whole texts -/

/-- **Decodes a whole text.** Behind the value nothing but blanks may follow. -/
def Decoder.run {α : Type} (decoder : Decoder α) (text : String) : Except Error α := do
  let document := scanDocument text
  let value ← decoder document.value
  if document.trailing then .error (.syntactic .trailingText) else return value

end QueryPaths.Json
