import QueryPaths.Decimal.Spelling
import QueryPaths.Decode.DataError
import QueryPaths.Toml.Value

/-! # Decoding TOML values

    A decoder takes a value and gives one of a wanted type, or says what is wrong
    with it. A record is an overlay: it starts from defaults, and each entry of
    the table replaces one of them. The entries are looked at in the order of
    their keys. An array stands for a record, too, by the order of its fields.

    * **`Decoder.string`**, **`Decoder.boolean`**: decoders of simple types.
    * **`RecordShape.decoder`**: the decoder of a record.
-/

namespace QueryPaths.Toml

open Decode (DataError Expected Found)

/-- A decoder of values of type `α`. -/
abbrev Decoder (α : Type) := Value → Except DataError α

/-- Real numbers are always written out, and ties go away from zero. -/
def realStyle : Decimal.Style := ⟨none, .away⟩

/-- What stands in a document, as far as a message tells. A moment is told as a
    table, and a misspelt number as nothing. -/
def Value.found : Value → Found
  | .string text => .string text
  | .boolean value => .boolean value
  | .whole value => .integer value
  | .misspelt => .null
  | .real value => .floating (Decimal.spell realStyle value.toFloat)
  | .array _ | .tables _ => .sequence
  | .moment _ | .table _ _ => .map

namespace Decoder

/-- Decodes a text. -/
def string : Decoder String
  | .string text => .ok text
  | value => .error (.wrongType value.found .string)

/-- Decodes a truth value. -/
def boolean : Decoder Bool
  | .boolean value => .ok value
  | value => .error (.wrongType value.found .boolean)

end Decoder

/-! ## Records -/

/-- A field of a record of type `α`. -/
structure Slot (α : Type) where
  /-- The name of the field. -/
  name : String
  /-- Decodes a value for the field and puts it into the record. -/
  fill : α → Decoder α

/-- The fields of a record of type `α`. -/
structure RecordShape (α : Type) where
  /-- The name of the record in messages. -/
  name : String
  /-- The fields in their order. -/
  slots : List (Slot α)

namespace RecordShape

variable {α : Type}

/-- The names of the fields. -/
def fieldNames (shape : RecordShape α) : List String := shape.slots.map (·.name)

/-- Reads one entry into a record. -/
def readEntry (shape : RecordShape α) (record : α) (entry : String × Value) :
    Except DataError α :=
  match shape.slots.find? (·.name == entry.1) with
  | none => .error (.unknownField entry.1 shape.fieldNames)
  | some slot => slot.fill record entry.2

/-- **Reads entries** into a record, in the order of their keys. -/
def ofEntries (shape : RecordShape α) (record : α) (entries : Entries) : Except DataError α :=
  (entries.mergeSort fun a b => a.1 ≤ b.1).foldlM shape.readEntry record

/-- **Reads values** into the fields of a record. Missing ones leave it as it is,
    and those behind the last field are left out. -/
def ofValues (record : α) : List (Slot α) → List Value → Except DataError α
  | slot :: slots, value :: values => do ofValues (← slot.fill record value) slots values
  | _, _ => .ok record

/-- **The decoder of a record**, starting from its defaults. -/
def decoder (shape : RecordShape α) (defaults : α) : Decoder α
  | .table _ entries => shape.ofEntries defaults entries
  | .array elements => ofValues defaults shape.slots elements
  | .tables elements => ofValues defaults shape.slots (elements.map (.table .header))
  | .moment _ => .error (.unknownField momentKey shape.fieldNames)
  | value => .error (.wrongType value.found (.record shape.name))

end RecordShape

end QueryPaths.Toml
