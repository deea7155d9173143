import QueryPaths.Model.Manifest
import QueryPaths.Proofs.Json.Value

/-! # Written fields are read back

    A field is written as an object with its name and, if it is a link, the name of the class that
    it leads to. A reader takes the members in any order and does without a link, so it takes them
    as they are written, and the list of fields comes out as it was.

    * **`fieldDecoder_value`**: one field, whatever its name and its link.
    * **`decode_fieldValues`**: the fields of a list, in their order.
    * **`fieldList_survives_writing`**: the text of a list of fields.
-/

namespace QueryPaths

open Json (Decoder elementsReading)

/-- **A written field is read back.** A scalar is written without a link, and an absent link is
    read as none; any link that is written is read, an empty one, too. -/
theorem fieldDecoder_value (field : Field) : fieldDecoder field.value.reading = .ok field := by
  obtain ⟨name, link⟩ := field
  cases link with
  | none => rfl
  | some target => rfl

/-- **Written fields are read back one by one**, so they keep their order and their number. -/
theorem decode_fieldValues (fields : List Field) :
    (elementsReading (fields.map Field.value)).decode fieldDecoder = .ok fields := by
  induction fields with
  | nil => rfl
  | cons field rest ih =>
    rw [List.map_cons, elementsReading, Json.Elements.decode, fieldDecoder_value, ih]
    rfl

/-- **A list of fields survives being written**: whatever the names and the links are, equal ones
    among them, its text on one line is read as the same list. So no two lists have one text. -/
theorem fieldList_survives_writing (fields : List Field) :
    fieldListDecoder.run (fieldListValue fields).compact = .ok fields ∧
      ∀ others : List Field,
        (fieldListValue others).compact = (fieldListValue fields).compact → others = fields := by
  have hread : ∀ fields : List Field,
      fieldListDecoder.run (fieldListValue fields).compact = .ok fields := by
    intro fields
    have hdecode : fieldListDecoder (fieldListValue fields).reading = .ok fields :=
      decode_fieldValues fields
    rw [Decoder.run, Json.Value.scanDocument_compact]
    show (fieldListDecoder (fieldListValue fields).reading >>= _) = _
    rw [hdecode]
    rfl
  refine ⟨hread fields, fun others htext => ?_⟩
  have hsame := (hread others).symm.trans (htext ▸ hread fields)
  exact Except.ok.inj hsame

end QueryPaths
