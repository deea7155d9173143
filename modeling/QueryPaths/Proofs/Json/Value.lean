import QueryPaths.Json.Value
import QueryPaths.Proofs.Json.Reading

/-! # Written values are read back

    A value that is written out is read as itself: strings as their texts, arrays with their
    elements, and objects with their members in the order in which they are written.

    * **`Value.reading`**: what a written value stands for.
    * **`Value.reads_compactChars`**: a value on one line is read as that.
    * **`Value.scanDocument_compact`**: so is a document that holds nothing else.
-/

namespace QueryPaths.Json

/-! ## What written values stand for -/

mutual

/-- **What a written value stands for.** -/
def Value.reading : Value → Reading
  | .string text => .string (.ok text)
  | .array elements => .array (elementsReading elements)
  | .object members => .object (membersReading members)

/-- The elements of an array. -/
def elementsReading : List Value → Elements
  | [] => .closed
  | value :: rest => .element value.reading (elementsReading rest)

/-- The members of an object. -/
def membersReading : List (String × Value) → Members
  | [] => .closed
  | (key, value) :: rest => .member (.ok key) value.reading (membersReading rest)

end

namespace Value

/-- **Induction over a value and all values inside it.** -/
@[elab_as_elim]
theorem induct {motive : Value → Prop} (string : ∀ text, motive (.string text))
    (array : ∀ elements, (∀ value ∈ elements, motive value) → motive (.array elements))
    (object : ∀ members, (∀ member ∈ members, motive member.2) → motive (.object members)) :
    ∀ value, motive value
  | .string text => string text
  | .array elements => array elements fun value _ => induct string array object value
  | .object members => object members fun member _ => induct string array object member.2
termination_by value => sizeOf value
decreasing_by
  · next hmem =>
    have hsize : sizeOf value < sizeOf elements := List.sizeOf_lt_of_mem hmem
    rw [Value.array.sizeOf_spec]
    omega
  · next hmem =>
    have hsize : sizeOf member < sizeOf members := List.sizeOf_lt_of_mem hmem
    have hvalue : sizeOf member.2 < sizeOf member := by
      rw [show sizeOf member = 1 + sizeOf member.1 + sizeOf member.2 from rfl]
      omega
    rw [Value.object.sizeOf_spec]
    omega

/-! ## On one line -/

/-- **The elements behind the first one** close the array as they should. -/
theorem closesArray_compact {elements : List Value}
    (h : ∀ value ∈ elements, Reads value.compactChars value.reading) (first : Value) :
    ∃ more, compactElements (first :: elements) ++ [']'] = first.compactChars ++ more ∧
      ClosesArray more (elementsReading elements) := by
  induction elements generalizing first with
  | nil => exact ⟨[']'], rfl, ClosesArray.closed gap_nil⟩
  | cons second rest ih =>
    obtain ⟨more, htext, hmore⟩ := ih (fun v hv => h v (List.mem_cons_of_mem _ hv)) second
    refine ⟨',' :: (second.compactChars ++ more), ?_, ?_⟩
    · rw [compactElements, List.append_assoc, List.cons_append, htext]
      exact List.cons_ne_nil _ _
    · exact ClosesArray.comma gap_nil gap_nil (h second List.mem_cons_self) hmore

/-- **The members behind the first one** close the object as they should. -/
theorem closesObject_compact {members : List (String × Value)}
    (h : ∀ member ∈ members, Reads member.2.compactChars member.2.reading)
    (first : String × Value) :
    ∃ more, compactMembers (first :: members) ++ ['\x7d'] =
        memberText first.1 [] [] first.2.compactChars ++ more ∧
      ClosesObject more (membersReading members) := by
  induction members generalizing first with
  | nil =>
    refine ⟨['\x7d'], ?_, ClosesObject.closed gap_nil⟩
    simp [compactMembers, memberText]
  | cons second rest ih =>
    obtain ⟨more, htext, hmore⟩ := ih (fun m hm => h m (List.mem_cons_of_mem _ hm)) second
    refine ⟨',' :: (memberText second.1 [] [] second.2.compactChars ++ more), ?_, ?_⟩
    · rw [compactMembers, List.append_assoc, List.cons_append, htext]
      · simp [memberText]
      · exact List.cons_ne_nil _ _
    · exact ClosesObject.comma gap_nil gap_nil gap_nil gap_nil (h second List.mem_cons_self) hmore

/-- **A value on one line is read as that value**, wherever a value ends behind it. -/
theorem reads_compactChars (value : Value) : Reads value.compactChars value.reading := by
  induction value using induct with
  | string text => exact Reads.string text
  | array elements ih =>
    cases elements with
    | nil => exact Reads.emptyArray gap_nil
    | cons first rest =>
      obtain ⟨more, htext, hmore⟩ :=
        closesArray_compact (fun v hv => ih v (List.mem_cons_of_mem _ hv)) first
      rw [compactChars, List.cons_append, htext]
      exact Reads.array gap_nil (ih first List.mem_cons_self) hmore
  | object members ih =>
    cases members with
    | nil => exact Reads.emptyObject gap_nil
    | cons first rest =>
      obtain ⟨more, htext, hmore⟩ :=
        closesObject_compact (fun m hm => ih m (List.mem_cons_of_mem _ hm)) first
      rw [compactChars, List.cons_append, htext]
      exact Reads.object gap_nil gap_nil gap_nil (ih first List.mem_cons_self) hmore

/-- **A document that holds a value on one line** is read as that value, and as nothing else. -/
theorem scanDocument_compact (value : Value) :
    scanDocument value.compact = ⟨value.reading, false⟩ := by
  apply scanDocument_of_reads gap_nil gap_nil value.reads_compactChars
  rw [compact, String.toList_ofList, List.nil_append, List.append_nil]

end Value

end QueryPaths.Json
