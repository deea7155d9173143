import QueryPaths.Proofs.Json.Value

/-! # Indented values are read back

    Indentation only puts line breaks and spaces between the parts of a value, where a reader skips
    them. So a value with an element or member on each line is read as the same value as on one
    line.

    * **`Value.reads_prettyChars`**: an indented value is read as that value, at any level.
    * **`Value.scanDocument_pretty`**: so is a document that holds nothing else but blanks.
-/

namespace QueryPaths.Json

theorem gap_newLine (level : Nat) : Gap (newLine level) := by
  intro c hc
  rcases List.mem_cons.1 hc with rfl | hc
  · decide
  · obtain rfl := List.eq_of_mem_replicate hc
    decide

theorem gap_space : Gap [' '] := by
  intro c hc
  obtain rfl := List.mem_singleton.1 hc
  decide

namespace Value

/-! ## Arrays and objects -/

/-- **The elements behind the first one** close the array as they should, each on a line of its
    own. -/
theorem closesArray_pretty {elements : List Value} {level : Nat}
    (h : ∀ value ∈ elements, Reads (value.prettyChars level) value.reading) (outer : Nat)
    (first : Value) :
    ∃ more, prettyElements level (first :: elements) ++ (newLine outer ++ [']']) =
        newLine level ++ first.prettyChars level ++ more ∧
      ClosesArray more (elementsReading elements) := by
  induction elements generalizing first with
  | nil => exact ⟨newLine outer ++ [']'], rfl, ClosesArray.closed (gap_newLine outer)⟩
  | cons second rest ih =>
    obtain ⟨more, htext, hmore⟩ := ih (fun v hv => h v (List.mem_cons_of_mem _ hv)) second
    refine ⟨',' :: (newLine level ++ second.prettyChars level ++ more), ?_, ?_⟩
    · rw [prettyElements, List.append_assoc, List.cons_append, htext]
      exact List.cons_ne_nil _ _
    · exact ClosesArray.comma gap_nil (gap_newLine level) (h second List.mem_cons_self) hmore

/-- **The members behind the first one** close the object as they should. -/
theorem closesObject_pretty {members : List (String × Value)} {level : Nat}
    (h : ∀ member ∈ members, Reads (member.2.prettyChars level) member.2.reading) (outer : Nat)
    (first : String × Value) :
    ∃ more, prettyMembers level (first :: members) ++ (newLine outer ++ ['\x7d']) =
        newLine level ++ (memberText first.1 [] [' '] (first.2.prettyChars level) ++ more) ∧
      ClosesObject more (membersReading members) := by
  induction members generalizing first with
  | nil =>
    refine ⟨newLine outer ++ ['\x7d'], ?_, ClosesObject.closed (gap_newLine outer)⟩
    simp [prettyMembers, memberText]
  | cons second rest ih =>
    obtain ⟨more, htext, hmore⟩ := ih (fun m hm => h m (List.mem_cons_of_mem _ hm)) second
    refine ⟨',' :: (newLine level ++
      (memberText second.1 [] [' '] (second.2.prettyChars level) ++ more)), ?_, ?_⟩
    · rw [prettyMembers, List.append_assoc, List.cons_append, htext]
      · simp [memberText]
      · exact List.cons_ne_nil _ _
    · exact ClosesObject.comma gap_nil (gap_newLine level) gap_nil gap_space
        (h second List.mem_cons_self) hmore

/-! ## Values -/

/-- **An indented value is read as that value**, at whatever level it stands. -/
theorem reads_prettyChars (value : Value) :
    ∀ level, Reads (value.prettyChars level) value.reading := by
  induction value using induct with
  | string text => exact fun _ => Reads.string text
  | array elements ih =>
    intro level
    cases elements with
    | nil => exact Reads.emptyArray gap_nil
    | cons first rest =>
      -- what is inside stands one level deeper
      obtain ⟨more, htext, hmore⟩ := closesArray_pretty
        (fun v hv => ih v (List.mem_cons_of_mem _ hv) (level + 1)) level first
      rw [prettyChars, List.append_assoc, List.cons_append, htext]
      exact Reads.array (gap_newLine _) (ih first List.mem_cons_self _) hmore
  | object members ih =>
    intro level
    cases members with
    | nil => exact Reads.emptyObject gap_nil
    | cons first rest =>
      obtain ⟨more, htext, hmore⟩ := closesObject_pretty
        (fun m hm => ih m (List.mem_cons_of_mem _ hm) (level + 1)) level first
      rw [prettyChars, List.append_assoc, List.cons_append, htext]
      exact Reads.object (gap_newLine _) gap_nil gap_space (ih first List.mem_cons_self _) hmore

/-- **A document that holds an indented value**, with blanks behind it, is read as that value. -/
theorem scanDocument_pretty (value : Value) (behind : String) (h : Gap behind.toList) :
    scanDocument (value.pretty ++ behind) = ⟨value.reading, false⟩ := by
  apply scanDocument_of_reads gap_nil h (value.reads_prettyChars 0)
  rw [String.toList_append, pretty, String.toList_ofList, List.nil_append]

end Value

end QueryPaths.Json
