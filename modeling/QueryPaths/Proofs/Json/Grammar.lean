import QueryPaths.Proofs.Json.Number

/-! # The grammar of JSON

    A text is a JSON value if the grammar says so: words, numbers, strings in quotes with their
    escapes, arrays and objects, with blanks between all of these. A reader that follows the text
    from the front finds the value that the grammar gives, and may pass over any such value.

    An array is put together from its end: behind an element stands a comma with the next one, or
    the bracket. So there is a text of a value, a text of what follows an element, and a text of
    what follows a member.

    * **`Spells`**: the grammar, for values and for what follows in arrays and objects.
    * **`Spells.isRead`**: a reader finds what is spelled.
    * **`Spells.skip`**: what is spelled can be passed over.
    * **`scanDocument_of_spells`**: whole documents.
-/

namespace QueryPaths.Json

/-! ## Values -/

/-- **A part of a document**: a value, or what follows in an array or an object up to its closing
    bracket. -/
inductive Part where
  | value (value : Reading)
  | elements (rest : Elements)
  | members (rest : Members)

/-- **The grammar**: a text spells a part of a document. -/
inductive Spells : List Char → Part → Prop where
  | null : Spells ['n', 'u', 'l', 'l'] (.value .null)
  | true : Spells ['t', 'r', 'u', 'e'] (.value (.boolean true))
  | false : Spells ['f', 'a', 'l', 's', 'e'] (.value (.boolean false))
  | number {n : NumberText} {mark : Char} (hn : n.WellFormed) (hmark : mark = 'e' ∨ mark = 'E') :
      Spells (n.charsWith mark) (.value (.number n.found))
  | string {units : List StringUnit} {text : List Char} (h : StringText units text) :
      Spells ('"' :: text) (.value (.string (meaning units)))
  | emptyArray {gap : List Char} (hgap : Gap gap) :
      Spells ('[' :: (gap ++ [']'])) (.value (.array .closed))
  | array {gap text more : List Char} {value : Reading} {elements : Elements} (hgap : Gap gap)
      (hvalue : Spells text (.value value)) (hmore : Spells more (.elements elements)) :
      Spells ('[' :: (gap ++ text ++ more)) (.value (.array (.element value elements)))
  | emptyObject {gap : List Char} (hgap : Gap gap) :
      Spells ('\x7b' :: (gap ++ ['\x7d'])) (.value (.object .closed))
  | object {behind key gap gap' text more : List Char} {units : List StringUnit} {value : Reading}
      {members : Members} (hbehind : Gap behind) (hkey : StringText units key) (hgap : Gap gap)
      (hgap' : Gap gap') (hvalue : Spells text (.value value))
      (hmore : Spells more (.members members)) :
      Spells ('\x7b' :: (behind ++ '"' :: (key ++ (gap ++ ':' :: (gap' ++ text ++ more)))))
        (.value (.object (.member (meaning units) value members)))
  | noElement {gap : List Char} (hgap : Gap gap) : Spells (gap ++ [']']) (.elements .closed)
  | element {gap gap' text more : List Char} {value : Reading} {elements : Elements}
      (hgap : Gap gap) (hgap' : Gap gap') (hvalue : Spells text (.value value))
      (hmore : Spells more (.elements elements)) :
      Spells (gap ++ ',' :: (gap' ++ text ++ more)) (.elements (.element value elements))
  | noMember {gap : List Char} (hgap : Gap gap) : Spells (gap ++ ['\x7d']) (.members .closed)
  | member {before behind key gap gap' text more : List Char} {units : List StringUnit}
      {value : Reading} {members : Members} (hbefore : Gap before) (hbehind : Gap behind)
      (hkey : StringText units key) (hgap : Gap gap) (hgap' : Gap gap')
      (hvalue : Spells text (.value value)) (hmore : Spells more (.members members)) :
      Spells (before ++ ',' :: (behind ++ '"' :: (key ++ (gap ++ ':' :: (gap' ++ text ++ more)))))
        (.members (.member (meaning units) value members))

/-! ## Words -/

theorem scanWord_append (word : List Char) (meant : Reading) (rest : List Char) :
    (scanWord word meant (word ++ rest)).parts = (meant, some rest) := by
  have hfront : word.isPrefixOf (word ++ rest) = Bool.true :=
    List.isPrefixOf_iff_prefix.2 (List.prefix_append word rest)
  have hdrop : (word ++ rest).drop word.length = rest := List.drop_left
  rw [scanWord, if_pos hfront]
  show (meant, some ((word ++ rest).drop word.length)) = _
  rw [hdrop]

theorem Reads.null : Reads ['n', 'u', 'l', 'l'] .null := by
  refine ⟨'n', ['u', 'l', 'l'], rfl, fun rest _ => ?_⟩
  rw [scanValue, if_neg (by decide), if_neg (by decide), if_neg (by decide), if_pos rfl]
  exact scanWord_append _ _ rest

theorem Reads.true : Reads ['t', 'r', 'u', 'e'] (.boolean true) := by
  refine ⟨'t', ['r', 'u', 'e'], rfl, fun rest _ => ?_⟩
  rw [scanValue, if_neg (by decide), if_neg (by decide), if_neg (by decide), if_neg (by decide),
    if_pos rfl]
  exact scanWord_append _ _ rest

theorem Reads.false : Reads ['f', 'a', 'l', 's', 'e'] (.boolean false) := by
  refine ⟨'f', ['a', 'l', 's', 'e'], rfl, fun rest _ => ?_⟩
  rw [scanValue, if_neg (by decide), if_neg (by decide), if_neg (by decide), if_neg (by decide),
    if_neg (by decide), if_pos rfl]
  exact scanWord_append _ _ rest

/-! ## What is spelled -/

/-- **A reader finds a part of a document** in its text. -/
def Part.IsRead (text : List Char) : Part → Prop
  | .value found => Reads text found
  | .elements rest => ClosesArray text rest
  | .members rest => ClosesObject text rest

/-- The first fault of a part that is passed over. -/
def Part.skip : Part → Except Fault Unit
  | .value found => found.skip
  | .elements rest => rest.skip
  | .members rest => rest.skip

variable {text : List Char} {part : Part}

/-- **A reader finds what is spelled.** -/
theorem Spells.isRead (h : Spells text part) : part.IsRead text := by
  -- one case for each way to spell a part of a value
  induction h with
  | null => exact Reads.null
  | true => exact Reads.true
  | false => exact Reads.false
  | number hn hmark => exact Reads.number hn hmark
  | string h => exact Reads.quoted (scanText_of_stringText h)
  | emptyArray hgap => exact Reads.emptyArray hgap
  | array hgap _ _ hvalue hmore => exact Reads.array hgap hvalue hmore
  | emptyObject hgap => exact Reads.emptyObject hgap
  | object hbehind hkey hgap hgap' _ _ hvalue hmore =>
    exact Reads.member hbehind (scanText_of_stringText hkey) hgap hgap' hvalue hmore
  | noElement hgap => exact ClosesArray.closed hgap
  | element hgap hgap' _ _ hvalue hmore => exact ClosesArray.comma hgap hgap' hvalue hmore
  | noMember hgap => exact ClosesObject.closed hgap
  | member hbefore hbehind hkey hgap hgap' _ _ hvalue hmore =>
    exact ClosesObject.member hbefore hbehind (scanText_of_stringText hkey) hgap hgap' hvalue hmore

theorem Elements.skip_element {value : Reading} {rest : Elements} (hvalue : value.skip = .ok ())
    (hrest : rest.skip = .ok ()) : (Elements.element value rest).skip = .ok () := by
  rw [Elements.skip, hvalue]
  exact hrest

theorem Members.skip_member {key : Except Fault String} {value : Reading} {rest : Members}
    (hvalue : value.skip = .ok ()) (hrest : rest.skip = .ok ()) :
    (Members.member key value rest).skip = .ok () := by
  rw [Members.skip, hvalue]
  exact hrest

/-- **What is spelled can be passed over.** -/
theorem Spells.skip (h : Spells text part) : part.skip = .ok () := by
  induction h with
  | null | true | false | number | string => rfl
  | emptyArray | emptyObject | noElement | noMember => rfl
  | array _ _ _ hvalue hmore => exact Elements.skip_element hvalue hmore
  | object _ _ _ _ _ _ hvalue hmore =>
    rw [Part.skip, Reading.skip]
    exact Members.skip_member hvalue hmore
  | element _ _ _ _ hvalue hmore => exact Elements.skip_element hvalue hmore
  | member _ _ _ _ _ _ _ hvalue hmore =>
    rw [Part.skip]
    exact Members.skip_member hvalue hmore

/-! ## Texts that are written out -/

/-- **A text that is written out** spells itself. -/
theorem Spells.written (s : String) : Spells (encode s) (.value (.string (.ok s))) := by
  have h := Spells.string (stringText_encode s.toList)
  rw [meaning_map_unitOf] at h
  exact h

/-- An object whose first key is written out, with no blanks around the key. -/
theorem Spells.first (key : String) {text more : List Char} {value : Reading} {members : Members}
    (hvalue : Spells text (.value value)) (hmore : Spells more (.members members)) :
    Spells ('\x7b' :: (encode key ++ ':' :: (text ++ more)))
      (.value (.object (.member (.ok key) value members))) := by
  have h := Spells.object gap_nil (stringText_encode key.toList) gap_nil gap_nil hvalue hmore
  rw [meaning_map_unitOf] at h
  exact h

/-- A further member whose key is written out. -/
theorem Spells.next (key : String) {text more : List Char} {value : Reading} {members : Members}
    (hvalue : Spells text (.value value)) (hmore : Spells more (.members members)) :
    Spells (',' :: (encode key ++ ':' :: (text ++ more)))
      (.members (.member (.ok key) value members)) := by
  have h := Spells.member gap_nil gap_nil (stringText_encode key.toList) gap_nil gap_nil hvalue
    hmore
  rw [meaning_map_unitOf] at h
  exact h

/-! ## Documents -/

/-- **A document spells a value**, with blanks around it. -/
def SpellsDocument (document : String) (value : Reading) : Prop :=
  ∃ before text behind, Gap before ∧ Gap behind ∧ Spells text (.value value) ∧
    document.toList = before ++ text ++ behind

/-- **A document is read as the value that it spells**, and as nothing else. -/
theorem scanDocument_of_spells {document : String} {value : Reading}
    (h : SpellsDocument document value) : scanDocument document = ⟨value, false⟩ := by
  obtain ⟨before, text, behind, hbefore, hbehind, hspells, htext⟩ := h
  exact scanDocument_of_reads hbefore hbehind hspells.isRead htext

theorem SpellsDocument.skip {document : String} {value : Reading}
    (h : SpellsDocument document value) : value.skip = .ok () := by
  obtain ⟨_, _, _, -, -, hspells, -⟩ := h
  exact hspells.skip

end QueryPaths.Json
