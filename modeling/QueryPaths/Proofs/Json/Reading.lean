import QueryPaths.Proofs.Json.StringText

/-! # Reading what is written as JSON

    A value that stands in a document is read as far as it goes, and the text behind it is left.
    What a larger value is read as depends on its parts alone, so a text is read as it was meant if
    its parts are. Between the parts there may be blanks.

    * **`Reads`**: a text is read as a value, wherever a value ends behind it.
    * **`ReadsText`**: a text is read as a string behind its opening quote.
    * **`ClosesArray`**, **`ClosesObject`**: the same for what follows an element or a member, up to
      the closing bracket.
    * **`Reads.quoted`**, **`Reads.array`**, **`Reads.member`** and others: a lemma for each way to
      write a value.
    * **`scanDocument_of_reads`**: whole documents.
-/

namespace QueryPaths.Json

variable {α : Type} {c d : Char} {s rest tail text more gap : List Char} {value : Reading}
  {elements : Elements} {members : Members} {key : String} {meant : Except Fault String}

/-! ## Blanks -/

/-- **Blanks between tokens.** -/
def Gap (s : List Char) : Prop := ∀ c ∈ s, isBlank c = true

theorem gap_nil : Gap [] := by
  intro c hc
  cases hc

theorem skipBlank_gap (h : Gap gap) (s : List Char) : skipBlank (gap ++ s) = skipBlank s :=
  List.dropWhile_append_of_pos h

theorem skipBlank_cons (h : isBlank c = false) (s : List Char) : skipBlank (c :: s) = c :: s := by
  rw [skipBlank, List.dropWhile_cons_of_neg]
  rw [h]
  exact Bool.false_ne_true

theorem skipBlank_gap_cons (h : Gap gap) (hc : isBlank c = false) (s : List Char) :
    skipBlank (gap ++ c :: s) = c :: s := by
  rw [skipBlank_gap h, skipBlank_cons hc]

/-! ## One step of a scan -/

/-- A scan without its bound: what was read, and the text behind it. -/
def Scan.parts {bound : Nat} (scan : Scan α bound) : α × Option (List Char) :=
  (scan.1, scan.2.map (·.1))

@[simp] theorem Scan.parts_widen {m n : Nat} (scan : Scan α m) (h : m ≤ n) :
    (scan.widen h).parts = scan.parts := by
  simp only [parts, widen, Option.map_map]
  rfl

theorem scanValue_array (h : (scanElements s).parts = (elements, some rest)) :
    (scanValue '[' s).parts = (.array elements, some rest) := by
  obtain ⟨hread, hrest⟩ := Prod.mk.inj h
  rw [scanValue, if_neg (by decide), if_pos rfl]
  show (Reading.array (scanElements s).1, (scanElements s).2.map (·.1)) = _
  rw [hread, hrest]

theorem scanValue_object (h : (scanMembers s).parts = (members, some rest)) :
    (scanValue '\x7b' s).parts = (.object members, some rest) := by
  obtain ⟨hread, hrest⟩ := Prod.mk.inj h
  rw [scanValue, if_neg (by decide), if_neg (by decide), if_pos rfl]
  show (Reading.object (scanMembers s).1, (scanMembers s).2.map (·.1)) = _
  rw [hread, hrest]

/-- Behind an opening bracket stands the end of the array or its first element. -/
theorem scanElements_cons (h : skipBlank s = c :: rest) :
    (scanElements s).parts =
      if c = ']' then (.closed, some rest) else (scanElement c rest).parts := by
  rw [scanElements]
  split
  · next heq => cases heq.symm.trans h
  · next heq =>
    obtain ⟨rfl, rfl⟩ := List.cons.inj (heq.symm.trans h)
    split
    · rfl
    · rw [Scan.parts_widen]

theorem scanElement_of_value (h : (scanValue c s).parts = (value, some rest)) :
    (scanElement c s).parts =
      (.element value (scanMoreElements rest).parts.1, (scanMoreElements rest).parts.2) := by
  rw [scanElement]
  split
  · next heq =>
    rw [heq] at h
    cases h
  · next shorter heq =>
    rw [heq] at h
    cases h
    rw [← Scan.parts_widen _ shorter]
    rfl

theorem scanMoreElements_closed (h : skipBlank s = ']' :: rest) :
    (scanMoreElements s).parts = (.closed, some rest) := by
  rw [scanMoreElements]
  split
  · next heq => cases heq.symm.trans h
  · next heq =>
    obtain ⟨rfl, rfl⟩ := List.cons.inj (heq.symm.trans h)
    rfl

theorem scanMoreElements_comma (h : skipBlank s = ',' :: rest) (hnext : skipBlank rest = c :: tail)
    (hc : c ≠ ']') : (scanMoreElements s).parts = (scanElement c tail).parts := by
  rw [scanMoreElements]
  split
  · next heq => cases heq.symm.trans h
  · next heq =>
    obtain ⟨rfl, rfl⟩ := List.cons.inj (heq.symm.trans h)
    rw [if_neg (by decide), if_neg (by decide)]
    split
    · next heq' => cases heq'.symm.trans hnext
    · next heq' =>
      obtain ⟨rfl, rfl⟩ := List.cons.inj (heq'.symm.trans hnext)
      rw [if_neg hc, Scan.parts_widen]

/-- Behind an opening brace stands the end of the object or the key of its first member. -/
theorem scanMembers_cons (h : skipBlank s = c :: rest) (hc : c = '\x7d' ∨ c = '"') :
    (scanMembers s).parts =
      if c = '\x7d' then (.closed, some rest) else (scanMember rest).parts := by
  rw [scanMembers]
  split
  · next heq => cases heq.symm.trans h
  · next heq =>
    obtain ⟨rfl, rfl⟩ := List.cons.inj (heq.symm.trans h)
    split
    · rfl
    · next hopen => rw [if_pos (hc.resolve_left hopen), Scan.parts_widen]

theorem scanMemberValue_colon (h : skipBlank s = ':' :: rest) (hnext : skipBlank rest = c :: tail) :
    (scanMemberValue s).parts = (scanValue c tail).parts := by
  rw [scanMemberValue]
  split
  · next heq => cases heq.symm.trans h
  · next heq =>
    obtain ⟨rfl, rfl⟩ := List.cons.inj (heq.symm.trans h)
    rw [if_neg (by decide)]
    split
    · next heq' => cases heq'.symm.trans hnext
    · next heq' =>
      obtain ⟨rfl, rfl⟩ := List.cons.inj (heq'.symm.trans hnext)
      rw [Scan.parts_widen]

theorem scanMember_of_value {shorter : tail.length < s.length}
    (hkey : scanText s = .ok (meant, ⟨tail, shorter⟩))
    (h : (scanMemberValue tail).parts = (value, some rest)) :
    (scanMember s).parts =
      (.member meant value (scanMoreMembers rest).parts.1, (scanMoreMembers rest).parts.2) := by
  rw [scanMember]
  split
  · next heq => cases heq.symm.trans hkey
  · next heq =>
    cases heq.symm.trans hkey
    split
    · next heq' =>
      rw [heq'] at h
      cases h
    · next shorter' heq' =>
      rw [heq'] at h
      cases h
      rw [← Scan.parts_widen _ (Nat.le_of_lt (Nat.lt_of_le_of_lt shorter' shorter))]
      rfl

theorem scanMoreMembers_closed (h : skipBlank s = '\x7d' :: rest) :
    (scanMoreMembers s).parts = (.closed, some rest) := by
  rw [scanMoreMembers]
  split
  · next heq => cases heq.symm.trans h
  · next heq =>
    obtain ⟨rfl, rfl⟩ := List.cons.inj (heq.symm.trans h)
    rfl

theorem scanMoreMembers_comma (h : skipBlank s = ',' :: rest)
    (hnext : skipBlank rest = '"' :: tail) :
    (scanMoreMembers s).parts = (scanMember tail).parts := by
  rw [scanMoreMembers]
  split
  · next heq => cases heq.symm.trans h
  · next heq =>
    obtain ⟨rfl, rfl⟩ := List.cons.inj (heq.symm.trans h)
    rw [if_neg (by decide), if_neg (by decide)]
    split
    · next heq' => cases heq'.symm.trans hnext
    · next heq' =>
      obtain ⟨rfl, rfl⟩ := List.cons.inj (heq'.symm.trans hnext)
      rw [if_neg (by decide), if_pos rfl, Scan.parts_widen]

/-! ## Texts of values -/

/-- **Can a value end in front of this text?** A number would go on with anything else. -/
def EndsValue (s : List Char) : Prop :=
  ∀ c ∈ s.head?, isBlank c = true ∨ c ∈ [',', ']', '\x7d']

/-- **A text is read as a value**, wherever a value ends behind it. -/
def Reads (text : List Char) (value : Reading) : Prop :=
  ∃ c s, text = c :: s ∧
    ∀ rest, EndsValue rest → (scanValue c (s ++ rest)).parts = (value, some rest)

/-- **A text is read as a string** behind its opening quote, up to the closing one. -/
def ReadsText (text : List Char) (meant : Except Fault String) : Prop :=
  ∀ rest, ∃ shorter, scanText (text ++ rest) = .ok (meant, ⟨rest, shorter⟩)

/-- **A text closes an array** behind an element: it is read as the elements that follow. -/
def ClosesArray (text : List Char) (elements : Elements) : Prop :=
  ∀ rest, EndsValue (text ++ rest) ∧
    (scanMoreElements (text ++ rest)).parts = (elements, some rest)

/-- **A text closes an object** behind a member. -/
def ClosesObject (text : List Char) (members : Members) : Prop :=
  ∀ rest, EndsValue (text ++ rest) ∧
    (scanMoreMembers (text ++ rest)).parts = (members, some rest)

theorem endsValue_nil : EndsValue [] := by
  intro c hc
  cases hc

/-- A value can end in front of a comma or a closing bracket, and of blanks before it. -/
theorem endsValue_gap_cons (hgap : Gap gap) (hc : c ∈ [',', ']', '\x7d']) (s : List Char) :
    EndsValue (gap ++ c :: s) := by
  intro d hd
  cases gap with
  | nil =>
    obtain rfl := Option.some.inj hd
    exact .inr hc
  | cons b gap =>
    obtain rfl := Option.some.inj hd
    exact .inl (hgap b List.mem_cons_self)

theorem scanValue_eq_none (h : isBlank c = true ∨ c = ']') : (scanValue c s).2 = none := by
  rw [scanValue]
  simp only [isBlank, Bool.or_eq_true, beq_iff_eq] at h
  rcases h with (((rfl | rfl) | rfl) | rfl) | rfl <;> rfl

theorem Reads.exists_cons (h : Reads text value) :
    ∃ c s, text = c :: s ∧ isBlank c = false ∧ c ≠ ']' ∧
      ∀ rest, EndsValue rest → (scanValue c (s ++ rest)).parts = (value, some rest) := by
  obtain ⟨c, s, htext, hscan⟩ := h
  have hstart : ¬(isBlank c = true ∨ c = ']') := by
    intro hno
    have hnone : (scanValue c (s ++ [])).2 = none := scanValue_eq_none hno
    have hsome : (scanValue c (s ++ [])).2.map (·.1) = some [] :=
      congrArg Prod.snd (hscan [] endsValue_nil)
    rw [hnone] at hsome
    cases hsome
  rw [not_or, Bool.not_eq_true] at hstart
  exact ⟨c, s, htext, hstart.1, hstart.2, hscan⟩

/-! ## Values -/

/-- **A string in quotes** is read as what is read behind the first one. -/
theorem Reads.quoted (h : ReadsText text meant) : Reads ('"' :: text) (.string meant) := by
  refine ⟨'"', text, rfl, fun rest _ => ?_⟩
  obtain ⟨shorter, hscan⟩ := h rest
  rw [scanValue, if_pos rfl, scanString, hscan]
  rfl

theorem readsText_encode (text : String) :
    ReadsText (text.toList.flatMap encodeChar ++ ['"']) (.ok text) :=
  scanText_encode text

/-- **A written string is read as its text.** -/
theorem Reads.string (text : String) : Reads (encode text) (.string (.ok text)) :=
  Reads.quoted (readsText_encode text)

theorem ClosesArray.closed (hgap : Gap gap) : ClosesArray (gap ++ [']']) .closed := by
  intro rest
  rw [List.append_assoc, List.singleton_append]
  refine ⟨endsValue_gap_cons hgap (by decide) rest, ?_⟩
  exact scanMoreElements_closed (skipBlank_gap_cons hgap (by decide) rest)

/-- What is read of an element and of what follows it. -/
theorem scanElement_of_reads
    (hvalue : ∀ rest, EndsValue rest → (scanValue c (s ++ rest)).parts = (value, some rest))
    (hmore : ClosesArray more elements) (rest : List Char) :
    (scanElement c (s ++ (more ++ rest))).parts = (.element value elements, some rest) := by
  obtain ⟨hends, hclose⟩ := hmore rest
  rw [scanElement_of_value (hvalue _ hends), hclose]

/-- **A comma opens another element.** -/
theorem ClosesArray.comma {gap' : List Char} (hgap : Gap gap) (hgap' : Gap gap')
    (hvalue : Reads text value) (hmore : ClosesArray more elements) :
    ClosesArray (gap ++ ',' :: (gap' ++ text ++ more)) (.element value elements) := by
  obtain ⟨c, s, rfl, hblank, hbracket, hscan⟩ := hvalue.exists_cons
  intro rest
  have hassoc : gap ++ ',' :: (gap' ++ c :: s ++ more) ++ rest =
      gap ++ ',' :: (gap' ++ c :: (s ++ (more ++ rest))) := by simp
  rw [hassoc]
  refine ⟨endsValue_gap_cons hgap (by decide) _, ?_⟩
  rw [scanMoreElements_comma (skipBlank_gap_cons hgap (by decide) _)
    (skipBlank_gap_cons hgap' hblank _) hbracket]
  exact scanElement_of_reads hscan hmore rest

/-- **An array without elements.** -/
theorem Reads.emptyArray (hgap : Gap gap) : Reads ('[' :: (gap ++ [']'])) (.array .closed) := by
  refine ⟨'[', gap ++ [']'], rfl, fun rest _ => scanValue_array ?_⟩
  rw [List.append_assoc, List.singleton_append,
    scanElements_cons (skipBlank_gap_cons hgap (by decide) rest), if_pos rfl]

/-- **An array with elements** is read as the array of what they are read as. -/
theorem Reads.array (hgap : Gap gap) (hvalue : Reads text value)
    (hmore : ClosesArray more elements) :
    Reads ('[' :: (gap ++ text ++ more)) (.array (.element value elements)) := by
  obtain ⟨c, s, rfl, hblank, hbracket, hscan⟩ := hvalue.exists_cons
  refine ⟨'[', gap ++ c :: s ++ more, rfl, fun rest _ => scanValue_array ?_⟩
  have hassoc : gap ++ c :: s ++ more ++ rest = gap ++ c :: (s ++ (more ++ rest)) := by simp
  rw [hassoc, scanElements_cons (skipBlank_gap_cons hgap hblank _), if_neg hbracket]
  exact scanElement_of_reads hscan hmore rest

theorem ClosesObject.closed (hgap : Gap gap) : ClosesObject (gap ++ ['\x7d']) .closed := by
  intro rest
  rw [List.append_assoc, List.singleton_append]
  refine ⟨endsValue_gap_cons hgap (by decide) rest, ?_⟩
  exact scanMoreMembers_closed (skipBlank_gap_cons hgap (by decide) rest)

/-- A member behind the opening quote of its key. -/
theorem scanMember_of_reads {keyText gap' : List Char} (hkey : ReadsText keyText meant)
    (hgap : Gap gap) (hgap' : Gap gap') (hvalue : Reads text value)
    (hmore : ClosesObject more members) (rest : List Char) :
    (scanMember (keyText ++ (gap ++ ':' :: (gap' ++ text ++ more ++ rest)))).parts =
      (.member meant value members, some rest) := by
  obtain ⟨c, s, rfl, hblank, -, hscan⟩ := hvalue.exists_cons
  obtain ⟨hends, hclose⟩ := hmore rest
  obtain ⟨shorter, hkey⟩ := hkey (gap ++ ':' :: (gap' ++ c :: s ++ more ++ rest))
  have hmember : (scanMemberValue (gap ++ ':' :: (gap' ++ c :: s ++ more ++ rest))).parts =
      (value, some (more ++ rest)) := by
    have hassoc : gap' ++ c :: s ++ more ++ rest = gap' ++ c :: (s ++ (more ++ rest)) := by simp
    rw [hassoc, scanMemberValue_colon (skipBlank_gap_cons hgap (by decide) _)
      (skipBlank_gap_cons hgap' hblank _)]
    exact hscan _ hends
  rw [scanMember_of_value hkey hmember, hclose]

/-- **A comma opens another member**: a key in quotes, a colon and a value. -/
theorem ClosesObject.member {before behind keyText gap' : List Char} (hbefore : Gap before)
    (hbehind : Gap behind) (hkey : ReadsText keyText meant) (hgap : Gap gap) (hgap' : Gap gap')
    (hvalue : Reads text value) (hmore : ClosesObject more members) :
    ClosesObject (before ++ ',' :: (behind ++ '"' :: (keyText ++
      (gap ++ ':' :: (gap' ++ text ++ more))))) (.member meant value members) := by
  intro rest
  have hassoc : before ++ ',' :: (behind ++ '"' :: (keyText ++
      (gap ++ ':' :: (gap' ++ text ++ more)))) ++ rest =
        before ++ ',' :: (behind ++ '"' :: (keyText ++
          (gap ++ ':' :: (gap' ++ text ++ more ++ rest)))) := by simp
  rw [hassoc]
  refine ⟨endsValue_gap_cons hbefore (by decide) _, ?_⟩
  rw [scanMoreMembers_comma (skipBlank_gap_cons hbefore (by decide) _)
    (skipBlank_gap_cons hbehind (by decide) _)]
  exact scanMember_of_reads hkey hgap hgap' hvalue hmore rest

/-- **An object with members** is read as the object of their keys and values. -/
theorem Reads.member {behind keyText gap' : List Char} (hbehind : Gap behind)
    (hkey : ReadsText keyText meant) (hgap : Gap gap) (hgap' : Gap gap')
    (hvalue : Reads text value) (hmore : ClosesObject more members) :
    Reads ('\x7b' :: (behind ++ '"' :: (keyText ++ (gap ++ ':' :: (gap' ++ text ++ more)))))
      (.object (.member meant value members)) := by
  refine ⟨'\x7b', behind ++ '"' :: (keyText ++ (gap ++ ':' :: (gap' ++ text ++ more))), rfl,
    fun rest _ => scanValue_object ?_⟩
  have hassoc : behind ++ '"' :: (keyText ++ (gap ++ ':' :: (gap' ++ text ++ more))) ++ rest =
      behind ++ '"' :: (keyText ++ (gap ++ ':' :: (gap' ++ text ++ more ++ rest))) := by simp
  rw [hassoc, scanMembers_cons (skipBlank_gap_cons hbehind (by decide) _) (.inr rfl),
    if_neg (by decide)]
  exact scanMember_of_reads hkey hgap hgap' hvalue hmore rest

/-- **A member whose key is written out.** -/
def memberText (key : String) (gap gap' text : List Char) : List Char :=
  encode key ++ gap ++ ':' :: (gap' ++ text)

theorem memberText_append (key : String) (gap gap' text more : List Char) :
    memberText key gap gap' text ++ more =
      '"' :: ((key.toList.flatMap encodeChar ++ ['"']) ++
        (gap ++ ':' :: (gap' ++ text ++ more))) := by
  simp [memberText, encode]

theorem ClosesObject.comma {before behind gap' : List Char} (hbefore : Gap before)
    (hbehind : Gap behind) (hgap : Gap gap) (hgap' : Gap gap') (hvalue : Reads text value)
    (hmore : ClosesObject more members) :
    ClosesObject (before ++ ',' :: (behind ++ (memberText key gap gap' text ++ more)))
      (.member (.ok key) value members) := by
  rw [memberText_append]
  exact ClosesObject.member hbefore hbehind (readsText_encode key) hgap hgap' hvalue hmore

/-- **An object without members.** -/
theorem Reads.emptyObject (hgap : Gap gap) :
    Reads ('\x7b' :: (gap ++ ['\x7d'])) (.object .closed) := by
  refine ⟨'\x7b', gap ++ ['\x7d'], rfl, fun rest _ => scanValue_object ?_⟩
  rw [List.append_assoc, List.singleton_append,
    scanMembers_cons (skipBlank_gap_cons hgap (by decide) rest) (.inl rfl), if_pos rfl]

/-- An object whose first key is written out. -/
theorem Reads.object {behind gap' : List Char} (hbehind : Gap behind) (hgap : Gap gap)
    (hgap' : Gap gap') (hvalue : Reads text value) (hmore : ClosesObject more members) :
    Reads ('\x7b' :: (behind ++ (memberText key gap gap' text ++ more)))
      (.object (.member (.ok key) value members)) := by
  rw [memberText_append]
  exact Reads.member hbehind (readsText_encode key) hgap hgap' hvalue hmore

/-! ## Documents -/

/-- **A whole text is read as the value that it holds**, with blanks around it. -/
theorem scanDocument_of_reads {document : String} {behind : List Char} (hgap : Gap gap)
    (hbehind : Gap behind) (hvalue : Reads text value)
    (htext : document.toList = gap ++ text ++ behind) : scanDocument document = ⟨value, false⟩ := by
  obtain ⟨c, s, rfl, hblank, -, hscan⟩ := hvalue.exists_cons
  have hstart : skipBlank document.toList = c :: (s ++ behind) := by
    rw [htext, List.append_assoc]
    exact skipBlank_gap_cons hgap hblank _
  have hends : EndsValue behind := fun d hd => .inl (hbehind d (List.mem_of_mem_head? hd))
  have hrest : skipBlank behind = [] := by
    rw [← List.append_nil behind, skipBlank_gap hbehind]
    rfl
  have hparts := hscan behind hends
  -- blanks are skipped in front, and nothing but blanks is left behind
  unfold scanDocument
  rw [hstart]
  dsimp only
  split
  · next heq =>
    rw [heq] at hparts
    cases hparts
  · next read left heq =>
    rw [heq] at hparts
    obtain ⟨hread, hleft⟩ := Prod.mk.inj hparts
    have hbehind' : left.1 = behind := Option.some.inj hleft
    rw [show read = value from hread, hbehind', hrest]
    rfl

end QueryPaths.Json
