import QueryPaths.Proofs.Name.Stability

/-! # One name in several spellings

    The words of a name may be joined by separators or told apart by capital letters. Either way a
    word ends where the next one begins: a separator stands there, which becomes an underscore, or
    a lower-case letter in front of a capital one, where an underscore is put in. Nothing is cut
    inside a word, because a capital letter is followed by a lower-case one.

    * **`IsLowerWord`**: words of at least two lower-case letters.
    * **`Joined`**, **`camelCase`**, **`pascalCase`**: words with separators between them, and words
      told apart by capital letters.
    * **`upperSnake_letters`**, **`upperSnake_capitalized`**: one word, whatever stands behind it.
    * **`constantName_spelled`**: all of these names have the same constant.
-/

namespace QueryPaths.Name

variable {w rest s : List Char} {ws : List (List Char)} {b c : Char}

/-! ## Words and spellings -/

/-- **A word**: at least two ASCII lower-case letters. -/
structure IsLowerWord (w : List Char) : Prop where
  /-- It consists of lower-case letters. -/
  lower : ∀ c ∈ w, c.isLower = true
  /-- It is more than a single letter. -/
  long : 2 ≤ w.length

instance (w : List Char) : Decidable (IsLowerWord w) :=
  decidable_of_iff (w.all Char.isLower = true ∧ 2 ≤ w.length)
    ⟨fun h => ⟨List.all_eq_true.1 h.1, h.2⟩, fun h => ⟨List.all_eq_true.2 h.lower, h.long⟩⟩

/-- **Words with single separators between them.** A separator is any character but an ASCII letter
    or digit, and each of them may be another one. -/
inductive Joined : List (List Char) → List Char → Prop where
  /-- A single word needs no separator. -/
  | single (w : List Char) : Joined [w] w
  /-- One more word in front. -/
  | cons {ws : List (List Char)} {s : List Char} (w : List Char) {separator : Char}
      (breaks : separator.isAlphanum = false) (others : Joined ws s) :
      Joined (w :: ws) (w ++ separator :: s)

/-- The word with its first letter in upper case. -/
def capitalized : List Char → List Char
  | [] => []
  | c :: rest => c.toUpper :: rest

/-- **Words in a row**, all of them capitalized. -/
def pascalCase (ws : List (List Char)) : List Char := ws.flatMap capitalized

/-- **Words in a row**, all but the first capitalized. -/
def camelCase : List (List Char) → List Char
  | [] => []
  | w :: ws => w ++ pascalCase ws

/-- **A name made from words**, in one of these ways. -/
inductive Spelled (ws : List (List Char)) : String → Prop where
  | joined {s : List Char} (h : Joined ws s) : Spelled ws (String.ofList s)
  | camel : Spelled ws (String.ofList (camelCase ws))
  | pascal : Spelled ws (String.ofList (pascalCase ws))

/-- **Words in upper case** with underscores between them. -/
def upperWords (ws : List (List Char)) : List Char :=
  ['_'].intercalate (ws.map (·.map Char.toUpper))

theorem upperWords_cons (w : List Char) (ws : List (List Char)) :
    upperWords (w :: ws) = w.map Char.toUpper ++ if ws = [] then [] else '_' :: upperWords ws := by
  cases ws with
  | nil => simp [upperWords]
  | cons v vs => simp [upperWords, List.intercalate]

theorem IsLowerWord.exists_cons (h : IsLowerWord w) :
    ∃ c t, w = c :: t ∧ c.isLower = true ∧ t ≠ [] ∧ ∀ d ∈ t, d.isLower = true := by
  obtain ⟨hlower, hlong⟩ := h
  match w with
  | c :: d :: t =>
    exact ⟨c, d :: t, rfl, hlower c List.mem_cons_self, List.cons_ne_nil _ _,
      fun e he => hlower e (List.mem_cons_of_mem _ he)⟩

theorem IsLowerWord.ne_nil (h : IsLowerWord w) : w ≠ [] := by
  obtain ⟨c, t, rfl, -⟩ := h.exists_cons
  exact List.cons_ne_nil c t

theorem IsLowerWord.isAlpha (h : IsLowerWord w) : ∀ c ∈ w, c.isAlpha = true := by
  intro c hc
  exact isAlpha_of_isLower (h.lower c hc)

theorem Joined.ne_nil (h : Joined ws s) : ws ≠ [] := by
  cases h
  · exact List.cons_ne_nil _ _
  · exact List.cons_ne_nil _ _

theorem joined_intercalate (hne : ws ≠ []) : Joined ws (['_'].intercalate ws) := by
  induction ws with
  | nil => exact absurd rfl hne
  | cons w ws ih =>
    cases ws with
    | nil =>
      have hsingle : ['_'].intercalate [w] = w := by simp
      rw [hsingle]
      exact Joined.single w
    | cons v vs =>
      have hsplit : ['_'].intercalate (w :: v :: vs) = w ++ '_' :: ['_'].intercalate (v :: vs) := by
        simp [List.intercalate]
      rw [hsplit]
      exact Joined.cons w (by decide) (ih (List.cons_ne_nil _ _))

/-! ## Where words end -/

/-- **What may stand behind a word**: nothing, an underscore, or a capital letter. -/
def EndsWords (rest : List Char) : Prop := ∀ b ∈ rest.head?, b = '_' ∨ b.isUpper = true

/-- What becomes of the text behind a word: a capital letter is set off. -/
def behindWord (rest : List Char) : List Char :=
  if rest.head?.any Char.isUpper then '_' :: upperSnake rest else upperSnake rest

theorem endsWord_of_isLower (hc : c.isAlpha = true) (hb : b.isLower = true) (rest : List Char) :
    endsWord c (b :: rest) = false := by
  have hupper : b.isUpper = false := Bool.eq_false_iff.2 (not_isUpper_of_isLower hb)
  have hdigit : b.isDigit = false := isDigit_of_isAlpha (isAlpha_of_isLower hb)
  simp [endsWord, hupper, hdigit, isDigit_of_isAlpha hc]

/-- Behind its last letter a word is set off from a capital letter only. -/
theorem endsWord_of_endsWords (hc : c.isLower = true) (h : EndsWords rest) :
    endsWord c rest = rest.head?.any Char.isUpper := by
  have hupper : c.isUpper = false := Bool.eq_false_iff.2 (not_isUpper_of_isLower hc)
  have hdigit : c.isDigit = false := isDigit_of_isAlpha (isAlpha_of_isLower hc)
  cases rest with
  | nil => rfl
  | cons b rest =>
    rcases h b rfl with rfl | hb
    · simp [endsWord, hc, hupper, hdigit]
    · simp [endsWord, hc, hb]

/-- **Lower-case letters are upper-cased one by one**, and nothing is put between them. -/
theorem upperSnake_letters (hw : ∀ c ∈ w, c.isLower = true) (hne : w ≠ [])
    (hrest : EndsWords rest) :
    upperSnake (w ++ rest) = w.map Char.toUpper ++ behindWord rest := by
  induction w with
  | nil => exact absurd rfl hne
  | cons c w ih =>
    have hc : c.isLower = true := hw c List.mem_cons_self
    -- the last letter is followed by what is behind the word, the others by a letter
    cases w with
    | nil =>
      show upperSnake (c :: rest) = c.toUpper :: behindWord rest
      rw [upperSnake_cons, endsWord_of_endsWords hc hrest]
      rfl
    | cons d w =>
      have hd : d.isLower = true := hw d (List.mem_cons_of_mem _ List.mem_cons_self)
      have hothers := ih (fun e he => hw e (List.mem_cons_of_mem _ he)) (List.cons_ne_nil _ _)
      have hinside : endsWord c (d :: w ++ rest) = false :=
        endsWord_of_isLower (isAlpha_of_isLower hc) hd _
      rw [List.cons_append, upperSnake_cons, hinside, if_neg Bool.false_ne_true, hothers]
      rfl

/-- **The letters of a capitalized word stay together**, because the letter behind the capital
    one is in lower case. -/
theorem upperSnake_capitalized (hw : IsLowerWord w) (hrest : EndsWords rest) :
    upperSnake (capitalized w ++ rest) = w.map Char.toUpper ++ behindWord rest := by
  obtain ⟨c, t, rfl, hc, hne, ht⟩ := hw.exists_cons
  have hupper : c.toUpper.isUpper = true := isUpper_toUpper_of_isLower hc
  have htwice : c.toUpper.toUpper = c.toUpper := by
    apply toUpper_of_not_isLower
    intro hlower
    exact not_isUpper_of_isLower hlower hupper
  have hinside : endsWord c.toUpper (t ++ rest) = false := by
    obtain ⟨d, t, rfl⟩ := List.exists_cons_of_ne_nil hne
    exact endsWord_of_isLower (isAlpha_of_isUpper hupper) (ht d List.mem_cons_self) _
  show upperSnake (c.toUpper :: (t ++ rest)) = _
  rw [upperSnake_cons, hinside, if_neg Bool.false_ne_true, upperSnake_letters ht hne hrest, htwice]
  rfl

/-! ## Words in a row -/

theorem head?_capitalized (hw : IsLowerWord w) (rest : List Char) :
    ∃ b ∈ (capitalized w ++ rest).head?, b.isUpper = true := by
  obtain ⟨c, t, rfl, hc, -, -⟩ := hw.exists_cons
  exact ⟨c.toUpper, rfl, isUpper_toUpper_of_isLower hc⟩

/-- Words in a row can stand behind a word, and are set off from it. -/
theorem behindWord_pascalCase (hws : ∀ w ∈ ws, IsLowerWord w) :
    EndsWords (pascalCase ws) ∧
      behindWord (pascalCase ws) = if ws = [] then [] else '_' :: upperSnake (pascalCase ws) := by
  cases ws with
  | nil => exact ⟨fun b hb => (Option.not_mem_none b hb).elim, rfl⟩
  | cons w ws =>
    obtain ⟨b, hb, hupper⟩ := head?_capitalized (hws w List.mem_cons_self) (pascalCase ws)
    have hhead : (pascalCase (w :: ws)).head? = some b := hb
    refine ⟨?_, ?_⟩
    · intro d hd
      rw [hhead] at hd
      obtain rfl := Option.some.inj hd
      exact .inr hupper
    · rw [behindWord, hhead, Option.any_some, if_pos hupper, if_neg (List.cons_ne_nil _ _)]

/-- **Capital letters tell words apart.** -/
theorem upperSnake_pascalCase (hws : ∀ w ∈ ws, IsLowerWord w) :
    upperSnake (pascalCase ws) = upperWords ws := by
  induction ws with
  | nil => rfl
  | cons w ws ih =>
    have hothers : ∀ v ∈ ws, IsLowerWord v := fun v hv => hws v (List.mem_cons_of_mem _ hv)
    obtain ⟨hends, hbehind⟩ := behindWord_pascalCase hothers
    have hsplit : pascalCase (w :: ws) = capitalized w ++ pascalCase ws := rfl
    rw [hsplit, upperSnake_capitalized (hws w List.mem_cons_self) hends, hbehind, ih hothers,
      upperWords_cons]

/-- Words in a row are told apart even if the first of them is in lower case. -/
theorem upperSnake_camelCase (hws : ∀ w ∈ ws, IsLowerWord w) :
    upperSnake (camelCase ws) = upperWords ws := by
  cases ws with
  | nil => rfl
  | cons w ws =>
    have hothers : ∀ v ∈ ws, IsLowerWord v := fun v hv => hws v (List.mem_cons_of_mem _ hv)
    obtain ⟨hends, hbehind⟩ := behindWord_pascalCase hothers
    have hw : IsLowerWord w := hws w List.mem_cons_self
    rw [camelCase, upperSnake_letters hw.lower hw.ne_nil hends, hbehind,
      upperSnake_pascalCase hothers, upperWords_cons]

/-! ## Separators -/

theorem normalize_of_isAlpha (h : ∀ c ∈ w, c.isAlpha = true) : normalize w = w := by
  have hkeep : ∀ c ∈ w, (if isWordChar c then c else '_') = c := by
    intro c hc
    rw [if_pos]
    simp [isWordChar, Char.isAlphanum, h c hc]
  unfold normalize
  rw [List.map_congr_left hkeep, List.map_id']

theorem normalize_separator {separator : Char} (h : separator.isAlphanum = false)
    (s : List Char) : normalize (separator :: s) = '_' :: normalize s := by
  have hblank : (if isWordChar separator then separator else '_') = '_' := by
    split
    · next hword => simpa [isWordChar, h] using hword
    · rfl
  show (if isWordChar separator then separator else '_') :: normalize s = _
  rw [hblank]

/-- **Separators tell words apart**, whatever they are. -/
theorem upperSnake_joined (h : Joined ws s) (hws : ∀ w ∈ ws, IsLowerWord w) :
    upperSnake (normalize s) = upperWords ws := by
  induction h with
  | single w =>
    have hw : IsLowerWord w := hws w List.mem_cons_self
    have hnone : EndsWords [] := fun b hb => (Option.not_mem_none b hb).elim
    have hend := upperSnake_letters hw.lower hw.ne_nil hnone
    rw [List.append_nil] at hend
    rw [normalize_of_isAlpha hw.isAlpha, hend, upperWords_cons, if_pos rfl]
    rfl
  | @cons ws s w separator hbreak hrest ih =>
    have hw : IsLowerWord w := hws w List.mem_cons_self
    -- the separator has become an underscore, and that ends the word
    have hends : EndsWords ('_' :: normalize s) := by
      intro b hb
      exact .inl (Option.some.inj hb).symm
    have hbehind : behindWord ('_' :: normalize s) = '_' :: upperWords ws := by
      have hlow : Char.isUpper '_' = false := by decide
      rw [behindWord, List.head?_cons, Option.any_some, hlow, if_neg Bool.false_ne_true,
        upperSnake_cons, endsWord_underscore, if_neg Bool.false_ne_true,
        ih fun v hv => hws v (List.mem_cons_of_mem _ hv)]
      rfl
    have hnormal : normalize (w ++ separator :: s) = w ++ '_' :: normalize s := by
      rw [normalize, List.map_append]
      show normalize w ++ normalize (separator :: s) = _
      rw [normalize_of_isAlpha hw.isAlpha, normalize_separator hbreak]
    rw [hnormal, upperSnake_letters hw.lower hw.ne_nil hends, hbehind, upperWords_cons,
      if_neg hrest.ne_nil]

/-! ## Constants -/

theorem repair_upperWords (hne : ws ≠ []) (hws : ∀ w ∈ ws, IsLowerWord w) :
    repair (upperWords ws) = upperWords ws := by
  obtain ⟨w, vs, rfl⟩ := List.exists_cons_of_ne_nil hne
  obtain ⟨c, t, rfl, hc, -, -⟩ := (hws w List.mem_cons_self).exists_cons
  have halpha : c.toUpper.isAlpha = true := isAlpha_of_isUpper (isUpper_toUpper_of_isLower hc)
  have hsolid : c.toUpper ≠ '_' := by
    intro heq
    rw [heq] at halpha
    exact absurd halpha (by decide)
  rw [upperWords_cons, List.map_cons, List.cons_append, repair, if_neg, if_neg]
  · simp [isDigit_of_isAlpha halpha]
  · simp [hsolid]

theorem isAlpha_of_mem_pascalCase (hws : ∀ w ∈ ws, IsLowerWord w) :
    ∀ c ∈ pascalCase ws, c.isAlpha = true := by
  intro c hc
  obtain ⟨w, hw, hc⟩ := List.mem_flatMap.1 hc
  obtain ⟨d, t, rfl, hd, -, ht⟩ := (hws w hw).exists_cons
  rcases List.mem_cons.1 hc with rfl | hc
  · exact isAlpha_of_isUpper (isUpper_toUpper_of_isLower hd)
  · exact isAlpha_of_isLower (ht c hc)

/-- **Words with separators** have their upper-cased words as the constant. -/
theorem constantName_joined (hws : ∀ w ∈ ws, IsLowerWord w) (h : Joined ws s) :
    constantName (String.ofList s) = String.ofList (upperWords ws) := by
  rw [constantName, String.toList_ofList, upperSnake_joined h hws, repair_upperWords h.ne_nil hws]

/-- **Capitalized words** have their upper-cased words as the constant. -/
theorem constantName_pascalCase (hne : ws ≠ []) (hws : ∀ w ∈ ws, IsLowerWord w) :
    constantName (String.ofList (pascalCase ws)) = String.ofList (upperWords ws) := by
  rw [constantName, String.toList_ofList, normalize_of_isAlpha (isAlpha_of_mem_pascalCase hws),
    upperSnake_pascalCase hws, repair_upperWords hne hws]

/-- **Words of which all but the first are capitalized** have their upper-cased words as the
    constant. -/
theorem constantName_camelCase (hne : ws ≠ []) (hws : ∀ w ∈ ws, IsLowerWord w) :
    constantName (String.ofList (camelCase ws)) = String.ofList (upperWords ws) := by
  have halpha : ∀ c ∈ camelCase ws, c.isAlpha = true := by
    obtain ⟨w, vs, rfl⟩ := List.exists_cons_of_ne_nil hne
    intro c hc
    rcases List.mem_append.1 hc with hc | hc
    · exact (hws w List.mem_cons_self).isAlpha c hc
    · exact isAlpha_of_mem_pascalCase (fun v hv => hws v (List.mem_cons_of_mem _ hv)) c hc
  rw [constantName, String.toList_ofList, normalize_of_isAlpha halpha, upperSnake_camelCase hws,
    repair_upperWords hne hws]

/-- **All spellings of the same words have the same constant.** -/
theorem constantName_spelled {name : String} (hne : ws ≠ []) (hws : ∀ w ∈ ws, IsLowerWord w)
    (h : Spelled ws name) : constantName name = String.ofList (upperWords ws) := by
  cases h with
  | joined hjoined => exact constantName_joined hws hjoined
  | camel => exact constantName_camelCase hne hws
  | pascal => exact constantName_pascalCase hne hws

end QueryPaths.Name
