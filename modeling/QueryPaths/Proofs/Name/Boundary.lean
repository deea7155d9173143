import QueryPaths.Proofs.Name.Identifier

/-! # What a constant name adds to a raw name

    Words are cut apart and joined again only to be set off from each other. Seen from the raw
    name, each character is upper-cased in its place, and an underscore is put between two
    neighbours where a word ends. Nothing is dropped, and nothing else is added but an underscore
    in front of a leading digit.

    * **`Parts`**, **`BoundaryAt`**: where a word ends, by what stands there.
    * **`spaced`**: a name with its characters upper-cased and its words set off, position by
      position.
    * **`upperSnake_eq_spaced`**: joining the words comes to the same.
    * **`filter_upperSnake`**, **`map_toUpper_sublist`**: no character is dropped.
    * **`constantName_sets_off_words`**: the constant generated for any raw field name.
-/

namespace QueryPaths.Name

variable {name : List Char} {a c : Char}

/-! ## Word boundaries -/

/-- **Neighbours that belong to different words**: a lower-case letter and an upper-case one, a
    letter and a digit, a digit and a letter, or two upper-case letters of which the second
    starts a word that goes on in lower case. -/
def Parts (a b : Char) (next : Option Char) : Prop :=
  (a.isLower = true ∧ b.isUpper = true) ∨
  (a.isLower = true ∧ b.isDigit = true) ∨
  (a.isUpper = true ∧ b.isDigit = true) ∨
  (a.isDigit = true ∧ b.isLower = true) ∨
  (a.isDigit = true ∧ b.isUpper = true) ∨
  (a.isUpper = true ∧ b.isUpper = true ∧ ∃ c ∈ next, c.isLower = true)

/-- **A word ends at a position**: between the character there and its right neighbour. -/
def BoundaryAt (name : List Char) (i : Nat) : Prop :=
  ∃ a ∈ name[i]?, ∃ b ∈ name[i + 1]?, Parts a b name[i + 2]?

instance (a b : Char) (next : Option Char) : Decidable (Parts a b next) :=
  inferInstanceAs (Decidable (_ ∨ _))

instance (name : List Char) (i : Nat) : Decidable (BoundaryAt name i) :=
  inferInstanceAs (Decidable (∃ a ∈ name[i]?, _))

/-- The underscore behind a position, if a word ends there. -/
def markAt (name : List Char) (i : Nat) : List Char := if BoundaryAt name i then ['_'] else []

/-- **The name with its words set off**: each character is upper-cased in its place, and one
    underscore stands behind it where a word ends. -/
def spaced (name : List Char) : List Char :=
  name.zipIdx.flatMap fun p => p.1.toUpper :: markAt name p.2

theorem markAt_cons_succ (i : Nat) : markAt (a :: name) (i + 1) = markAt name i := by
  have hsame : BoundaryAt (a :: name) (i + 1) ↔ BoundaryAt name i := by
    unfold BoundaryAt
    simp only [List.getElem?_cons_succ]
  exact if_congr hsame rfl rfl

/-- At the first character, its word ends by what stands behind it. -/
theorem markAt_cons_zero :
    markAt (a :: name) 0 = if endsWord a name = true then ['_'] else [] := by
  have hsame : BoundaryAt (a :: name) 0 ↔ endsWord a name = true := by
    cases name with
    | nil => simp [BoundaryAt, endsWord]
    | cons b rest =>
      cases rest with
      | nil => simp [BoundaryAt, endsWord, Parts, or_assoc]
      | cons c rest => simp [BoundaryAt, endsWord, Parts, or_assoc, and_assoc]
  exact if_congr hsame rfl rfl

theorem spaced_cons (a : Char) (name : List Char) :
    spaced (a :: name) = a.toUpper :: (markAt (a :: name) 0 ++ spaced name) := by
  unfold spaced
  rw [List.zipIdx_cons, List.zipIdx_succ, List.flatMap_cons, List.flatMap_map]
  simp only [markAt_cons_succ]
  exact List.cons_append

/-- **Joining the words sets them off.** -/
theorem upperSnake_eq_spaced (name : List Char) : upperSnake name = spaced name := by
  induction name with
  | nil => rfl
  | cons a name ih =>
    rw [upperSnake_cons, spaced_cons, markAt_cons_zero, ih]
    split
    · rfl
    · rfl

/-! ## Nothing is dropped -/

theorem toUpper_eq_underscore : c.toUpper = '_' ↔ c = '_' := by
  constructor
  · intro h
    by_cases hlower : c.isLower = true
    · have hupper : c.toUpper.isUpper = true := isUpper_toUpper_of_isLower hlower
      rw [h] at hupper
      exact absurd hupper (by decide)
    · rwa [toUpper_of_not_isLower hlower] at h
  · intro h
    rw [h]
    decide

/-- **No character is dropped**: each stands upper-cased in its turn. -/
theorem map_toUpper_sublist (name : List Char) :
    (name.map Char.toUpper).Sublist (upperSnake name) := by
  induction name with
  | nil => exact List.Sublist.refl _
  | cons a name ih =>
    rw [List.map_cons, upperSnake_cons]
    apply List.Sublist.cons_cons
    split
    · exact ih.cons '_'
    · exact ih

/-- **Only underscores are added.** -/
theorem filter_upperSnake (name : List Char) :
    (upperSnake name).filter (· != '_') = (name.map Char.toUpper).filter (· != '_') := by
  induction name with
  | nil => rfl
  | cons a name ih =>
    rw [upperSnake_cons, List.map_cons, List.filter_cons, List.filter_cons]
    have hrest : (if endsWord a name then '_' :: upperSnake name else upperSnake name).filter
        (· != '_') = (name.map Char.toUpper).filter (· != '_') := by
      split
      · rw [List.filter_cons_of_neg (by decide), ih]
      · exact ih
    rw [hrest]

/-- What is left of a raw name beside underscores are its letters and digits. -/
theorem filter_map_toUpper_normalize (raw : List Char) :
    ((normalize raw).map Char.toUpper).filter (· != '_') =
      (raw.filter Char.isAlphanum).map Char.toUpper := by
  induction raw with
  | nil => rfl
  | cons c raw ih =>
    have hsplit : normalize (c :: raw) = (if isWordChar c then c else '_') :: normalize raw := rfl
    rw [hsplit, List.map_cons]
    by_cases halnum : c.isAlphanum = true
    · have hne : c.toUpper ≠ '_' := by
        intro h
        rw [toUpper_eq_underscore.1 h] at halnum
        exact absurd halnum (by decide)
      rw [if_pos (by simp [isWordChar, halnum]), List.filter_cons_of_pos (by simpa using hne), ih,
        List.filter_cons_of_pos halnum, List.map_cons]
    · -- anything else becomes an underscore, or is one
      have hblank : (if isWordChar c then c else '_') = '_' := by
        split
        · next hword => simpa [isWordChar, halnum] using hword
        · rfl
      rw [hblank, List.filter_cons_of_neg (by decide), ih, List.filter_cons_of_neg halnum]

/-- Underscores alone stay as they are, and come from nothing else. -/
theorem all_underscore_upperSnake (name : List Char) :
    (upperSnake name).all (· == '_') = true ↔ ∀ c ∈ name, c = '_' := by
  have hfilter := filter_upperSnake name
  constructor
  · intro h c hc
    rw [← toUpper_eq_underscore]
    have hmem := (map_toUpper_sublist name).subset (List.mem_map_of_mem hc)
    exact beq_iff_eq.1 (List.all_eq_true.1 h _ hmem)
  · intro h
    -- only underscores are added, so nothing else can be there
    have hnone : (upperSnake name).filter (· != '_') = [] := by
      rw [hfilter, List.filter_eq_nil_iff]
      intro d hd
      obtain ⟨c, hc, rfl⟩ := List.mem_map.1 hd
      rw [toUpper_eq_underscore.2 (h c hc)]
      decide
    rw [List.all_eq_true]
    intro d hd
    by_contra hne
    have hmem : d ∈ (upperSnake name).filter (· != '_') :=
      List.mem_filter.2 ⟨hd, by simpa using hne⟩
    rw [hnone] at hmem
    cases hmem

/-! ## Constant names -/

/-- **The constant name of a raw name is that name with its words set off.** Every character that
    is no ASCII letter, no ASCII digit and no underscore counts as an underscore. If there are
    underscores only, the constant is called `FIELD`. Otherwise each character is upper-cased in
    its place, one underscore stands between two neighbours of different words, and one more in
    front if a digit came first. So every character is still there, and beside underscores there
    is nothing but the letters and digits of the raw name, in their order. -/
theorem constantName_sets_off_words (raw : String) :
    ((∀ c ∈ normalize raw.toList, c = '_') ∧ constantName raw = "FIELD") ∨
    ((∃ c ∈ normalize raw.toList, c ≠ '_') ∧
      (constantName raw).toList =
        (if (spaced (normalize raw.toList)).head?.any Char.isDigit then ['_'] else []) ++
          spaced (normalize raw.toList) ∧
      ((normalize raw.toList).map Char.toUpper).Sublist (constantName raw).toList ∧
      (constantName raw).toList.filter (· != '_') =
        (raw.toList.filter Char.isAlphanum).map Char.toUpper) := by
  by_cases hblank : ∀ c ∈ normalize raw.toList, c = '_'
  · left
    refine ⟨hblank, ?_⟩
    rw [constantName, repair, if_pos ((all_underscore_upperSnake _).2 hblank)]
    rfl
  · right
    have hsolid : ∃ c ∈ normalize raw.toList, c ≠ '_' := by
      simpa only [not_forall, exists_prop] using hblank
    -- the name is not blank, so repairs may put an underscore in front and nothing else
    have hrepair : (constantName raw).toList =
        (if (upperSnake (normalize raw.toList)).head?.any Char.isDigit then ['_'] else []) ++
          upperSnake (normalize raw.toList) := by
      rw [constantName, String.toList_ofList, repair,
        if_neg fun h => hblank ((all_underscore_upperSnake _).1 h)]
      split
      · rfl
      · rfl
    refine ⟨hsolid, ?_, ?_, ?_⟩
    · rw [hrepair, upperSnake_eq_spaced]
    · rw [hrepair]
      exact (map_toUpper_sublist _).trans (List.sublist_append_right _ _)
    · rw [hrepair, List.filter_append, filter_upperSnake, filter_map_toUpper_normalize]
      split
      · rfl
      · rfl

example : constantName "HTTPServer2Go" = "HTTP_SERVER_2_GO" := by decide

end QueryPaths.Name
