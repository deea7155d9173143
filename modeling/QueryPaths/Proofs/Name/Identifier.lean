import Mathlib.Data.List.Basic
import QueryPaths.Name.Constant
import QueryPaths.Proofs.Source.Ident

/-! # Constant names are identifiers

    A constant name consists of upper-case letters, digits and underscores. It
    does not start with a digit and is more than underscores, and since every
    keyword but the underscore has a lower-case letter, it is none of them.

    * **`IsConstantName`**: what constant names look like.
    * **`isConstantName_constantName`**: the constant generated for any raw field
      name looks like that.
    * **`parse?_constantName`**: so it is an identifier that stands for itself.
-/

namespace QueryPaths.Name

open Source

/-- The characters of constant names. -/
def isConstantChar (c : Char) : Bool := c.isUpper || c.isDigit || c == '_'

/-- **What constant names look like.** -/
structure IsConstantName (name : List Char) : Prop where
  /-- Upper-case letters, digits and underscores. -/
  chars : ∀ c ∈ name, isConstantChar c = true
  /-- No digit in front. -/
  head : ∀ c ∈ name.head?, c.isDigit = false
  /-- More than underscores. -/
  solid : ∃ c ∈ name, c ≠ '_'

/-! ## Letters in lower and upper case -/

theorem isLower_iff_toNat {c : Char} : c.isLower = true ↔ 97 ≤ c.toNat ∧ c.toNat ≤ 122 :=
  Bool.and_eq_true_iff.trans (and_congr decide_eq_true_iff decide_eq_true_iff)

theorem isUpper_iff_toNat {c : Char} : c.isUpper = true ↔ 65 ≤ c.toNat ∧ c.toNat ≤ 90 :=
  decide_eq_true_iff

theorem isAlpha_iff {c : Char} : c.isAlpha = true ↔ c.isUpper = true ∨ c.isLower = true :=
  Bool.or_eq_true_iff

theorem isAlpha_of_isUpper {c : Char} (h : c.isUpper = true) : c.isAlpha = true :=
  isAlpha_iff.2 (.inl h)

theorem isAlpha_of_isLower {c : Char} (h : c.isLower = true) : c.isAlpha = true :=
  isAlpha_iff.2 (.inr h)

theorem not_isUpper_of_isLower {c : Char} (h : c.isLower = true) : ¬c.isUpper = true := by
  rw [isUpper_iff_toNat]
  have hlower := isLower_iff_toNat.1 h
  omega

theorem toUpper_of_not_isLower {c : Char} (h : ¬c.isLower = true) : c.toUpper = c := by
  apply dif_neg
  intro hletter
  exact h (isLower_iff_toNat.2 hletter)

@[simp] theorem isUpper_toUpper (c : Char) : c.toUpper.isUpper = c.isAlpha := by
  by_cases hlower : c.isLower = true
  · have hletters : ∀ n < 123, 97 ≤ n → (Char.ofNat n).toUpper.isUpper = true := by decide
    obtain ⟨hle, hge⟩ := isLower_iff_toNat.1 hlower
    have hupper := hletters c.toNat (by omega) hle
    rw [Char.ofNat_toNat] at hupper
    rw [hupper, isAlpha_of_isLower hlower]
  · rw [toUpper_of_not_isLower hlower, Bool.eq_iff_iff, isAlpha_iff]
    exact (or_iff_left hlower).symm

theorem isUpper_toUpper_of_isLower {c : Char} (h : c.isLower = true) : c.toUpper.isUpper = true :=
  (isUpper_toUpper c).trans (isAlpha_of_isLower h)

/-! ## One character at a time -/

theorem words_ne_nil (name : List Char) : words name ≠ [] := by
  cases name with
  | nil => simp [words]
  | cons c rest =>
    rw [words]
    split
    · simp
    · split
      · simp
      · split <;> simp

theorem endsWord_underscore (rest : List Char) : endsWord '_' rest = false := by
  cases rest with
  | nil => rfl
  | cons b others =>
    have hlower : Char.isLower '_' = false := by decide
    have hupper : Char.isUpper '_' = false := by decide
    have hdigit : Char.isDigit '_' = false := by decide
    simp [endsWord, hlower, hupper, hdigit]

/-- **Each character is upper-cased**, with an underscore behind it where a word
    ends. -/
theorem upperSnake_cons (c : Char) (rest : List Char) :
    upperSnake (c :: rest) =
      c.toUpper :: if endsWord c rest then '_' :: upperSnake rest else upperSnake rest := by
  obtain ⟨w, ws, hwords⟩ := List.exists_cons_of_ne_nil (words_ne_nil rest)
  by_cases hc : c = '_'
  · subst hc
    simp [upperSnake, words, hwords, endsWord_underscore]
  · by_cases hends : endsWord c rest = true
    · simp [upperSnake, words, hwords, hc, hends]
    · simp [upperSnake, words, hwords, hc, hends]

theorem upperSnake_nil : upperSnake [] = [] := rfl

/-! ## Characters of constant names -/

theorem isWordChar_of_mem_normalize {raw : List Char} {c : Char} (h : c ∈ normalize raw) :
    isWordChar c = true := by
  obtain ⟨d, -, rfl⟩ := List.mem_map.1 h
  split
  · next hd => exact hd
  · decide

theorem isConstantChar_toUpper {c : Char} (h : isWordChar c = true) :
    isConstantChar c.toUpper = true := by
  by_cases halpha : c.isAlpha = true
  · simp [isConstantChar, halpha]
  · -- digits and underscores stay
    have hlower : ¬c.isLower = true := by
      intro hlower
      exact halpha (isAlpha_of_isLower hlower)
    rw [toUpper_of_not_isLower hlower]
    simp only [isWordChar, Char.isAlphanum, halpha, Bool.false_or, Bool.or_eq_true] at h
    simp only [isConstantChar, Bool.or_eq_true]
    exact h.elim (fun hdigit => .inl (.inr hdigit)) .inr

theorem isConstantChar_of_mem_upperSnake {name : List Char}
    (h : ∀ c ∈ name, isWordChar c = true) : ∀ c ∈ upperSnake name, isConstantChar c = true := by
  induction name with
  | nil => simp [upperSnake_nil]
  | cons d rest ih =>
    have hrest := ih fun c hc => h c (List.mem_cons_of_mem _ hc)
    intro c hc
    rw [upperSnake_cons] at hc
    rcases List.mem_cons.1 hc with rfl | hc
    · exact isConstantChar_toUpper (h d List.mem_cons_self)
    · split at hc
      · rcases List.mem_cons.1 hc with rfl | hc
        · decide
        · exact hrest c hc
      · exact hrest c hc

/-! ## Constant names -/

/-- The last repairs make a constant name. -/
theorem isConstantName_repair {name : List Char} (h : ∀ c ∈ name, isConstantChar c = true) :
    IsConstantName (repair name) := by
  unfold repair
  -- a blank name is replaced, and a digit in front gets an underscore
  split
  · refine ⟨?_, ?_, 'F', List.mem_cons_self, by decide⟩
    · exact List.all_eq_true.1 (by decide : blankName.all isConstantChar = true)
    · rintro c ⟨⟩
      decide
  · next hblank =>
    have hsolid : ∃ c ∈ name, c ≠ '_' := by simpa using hblank
    split
    · refine ⟨?_, by simp, ?_⟩
      · intro c hc
        rcases List.mem_cons.1 hc with rfl | hc
        · decide
        · exact h c hc
      · obtain ⟨c, hc, hne⟩ := hsolid
        exact ⟨c, List.mem_cons_of_mem _ hc, hne⟩
    · next hdigit =>
      refine ⟨h, ?_, hsolid⟩
      intro c hc
      rw [Option.mem_def.1 hc] at hdigit
      simpa using hdigit

/-- **The constant generated for any raw field name is a constant name.** -/
theorem isConstantName_constantName (raw : String) :
    IsConstantName (constantName raw).toList := by
  rw [constantName, String.toList_ofList]
  apply isConstantName_repair
  apply isConstantChar_of_mem_upperSnake
  exact fun c hc => isWordChar_of_mem_normalize hc

/-! ## Identifiers -/

theorem toNat_of_isConstantChar {c : Char} (h : isConstantChar c = true) :
    (65 ≤ c.toNat ∧ c.toNat ≤ 90 ∨ 48 ≤ c.toNat ∧ c.toNat ≤ 57) ∨ c = '_' := by
  rw [isConstantChar, Bool.or_eq_true, Bool.or_eq_true, isUpper_iff_toNat, Char.isDigit_iff_toNat,
    beq_iff_eq] at h
  exact h

theorem isLower_of_isConstantChar {c : Char} (h : isConstantChar c = true) :
    c.isLower = false := by
  rcases toNat_of_isConstantChar h with hcode | rfl
  · by_contra hlower
    rw [Bool.not_eq_false, isLower_iff_toNat] at hlower
    omega
  · decide

theorem isIdentContinue_of_isConstantChar {c : Char} (h : isConstantChar c = true) :
    isIdentContinue c = true := by
  simp only [isConstantChar, Bool.or_eq_true, beq_iff_eq] at h
  rcases h with (hupper | hdigit) | rfl
  · exact isIdentContinue_of_isAlphanum (by simp [Char.isAlphanum, isAlpha_of_isUpper hupper])
  · exact isIdentContinue_of_isAlphanum (by simp [Char.isAlphanum, hdigit])
  · decide

theorem isIdentStart_of_isConstantChar {c : Char} (h : isConstantChar c = true)
    (hdigit : c.isDigit = false) : isIdentStart c = true := by
  simp only [isConstantChar, hdigit, Bool.or_false, Bool.or_eq_true, beq_iff_eq] at h
  rcases h with hupper | rfl
  · exact isIdentStart_of_isAlpha (isAlpha_of_isUpper hupper)
  · decide

theorem IsConstantName.isWord {name : List Char} (h : IsConstantName name) : IsWord name := by
  refine ⟨?_, fun c hc => isIdentContinue_of_isConstantChar (h.chars c hc)⟩
  obtain ⟨d, hd, -⟩ := h.solid
  obtain ⟨c, rest, rfl⟩ := List.exists_cons_of_ne_nil (List.ne_nil_of_mem hd)
  exact ⟨c, rfl, isIdentStart_of_isConstantChar (h.chars c List.mem_cons_self) (h.head c rfl)⟩

/-- Every keyword but the underscore has a lower-case letter. -/
theorem any_isLower_of_mem_keywords {word : List Char} (h : word ∈ keywords) :
    word = ['_'] ∨ word.any Char.isLower = true := by
  have hall : (keywords.all fun word => word == ['_'] || word.any Char.isLower) = true := by decide
  simpa using List.all_eq_true.1 hall word h

theorem IsConstantName.not_mem_keywords {name : List Char} (h : IsConstantName name) :
    name ∉ keywords := by
  intro hkey
  -- either the underscore, or a lower-case letter, which no constant name has
  rcases any_isLower_of_mem_keywords hkey with rfl | hany
  · obtain ⟨c, hc, hne⟩ := h.solid
    exact hne (List.mem_singleton.1 hc)
  · obtain ⟨c, hc, hlower⟩ := List.any_eq_true.1 hany
    rw [isLower_of_isConstantChar (h.chars c hc)] at hlower
    cases hlower

/-- **The constant generated for any raw field name is an identifier** that stands for
    itself. -/
theorem parse?_constantName (raw : String) :
    Ident.parse? (constantName raw) = some ⟨false, (constantName raw).toList⟩ :=
  parse?_word (isConstantName_constantName raw).isWord
    (isConstantName_constantName raw).not_mem_keywords

end QueryPaths.Name
