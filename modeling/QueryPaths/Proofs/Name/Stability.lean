import Mathlib.Data.List.Chain
import QueryPaths.Proofs.Name.Boundary

/-! # Formatting a name again

    A constant name is a normal form. It has no lower-case letters, so only a letter beside a
    digit could still be cut apart, and where a raw name has them side by side an underscore
    already stands between them. So a second pass over the name finds no word boundary, and
    nothing that has to be repaired.

    * **`Touches`**: a letter and a digit side by side, in upper case.
    * **`isChain_upperSnake`**, **`isChain_repair`**: words that are set off no longer touch, and
      the repairs leave that so.
    * **`constantName_eq_self_iff`**: the names that formatting leaves as they are.
    * **`constantName_again`**: the constant name of any raw name is one of them.
-/

namespace QueryPaths.Name

variable {name : List Char} {a b c : Char}

/-! ## Letters beside digits -/

/-- **A capital letter and a digit**, in either order. -/
def Touches (a b : Char) : Prop :=
  (a.isUpper = true ∧ b.isDigit = true) ∨ (a.isDigit = true ∧ b.isUpper = true)

instance (a b : Char) : Decidable (Touches a b) := inferInstanceAs (Decidable (_ ∨ _))

theorem Touches.symm (h : Touches a b) : Touches b a := by
  unfold Touches at h ⊢
  tauto

theorem not_touches_underscore (a : Char) : ¬Touches a '_' := by
  intro h
  rcases h with ⟨-, hdigit⟩ | ⟨-, hupper⟩
  · exact absurd hdigit (by decide)
  · exact absurd hupper (by decide)

theorem not_underscore_touches (b : Char) : ¬Touches '_' b := by
  intro h
  exact not_touches_underscore b h.symm

theorem isDigit_of_isAlpha (h : c.isAlpha = true) : c.isDigit = false := by
  by_contra hdigit
  rw [Bool.not_eq_false, Char.isDigit_iff_toNat] at hdigit
  rw [isAlpha_iff, isUpper_iff_toNat, isLower_iff_toNat] at h
  change 48 ≤ c.toNat ∧ c.toNat ≤ 57 at hdigit
  omega

theorem isDigit_toUpper (c : Char) : c.toUpper.isDigit = c.isDigit := by
  by_cases halpha : c.isAlpha = true
  · have hupper : c.toUpper.isAlpha = true := isAlpha_of_isUpper ((isUpper_toUpper c).trans halpha)
    rw [isDigit_of_isAlpha hupper, isDigit_of_isAlpha halpha]
  · have hlower : ¬c.isLower = true := by
      intro hlower
      exact halpha (isAlpha_of_isLower hlower)
    rw [toUpper_of_not_isLower hlower]

/-- **What would touch in upper case are two words of the raw name.** -/
theorem endsWord_of_touches (h : Touches a.toUpper b.toUpper) (rest : List Char) :
    endsWord a (b :: rest) = true := by
  unfold Touches at h
  simp only [isDigit_toUpper, isUpper_toUpper, isAlpha_iff] at h
  simp only [endsWord, Bool.or_eq_true, Bool.and_eq_true]
  tauto

/-- **Once its words are set off, no letter of a name touches a digit.** -/
theorem isChain_upperSnake (name : List Char) :
    (upperSnake name).IsChain fun a b => ¬Touches a b := by
  induction name with
  | nil => exact List.isChain_nil
  | cons a rest ih =>
    rw [upperSnake_cons]
    by_cases hends : endsWord a rest = true
    · rw [if_pos hends, List.isChain_cons_cons]
      refine ⟨not_touches_underscore _, List.isChain_cons.2 ⟨?_, ih⟩⟩
      intro b _
      exact not_underscore_touches b
    · rw [if_neg hends]
      refine List.isChain_cons.2 ⟨?_, ih⟩
      intro d hd htouches
      cases rest with
      | nil => cases hd
      | cons b rest =>
        -- the next character is the upper-cased one of the raw name, and no word ends before it
        rw [upperSnake_cons] at hd
        obtain rfl := Option.some.inj hd
        exact hends (endsWord_of_touches htouches rest)

/-- The last repairs bring no letter beside a digit. -/
theorem isChain_repair (h : name.IsChain fun a b => ¬Touches a b) :
    (repair name).IsChain fun a b => ¬Touches a b := by
  unfold repair
  split
  · decide
  · split
    · refine List.isChain_cons.2 ⟨?_, h⟩
      intro b _
      exact not_underscore_touches b
    · exact h

/-! ## Names without boundaries -/

/-- In upper case, only letters and digits that touch belong to different words. -/
theorem touches_of_parts {next : Option Char} (ha : isConstantChar a = true)
    (hb : isConstantChar b = true) (hnext : ∀ c ∈ next, isConstantChar c = true)
    (h : Parts a b next) : Touches a b := by
  have hlower : a.isLower = false := isLower_of_isConstantChar ha
  have hlower' : b.isLower = false := isLower_of_isConstantChar hb
  have hnone : ¬∃ c ∈ next, c.isLower = true := by
    intro hex
    obtain ⟨c, hc, hclower⟩ := hex
    rw [isLower_of_isConstantChar (hnext c hc)] at hclower
    cases hclower
  simp only [Parts, hlower, hlower', hnone, Bool.false_eq_true, false_and, and_false, or_false,
    false_or] at h
  exact h

/-- **No word ends in a constant name**, if no letter touches a digit. -/
theorem not_boundaryAt_of_isChain (hchars : ∀ c ∈ name, isConstantChar c = true)
    (h : name.IsChain fun a b => ¬Touches a b) (i : Nat) : ¬BoundaryAt name i := by
  intro hboundary
  obtain ⟨a, ha, b, hb, hparts⟩ := hboundary
  obtain ⟨hi, rfl⟩ := List.getElem?_eq_some_iff.1 ha
  obtain ⟨hi', rfl⟩ := List.getElem?_eq_some_iff.1 hb
  have hnext : ∀ c ∈ name[i + 2]?, isConstantChar c = true :=
    fun c hc => hchars c (List.mem_of_getElem? hc)
  exact List.isChain_iff_getElem.1 h i hi'
    (touches_of_parts (hchars _ (List.getElem_mem hi)) (hchars _ (List.getElem_mem hi')) hnext
      hparts)

theorem isWordChar_of_isConstantChar (h : isConstantChar c = true) : isWordChar c = true := by
  simp only [isConstantChar, Bool.or_eq_true] at h
  simp only [isWordChar, Char.isAlphanum, Bool.or_eq_true, isAlpha_iff]
  tauto

theorem toUpper_of_isConstantChar (h : isConstantChar c = true) : c.toUpper = c := by
  apply toUpper_of_not_isLower
  rw [isLower_of_isConstantChar h]
  exact Bool.false_ne_true

theorem normalize_eq_self (h : ∀ c ∈ name, isConstantChar c = true) : normalize name = name := by
  have hkeep : ∀ c ∈ name, (if isWordChar c then c else '_') = c :=
    fun c hc => if_pos (isWordChar_of_isConstantChar (h c hc))
  unfold normalize
  rw [List.map_congr_left hkeep, List.map_id']

/-- **Where no word ends, nothing is set off.** -/
theorem upperSnake_eq_self (hchars : ∀ c ∈ name, isConstantChar c = true)
    (h : ∀ i, ¬BoundaryAt name i) : upperSnake name = name := by
  have hkeep : ∀ p ∈ name.zipIdx, p.1.toUpper :: markAt name p.2 = [p.1] := by
    intro p hp
    have hmem : p.1 ∈ name := List.fst_mem_of_mem_zipIdx hp
    have hupper : p.1.toUpper = p.1 := toUpper_of_isConstantChar (hchars p.1 hmem)
    have hmark : markAt name p.2 = [] := if_neg (h p.2)
    rw [hupper, hmark]
  rw [upperSnake_eq_spaced, spaced, List.flatMap_congr hkeep, ← List.map_eq_flatMap,
    List.zipIdx_map_fst]

theorem IsConstantName.not_blank (h : IsConstantName name) : ¬name.all (· == '_') = true := by
  obtain ⟨c, hc, hne⟩ := h.solid
  intro hall
  exact hne (beq_iff_eq.1 (List.all_eq_true.1 hall c hc))

theorem IsConstantName.not_digit_first (h : IsConstantName name) :
    ¬name.head?.any Char.isDigit = true := by
  intro hany
  obtain ⟨c, hc, hdigit⟩ := (Option.any_eq_true ..).1 hany
  rw [h.head c hc] at hdigit
  cases hdigit

theorem IsConstantName.repair_eq_self (h : IsConstantName name) : repair name = name := by
  rw [repair, if_neg h.not_blank, if_neg h.not_digit_first]

/-! ## Formatting again -/

theorem not_boundaryAt_constantName (raw : String) (i : Nat) :
    ¬BoundaryAt (constantName raw).toList i := by
  have hchain : (constantName raw).toList.IsChain fun a b => ¬Touches a b := by
    rw [constantName, String.toList_ofList]
    exact isChain_repair (isChain_upperSnake _)
  exact not_boundaryAt_of_isChain (isConstantName_constantName raw).chars hchain i

/-- **The names that formatting leaves as they are** are the constant names in which no word
    ends. -/
theorem constantName_eq_self_iff {name : String} :
    constantName name = name ↔ IsConstantName name.toList ∧ ∀ i, ¬BoundaryAt name.toList i := by
  constructor
  · intro h
    have hname := isConstantName_constantName name
    have hwhole := not_boundaryAt_constantName name
    rw [h] at hname hwhole
    exact ⟨hname, hwhole⟩
  · intro h
    obtain ⟨hname, hwhole⟩ := h
    rw [constantName, normalize_eq_self hname.chars, upperSnake_eq_self hname.chars hwhole,
      hname.repair_eq_self, String.ofList_toList]

/-- **Formatting a name again changes nothing.** The second pass reads the constant name as it
    stands and finds no word boundary in it. Nor does it repair anything: what it joins again is
    more than underscores and has no digit in front. -/
theorem constantName_again (raw : String) :
    constantName (constantName raw) = constantName raw ∧
      normalize (constantName raw).toList = (constantName raw).toList ∧
      (∀ i, ¬BoundaryAt (normalize (constantName raw).toList) i) ∧
      (∃ c ∈ upperSnake (normalize (constantName raw).toList), c ≠ '_') ∧
      ∀ c ∈ (upperSnake (normalize (constantName raw).toList)).head?, c.isDigit = false := by
  have hname : IsConstantName (constantName raw).toList := isConstantName_constantName raw
  have hwhole : ∀ i, ¬BoundaryAt (constantName raw).toList i := not_boundaryAt_constantName raw
  have hread : normalize (constantName raw).toList = (constantName raw).toList :=
    normalize_eq_self hname.chars
  have hjoined : upperSnake (constantName raw).toList = (constantName raw).toList :=
    upperSnake_eq_self hname.chars hwhole
  refine ⟨constantName_eq_self_iff.2 ⟨hname, hwhole⟩, hread, ?_, ?_, ?_⟩
  · rw [hread]
    exact hwhole
  · rw [hread, hjoined]
    exact hname.solid
  · rw [hread, hjoined]
    exact hname.head

example : constantName "1stV2" = "_1_ST_V_2" ∧ constantName "_1_ST_V_2" = "_1_ST_V_2" := by decide

end QueryPaths.Name
