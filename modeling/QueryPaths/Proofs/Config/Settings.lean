import QueryPaths.Config.Settings
import QueryPaths.Emit.Renderer
import QueryPaths.Proofs.Source.Ident

/-! # What usable settings say about names

    The settings are checked character by character. What passes for an identifier
    there is a word of the generated source, but it may be a keyword.

    * **`Config.validate_eq_ok_iff`**: the settings are usable exactly if each of the
      three checks passes.
    * **`isPlainIdent_append`**: a fragment may stand behind an identifier.
    * **`identifier_of_isPlainIdent`**: such a name is admitted into the source unless
      it is a keyword.
-/

namespace QueryPaths

open Source

/-- **The settings are usable** exactly if each of them is. -/
theorem Config.validate_eq_ok_iff {config : Config} :
    config.validate = .ok () ↔
      (config.generate.suffix ≠ "" ∧ isIdentFragment config.generate.suffix = true) ∧
        isPlainIdent config.emit.selfConst = true ∧
        isIndexFileName config.emit.indexFile = true := by
  unfold Config.validate
  constructor
  · intro h
    split at h
    · cases h
    · next hsuffix =>
      split at h
      · cases h
      · next hself =>
        split at h
        · cases h
        · next hindex =>
          rw [not_or] at hsuffix
          exact ⟨⟨hsuffix.1, by simpa using hsuffix.2⟩, by simpa using hself, by simpa using hindex⟩
  · intro h
    obtain ⟨⟨hne, hfragment⟩, hself, hindex⟩ := h
    simp [hne, hfragment, hself, hindex]

theorem isPlainIdent_iff {s : String} :
    isPlainIdent s = true ↔
      (∃ c ∈ s.toList.head?, (c.isAlpha || c == '_') = true) ∧ s ≠ "_" ∧
        isIdentFragment s = true := by
  simp [isPlainIdent, Option.any_eq_true, and_assoc]

/-- **A fragment may stand behind an identifier.** -/
theorem isPlainIdent_append {s t : String} (h : isPlainIdent s = true)
    (ht : isIdentFragment t = true) : isPlainIdent (s ++ t) = true := by
  obtain ⟨⟨c, hc, hstart⟩, hne, hs⟩ := isPlainIdent_iff.1 h
  obtain ⟨tail, hsplit⟩ : ∃ tail, s.toList = c :: tail := by
    cases hlist : s.toList with
    | nil => simp [hlist] at hc
    | cons d tail =>
      rw [hlist] at hc
      exact ⟨tail, by rw [Option.some.inj hc]⟩
  refine isPlainIdent_iff.2 ⟨⟨c, by simp [hsplit], hstart⟩, ?_, ?_⟩
  · -- a single underscore leaves no room for the fragment
    intro heq
    have hlist := congrArg String.toList heq
    rw [String.toList_append, hsplit, List.cons_append] at hlist
    obtain ⟨rfl, hnil⟩ := List.cons.inj hlist
    apply hne
    apply String.toList_injective
    rw [hsplit, (List.append_eq_nil_iff.1 hnil).1]
    rfl
  · rw [isIdentFragment, String.toList_append, List.all_append, Bool.and_eq_true]
    exact ⟨hs, ht⟩

/-- **What passes for an identifier is a word.** -/
theorem isWord_of_isPlainIdent {s : String} (h : isPlainIdent s = true) : IsWord s.toList := by
  obtain ⟨⟨c, hc, hstart⟩, -, hs⟩ := isPlainIdent_iff.1 h
  refine ⟨⟨c, hc, ?_⟩, ?_⟩
  · rw [Bool.or_eq_true, beq_iff_eq] at hstart
    rcases hstart with halpha | rfl
    · exact isIdentStart_of_isAlpha halpha
    · decide
  · intro d hd
    have hchar := List.all_eq_true.1 hs d hd
    rw [Bool.or_eq_true, beq_iff_eq] at hchar
    rcases hchar with halphanum | rfl
    · exact isIdentContinue_of_isAlphanum halphanum
    · decide

/-- **What passes for an identifier is admitted unless it is a keyword.** -/
theorem identifier_of_isPlainIdent {s : String} (h : isPlainIdent s = true) :
    identifier s = if s.toList ∈ keywords then .error (.invalidIdent s) else
      .ok ⟨false, s.toList⟩ := by
  rw [identifier, parse?_of_isWord (isWord_of_isPlainIdent h)]
  by_cases hkey : s.toList ∈ keywords
  · rw [if_pos hkey, if_pos hkey]
  · rw [if_neg hkey, if_neg hkey]

end QueryPaths
