import Mathlib.Data.List.TakeWhile
import QueryPaths.Source.Ident

/-! # Words and identifiers

    An identifier that is not in raw form is a word: a starting character, and
    then characters that may continue it. A word is read back as itself whatever
    stands behind it, as long as that is no part of a word, no quote and no hash
    sign.

    * **`IsWord`**: what a word is made of.
    * **`lexIdent_word`**, **`lexIdent_chars`**: a word, and any identifier, in front
      of other text is read back.
    * **`parse?_plain_iff`**: the names that stand for themselves.
-/

namespace QueryPaths.Source

open Text

/-! ## Characters of words -/

/-- The code points of blanks, as inclusive ranges. -/
def blankRanges : List (Nat × Nat) :=
  [(0x09, 0x0d), (0x20, 0x20), (0x85, 0x85), (0xa0, 0xa0), (0x1680, 0x1680), (0x2000, 0x200a),
    (0x200e, 0x200f), (0x2028, 0x2029), (0x202f, 0x202f), (0x205f, 0x205f), (0x3000, 0x3000)]

theorem inRanges_of_isBlank {c : Char} (h : isBlank c = true) :
    inRanges blankRanges c.toNat = true := by
  simp only [isBlank, Bool.or_eq_true, beq_iff_eq] at h
  rcases h with (h | rfl) | rfl
  · simp only [isWhiteSpace, Bool.or_eq_true, Bool.and_eq_true, decide_eq_true_eq, beq_iff_eq] at h
    simp only [inRanges_eq_true_iff, blankRanges, List.mem_cons, List.not_mem_nil, or_false,
      exists_eq_or_imp, exists_eq_left]
    omega
  · decide
  · decide

/-- Tables whose ranges are all apart share no code point. -/
theorem inRanges_of_apart {ranges others : List (Nat × Nat)} {n : Nat}
    (hapart : (ranges.all fun r => others.all fun s => r.2 < s.1 || s.2 < r.1) = true)
    (h : inRanges ranges n = true) : inRanges others n = false := by
  by_contra hin
  obtain ⟨r, hr, hlo, hhi⟩ := inRanges_eq_true_iff.1 h
  obtain ⟨s, hs, hlo', hhi'⟩ := inRanges_eq_true_iff.1 (by simpa using hin)
  have := List.all_eq_true.1 (List.all_eq_true.1 hapart r hr) s hs
  simp only [Bool.or_eq_true, decide_eq_true_eq] at this
  omega

/-- The code points of characters that may start a word. -/
def identStartRanges : List (Nat × Nat) :=
  [(0x41, 0x5a), (0x5f, 0x5f), (0x61, 0x7a)] ++ xidStartRanges

theorem inRanges_of_isIdentStart {c : Char} (h : isIdentStart c = true) :
    inRanges identStartRanges c.toNat = true := by
  simp only [isIdentStart, isXidStart, Bool.or_eq_true, beq_iff_eq] at h
  rcases h with rfl | h
  · decide
  · split at h
    · change (decide ('A'.val ≤ c.val ∧ c.val ≤ 'Z'.val) ||
        decide ('a'.val ≤ c.val) && decide (c.val ≤ 'z'.val)) = true at h
      simp only [Bool.or_eq_true, Bool.and_eq_true, decide_eq_true_eq,
        UInt32.le_iff_toNat_le] at h
      change (65 ≤ c.toNat ∧ c.toNat ≤ 90) ∨ (97 ≤ c.toNat ∧ c.toNat ≤ 122) at h
      simp only [identStartRanges, inRanges, List.any_append, List.any_cons, Bool.or_eq_true,
        Bool.and_eq_true, decide_eq_true_eq]
      omega
    · simp only [identStartRanges, inRanges, List.any_append, Bool.or_eq_true] at h ⊢
      exact .inr h

/-- **A character that may start a word is no blank.** -/
theorem isBlank_of_isIdentStart {c : Char} (h : isIdentStart c = true) : isBlank c = false := by
  by_contra hblank
  have hin := inRanges_of_isBlank (by simpa using hblank)
  have hout : inRanges identStartRanges c.toNat = false :=
    inRanges_of_apart (by decide +kernel) hin
  rw [inRanges_of_isIdentStart h] at hout
  cases hout

theorem isIdentContinue_of_isIdentStart {c : Char} (h : isIdentStart c = true) :
    isIdentContinue c = true := by
  simp only [isIdentStart, Bool.or_eq_true, beq_iff_eq] at h
  rcases h with rfl | h
  · decide
  · exact isXidContinue_of_isXidStart h

theorem toNat_lt_of_isAlphanum {c : Char} (h : c.isAlphanum = true) : c.toNat < 0x80 := by
  change ((decide ('A'.val ≤ c.val ∧ c.val ≤ 'Z'.val) ||
    decide ('a'.val ≤ c.val) && decide (c.val ≤ 'z'.val)) ||
      decide ('0'.val ≤ c.val) && decide (c.val ≤ '9'.val)) = true at h
  simp only [Bool.or_eq_true, Bool.and_eq_true, decide_eq_true_eq, UInt32.le_iff_toNat_le] at h
  change ((65 ≤ c.toNat ∧ c.toNat ≤ 90) ∨ (97 ≤ c.toNat ∧ c.toNat ≤ 122)) ∨
    (48 ≤ c.toNat ∧ c.toNat ≤ 57) at h
  omega

/-- **ASCII letters may start a word.** -/
theorem isIdentStart_of_isAlpha {c : Char} (h : c.isAlpha = true) : isIdentStart c = true := by
  have hascii : c.toNat < 0x80 := toNat_lt_of_isAlphanum (by simp [Char.isAlphanum, h])
  simp [isIdentStart, isXidStart, hascii, h]

/-- **ASCII letters and digits may continue one.** -/
theorem isIdentContinue_of_isAlphanum {c : Char} (h : c.isAlphanum = true) :
    isIdentContinue c = true := by
  have hascii : c.toNat < 0x80 := toNat_lt_of_isAlphanum h
  simp [isIdentContinue, isXidContinue, hascii, h]

/-! ## Words -/

/-- **A word**: a starting character, and characters that continue it. -/
def IsWord (word : List Char) : Prop :=
  (∃ c ∈ word.head?, isIdentStart c = true) ∧ ∀ c ∈ word, isIdentContinue c = true

instance (word : List Char) : Decidable (IsWord word) :=
  decidable_of_iff ((word.head?.any isIdentStart && word.all isIdentContinue) = true)
    (by simp [IsWord, Option.any_eq_true])

theorem IsWord.exists_cons {word : List Char} (h : IsWord word) :
    ∃ c tail, word = c :: tail ∧ isIdentStart c = true := by
  obtain ⟨⟨c, hc, hstart⟩, -⟩ := h
  cases word with
  | nil => cases hc
  | cons d tail =>
    obtain rfl := Option.some.inj hc
    exact ⟨d, tail, rfl, hstart⟩

/-- Does the text not go on with the word in front of it? -/
def StopsWord (rest : List Char) : Prop := ∀ c ∈ rest.head?, isIdentContinue c = false

/-- **A word in front of other text is the longest one.** -/
theorem lexWord_word {word rest : List Char} (h : IsWord word) (hrest : StopsWord rest) :
    lexWord (word ++ rest) = some (word, rest) := by
  obtain ⟨c, tail, rfl, hstart⟩ := h.exists_cons
  have hinside : ∀ d ∈ tail, isIdentContinue d = true :=
    fun d hd => h.2 d (List.mem_cons_of_mem _ hd)
  have hstop : rest.takeWhile isIdentContinue = [] ∧ rest.dropWhile isIdentContinue = rest := by
    cases rest with
    | nil => exact ⟨rfl, rfl⟩
    | cons d others => simp [hrest d rfl]
  rw [List.cons_append, lexWord, if_pos hstart, List.takeWhile_append_of_pos hinside,
    List.dropWhile_append_of_pos hinside, hstop.1, hstop.2, List.append_nil]

theorem lexWord_eq_some {s word rest : List Char} (h : lexWord s = some (word, rest)) :
    IsWord word ∧ s = word ++ rest := by
  cases s with
  | nil => cases h
  | cons c tail =>
    rw [lexWord] at h
    split at h
    · next hstart =>
      obtain ⟨rfl, rfl⟩ := Prod.mk.inj (Option.some.inj h)
      refine ⟨⟨⟨c, rfl, hstart⟩, ?_⟩, by simp⟩
      intro d hd
      rcases List.mem_cons.1 hd with rfl | hd
      · exact isIdentContinue_of_isIdentStart hstart
      · exact (List.mem_takeWhile_imp hd)
    · cases h

/-! ## Identifiers -/

/-- **Does the text set off the word in front of it?** It neither goes on with the
    word nor makes it the opening of something else. -/
def SetsOff (rest : List Char) : Prop :=
  ∀ c ∈ rest.head?, isIdentContinue c = false ∧ c ∉ ['"', '\'', '#']

theorem SetsOff.stopsWord {rest : List Char} (h : SetsOff rest) : StopsWord rest :=
  fun c hc => (h c hc).1

/-- A character that is no part of a word, no quote and no hash sign sets it off. -/
theorem setsOff_cons {c : Char} (hc : isIdentContinue c = false) (hquote : c ∉ ['"', '\'', '#'])
    (rest : List Char) : SetsOff (c :: rest) := by
  rintro d ⟨⟩
  exact ⟨hc, hquote⟩

/-- Behind its word characters, an opening goes on with a quote or a hash sign. -/
theorem head?_dropWhile_opening {opening : List Char}
    (h : opening ∈ ['r', '#'] :: literalOpenings) :
    ∃ c ∈ (opening.dropWhile isIdentContinue).head?, c ∈ ['"', '\'', '#'] := by
  have hall : ((['r', '#'] :: literalOpenings).all fun opening =>
      (opening.dropWhile isIdentContinue).head?.any (['"', '\'', '#'].contains ·)) = true := by
    decide
  obtain ⟨c, hc, hquote⟩ := (Option.any_eq_true ..).1 (List.all_eq_true.1 hall opening h)
  exact ⟨c, hc, List.contains_iff_mem.1 hquote⟩

/-- **No opening stands where a word is set off.** -/
theorem not_opening {word rest opening : List Char} (h : IsWord word) (hrest : SetsOff rest)
    (hmem : opening ∈ ['r', '#'] :: literalOpenings) : ¬opening <+: word ++ rest := by
  intro h
  obtain ⟨tail, heq⟩ := h
  obtain ⟨c, hc, hquote⟩ := head?_dropWhile_opening hmem
  -- both sides without their leading word characters
  have hdrop := congrArg (List.dropWhile isIdentContinue) heq
  rw [List.dropWhile_append_of_pos h.2, List.dropWhile_append] at hdrop
  have hstop : rest.dropWhile isIdentContinue = rest := by
    cases rest with
    | nil => rfl
    | cons d others => simp [(hrest d rfl).1]
  -- the left side goes on with a quote or a hash sign, the right side must not
  rw [hstop, if_neg (by rintro hnil; simp [List.isEmpty_iff.1 hnil] at hc)] at hdrop
  have hhead : c ∈ rest.head? := by
    rw [← hdrop, List.head?_append, Option.mem_def.1 hc]
    rfl
  exact (hrest c hhead).2 hquote

/-- **A word that is set off is read back.** -/
theorem lexIdent_word {word rest : List Char} (h : IsWord word) (hrest : SetsOff rest) :
    lexIdent (word ++ rest) = some (⟨false, word⟩, rest) := by
  -- neither a quoted literal nor the raw form opens here
  have hnone : ¬(literalOpenings.any (·.isPrefixOf (word ++ rest))) = true := by
    intro hany
    obtain ⟨opening, hmem, hprefix⟩ := List.any_eq_true.1 hany
    exact not_opening h hrest (List.mem_cons_of_mem _ hmem) (List.isPrefixOf_iff_prefix.1 hprefix)
  unfold lexIdent
  rw [if_neg hnone]
  split
  · next tail heq =>
    exact absurd ⟨tail, heq.symm⟩ (not_opening h hrest List.mem_cons_self)
  · rw [lexWord_word h hrest.stopsWord]
    rfl

/-- **An identifier that can be written and read**: a word, and in raw form none of
    those that have no raw form. -/
structure Ident.IsToken (i : Ident) : Prop where
  /-- The name is a word. -/
  word : IsWord i.name
  /-- In raw form it is not an exception. -/
  raw_name : i.raw = true → i.name ∉ neverRaw

theorem isToken_of_lexIdent {s rest : List Char} {i : Ident} (h : lexIdent s = some (i, rest)) :
    i.IsToken := by
  unfold lexIdent at h
  split at h
  · cases h
  · split at h
    · obtain ⟨⟨word, tail⟩, hword, hident⟩ := Option.bind_eq_some_iff.1 h
      dsimp only at hident
      split at hident
      · cases hident
      · next hnever =>
        obtain ⟨rfl, -⟩ := Prod.mk.inj (Option.some.inj hident)
        exact ⟨(lexWord_eq_some hword).1, fun _ => by simpa using hnever⟩
    · obtain ⟨⟨word, tail⟩, hword, hident⟩ := Option.map_eq_some_iff.1 h
      obtain ⟨rfl, -⟩ := Prod.mk.inj hident
      exact ⟨(lexWord_eq_some hword).1, fun hraw => by cases hraw⟩

/-- No other opening stands where an identifier in raw form does. -/
theorem not_opening_raw {word : List Char} (h : IsWord word) (rest : List Char) :
    literalOpenings.any (·.isPrefixOf ('r' :: '#' :: (word ++ rest))) = false := by
  obtain ⟨c, tail, rfl, hstart⟩ := h.exists_cons
  have hquote : '"' ≠ c := by rintro rfl; exact absurd hstart (by decide)
  have hhash : '#' ≠ c := by rintro rfl; exact absurd hstart (by decide)
  simp [literalOpenings, List.isPrefixOf, hquote, hhash]

/-- **A written identifier that is set off is read back.** -/
theorem lexIdent_chars {i : Ident} {rest : List Char} (h : i.IsToken) (hrest : SetsOff rest) :
    lexIdent (i.chars ++ rest) = some (i, rest) := by
  obtain ⟨raw, name⟩ := i
  cases raw with
  | false => exact lexIdent_word h.word hrest
  | true =>
    have hnone : ¬(literalOpenings.any (·.isPrefixOf ('r' :: '#' :: (name ++ rest)))) = true := by
      rw [not_opening_raw h.word rest]
      exact Bool.false_ne_true
    have hnever : ¬neverRaw.contains name = true := by simpa using h.raw_name rfl
    show lexIdent ('r' :: '#' :: (name ++ rest)) = _
    simp only [lexIdent, if_neg hnone, lexWord_word h.word hrest.stopsWord, Option.bind_some,
      if_neg hnever]

theorem skipTrivia_cons {c : Char} (hblank : isBlank c = false) (hslash : c ≠ '/')
    (rest : List Char) : skipTrivia (c :: rest) = c :: rest := by
  apply skipTrivia_of_none
  rw [afterTrivia?, hblank]
  simp [afterComment?, hslash]

theorem skipTrivia_of_isIdentStart {c : Char} (h : isIdentStart c = true) (rest : List Char) :
    skipTrivia (c :: rest) = c :: rest := by
  have hslash : c ≠ '/' := by rintro rfl; exact absurd h (by decide)
  exact skipTrivia_cons (isBlank_of_isIdentStart h) hslash rest

theorem dropByteOrderMark_word {word : List Char} (h : IsWord word) :
    dropByteOrderMark word = word := by
  obtain ⟨c, tail, rfl, hstart⟩ := h.exists_cons
  have hmark : c ≠ '\ufeff' := by rintro rfl; exact absurd hstart (by decide +kernel)
  unfold dropByteOrderMark
  split
  · next heq => exact absurd (List.cons.inj heq).1 hmark
  · rfl

/-- **A word is an identifier unless it is a keyword.** -/
theorem parse?_of_isWord {name : String} (h : IsWord name.toList) :
    Ident.parse? name = if name.toList ∈ keywords then none else some ⟨false, name.toList⟩ := by
  have hlex : lexIdent (skipTrivia (dropByteOrderMark name.toList)) =
      some (⟨false, name.toList⟩, []) := by
    have hread : lexIdent (name.toList ++ []) = some (⟨false, name.toList⟩, []) :=
      lexIdent_word h (by intro c hc; cases hc)
    have hskip : skipTrivia name.toList = name.toList := by
      obtain ⟨c, tail, hname, hstart⟩ := h.exists_cons
      rw [hname]
      exact skipTrivia_of_isIdentStart hstart tail
    rw [List.append_nil] at hread
    rw [dropByteOrderMark_word h, hskip, hread]
  have hend : skipTrivia [] = [] := skipTrivia_of_none rfl
  by_cases hkey : name.toList ∈ keywords
  · simp [Ident.parse?, hlex, hkey]
  · simp [Ident.parse?, hlex, hend, hkey]

theorem parse?_word {name : String} (h : IsWord name.toList) (hkey : name.toList ∉ keywords) :
    Ident.parse? name = some ⟨false, name.toList⟩ := by
  rw [parse?_of_isWord h, if_neg hkey]

/-- **What reads as an identifier can be written**, and is no keyword unless it is in
    raw form. -/
theorem isToken_of_parse? {name : String} {i : Ident} (h : Ident.parse? name = some i) :
    i.IsToken ∧ (i.raw = true ∨ i.name ∉ keywords) := by
  unfold Ident.parse? at h
  obtain ⟨⟨ident, rest⟩, hlex, hident⟩ := Option.bind_eq_some_iff.1 h
  dsimp only at hident
  split at hident
  · next hcond =>
    obtain rfl := Option.some.inj hident
    exact ⟨isToken_of_lexIdent hlex, hcond.2⟩
  · cases hident

/-- **Names that stand for themselves** are the words that are no keywords. -/
theorem parse?_plain_iff {name : String} :
    Ident.parse? name = some ⟨false, name.toList⟩ ↔
      IsWord name.toList ∧ name.toList ∉ keywords := by
  constructor
  · intro h
    obtain ⟨htoken, hkey⟩ := isToken_of_parse? h
    exact ⟨htoken.word, hkey.resolve_left (by simp)⟩
  · intro h
    obtain ⟨hword, hkey⟩ := h
    exact parse?_word hword hkey

end QueryPaths.Source
