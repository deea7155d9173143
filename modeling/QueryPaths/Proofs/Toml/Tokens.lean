import Mathlib.Data.Char
import Mathlib.Data.List.Basic
import QueryPaths.Proofs.Source.Literal
import QueryPaths.Toml.Token

/-! # Tokens of written settings

    What is written on a line of settings is found again token by token: line breaks, spaces, marks,
    words, and strings between double quotes, in which every character that cannot stand for itself
    is escaped.

    * **`escapeChar`**: how a character is written in a string.
    * **`lexBasic_escape`**: a written string is read back up to its closing quote.
    * **`lexTokens_lineBreak`**, **`lexTokens_space`**, **`lexTokens_mark`**, **`lexTokens_word`**,
      **`lexTokens_text`**: a lemma for each token in front of a text.
-/

namespace QueryPaths.Toml

open Source (hexDigit?_digitChar)

variable {c : Char} {s rest w : List Char}

/-! ## Strings -/

/-- **How a character is written** between double quotes: quotes and backslashes behind a backslash,
    control characters by their code, and everything else as it is. -/
def escapeChar (c : Char) : List Char :=
  if c = '"' ∨ c = '\\' then ['\\', c]
  else if isPlain c then [c]
  else ['\\', 'u', '0', '0', Nat.digitChar (c.toNat / 16), Nat.digitChar (c.toNat % 16)]

/-- Characters that cannot stand for themselves have codes of two hexadecimal digits. -/
theorem toNat_of_not_isPlain (h : isPlain c = false) : c.toNat < 0x80 := by
  simp only [isPlain, Bool.or_eq_false_iff, Bool.and_eq_false_iff, decide_eq_false_iff_not,
    bne_eq_false_iff_eq] at h
  omega

theorem unescape_code (h : c.toNat < 0x80) (rest : List Char) :
    unescape ('u' :: '0' :: '0' :: Nat.digitChar (c.toNat / 16) :: Nat.digitChar (c.toNat % 16) ::
      rest) = some (c, rest) := by
  have hhigh := (hexDigit?_digitChar (show c.toNat / 16 < 16 by omega)).1
  have hlow := (hexDigit?_digitChar (show c.toNat % 16 < 16 by omega)).1
  have hzero : Text.hexDigit? '0' = some 0 := by decide
  have hvalue : c.toNat / 16 * 16 + c.toNat % 16 = c.toNat := by omega
  have hvalid : c.toNat.isValidChar := c.valid
  simp [unescape, codeLength?, codePoint?, hzero, hhigh, hlow, hvalue, hvalid]

theorem lexBasic_unescape {meant : Char} {tail : List Char}
    (h : unescape rest = some (meant, tail)) :
    lexBasic ('\\' :: rest) = (lexBasic tail).map fun (s, tail) => (meant :: s, tail) := by
  rw [lexBasic, if_neg (by decide), if_pos rfl]
  split
  · next heq => cases heq.symm.trans h
  · next heq =>
    cases heq.symm.trans h
    rfl

/-- **A written character is read back.** -/
theorem lexBasic_escapeChar (c : Char) (rest : List Char) :
    lexBasic (escapeChar c ++ rest) = (lexBasic rest).map fun (s, tail) => (c :: s, tail) := by
  unfold escapeChar
  by_cases hmark : c = '"' ∨ c = '\\'
  · rw [if_pos hmark]
    apply lexBasic_unescape
    rcases hmark with rfl | rfl
    · rfl
    · rfl
  · obtain ⟨hquote, hslash⟩ := not_or.1 hmark
    rw [if_neg hmark]
    cases hplain : isPlain c with
    | true =>
      show lexBasic (c :: rest) = _
      rw [lexBasic, if_neg hquote, if_neg hslash, if_pos hplain]
    | false => exact lexBasic_unescape (unescape_code (toNat_of_not_isPlain hplain) rest)

/-- **A written string is read back** up to its closing quote, whatever follows it. -/
theorem lexBasic_escape (s rest : List Char) :
    lexBasic (s.flatMap escapeChar ++ '"' :: rest) = some (s, rest) := by
  induction s with
  | nil =>
    rw [List.flatMap_nil, List.nil_append, lexBasic]
    exact if_pos rfl
  | cons c s ih =>
    rw [List.flatMap_cons, List.append_assoc, lexBasic_escapeChar, ih]
    rfl

/-! ## Tokens -/

theorem lexTokens_lineBreak (rest : List Char) :
    lexTokens ('\n' :: rest) = (lexTokens rest).map (.lineBreak :: ·) := by
  rw [lexTokens]
  rfl

/-- A run of characters ends where another one stands. -/
theorem span_append {p : Char → Bool} (hw : ∀ c ∈ w, p c = true)
    (hrest : ∀ c ∈ rest.head?, p c = false) :
    (w ++ rest).takeWhile p = w ∧ (w ++ rest).dropWhile p = rest := by
  have hnone : rest.takeWhile p = [] ∧ rest.dropWhile p = rest := by
    cases rest with
    | nil => exact ⟨rfl, rfl⟩
    | cons c rest =>
      have hc : ¬p c = true := by
        rw [hrest c rfl]
        exact Bool.false_ne_true
      exact ⟨List.takeWhile_cons_of_neg hc, List.dropWhile_cons_of_neg hc⟩
  rw [List.takeWhile_append_of_pos hw, List.dropWhile_append_of_pos hw, hnone.1, hnone.2]
  exact ⟨List.append_nil w, rfl⟩

theorem lexTokens_space (h : ∀ c ∈ rest.head?, isBlank c = false) :
    lexTokens (' ' :: rest) = (lexTokens rest).map (.blank [' '] :: ·) := by
  have hnone : ∀ c ∈ ([] : List Char), isBlank c = true := fun c hc => (List.not_mem_nil hc).elim
  obtain ⟨htake, hdrop⟩ := span_append hnone h
  rw [lexTokens]
  show (lexTokens (rest.dropWhile isBlank)).map (.blank (' ' :: rest.takeWhile isBlank) :: ·) = _
  rw [show rest.takeWhile isBlank = [] from htake, show rest.dropWhile isBlank = rest from hdrop]

theorem lexTokens_mark {mark : Token} (h : mark? c = some mark) (rest : List Char) :
    lexTokens (c :: rest) = (lexTokens rest).map (mark :: ·) := by
  unfold mark? at h
  split at h <;> cases h <;> rw [lexTokens] <;> rfl

theorem isWordChar_iff : isWordChar c = true ↔
    isBlank c = false ∧ c ≠ '\n' ∧ c ≠ '\r' ∧ c ≠ '#' ∧ mark? c = none := by
  simp [isWordChar, and_assoc]

/-- **A run of word characters is a token**, up to where it ends. It must not begin with a quote. -/
theorem lexTokens_word (hc : isWordChar c = true) (hquote : c ≠ '"' ∧ c ≠ '\'')
    (hw : ∀ d ∈ w, isWordChar d = true) (hrest : ∀ d ∈ rest.head?, isWordChar d = false) :
    lexTokens (c :: w ++ rest) = (lexTokens rest).map (.word (c :: w) :: ·) := by
  obtain ⟨hblank, hline, hreturn, hhash, hmark⟩ := isWordChar_iff.1 hc
  obtain ⟨htake, hdrop⟩ := span_append hw hrest
  have hbreak : lineBreak? (c :: (w ++ rest)) = none := by
    unfold lineBreak?
    split
    · next heq => exact absurd (List.cons.inj heq).1 hline
    · next heq => exact absurd (List.cons.inj heq).1 hreturn
    · rfl
  rw [List.cons_append, lexTokens]
  split
  · next heq => cases heq.symm.trans hbreak
  · rw [hblank, if_neg Bool.false_ne_true, if_neg hhash, if_neg (not_or.2 hquote), if_neg hreturn,
      hmark, htake, hdrop]

theorem exists_cons_escapeChar (c : Char) : ∃ d t, escapeChar c = d :: t ∧ d ≠ '"' := by
  unfold escapeChar
  split
  · exact ⟨'\\', [c], rfl, by decide⟩
  · next hmark =>
    split
    · exact ⟨c, [], rfl, fun heq => hmark (.inl heq)⟩
    · exact ⟨'\\', _, rfl, by decide⟩

theorem behindQuotes?_of_ne {quote : Char} (h : c ≠ quote) (s : List Char) :
    behindQuotes? quote (c :: s) = none := by
  cases s with
  | nil => rfl
  | cons d s => exact if_neg fun hquotes => h hquotes.1

/-- **A written string is a token**, if no quote follows it. -/
theorem lexTokens_text (s : String) (h : ∀ c ∈ rest.head?, c ≠ '"') :
    lexTokens ('"' :: (s.toList.flatMap escapeChar ++ '"' :: rest)) =
      (lexTokens rest).map (.text s false :: ·) := by
  have hshort : behindQuotes? '"' (s.toList.flatMap escapeChar ++ '"' :: rest) = none := by
    cases s.toList with
    | nil =>
      -- the closing quote is not followed by another one
      cases rest with
      | nil => rfl
      | cons c rest => exact if_neg fun hquotes => h c rfl hquotes.2
    | cons c s =>
      obtain ⟨d, t, hd, hne⟩ := exists_cons_escapeChar c
      rw [List.flatMap_cons, hd, List.cons_append, List.cons_append]
      exact behindQuotes?_of_ne hne _
  have hstring : lexString '"' (s.toList.flatMap escapeChar ++ '"' :: rest) =
      some (s, false, rest) := by
    rw [lexString, hshort]
    show ((lexShort '"' _).map _) = _
    rw [lexShort, if_pos rfl, lexBasic_escape]
    simp
  rw [lexTokens]
  split
  · next heq => cases heq
  · rw [if_neg (by decide), if_neg (by decide), if_pos (by decide)]
    split
    · next heq => cases heq.symm.trans hstring
    · next heq =>
      cases heq.symm.trans hstring
      rfl

end QueryPaths.Toml
