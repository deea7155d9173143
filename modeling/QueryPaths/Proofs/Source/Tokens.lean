import QueryPaths.Proofs.Source.Ident
import QueryPaths.Proofs.Source.Literal

/-! # Tokens of source text

    Source text is cut into identifiers, string literals and punctuation marks;
    white space and comments between them are skipped. What a text is cut into
    is stated as a relation that has one rule for each kind of token.

    * **`Reader`**: reads a list piece by piece, for any kind of piece.
    * **`tokens`**: the tokens of a text.
    * **`Lexes`** with `mark`, `ident`, `word`, `literal` and `space`: the rules.
-/

namespace QueryPaths.Source

/-! ## Reading piece by piece -/

/-- **A reader** takes one piece off the front of a list. -/
structure Reader (α β : Type) where
  /-- The first piece, and what is behind it. -/
  next : List α → Option (β × List α)
  /-- Less is behind it. -/
  shorter : ∀ {s b rest}, next s = some (b, rest) → rest.length < s.length

/-- **All pieces** of a list; none if some part cannot be read. -/
def Reader.all {α β : Type} (p : Reader α β) (s : List α) : Option (List β) :=
  match _h : p.next s with
  | some (b, rest) => (p.all rest).map (b :: ·)
  | none => if s.isEmpty then some [] else none
termination_by s.length
decreasing_by exact p.shorter _h

theorem Reader.all_nil {α β : Type} (p : Reader α β) : p.all [] = some [] := by
  rw [Reader.all]
  split
  · next hnext => exact absurd (p.shorter hnext) (by simp)
  · rfl

/-- **The first piece stands before the others.** -/
theorem Reader.all_of_next {α β : Type} {p : Reader α β} {s rest : List α} {b : β}
    (h : p.next s = some (b, rest)) : p.all s = (p.all rest).map (b :: ·) := by
  rw [Reader.all]
  split
  · next hnext =>
    rw [h] at hnext
    obtain ⟨rfl, rfl⟩ := Prod.mk.inj (Option.some.inj hnext)
    rfl
  · next hnone => rw [h] at hnone; cases hnone

/-! ## Tokens -/

/-- **A token** of source text. -/
inductive Token where
  /-- An identifier, keywords included. -/
  | ident (i : Ident)
  /-- A string literal with its value. -/
  | text (value : String)
  /-- A punctuation mark. -/
  | mark (c : Char)
  deriving DecidableEq, Repr

/-- The token of a word. -/
def word (name : String) : Token := .ident ⟨false, name.toList⟩

/-- The punctuation marks of generated source. -/
def marks : List Char := ['#', '[', ']', '(', ')', '\x7b', '\x7d', ':', ';', '&', '=', '!']

/-- The token at the very front of a text, and the text behind it. -/
def tokenAt? : List Char → Option (Token × List Char)
  | [] => none
  | c :: rest =>
    if c = '"' then
      (readLiteral .plain rest).map fun (value, behind) => (.text (String.ofList value), behind)
    else if c ∈ marks then some (.mark c, rest)
    else (lexIdent (c :: rest)).map fun (i, behind) => (.ident i, behind)

/-- Every step of reading a literal takes a character. -/
theorem length_of_readLiteral {inside : Inside} {s value rest : List Char}
    (h : readLiteral inside s = some (value, rest)) : rest.length < s.length := by
  induction s generalizing inside value with
  | nil => simp [readLiteral] at h
  | cons c tail ih =>
    -- every branch goes on with the tail, with or without a character of the value
    have hgo : ∀ {inside value}, readLiteral inside tail = some (value, rest) →
        rest.length < (c :: tail).length := by
      intro inside value hread
      exact Nat.lt_succ_of_lt (ih hread)
    have hput : ∀ {e}, (readLiteral .plain tail).map (consValue e) = some (value, rest) →
        rest.length < (c :: tail).length := by
      intro e hread
      obtain ⟨⟨value', rest'⟩, htail, heq⟩ := Option.map_eq_some_iff.1 hread
      obtain ⟨-, rfl⟩ := Prod.mk.inj heq
      exact hgo htail
    cases inside with
    | plain =>
      rw [readLiteral] at h
      split at h
      · obtain ⟨-, rfl⟩ := Prod.mk.inj (Option.some.inj h)
        simp
      · split at h
        · exact hgo h
        · split at h
          · cases h
          · exact hput h
    | escape =>
      rw [readLiteral] at h
      split at h
      · exact hgo h
      · split at h
        · exact hgo h
        · obtain ⟨e, -, hread⟩ := Option.bind_eq_some_iff.1 h
          exact hput hread
    | byte high =>
      cases high with
      | none =>
        rw [readLiteral] at h
        obtain ⟨high, -, hread⟩ := Option.bind_eq_some_iff.1 h
        exact hgo hread
      | some high =>
        rw [readLiteral] at h
        obtain ⟨low, -, hread⟩ := Option.bind_eq_some_iff.1 h
        split at hread
        · exact hput hread
        · cases hread
    | unicode =>
      rw [readLiteral] at h
      split at h
      · exact hgo h
      · cases h
    | digits count total =>
      rw [readLiteral] at h
      split at h
      · split at h
        · exact hput h
        · cases h
      · obtain ⟨digit, -, hread⟩ := Option.bind_eq_some_iff.1 h
        split at hread
        · exact hgo hread
        · cases hread

theorem length_of_lexWord {s word rest : List Char} (h : lexWord s = some (word, rest)) :
    rest.length < s.length := by
  obtain ⟨⟨⟨c, hc, -⟩, -⟩, rfl⟩ := lexWord_eq_some h
  have hpos : 0 < word.length := List.length_pos_of_mem (List.mem_of_mem_head? hc)
  rw [List.length_append]
  omega

theorem length_of_lexIdent {s rest : List Char} {i : Ident} (h : lexIdent s = some (i, rest)) :
    rest.length < s.length := by
  -- with or without the prefix of the raw form, a word is read
  unfold lexIdent at h
  split at h
  · cases h
  · split at h
    · obtain ⟨⟨word, tail⟩, hword, hident⟩ := Option.bind_eq_some_iff.1 h
      dsimp only at hident
      split at hident
      · cases hident
      · obtain ⟨-, rfl⟩ := Prod.mk.inj (Option.some.inj hident)
        have := length_of_lexWord hword
        simp only [List.length_cons]
        omega
    · obtain ⟨⟨word, tail⟩, hword, hident⟩ := Option.map_eq_some_iff.1 h
      obtain ⟨-, rfl⟩ := Prod.mk.inj hident
      exact length_of_lexWord hword

theorem length_of_tokenAt? {s rest : List Char} {t : Token} (h : tokenAt? s = some (t, rest)) :
    rest.length < s.length := by
  unfold tokenAt? at h
  -- a literal, a mark, or an identifier
  split at h
  · cases h
  · next c tail =>
    split at h
    · obtain ⟨⟨value, behind⟩, hread, heq⟩ := Option.map_eq_some_iff.1 h
      obtain ⟨-, rfl⟩ := Prod.mk.inj heq
      have := length_of_readLiteral hread
      simp only [List.length_cons]
      omega
    · split at h
      · obtain ⟨-, rfl⟩ := Prod.mk.inj (Option.some.inj h)
        simp
      · obtain ⟨⟨i, behind⟩, hread, heq⟩ := Option.map_eq_some_iff.1 h
        obtain ⟨-, rfl⟩ := Prod.mk.inj heq
        exact length_of_lexIdent hread

theorem length_skipTrivia (s : List Char) : (skipTrivia s).length ≤ s.length := by
  induction hn : s.length using Nat.strongRecOn generalizing s with
  | _ n ih =>
    cases h : afterTrivia? s with
    | none => rw [skipTrivia_of_none h, hn]
    | some rest =>
      have hlt := length_of_afterTrivia? h
      rw [skipTrivia_of_some h]
      exact (ih rest.length (hn ▸ hlt) rest rfl).trans (hn ▸ hlt.le)

/-- The reader of tokens, which also skips what is behind each of them. -/
def lexer : Reader Char Token where
  next s := (tokenAt? s).map fun (t, rest) => (t, skipTrivia rest)
  shorter := by
    intro s t rest h
    obtain ⟨⟨t', behind⟩, hread, heq⟩ := Option.map_eq_some_iff.1 h
    obtain ⟨-, rfl⟩ := Prod.mk.inj heq
    exact (length_skipTrivia behind).trans_lt (length_of_tokenAt? hread)

/-- **The tokens of a text.** -/
def tokens (s : List Char) : Option (List Token) := lexer.all (skipTrivia s)

/-! ## Rules -/

/-- **A text is cut into these tokens.** -/
def Lexes (s : List Char) (ts : List Token) : Prop := tokens s = some ts

theorem Lexes.nil : Lexes [] [] := by
  have hskip : skipTrivia [] = [] := skipTrivia_of_none rfl
  show lexer.all (skipTrivia []) = some []
  rw [hskip]
  exact Reader.all_nil lexer

theorem Lexes.space {s : List Char} {ts : List Token} (h : Lexes s ts) : Lexes (' ' :: s) ts := by
  have hskip : skipTrivia (' ' :: s) = skipTrivia s := skipTrivia_of_some rfl
  show lexer.all (skipTrivia (' ' :: s)) = some ts
  rw [hskip]
  exact h

/-- A token at the front, where nothing is skipped. -/
theorem Lexes.token {s rest : List Char} {t : Token} {ts : List Token} (hskip : skipTrivia s = s)
    (ht : tokenAt? s = some (t, rest)) (h : Lexes rest ts) : Lexes s (t :: ts) := by
  have hnext : lexer.next s = some (t, skipTrivia rest) := by simp [lexer, ht]
  have hrest : lexer.all (skipTrivia rest) = some ts := h
  show lexer.all (skipTrivia s) = some (t :: ts)
  rw [hskip, Reader.all_of_next hnext, hrest]
  rfl

/-- Marks are neither blanks nor quotes, and no word or comment starts with one. -/
theorem mark_ne {c : Char} (h : c ∈ marks) :
    isBlank c = false ∧ c ≠ '/' ∧ c ≠ '"' ∧ isIdentStart c = false := by
  have hall : (marks.all fun c =>
      !isBlank c && c != '/' && c != '"' && !isIdentStart c) = true := by decide
  simpa [and_assoc] using List.all_eq_true.1 hall c h

/-- **A mark** is a token. -/
theorem Lexes.mark {c : Char} {s : List Char} {ts : List Token} (hc : c ∈ marks)
    (h : Lexes s ts) : Lexes (c :: s) (.mark c :: ts) := by
  obtain ⟨hblank, hslash, hquote, -⟩ := mark_ne hc
  apply Lexes.token (skipTrivia_cons hblank hslash s) _ h
  rw [tokenAt?, if_neg hquote, if_pos hc]

/-- **A literal** is a token with its value. -/
theorem Lexes.literal {s : List Char} {ts : List Token} (value : String) (h : Lexes s ts) :
    Lexes (literal value ++ s) (.text value :: ts) := by
  have hlist : Source.literal value ++ s = '"' :: (literalBody value.toList ++ '"' :: s) := by
    simp [Source.literal]
  have hskip : skipTrivia ('"' :: (literalBody value.toList ++ '"' :: s)) =
      '"' :: (literalBody value.toList ++ '"' :: s) := skipTrivia_of_none rfl
  rw [hlist]
  apply Lexes.token hskip _ h
  rw [tokenAt?, if_pos rfl, readLiteral_literalBody]
  simp only [Option.map_some, String.ofList_toList]

theorem Ident.IsToken.exists_cons {i : Ident} (h : i.IsToken) :
    ∃ c tail, i.chars = c :: tail ∧ isIdentStart c = true := by
  obtain ⟨raw, name⟩ := i
  cases raw with
  | true => exact ⟨'r', '#' :: name, rfl, by decide⟩
  | false => exact h.word.exists_cons

/-- **An identifier** is a token if it is set off. -/
theorem Lexes.ident {i : Ident} {s : List Char} {ts : List Token} (hi : i.IsToken)
    (hs : SetsOff s) (h : Lexes s ts) : Lexes (i.chars ++ s) (.ident i :: ts) := by
  have hread := lexIdent_chars hi hs
  obtain ⟨c, tail, hchars, hstart⟩ := hi.exists_cons
  rw [hchars, List.cons_append] at hread ⊢
  have hquote : c ≠ '"' := by rintro rfl; exact absurd hstart (by decide)
  -- the first character tells an identifier from comments, literals and marks
  have hmark : c ∉ marks := by
    intro hmem
    rw [(mark_ne hmem).2.2.2] at hstart
    cases hstart
  apply Lexes.token (skipTrivia_of_isIdentStart hstart _) _ h
  rw [tokenAt?, if_neg hquote, if_neg hmark, hread]
  rfl

/-- **A word** is a token if it is set off. -/
theorem Lexes.word {s : List Char} {ts : List Token} (name : String) (hname : IsWord name.toList)
    (hs : SetsOff s) (h : Lexes s ts) : Lexes (name.toList ++ s) (word name :: ts) := by
  have hi : Ident.IsToken ⟨false, name.toList⟩ := ⟨hname, fun hraw => by cases hraw⟩
  exact Lexes.ident hi hs h

end QueryPaths.Source
