import QueryPaths.Source.Literal
import QueryPaths.Text.Hexadecimal

/-! # Reading string literals

    A string literal is read one character at a time. What a backslash stands for
    depends on the characters behind it, so the reader remembers how far into an
    escape it is. Every literal that is written is read back as its value, and
    its closing quote is found.

    * **`Inside`**: where in a literal the reader is.
    * **`readLiteral`**: the value up to the closing quote, and the text behind it.
    * **`readLiteral_literalBody`**: what is written is read back.
-/

namespace QueryPaths.Source

open Text

/-- **Where the reader is** inside a literal. -/
inductive Inside where
  /-- Not in an escape. -/
  | plain
  /-- Behind a backslash. -/
  | escape
  /-- Behind `\x`, and maybe a first digit. -/
  | byte (high : Option Nat)
  /-- Behind `\u`. -/
  | unicode
  /-- Inside the braces of `\u`, behind some digits with a value so far. -/
  | digits (count value : Nat)
  deriving DecidableEq, Repr

/-- What one character behind a backslash stands for. -/
def simpleEscape? (c : Char) : Option Char :=
  [('n', '\n'), ('r', '\r'), ('t', '\t'), ('\\', '\\'), ('0', '\x00'), ('\'', '\''),
    ('"', '"')].lookup c

/-- A value with one more character in front. -/
def consValue (c : Char) (read : List Char × List Char) : List Char × List Char :=
  (c :: read.1, read.2)

/-- **Reads the value of a literal** from behind its opening quote up to the closing
    one, and returns the text behind that. A byte escape stays within ASCII, and
    a code point has one to six digits. -/
def readLiteral : Inside → List Char → Option (List Char × List Char)
  | _, [] => none
  | .plain, c :: rest =>
    if c = '"' then some ([], rest)
    else if c = '\\' then readLiteral .escape rest
    else if c = '\r' then none
    else (readLiteral .plain rest).map (consValue c)
  | .escape, c :: rest =>
    if c = 'x' then readLiteral (.byte none) rest
    else if c = 'u' then readLiteral .unicode rest
    else (simpleEscape? c).bind fun e => (readLiteral .plain rest).map (consValue e)
  | .byte none, c :: rest =>
    (hexDigit? c).bind fun high => readLiteral (.byte (some high)) rest
  | .byte (some high), c :: rest =>
    (hexDigit? c).bind fun low =>
      if high < 8 then (readLiteral .plain rest).map (consValue (Char.ofNat (16 * high + low)))
      else none
  | .unicode, c :: rest => if c = '\x7b' then readLiteral (.digits 0 0) rest else none
  | .digits count value, c :: rest =>
    if c = '\x7d' then
      if 0 < count ∧ value.isValidChar then
        (readLiteral .plain rest).map (consValue (Char.ofNat value))
      else none
    else
      (hexDigit? c).bind fun digit =>
        if count < 6 then readLiteral (.digits (count + 1) (16 * value + digit)) rest else none

/-! ## Single escapes -/

theorem readLiteral_self {c : Char} (hquote : c ≠ '"') (hslash : c ≠ '\\') (hreturn : c ≠ '\r')
    (rest : List Char) :
    readLiteral .plain (c :: rest) = (readLiteral .plain rest).map (consValue c) := by
  rw [readLiteral, if_neg hquote, if_neg hslash, if_neg hreturn]

theorem readLiteral_simpleEscape {c e : Char} (h : simpleEscape? c = some e) (hx : c ≠ 'x')
    (hu : c ≠ 'u') (rest : List Char) :
    readLiteral .plain ('\\' :: c :: rest) = (readLiteral .plain rest).map (consValue e) := by
  rw [readLiteral, if_neg (by decide), if_pos rfl, readLiteral, if_neg hx, if_neg hu, h]
  rfl

theorem readLiteral_nulByte (rest : List Char) :
    readLiteral .plain ('\\' :: 'x' :: '0' :: '0' :: rest) =
      (readLiteral .plain rest).map (consValue '\x00') :=
  rfl

/-! ## Code points -/

/-- A digit below sixteen has its value, and is not the closing brace. -/
theorem hexDigit?_digitChar {n : Nat} (h : n < 16) :
    hexDigit? n.digitChar = some n ∧ n.digitChar ≠ '\x7d' := by
  have hall : ((List.range 16).all fun n =>
      hexDigit? n.digitChar == some n && n.digitChar != '\x7d') = true := by decide
  simpa using List.all_eq_true.1 hall n (List.mem_range.2 h)

theorem readLiteral_digit {n count value : Nat} (h : n < 16) (hcount : count < 6)
    (rest : List Char) :
    readLiteral (.digits count value) (n.digitChar :: rest) =
      readLiteral (.digits (count + 1) (16 * value + n)) rest := by
  obtain ⟨hdigit, hbrace⟩ := hexDigit?_digitChar h
  rw [readLiteral, if_neg hbrace, hdigit, Option.bind_some, if_pos hcount]

/-- **The digits of a code point** are read up to their value, by induction on the
    number without its last digit. -/
theorem readLiteral_toDigits (n : Nat) (hlen : (Nat.toDigits 16 n).length ≤ 6)
    (rest : List Char) :
    readLiteral (.digits 0 0) (Nat.toDigits 16 n ++ rest) =
      readLiteral (.digits (Nat.toDigits 16 n).length n) rest := by
  induction n using Nat.strongRecOn generalizing rest with
  | _ n ih =>
    by_cases hn : n < 16
    · rw [Nat.toDigits_of_lt_base hn, List.singleton_append, readLiteral_digit hn (by decide)]
      simp
    · -- the last digit is read behind those of `n / 16`
      have hsplit : Nat.toDigits 16 n = Nat.toDigits 16 (n / 16) ++ [(n % 16).digitChar] :=
        Nat.toDigits_of_base_le (by decide) (by omega)
      rw [hsplit, List.length_append, List.length_singleton] at hlen ⊢
      rw [List.append_assoc, ih (n / 16) (by omega) (by omega), List.singleton_append,
        readLiteral_digit (Nat.mod_lt _ (by decide)) (by omega)]
      congr 2
      omega

theorem length_toDigits_toNat (c : Char) : (Nat.toDigits 16 c.toNat).length ≤ 6 := by
  rw [Nat.length_toDigits_le_iff (by decide) (by decide)]
  have hvalid : c.toNat.isValidChar := c.valid
  rcases hvalid with h | ⟨-, h⟩ <;> omega

/-- **A code point escape is read back.** -/
theorem readLiteral_codePointEscape (c : Char) (rest : List Char) :
    readLiteral .plain (codePointEscape c ++ rest) =
      (readLiteral .plain rest).map (consValue c) := by
  have hlen := length_toDigits_toNat c
  have hpos : 0 < (Nat.toDigits 16 c.toNat).length := Nat.length_toDigits_pos
  have hopen : readLiteral .plain (codePointEscape c ++ rest) =
      readLiteral (.digits 0 0) (Nat.toDigits 16 c.toNat ++ '\x7d' :: rest) := by
    simp [codePointEscape, readLiteral]
  rw [hopen, readLiteral_toDigits c.toNat hlen, readLiteral, if_pos rfl,
    if_pos ⟨hpos, c.valid⟩, Char.ofNat_toNat]

/-! ## Whole literals -/

/-- **Every character is read back** from its escape. -/
theorem readLiteral_escapeChar (c : Char) (rest : List Char) :
    readLiteral .plain (escapeChar c ++ rest) = (readLiteral .plain rest).map (consValue c) := by
  unfold escapeChar
  -- six characters have an escape of their own
  split
  · exact readLiteral_simpleEscape rfl (by decide) (by decide) rest
  · exact readLiteral_simpleEscape rfl (by decide) (by decide) rest
  · exact readLiteral_simpleEscape rfl (by decide) (by decide) rest
  · exact readLiteral_simpleEscape rfl (by decide) (by decide) rest
  · exact readLiteral_simpleEscape rfl (by decide) (by decide) rest
  · exact readLiteral_simpleEscape rfl (by decide) (by decide) rest
  · next hreturn _ hquote hslash =>
    split
    · exact readLiteral_codePointEscape c rest
    · exact readLiteral_self hquote hslash hreturn rest

/-- **What is written between the quotes is read back**, up to the closing quote. -/
theorem readLiteral_literalBody (value rest : List Char) :
    readLiteral .plain (literalBody value ++ '"' :: rest) = some (value, rest) := by
  induction value with
  | nil => rfl
  | cons c tail ih =>
    -- NUL in front of an octal digit is the one case that depends on what follows
    have hchar : ∀ more, readLiteral .plain
        ((if c = '\x00' ∧ startsOctal tail = true then ['\\', 'x', '0', '0'] else escapeChar c) ++
          more) = (readLiteral .plain more).map (consValue c) := by
      intro more
      split
      · next hnul =>
        rw [hnul.1]
        exact readLiteral_nulByte more
      · exact readLiteral_escapeChar c more
    rw [literalBody, List.append_assoc, hchar, ih]
    rfl

end QueryPaths.Source
