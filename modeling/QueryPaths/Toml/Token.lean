import QueryPaths.Toml.StringText

/-! # Tokens of TOML documents

    A document is cut into line breaks, blanks, marks, strings, and words: runs
    of all other characters, which become parts of keys, numbers, dates and the
    like. A quote opens a string, but not inside a word. Comments leave nothing
    behind.

    * **`Token`**: a token.
    * **`tokens`**: the tokens of a document.
    * **`Piece`**, **`pieces`**: tokens with those inside a pair of brackets or
      braces gathered.
-/

namespace QueryPaths.Toml

/-! ## Tokens -/

/-- The two kinds of brackets. -/
inductive Bracket where
  | square
  | curly
  deriving DecidableEq, Repr, Inhabited

/-- A token. -/
inductive Token where
  | lineBreak
  /-- Blanks as they are written. -/
  | blank (chars : List Char)
  | comma
  | dot
  | equals
  | opening (bracket : Bracket)
  | closing (bracket : Bracket)
  /-- A string; `long` if it may go over several lines. -/
  | text (content : String) (long : Bool)
  /-- A run of other characters. -/
  | word (chars : List Char)
  deriving DecidableEq, Repr, Inhabited

/-- The token of a character that is one by itself. -/
def mark? (c : Char) : Option Token :=
  match c with
  | ',' => some .comma
  | '.' => some .dot
  | '=' => some .equals
  | '[' => some (.opening .square)
  | ']' => some (.closing .square)
  | '\x7b' => some (.opening .curly)
  | '\x7d' => some (.closing .curly)
  | _ => none

/-- Does the character belong to the word in front of it? -/
def isWordChar (c : Char) : Bool :=
  !(isBlank c || c == '\n' || c == '\r' || c == '#' || (mark? c).isSome)

/-- A comment runs to the end of its line and holds plain characters only. -/
def skipComment? (s : List Char) : Option (List Char) :=
  let rest := s.dropWhile isPlain
  if rest = [] ∨ (lineBreak? rest).isSome then some rest else none

theorem length_of_skipComment? {s rest : List Char} (h : skipComment? s = some rest) :
    rest.length ≤ s.length := by
  simp only [skipComment?] at h
  split at h <;> simp only [Option.some.injEq, reduceCtorEq] at h
  exact h ▸ (List.dropWhile_sublist _).length_le

theorem length_dropWhile (p : Char → Bool) (s : List Char) :
    (s.dropWhile p).length ≤ s.length :=
  (List.dropWhile_sublist _).length_le

/-- **The tokens of a text**, unless a string, comment or line break is at fault. -/
def lexTokens (s : List Char) : Option (List Token) :=
  match s with
  | [] => some []
  | c :: rest =>
    have _ := length_dropWhile isWordChar rest
    have _ := length_dropWhile isBlank rest
    match hb : lineBreak? (c :: rest) with
    | some (_, tail) =>
      have : tail.length ≤ rest.length := Nat.le_of_lt_succ (length_of_lineBreak? hb)
      (lexTokens tail).map (.lineBreak :: ·)
    | none =>
      if isBlank c then
        (lexTokens (rest.dropWhile isBlank)).map (.blank (c :: rest.takeWhile isBlank) :: ·)
      else if c = '#' then
        match hc : skipComment? rest with
        | none => none
        | some tail =>
          have := length_of_skipComment? hc
          lexTokens tail
      else if c = '"' ∨ c = '\'' then
        match hs : lexString c rest with
        | none => none
        | some (content, long, tail) =>
          have := length_of_lexString hs
          (lexTokens tail).map (.text content long :: ·)
      else if c = '\r' then none
      else
        match mark? c with
        | some mark => (lexTokens rest).map (mark :: ·)
        | none =>
          (lexTokens (rest.dropWhile isWordChar)).map
            (.word (c :: rest.takeWhile isWordChar) :: ·)
termination_by s.length

/-- The mark in front of a text that only tells how it is encoded. -/
def byteOrderMark : Char := '\ufeff'

/-- **The tokens of a document.** -/
def tokens (text : String) : Option (List Token) :=
  match text.toList with
  | c :: rest => lexTokens (if c = byteOrderMark then rest else c :: rest)
  | [] => some []

/-! ## Pieces -/

/-- A token, or what stands inside a pair of brackets. -/
inductive Piece where
  | token (token : Token)
  | group (bracket : Bracket) (inner : List Piece)
  deriving Repr, Inhabited

/-- How deep brackets may be nested, and how many keys a dotted key may have. -/
def maxDepth : Nat := 80

/-- A bracket that is not closed yet. -/
structure OpenGroup where
  /-- Its kind. -/
  bracket : Bracket
  /-- The pieces in front of it, from the bracket before it on, latest first. -/
  before : List Piece

/-- **Gathers tokens into groups**, given the brackets that are open, the innermost
    first, and the pieces behind the innermost, latest first. -/
def gather (opened : List OpenGroup) (latest : List Piece) : List Token → Option (List Piece)
  | [] => if opened.isEmpty then some latest.reverse else none
  | .opening bracket :: rest =>
    if opened.length < maxDepth then gather (⟨bracket, latest⟩ :: opened) [] rest else none
  | .closing bracket :: rest =>
    match opened with
    | [] => none
    | inner :: outer =>
      if inner.bracket = bracket then
        gather outer (.group bracket latest.reverse :: inner.before) rest
      else none
  | t :: rest => gather opened (.token t :: latest) rest

/-- **The pieces of a document**, unless a token is at fault or brackets do not
    match. -/
def pieces (text : String) : Option (List Piece) := do
  gather [] [] (← tokens text)

end QueryPaths.Toml
