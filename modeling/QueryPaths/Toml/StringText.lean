import QueryPaths.Text.Hexadecimal

/-! # Strings in TOML documents

    A string stands between single or double quotes, one for a string on one
    line and three for a string over several lines. Escapes are known between
    double quotes only.

    * **`unescape`**: the character that an escape stands for.
    * **`lexString`**: the content of a string behind its first quote. It gives
      nothing if the string is at fault or is not closed.
-/

namespace QueryPaths.Toml

open Text (hexDigit?)

/-! ## Characters -/

/-- May the character stand for itself inside a string or comment? Control
    characters but tabs may not, nor may line breaks. -/
def isPlain (c : Char) : Bool := c == '\t' || (0x20 ≤ c.toNat && c.toNat != 0x7f)

/-- The blanks between the parts of a line. -/
def isBlank (c : Char) : Bool := c == ' ' || c == '\t'

/-- The character whose code point is written in hexadecimal, if there is one. -/
def codePoint? (digits : List Char) : Option Char := do
  let values ← digits.mapM hexDigit?
  let code := values.foldl (fun acc d => acc * 16 + d) 0
  if code.isValidChar then some (Char.ofNat code) else none

/-- The number of hexadecimal digits behind an escape letter. -/
def codeLength? (c : Char) : Option Nat :=
  match c with
  | 'x' => some 2
  | 'u' => some 4
  | 'U' => some 8
  | _ => none

/-- The character of an escape that is a single letter. -/
def simpleEscape? (c : Char) : Option Char :=
  match c with
  | 'b' => some '\x08'
  | 't' => some '\t'
  | 'n' => some '\n'
  | 'f' => some '\x0c'
  | 'r' => some '\r'
  | 'e' => some '\x1b'
  | '"' => some '"'
  | '\\' => some '\\'
  | _ => none

/-- **The character of the escape** behind a backslash, and the text behind it. -/
def unescape : List Char → Option (Char × List Char)
  | [] => none
  | c :: rest =>
    match codeLength? c with
    | some n =>
      if rest.length < n then none
      else (codePoint? (rest.take n)).map fun meant => (meant, rest.drop n)
    | none => (simpleEscape? c).map fun meant => (meant, rest)

theorem length_of_unescape {s rest : List Char} {c : Char} (h : unescape s = some (c, rest)) :
    rest.length < s.length := by
  match s with
  | [] => simp [unescape] at h
  | e :: s =>
    simp only [unescape] at h
    split at h
    · split at h
      · simp at h
      · simp only [Option.map_eq_some_iff, Prod.mk.injEq] at h
        obtain ⟨_, _, _, rfl⟩ := h
        simp only [List.length_drop, List.length_cons]
        omega
    · simp only [Option.map_eq_some_iff, Prod.mk.injEq] at h
      obtain ⟨_, _, _, rfl⟩ := h
      simp

/-! ## Strings on one line -/

/-- The content of a string between single quotes, and the text behind it. -/
def lexLiteral : List Char → Option (List Char × List Char)
  | [] => none
  | c :: rest =>
    if c = '\'' then some ([], rest)
    else if isPlain c then (lexLiteral rest).map fun (content, tail) => (c :: content, tail)
    else none

theorem length_of_lexLiteral {s content rest : List Char}
    (h : lexLiteral s = some (content, rest)) : rest.length < s.length := by
  fun_induction lexLiteral s generalizing content with
  | case3 c s _ _ ih =>
    simp only [Option.map_eq_some_iff, Prod.mk.injEq, Prod.exists] at h
    obtain ⟨content, tail, ht, -, rfl⟩ := h
    have := ih ht
    simp only [List.length_cons]
    omega
  | _ => simp_all

/-- The content of a string between double quotes, and the text behind it. -/
def lexBasic (s : List Char) : Option (List Char × List Char) :=
  match s with
  | [] => none
  | c :: rest =>
    if c = '"' then some ([], rest)
    else if c = '\\' then
      match h : unescape rest with
      | none => none
      | some (meant, tail) =>
        have := length_of_unescape h
        (lexBasic tail).map fun (content, tail) => (meant :: content, tail)
    else if isPlain c then (lexBasic rest).map fun (content, tail) => (c :: content, tail)
    else none
termination_by s.length

theorem length_of_lexBasic {s content rest : List Char}
    (h : lexBasic s = some (content, rest)) : rest.length < s.length := by
  fun_induction lexBasic s generalizing content with
  | case4 s meant tail _ shorter _ ih =>
    simp only [Option.map_eq_some_iff, Prod.mk.injEq, Prod.exists] at h
    obtain ⟨content, behind, ht, -, rfl⟩ := h
    have := ih ht
    simp only [List.length_cons]
    omega
  | case5 c s _ _ _ ih =>
    simp only [Option.map_eq_some_iff, Prod.mk.injEq, Prod.exists] at h
    obtain ⟨content, tail, ht, -, rfl⟩ := h
    have := ih ht
    simp only [List.length_cons]
    omega
  | _ => simp_all

/-! ## Strings over several lines -/

/-- The line break at the front, and the text behind it. -/
def lineBreak? : List Char → Option (List Char × List Char)
  | '\n' :: rest => some (['\n'], rest)
  | '\r' :: '\n' :: rest => some (['\r', '\n'], rest)
  | _ => none

theorem length_of_lineBreak? {s br rest : List Char} (h : lineBreak? s = some (br, rest)) :
    rest.length < s.length := by
  unfold lineBreak? at h
  split at h
  · simp only [Option.some.injEq, Prod.mk.injEq] at h
    simp [← h.2]
  · simp only [Option.some.injEq, Prod.mk.injEq] at h
    rw [← h.2, List.length_cons, List.length_cons]
    omega
  · simp at h

/-- A line break right behind the opening quotes does not belong to the string. -/
def skipLineBreak (s : List Char) : List Char :=
  match lineBreak? s with
  | some (_, rest) => rest
  | none => s

theorem length_skipLineBreak (s : List Char) : (skipLineBreak s).length ≤ s.length := by
  unfold skipLineBreak
  split
  · rename_i h
    exact Nat.le_of_lt (length_of_lineBreak? h)
  · simp

/-- **Where a string over several lines ends**: at three quotes, and up to two
    more in front of them belong to it. These and the text behind the end. -/
def closing? (quote : Char) (s : List Char) : Option (List Char × List Char) :=
  let n := (s.takeWhile (· == quote)).length
  if n < 3 then none else some (List.replicate (min n 5 - 3) quote, s.drop (min n 5))

theorem length_of_closing? {quote : Char} {s extra rest : List Char}
    (h : closing? quote s = some (extra, rest)) : rest.length < s.length := by
  have quotes : (s.takeWhile (· == quote)).length ≤ s.length :=
    (List.takeWhile_sublist _).length_le
  simp only [closing?] at h
  split at h <;> simp only [Option.some.injEq, Prod.mk.injEq, reduceCtorEq] at h
  rw [← h.2, List.length_drop]
  omega

/-- The text behind blanks and line breaks. A carriage return by itself is neither. -/
def skipGaps : List Char → List Char
  | '\r' :: '\n' :: rest => skipGaps rest
  | c :: rest => if isBlank c || c == '\n' then skipGaps rest else c :: rest
  | [] => []

theorem length_skipGaps (s : List Char) : (skipGaps s).length ≤ s.length := by
  fun_induction skipGaps s with
  | case1 s ih => exact Nat.le_trans ih (Nat.le_add_right s.length 2)
  | case2 c s _ _ ih => exact Nat.le_trans ih (Nat.le_add_right s.length 1)
  | case3 | case4 => exact Nat.le_refl _

/-- What a backslash at the end of a line takes away: blanks and line breaks up to
    the next character. Blanks alone are no end of a line. -/
def joinLines? (s : List Char) : Option (List Char) :=
  match lineBreak? (s.dropWhile isBlank) with
  | none => none
  | some (_, rest) => some (skipGaps rest)

theorem length_of_joinLines? {s rest : List Char} (h : joinLines? s = some rest) :
    rest.length < s.length := by
  have blanks : (s.dropWhile isBlank).length ≤ s.length := (List.dropWhile_sublist _).length_le
  unfold joinLines? at h
  split at h
  · simp at h
  · rename_i _ behind hb
    have := length_of_lineBreak? hb
    simp only [Option.some.injEq] at h
    have : rest.length ≤ behind.length := h ▸ length_skipGaps behind
    omega

/-- The content of a string between three quotes of a kind, and the text behind
    it. Line breaks belong to it as they are written. -/
def lexLong (quote : Char) (s : List Char) : Option (List Char × List Char) :=
  match closing? quote s with
  | some (extra, tail) => some (extra, tail)
  | none =>
    match s with
    | [] => none
    | c :: rest =>
      match hb : lineBreak? (c :: rest) with
      | some (br, tail) =>
        have : tail.length ≤ rest.length := Nat.le_of_lt_succ (length_of_lineBreak? hb)
        (lexLong quote tail).map fun (content, tail) => (br ++ content, tail)
      | none =>
        if c = '\\' ∧ quote = '"' then
          match hj : joinLines? rest with
          | some tail =>
            have := length_of_joinLines? hj
            lexLong quote tail
          | none =>
            match hu : unescape rest with
            | none => none
            | some (meant, tail) =>
              have := length_of_unescape hu
              (lexLong quote tail).map fun (content, tail) => (meant :: content, tail)
        else if isPlain c then
          (lexLong quote rest).map fun (content, tail) => (c :: content, tail)
        else none
termination_by s.length

theorem length_of_lexLong {quote : Char} {s content rest : List Char}
    (h : lexLong quote s = some (content, rest)) : rest.length < s.length := by
  -- every step takes a character at least
  fun_induction lexLong quote s generalizing content with
  | case1 s extra tail hc =>
    simp only [Option.some.injEq, Prod.mk.injEq] at h
    exact h.2 ▸ length_of_closing? hc
  | case3 c s _ _ tail _ shorter ih =>
    simp only [Option.map_eq_some_iff, Prod.mk.injEq, Prod.exists] at h
    obtain ⟨content, behind, ht, -, rfl⟩ := h
    have := ih ht
    simp only [List.length_cons]
    omega
  | case4 _ _ _ _ _ tail _ shorter ih =>
    have := ih h
    simp only [List.length_cons]
    omega
  | case6 _ _ _ _ _ _ meant tail _ shorter ih =>
    simp only [Option.map_eq_some_iff, Prod.mk.injEq, Prod.exists] at h
    obtain ⟨content, behind, ht, -, rfl⟩ := h
    have := ih ht
    simp only [List.length_cons]
    omega
  | case7 c s _ _ _ _ ih =>
    simp only [Option.map_eq_some_iff, Prod.mk.injEq, Prod.exists] at h
    obtain ⟨content, behind, ht, -, rfl⟩ := h
    have := ih ht
    simp only [List.length_cons]
    omega
  | _ => simp_all

/-! ## All strings -/

/-- A string on one line, behind its quote: its content and the text behind it. -/
def lexShort (quote : Char) (s : List Char) : Option (List Char × List Char) :=
  if quote = '"' then lexBasic s else lexLiteral s

theorem length_of_lexShort {quote : Char} {s content rest : List Char}
    (h : lexShort quote s = some (content, rest)) : rest.length < s.length := by
  unfold lexShort at h
  split at h
  · exact length_of_lexBasic h
  · exact length_of_lexLiteral h

/-- The text behind two more quotes of the kind, if it begins with them. -/
def behindQuotes? (quote : Char) : List Char → Option (List Char)
  | q :: r :: rest => if q = quote ∧ r = quote then some rest else none
  | _ => none

theorem length_of_behindQuotes? {quote : Char} {s rest : List Char}
    (h : behindQuotes? quote s = some rest) : rest.length < s.length := by
  unfold behindQuotes? at h
  split at h
  · split at h <;> simp only [Option.some.injEq, reduceCtorEq] at h
    rw [← h, List.length_cons, List.length_cons]
    omega
  · simp at h

/-- **A string behind its first quote**: its content, whether it stands between three
    quotes, and the text behind it. -/
def lexString (quote : Char) (s : List Char) : Option (String × Bool × List Char) :=
  match behindQuotes? quote s with
  | some rest =>
    (lexLong quote (skipLineBreak rest)).map fun (content, tail) =>
      (String.ofList content, true, tail)
  | none =>
    (lexShort quote s).map fun (content, tail) => (String.ofList content, false, tail)

theorem length_of_lexString {quote : Char} {s rest : List Char} {content : String} {long : Bool}
    (h : lexString quote s = some (content, long, rest)) : rest.length < s.length := by
  unfold lexString at h
  split at h
  · rename_i more hq
    simp only [Option.map_eq_some_iff, Prod.mk.injEq, Prod.exists] at h
    obtain ⟨content, tail, ht, -, -, rfl⟩ := h
    have := length_of_lexLong ht
    have := length_skipLineBreak more
    have := length_of_behindQuotes? hq
    omega
  · simp only [Option.map_eq_some_iff, Prod.mk.injEq, Prod.exists] at h
    obtain ⟨content, tail, ht, -, -, rfl⟩ := h
    exact length_of_lexShort ht

end QueryPaths.Toml
