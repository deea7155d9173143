import QueryPaths.Text.Blank

/-! # White space and comments between tokens

    What the lexer of Rust source skips between two tokens: white space, the
    two direction marks, and plain comments. A documentation comment is not
    skipped, since it stands for an attribute.

    * **`afterComment?`**: the text behind a plain comment.
    * **`skipTrivia`**: the text behind all that is skipped.
-/

namespace QueryPaths.Source

/-- White space between tokens: the Unicode property and the two marks that set
    the writing direction. -/
def isBlank (c : Char) : Bool :=
  Text.isWhiteSpace c || c == '\u200e' || c == '\u200f'

/-! ## Comments -/

/-- The text behind a block comment of which `depth` further ones are open
    inside; `none` if it does not end. -/
def afterBlock? (depth : Nat) : List Char → Option (List Char)
  | [] => none
  | '*' :: '/' :: rest =>
    match depth with
    | 0 => some rest
    | outer + 1 => afterBlock? outer rest
  | '/' :: '*' :: rest => afterBlock? (depth + 1) rest
  | _ :: rest => afterBlock? depth rest

/-- Behind `//`: does this line comment document something? Three slashes do,
    four do not. -/
def isDocLine : List Char → Bool
  | '!' :: _ => true
  | '/' :: '/' :: _ => false
  | '/' :: _ => true
  | _ => false

/-- Behind `/*`: does this block comment document something? Two stars do, three
    do not, nor does an empty comment. -/
def isDocBlock : List Char → Bool
  | '!' :: _ => true
  | '*' :: '*' :: _ => false
  | '*' :: '/' :: _ => false
  | '*' :: _ => true
  | _ => false

/-- **The text behind a plain comment** that the given text starts with. A line
    comment ends before its line feed. -/
def afterComment? : List Char → Option (List Char)
  | '/' :: '/' :: rest => if isDocLine rest then none else some (rest.dropWhile (· ≠ '\n'))
  | '/' :: '*' :: rest => if isDocBlock rest then none else afterBlock? 0 rest
  | _ => none

theorem length_of_afterBlock? {depth : Nat} {s rest : List Char}
    (h : afterBlock? depth s = some rest) : rest.length < s.length := by
  -- every step takes a character at least, wherever it is in the nesting
  fun_induction afterBlock? depth s with
  | case1 => simp at h
  | case2 tail =>
    simp only [Option.some.injEq] at h
    rw [← h, List.length_cons, List.length_cons]
    omega
  | case3 tail outer ih =>
    have := ih h
    simp only [List.length_cons]
    omega
  | case4 depth tail ih =>
    have := ih h
    simp only [List.length_cons]
    omega
  | case5 depth c tail _ _ ih =>
    have := ih h
    simp only [List.length_cons]
    omega

theorem length_of_afterComment? {s rest : List Char} (h : afterComment? s = some rest) :
    rest.length < s.length := by
  unfold afterComment? at h
  split at h
  · split at h
    · simp at h
    · rename_i tail _
      have hle := (List.dropWhile_sublist (l := tail) (fun c => decide (c ≠ '\n'))).length_le
      simp only [Option.some.injEq] at h
      subst h
      simp only [List.length_cons]
      omega
  · split at h
    · simp at h
    · have := length_of_afterBlock? h
      simp only [List.length_cons]
      omega
  · simp at h

/-! ## Skipping -/

/-- **The text behind one piece of skipped text**: a blank or a plain comment. -/
def afterTrivia? : List Char → Option (List Char)
  | [] => none
  | c :: rest => if isBlank c then some rest else afterComment? (c :: rest)

theorem length_of_afterTrivia? {s rest : List Char} (h : afterTrivia? s = some rest) :
    rest.length < s.length := by
  unfold afterTrivia? at h
  split at h
  · cases h
  · split at h
    · simp only [Option.some.injEq] at h
      rw [← h, List.length_cons]
      omega
    · exact length_of_afterComment? h

/-- **Skips white space and plain comments.** -/
def skipTrivia (s : List Char) : List Char :=
  match _h : afterTrivia? s with
  | some rest => skipTrivia rest
  | none => s
termination_by s.length
decreasing_by exact length_of_afterTrivia? _h

theorem skipTrivia_of_none {s : List Char} (h : afterTrivia? s = none) : skipTrivia s = s := by
  rw [skipTrivia]
  split
  · next rest hrest => rw [hrest] at h; cases h
  · rfl

theorem skipTrivia_of_some {s rest : List Char} (h : afterTrivia? s = some rest) :
    skipTrivia s = skipTrivia rest := by
  rw [skipTrivia]
  split
  · next rest' hrest =>
    rw [hrest] at h
    rw [Option.some.inj h]
  · next hnone => rw [hnone] at h; cases h

end QueryPaths.Source
