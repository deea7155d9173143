import QueryPaths.Source.Trivia
import QueryPaths.Text.XidContinue

/-! # Identifiers of the generated source

    A name may be used in generated Rust source if, read as source text, it is
    one identifier and nothing else but skipped text.

    * **`Ident`**: an identifier, written plainly or in the raw form `r#type`.
    * **`lexWord`**: the longest word at the front of a text.
    * **`Ident.parse?`**: the one identifier that a text consists of.
-/

namespace QueryPaths.Source

/-- An identifier. -/
structure Ident where
  /-- Is it written in the raw form `r#name`? -/
  raw : Bool
  /-- The name, without the raw mark. -/
  name : List Char
  deriving DecidableEq, Repr, Inhabited

/-- **The identifier as it is written.** -/
def Ident.chars (i : Ident) : List Char :=
  if i.raw then 'r' :: '#' :: i.name else i.name

/-! ## Words -/

/-- May `c` open an identifier? -/
def isIdentStart (c : Char) : Bool := c == '_' || Text.isXidStart c

/-- May `c` stand inside an identifier? -/
def isIdentContinue (c : Char) : Bool := Text.isXidContinue c

/-- **The longest word** at the front, and the text behind it. -/
def lexWord : List Char → Option (List Char × List Char)
  | [] => none
  | c :: rest =>
    if isIdentStart c then
      some (c :: rest.takeWhile isIdentContinue, rest.dropWhile isIdentContinue)
    else none

/-- The openings of quoted literals, and of what only looks like one. No
    identifier starts where one of them stands. -/
def literalOpenings : List (List Char) :=
  [['r', '"'], ['r', '#', '"'], ['r', '#', '#'], ['b', '"'], ['b', '\''], ['b', 'r', '"'],
    ['b', 'r', '#'], ['c', '"'], ['c', 'r', '"'], ['c', 'r', '#']]

/-- Words that cannot be written in raw form. -/
def neverRaw : List (List Char) :=
  ["_", "super", "self", "Self", "crate"].map String.toList

/-- Words that have a meaning of their own. -/
def keywords : List (List Char) :=
  ["_", "abstract", "as", "async", "await", "become", "box", "break", "const", "continue", "crate",
    "do", "dyn", "else", "enum", "extern", "false", "final", "fn", "for", "if", "impl", "in", "let",
    "loop", "macro", "match", "mod", "move", "mut", "override", "priv", "pub", "ref", "return",
    "Self", "self", "static", "struct", "super", "trait", "true", "try", "type", "typeof", "unsafe",
    "unsized", "use", "virtual", "where", "while", "yield"].map String.toList

/-- The identifier token at the front, keywords included, and the text behind it. -/
def lexIdent (s : List Char) : Option (Ident × List Char) :=
  if literalOpenings.any (·.isPrefixOf s) then none
  else
    match s with
    | 'r' :: '#' :: rest =>
      (lexWord rest).bind fun (word, tail) =>
        if neverRaw.contains word then none else some (⟨true, word⟩, tail)
    | _ => (lexWord s).map fun (word, tail) => (⟨false, word⟩, tail)

/-! ## Reading a whole text -/

/-- A byte order mark at the very front is dropped. -/
def dropByteOrderMark : List Char → List Char
  | '\ufeff' :: rest => rest
  | s => s

/-- **The identifier that `s` consists of**, apart from skipped text around it.
    A keyword is none unless it is written in raw form. -/
def Ident.parse? (s : String) : Option Ident :=
  (lexIdent (skipTrivia (dropByteOrderMark s.toList))).bind fun (ident, rest) =>
    if skipTrivia rest = [] ∧ (ident.raw = true ∨ ident.name ∉ keywords) then some ident else none

end QueryPaths.Source
