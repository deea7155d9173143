import QueryPaths.Text.GraphemeExtend
import QueryPaths.Text.Printable

/-! # Quoted text

    Names appear in log lines and diagnostics inside double quotes, in a form
    that shows every character:

    * tab, line feed, carriage return, NUL, the double quote and the backslash
      have two-character escapes;
    * a character that is unprintable, or that would be drawn onto its
      neighbour, is written by its code point, as in `\u{301}`;
    * every other character stands for itself.
-/

namespace QueryPaths.Text

/-- A character **by its code point**, in lower-case hexadecimal: `\u{7f}`. -/
def codePointEscape (c : Char) : List Char :=
  ['\\', 'u', '\x7b'] ++ Nat.toDigits 16 c.toNat ++ ['\x7d']

/-- How one character is written between double quotes. -/
def escapeChar (c : Char) : List Char :=
  match c with
  | '\x00' => ['\\', '0']
  | '\t' => ['\\', 't']
  | '\r' => ['\\', 'r']
  | '\n' => ['\\', 'n']
  | '"' => ['\\', '"']
  | '\\' => ['\\', '\\']
  | c => if isGraphemeExtend c || !isPrintable c then codePointEscape c else [c]

/-- **A text in double quotes**, every character escaped on its own. -/
def quoted (s : String) : String :=
  String.ofList ('"' :: s.toList.flatMap escapeChar ++ ['"'])

end QueryPaths.Text
