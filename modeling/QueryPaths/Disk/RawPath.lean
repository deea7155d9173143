import QueryPaths.Disk.Path

/-! # Raw paths

    The system takes any bytes for a path. Names that are put below a path are
    texts, but the path itself need not be one, and wherever a path is shown or
    written into a source it must be made one.

    * **`RawPath.ofText`**: the path of a text, which is its UTF-8 form.
    * **`RawPath.join`** puts a path below another, as `Path.join` does.
    * **`RawPath.text`**: the path as text. Bytes that belong to no character are
      lost: each longest stretch of them that could have begun one becomes a
      replacement character, and so does any other stray byte.
-/

namespace QueryPaths.Disk

/-- A path as the system keeps it. -/
structure RawPath where
  /-- Its bytes. -/
  bytes : List UInt8
  deriving DecidableEq, Repr, Inhabited

namespace Utf8

/-! ## Reading bytes as characters -/

/-- A character of which some bytes are still missing. -/
structure Begun where
  /-- How many bytes are missing behind the next one. -/
  missing : Nat
  /-- The least byte that can be next. -/
  least : Nat
  /-- The greatest byte that can be next. -/
  greatest : Nat
  /-- The number that the bytes so far stand for. -/
  value : Nat
  deriving DecidableEq, Repr

/-- What stands for bytes that are no character. -/
def replacement : Char := '\ufffd'

/-- **Reads the first byte of a character**: the character, if that is all of it, a replacement
    for a byte that cannot be first, or what is begun. -/
def readFirst (byte : UInt8) : List Char × Option Begun :=
  let n := byte.toNat
  if n < 0x80 then ([Char.ofNat n], none)
  else if n < 0xC2 then ([replacement], none)
  else if n < 0xE0 then ([], some ⟨0, 0x80, 0xBF, n - 0xC0⟩)
  else if n < 0xF0 then
    -- shorter forms exist below 0xA0 here, and surrogates from 0xA0 on there
    let least := if n = 0xE0 then 0xA0 else 0x80
    let greatest := if n = 0xED then 0x9F else 0xBF
    ([], some ⟨1, least, greatest, n - 0xE0⟩)
  else if n < 0xF5 then
    -- shorter forms again, and what is beyond the last character
    let least := if n = 0xF0 then 0x90 else 0x80
    let greatest := if n = 0xF4 then 0x8F else 0xBF
    ([], some ⟨2, least, greatest, n - 0xF0⟩)
  else ([replacement], none)

/-- Reads a byte behind what is begun. One that does not fit ends it, and is a first byte. -/
def readByte : Option Begun → UInt8 → List Char × Option Begun
  | none, byte => readFirst byte
  | some b, byte =>
    if b.least ≤ byte.toNat ∧ byte.toNat ≤ b.greatest then
      let value := b.value * 0x40 + (byte.toNat - 0x80)
      match b.missing with
      | 0 => ([Char.ofNat value], none)
      | missing + 1 => ([], some ⟨missing, 0x80, 0xBF, value⟩)
    else
      let (chars, begun) := readFirst byte
      (replacement :: chars, begun)

/-- **Reads bytes as characters**, with replacements for those that are none. -/
def readLossy : Option Begun → List UInt8 → List Char
  | none, [] => []
  | some _, [] => [replacement]
  | begun, byte :: rest =>
    let (chars, begun) := readByte begun byte
    chars ++ readLossy begun rest

end Utf8

namespace RawPath

/-- **The path of a text.** -/
def ofText (text : String) : RawPath := ⟨text.toList.flatMap String.utf8EncodeChar⟩

/-- **The path `child` as seen from `base`.** -/
def join (base : RawPath) (child : String) : RawPath :=
  if Path.isAbsolute child then ofText child
  else if base.bytes = [] ∨ base.bytes.getLast? = some 0x2F then
    ⟨base.bytes ++ (ofText child).bytes⟩
  else ⟨base.bytes ++ 0x2F :: (ofText child).bytes⟩

/-- **The path as text.** -/
def text (path : RawPath) : String := String.ofList (Utf8.readLossy none path.bytes)

end RawPath

end QueryPaths.Disk
