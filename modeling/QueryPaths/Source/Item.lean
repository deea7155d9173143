import QueryPaths.Source.Ident
import QueryPaths.Source.Literal

/-! # Items of the generated source

    The generated source consists of string constants, modules that hold
    further items, and inclusions of other files. It is written on one line
    with single spaces between tokens.

    * **`Item`**: the three kinds of item.
    * **`Item.chars`**: how one is written.
    * **`sourceText`**: the text of a whole file.
-/

namespace QueryPaths.Source

/-- An attribute in front of a module. -/
inductive Attribute where
  /-- A line of documentation. -/
  | doc (text : String)
  /-- A lint that is switched off. -/
  | allow (lint : String)
  deriving DecidableEq, Repr

/-- An item of the generated source. -/
inductive Item where
  /-- A public string constant. -/
  | constant (ident : Ident) (value : String)
  /-- A public module. -/
  | module (attributes : List Attribute) (ident : Ident) (items : List Item)
  /-- The items of another file in this place. -/
  | inclusion (path : String)
  deriving Repr, Inhabited

/-- An attribute as it is written, with the space behind it. -/
def Attribute.chars : Attribute → List Char
  | doc text => "# [doc = ".toList ++ literal text ++ "] ".toList
  | allow lint => "# [allow (".toList ++ lint.toList ++ ")] ".toList

mutual

/-- **An item as it is written.** -/
def Item.chars : Item → List Char
  | .constant ident value =>
    "pub const ".toList ++ ident.chars ++ " : & str = ".toList ++ literal value ++ " ;".toList
  | .module attributes ident items =>
    attributes.flatMap Attribute.chars ++ "pub mod ".toList ++ ident.chars ++ " \x7b ".toList ++
      Item.bodyChars items ++ "\x7d".toList
  | .inclusion path => "include ! (".toList ++ literal path ++ ") ;".toList

/-- The items of a module, each with the space behind it. -/
def Item.bodyChars : List Item → List Char
  | [] => []
  | item :: rest => item.chars ++ ' ' :: Item.bodyChars rest

end

-- one equation for each kind of text; the pieces of text stay folded in them

theorem Attribute.chars_doc (text : String) :
    (doc text).chars = "# [doc = ".toList ++ literal text ++ "] ".toList :=
  rfl

theorem Attribute.chars_allow (lint : String) :
    (allow lint).chars = "# [allow (".toList ++ lint.toList ++ ")] ".toList :=
  rfl

theorem Item.chars_constant (ident : Ident) (value : String) :
    (constant ident value).chars =
      "pub const ".toList ++ ident.chars ++ " : & str = ".toList ++ literal value ++ " ;".toList :=
  rfl

theorem Item.chars_module (attributes : List Attribute) (ident : Ident) (items : List Item) :
    (module attributes ident items).chars =
      attributes.flatMap Attribute.chars ++ "pub mod ".toList ++ ident.chars ++ " \x7b ".toList ++
        Item.bodyChars items ++ "\x7d".toList :=
  rfl

theorem Item.chars_inclusion (path : String) :
    (inclusion path).chars = "include ! (".toList ++ literal path ++ ") ;".toList :=
  rfl

theorem Item.bodyChars_cons (item : Item) (rest : List Item) :
    Item.bodyChars (item :: rest) = item.chars ++ ' ' :: Item.bodyChars rest :=
  rfl

/-- **The text of a file** of items, with a space between two of them. -/
def sourceText (items : List Item) : String :=
  String.ofList ([' '].intercalate (items.map Item.chars))

end QueryPaths.Source
