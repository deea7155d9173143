/-! # Model classes

    A model is a set of classes with fields. A field is a scalar, or a link to
    another class given by that class's qualified name.

    * **`Field`**, **`ModelClass`**: the data.
    * **`qualify`**: how a package and a simple name make a qualified name.
    * **`ModelClass.make`** with `scalar`, `linkTo` and `asLibrary`: a class
      written down step by step.
-/

namespace QueryPaths

/-- A field: its raw name and, for a link, the qualified name it points to. -/
structure Field where
  /-- The raw name, any text. -/
  name : String
  /-- The qualified name of the linked class; `none` for a scalar field. -/
  link : Option String := none
  deriving DecidableEq, Repr, Inhabited

/-- A class of the model. -/
structure ModelClass where
  /-- The dotted package; empty for the root package. -/
  package : String
  /-- The name without the package. -/
  simple : String
  /-- The name that links refer to. -/
  qualified : String
  /-- The fields in declaration order. -/
  fields : List Field
  /-- Does a dependency own this class? Nothing is generated for it then. -/
  library : Bool
  deriving DecidableEq, Repr, Inhabited

/-- **Qualified name** of a class: `package.simple`, or the simple name alone in
    the root package. -/
def qualify (package simple : String) : String :=
  if package = "" then simple else package ++ "." ++ simple

namespace ModelClass

/-- A project class without fields under its derived qualified name. -/
def make (package simple : String) : ModelClass :=
  { package, simple, qualified := qualify package simple, fields := [], library := false }

/-- Adds a scalar field at the end. -/
def scalar (c : ModelClass) (name : String) : ModelClass :=
  { c with fields := c.fields ++ [{ name }] }

/-- Adds a link field at the end. -/
def linkTo (c : ModelClass) (name target : String) : ModelClass :=
  { c with fields := c.fields ++ [{ name, link := some target }] }

/-- Marks the class as owned by a dependency. -/
def asLibrary (c : ModelClass) : ModelClass := { c with library := true }

/-- The first field of that name. -/
def field? (c : ModelClass) (name : String) : Option Field :=
  c.fields.find? (·.name == name)

end ModelClass

end QueryPaths
