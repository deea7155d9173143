import QueryPaths.Disk.Tree
import QueryPaths.Json.Decoder
import QueryPaths.Json.Value
import QueryPaths.Model.Pool

/-! # Manifests

    A manifest is the JSON text that describes the classes of a model.

    * **`fieldDecoder`**, **`classDecoder`**, **`manifestDecoder`**: what is
      asked of each record, and what stands for absent fields.
    * **`Manifest.read`** decodes a text, **`Manifest.load`** a file.
    * **`fieldListValue`**: fields as they are written out.
-/

namespace QueryPaths

open Decode (DataError)
open Json (Decoder RecordShape Slot)

/-! ## Fields -/

/-- A field whose values are partly read. -/
structure FieldDraft where
  /-- The raw name. -/
  name : Option String := none
  /-- The link, if one was given, even as `null`. -/
  link : Option (Option String) := none

/-- The record of a field. A link may be absent or `null`. -/
def fieldShape : RecordShape FieldDraft Field where
  name := "Field"
  slots := [
    { name := "name", required := true, isFilled := (·.name.isSome)
      fill := fun draft reading =>
        (Decoder.string reading).map fun name => { draft with name := some name } },
    { name := "link", required := false, isFilled := (·.link.isSome)
      fill := fun draft reading =>
        (Decoder.optional Decoder.string reading).map fun link =>
          { draft with link := some link } }]
  complete := fun draft =>
    match draft.name with
    | none => .error (.missingField "name")
    | some name => .ok { name, link := draft.link.join }

/-- Decodes a field. -/
def fieldDecoder : Decoder Field := fieldShape.decoder {}

/-- Decodes a list of fields. -/
def fieldListDecoder : Decoder (List Field) := Decoder.list fieldDecoder

/-- A field as it is written out: a scalar has no link at all. -/
def Field.value (field : Field) : Json.Value :=
  .object (("name", .string field.name) ::
    match field.link with
    | none => []
    | some target => [("link", .string target)])

/-- **A list of fields** as it is written out. -/
def fieldListValue (fields : List Field) : Json.Value := .array (fields.map Field.value)

/-! ## Classes -/

/-- A class whose values are partly read. -/
structure ClassDraft where
  /-- The package. -/
  package : Option String := none
  /-- The simple name. -/
  simple : Option String := none
  /-- The qualified name, if one was given, even as `null`. -/
  qualified : Option (Option String) := none
  /-- The fields. -/
  fields : Option (List Field) := none
  /-- Does a dependency own the class? -/
  library : Option Bool := none

/-- The class of a draft with a simple name. An explicit qualified name wins over
    the derived one. -/
def ClassDraft.toClass (draft : ClassDraft) (simple : String) : ModelClass :=
  let package := draft.package.getD ""
  { package, simple
    qualified := draft.qualified.join.getD (qualify package simple)
    fields := draft.fields.getD []
    library := draft.library.getD false }

/-- The record of a class. Only the simple name is required. -/
def classShape : RecordShape ClassDraft ModelClass where
  name := "ClassRecord"
  slots := [
    { name := "package_name", required := false, isFilled := (·.package.isSome)
      fill := fun draft reading =>
        (Decoder.string reading).map fun package => { draft with package := some package } },
    { name := "simple_class_name", required := true, isFilled := (·.simple.isSome)
      fill := fun draft reading =>
        (Decoder.string reading).map fun simple => { draft with simple := some simple } },
    { name := "qualified_class_name", required := false, isFilled := (·.qualified.isSome)
      fill := fun draft reading =>
        (Decoder.optional Decoder.string reading).map fun qualified =>
          { draft with qualified := some qualified } },
    { name := "fields", required := false, isFilled := (·.fields.isSome)
      fill := fun draft reading =>
        (fieldListDecoder reading).map fun fields => { draft with fields := some fields } },
    { name := "library_class", required := false, isFilled := (·.library.isSome)
      fill := fun draft reading =>
        (Decoder.boolean reading).map fun library => { draft with library := some library } }]
  complete := fun draft =>
    match draft.simple with
    | none => .error (.missingField "simple_class_name")
    | some simple => .ok (draft.toClass simple)

/-- Decodes a class. -/
def classDecoder : Decoder ModelClass := classShape.decoder {}

/-! ## Manifests -/

/-- The description of a model. -/
structure Manifest where
  /-- The classes in the order in which they are listed. -/
  classes : List ModelClass
  deriving DecidableEq, Repr, Inhabited

/-- The record of a manifest. Without a list of classes it has none. -/
def manifestShape : RecordShape (Option (List ModelClass)) Manifest where
  name := "ModelManifest"
  slots := [
    { name := "classes", required := false, isFilled := Option.isSome
      fill := fun _ reading => (Decoder.list classDecoder reading).map some }]
  complete := fun draft => .ok { classes := draft.getD [] }

/-- Decodes a manifest. -/
def manifestDecoder : Decoder Manifest := manifestShape.decoder none

/-- Why a manifest does not load. -/
inductive LoadError where
  /-- Its file cannot be read. -/
  | io (path : String) (fault : Disk.Fault)
  /-- Its text is no manifest. -/
  | json (error : Json.Error)
  deriving DecidableEq, Repr, Inhabited

/-- **The wording** of an error. -/
def LoadError.message : LoadError → String
  | .io path fault => "failed to read model manifest '" ++ path ++ "': " ++ fault.message
  | .json error => "invalid model manifest: " ++ error.message

namespace Manifest

/-- **Reads a manifest** from its text. -/
def read (text : String) : Except LoadError Manifest :=
  (manifestDecoder.run text).mapError .json

/-- **Loads a manifest** from a file. -/
def load (disk : Disk) (path : String) : Except LoadError Manifest := do
  let text ← (disk.readText path).mapError (.io path)
  read text

/-- The pool of the classes that are listed. -/
def pool (manifest : Manifest) : ClassPool := ClassPool.ofList manifest.classes

end Manifest

end QueryPaths
