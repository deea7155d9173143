import QueryPaths.Model.Manifest
import QueryPaths.Proofs.Json.Grammar
import QueryPaths.Proofs.Json.Record

/-! # The ways to write a class

    A class stands in a manifest as an object or as an array. In an object its keys stand in any
    order, what has a default may be left out, and keys that nobody knows may stand between them
    with any value. Whichever way it is written, the same class is loaded, and it is the one that
    is made step by step if its qualified name is left to be derived.

    * **`Attributes`**: what a manifest says about a class. **`Attributes.described`**: the class.
    * **`Field.forms`**, **`Attributes.forms`**, **`manifestForms`**: what may be written.
    * **`Field.decoder_of_isRecordOf`**, **`Attributes.decoder_of_isRecordOf`**: each record.
    * **`Attributes.made_eq_described`**: classes that are made step by step.
    * **`class_spellings_agree`**: whole manifests.
-/

namespace QueryPaths

open Json (gap_nil Decoder FieldForm IsListOf IsRecordOf Reading SpellsDocument)

/-! ## Texts that may be missing -/

/-- A text, or nothing in its place. -/
def optionalReading : Option String → Reading
  | none => .null
  | some text => .string (.ok text)

theorem optional_optionalReading (text : Option String) :
    Decoder.optional Decoder.string (optionalReading text) = .ok text := by
  cases text with
  | none => rfl
  | some text => rfl

/-! ## Defaults -/

variable {α : Type} {key : String} {seen : Finset String}

/-- What has been read, or is meant by default, is what is meant. -/
theorem getD_of_given {a default : α} (h : key ∈ seen ∨ a = default) :
    (if key ∈ seen then some a else none).getD default = a := by
  by_cases hkey : key ∈ seen
  · rw [if_pos hkey, Option.getD_some]
  · rw [if_neg hkey, Option.getD_none, h.resolve_left hkey]

theorem join_of_given {a : Option α} (h : key ∈ seen ∨ a = none) :
    (if key ∈ seen then some a else none).join = a := by
  by_cases hkey : key ∈ seen
  · rw [if_pos hkey, Option.join_some]
  · rw [if_neg hkey, Option.join_none, h.resolve_left hkey]

/-! ## Fields -/

namespace Field

/-- **What may be written for a field**: its name, and its link unless there is none. -/
def forms (field : Field) : List FieldForm :=
  [{ name := "name", right := (· = .string (.ok field.name)), isDefault := False },
    { name := "link", right := (· = optionalReading field.link), isDefault := field.link = none }]

/-- A field of which these keys have been read. -/
def draft (field : Field) (seen : Finset String) : FieldDraft where
  name := if "name" ∈ seen then some field.name else none
  link := if "link" ∈ seen then some field.link else none

theorem forms_fit (field : Field) :
    List.Forall₂ (FieldForm.Fits field.draft) field.forms fieldShape.slots := by
  -- for each slot in order: what is there at first, and what a value makes of it
  refine .cons ⟨rfl, ?_, ?_⟩ (.cons ⟨rfl, ?_, ?_⟩ .nil)
  · intro seen hseen
    simp [draft, hseen]
  · rintro value rfl - seen
    simp [draft, Decoder.string, Except.map]
  · intro seen hseen
    simp [draft, hseen]
  · rintro value rfl - seen
    simp [draft, optional_optionalReading, Except.map]

/-- **A field is read, whichever way it is written.** -/
theorem decoder_of_isRecordOf {field : Field} {reading : Reading}
    (h : IsRecordOf field.forms reading) (hskip : reading.skip = .ok ()) :
    fieldDecoder reading = .ok field := by
  refine Json.RecordShape.decoder_of_isRecordOf field.forms_fit (fun seen hseen => ?_) h hskip
  simp only [forms, List.mem_cons, List.not_mem_nil, or_false, forall_eq_or_imp, forall_eq] at hseen
  obtain ⟨hname, hlink⟩ := hseen
  have hname' : (field.draft seen).name = some field.name := if_pos hname
  have hlink' : (field.draft seen).link.join = field.link := join_of_given hlink
  simp only [fieldShape, hname', hlink']

end Field

/-! ## Classes -/

/-- **What a manifest says about a class.** -/
structure Attributes where
  /-- The dotted package; empty for the root package. -/
  package : String
  /-- The name without the package. -/
  simple : String
  /-- The qualified name, unless it is left to be derived. -/
  explicit : Option String
  /-- The fields in declaration order. -/
  fields : List Field
  /-- Does a dependency own the class? -/
  library : Bool

namespace Attributes

/-- **The class that is meant.** -/
def described (a : Attributes) : ModelClass where
  package := a.package
  simple := a.simple
  qualified :=
    match a.explicit with
    | some name => name
    | none => if a.package = "" then a.simple else a.package ++ "." ++ a.simple
  fields := a.fields
  library := a.library

/-- **What may be written for a class.** -/
def forms (a : Attributes) : List FieldForm :=
  [{ name := "package_name", right := (· = .string (.ok a.package)), isDefault := a.package = "" },
    { name := "simple_class_name", right := (· = .string (.ok a.simple)), isDefault := False },
    { name := "qualified_class_name", right := (· = optionalReading a.explicit)
      isDefault := a.explicit = none },
    { name := "fields", right := IsListOf (fun field => IsRecordOf field.forms) a.fields
      isDefault := a.fields = [] },
    { name := "library_class", right := (· = .boolean a.library), isDefault := a.library = false }]

/-- A class of which these keys have been read. -/
def draft (a : Attributes) (seen : Finset String) : ClassDraft where
  package := if "package_name" ∈ seen then some a.package else none
  simple := if "simple_class_name" ∈ seen then some a.simple else none
  qualified := if "qualified_class_name" ∈ seen then some a.explicit else none
  fields := if "fields" ∈ seen then some a.fields else none
  library := if "library_class" ∈ seen then some a.library else none

theorem fieldListDecoder_of_isListOf {fields : List Field} {reading : Reading}
    (h : IsListOf (fun field => IsRecordOf field.forms) fields reading)
    (hskip : reading.skip = .ok ()) : fieldListDecoder reading = .ok fields := by
  have hlist := @Decoder.list_of_isListOf _ _ _ fieldDecoder id _ _
    (fun _ _ => Field.decoder_of_isRecordOf) h hskip
  rw [List.map_id] at hlist
  exact hlist

theorem forms_fit (a : Attributes) :
    List.Forall₂ (FieldForm.Fits a.draft) a.forms classShape.slots := by
  refine .cons ⟨rfl, ?_, ?_⟩ (.cons ⟨rfl, ?_, ?_⟩ (.cons ⟨rfl, ?_, ?_⟩ (.cons ⟨rfl, ?_, ?_⟩
    (.cons ⟨rfl, ?_, ?_⟩ .nil))))
  · intro seen hseen
    simp [draft, hseen]
  · rintro value rfl - seen
    simp [draft, Decoder.string, Except.map]
  · intro seen hseen
    simp [draft, hseen]
  · rintro value rfl - seen
    simp [draft, Decoder.string, Except.map]
  · intro seen hseen
    simp [draft, hseen]
  · rintro value rfl - seen
    simp [draft, optional_optionalReading, Except.map]
  · intro seen hseen
    simp [draft, hseen]
  · intro value hvalue hskip seen
    simp [draft, fieldListDecoder_of_isListOf hvalue hskip, Except.map]
  · intro seen hseen
    simp [draft, hseen]
  · rintro value rfl - seen
    simp [draft, Decoder.boolean, Except.map]

/-- **A class is read, whichever way it is written.** -/
theorem decoder_of_isRecordOf {a : Attributes} {reading : Reading}
    (h : IsRecordOf a.forms reading) (hskip : reading.skip = .ok ()) :
    classDecoder reading = .ok a.described := by
  refine Json.RecordShape.decoder_of_isRecordOf a.forms_fit (fun seen hseen => ?_) h hskip
  -- each key has been read, or what is meant is its default
  simp only [forms, List.mem_cons, List.not_mem_nil, or_false, forall_eq_or_imp, forall_eq] at hseen
  obtain ⟨hpackage, hsimple, hexplicit, hfields, hlibrary⟩ := hseen
  have hsimple' : (a.draft seen).simple = some a.simple := if_pos hsimple
  have hpackage' : (a.draft seen).package.getD "" = a.package := getD_of_given hpackage
  have hexplicit' : (a.draft seen).qualified.join = a.explicit := join_of_given hexplicit
  have hfields' : (a.draft seen).fields.getD [] = a.fields := getD_of_given hfields
  have hlibrary' : (a.draft seen).library.getD false = a.library := getD_of_given hlibrary
  have hclass : (a.draft seen).toClass a.simple = a.described := by
    rw [ClassDraft.toClass, hpackage', hexplicit', hfields', hlibrary', described]
    cases a.explicit with
    | none => rfl
    | some name => rfl
  simp only [classShape, hsimple', hclass]

/-! ## Classes that are made step by step -/

/-- Adds a field of either kind. -/
def addField (c : ModelClass) (field : Field) : ModelClass :=
  match field.link with
  | none => c.scalar field.name
  | some target => c.linkTo field.name target

/-- **The class that is made step by step**: with its package and its simple name, then field by
    field, then marked as owned by a dependency if it is. -/
def made (a : Attributes) : ModelClass :=
  let listed := a.fields.foldl addField (ModelClass.make a.package a.simple)
  if a.library then listed.asLibrary else listed

theorem foldl_addField (c : ModelClass) (fields : List Field) :
    fields.foldl addField c = { c with fields := c.fields ++ fields } := by
  induction fields generalizing c with
  | nil => rw [List.foldl_nil, List.append_nil]
  | cons field rest ih =>
    obtain ⟨name, link⟩ := field
    rw [List.foldl_cons, ih]
    cases link with
    | none => simp [addField, ModelClass.scalar]
    | some target => simp [addField, ModelClass.linkTo]

/-- **The class that is made is the one described**, unless the qualified name is given. -/
theorem made_eq_described {a : Attributes} (h : a.explicit = none) : a.made = a.described := by
  rw [made, foldl_addField, described, h]
  cases hlibrary : a.library with
  | false => rfl
  | true => rfl

end Attributes

/-! ## Manifests -/

/-- **What may be written for a manifest** of these classes. -/
def manifestForms (listed : List Attributes) : List FieldForm :=
  [{ name := "classes", right := IsListOf (fun a => IsRecordOf a.forms) listed
     isDefault := listed = [] }]

/-- A manifest of which these keys have been read. -/
def manifestDraft (listed : List Attributes) (seen : Finset String) : Option (List ModelClass) :=
  if "classes" ∈ seen then some (listed.map Attributes.described) else none

theorem manifestForms_fit (listed : List Attributes) :
    List.Forall₂ (FieldForm.Fits (manifestDraft listed)) (manifestForms listed)
      manifestShape.slots := by
  refine .cons ⟨rfl, ?_, ?_⟩ .nil
  · intro seen hseen
    simp [manifestDraft, hseen]
  · intro value hvalue hskip seen
    have hlist := @Decoder.list_of_isListOf _ _ (fun (a : Attributes) => IsRecordOf a.forms)
      classDecoder _ _ _ (fun _ _ => Attributes.decoder_of_isRecordOf) hvalue hskip
    simp [manifestDraft, hlist, Except.map]

/-- **A manifest is read, whichever way it is written.** -/
theorem manifestDecoder_of_isRecordOf {listed : List Attributes} {reading : Reading}
    (h : IsRecordOf (manifestForms listed) reading) (hskip : reading.skip = .ok ()) :
    manifestDecoder reading = .ok { classes := listed.map Attributes.described } := by
  refine Json.RecordShape.decoder_of_isRecordOf (manifestForms_fit listed) (fun seen hseen => ?_)
    h hskip
  simp only [manifestForms, List.mem_cons, List.not_mem_nil, or_false, forall_eq] at hseen
  have hlisted : "classes" ∈ seen ∨ listed.map Attributes.described = [] :=
    hseen.imp_right fun hnone => by rw [hnone, List.map_nil]
  have hclasses : (manifestDraft listed seen).getD [] = listed.map Attributes.described :=
    getD_of_given hlisted
  simp only [manifestShape, hclasses]

/-- **All spellings of a class load to the same class.** Take any classes, and any JSON text that
    describes them one after the other: each class as an object with its keys in any order, without
    some of those whose default is meant, and with any other keys and values between them, or as
    the array of its five values; the same for their fields and for the manifest as a whole. Then
    the manifest loads, and its pool has the classes that are described, in this order. What is
    described without a qualified name is the class that is made step by step. -/
theorem class_spellings_agree (listed : List Attributes) (text : String) (reading : Reading)
    (htext : SpellsDocument text reading) (hform : IsRecordOf (manifestForms listed) reading) :
    ∃ manifest, Manifest.read text = .ok manifest ∧
      (∀ (disk : Disk) (path : String), disk.readText path = .ok text →
        Manifest.load disk path = .ok manifest) ∧
      manifest.classes = listed.map Attributes.described ∧
      manifest.pool.toList = listed.map Attributes.described ∧
      ∀ a ∈ listed, a.explicit = none → a.described = a.made := by
  have hread : Manifest.read text = .ok { classes := listed.map Attributes.described } := by
    have hskip : reading.skip = .ok () := Json.SpellsDocument.skip htext
    rw [Manifest.read, Decoder.run, Json.scanDocument_of_spells htext]
    show ((manifestDecoder reading >>= _) : Except Json.Error Manifest).mapError _ = _
    rw [manifestDecoder_of_isRecordOf hform hskip]
    rfl
  refine ⟨_, hread, fun disk path hdisk => ?_, rfl, ClassPool.toList_ofList _,
    fun a _ hnone => (Attributes.made_eq_described hnone).symm⟩
  rw [Manifest.load, hdisk]
  exact hread

/-- A manifest of two classes: one as an object, in an order of its own and with a key that nobody
    knows, and one as an array. -/
def mixedManifest : String :=
  "\x7b\"classes\":[\x7b\"library_class\":true,\"note\":[null],\"simple_class_name\":\"Dog\"," ++
    "\"fields\":[\x7b\"name\":\"owner\"\x7d]\x7d,[\"app\",\"Cat\",null,[],false]]\x7d"

/-- What it loads to. -/
theorem mixedManifest_loads :
    ∃ manifest, Manifest.read mixedManifest = .ok manifest ∧
      manifest.pool.toList =
        [((ModelClass.make "" "Dog").scalar "owner").asLibrary, ModelClass.make "app" "Cat"] := by
  have howner : IsRecordOf (Field.forms ⟨"owner", none⟩)
      (.object (.ofList [("name", .string (.ok "owner"))])) :=
    .object ⟨by simp [Field.forms], by simp, by simp [Field.forms]⟩
  have hdog : IsRecordOf (Attributes.forms ⟨"", "Dog", none, [⟨"owner", none⟩], true⟩)
      (.object (.ofList [("library_class", .boolean true), ("note", .array (.ofList [.null])),
        ("simple_class_name", .string (.ok "Dog")),
        ("fields", .array (.ofList [.object (.ofList [("name", .string (.ok "owner"))])]))])) :=
    .object ⟨by simpa [Attributes.forms] using ⟨_, rfl, .cons howner .nil⟩,
      by simp [Attributes.forms], by simp [Attributes.forms]⟩
  have hcat : IsRecordOf (Attributes.forms ⟨"app", "Cat", none, [], false⟩)
      (.array (.ofList [.string (.ok "app"), .string (.ok "Cat"), .null, .array (.ofList []),
        .boolean false])) :=
    .array (.cons rfl (.cons rfl (.cons rfl (.cons ⟨[], rfl, .nil⟩ (.cons rfl .nil)))))
  have hforms : IsRecordOf
      (manifestForms [⟨"", "Dog", none, [⟨"owner", none⟩], true⟩, ⟨"app", "Cat", none, [], false⟩])
      (.object (.ofList [("classes", .array (.ofList [_, _]))])) :=
    .object ⟨by simpa [manifestForms] using ⟨_, rfl, .cons hdog (.cons hcat .nil)⟩, by simp,
      by simp [manifestForms]⟩
  -- the text, from its outermost brace to the innermost values
  have htext : SpellsDocument mixedManifest _ :=
    ⟨[], _, [], gap_nil, gap_nil,
      .first "classes" (.array gap_nil
        (.first "library_class" .true <| .next "note" (.array gap_nil .null (.noElement gap_nil)) <|
          .next "simple_class_name" (.written "Dog") <| .next "fields"
            (.array gap_nil (.first "name" (.written "owner") (.noMember gap_nil))
              (.noElement gap_nil)) (.noMember gap_nil))
        (.element gap_nil gap_nil (.array gap_nil (.written "app") <|
          .element gap_nil gap_nil (.written "Cat") <| .element gap_nil gap_nil .null <|
            .element gap_nil gap_nil (.emptyArray gap_nil) <|
              .element gap_nil gap_nil .false <| .noElement gap_nil)
          (.noElement gap_nil))) (.noMember gap_nil), by decide +kernel⟩
  obtain ⟨manifest, hread, -, -, hpool, -⟩ := class_spellings_agree _ _ _ htext hforms
  exact ⟨manifest, hread, hpool⟩

end QueryPaths
