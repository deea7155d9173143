import Mathlib.Data.Finset.Insert
import QueryPaths.Json.Decoder
import QueryPaths.Proofs.Except

/-! # Records from objects and arrays

    A record may be written as an object or as an array of its fields. In an object, the fields
    stand in any order, those with a default may be left out, and members that belong to no field
    may stand between them. All of these are read as the same record, because each field that is
    read only fills its own place in the draft, and the rest are passed over.

    * **`IsListOf`**: the ways to write a list. **`Decoder.list_of_isListOf`**: how it is read.
    * **`FieldForm`**: what may be written for a field, and whether it may be left out.
    * **`IsObjectOf`**, **`IsRecordOf`**: the ways to write a record.
    * **`FieldForm.Fits`**: what a slot makes of its field.
    * **`RecordShape.decoder_of_isRecordOf`**: all ways to write a record are read as one.
-/

namespace QueryPaths.Json

variable {α β δ : Type} {values : List Reading} {members : List (String × Reading)}

/-! ## Arrays and objects of values -/

/-- **The elements of an array**, one after the other. -/
def Elements.ofList : List Reading → Elements
  | [] => .closed
  | value :: rest => .element value (ofList rest)

/-- **The members of an object**, one after the other. -/
def Members.ofList : List (String × Reading) → Members
  | [] => .closed
  | (key, value) :: rest => .member (.ok key) value (ofList rest)

theorem Elements.skip_of_mem (h : (Elements.ofList values).skip = .ok ()) :
    ∀ value ∈ values, value.skip = .ok () := by
  induction values with
  | nil => exact fun value hvalue => (List.not_mem_nil hvalue).elim
  | cons first rest ih =>
    rw [Elements.ofList, Elements.skip, bind_eq_ok] at h
    obtain ⟨⟨⟩, hfirst, hrest⟩ := h
    intro value hvalue
    rcases List.mem_cons.1 hvalue with rfl | hvalue
    · exact hfirst
    · exact ih hrest value hvalue

theorem Members.skip_of_mem (h : (Members.ofList members).skip = .ok ()) :
    ∀ m ∈ members, m.2.skip = .ok () := by
  induction members with
  | nil => exact fun m hm => (List.not_mem_nil hm).elim
  | cons first rest ih =>
    rw [Members.ofList, Members.skip, bind_eq_ok] at h
    obtain ⟨⟨⟩, hfirst, hrest⟩ := h
    intro m hm
    rcases List.mem_cons.1 hm with rfl | hm
    · exact hfirst
    · exact ih hrest m hm

/-! ## Ways to write a list -/

/-- **An array that is a list**: its elements say what is meant, one by one. -/
def IsListOf (right : α → Reading → Prop) (as : List α) (reading : Reading) : Prop :=
  ∃ values, reading = .array (.ofList values) ∧ List.Forall₂ right as values

theorem Elements.decode_ofList {right : α → Reading → Prop} {decoder : Decoder β} {meant : α → β}
    {as : List α}
    (hdecode : ∀ a value, right a value → value.skip = .ok () → decoder value = .ok (meant a))
    (h : List.Forall₂ right as values) (hskip : ∀ value ∈ values, value.skip = .ok ()) :
    (Elements.ofList values).decode decoder = .ok (as.map meant) := by
  induction h with
  | nil => rfl
  | cons hvalue _ ih =>
    rw [Elements.ofList, Elements.decode, hdecode _ _ hvalue (hskip _ List.mem_cons_self),
      ih fun v hv => hskip v (List.mem_cons_of_mem _ hv)]
    rfl

/-- **A list is read** if its elements are. -/
theorem Decoder.list_of_isListOf {right : α → Reading → Prop} {decoder : Decoder β}
    {meant : α → β} {as : List α} {reading : Reading}
    (hdecode : ∀ a value, right a value → value.skip = .ok () → decoder value = .ok (meant a))
    (h : IsListOf right as reading) (hskip : reading.skip = .ok ()) :
    Decoder.list decoder reading = .ok (as.map meant) := by
  obtain ⟨values, rfl, hvalues⟩ := h
  rw [Decoder.list]
  exact Elements.decode_ofList hdecode hvalues (Elements.skip_of_mem hskip)

/-! ## Ways to write a record -/

/-- **What may be written for a field.** -/
structure FieldForm where
  /-- The key of the field. -/
  name : String
  /-- Does a value say what is meant? -/
  right : Reading → Prop
  /-- Is that the default? -/
  isDefault : Prop

variable {forms : List FieldForm}

/-- **An object that is a record.** -/
structure IsObjectOf (forms : List FieldForm) (members : List (String × Reading)) : Prop where
  /-- Under the key of a field stands what is meant. -/
  right : ∀ m ∈ members, ∀ form ∈ forms, form.name = m.1 → form.right m.2
  /-- No field is given twice. Other keys may be. -/
  once : members.Pairwise fun m n => m.1 = n.1 → m.1 ∉ forms.map FieldForm.name
  /-- Every field is given unless the default is meant. -/
  given : ∀ form ∈ forms, form.name ∈ members.map Prod.fst ∨ form.isDefault

/-- **The ways to write a record**: as an object, or as an array of all fields in their order. -/
inductive IsRecordOf (forms : List FieldForm) : Reading → Prop where
  | object {members : List (String × Reading)} (h : IsObjectOf forms members) :
      IsRecordOf forms (.object (.ofList members))
  | array {values : List Reading}
      (h : List.Forall₂ (fun form value => form.right value) forms values) :
      IsRecordOf forms (.array (.ofList values))

/-! ## Reading a record -/

/-- **What a slot makes of its field**, in a draft of which the fields `seen` have been read: it
    takes whatever is meant, once. -/
structure FieldForm.Fits (draft : Finset String → δ) (form : FieldForm) (slot : Slot δ) : Prop where
  /-- It has the key of the field. -/
  name : slot.name = form.name
  /-- It is filled once the field has been read. -/
  isFilled : ∀ seen, form.name ∉ seen → slot.isFilled (draft seen) = false
  /-- It is filled by reading the field, and nothing else changes. -/
  fill : ∀ value, form.right value → value.skip = .ok () →
    ∀ seen, slot.fill (draft seen) value = .ok (draft (insert form.name seen))

variable {shape : RecordShape δ α} {draft : Finset String → δ}

/-- The slot of a key is that of its field. -/
theorem exists_form_of_find? {slots : List (Slot δ)} {slot : Slot δ} {key : String}
    (hslots : List.Forall₂ (FieldForm.Fits draft) forms slots)
    (hfind : slots.find? (·.name == key) = some slot) :
    ∃ form ∈ forms, form.name = key ∧ form.Fits draft slot := by
  induction hslots with
  | nil => cases hfind
  | cons hfits hrest ih =>
    rename_i form first forms slots
    rw [List.find?_cons] at hfind
    split at hfind
    · next hname =>
      obtain rfl := Option.some.inj hfind
      exact ⟨form, List.mem_cons_self, by rw [← hfits.name, beq_iff_eq.1 hname], hfits⟩
    · obtain ⟨form', hmem, h⟩ := ih hfind
      exact ⟨form', List.mem_cons_of_mem _ hmem, h⟩

/-- Without a slot there is no field of that key. -/
theorem not_mem_of_find? {slots : List (Slot δ)} {key : String}
    (hslots : List.Forall₂ (FieldForm.Fits draft) forms slots)
    (hfind : slots.find? (·.name == key) = none) : key ∉ forms.map FieldForm.name := by
  induction hslots with
  | nil => exact List.not_mem_nil
  | cons hfits _ ih =>
    rw [List.find?_cons] at hfind
    split at hfind
    · cases hfind
    · next hname =>
      rw [List.map_cons, List.mem_cons, not_or]
      refine ⟨?_, ih hfind⟩
      rw [← hfits.name]
      rintro rfl
      rw [beq_self_eq_true] at hname
      cases hname

/-- **A member is read** if its field has not been read before, or if it has no field. -/
theorem RecordShape.readMember_of_isObjectOf (hslots : List.Forall₂ (FieldForm.Fits draft) forms
    shape.slots) {key : String} {value : Reading} (hskip : value.skip = .ok ())
    (hright : ∀ form ∈ forms, form.name = key → form.right value) {seen : Finset String}
    (hseen : key ∈ forms.map FieldForm.name → key ∉ seen) :
    ∃ seen', shape.readMember (draft seen) key value = .ok (draft seen') ∧
      ∀ name ∈ forms.map FieldForm.name, name ∈ seen' ↔ name = key ∨ name ∈ seen := by
  rw [RecordShape.readMember]
  split
  · next hfind =>
    -- an unknown key leaves the draft alone
    have hunknown := not_mem_of_find? hslots hfind
    refine ⟨seen, by rw [hskip]; rfl, fun name hname => ?_⟩
    constructor
    · exact .inr
    · intro h
      rcases h with rfl | h
      · exact absurd hname hunknown
      · exact h
  · next hfind =>
    obtain ⟨form, hmem, rfl, hfits⟩ := exists_form_of_find? hslots hfind
    have hfree := hfits.isFilled seen (hseen (List.mem_map_of_mem hmem))
    refine ⟨insert form.name seen, ?_, fun name _ => Finset.mem_insert⟩
    rw [hfree, if_neg Bool.false_ne_true]
    exact hfits.fill value (hright form hmem rfl) hskip seen

/-- **Members are read one by one**, until the draft has all fields that are given. -/
theorem RecordShape.ofMembers_ofList (hslots : List.Forall₂ (FieldForm.Fits draft) forms
    shape.slots) (hskip : ∀ m ∈ members, m.2.skip = .ok ())
    (hright : ∀ m ∈ members, ∀ form ∈ forms, form.name = m.1 → form.right m.2)
    (honce : members.Pairwise fun m n => m.1 = n.1 → m.1 ∉ forms.map FieldForm.name)
    {seen : Finset String}
    (hseen : ∀ m ∈ members, m.1 ∈ forms.map FieldForm.name → m.1 ∉ seen) :
    ∃ seen', shape.ofMembers (draft seen) (.ofList members) =
        (shape.complete (draft seen')).mapError .data ∧
      ∀ name ∈ forms.map FieldForm.name,
        name ∈ seen' ↔ name ∈ seen ∨ name ∈ members.map Prod.fst := by
  -- the draft knows which fields have been read, and no more; that is what the induction carries
  induction members generalizing seen with
  | nil => exact ⟨seen, by rw [Members.ofList, RecordShape.ofMembers], by simp⟩
  | cons m members ih =>
    obtain ⟨key, value⟩ := m
    rw [List.pairwise_cons] at honce
    obtain ⟨next, hread, hnext⟩ := readMember_of_isObjectOf hslots
      (hskip _ List.mem_cons_self) (hright _ List.mem_cons_self) (hseen _ List.mem_cons_self)
    -- what has just been read does not come again
    have hlater : ∀ n ∈ members, n.1 ∈ forms.map FieldForm.name → n.1 ∉ next := by
      intro n hn hknown hmem
      rcases (hnext n.1 hknown).1 hmem with heq | hmem
      · exact honce.1 n hn heq.symm (heq ▸ hknown)
      · exact hseen n (List.mem_cons_of_mem _ hn) hknown hmem
    obtain ⟨seen', hrest, hseen'⟩ := ih (fun n hn => hskip n (List.mem_cons_of_mem _ hn))
      (fun n hn => hright n (List.mem_cons_of_mem _ hn)) honce.2 hlater
    refine ⟨seen', ?_, fun name hname => ?_⟩
    · rw [Members.ofList, RecordShape.ofMembers, hread]
      exact hrest
    · rw [hseen' name hname, hnext name hname, List.map_cons, List.mem_cons]
      tauto

/-- **Elements are read into their fields** in order. -/
theorem RecordShape.ofElements_ofList {slots : List (Slot δ)}
    (hslots : List.Forall₂ (FieldForm.Fits draft) forms slots)
    (hright : List.Forall₂ (fun form value => form.right value) forms values)
    (hskip : ∀ value ∈ values, value.skip = .ok ()) {seen : Finset String} :
    ∃ seen', shape.ofElements (draft seen) slots (.ofList values) =
        (shape.complete (draft seen')).mapError .data ∧
      ∀ name, name ∈ forms.map FieldForm.name ∨ name ∈ seen → name ∈ seen' := by
  induction hright generalizing slots seen with
  | nil =>
    cases hslots
    exact ⟨seen, by rw [Elements.ofList, RecordShape.ofElements, RecordShape.atEnd], by simp⟩
  | cons hvalue hvalues ih =>
    rename_i form value forms values
    -- slot, form and value go together
    cases hslots with
    | cons hfits hslots =>
      obtain ⟨seen', hrest, hseen'⟩ := @ih _ hslots
        (fun v hv => hskip v (List.mem_cons_of_mem _ hv)) (insert form.name seen)
      refine ⟨seen', ?_, fun name hname => hseen' name ?_⟩
      · rw [Elements.ofList, RecordShape.ofElements,
          hfits.fill value hvalue (hskip value List.mem_cons_self) seen]
        exact hrest
      · rw [List.map_cons, List.mem_cons] at hname
        rw [Finset.mem_insert]
        tauto

/-- **All ways to write a record are read as one**, if a draft with all fields that are not meant by
    default makes up the record. -/
theorem RecordShape.decoder_of_isRecordOf {reading : Reading} {record : α}
    (hslots : List.Forall₂ (FieldForm.Fits draft) forms shape.slots)
    (hcomplete : ∀ seen : Finset String, (∀ form ∈ forms, form.name ∈ seen ∨ form.isDefault) →
      shape.complete (draft seen) = .ok record)
    (h : IsRecordOf forms reading) (hskip : reading.skip = .ok ()) :
    shape.decoder (draft ∅) reading = .ok record := by
  -- as an object a field may be left out, as an array none is
  cases h with
  | object hobject =>
    obtain ⟨seen, hread, hseen⟩ := ofMembers_ofList hslots (Members.skip_of_mem hskip)
      hobject.right hobject.once fun m _ _ => Finset.notMem_empty m.1
    rw [RecordShape.decoder, hread, hcomplete]
    · rfl
    · intro form hform
      rcases hobject.given form hform with hgiven | hdefault
      · exact .inl ((hseen _ (List.mem_map_of_mem hform)).2 (.inr hgiven))
      · exact .inr hdefault
  | array hvalues =>
    obtain ⟨seen, hread, hseen⟩ := @ofElements_ofList _ _ _ _ shape draft _ hslots hvalues
      (Elements.skip_of_mem hskip) ∅
    rw [RecordShape.decoder, hread, hcomplete]
    · rfl
    · exact fun form hform => .inl (hseen _ (.inl (List.mem_map_of_mem hform)))

end QueryPaths.Json
