import QueryPaths.Config.Document
import QueryPaths.Proofs.Config.Settings
import QueryPaths.Proofs.Disk.Change
import QueryPaths.Proofs.Name.Stability
import QueryPaths.Proofs.Toml.Record
import QueryPaths.Proofs.Toml.Tables

/-! # Settings files as overlays

    A settings file gives some of the settings, and all others keep their defaults. The order in
    which tables and keys are written does not matter, and no key may stand in the file that is none
    of a setting. The settings that come out, given ones and defaults together, are checked in a
    fixed order, and the first unusable one is named.

    * **`Overlay`**: the settings that a file gives. **`Overlay.config`**: what comes out.
    * **`Overlay.LaidOut`**: the ways to write them down as tables.
    * **`Overlay.readEntry_generate`**, **`Overlay.readEntry_emit`**: what one entry does.
      **`Overlay.ofEntries_eq_ok`**: what is read from all tables.
    * **`IsSuffix`**, **`IsConstant`**, **`IsIndexFile`**: the settings that are usable.
    * **`Config.Verdict`**: which settings are accepted, and which one is named otherwise.
    * **`Toml.HasFurtherKey`**: documents with a key that is none of a setting.
    * **`settings_are_overlay`**: the settings of a text or a file.
-/

namespace QueryPaths

open Toml (Entries Scalar SettingTable documentEntries documentText)

/-! ## Overlays -/

/-- **The settings that a file gives.** -/
structure Overlay where
  /-- What artifacts are called behind the name of the class. -/
  suffix : Option String := none
  /-- Does the run stop at the first failure? -/
  failFast : Option Bool := none
  /-- The constant that holds the path of a branch. -/
  selfConst : Option String := none
  /-- The index file. -/
  indexFile : Option String := none
  /-- Are the artifacts documented? -/
  docs : Option Bool := none

namespace Overlay

/-- What is generated, with defaults for what is not given. -/
def generate (o : Overlay) : GenerateConfig where
  suffix := o.suffix.getD ({} : GenerateConfig).suffix
  failFast := o.failFast.getD ({} : GenerateConfig).failFast

/-- How it is written, with defaults for what is not given. -/
def emit (o : Overlay) : EmitConfig where
  selfConst := o.selfConst.getD ({} : EmitConfig).selfConst
  indexFile := o.indexFile.getD ({} : EmitConfig).indexFile
  docs := o.docs.getD ({} : EmitConfig).docs

/-- **The settings that come out.** -/
def config (o : Overlay) : Config := { generate := o.generate, emit := o.emit }

/-- The keys of the first table with their values. -/
def generateGiven (o : Overlay) : List (String × Scalar) :=
  (o.suffix.map fun s => ("suffix", Scalar.text s)).toList ++
    (o.failFast.map fun b => ("fail_fast", Scalar.flag b)).toList

/-- The keys of the second table with their values. -/
def emitGiven (o : Overlay) : List (String × Scalar) :=
  (o.selfConst.map fun s => ("self_const", Scalar.text s)).toList ++
    (o.indexFile.map fun s => ("index_file", Scalar.text s)).toList ++
    (o.docs.map fun b => ("docs", Scalar.flag b)).toList

/-- **The ways to write settings down**: a table for each kind, with its keys in any order, and the
    tables in any order. A table without keys may stand there or be left out. -/
structure LaidOut (o : Overlay) (tables : List SettingTable) : Prop where
  /-- No table stands there twice. -/
  nodup : (tables.map Prod.fst).Nodup
  /-- Each of them has the keys that are given for it. -/
  given : ∀ t ∈ tables, (t.1 = "generate" ∧ t.2.Perm o.generateGiven) ∨
    (t.1 = "emit" ∧ t.2.Perm o.emitGiven)
  /-- If the first table is left out, nothing is given for it. -/
  generate : "generate" ∉ tables.map Prod.fst → o.generateGiven = []
  /-- If the second table is left out, nothing is given for it. -/
  emit : "emit" ∉ tables.map Prod.fst → o.emitGiven = []

/-! ## Reading tables -/

/-- What is left of an overlay if only these keys are given. -/
def only (o : Overlay) (keys : Finset String) : Overlay where
  suffix := if "suffix" ∈ keys then o.suffix else none
  failFast := if "fail_fast" ∈ keys then o.failFast else none
  selfConst := if "self_const" ∈ keys then o.selfConst else none
  indexFile := if "index_file" ∈ keys then o.indexFile else none
  docs := if "docs" ∈ keys then o.docs else none

/-- What is given for the first table is one of its settings with its key. -/
theorem mem_generateGiven {o : Overlay} {e : String × Scalar} :
    e ∈ o.generateGiven ↔ (∃ s, o.suffix = some s ∧ ("suffix", Scalar.text s) = e) ∨
      ∃ b, o.failFast = some b ∧ ("fail_fast", Scalar.flag b) = e := by
  simp [generateGiven]

theorem mem_emitGiven {o : Overlay} {e : String × Scalar} :
    e ∈ o.emitGiven ↔ (∃ s, o.selfConst = some s ∧ ("self_const", Scalar.text s) = e) ∨
      (∃ s, o.indexFile = some s ∧ ("index_file", Scalar.text s) = e) ∨
      ∃ b, o.docs = some b ∧ ("docs", Scalar.flag b) = e := by
  simp [emitGiven]

/-- **An entry of the first table replaces the setting of its key.** -/
theorem readEntry_generate {o : Overlay} {e : String × Scalar} (he : e ∈ o.generateGiven)
    (seen : Finset String) :
    generateShape.readEntry (o.only seen).generate (e.1, e.2.value) =
      .ok (o.only (insert e.1 seen)).generate := by
  rcases mem_generateGiven.1 he with ⟨s, hs, rfl⟩ | ⟨b, hb, rfl⟩
  · simp [generateShape, Toml.RecordShape.readEntry, Scalar.value, Toml.Decoder.string, only,
      generate, hs, Except.map]
  · simp [generateShape, Toml.RecordShape.readEntry, Scalar.value, Toml.Decoder.boolean, only,
      generate, hb, Except.map]

/-- **An entry of the second table replaces the setting of its key.** -/
theorem readEntry_emit {o : Overlay} {e : String × Scalar} (he : e ∈ o.emitGiven)
    (seen : Finset String) :
    emitShape.readEntry (o.only seen).emit (e.1, e.2.value) =
      .ok (o.only (insert e.1 seen)).emit := by
  rcases mem_emitGiven.1 he with ⟨s, hs, rfl⟩ | ⟨s, hs, rfl⟩ | ⟨b, hb, rfl⟩
  · simp [emitShape, Toml.RecordShape.readEntry, Scalar.value, Toml.Decoder.string, only, emit,
      hs, Except.map]
  · simp [emitShape, Toml.RecordShape.readEntry, Scalar.value, Toml.Decoder.string, only, emit,
      hs, Except.map]
  · simp [emitShape, Toml.RecordShape.readEntry, Scalar.value, Toml.Decoder.boolean, only, emit,
      hb, Except.map]

/-- A setting is not lost if its key is there whenever it is given. -/
theorem ite_of_given {α : Type} {key : String} {keys : Finset String} {given : Option α}
    (h : ∀ a, given = some a → key ∈ keys) : (if key ∈ keys then given else none) = given := by
  by_cases hkey : key ∈ keys
  · exact if_pos hkey
  · rw [if_neg hkey]
    cases given with
    | none => rfl
    | some a => exact absurd (h a rfl) hkey

/-- Nothing is lost if all keys of the first table are there. -/
theorem only_generate {o : Overlay} {keys : Finset String}
    (h : ∀ e ∈ o.generateGiven, e.1 ∈ keys) : (o.only keys).generate = o.generate := by
  have hsuffix : (o.only keys).suffix = o.suffix :=
    ite_of_given fun s hs => h ("suffix", .text s) (mem_generateGiven.2 (.inl ⟨s, hs, rfl⟩))
  have hfast : (o.only keys).failFast = o.failFast :=
    ite_of_given fun b hb => h ("fail_fast", .flag b) (mem_generateGiven.2 (.inr ⟨b, hb, rfl⟩))
  rw [generate, generate, hsuffix, hfast]

theorem only_emit {o : Overlay} {keys : Finset String} (h : ∀ e ∈ o.emitGiven, e.1 ∈ keys) :
    (o.only keys).emit = o.emit := by
  have hself : (o.only keys).selfConst = o.selfConst :=
    ite_of_given fun s hs => h ("self_const", .text s) (mem_emitGiven.2 (.inl ⟨s, hs, rfl⟩))
  have hindex : (o.only keys).indexFile = o.indexFile :=
    ite_of_given fun s hs =>
      h ("index_file", .text s) (mem_emitGiven.2 (.inr (.inl ⟨s, hs, rfl⟩)))
  have hdocs : (o.only keys).docs = o.docs :=
    ite_of_given fun b hb => h ("docs", .flag b) (mem_emitGiven.2 (.inr (.inr ⟨b, hb, rfl⟩)))
  rw [emit, emit, hself, hindex, hdocs]

/-- **A table of given settings**, in any order. -/
theorem ofEntries_given {α : Type} {shape : Toml.RecordShape α} {record : Finset String → α}
    {t : SettingTable} {given : List (String × Scalar)} (h : t.2.Perm given)
    (hstep : ∀ e ∈ given, ∀ seen,
      shape.readEntry (record seen) (e.1, e.2.value) = .ok (record (insert e.1 seen))) :
    shape.ofEntries (record ∅) t.entries = .ok (record (given.map Prod.fst).toFinset) := by
  have hread : shape.ofEntries (record ∅) t.entries =
      .ok (record (t.entries.map Prod.fst).toFinset) := by
    apply Toml.RecordShape.ofEntries_eq_ok
    intro e he seen
    obtain ⟨d, hd, rfl⟩ := List.mem_map.1 he
    exact hstep d (h.mem_iff.1 hd) seen
  have hkeys : t.entries.map Prod.fst = t.2.map Prod.fst := by
    rw [SettingTable.entries, List.map_map]
    rfl
  rw [hread, hkeys, List.toFinset_eq_of_perm _ _ (h.map Prod.fst)]

theorem ofEntries_generate {o : Overlay} {t : SettingTable} (h : t.2.Perm o.generateGiven) :
    generateShape.ofEntries {} t.entries = .ok o.generate := by
  have hread := @ofEntries_given _ generateShape (fun keys => (o.only keys).generate) t _ h
    fun e he seen => readEntry_generate he seen
  rw [only_generate fun e he => List.mem_toFinset.2 (List.mem_map_of_mem he)] at hread
  exact hread

theorem ofEntries_emit {o : Overlay} {t : SettingTable} (h : t.2.Perm o.emitGiven) :
    emitShape.ofEntries {} t.entries = .ok o.emit := by
  have hread := @ofEntries_given _ emitShape (fun keys => (o.only keys).emit) t _ h
    fun e he seen => readEntry_emit he seen
  rw [only_emit fun e he => List.mem_toFinset.2 (List.mem_map_of_mem he)] at hread
  exact hread

/-- The settings once these tables have been read. -/
def after (o : Overlay) (seen : Finset String) : Config where
  generate := if "generate" ∈ seen then o.generate else {}
  emit := if "emit" ∈ seen then o.emit else {}

/-- **A table replaces the settings of its kind.** -/
theorem readEntry_table {o : Overlay} {t : SettingTable}
    (h : (t.1 = "generate" ∧ t.2.Perm o.generateGiven) ∨ (t.1 = "emit" ∧ t.2.Perm o.emitGiven))
    (seen : Finset String) :
    configShape.readEntry (o.after seen) (t.1, .table .header t.entries) =
      .ok (o.after (insert t.1 seen)) := by
  rcases h with ⟨hname, hgiven⟩ | ⟨hname, hgiven⟩
  · simp [configShape, Toml.RecordShape.readEntry, Toml.RecordShape.decoder, hname,
      ofEntries_generate hgiven, after, Except.map]
  · simp [configShape, Toml.RecordShape.readEntry, Toml.RecordShape.decoder, hname,
      ofEntries_emit hgiven, after, Except.map]

/-- **What is read is the defaults with the given settings in their place.** -/
theorem ofEntries_eq_ok {o : Overlay} {tables : List SettingTable} (h : o.LaidOut tables) :
    configShape.ofEntries {} (documentEntries tables) = .ok o.config := by
  -- what has been read is told by the names of the tables, in whatever order they came
  have hread := @Toml.RecordShape.ofEntries_eq_ok _ configShape (documentEntries tables) o.after (by
    intro e he seen
    obtain ⟨t, ht, rfl⟩ := List.mem_map.1 he
    exact readEntry_table (h.given t ht) seen)
  have hkeys : (documentEntries tables).map Prod.fst = tables.map Prod.fst := by
    rw [documentEntries, List.map_map]
    rfl
  have hgenerate : (o.after (tables.map Prod.fst).toFinset).generate = o.generate := by
    by_cases hmem : "generate" ∈ tables.map Prod.fst
    · exact if_pos (List.mem_toFinset.2 hmem)
    · -- without the table nothing is given, and the defaults are what is meant
      have hnone := @only_generate o ∅ (by simp [h.generate hmem])
      rw [← hnone]
      exact if_neg (mt List.mem_toFinset.1 hmem)
  have hemit : (o.after (tables.map Prod.fst).toFinset).emit = o.emit := by
    by_cases hmem : "emit" ∈ tables.map Prod.fst
    · exact if_pos (List.mem_toFinset.2 hmem)
    · have hnone := @only_emit o ∅ (by simp [h.emit hmem])
      rw [← hnone]
      exact if_neg (mt List.mem_toFinset.1 hmem)
  have hafter : o.after (tables.map Prod.fst).toFinset = o.config := by
    rw [config, ← hgenerate, ← hemit]
  rw [hkeys, hafter] at hread
  exact hread

/-! ## Writing tables -/

theorem isBareKey_of_given {o : Overlay} {e : String × Scalar}
    (he : e ∈ o.generateGiven ∨ e ∈ o.emitGiven) : Toml.IsBareKey e.1 := by
  rw [mem_generateGiven, mem_emitGiven] at he
  rcases he with (⟨s, -, rfl⟩ | ⟨b, -, rfl⟩) | ⟨s, -, rfl⟩ | ⟨s, -, rfl⟩ | ⟨b, -, rfl⟩
  all_goals
    dsimp only
    exact ⟨by decide, List.all_eq_true.1 (by decide)⟩

theorem nodup_generateGiven (o : Overlay) : (o.generateGiven.map Prod.fst).Nodup := by
  cases hs : o.suffix <;> cases hb : o.failFast <;> simp [generateGiven, hs, hb]

theorem nodup_emitGiven (o : Overlay) : (o.emitGiven.map Prod.fst).Nodup := by
  cases hs : o.selfConst <;> cases hi : o.indexFile <;> cases hb : o.docs <;>
    simp [emitGiven, hs, hi, hb]

/-- **The tables can be written line by line.** -/
theorem LaidOut.plain {o : Overlay} {tables : List SettingTable} (h : o.LaidOut tables) :
    ∀ t ∈ tables, t.Plain := by
  intro t ht
  rcases h.given t ht with ⟨hname, hgiven⟩ | ⟨hname, hgiven⟩
  · refine ⟨?_, fun e he => isBareKey_of_given (.inl (hgiven.mem_iff.1 he)), ?_⟩
    · rw [hname]
      exact ⟨by decide, List.all_eq_true.1 (by decide)⟩
    · exact (hgiven.map Prod.fst).nodup_iff.2 o.nodup_generateGiven
  · refine ⟨?_, fun e he => isBareKey_of_given (.inr (hgiven.mem_iff.1 he)), ?_⟩
    · rw [hname]
      exact ⟨by decide, List.all_eq_true.1 (by decide)⟩
    · exact (hgiven.map Prod.fst).nodup_iff.2 o.nodup_emitGiven

/-- **The document of the tables is read as their entries.** -/
theorem LaidOut.readDocument {o : Overlay} {tables : List SettingTable} (h : o.LaidOut tables) :
    Toml.readDocument (documentText tables) = some (documentEntries tables) :=
  Toml.readDocument_documentText h.plain h.nodup

end Overlay

/-! ## Usable settings -/

/-- **What a suffix must be**: letters, digits and underscores of ASCII, at least one. -/
def IsSuffix (s : String) : Prop :=
  s ≠ "" ∧ ∀ c ∈ s.toList, c.isAlphanum = true ∨ c = '_'

/-- **What the self constant must be**: the same without a digit in front, and no lone
    underscore. -/
def IsConstant (s : String) : Prop :=
  IsSuffix s ∧ (∀ c ∈ s.toList.head?, c.isDigit = false) ∧ s ≠ "_"

/-- **What the index file must be called.** -/
def IsIndexFile (s : String) : Prop :=
  ['.', 'r', 's'] <:+ s.toList ∧ '/' ∉ s.toList ∧ '\\' ∉ s.toList

theorem isIdentFragment_iff {s : String} :
    isIdentFragment s = true ↔ ∀ c ∈ s.toList, c.isAlphanum = true ∨ c = '_' := by
  simp [isIdentFragment]

theorem isSuffix_iff {s : String} : IsSuffix s ↔ s ≠ "" ∧ isIdentFragment s = true := by
  rw [IsSuffix, isIdentFragment_iff]

theorem isIdentFront_iff {c : Char} (h : c.isAlphanum = true ∨ c = '_') :
    (c.isAlpha || c == '_') = true ↔ c.isDigit = false := by
  rw [Char.isAlphanum, Bool.or_eq_true, or_assoc] at h
  rcases h with halpha | hdigit | rfl
  · simp [halpha, Name.isDigit_of_isAlpha halpha]
  · have halpha : c.isAlpha = false := by
      rw [← Bool.not_eq_true]
      intro halpha
      rw [Name.isDigit_of_isAlpha halpha] at hdigit
      cases hdigit
    have hne : c ≠ '_' := by
      rintro rfl
      cases hdigit
    simp [halpha, hdigit, hne]
  · decide

theorem isConstant_iff {s : String} : IsConstant s ↔ isPlainIdent s = true := by
  rw [isPlainIdent_iff, IsConstant, IsSuffix, isIdentFragment_iff]
  constructor
  · -- a first character that is no digit may stand in front of an identifier
    rintro ⟨⟨hne, hall⟩, hhead, hlone⟩
    refine ⟨?_, hlone, hall⟩
    cases hs : s.toList with
    | nil => exact absurd (String.toList_eq_nil_iff.1 hs) hne
    | cons c tail =>
      have hc : c ∈ s.toList.head? := by simp [hs]
      exact ⟨c, rfl, (isIdentFront_iff (hall c (List.mem_of_mem_head? hc))).2 (hhead c hc)⟩
  · rintro ⟨⟨c, hc, hfront⟩, hlone, hall⟩
    refine ⟨⟨?_, hall⟩, fun d hd => ?_, hlone⟩
    · rintro rfl
      cases hc
    · obtain rfl : c = d := Option.mem_unique hc hd
      exact (isIdentFront_iff (hall c (List.mem_of_mem_head? hc))).1 hfront

theorem isIndexFile_iff {s : String} : IsIndexFile s ↔ isIndexFileName s = true := by
  rw [IsIndexFile, isIndexFileName, Bool.and_eq_true, List.isSuffixOf_iff_suffix]
  simp only [Bool.not_eq_true', List.any_eq_false, Bool.or_eq_true, beq_iff_eq, not_or]
  constructor
  · rintro ⟨hsuffix, hslash, hback⟩
    refine ⟨hsuffix, fun c hc => ⟨?_, ?_⟩⟩
    · rintro rfl
      exact hslash hc
    · rintro rfl
      exact hback hc
  · rintro ⟨hsuffix, hnone⟩
    exact ⟨hsuffix, fun h => (hnone _ h).1 rfl, fun h => (hnone _ h).2 rfl⟩

instance (s : String) : Decidable (IsSuffix s) := decidable_of_iff _ isSuffix_iff.symm

instance (s : String) : Decidable (IsConstant s) := decidable_of_iff _ isConstant_iff.symm

instance (s : String) : Decidable (IsIndexFile s) := decidable_of_iff _ isIndexFile_iff.symm

/-- **What becomes of settings**: they load if all three checks pass, and otherwise the first one
    that fails is named. -/
inductive Config.Verdict (config : Config) : Except ConfigError Config → Prop where
  | usable (hsuffix : IsSuffix config.generate.suffix) (hself : IsConstant config.emit.selfConst)
      (hindex : IsIndexFile config.emit.indexFile) : Verdict config (.ok config)
  | suffix (h : ¬ IsSuffix config.generate.suffix) :
      Verdict config (.error (.invalid (.suffix config.generate.suffix)))
  | selfConst (hsuffix : IsSuffix config.generate.suffix)
      (h : ¬ IsConstant config.emit.selfConst) :
      Verdict config (.error (.invalid (.selfConst config.emit.selfConst)))
  | indexFile (hsuffix : IsSuffix config.generate.suffix)
      (hself : IsConstant config.emit.selfConst) (h : ¬ IsIndexFile config.emit.indexFile) :
      Verdict config (.error (.invalid (.indexFile config.emit.indexFile)))

/-- **Settings that were read meet their verdict.** -/
theorem Config.verdict_read {text : String} {config : Config} (h : Config.parse text = .ok config) :
    config.Verdict (Config.read text) := by
  have hread : Config.read text =
      (config.validate.mapError ConfigError.invalid >>= fun _ => .ok config) := by
    rw [Config.read, h]
    rfl
  -- the checks are made in the order of the constructors
  rw [hread, Config.validate]
  split
  · next hbad =>
    refine .suffix fun hgood => ?_
    rcases hbad with hempty | hchars
    · exact hgood.1 hempty
    · rw [(isSuffix_iff.1 hgood).2] at hchars
      cases hchars
  · next hgood =>
    rw [not_or, Bool.not_eq_false] at hgood
    have hsuffix : IsSuffix config.generate.suffix := isSuffix_iff.2 hgood
    split
    · next hbad => exact .selfConst hsuffix (by simp [isConstant_iff, hbad])
    · next hself =>
      have hself : IsConstant config.emit.selfConst := isConstant_iff.2 (by simpa using hself)
      split
      · next hbad => exact .indexFile hsuffix hself (by simp [isIndexFile_iff, hbad])
      · next hindex => exact .usable hsuffix hself (isIndexFile_iff.2 (by simpa using hindex))

/-! ## Further keys -/

/-- **Does a document have a key that is none of a setting?** -/
inductive Toml.HasFurtherKey (entries : Entries) : Prop where
  /-- Beside the two tables. -/
  | top {key : String} {value : Toml.Value} (hkey : key ∉ ["generate", "emit"])
      (hmem : (key, value) ∈ entries)
  /-- In the first table. -/
  | generate {origin : Toml.Origin} {inner : Entries} {key : String} {value : Toml.Value}
      (hkey : key ∉ ["suffix", "fail_fast"])
      (htable : ("generate", .table origin inner) ∈ entries) (hmem : (key, value) ∈ inner)
  /-- In the second table. -/
  | emit {origin : Toml.Origin} {inner : Entries} {key : String} {value : Toml.Value}
      (hkey : key ∉ ["self_const", "index_file", "docs"])
      (htable : ("emit", .table origin inner) ∈ entries) (hmem : (key, value) ∈ inner)

/-- **A record knows all keys of a table** that it was read from. -/
theorem Toml.RecordShape.mem_fieldNames {α : Type} {shape : Toml.RecordShape α} {start record : α}
    {entries : Entries} (h : shape.ofEntries start entries = .ok record) {key : String}
    {value : Toml.Value} (hmem : (key, value) ∈ entries) : key ∈ shape.fieldNames := by
  obtain ⟨before, after, hentry⟩ := readEntry_of_ofEntries h _ hmem
  exact mem_fieldNames_of_readEntry hentry

/-- A table under the key of a record is read as that record. -/
theorem ofEntries_of_decoder {α β : Type} {shape : Toml.RecordShape α} {defaults : α} {f : α → β}
    {origin : Toml.Origin} {inner : Entries} {b : β}
    (h : (shape.decoder defaults (.table origin inner)).map f = .ok b) :
    ∃ record, shape.ofEntries defaults inner = .ok record := by
  rw [Toml.RecordShape.decoder] at h
  cases hinner : shape.ofEntries defaults inner with
  | error e =>
    rw [hinner] at h
    cases h
  | ok record => exact ⟨record, rfl⟩

/-- **A document with a key that belongs to no setting is not accepted.** -/
theorem Config.parse_ne_ok {text : String} {entries : Entries} {config : Config}
    (hdoc : Toml.readDocument text = some entries) (h : Toml.HasFurtherKey entries) :
    Config.parse text ≠ .ok config := by
  intro hparse
  have hentries : configShape.ofEntries {} entries = .ok config := by
    rw [Config.parse, hdoc] at hparse
    exact mapError_eq_ok.1 hparse
  -- a table under one of the two keys is read as a record in turn, and so are its keys
  cases h with
  | top hkey hmem => exact hkey (Toml.RecordShape.mem_fieldNames hentries hmem)
  | generate hkey htable hmem =>
    obtain ⟨before, after, hentry⟩ := Toml.RecordShape.readEntry_of_ofEntries hentries _ htable
    obtain ⟨record, hinner⟩ := @ofEntries_of_decoder _ _ generateShape _ _ _ _ _ hentry
    exact hkey (Toml.RecordShape.mem_fieldNames hinner hmem)
  | emit hkey htable hmem =>
    obtain ⟨before, after, hentry⟩ := Toml.RecordShape.readEntry_of_ofEntries hentries _ htable
    obtain ⟨record, hinner⟩ := @ofEntries_of_decoder _ _ emitShape _ _ _ _ _ hentry
    exact hkey (Toml.RecordShape.mem_fieldNames hinner hmem)

/-! ## Files -/

/-- **A file is read as its text is**, whether or not it could have been missing. -/
theorem Config.load_of_readText {disk : Disk} {path text : String}
    (h : disk.readText path = .ok text) :
    Config.load disk path = Config.read text ∧
      Config.loadOrDefault disk path = Config.read text := by
  have hload : Config.load disk path = Config.read text := by
    rw [Config.load, h]
    rfl
  exact ⟨hload, by rw [Config.loadOrDefault, if_pos (Disk.pathExists_of_readText h), hload]⟩

/-- **A settings file is an overlay on the defaults.**

    * Tables with some of the settings, in any order and with their keys in any order, have a text,
      and from each of their texts come the defaults with these settings in place of their own, if
      they are usable together; if not, the first unusable one is named.
    * A document with a further key is not accepted.
    * A file loads as its text does. -/
theorem settings_are_overlay :
    (∀ (o : Overlay) (tables : List SettingTable), o.LaidOut tables →
      Toml.readDocument (documentText tables) = some (documentEntries tables) ∧
        ∀ text, Toml.readDocument text = some (documentEntries tables) →
          o.config.Verdict (Config.read text)) ∧
      (∀ (text : String) (entries : Entries), Toml.readDocument text = some entries →
        Toml.HasFurtherKey entries → ∀ config, Config.read text ≠ .ok config) ∧
      ∀ (disk : Disk) (path text : String), disk.readText path = .ok text →
        Config.load disk path = Config.read text ∧
          Config.loadOrDefault disk path = Config.read text := by
  refine ⟨fun o tables hlaid => ⟨hlaid.readDocument, fun text hdoc => ?_⟩,
    fun text entries hdoc hkey config hread => ?_, fun _ _ _ h => Config.load_of_readText h⟩
  · apply Config.verdict_read
    rw [Config.parse, hdoc]
    show Config.ofEntries (documentEntries tables) = .ok o.config
    rw [Config.ofEntries, Overlay.ofEntries_eq_ok hlaid]
    rfl
  · rw [Config.read, bind_eq_ok] at hread
    obtain ⟨parsed, hparse, -⟩ := hread
    exact Config.parse_ne_ok hdoc hkey (mapError_eq_ok.1 hparse)

/-- The second kind of settings in front of the first: both tables count, and of two unusable
    settings the suffix is named although it stands last. The same key in the other table is not
    accepted. -/
theorem emit_table_in_front :
    Config.read (documentText
        [("emit", [("docs", .flag false)]), ("generate", [("suffix", .text "Paths")])]) =
      .ok { generate := { suffix := "Paths" }, emit := { docs := false } } ∧
    Config.read (documentText
        [("emit", [("self_const", .text "_")]), ("generate", [("suffix", .text "a-b")])]) =
      .error (.invalid (.suffix "a-b")) ∧
    ∀ config, Config.read (documentText [("emit", [("suffix", .text "Paths")])]) ≠ .ok config := by
  obtain ⟨hoverlay, hfurther, -⟩ := settings_are_overlay
  refine ⟨?_, ?_, ?_⟩
  · obtain ⟨hdoc, hverdict⟩ := hoverlay { suffix := some "Paths", docs := some false }
      [("emit", [("docs", .flag false)]), ("generate", [("suffix", .text "Paths")])]
      ⟨by decide, by simp [Overlay.generateGiven, Overlay.emitGiven], by simp, by simp⟩
    have hread := hverdict _ hdoc
    -- only the verdict for these settings is left
    generalize Config.read _ = answer at hread ⊢
    cases hread with
    | usable => rfl
    | suffix h => exact absurd (by decide) h
    | selfConst _ h => exact absurd (by decide) h
    | indexFile _ _ h => exact absurd (by decide) h
  · obtain ⟨hdoc, hverdict⟩ := hoverlay { suffix := some "a-b", selfConst := some "_" }
      [("emit", [("self_const", .text "_")]), ("generate", [("suffix", .text "a-b")])]
      ⟨by decide, by simp [Overlay.generateGiven, Overlay.emitGiven], by simp, by simp⟩
    have hread := hverdict _ hdoc
    generalize Config.read _ = answer at hread ⊢
    cases hread with
    | usable h => exact absurd h (by decide)
    | suffix => rfl
    | selfConst h => exact absurd h (by decide)
    | indexFile h => exact absurd h (by decide)
  · intro config
    have hplain : ∀ t ∈ [("emit", [("suffix", Scalar.text "Paths")])], SettingTable.Plain t := by
      intro t ht
      obtain rfl := List.mem_singleton.1 ht
      exact ⟨⟨by decide, List.all_eq_true.1 (by decide)⟩,
        fun e he => by
          obtain rfl := List.mem_singleton.1 he
          exact ⟨by decide, List.all_eq_true.1 (by decide)⟩, by decide⟩
    exact hfurther _ _ (Toml.readDocument_documentText hplain (by decide))
      (.emit (by decide) List.mem_cons_self List.mem_cons_self) config

end QueryPaths
