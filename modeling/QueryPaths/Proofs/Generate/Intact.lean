import QueryPaths.Proofs.Config.Settings
import QueryPaths.Proofs.Emit.Directory
import QueryPaths.Proofs.Emit.Index
import QueryPaths.Proofs.Emit.Paths
import QueryPaths.Proofs.Generate.Success
import QueryPaths.Proofs.Source.Ident

/-! # Artifacts that stay intact

    Every artifact of a successful run has been stored in a file of its own
    record, but the next artifact, or the index at the end, may be stored at the
    same place. The artifacts are intact exactly if no two files meet.

    * **`Records`**, **`HoldsSource`**: what is recorded for a class, and what its
      file should hold.
    * **`Progress`**: what holds after some of the classes; kept by every write.
    * **`Intact`**: at the end of a run nothing has been overwritten.
    * **`ClassPool.intact_iff_separate`**: that is so exactly if all files lie at
      different places; for names without slashes, if no artifact of the root
      package is called like the index file.
-/

namespace QueryPaths

open Disk OutputDirectory

/-- **What is recorded for a class.** -/
structure Records (out : OutputDirectory) (config : GenerateConfig) (c : ModelClass)
    (w : Written) : Prop where
  /-- The package is that of the class. -/
  package : w.package = c.package
  /-- The type name is that of the class's artifact. -/
  typeName : w.typeName = config.typeName c
  /-- The file lies in the directory of the package. -/
  path : ∃ segments, packageSegments c.package = .ok segments ∧
    w.path = out.artifactPath segments (config.typeName c)

/-- **The recorded file holds what was rendered** for the class. -/
def HoldsSource (out : OutputDirectory) (pool : ClassPool) (config : GenerateConfig) (d : Disk)
    (c : ModelClass) (w : Written) : Prop :=
  ∃ text, out.renderer.renderText (config.target c) (pool.tree c) = .ok text ∧
    d.readText w.path = .ok text

/-- Two recorded files lie at different places. -/
def Apart (d : Disk) (v w : Written) : Prop := d.destination v.path ≠ d.destination w.path

/-! ## While classes are emitted -/

/-- **What holds after the classes in `done`**, if the run began on the disk `start`. -/
structure Progress (out : OutputDirectory) (pool : ClassPool) (config : GenerateConfig)
    (start : Disk) (done : List ModelClass) (o : Output) : Prop where
  /-- The working directory is the same. -/
  cwd : o.disk.cwd = start.cwd
  /-- Each class is recorded, and its file is intact if no two files have met. -/
  emitted : ∀ c ∈ done, ∃ w ∈ o.written, Records out config c w ∧
    (o.written.Pairwise (Apart start) → HoldsSource out pool config o.disk c w)
  /-- Nothing else is recorded. -/
  recorded : ∀ w ∈ o.written, ∃ c ∈ done, Records out config c w
  /-- Every recorded file is there. -/
  readable : ∀ w ∈ o.written, ∃ text, o.disk.readText w.path = .ok text
  /-- No target is recorded twice. -/
  targets : o.written.Pairwise fun v w => ¬SameTarget v w

variable {out : OutputDirectory} {pool : ClassPool} {config : GenerateConfig} {start : Disk}
  {done : List ModelClass} {o o' : Output}

/-- Storing at another place leaves a file intact. -/
theorem HoldsSource.store_of_ne {d d' : Disk} {c : ModelClass} {w : Written}
    {directory path text : String} (h : HoldsSource out pool config d c w)
    (hstore : store d directory path text = (.ok (), d'))
    (hne : d.destination w.path ≠ d.destination path) : HoldsSource out pool config d' c w := by
  obtain ⟨source, hrender, hread⟩ := h
  exact ⟨source, hrender, readText_store_of_ne hstore hread hne⟩

/-- **One more class**: a write that succeeds keeps what holds. -/
theorem Progress.write {c : ModelClass} (h : Progress out pool config start done o)
    (hok : (out.write o (config.target c) (pool.tree c)).result = .ok ()) :
    Progress out pool config start (done ++ [c])
      (out.write o (config.target c) (pool.tree c)).state := by
  obtain ⟨segments, text, disk, hseg, htext, hstore, hstate, hnew⟩ := write_result_eq_ok hok
  rw [hstate]
  have hrecords : Records out config c ⟨c.package, config.typeName c,
      out.artifactPath segments (config.typeName c)⟩ := ⟨rfl, rfl, segments, hseg, rfl⟩
  refine ⟨(keeps_store hstore).cwd.trans h.cwd, ?_, ?_, ?_, ?_⟩
  · intro c' hc'
    -- an earlier class keeps its file if the new one lies elsewhere
    rcases List.mem_append.1 hc' with hold | hnew'
    · obtain ⟨w, hw, hrec, hholds⟩ := h.emitted c' hold
      refine ⟨w, List.mem_append_left _ hw, hrec, ?_⟩
      intro hapart
      obtain ⟨hbefore, -, hlast⟩ := List.pairwise_append.1 hapart
      apply (hholds hbefore).store_of_ne hstore
      have hne := hlast w hw _ (List.mem_singleton_self _)
      rwa [Apart, ← destination_congr h.cwd, ← destination_congr h.cwd] at hne
    · obtain rfl := List.mem_singleton.1 hnew'
      refine ⟨_, List.mem_append_right _ (List.mem_singleton_self _), hrecords, fun _ => ?_⟩
      exact ⟨text, htext, readText_store hstore⟩
  · intro w hw
    rcases List.mem_append.1 hw with hold | hnew'
    · obtain ⟨c', hc', hrec⟩ := h.recorded w hold
      exact ⟨c', List.mem_append_left _ hc', hrec⟩
    · obtain rfl := List.mem_singleton.1 hnew'
      exact ⟨c, List.mem_append_right _ (List.mem_singleton_self _), hrecords⟩
  · intro w hw
    rcases List.mem_append.1 hw with hold | hnew'
    · obtain ⟨old, hread⟩ := h.readable w hold
      exact exists_readText_store hstore hread
    · obtain rfl := List.mem_singleton.1 hnew'
      exact ⟨text, readText_store hstore⟩
  · refine List.pairwise_append.2 ⟨h.targets, List.pairwise_singleton _ _, ?_⟩
    intro v hv w hw
    obtain rfl := List.mem_singleton.1 hw
    exact hnew v hv

/-- **All classes**: what holds after a run of writes that succeed. -/
theorem Progress.emitsAll {classes : List ModelClass} (h : Progress out pool config start done o)
    (hall : EmitsAll pool config out.emitter o classes o') :
    Progress out pool config start (done ++ classes) o' := by
  induction classes generalizing done o with
  | nil =>
    cases hall
    simpa using h
  | cons c rest ih =>
    cases hall with
    | cons emits after =>
      have hstep := ih (h.write emits) after
      simpa using hstep

theorem Progress.init (out : OutputDirectory) (pool : ClassPool) (config : GenerateConfig)
    (start : Disk) : Progress out pool config start [] { disk := start } :=
  ⟨rfl, by simp, by simp, by simp, List.Pairwise.nil⟩

/-! ## At the end of a run -/

/-- **Nothing has been overwritten**: every emitted artifact's file holds what was
    rendered, the index file holds the index, and no two of them share a file. -/
structure Intact (out : OutputDirectory) (pool : ClassPool) (config : GenerateConfig)
    (report : Report) (o : Output) : Prop where
  /-- The file recorded for an emitted artifact holds its source. -/
  artifact : ∀ package typeName, (package, typeName) ∈ report.emitted →
    ∃ c ∈ pool.project, c.package = package ∧ config.typeName c = typeName ∧
      ∃ w ∈ o.written, Records out config c w ∧ HoldsSource out pool config o.disk c w
  /-- The index file holds the index. -/
  index : ∃ text, indexText o.written = .ok text ∧ o.disk.readText out.indexPath = .ok text
  /-- No two artifacts share a file. -/
  apart : o.written.Pairwise (Apart o.disk)
  /-- No artifact's file is the index file. -/
  index_apart : ∀ w ∈ o.written, o.disk.destination w.path ≠ o.disk.destination out.indexPath

/-- **All files lie at different places**, that of the index too. -/
structure Separate (d : Disk) (out : OutputDirectory) (written : List Written) : Prop where
  /-- Those of the artifacts among each other. -/
  apart : written.Pairwise (Apart d)
  /-- Those of the artifacts and that of the index. -/
  index : ∀ w ∈ written, d.destination w.path ≠ d.destination out.indexPath

/-- **Is the artifact called like the index file?** Both then lie directly in the
    output directory. -/
def ClashesWithIndex (config : Config) (c : ModelClass) : Prop :=
  c.package = "" ∧ config.generate.typeName c ++ ".rs" = config.emit.indexFile

/-- Usable settings have an index file that is a file name, and a suffix without a
    slash. -/
theorem isIndexFileName_of_validate {config : Config} (h : config.validate = .ok ()) :
    isIndexFileName config.emit.indexFile = true ∧
      '/' ∉ config.generate.suffix.toList := by
  obtain ⟨⟨-, hfragment⟩, -, hindex⟩ := Config.validate_eq_ok_iff.1 h
  refine ⟨hindex, fun hslash => ?_⟩
  have hchar := List.all_eq_true.1 hfragment '/' hslash
  exact absurd hchar (by decide)

/-- **Files that all lie at different places keep what was written to them**, the
    index last. -/
theorem Progress.intact {report : Report} {final : Disk} {index : String}
    (h : Progress out pool config start pool.project o)
    (hemitted : report.emitted = pool.project.map fun c => (c.package, config.typeName c))
    (hindex : indexText o.written = .ok index)
    (hstore : store o.disk out.directory out.indexPath index = (.ok (), final))
    (hsep : Separate final out o.written) :
    Intact out pool config report ⟨final, o.written⟩ := by
  have hcwd : final.cwd = o.disk.cwd := (keeps_store hstore).cwd
  refine ⟨?_, ⟨index, hindex, readText_store hstore⟩, hsep.apart, hsep.index⟩
  intro package typeName hmem
  rw [hemitted] at hmem
  obtain ⟨c, hc, heq⟩ := List.mem_map.1 hmem
  obtain ⟨hpackage, htype⟩ := Prod.mk.inj heq
  obtain ⟨w, hw, hrec, hholds⟩ := h.emitted c hc
  refine ⟨c, hc, hpackage, htype, w, hw, hrec, ?_⟩
  -- no other artifact has met the file, and neither does the index
  have hapart : o.written.Pairwise (Apart start) := by
    refine hsep.apart.imp ?_
    intro v w hne
    rwa [Apart, destination_congr (hcwd.trans h.cwd), destination_congr (hcwd.trans h.cwd)] at hne
  apply (hholds hapart).store_of_ne hstore
  have hne := hsep.index w hw
  rwa [destination_congr hcwd, destination_congr hcwd] at hne

theorem segments_eq_nil_iff {package : String} {segments : List String}
    (h : packageSegments package = .ok segments) : segments = [] ↔ package = "" := by
  constructor
  · rintro rfl
    exact packageSegments_inj h rfl
  · rintro rfl
    exact (Except.ok.inj h).symm

theorem Records.destination {c : ModelClass} {w : Written} (h : Records out config c w)
    (hpackage : '/' ∉ c.package.toList) (htype : '/' ∉ (config.typeName c).toList) (d : Disk) :
    ∃ segments, packageSegments w.package = .ok segments ∧
      d.destination w.path = d.destination out.directory ++ segments ++ [w.typeName ++ ".rs"] := by
  obtain ⟨segments, hseg, hpath⟩ := h.path
  refine ⟨segments, by rw [h.package, hseg], ?_⟩
  rw [hpath, h.typeName]
  exact destination_artifactPath hseg hpackage htype out d

/-- An artifact's file is that of the index exactly if the artifact is called like it. -/
theorem Records.meets_index_iff {settings : Config} {c : ModelClass} {w : Written}
    (h : Records out settings.generate c w) (hfile : out.indexFile = settings.emit.indexFile)
    (hindex : isIndexFileName settings.emit.indexFile = true) (hpackage : '/' ∉ c.package.toList)
    (htype : '/' ∉ (settings.generate.typeName c).toList) (d : Disk) :
    d.destination w.path = d.destination out.indexPath ↔ ClashesWithIndex settings c := by
  rw [← hfile] at hindex
  obtain ⟨segments, hseg, hdest⟩ := h.destination hpackage htype d
  rw [hdest, destination_indexPath hindex, List.append_assoc, List.append_cancel_left_eq]
  rw [ClashesWithIndex, ← h.package, ← h.typeName, ← hfile, ← segments_eq_nil_iff hseg]
  cases segments <;> simp

/-- **Names without slashes**: only the index can meet the file of an artifact, and
    only that of an artifact that is called like it. -/
theorem Progress.separate_iff {settings : Config}
    (h : Progress out pool settings.generate start done o)
    (hfile : out.indexFile = settings.emit.indexFile)
    (hindex : isIndexFileName settings.emit.indexFile = true)
    (hslash : ∀ c ∈ done, '/' ∉ c.package.toList ∧ '/' ∉ (settings.generate.typeName c).toList)
    (d : Disk) : Separate d out o.written ↔ ∀ c ∈ done, ¬ClashesWithIndex settings c := by
  have hmeets : ∀ c ∈ done, ∀ w, Records out settings.generate c w →
      (d.destination w.path = d.destination out.indexPath ↔ ClashesWithIndex settings c) :=
    fun c hc w hrec => hrec.meets_index_iff hfile hindex (hslash c hc).1 (hslash c hc).2 d
  -- without slashes, the place of an artifact shows its segments and its type name
  have hplace : ∀ w ∈ o.written, ∃ segments, packageSegments w.package = .ok segments ∧
      d.destination w.path = d.destination out.directory ++ segments ++ [w.typeName ++ ".rs"] := by
    intro w hw
    obtain ⟨c, hc, hrec⟩ := h.recorded w hw
    exact hrec.destination (hslash c hc).1 (hslash c hc).2 d
  constructor
  · intro hsep c hc hclash
    obtain ⟨w, hw, hrec, -⟩ := h.emitted c hc
    exact hsep.index w hw ((hmeets c hc w hrec).2 hclash)
  · intro hnone
    refine ⟨h.targets.imp_of_mem ?_, ?_⟩
    · -- two artifacts at one place have the same segments and the same type name
      intro v w hv hw hne heq
      obtain ⟨segs, hsegs, hv⟩ := hplace v hv
      obtain ⟨segs', hsegs', hw⟩ := hplace w hw
      rw [hv, hw, List.append_assoc, List.append_assoc, List.append_cancel_left_eq] at heq
      obtain ⟨rfl, hlast⟩ := List.append_inj' heq rfl
      have htype : v.typeName = w.typeName := by simpa using hlast
      exact hne ⟨packageSegments_inj hsegs hsegs', htype⟩
    · intro w hw heq
      obtain ⟨c, hc, hrec⟩ := h.recorded w hw
      exact hnone c hc ((hmeets c hc w hrec).1 heq)

/-- **No artifact is overwritten exactly if all files lie at different places**, and
    for names without slashes exactly if no artifact is called like the index file.
    The file of one that is ends up with the index in it. -/
theorem ClassPool.intact_iff_separate {config : Config} {disk : Disk} {path : String}
    {run : Run Output} {report : Report} (hvalid : config.validate = .ok ())
    (hrun : pool.runInto config disk path = .ok (out, run))
    (hok : (pool.generateInto config disk path).result = .ok report) :
    (Intact out pool config.generate report run.state ↔
      Separate run.state.disk out run.state.written) ∧
    ((∀ c ∈ pool.project, '/' ∉ c.package.toList ∧ '/' ∉ c.simple.toList) →
      (Intact out pool config.generate report run.state ↔
        ∀ c ∈ pool.project, ¬ClashesWithIndex config c) ∧
      ∀ c ∈ pool.project, ClashesWithIndex config c →
        ∃ w ∈ run.state.written, Records out config.generate c w ∧
          (∃ index, indexText run.state.written = .ok index ∧
            run.state.disk.readText w.path = .ok index) ∧
          ¬HoldsSource out pool config.generate run.state.disk c w) := by
  obtain ⟨hopen, rfl, hemitted, o, hall, hfinish, hstate⟩ :=
    ClassPool.generateInto_eq_ok hrun hok
  obtain ⟨index, final, hindex, hstore, hfinal⟩ := finish_result_eq_ok hfinish
  rw [hstate, hfinal]
  have h : Progress out pool config.generate disk pool.project o :=
    (Progress.init out pool config.generate disk).emitsAll hall
  have hiff : Intact out pool config.generate run.report ⟨final, o.written⟩ ↔
      Separate final out o.written :=
    ⟨fun hintact => ⟨hintact.apart, hintact.index_apart⟩, h.intact hemitted hindex hstore⟩
  refine ⟨hiff, ?_⟩
  intro hslash
  have hfile := (openAt_eq_ok hopen).1
  obtain ⟨hname, hsuffix⟩ := isIndexFileName_of_validate hvalid
  have hnames : ∀ c ∈ pool.project,
      '/' ∉ c.package.toList ∧ '/' ∉ (config.generate.typeName c).toList := by
    intro c hc
    refine ⟨(hslash c hc).1, ?_⟩
    simp [GenerateConfig.typeName, (hslash c hc).2, hsuffix]
  refine ⟨hiff.trans (h.separate_iff hfile hname hnames final), ?_⟩
  intro c hc hclash
  obtain ⟨w, hw, hrec, -⟩ := h.emitted c hc
  -- the file of the artifact was there before the index was stored over it
  obtain ⟨old, hold⟩ := h.readable w hw
  have hmeets := (hrec.meets_index_iff hfile hname (hnames c hc).1 (hnames c hc).2 o.disk).2 hclash
  have hread : final.readText w.path = .ok index := readText_store_of_eq hstore hold hmeets
  refine ⟨w, hw, hrec, ⟨index, hindex, hread⟩, ?_⟩
  intro h
  obtain ⟨source, hsource, hholds⟩ := h
  exact renderText_ne_indexText hsource hindex (Except.ok.inj (hholds.symm.trans hread))

/-! ## A pool of one class -/

/-- A single class in the root package. -/
def onlyDog : ClassPool := .ofList [.make "" "Dog"]

/-- The settings with another index file. -/
def withIndex (indexFile : String) : Config := { emit := { indexFile } }

theorem project_onlyDog : onlyDog.project = [.make "" "Dog"] := by
  simp [onlyDog, ClassPool.project, ModelClass.make]

theorem renderText_onlyDog : ∃ source,
    ({} : Renderer).renderText ⟨"", "DogFields", "Dog"⟩ [] = .ok source := by
  have hident : Source.Ident.parse? "DogFields" = some ⟨false, "DogFields".toList⟩ :=
    Source.parse?_word (by decide) (by decide)
  exact ({} : Renderer).exists_renderText_nil ⟨"", "DogFields", "Dog"⟩ hident

theorem indexText_onlyDog (path : String) : ∃ index,
    indexText [⟨"", "DogFields", path⟩] = .ok index := by
  simp [indexText, indexItems, PackageTree.ofWritten, packageSegments, PackageTree.insert,
    PackageTree.empty, PackageTree.items, PackageTree.inclusions, PackageTree.moduleItems]

/-- The disk with that artifact in the directory `/out`. -/
def storedDog (source : String) : Disk :=
  ⟨[(["out"], .directory), (["out", "DogFields.rs"], .file source.toUTF8)], []⟩

/-- The directory emitter for `/out`. -/
def outAt (indexFile : String) : OutputDirectory := ⟨"/out", indexFile, {}⟩

theorem runInto_onlyDog (indexFile : String) :
    onlyDog.runInto (withIndex indexFile) ⟨[], []⟩ "/out" =
      .ok (outAt indexFile, onlyDog.generate {} (outAt indexFile).emitter { disk := ⟨[], []⟩ }) :=
  rfl

theorem write_onlyDog_of_store (indexFile : String) {disk : Disk} {stored : String → Disk}
    (hstore : ∀ source, store disk "/out" "/out/DogFields.rs" source = (.ok (), stored source)) :
    ∃ source, (outAt indexFile).write { disk } ⟨"", "DogFields", "Dog"⟩ [] =
      .done ⟨stored source, [⟨"", "DogFields", "/out/DogFields.rs"⟩]⟩
        [.wroteArtifact "/out/DogFields.rs"] := by
  obtain ⟨source, hsource⟩ := renderText_onlyDog
  have hrender : (outAt indexFile).renderer.renderText ⟨"", "DogFields", "Dog"⟩ [] = .ok source :=
    hsource
  have hseg : packageSegments "" = .ok [] := rfl
  have hpath : (outAt indexFile).artifactPath [] "DogFields" = "/out/DogFields.rs" := by
    have hjoin : Path.join "/out" ("DogFields" ++ ".rs") = "/out/DogFields.rs" := by decide
    exact hjoin
  exact ⟨source, @OutputDirectory.write_eq_done _ { disk } ⟨"", "DogFields", "Dog"⟩ _ _ _ _ _
    (fun _ hw => by cases hw) hseg hrender hpath (hstore source)⟩

theorem write_onlyDog (indexFile : String) : ∃ source,
    (outAt indexFile).write { disk := ⟨[], []⟩ } ⟨"", "DogFields", "Dog"⟩ [] =
      .done ⟨storedDog source, [⟨"", "DogFields", "/out/DogFields.rs"⟩]⟩
        [.wroteArtifact "/out/DogFields.rs"] :=
  write_onlyDog_of_store indexFile fun _ => rfl

/-- The run for that pool succeeds if the index can be stored. -/
theorem generateInto_onlyDog {indexFile : String}
    (hstore : ∀ source index, (store (storedDog source) (outAt indexFile).directory
      (outAt indexFile).indexPath index).1 = .ok ()) :
    (onlyDog.generateInto (withIndex indexFile) ⟨[], []⟩ "/out").result =
      .ok { emitted := [("", "DogFields")] } := by
  obtain ⟨source, hwrite⟩ := write_onlyDog indexFile
  obtain ⟨index, hindex⟩ := indexText_onlyDog "/out/DogFields.rs"
  have hfinish : ((outAt indexFile).finish
      ⟨storedDog source, [⟨"", "DogFields", "/out/DogFields.rs"⟩]⟩).result = .ok () :=
    OutputDirectory.finish_result_of_store hindex (hstore source index)
  have htree : onlyDog.tree (.make "" "Dog") = [] := by simp [ClassPool.tree, ModelClass.make]
  have htarget : GenerateConfig.target {} (.make "" "Dog") = ⟨"", "DogFields", "Dog"⟩ := rfl
  simp only [ClassPool.generateInto, runInto_onlyDog, ClassPool.generate, project_onlyDog,
    runClasses, htree, htarget, OutputDirectory.emitter, hwrite, Emission.done, runFinish, hfinish]
  rfl

/-- With the index file of the defaults its artifact stays intact. -/
theorem onlyDog_intact : (withIndex "fieldpaths.rs").validate = .ok () ∧
    ∃ run report, onlyDog.runInto (withIndex "fieldpaths.rs") ⟨[], []⟩ "/out" =
        .ok (outAt "fieldpaths.rs", run) ∧
      (onlyDog.generateInto (withIndex "fieldpaths.rs") ⟨[], []⟩ "/out").result = .ok report ∧
      Intact (outAt "fieldpaths.rs") onlyDog {} report run.state := by
  have hvalid : (withIndex "fieldpaths.rs").validate = .ok () := by decide
  have hok := generateInto_onlyDog (fun _ _ => rfl : ∀ source index,
    (store (storedDog source) "/out" (outAt "fieldpaths.rs").indexPath index).1 = .ok ())
  have hiff := ClassPool.intact_iff_separate hvalid (runInto_onlyDog _) hok
  refine ⟨hvalid, _, _, runInto_onlyDog _, hok, ?_⟩
  apply ((hiff.2 ?_).1).2
  · rw [project_onlyDog]
    intro c hc hclash
    obtain rfl := List.mem_singleton.1 hc
    exact absurd hclash.2 (by decide)
  · rw [project_onlyDog]
    intro c hc
    obtain rfl := List.mem_singleton.1 hc
    decide

/-- **Usable settings, a successful run, and an artifact that the index has
    overwritten**, because both have the same file name. -/
theorem onlyDog_not_intact : (withIndex "DogFields.rs").validate = .ok () ∧
    ∃ run report, onlyDog.runInto (withIndex "DogFields.rs") ⟨[], []⟩ "/out" =
        .ok (outAt "DogFields.rs", run) ∧
      (onlyDog.generateInto (withIndex "DogFields.rs") ⟨[], []⟩ "/out").result = .ok report ∧
      report.emitted = [("", "DogFields")] ∧
      ¬Intact (outAt "DogFields.rs") onlyDog {} report run.state := by
  have hok := generateInto_onlyDog (fun _ _ => rfl : ∀ source index,
    (store (storedDog source) "/out" (outAt "DogFields.rs").indexPath index).1 = .ok ())
  refine ⟨by decide, _, _, runInto_onlyDog _, hok, rfl, ?_⟩
  intro hintact
  obtain ⟨c, hc, -, -, w, hw, hrec, -⟩ := hintact.artifact "" "DogFields" List.mem_cons_self
  rw [project_onlyDog] at hc
  obtain rfl := List.mem_singleton.1 hc
  have hclash : ClashesWithIndex (withIndex "DogFields.rs") (.make "" "Dog") := ⟨rfl, by decide⟩
  exact hintact.index_apart w hw
    ((hrec.meets_index_iff rfl (by decide) (by decide) (by decide) _).2 hclash)

end QueryPaths
