import QueryPaths.Emit.FileEmitter
import QueryPaths.Proofs.Disk.Interruption

/-! # Steps of the directory emitter

    What a step of the directory emitter that succeeds has checked and what it
    leaves behind.

    * **`OutputDirectory.store_steps`**, **`OutputDirectory.store_eq_ok`**: storing a file
      adds directories and then changes the content at one place.
    * **`OutputDirectory.keeps_storeUntil`**, **`OutputDirectory.changesOnly_storeUntil`**:
      nothing else is touched, also where storing fails or is broken off; `keeps_store` and
      `changesOnly_store` are the case that nothing is broken off.
    * **`OutputDirectory.write_result_eq_ok`**: an artifact that is emitted is new,
      its package and its tree are sound, and it is recorded.
    * **`OutputDirectory.write_eq_done`**: such an artifact is emitted if its file can be
      stored.
    * **`OutputDirectory.finish_result_eq_ok`**, **`OutputDirectory.finish_eq_done`**: the
      index is stored, and the record of the artifacts stays.
-/

namespace QueryPaths.OutputDirectory

open Disk

/-- An opened output directory has the index file and the rendering of its settings. -/
theorem openAt_eq_ok {config : EmitConfig} {d : Disk} {path : String} {out : OutputDirectory}
    (h : openAt config d path = .ok out) :
    out.indexFile = config.indexFile ∧ out.renderer = ⟨config.selfConst, config.docs⟩ := by
  unfold openAt at h
  split at h
  · cases h
  · obtain rfl := Except.ok.inj h
    exact ⟨rfl, rfl⟩

theorem openAt_congr {d d' : Disk} (h : d'.cwd = d.cwd) (config : EmitConfig) (path : String) :
    openAt config d' path = openAt config d path := by
  unfold openAt
  rw [h]

/-- **Storing a file** makes its directory, and then writes it. -/
theorem store_steps {disk disk' : Disk} {directory path text : String}
    (h : store disk directory path text = (.ok (), disk')) :
    ∃ ready, disk.createAll directory = (.ok (), ready) ∧
      ready.writeFile path text.toUTF8 = .ok disk' := by
  unfold store at h
  split at h
  · cases h
  · next ready hready =>
    split at h
    · cases h
    · next stored hstored =>
      obtain rfl : stored = disk' := congrArg Prod.snd h
      exact ⟨ready, hready, hstored⟩

theorem store_eq_ok {disk disk' : Disk} {directory path text : String}
    (h : store disk directory path text = (.ok (), disk')) :
    ∃ ready, Extends disk ready ∧ ready.writeFile path text.toUTF8 = .ok disk' := by
  obtain ⟨ready, hready, hwrite⟩ := store_steps h
  have hadds := extends_createAll disk directory
  rw [hready] at hadds
  exact ⟨ready, hadds, hwrite⟩

theorem exists_io_of_store_error {disk disk' : Disk} {directory path text : String} {e : EmitError}
    (h : store disk directory path text = (.error e, disk')) : ∃ p fault, e = .io p fault := by
  unfold store at h
  split at h
  · next fault partly _ =>
    exact ⟨directory, fault, (Except.error.inj (Prod.mk.inj h).1).symm⟩
  · split at h
    · next fault _ => exact ⟨path, fault, (Except.error.inj (Prod.mk.inj h).1).symm⟩
    · cases (Prod.mk.inj h).1

theorem storeUntil_none (disk : Disk) (directory path text : String) :
    storeUntil none disk directory path text = store disk directory path text := by
  unfold storeUntil store
  rcases disk.createAll directory with ⟨fault | _, ready⟩
  · rfl
  · simp only [writeUntil, Option.filter_none]
    cases ready.writeFile path text.toUTF8 <;> rfl

/-- Storing a file keeps everything in its kind, also when it fails or is broken off. -/
theorem keeps_storeUntil {interruption : Option Interruption} {disk disk' : Disk}
    {directory path text : String} {result : Except EmitError Unit}
    (h : storeUntil interruption disk directory path text = (result, disk')) :
    Keeps disk disk' := by
  have hadds := (extends_createAll disk directory).keeps
  -- directories are added first, and the write keeps these as well
  unfold storeUntil at h
  split at h
  · next partly hpartly =>
    rw [hpartly] at hadds
    rwa [← (Prod.mk.inj h).2]
  · next ready hready =>
    rw [hready] at hadds
    split at h
    · next hwrite =>
      rw [← (Prod.mk.inj h).2]
      exact hadds.trans (keeps_writeUntil hwrite)
    · next hwrite =>
      rw [← (Prod.mk.inj h).2]
      exact hadds.trans (keeps_writeUntil hwrite)

theorem keeps_store {disk disk' : Disk} {directory path text : String}
    {result : Except EmitError Unit} (h : store disk directory path text = (result, disk')) :
    Keeps disk disk' := by
  rw [← storeUntil_none] at h
  exact keeps_storeUntil h

/-- **What storing a file touches**, also when it fails or is broken off: places on the way to the
    directory, and the place of the file if it could be stored. -/
theorem changesOnly_storeUntil {interruption : Option Interruption} {disk disk' : Disk}
    {directory path text : String} {result : Except EmitError Unit}
    (h : storeUntil interruption disk directory path text = (result, disk')) :
    ChangesOnly (disk'.OnTheWay directory)
      (fun place => (store disk directory path text).1 = .ok () ∧ disk'.resolve path = .ok place)
      disk disk' := by
  have hmade : ∀ {file : Place → Prop},
      ChangesOnly ((disk.createAll directory).2.OnTheWay directory) file disk
        (disk.createAll directory).2 := changesOnly_createAll disk directory
  unfold storeUntil at h
  rcases hcreate : disk.createAll directory with ⟨fault | _, ready⟩
  · rw [hcreate] at h hmade
    rw [← (Prod.mk.inj h).2]
    exact hmade
  · rw [hcreate] at h hmade
    rcases hwrite : ready.writeUntil interruption path text.toUTF8 with ⟨written, touched⟩
    obtain rfl : touched = disk' := by
      simp only [hwrite] at h
      cases written <;> exact congrArg Prod.snd h
    -- what is on the way to the directory is so still when the file is there
    have hway : ∀ {file : Place → Prop},
        ChangesOnly (touched.OnTheWay directory) file disk ready :=
      hmade.mono (fun place => OnTheWay.mono (keeps_writeUntil hwrite)) fun _ => id
    refine hway.trans ((changesOnly_writeUntil hwrite).mono (fun _ => id) ?_)
    rintro place ⟨⟨stored, hstored⟩, hplace⟩
    refine ⟨?_, hplace⟩
    simp only [store, hcreate, hstored]

theorem changesOnly_store {disk disk' : Disk} {directory path text : String}
    {result : Except EmitError Unit} (h : store disk directory path text = (result, disk')) :
    ChangesOnly (disk'.OnTheWay directory)
      (fun place => result = .ok () ∧ disk'.resolve path = .ok place) disk disk' := by
  have hchanges := changesOnly_storeUntil ((storeUntil_none disk directory path text).trans h)
  rwa [h] at hchanges

/-- **A stored file holds its text.** -/
theorem readText_store {disk disk' : Disk} {directory path text : String}
    (h : store disk directory path text = (.ok (), disk')) : disk'.readText path = .ok text := by
  obtain ⟨ready, -, hwrite⟩ := store_eq_ok h
  exact readText_writeFile hwrite

/-- **Files at other places are as they were.** -/
theorem readText_store_of_ne {disk disk' : Disk} {directory path text other old : String}
    (h : store disk directory path text = (.ok (), disk')) (hread : disk.readText other = .ok old)
    (hne : disk.destination other ≠ disk.destination path) : disk'.readText other = .ok old := by
  obtain ⟨ready, hadds, hwrite⟩ := store_eq_ok h
  apply readText_writeFile_of_ne hwrite (hadds.readText hread)
  rw [destination_congr hadds.cwd, destination_congr hadds.cwd]
  exact hne

theorem readText_store_of_eq {disk disk' : Disk} {directory path text other old : String}
    (h : store disk directory path text = (.ok (), disk')) (hread : disk.readText other = .ok old)
    (heq : disk.destination other = disk.destination path) : disk'.readText other = .ok text := by
  obtain ⟨ready, hadds, hwrite⟩ := store_eq_ok h
  apply readText_of_resolve hwrite
  obtain ⟨_, hres, -, -⟩ := readText_eq_ok_iff.1 hread
  rw [destination_congr hadds.cwd, ← heq]
  exact resolve_mono (keeps_store h) hres

theorem exists_readText_store {disk disk' : Disk} {directory path text other old : String}
    (h : store disk directory path text = (.ok (), disk')) (hread : disk.readText other = .ok old) :
    ∃ new, disk'.readText other = .ok new := by
  by_cases heq : disk.destination other = disk.destination path
  · exact ⟨text, readText_store_of_eq h hread heq⟩
  · exact ⟨old, readText_store_of_ne h hread heq⟩

/-- Do two artifacts have the same target? -/
def SameTarget (v w : Written) : Prop := v.package = w.package ∧ v.typeName = w.typeName

theorem forall_other_target {written : List Written} {target : Target}
    (h : ¬(written.any fun w =>
      w.package == target.package && w.typeName == target.typeName) = true) :
    ∀ w ∈ written, ¬(w.package = target.package ∧ w.typeName = target.typeName) := by
  intro w hw hsame
  exact h (List.any_eq_true.2 ⟨w, hw, by simp [hsame]⟩)

/-- **An emitted artifact** is new, in a sound package, and rendered; its file is
    stored, and it is recorded last. -/
theorem write_result_eq_ok {out : OutputDirectory} {o : Output} {target : Target}
    {tree : List PathNode} (h : (out.write o target tree).result = .ok ()) :
    ∃ segments text disk, packageSegments target.package = .ok segments ∧
      out.renderer.renderText target tree = .ok text ∧
      store o.disk (out.packageDirectory segments) (out.artifactPath segments target.typeName)
        text = (.ok (), disk) ∧
      (out.write o target tree).state = ⟨disk, o.written ++
        [⟨target.package, target.typeName, out.artifactPath segments target.typeName⟩]⟩ ∧
      ∀ w ∈ o.written, ¬SameTarget w
        ⟨target.package, target.typeName, out.artifactPath segments target.typeName⟩ := by
  unfold write at h ⊢
  by_cases hdup : (o.written.any fun w =>
      w.package == target.package && w.typeName == target.typeName) = true
  · rw [if_pos hdup] at h
    cases h
  rw [if_neg hdup] at h ⊢
  have hnew := forall_other_target hdup
  -- nothing is stored before the package and the tree are found sound
  cases hseg : packageSegments target.package with
  | error e => simp [hseg, Emission.refused] at h
  | ok segments =>
    cases htext : out.renderer.renderText target tree with
    | error e => simp [hseg, htext, Emission.refused] at h
    | ok text =>
      simp only [hseg, htext] at h ⊢
      split at h
      · cases h
      · next disk hstore =>
        exact ⟨segments, text, disk, rfl, rfl, hstore, rfl, hnew⟩

/-- **A new artifact in a sound package** is emitted if it is rendered and its file can be
    stored. -/
theorem write_eq_done {out : OutputDirectory} {o : Output} {target : Target} {tree : List PathNode}
    {segments : List String} {path text : String} {disk : Disk}
    (hnew : ∀ w ∈ o.written, ¬(w.package = target.package ∧ w.typeName = target.typeName))
    (hpackage : packageSegments target.package = .ok segments)
    (hrender : out.renderer.renderText target tree = .ok text)
    (hpath : out.artifactPath segments target.typeName = path)
    (hstore : store o.disk (out.packageDirectory segments) path text = (.ok (), disk)) :
    out.write o target tree =
      .done ⟨disk, o.written ++ [⟨target.package, target.typeName, path⟩]⟩ [.wroteArtifact path] := by
  have hdup : ¬(o.written.any fun w =>
      w.package == target.package && w.typeName == target.typeName) = true := by
    intro hany
    obtain ⟨w, hw, hsame⟩ := List.any_eq_true.1 hany
    simp only [Bool.and_eq_true, beq_iff_eq] at hsame
    exact hnew w hw hsame
  simp only [write, if_neg hdup, hpackage, hrender, hpath, hstore]

/-- **The index is written** if it can be rendered and stored. -/
theorem finish_eq_done {out : OutputDirectory} {o : Output} {text : String} {disk : Disk}
    (hindex : indexText o.written = .ok text)
    (hstore : store o.disk out.directory out.indexPath text = (.ok (), disk)) :
    out.finish o = .done ⟨disk, o.written⟩ [.wroteIndex out.indexPath o.written.length] := by
  simp only [finish, hindex, hstore]

theorem finish_result_of_store {out : OutputDirectory} {o : Output} {text : String}
    (hindex : indexText o.written = .ok text)
    (hstore : (store o.disk out.directory out.indexPath text).1 = .ok ()) :
    (out.finish o).result = .ok () := by
  rw [finish_eq_done hindex (Prod.ext hstore rfl)]
  rfl

/-- **A written index** lists what was emitted, and nothing else is touched. -/
theorem finish_result_eq_ok {out : OutputDirectory} {o : Output}
    (h : (out.finish o).result = .ok ()) :
    ∃ text disk, indexText o.written = .ok text ∧
      store o.disk out.directory out.indexPath text = (.ok (), disk) ∧
      (out.finish o).state = ⟨disk, o.written⟩ := by
  unfold finish at h ⊢
  cases htext : indexText o.written with
  | error e => simp [htext, Emission.refused] at h
  | ok text =>
    simp only [htext] at h ⊢
    split at h
    · cases h
    · next disk hstore =>
      exact ⟨text, disk, rfl, hstore, rfl⟩

theorem written_finish (out : OutputDirectory) (o : Output) :
    (out.finish o).state.written = o.written := by
  unfold finish
  split
  · rfl
  · split <;> rfl

/-- **An index that was written** can be read from its file. -/
theorem readText_finish {out : OutputDirectory} {o : Output}
    (h : (out.finish o).result = .ok ()) : ∃ text, indexText o.written = .ok text ∧
      (out.finish o).state.disk.readText out.indexPath = .ok text := by
  obtain ⟨text, disk, hindex, hstore, hstate⟩ := finish_result_eq_ok h
  refine ⟨text, hindex, ?_⟩
  rw [hstate]
  exact readText_store hstore

end QueryPaths.OutputDirectory
