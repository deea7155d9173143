import QueryPaths.Proofs.Emit.FileEmitter

/-! # What a script leaves alone

    A script touches the files that it stores and the directories that they need, whatever its
    steps come to and however far those that fail have got. A write that is broken off touches the
    file that it has opened. Everything else is as it was.

    * **`FileEmitter.StoresFile`**: the files that a script stores.
    * **`OutputDirectory.BreaksFile`**: the files that it opens and does not complete.
    * **`FileEmitter.NeedsDirectory`**: the directories that it needs.
    * **`OutputDirectory.Footprint`**: nothing but these is touched. A step has such a footprint
      by `footprint_step`, and a script by `footprint_play`.
    * **`OutputDirectory.play_touches_nothing_else`**: what that says of each place.
-/

namespace QueryPaths

open Disk Source

/-! ## On the way down -/

theorem Disk.isPrefix_foldl_advance {path : List String} (h : ".." ∉ path) (here : Place) :
    here <+: path.foldl advance here := by
  induction path generalizing here with
  | nil => exact List.prefix_rfl
  | cons step rest ih =>
    obtain ⟨hstep, hrest⟩ := not_or.1 (mt List.mem_cons.2 h)
    have hone : here <+: advance here step := by
      unfold advance
      by_cases hdot : step = "."
      · exact ⟨[], by rw [if_pos hdot, List.append_nil]⟩
      · exact ⟨[step], by rw [if_neg hdot, if_neg (Ne.symm hstep)]⟩
    exact hone.trans (ih hrest _)

/-- What is on the way to a directory is a directory above it, if the path never leads up. -/
theorem Disk.OnTheWay.isPrefix {d : Disk} {path : String} {place : Place}
    (hway : d.OnTheWay path place) (habs : Path.isAbsolute path = true) (h : ".." ∉ steps path) :
    place <+: d.destination path := by
  obtain ⟨front, ⟨behind, hsteps⟩, rfl⟩ := hway.passes habs
  rw [destination_of_isAbsolute habs, ← hsteps, List.foldl_append]
  apply isPrefix_foldl_advance
  intro hup
  apply h
  rw [← hsteps]
  exact List.mem_append_right _ hup

/-! ## Files and directories -/

namespace FileEmitter

variable {π σ : Type} [FilePath π] {e : FileEmitter π σ} {s : Filing π σ} {a : Step}
  {script : List Step} {directory path : π} {text : String}

/-- **The files that a script stores**: those of the artifacts that are emitted, and the index
    each time that it is written. -/
inductive StoresFile (e : FileEmitter π σ) : Filing π σ → List Step → π → Prop where
  /-- The first step emits an artifact. -/
  | artifact {s : Filing π σ} {target : Target} {tree : List PathNode} {rest : List Step}
      {segments : List String} (package : packageSegments target.package = .ok segments)
      (succeeds : (e.write s target tree).result = .ok ()) :
      StoresFile e s (.write target tree :: rest) (e.artifactPath segments target.typeName)
  /-- The first step writes the index. -/
  | index {s : Filing π σ} {rest : List Step} (succeeds : (e.finish s).result = .ok ()) :
      StoresFile e s (.finish :: rest) e.indexPath
  /-- A later step stores the file. -/
  | later {s : Filing π σ} {a : Step} {rest : List Step} {path : π}
      (stores : StoresFile e (e.emitter.step s a).state rest path) : StoresFile e s (a :: rest) path

/-- **The directories that a script needs**: the output directory, and those of the packages that
    it is asked for, whether or not anything is emitted there. -/
inductive NeedsDirectory (e : FileEmitter π σ) (script : List Step) : π → Prop where
  /-- The output directory. -/
  | output : NeedsDirectory e script e.directory
  /-- The directory of a package. -/
  | package {target : Target} {tree : List PathNode} {segments : List String}
      (asked : .write target tree ∈ script)
      (package : packageSegments target.package = .ok segments) :
      NeedsDirectory e script (e.packageDirectory segments)

theorem NeedsDirectory.later (h : e.NeedsDirectory script directory) :
    e.NeedsDirectory (a :: script) directory := by
  cases h with
  | output => exact .output
  | package asked package => exact .package (List.mem_cons_of_mem _ asked) package

theorem Stores.needsDirectory (h : e.Stores s a directory path text) :
    e.NeedsDirectory (a :: script) directory := by
  cases h with
  | artifact fresh package render => exact .package List.mem_cons_self package
  | index render => exact .output

theorem Stores.storesFile (h : e.Stores s a directory path text)
    (succeeds : (e.emitter.step s a).result = .ok ()) : e.StoresFile s (a :: script) path := by
  cases h with
  | artifact fresh package render => exact .artifact package succeeds
  | index render => exact .index succeeds

end FileEmitter

namespace OutputDirectory

variable {out : OutputDirectory} {s : Filing String FaultyDisk} {a : Step} {script : List Step}

/-- **The files that a script opens and does not complete**: a step fails whose file could have
    been stored, had nothing broken it off. -/
inductive BreaksFile (out : OutputDirectory) :
    Filing String FaultyDisk → List Step → String → Prop where
  /-- The first step is broken off. -/
  | first {s : Filing String FaultyDisk} {a : Step} {rest : List Step}
      {directory path text : String} (stores : out.onFaultyDisk.Stores s a directory path text)
      (possible : (store s.files.disk directory path text).1 = .ok ())
      (fails : (out.onFaultyDisk.emitter.step s a).result ≠ .ok ()) : BreaksFile out s (a :: rest) path
  /-- A later step is. -/
  | later {s : Filing String FaultyDisk} {a : Step} {rest : List Step} {path : String}
      (breaks : BreaksFile out (out.onFaultyDisk.emitter.step s a).state rest path) :
      BreaksFile out s (a :: rest) path

/-- **What storing its file does to the disk** of a step, where it may be broken off. -/
theorem storeUntil_of_stores {directory path text : String}
    (h : out.onFaultyDisk.Stores s a directory path text) :
    storeUntil s.files.interruptions.head?.join s.files.disk directory path text =
        ((out.onFaultyDisk.emitter.step s a).result,
          (out.onFaultyDisk.emitter.step s a).state.files.disk) ∧
      (out.onFaultyDisk.emitter.step s a).state.files.interruptions =
        s.files.interruptions.tail := by
  obtain ⟨hresult, hfiles⟩ := Prod.mk.inj h.store_eq
  rw [← hresult, ← hfiles]
  exact ⟨rfl, rfl⟩

/-- **Where nothing is broken off, every file that is opened is completed.** -/
theorem not_breaksFile (h : s.files.interruptions = []) {path : String} :
    ¬out.BreaksFile s script path := by
  intro hbreaks
  induction hbreaks with
  | @first s a rest directory path text stores possible fails =>
    obtain ⟨hstore, -⟩ := storeUntil_of_stores stores
    rw [h, List.head?_nil, Option.join_none, storeUntil_none] at hstore
    rw [hstore] at possible
    exact fails possible
  | @later s a rest path breaks ih =>
    apply ih
    rcases out.onFaultyDisk.files_step s a with hsame | ⟨_, _, _, stores⟩
    · rw [hsame, h]
    · rw [(storeUntil_of_stores stores).2, h]
      rfl

/-! ## Footprints -/

/-- **Nothing is touched but what a script needs, stores and breaks.** The paths are followed on
    the disk that is left, where all of them lead to what was made. -/
structure Footprint (out : OutputDirectory) (s : Filing String FaultyDisk) (script : List Step)
    (disk : Disk) : Prop where
  /-- Everything is still there, of the kind it was. -/
  keeps : Keeps s.files.disk disk
  /-- A new directory is on the way to one that is needed, and a new content is that of a file
      that was opened. -/
  changes : ChangesOnly
    (fun place => ∃ directory, out.onFaultyDisk.NeedsDirectory script directory ∧
      disk.OnTheWay directory place)
    (fun place => ∃ path, (out.onFaultyDisk.StoresFile s script path ∨
      out.BreaksFile s script path) ∧ disk.resolve path = .ok place) s.files.disk disk

theorem Footprint.refl (out : OutputDirectory) (s : Filing String FaultyDisk)
    (script : List Step) : out.Footprint s script s.files.disk := ⟨.refl _, .refl _⟩

/-- **The footprint of one step**, whatever it comes to. -/
theorem footprint_step (out : OutputDirectory) (s : Filing String FaultyDisk) (a : Step)
    (rest : List Step) :
    out.Footprint s (a :: rest) (out.onFaultyDisk.emitter.step s a).state.files.disk := by
  rcases out.onFaultyDisk.files_step s a with hsame | ⟨directory, path, text, stores⟩
  · rw [hsame]
    exact .refl out s (a :: rest)
  · obtain ⟨hstore, -⟩ := storeUntil_of_stores stores
    refine ⟨keeps_storeUntil hstore, (changesOnly_storeUntil hstore).mono ?_ ?_⟩
    · intro place hway
      exact ⟨directory, stores.needsDirectory, hway⟩
    · rintro place ⟨hpossible, hplace⟩
      refine ⟨path, ?_, hplace⟩
      -- the file was opened: either the step succeeds, or the file is broken
      by_cases hresult : (out.onFaultyDisk.emitter.step s a).result = .ok ()
      · exact .inl (stores.storesFile hresult)
      · exact .inr (.first stores hpossible hresult)

/-- The footprints of a step and of those behind it. -/
theorem Footprint.later {disk : Disk}
    (h : out.Footprint s (a :: script) (out.onFaultyDisk.emitter.step s a).state.files.disk)
    (hlater : out.Footprint (out.onFaultyDisk.emitter.step s a).state script disk) :
    out.Footprint s (a :: script) disk := by
  refine ⟨h.keeps.trans hlater.keeps, (h.changes.mono ?_ ?_).trans (hlater.changes.mono ?_ ?_)⟩
  · -- where a path leads after the step, it leads in the end
    rintro place ⟨directory, hneeds, hway⟩
    exact ⟨directory, hneeds, hway.mono hlater.keeps⟩
  · rintro place ⟨path, hopens, hres⟩
    exact ⟨path, hopens, resolve_mono hlater.keeps hres⟩
  · rintro place ⟨directory, hneeds, hway⟩
    exact ⟨directory, hneeds.later, hway⟩
  · rintro place ⟨path, hopens, hres⟩
    exact ⟨path, hopens.imp .later .later, hres⟩

/-- **The footprint of a script.** -/
theorem footprint_play (out : OutputDirectory) (s : Filing String FaultyDisk)
    (script : List Step) :
    out.Footprint s script (out.onFaultyDisk.emitter.play s script).files.disk := by
  induction script generalizing s with
  | nil => exact .refl out s []
  | cons a rest ih =>
    rw [Emitter.play_cons]
    exact (footprint_step out s a rest).later (ih _)

/-- **A script touches nothing else.** From any disk and record, whatever the steps come to and
    wherever they are broken off, everything is still there and of the kind it was. A file that is
    neither that of an artifact emitted on the way, nor the index where it was written, nor one
    that was opened by a step that failed, has the content that it had, and there is no file at
    such a place where there was none. A directory that is new is the output directory or that of
    a package that was asked for, or one of the paths above these leads there. It is then a
    directory above, unless that path leads up by `..` on its way. If nothing is broken off, no
    step that fails has opened a file, and the disk is the one that the directory emitter leaves. -/
theorem play_touches_nothing_else (out : OutputDirectory) (s : Filing String FaultyDisk)
    (script : List Step) :
    let d := s.files.disk
    let d' := (out.onFaultyDisk.emitter.play s script).files.disk
    Keeps d d' ∧
    (∀ place,
      (∀ path, out.onFaultyDisk.StoresFile s script path → d'.resolve path ≠ .ok place) →
      (∀ path, out.BreaksFile s script path → d'.resolve path ≠ .ok place) →
      ∀ content, d'.node? place = some (.file content) ↔ d.node? place = some (.file content)) ∧
    (∀ place, d.node? place = none → d'.node? place = some .directory →
      ∃ directory, out.onFaultyDisk.NeedsDirectory script directory ∧
        d'.OnTheWay directory place ∧
        (Path.isAbsolute directory = true → ".." ∉ steps directory →
          place <+: d'.destination directory)) ∧
    (s.files.interruptions = [] → ∀ path, ¬out.BreaksFile s script path) ∧
    ∀ o, s = FileEmitter.filing id (⟨·, []⟩) o → d' = (out.play o script).disk := by
  obtain ⟨hkeeps, hchanges⟩ := footprint_play out s script
  refine ⟨hkeeps, ?_, ?_, fun hnone path => not_breaksFile hnone, ?_⟩
  · intro place hstored hbroken content
    -- a place is as it was, a new directory, or that of a file that was opened
    rcases hchanges.node place with hsame | ⟨hnone, hdir, -⟩ | ⟨-, path, hopens, hres⟩
    · rw [hsame]
    · -- a new directory is no file, and neither is what was not there
      rw [hnone, hdir]
      simp
    · rcases hopens with hstores | hbreaks
      · exact absurd hres (hstored path hstores)
      · exact absurd hres (hbroken path hbreaks)
  · intro place hnone hdir
    rcases hchanges.node place with hsame | ⟨-, -, directory, hneeds, hway⟩ | ⟨⟨_, hfile⟩, -⟩
    · rw [hsame, hnone] at hdir
      cases hdir
    · exact ⟨directory, hneeds, hway, hway.isPrefix⟩
    · rw [hdir] at hfile
      cases hfile
  · rintro o rfl
    rw [out.onFaultyDisk_copies.follows.play, play_emitter]
    rfl

/-- **An artifact beside another**: the file that was there is left alone, and a directory is made
    for the package of the new one. -/
theorem rawly_leaves_plainly : ∃ source raw,
    let o : Output := ⟨plainDisk source, [⟨"a", "T", "/out/a/T.rs"⟩]⟩
    let s : Filing String FaultyDisk := FileEmitter.filing id (⟨·, []⟩) o
    (topmost.onFaultyDisk.emitter.play s [rawly]).files.disk = rawDisk source raw ∧
    (∀ path, topmost.onFaultyDisk.StoresFile s [rawly] path →
      (rawDisk source raw).resolve path ≠ .ok ["out", "a", "T.rs"]) ∧
    (∀ path, ¬topmost.BreaksFile s [rawly] path) ∧
    (rawDisk source raw).node? ["out", "a", "T.rs"] = some (.file source.toUTF8) ∧
    (plainDisk source).node? ["out", "r#a"] = none ∧
    (rawDisk source raw).node? ["out", "r#a"] = some .directory ∧
    ∃ directory, topmost.onFaultyDisk.NeedsDirectory [rawly] directory ∧
      (rawDisk source raw).OnTheWay directory ["out", "r#a"] ∧
      (Path.isAbsolute directory = true → ".." ∉ steps directory →
        ["out", "r#a"] <+: (rawDisk source raw).destination directory) := by
  obtain ⟨source, -, -⟩ := step_plainly
  obtain ⟨raw, -, hraw⟩ := step_rawly source
  refine ⟨source, raw, ?_⟩
  intro o s
  obtain ⟨-, hfile, hmade, hbreaks, hlink⟩ := play_touches_nothing_else topmost s [rawly]
  have hplay : (topmost.onFaultyDisk.emitter.play s [rawly]).files.disk = rawDisk source raw := by
    rw [hlink o rfl, play_cons, play_nil, hraw]
    rfl
  -- the only file that can have been stored is the raw one
  have hother : ∀ path, topmost.onFaultyDisk.StoresFile s [rawly] path →
      (rawDisk source raw).resolve path ≠ .ok ["out", "a", "T.rs"] := by
    intro path hstores hres
    have hdest := resolve_eq_destination hres
    cases hstores with
    | artifact package succeeds =>
      obtain rfl := Except.ok.inj (packageSegments_raw_a.symm.trans package)
      have hpath : topmost.onFaultyDisk.artifactPath ["r#a"] "U" = "/out/r#a/U.rs" := by decide
      rw [hpath, destination_of_isAbsolute (by decide)] at hdest
      exact absurd hdest (by decide)
    | later stores => cases stores
  rw [hplay] at hfile hmade
  have hnone := hbreaks rfl
  exact ⟨hplay, hother, hnone, (hfile _ hother (fun path h => absurd h (hnone path)) _).2 rfl, rfl,
    rfl, hmade _ rfl rfl⟩

/-! ## A write that is broken off -/

/-- An output directory whose path leads up on its way. -/
def roundabout : OutputDirectory := ⟨"/x/../y", "fieldpaths.rs", {}⟩

/-- A disk with an older file, and room for nothing more. -/
def fullDisk : FaultyDisk :=
  ⟨⟨[(["y"], .directory), (["y", "T.rs"], .file "old".toUTF8)], []⟩, [some ⟨0, .noSpace⟩]⟩

/-- An artifact outside any package. -/
def rootless : Step := .write ⟨"", "T", "T"⟩ []

/-- **A full disk, and a path that leads up**: the step fails and nothing is stored, yet the older
    file is emptied; and a directory is made that is not above the only one that is needed. -/
theorem broken_write_touches_more :
    let e := roundabout.onFaultyDisk
    let s : Filing String FaultyDisk := { files := fullDisk }
    let d' := (e.emitter.play s [rootless]).files.disk
    (e.emitter.step s rootless).result = .error (.io "/x/../y/T.rs" .noSpace) ∧
    (∀ path, ¬e.StoresFile s [rootless] path) ∧
    fullDisk.disk.node? ["y", "T.rs"] = some (.file "old".toUTF8) ∧
    d'.node? ["y", "T.rs"] = some (.file "".toUTF8) ∧
    (∀ directory, e.NeedsDirectory [rootless] directory → d'.destination directory = ["y"]) ∧
    fullDisk.disk.node? ["x"] = none ∧ d'.node? ["x"] = some .directory := by
  have hident : Ident.parse? "T" = some ⟨false, "T".toList⟩ := parse?_word (by decide) (by decide)
  obtain ⟨source, hsource⟩ := roundabout.renderer.exists_renderText_nil ⟨"", "T", "T"⟩ hident
  -- an artifact is never empty, so there is something to break off
  have hsize : 0 < source.toUTF8.size := by
    have hhead := head?_renderText hsource
    rcases Nat.eq_zero_or_pos source.toUTF8.size with hzero | hpos
    · obtain rfl : source = "" := by simpa using hzero
      cases hhead
    · exact hpos
  have hempty : source.toUTF8.extract 0 0 = "".toUTF8 := by simp
  let broken : Disk :=
    ⟨[(["y"], .directory), (["y", "T.rs"], .file "".toUTF8), (["x"], .directory)], []⟩
  -- the way to the directory is made, and the file is opened before the disk turns out to be full
  have hstore : roundabout.onFaultyDisk.store fullDisk "/x/../y" "/x/../y/T.rs" source =
      (.error (.io "/x/../y/T.rs" .noSpace), ⟨broken, []⟩) := by
    have hcreate : fullDisk.disk.createAll "/x/../y" =
        (.ok (), fullDisk.disk.put ["x"] .directory) := rfl
    have hwrite : (fullDisk.disk.put ["x"] .directory).writeFile "/x/../y/T.rs" "".toUTF8 =
        .ok broken := rfl
    have hinterruption : fullDisk.interruptions.head?.join = some ⟨0, .noSpace⟩ := rfl
    simp only [onFaultyDisk, storeUntil, hcreate, writeUntil, hinterruption, Option.filter, hsize,
      decide_true, if_true, hempty, hwrite]
    rfl
  have hstep : roundabout.onFaultyDisk.emitter.step { files := fullDisk } rootless =
      .refused ⟨⟨broken, []⟩, []⟩ (.io "/x/../y/T.rs" .noSpace) := by
    have hwrite := FileEmitter.write_of_store (e := roundabout.onFaultyDisk)
      (s := { files := fullDisk }) (fun _ hf => absurd hf List.not_mem_nil)
      (by rfl : packageSegments "" = .ok []) hsource
    have hpath : roundabout.onFaultyDisk.artifactPath [] "T" = "/x/../y/T.rs" := by decide
    have hdirectory : roundabout.onFaultyDisk.packageDirectory [] = "/x/../y" := rfl
    rw [hpath, hdirectory, hstore] at hwrite
    exact hwrite
  have hresult := congrArg Emission.result hstep
  -- the step did not succeed, so it counts for no stored file
  have hstored : ∀ path,
      ¬roundabout.onFaultyDisk.StoresFile { files := fullDisk } [rootless] path := by
    intro path hstores
    cases hstores with
    | artifact package succeeds => cases succeeds.symm.trans hresult
    | later stores => cases stores
  intro e s d'
  have hd' : d' = broken := congrArg (fun emission => emission.state.files.disk) hstep
  refine ⟨hresult, hstored, rfl, ?_, ?_, rfl, ?_⟩
  · rw [hd']
    rfl
  · intro directory hneeds
    have hdirectory : directory = "/x/../y" := by
      cases hneeds with
      | output => rfl
      | package asked package =>
        obtain ⟨rfl, -⟩ := Step.write.inj (List.mem_singleton.1 asked)
        obtain rfl := Except.ok.inj package
        rfl
    rw [hdirectory, destination_of_isAbsolute (by decide)]
    decide
  · rw [hd']
    rfl

end OutputDirectory

end QueryPaths
