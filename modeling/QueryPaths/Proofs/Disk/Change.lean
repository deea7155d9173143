import QueryPaths.Proofs.Disk.Destination

/-! # What disk operations change

    Making directories adds to a disk, and writing a file changes the content at
    one place. Nothing ever disappears or changes its kind, so a path that could
    be followed once can be followed from then on.

    * **`Disk.Extends`**: everything is still there, as it was.
    * **`Disk.Keeps`**: everything is still there, of the kind it was.
    * **`Disk.makeDirectory_eq_ok`**, **`Disk.writeFile_eq_ok`**: what a successful
      operation found and what it changed.
    * **`Disk.readText_writeFile`**, **`Disk.readText_writeFile_of_ne`**: a file
      holds what was written to its place last.
-/

namespace QueryPaths.Disk

/-! ## What stays -/

/-- **Everything that was there is there unchanged.** -/
structure Extends (d d' : Disk) : Prop where
  /-- The working directory is the same. -/
  cwd : d'.cwd = d.cwd
  /-- What lay at a place lies there still. -/
  node : ∀ {place : Place} {node : Node}, d.node? place = some node → d'.node? place = some node

/-- **Everything that was there is there in its kind**: directories are the same,
    files may have new content. -/
structure Keeps (d d' : Disk) : Prop where
  /-- The working directory is the same. -/
  cwd : d'.cwd = d.cwd
  /-- A directory stays. -/
  directory : ∀ {place : Place}, d.node? place = some .directory →
    d'.node? place = some .directory
  /-- A file stays a file. -/
  file : ∀ {place : Place} {content : ByteArray}, d.node? place = some (.file content) →
    ∃ content', d'.node? place = some (.file content')

theorem Extends.refl (d : Disk) : Extends d d := ⟨rfl, id⟩

theorem Extends.trans {a b c : Disk} (h : Extends a b) (h' : Extends b c) : Extends a c :=
  ⟨h'.cwd.trans h.cwd, fun hnode => h'.node (h.node hnode)⟩

theorem Extends.keeps {d d' : Disk} (h : Extends d d') : Keeps d d' :=
  ⟨h.cwd, h.node, fun hfile => ⟨_, h.node hfile⟩⟩

theorem Keeps.refl (d : Disk) : Keeps d d := (Extends.refl d).keeps

theorem Keeps.trans {a b c : Disk} (h : Keeps a b) (h' : Keeps b c) : Keeps a c where
  cwd := h'.cwd.trans h.cwd
  directory := fun hdir => h'.directory (h.directory hdir)
  file := by
    intro place content hfile
    obtain ⟨_, hfile'⟩ := h.file hfile
    exact h'.file hfile'

theorem Keeps.isSome {d d' : Disk} (h : Keeps d d') {place : Place}
    (hsome : (d.node? place).isSome = true) : (d'.node? place).isSome = true := by
  obtain ⟨node, hnode⟩ := Option.isSome_iff_exists.1 hsome
  cases node with
  | directory => simp [h.directory hnode]
  | file content =>
    obtain ⟨content', hfile⟩ := h.file hnode
    simp [hfile]

/-! ## Paths that can be followed -/

theorem enter_eq_ok_iff {d : Disk} {place : Place} :
    d.enter place = .ok () ↔ d.node? place = some .directory := by
  unfold enter
  split <;> simp_all

theorem CanStep.mono {d d' : Disk} (h : Keeps d d') {here : Place} {step : String}
    (hstep : d.CanStep here step) : d'.CanStep here step := by
  refine ⟨enter_eq_ok_iff.2 (h.directory (enter_eq_ok_iff.1 hstep.1)), ?_⟩
  intro hname
  obtain ⟨hlen, hnode⟩ := hstep.2 hname
  exact ⟨hlen, h.isSome hnode⟩

theorem walk_mono {d d' : Disk} (h : Keeps d d') {here place : Place} {path : List String}
    (hwalk : d.walk here path = .ok place) : d'.walk here path = .ok place := by
  induction path generalizing here with
  | nil => exact hwalk
  | cons step rest ih =>
    rw [walk_cons_eq_ok_iff] at hwalk ⊢
    exact ⟨hwalk.1.mono h, ih hwalk.2⟩

/-- **A path that could be followed leads to the same place still.** -/
theorem resolve_mono {d d' : Disk} (h : Keeps d d') {path : String} {place : Place}
    (hres : d.resolve path = .ok place) : d'.resolve path = .ok place := by
  rw [resolve_eq_ok_iff] at hres ⊢
  obtain ⟨hcheck, hwalk, hslash⟩ := hres
  have hstart : d'.start path = d.start path := by simp [start, h.cwd]
  refine ⟨hcheck, by rw [hstart]; exact walk_mono h hwalk, ?_⟩
  intro hends
  exact enter_eq_ok_iff.2 (h.directory (enter_eq_ok_iff.1 (hslash hends)))

/-! ## Making directories -/

/-- A directory that is made was not there before. -/
theorem makeDirectory_eq_ok {d d' : Disk} {path : String} (h : d.makeDirectory path = .ok d') :
    d.destination path ≠ [] ∧ d.node? (d.destination path) = none ∧
      d' = d.put (d.destination path) .directory := by
  simp only [makeDirectory, bind_eq_ok] at h
  obtain ⟨⟨dir, last⟩, hloc, h⟩ := h
  -- each check that was passed leaves one of the facts
  cases last with
  | none => simp at h
  | some step =>
    dsimp only at h
    split at h
    · simp at h
    · next hname =>
      split at h
      · simp at h
      · split at h
        · simp at h
        · next hnone =>
          rw [destination_of_locate hloc (by simpa using hname)]
          refine ⟨by simp, by simpa using hnone, (pure_eq_ok.1 h).symm⟩

theorem extends_makeDirectory {d d' : Disk} {path : String} (h : d.makeDirectory path = .ok d') :
    Extends d d' := by
  obtain ⟨hne, hnone, rfl⟩ := makeDirectory_eq_ok h
  refine ⟨rfl, ?_⟩
  intro place node hnode
  rw [node?_put d hne]
  split
  · next heq => rw [heq, hnone] at hnode; cases hnode
  · exact hnode

theorem resolve_makeDirectory {d d' : Disk} {path : String} (h : d.makeDirectory path = .ok d') :
    d'.resolve path = .ok (d.destination path) ∧
      d'.node? (d.destination path) = some .directory := by
  have hkeeps := (extends_makeDirectory h).keeps
  obtain ⟨hne, -, hput⟩ := makeDirectory_eq_ok h
  have hnode : d'.node? (d.destination path) = some .directory := by
    rw [hput, node?_put d hne, if_pos rfl]
  refine ⟨?_, hnode⟩
  unfold makeDirectory at h
  simp only [bind_eq_ok] at h
  obtain ⟨⟨dir, last⟩, hloc, h⟩ := h
  cases last with
  | none => simp at h
  | some step =>
    dsimp only at h
    split at h
    · simp at h
    · next hname =>
      split at h
      · simp at h
      · next hlen =>
        -- the way to the directory above is as it was, and its last step now leads further
        replace hname : isStepName step = true := by simpa using hname
        have hdest := destination_of_locate hloc hname
        obtain ⟨hcheck, henter, front, hsteps, hwalk⟩ := locate_eq_ok hloc
        have hstart : d'.start path = d.start path := by simp [start, hkeeps.cwd]
        have hdir := hkeeps.directory (enter_eq_ok_iff.1 henter)
        rw [resolve_eq_ok_iff, hsteps, hstart]
        refine ⟨hcheck, walk_append_eq_ok_iff.2 ⟨dir, walk_mono hkeeps hwalk, ?_⟩,
          fun _ => enter_eq_ok_iff.2 hnode⟩
        rw [hdest] at hnode ⊢
        rw [walk_cons_eq_ok_iff, advance_of_isStepName hname]
        exact ⟨⟨enter_eq_ok_iff.2 hdir, fun _ => ⟨Nat.le_of_not_lt hlen, by rw [hnode]; rfl⟩⟩, rfl⟩

/-- Making directories leaves the rest as it was, also when it fails half-way. -/
theorem extends_ensure (d : Disk) (paths : List String) : Extends d (d.ensure paths).2 := by
  induction paths with
  | nil => exact Extends.refl d
  | cons path above ih =>
    unfold ensure
    split
    · next made hmade => exact extends_makeDirectory hmade
    · -- the directory above is missing and is made first
      split
      · next hpartly => rw [hpartly] at ih; exact ih
      · next ready hready =>
        rw [hready] at ih
        split
        · next made hmade => exact ih.trans (extends_makeDirectory hmade)
        · exact ih
    · exact Extends.refl d

/-- **Making a directory and those above it leaves the rest as it was.** -/
theorem extends_createAll (d : Disk) (path : String) : Extends d (d.createAll path).2 :=
  extends_ensure d _

/-! ## Writing files -/

/-- What a successful write found. -/
theorem writeFile_eq_ok {d d' : Disk} {path : String} {content : ByteArray}
    (h : d.writeFile path content = .ok d') :
    ∃ dir step, d.locate path = .ok (dir, some step) ∧ isStepName step = true ∧
      Path.endsWithSlash path = false ∧ step.utf8ByteSize ≤ maxNameBytes ∧
      d.node? (dir ++ [step]) ≠ some .directory ∧ d' = d.put (dir ++ [step]) (.file content) := by
  simp only [writeFile, bind_eq_ok] at h
  obtain ⟨⟨dir, last⟩, hloc, h⟩ := h
  -- each check that was passed leaves one of the facts
  cases last with
  | none => simp at h
  | some step =>
    dsimp only at h
    split at h
    · simp at h
    · next hname =>
      obtain ⟨hname, hslash⟩ : isStepName step = true ∧ Path.endsWithSlash path = false := by
        simpa using hname
      split at h
      · simp at h
      · next hlen =>
        split at h
        · simp at h
        · next hdir =>
          refine ⟨dir, step, hloc, hname, hslash, Nat.le_of_not_lt hlen, ?_,
            (pure_eq_ok.1 h).symm⟩
          simpa [isDirectoryAt] using hdir

/-- **A write changes the content at one place**, where no directory was. -/
theorem writeFile_eq_put {d d' : Disk} {path : String} {content : ByteArray}
    (h : d.writeFile path content = .ok d') :
    d.destination path ≠ [] ∧ d.node? (d.destination path) ≠ some .directory ∧
      d' = d.put (d.destination path) (.file content) := by
  obtain ⟨dir, step, hloc, hname, -, -, hdir, rfl⟩ := writeFile_eq_ok h
  rw [destination_of_locate hloc hname]
  exact ⟨by simp, hdir, rfl⟩

theorem keeps_writeFile {d d' : Disk} {path : String} {content : ByteArray}
    (h : d.writeFile path content = .ok d') : Keeps d d' := by
  obtain ⟨hne, hdir, rfl⟩ := writeFile_eq_put h
  refine ⟨rfl, ?_, ?_⟩
  · intro place hplace
    rw [node?_put d hne, if_neg (by rintro rfl; exact hdir hplace)]
    exact hplace
  · intro place old hplace
    rw [node?_put d hne]
    split
    · exact ⟨content, rfl⟩
    · exact ⟨old, hplace⟩

theorem resolve_writeFile {d d' : Disk} {path : String} {content : ByteArray}
    (h : d.writeFile path content = .ok d') : d'.resolve path = .ok (d.destination path) := by
  have hkeeps := keeps_writeFile h
  obtain ⟨dir, step, hloc, hname, hslash, hlen, -, rfl⟩ := writeFile_eq_ok h
  obtain ⟨hcheck, henter, front, hsteps, hwalk⟩ := locate_eq_ok hloc
  -- the way to the directory is as it was, and its last step now leads to the file
  have hput := node?_put d (by simp : dir ++ [step] ≠ []) (.file content)
  rw [destination_of_locate hloc hname, resolve_eq_ok_iff, hsteps]
  refine ⟨hcheck, walk_append_eq_ok_iff.2 ⟨dir, ?_, ?_⟩, by simp [hslash]⟩
  · exact walk_mono hkeeps hwalk
  · have hdir := hkeeps.directory (enter_eq_ok_iff.1 henter)
    rw [walk_cons_eq_ok_iff, advance_of_isStepName hname]
    exact ⟨⟨enter_eq_ok_iff.2 hdir, fun _ => ⟨hlen, by simp [hput]⟩⟩, rfl⟩

/-! ## Reading back -/

theorem fromUTF8?_toUTF8 (text : String) : String.fromUTF8? text.toUTF8 = some text := by
  simp [String.fromUTF8?, String.fromUTF8, text.isValidUTF8]

/-- What it takes to read a text. -/
theorem readText_eq_ok_iff {d : Disk} {path text : String} :
    d.readText path = .ok text ↔ ∃ content, d.resolve path = .ok (d.destination path) ∧
      d.node? (d.destination path) = some (.file content) ∧
      String.fromUTF8? content = some text := by
  simp only [readText, bind_eq_ok]
  constructor
  · intro h
    obtain ⟨place, hres, h⟩ := h
    obtain rfl := resolve_eq_destination hres
    -- anything but a file of valid text would have been a fault
    split at h
    · next content hnode =>
      split at h
      · next found hfound =>
        obtain rfl := pure_eq_ok.1 h
        exact ⟨content, hres, hnode, hfound⟩
      · simp at h
    · simp at h
    · simp at h
  · intro h
    obtain ⟨content, hres, hnode, htext⟩ := h
    refine ⟨_, hres, ?_⟩
    simp [hnode, htext]

theorem pathExists_of_readText {d : Disk} {path text : String}
    (h : d.readText path = .ok text) : d.pathExists path = true := by
  obtain ⟨-, hres, -, -⟩ := readText_eq_ok_iff.1 h
  exact pathExists_iff.2 ⟨_, hres⟩

theorem readText_congr {d : Disk} {path path' text : String}
    (h : ∀ place, d.resolve path = .ok place ↔ d.resolve path' = .ok place)
    (hread : d.readText path = .ok text) : d.readText path' = .ok text := by
  obtain ⟨content, hres, hnode, htext⟩ := readText_eq_ok_iff.1 hread
  have hres' := (h _).1 hres
  have hdest := resolve_eq_destination hres'
  rw [hdest] at hres' hnode
  exact readText_eq_ok_iff.2 ⟨content, hres', hnode, htext⟩

/-- The written file is read under every path that leads to its place. -/
theorem readText_of_resolve {d d' : Disk} {path text other : String}
    (h : d.writeFile path text.toUTF8 = .ok d')
    (hres : d'.resolve other = .ok (d.destination path)) : d'.readText other = .ok text := by
  obtain ⟨hne, -, hd'⟩ := writeFile_eq_put h
  have hdest := resolve_eq_destination hres
  refine readText_eq_ok_iff.2 ⟨text.toUTF8, ?_, ?_, fromUTF8?_toUTF8 text⟩
  · rw [← hdest]
    exact hres
  · rw [← hdest, hd', node?_put d hne, if_pos rfl]

/-- **A file holds what was written.** -/
theorem readText_writeFile {d d' : Disk} {path text : String}
    (h : d.writeFile path text.toUTF8 = .ok d') : d'.readText path = .ok text :=
  readText_of_resolve h (resolve_writeFile h)

/-- **Writing elsewhere leaves a file as it was.** -/
theorem readText_writeFile_of_ne {d d' : Disk} {path text other : String} {content : ByteArray}
    (h : d.writeFile path content = .ok d') (hread : d.readText other = .ok text)
    (hne : d.destination other ≠ d.destination path) : d'.readText other = .ok text := by
  obtain ⟨old, hres, hnode, hold⟩ := readText_eq_ok_iff.1 hread
  have hdest := destination_congr (keeps_writeFile h).cwd other
  refine readText_eq_ok_iff.2 ⟨old, ?_, ?_, hold⟩
  · rw [hdest]
    exact resolve_mono (keeps_writeFile h) hres
  · obtain ⟨hroot, -, hd'⟩ := writeFile_eq_put h
    rw [hdest, hd', node?_put d hroot, if_neg hne]
    exact hnode

theorem Extends.readText {d d' : Disk} (h : Extends d d') {path text : String}
    (hread : d.readText path = .ok text) : d'.readText path = .ok text := by
  obtain ⟨content, hres, hnode, htext⟩ := readText_eq_ok_iff.1 hread
  have hdest := destination_congr h.cwd path
  refine readText_eq_ok_iff.2 ⟨content, ?_, ?_, htext⟩
  · rw [hdest]
    exact resolve_mono h.keeps hres
  · rw [hdest]
    exact h.node hnode

end QueryPaths.Disk
