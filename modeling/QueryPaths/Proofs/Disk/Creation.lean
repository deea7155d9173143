import QueryPaths.Proofs.Disk.Change

/-! # Which places are touched

    Making a directory with all that are missing above it touches only places that the
    path passes, and writing a file only the place that its path leads to. This holds
    of attempts that fail half-way, too.

    * **`ChangesOnly`**: every change is a new directory, or a stored file, at places of
      a certain kind.
    * **`changesOnly_createAll`**, **`changesOnly_writeFile`**: what the operations touch.
    * **`OnTheWay`**: the places on the way to a directory.
    * **`Passes`**: the places that an absolute path passes, whatever is on the disk.
-/

namespace QueryPaths.Disk

/-- **Every change is of one of two kinds**: a directory made where nothing was, at a place
    in `made`, or a file at a place in `stored`. -/
structure ChangesOnly (made stored : Place → Prop) (d d' : Disk) : Prop where
  /-- The working directory is the same. -/
  cwd : d'.cwd = d.cwd
  /-- Every place is as it was, or one of the two. -/
  node : ∀ place, d'.node? place = d.node? place ∨
    (d.node? place = none ∧ d'.node? place = some .directory ∧ made place) ∨
    ((∃ content, d'.node? place = some (.file content)) ∧ stored place)

variable {made stored made' stored' : Place → Prop} {d d' d'' : Disk}

theorem ChangesOnly.refl (d : Disk) : ChangesOnly made stored d d := ⟨rfl, fun _ => .inl rfl⟩

theorem ChangesOnly.trans (h : ChangesOnly made stored d d') (h' : ChangesOnly made stored d' d'') :
    ChangesOnly made stored d d'' := by
  refine ⟨h'.cwd.trans h.cwd, fun place => ?_⟩
  rcases h'.node place with hsame | ⟨hnone, hdir, hmade⟩ | hfile
  · rw [hsame]
    exact h.node place
  · -- nothing was there after the first change, so nothing was there before
    rcases h.node place with hsame | ⟨-, hdir', -⟩ | ⟨⟨content, hfile⟩, -⟩
    · exact .inr (.inl ⟨hsame ▸ hnone, hdir, hmade⟩)
    · rw [hnone] at hdir'
      cases hdir'
    · rw [hnone] at hfile
      cases hfile
  · exact .inr (.inr hfile)

theorem ChangesOnly.mono (h : ChangesOnly made stored d d') (hmade : ∀ place, made place → made' place)
    (hstored : ∀ place, stored place → stored' place) : ChangesOnly made' stored' d d' := by
  refine ⟨h.cwd, fun place => ?_⟩
  rcases h.node place with hsame | ⟨hnone, hdir, hm⟩ | ⟨hfile, hs⟩
  · exact .inl hsame
  · exact .inr (.inl ⟨hnone, hdir, hmade place hm⟩)
  · exact .inr (.inr ⟨hfile, hstored place hs⟩)

/-! ## Making directories -/

/-- Making one directory touches the place that its path leads to from then on. -/
theorem changesOnly_makeDirectory {path : String} (h : d.makeDirectory path = .ok d') :
    ChangesOnly (fun place => d'.resolve path = .ok place) stored d d' := by
  have hfound := (resolve_makeDirectory h).1
  obtain ⟨hne, hnone, rfl⟩ := makeDirectory_eq_ok h
  refine ⟨rfl, fun place => ?_⟩
  rw [node?_put d hne]
  split
  · next heq => exact .inr (.inl ⟨heq ▸ hnone, rfl, heq ▸ hfound⟩)
  · exact .inl rfl

/-- Making some directories touches the places that their paths lead to from then on, also when
    it fails half-way. -/
theorem changesOnly_ensure (d : Disk) (paths : List String) :
    ChangesOnly (fun place => ∃ path ∈ paths, (d.ensure paths).2.resolve path = .ok place) stored d
      (d.ensure paths).2 := by
  -- the paths come from below, so the induction hypothesis is about those above
  induction paths with
  | nil => exact .refl d
  | cons path above ih =>
    have hfirst : ∀ {before made : Disk}, before.makeDirectory path = .ok made →
        ChangesOnly (fun place => ∃ p ∈ path :: above, made.resolve p = .ok place) stored before
          made := by
      intro before made hmade
      apply (changesOnly_makeDirectory hmade).mono _ fun _ => id
      intro place hplace
      exact ⟨path, List.mem_cons_self, hplace⟩
    -- what leads to a place above still does when the first one is made
    have habove : ∀ {e : Disk}, Keeps (d.ensure above).2 e →
        ChangesOnly (fun place => ∃ p ∈ path :: above, e.resolve p = .ok place) stored d
          (d.ensure above).2 := by
      intro e hkeeps
      apply ih.mono _ fun _ => id
      intro place hplace
      obtain ⟨p, hp, hres⟩ := hplace
      exact ⟨p, List.mem_cons_of_mem _ hp, resolve_mono hkeeps hres⟩
    unfold ensure
    split
    · next made hmade => exact hfirst hmade
    · -- the directory above is missing and is made first
      split
      · next partly hpartly =>
        rw [hpartly] at habove
        exact habove (.refl partly)
      · next ready hready =>
        rw [hready] at habove
        split
        · next made hmade => exact (habove (extends_makeDirectory hmade).keeps).trans (hfirst hmade)
        · exact habove (.refl ready)
    · exact .refl d

/-- **Is a place passed on the way to a directory?** The path of the directory leads there, or
    one of the paths above it. -/
def OnTheWay (d : Disk) (path : String) (place : Place) : Prop :=
  ∃ a ∈ Path.ancestors path, d.resolve a = .ok place

theorem OnTheWay.mono {path : String} {place : Place} (h : Keeps d d')
    (hway : d.OnTheWay path place) : d'.OnTheWay path place := by
  obtain ⟨a, ha, hres⟩ := hway
  exact ⟨a, ha, resolve_mono h hres⟩

/-- **Making a directory and those above it** touches places on the way to it. -/
theorem changesOnly_createAll (d : Disk) (path : String) :
    ChangesOnly ((d.createAll path).2.OnTheWay path) stored d (d.createAll path).2 :=
  changesOnly_ensure d _

/-! ## Paths above a path -/

/-- **The places that an absolute path passes**, from the root to its own. -/
def Passes (path : String) (place : Place) : Prop :=
  ∃ front, front <+: steps path ∧ place = front.foldl advance []

theorem destination_of_isAbsolute {path : String} (h : Path.isAbsolute path = true) (d : Disk) :
    d.destination path = (steps path).foldl advance [] := by
  rw [destination, start, if_pos h]

theorem ofStem_root (ps : List (List Char)) (hps : ∀ piece ∈ ps, '/' ∉ piece) :
    Path.isAbsolute (Path.ofStem ['/'] ps) = true ∧
      steps (Path.ofStem ['/'] ps) = (ps.filter (· ≠ [])).map String.ofList := by
  have hlist : (Path.ofStem ['/'] ps).toList = '/' :: ['/'].intercalate ps := by simp [Path.ofStem]
  refine ⟨by simp [Path.isAbsolute, hlist], ?_⟩
  have hpieces : Path.pieces (Path.ofStem ['/'] ps) = [] :: (['/'].intercalate ps).splitOn '/' := by
    rw [Path.pieces, hlist, List.splitOn_cons_eq_if_modifyHead, if_pos (by simp)]
  by_cases hnil : ps = []
  · subst hnil
    rw [steps, hpieces]
    rfl
  · rw [steps, hpieces, List.splitOn_intercalate '/' hps hnil]
    simp

theorem exists_ofStem {path : String} (h : Path.isAbsolute path = true) :
    ∃ ps, Path.stem path = ['/'] ∧ (path.toList.drop 1).splitOn '/' = ps ∧
      Path.ofStem ['/'] ps = path := by
  obtain ⟨rest, hrest⟩ : ∃ rest, path.toList = '/' :: rest := by
    have hhead : path.toList.head? = some '/' := by simpa [Path.isAbsolute] using h
    exact ⟨_, (List.cons_head?_tail hhead).symm⟩
  refine ⟨rest.splitOn '/', by simp [Path.stem, hrest], by simp [hrest], ?_⟩
  apply String.toList_injective
  rw [Path.ofStem, String.toList_ofList, List.intercalate_splitOn, hrest]
  rfl

/-- **The paths above an absolute path** are absolute and have the first of its steps. -/
theorem steps_of_mem_ancestors {path a : String} (h : Path.isAbsolute path = true)
    (ha : a ∈ Path.ancestors path) : Path.isAbsolute a = true ∧ steps a <+: steps path := by
  unfold Path.ancestors at ha
  split at ha
  · cases ha
  · rcases List.mem_cons.1 ha with rfl | hmem
    · exact ⟨h, List.prefix_rfl⟩
    · obtain ⟨ps, hstem, hps, hpath⟩ := exists_ofStem h
      have hpieces : ∀ piece ∈ ps, '/' ∉ piece := by
        intro piece hpiece hslash
        rw [← hps] at hpiece
        exact (mem_of_mem_splitOn hpiece hslash).2 rfl
      -- what is above has some of the pieces, from the first one on
      have habove := (List.dropLast_sublist _).subset hmem
      rw [Path.above, hstem] at habove
      obtain ⟨head, hhead, rfl⟩ := List.mem_map.1 (List.mem_of_mem_drop habove)
      have hfilter := (List.mem_filter.1 hhead).1
      obtain ⟨k, -, rfl⟩ := List.mem_map.1 hfilter
      rw [List.length_singleton, hps]
      obtain ⟨habs, hsteps⟩ := ofStem_root (ps.take k)
        fun piece hpiece => hpieces piece (List.mem_of_mem_take hpiece)
      obtain ⟨-, hall⟩ := ofStem_root ps hpieces
      rw [hpath] at hall
      refine ⟨habs, ?_⟩
      rw [hsteps, hall]
      exact ((List.take_prefix k ps).filter _).map _

/-- What is on the way to an absolute path is passed by it. -/
theorem OnTheWay.passes {path : String} {place : Place} (h : Path.isAbsolute path = true)
    (hway : d.OnTheWay path place) : Passes path place := by
  obtain ⟨a, ha, hres⟩ := hway
  obtain ⟨habs, hprefix⟩ := steps_of_mem_ancestors h ha
  refine ⟨steps a, hprefix, ?_⟩
  rw [resolve_eq_destination hres, destination_of_isAbsolute habs]

/-! ## Writing files -/

/-- **Writing a file** touches the place that its path leads to from then on. -/
theorem changesOnly_writeFile {path : String} {content : ByteArray}
    (h : d.writeFile path content = .ok d') :
    ChangesOnly made (fun place => d'.resolve path = .ok place) d d' := by
  have hfound := resolve_writeFile h
  obtain ⟨hne, -, rfl⟩ := writeFile_eq_put h
  refine ⟨rfl, fun place => ?_⟩
  rw [node?_put d hne]
  split
  · next heq => exact .inr (.inr ⟨⟨content, rfl⟩, heq ▸ hfound⟩)
  · exact .inl rfl

end QueryPaths.Disk
