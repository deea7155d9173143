import QueryPaths.Proofs.Disk.Change

/-! # Operations that are done again

    On a disk that has everything that some operations have made, in its kind, the same
    operations succeed once more: directories are found in their places, and files are written
    over. The disk then differs in the content of files only, and not even there if they end up
    with the content that they had.

    * **`createAll_again`**: making directories once more changes nothing.
    * **`writeFile_again`**: writing a file once more changes the content of a file.
    * **`layout`**: the places of a disk in the order of its entries, which writing over a file
      keeps.
    * **`eq_of_layout_eq`**: disks of one layout on which the same lies everywhere are the same.
-/

namespace QueryPaths.Disk

/-! ## Making directories once more -/

theorem locate_mono {d d' : Disk} (h : Keeps d d') {path : String} {dir : Place} {last : String}
    (hloc : d.locate path = .ok (dir, some last)) : d'.locate path = .ok (dir, some last) := by
  obtain ⟨hcheck, henter, front, hsteps, hwalk⟩ := locate_eq_ok hloc
  have hstart : d'.start path = d.start path := by simp [start, h.cwd]
  have henter' : d'.enter dir = .ok () := enter_eq_ok_iff.2 (h.directory (enter_eq_ok_iff.1 henter))
  have hlast : (steps path).getLast? = some last := by simp [hsteps]
  have hfront : (steps path).dropLast = front := by simp [hsteps]
  simp only [locate, bind_eq_ok, hlast, hfront, hstart, pure_eq_ok]
  exact ⟨(), hcheck, dir, walk_mono h hwalk, (), henter', rfl⟩

/-- A path that can be followed has no last step, or the last one can be taken from the directory
    that holds it. -/
theorem locate_of_resolve {d : Disk} {path : String} {place : Place}
    (hres : d.resolve path = .ok place) :
    d.locate path = .ok (d.start path, none) ∨
      ∃ dir last, d.locate path = .ok (dir, some last) ∧ d.CanStep dir last := by
  obtain ⟨hcheck, hwalk, -⟩ := resolve_eq_ok_iff.1 hres
  unfold locate
  rw [hcheck]
  rcases List.eq_nil_or_concat (steps path) with hnil | ⟨front, last, hsteps⟩
  · rw [hnil]
    exact .inl rfl
  · rw [List.concat_eq_append] at hsteps
    rw [hsteps, walk_append_eq_ok_iff] at hwalk
    obtain ⟨dir, hfront, hlast⟩ := hwalk
    have hcan := (walk_cons_eq_ok_iff.1 hlast).1
    refine .inr ⟨dir, last, ?_, hcan⟩
    simp only [bind_eq_ok, hsteps, List.getLast?_concat, List.dropLast_concat, pure_eq_ok]
    exact ⟨(), trivial, dir, hfront, (), hcan.1, rfl⟩

/-- **A directory that is there** is not made again. -/
theorem makeDirectory_of_resolve {d : Disk} {path : String} {place : Place}
    (hres : d.resolve path = .ok place) : d.makeDirectory path = .error .alreadyExists := by
  unfold makeDirectory
  rcases locate_of_resolve hres with hloc | ⟨dir, last, hloc, hcan⟩
  · rw [hloc]
    rfl
  · rw [hloc]
    by_cases hname : isStepName last = true
    · obtain ⟨hlen, hsome⟩ := hcan.2 hname
      simp [hname, Nat.not_lt.2 hlen, hsome]
    · simp [hname]

/-- What `ensure` makes of a path is a directory in the end. -/
theorem resolve_ensure {d ready : Disk} {path : String} {above : List String}
    (h : d.ensure (path :: above) = (.ok (), ready)) :
    ∃ place, ready.resolve path = .ok place ∧ ready.node? place = some .directory := by
  -- a fault is passed over only where the directory is there already
  have htolerated : ∀ {e : Disk} {fault : Fault}, e.tolerate path fault = .ok () →
      ∃ place, e.resolve path = .ok place ∧ e.node? place = some .directory := by
    intro e fault htolerate
    unfold tolerate at htolerate
    split at htolerate
    · next hboth =>
      have hdir := hboth.2
      unfold isDirectory at hdir
      obtain ⟨place, hplace, hnode⟩ := (Option.any_eq_true _ _).1 hdir
      exact ⟨place, toOption_eq_some.1 hplace, by simpa [isDirectoryAt] using hnode⟩
    · cases htolerate
  -- the last directory has been made, at the first or the second try, or was there
  unfold ensure at h
  split at h
  · next made hmade =>
    obtain rfl : made = ready := (Prod.mk.inj h).2
    exact ⟨_, resolve_makeDirectory hmade⟩
  · split at h
    · cases (Prod.mk.inj h).1
    · split at h
      · next made hmade =>
        obtain rfl : made = ready := (Prod.mk.inj h).2
        exact ⟨_, resolve_makeDirectory hmade⟩
      · obtain ⟨htolerate, rfl⟩ := Prod.mk.inj h
        exact htolerated htolerate
  · obtain ⟨htolerate, rfl⟩ := Prod.mk.inj h
    exact htolerated htolerate

/-- **Making a directory and those above it once more** finds all of them, and changes nothing. -/
theorem createAll_again {d ready e : Disk} {path : String}
    (h : d.createAll path = (.ok (), ready)) (hkeeps : Keeps ready e) :
    e.createAll path = (.ok (), e) := by
  unfold createAll at h ⊢
  cases hpaths : Path.ancestors path with
  | nil => rfl
  | cons first above =>
    rw [hpaths] at h
    obtain ⟨place, hres, hdir⟩ := resolve_ensure h
    have hres' := resolve_mono hkeeps hres
    have hdir' := hkeeps.directory hdir
    have hfound : e.isDirectory first = true := by
      simp [isDirectory, hres', Except.toOption, isDirectoryAt, hdir']
    rw [ensure, makeDirectory_of_resolve hres']
    simp [tolerate, hfound]

/-! ## Writing files once more -/

/-- **Writing a file once more** changes the content of a file. -/
theorem writeFile_again {d d' e : Disk} {path : String} {content : ByteArray}
    (h : d.writeFile path content = .ok d') (hkeeps : Keeps d' e) :
    e.writeFile path content = .ok (e.put (d.destination path) (.file content)) ∧
      d.destination path ≠ [] ∧ ∃ old, e.node? (d.destination path) = some (.file old) := by
  obtain ⟨hne, -, hput⟩ := writeFile_eq_put h
  have hwritten : d'.node? (d.destination path) = some (.file content) := by
    rw [hput, node?_put d hne, if_pos rfl]
  obtain ⟨old, hold⟩ := hkeeps.file hwritten
  refine ⟨?_, hne, old, hold⟩
  obtain ⟨dir, step, hloc, hname, hslash, hlen, -, -⟩ := writeFile_eq_ok h
  rw [destination_of_locate hloc hname] at hold ⊢
  have hloc' := locate_mono ((keeps_writeFile h).trans hkeeps) hloc
  have hfile : e.isDirectoryAt (dir ++ [step]) = false := by simp [isDirectoryAt, hold]
  unfold writeFile
  simp [hloc', hname, hslash, Nat.not_lt.2 hlen, hfile, bind, Except.bind, pure, Except.pure]

/-! ## Disks of one layout -/

/-- **The places of entries in order.** An entry whose place has been seen before is hidden by the
    earlier one. Nothing is found in it, so it is told as it is. -/
def layoutFrom (seen : List Place) : List (Place × Node) → List (Place × Option Node)
  | [] => []
  | (place, node) :: rest =>
    (place, if place ∈ seen then some node else none) :: layoutFrom (place :: seen) rest

/-- **The layout of a disk**: its places in the order of its entries. The root is no matter of
    entries. -/
def layout (d : Disk) : List (Place × Option Node) := layoutFrom [[]] d.entries

theorem layoutFrom_putEntry {seen : List Place} {place : Place} (hseen : place ∉ seen) (node : Node)
    {es : List (Place × Node)} (h : (es.lookup place).isSome = true) :
    layoutFrom seen (putEntry place node es) = layoutFrom seen es := by
  induction es generalizing seen with
  | nil => simp at h
  | cons first rest ih =>
    obtain ⟨p, n⟩ := first
    by_cases hp : p = place
    · subst hp
      simp [putEntry, layoutFrom, hseen]
    · have hne : (place == p) = false := by simpa using Ne.symm hp
      have hrest : (rest.lookup place).isSome = true := by simpa [List.lookup_cons, hne] using h
      have hseen' : place ∉ p :: seen := by simp [Ne.symm hp, hseen]
      simp [putEntry, hp, layoutFrom, ih hseen' hrest]

/-- Entries of one layout in which the same is found are the same. -/
theorem eq_of_layoutFrom_eq {seen : List Place} {es es' : List (Place × Node)}
    (hlayout : layoutFrom seen es = layoutFrom seen es')
    (hfound : ∀ place, place ∉ seen → es.lookup place = es'.lookup place) : es = es' := by
  induction es generalizing seen es' with
  | nil =>
    cases es' with
    | nil => rfl
    | cons first rest => simp [layoutFrom] at hlayout
  | cons first rest ih =>
    cases es' with
    | nil => simp [layoutFrom] at hlayout
    | cons first' rest' =>
      obtain ⟨p, n⟩ := first
      obtain ⟨p', n'⟩ := first'
      simp only [layoutFrom, List.cons.injEq, Prod.mk.injEq] at hlayout
      obtain ⟨⟨rfl, hnode⟩, hrest⟩ := hlayout
      have hn : n = n' := by
        by_cases hp : p ∈ seen
        · -- both are hidden, and the layout tells them
          simpa [hp] using hnode
        · simpa using hfound p hp
      subst hn
      congr 1
      -- behind the first entry its place is hidden, so nothing is asked of it there
      apply ih hrest
      intro place hplace
      obtain ⟨hne, hseen⟩ := not_or.1 (mt List.mem_cons.2 hplace)
      have hbeq : (place == p) = false := by simpa using hne
      simpa [List.lookup_cons, hbeq] using hfound place hseen

/-- **Writing over a file** keeps the layout. -/
theorem layout_put {d : Disk} {place : Place} (hne : place ≠ []) (node : Node)
    (h : (d.node? place).isSome = true) : (d.put place node).layout = d.layout := by
  have hlookup : (d.entries.lookup place).isSome = true := by
    unfold node? at h
    rwa [if_neg hne] at h
  exact layoutFrom_putEntry (by simpa using hne) node hlookup

/-- **Disks of one layout on which the same lies everywhere** are the same. -/
theorem eq_of_layout_eq {d d' : Disk} (hlayout : d.layout = d'.layout) (hcwd : d.cwd = d'.cwd)
    (hnode : ∀ place, d.node? place = d'.node? place) : d = d' := by
  have hentries : d.entries = d'.entries := by
    apply eq_of_layoutFrom_eq hlayout
    intro place hplace
    have hne : place ≠ [] := by simpa using hplace
    have hsame := hnode place
    unfold node? at hsame
    rwa [if_neg hne, if_neg hne] at hsame
  cases d with
  | mk entries cwd =>
    cases d' with
    | mk entries' cwd' =>
      congr 1

end QueryPaths.Disk
