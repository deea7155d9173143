import QueryPaths.Proofs.Emit.Paths
import QueryPaths.Proofs.Emit.Scopes
import QueryPaths.Proofs.Emit.Script
import QueryPaths.Proofs.Source.Ident

/-! # Staying inside the output directory

    Packages and type names become parts of paths. A name that is admitted may still hold
    slashes, inside comments, and then its file lies elsewhere. Without slashes every file
    and every directory lies below the output directory, one step for each name, apart
    from the directories that are made on the way to it.

    * **`OutputDirectory.LiesAt`**: an artifact lies where its package and its type name say.
    * **`OutputDirectory.liesAt_iff`**: that is so exactly if they hold no slash.
    * **`OutputDirectory.changesOnly_step`**: a step without slashes stays inside.
    * **`OutputDirectory.play_confined`**: so does a sequence of steps.
-/

namespace QueryPaths

open Disk Source

/-! ## Names along a path -/

/-- The names are the steps but for those that stay where they are. -/
theorem names_eq_filter_steps (path : String) : Path.names path = (steps path).filter (· ≠ ".") := by
  rw [Path.names, steps, List.filter_map, List.filter_filter]
  congr 1
  apply List.filter_congr
  intro piece _
  have hdot : String.ofList piece = "." ↔ piece = ['.'] := by
    constructor
    · intro h
      exact String.ofList_injective h
    · rintro rfl
      rfl
  simp [Path.isName, hdot, Bool.and_comm]

theorem no_slash_of_mem_names {path name : String} (h : name ∈ Path.names path) :
    '/' ∉ name.toList := by
  obtain ⟨piece, hpiece, rfl⟩ := List.mem_map.1 h
  intro hslash
  rw [String.toList_ofList] at hslash
  exact (mem_of_mem_splitOn (List.mem_filter.1 hpiece).1 hslash).2 rfl

theorem names_join_fileName {name : String} (h : IsFileName name) (base : String) :
    Path.names (Path.join base name) = Path.names base ++ [name] := by
  obtain ⟨hsteps, hname, habs⟩ := h
  rw [names_eq_filter_steps, names_eq_filter_steps, steps_join habs, hsteps, List.filter_append]
  have hdot : name ≠ "." := by
    rintro rfl
    exact absurd hname (by decide)
  simp [hdot]

/-- What is joined to a path starts where the path does, if none of it is absolute. -/
theorem isAbsolute_foldl_join {names : List String}
    (h : ∀ name ∈ names, Path.isAbsolute name = false) (base : String) :
    Path.isAbsolute (names.foldl Path.join base) = Path.isAbsolute base := by
  induction names generalizing base with
  | nil => rfl
  | cons name rest ih =>
    rw [List.foldl_cons, ih fun n hn => h n (List.mem_cons_of_mem _ hn),
      isAbsolute_join (h name List.mem_cons_self)]

theorem isAbsolute_of_absolute {cwd path full : String} (hcwd : Path.isAbsolute cwd = true)
    (h : Path.absolute cwd path = .ok full) : Path.isAbsolute full = true := by
  -- what is joined are names, which cannot start at the root
  have hnames : ∀ name ∈ Path.names path, Path.isAbsolute name = false := by
    intro name hname
    have hslash := no_slash_of_mem_names hname
    rw [Path.isAbsolute, beq_eq_false_iff_ne]
    intro hhead
    exact hslash (List.mem_of_mem_head? hhead)
  unfold Path.absolute at h
  split at h
  · cases h
  · -- the base is absolute in each case, and joining names keeps it so
    have hjoined : ∀ base, Path.isAbsolute base = true →
        Path.isAbsolute ((Path.names path).foldl Path.join base) = true := by
      intro base hbase
      rw [isAbsolute_foldl_join hnames, hbase]
    have hends : ∀ text, Path.isAbsolute text = true →
        Path.isAbsolute (if Path.endsWithSlash path = true then Path.join text "" else text) = true := by
      intro text htext
      split
      · rw [isAbsolute_join (by decide), htext]
      · exact htext
    rw [← Except.ok.inj h]
    apply hends
    apply hjoined
    split
    · decide
    · decide
    · decide
    · exact hcwd

theorem steps_foldl_join {segments : List String} (h : ∀ s ∈ segments, IsFileName s) (base : String) :
    steps (segments.foldl Path.join base) = steps base ++ segments ∧
      Path.names (segments.foldl Path.join base) = Path.names base ++ segments := by
  induction segments generalizing base with
  | nil => simp
  | cons s rest ih =>
    have hs : IsFileName s := h s List.mem_cons_self
    obtain ⟨hsteps, hnames⟩ := ih (fun t ht => h t (List.mem_cons_of_mem _ ht)) (Path.join base s)
    rw [List.foldl_cons, hsteps, hnames, steps_join hs.2.2, hs.1, names_join_fileName hs]
    simp

/-! ## Places below a place -/

/-- Does a place lie below another? -/
def Below (base place : Place) : Prop := ∃ behind, behind ≠ [] ∧ place = base ++ behind

theorem foldl_advance {segments : List String} (h : ∀ s ∈ segments, IsFileName s) (here : Place) :
    segments.foldl advance here = here ++ segments := by
  induction segments generalizing here with
  | nil => simp
  | cons s rest ih =>
    rw [List.foldl_cons, advance_of_isStepName (h s List.mem_cons_self).2.1,
      ih fun t ht => h t (List.mem_cons_of_mem _ ht)]
    simp

/-- A path that goes on with file names passes what it passed, and then places below. -/
theorem passes_or_below {segments : List String} (h : ∀ s ∈ segments, IsFileName s)
    {base path : String} (hsteps : steps path = steps base ++ segments) {place : Place}
    (hplace : Passes path place) :
    Passes base place ∨ Below ((steps base).foldl advance []) place := by
  obtain ⟨front, hfront, rfl⟩ := hplace
  rw [hsteps] at hfront
  -- either some of the first steps, or all of them and some file names
  rcases List.prefix_or_prefix_of_prefix hfront (List.prefix_append (steps base) segments) with
    hshort | ⟨behind, rfl⟩
  · exact .inl ⟨front, hshort, rfl⟩
  · have hbehind : behind <+: segments := (List.prefix_append_right_inj _).1 hfront
    by_cases hnil : behind = []
    · subst hnil
      exact .inl ⟨steps base, List.prefix_rfl, by rw [List.append_nil]⟩
    · refine .inr ⟨behind, hnil, ?_⟩
      rw [List.foldl_append, foldl_advance fun s hs => h s (hbehind.subset hs)]

/-- Does a step ask for nothing with a slash in its package or its type name? -/
def Step.Slashless : Step → Prop
  | .write target _ => '/' ∉ target.package.toList ∧ '/' ∉ target.typeName.toList
  | .finish => True

namespace OutputDirectory

variable {out : OutputDirectory}

/-- The place of the output directory. -/
def root (out : OutputDirectory) : Place := (steps out.directory).foldl advance []

theorem isAbsolute_of_openAt {config : EmitConfig} {disk : Disk} {path : String}
    (h : openAt config disk path = .ok out) : Path.isAbsolute out.directory = true := by
  unfold openAt at h
  split at h
  · cases h
  · next directory hdirectory =>
    obtain rfl := Except.ok.inj h
    have hcwd : Path.isAbsolute (placeText disk.cwd) = true := by simp [Path.isAbsolute, placeText]
    exact isAbsolute_of_absolute hcwd hdirectory

/-! ## Recorded artifacts -/

/-- **An artifact lies where its package and its type name say**: its path is absolute, and
    its names are those of the output directory, then one for each segment, and then that
    of the file, none of which leads back up. -/
structure LiesAt (out : OutputDirectory) (segments : List String) (w : Written) : Prop where
  /-- The path is absolute. -/
  absolute : Path.isAbsolute w.path = true
  /-- The names along the path. -/
  names : Path.names w.path = Path.names out.directory ++ (segments ++ [w.typeName ++ ".rs"])
  /-- Behind the output directory nothing leads back up. -/
  inside : ".." ∉ segments ++ [w.typeName ++ ".rs"]

theorem isFileName_of_no_slash {package typeName : String} {segments : List String}
    (h : packageSegments package = .ok segments) (hpackage : '/' ∉ package.toList)
    (htype : '/' ∉ typeName.toList) : ∀ s ∈ segments ++ [typeName ++ ".rs"], IsFileName s := by
  intro s hs
  rcases List.mem_append.1 hs with hs | hs
  · exact isFileName_segment h hs hpackage
  · obtain rfl := List.mem_singleton.1 hs
    exact isFileName_artifact htype

theorem artifactPath_eq_foldl (out : OutputDirectory) (segments : List String) (typeName : String) :
    out.artifactPath segments typeName =
      (segments ++ [typeName ++ ".rs"]).foldl Path.join out.directory := by
  rw [List.foldl_append]
  rfl

theorem no_slash_of_segments {package : String} {segments : List String}
    (h : packageSegments package = .ok segments) (hslash : ∀ s ∈ segments, '/' ∉ s.toList) :
    '/' ∉ package.toList := by
  intro hmem
  rcases (packageSegments_eq_ok h).2 with ⟨rfl, -⟩ | ⟨-, rfl⟩
  · cases hmem
  · obtain ⟨piece, hpiece, hc⟩ := exists_mem_splitOn hmem (by decide : '/' ≠ '.')
    apply hslash (String.ofList piece) (List.mem_map_of_mem hpiece)
    rwa [String.toList_ofList]

/-- **An artifact lies where its names say exactly if they hold no slash.** -/
theorem liesAt_iff (habs : Path.isAbsolute out.directory = true) {w : Written}
    {segments : List String} (h : packageSegments w.package = .ok segments)
    (hpath : w.path = out.artifactPath segments w.typeName) :
    out.LiesAt segments w ↔ '/' ∉ w.package.toList ∧ '/' ∉ w.typeName.toList := by
  constructor
  · intro hlies
    -- no name along a path holds a slash
    have hnames : ∀ s ∈ segments ++ [w.typeName ++ ".rs"], '/' ∉ s.toList := by
      intro s hs
      have hname : s ∈ Path.names w.path := by
        rw [hlies.names]
        exact List.mem_append_right _ hs
      exact no_slash_of_mem_names hname
    refine ⟨no_slash_of_segments h fun s hs => hnames s (List.mem_append_left _ hs), ?_⟩
    have hfile := hnames _ (List.mem_append_right _ (List.mem_singleton_self _))
    intro hslash
    apply hfile
    rw [String.toList_append]
    exact List.mem_append_left _ hslash
  · intro hslash
    obtain ⟨hpackage, htype⟩ := hslash
    have hfiles := isFileName_of_no_slash h hpackage htype
    obtain ⟨-, hnames⟩ := steps_foldl_join hfiles out.directory
    have habs' := isAbsolute_foldl_join (fun s hs => (hfiles s hs).2.2) out.directory
    rw [← artifactPath_eq_foldl, ← hpath] at hnames habs'
    refine ⟨habs'.trans habs, hnames, fun hup => ?_⟩
    exact absurd (hfiles ".." hup).2.1 (by decide)

/-! ## What is touched -/

/-- Is a place below the output directory, or one that is passed on the way to it? -/
def WithinReach (out : OutputDirectory) (place : Place) : Prop :=
  Passes out.directory place ∨ Below out.root place

/-- **What a step without slashes stores lies below the output directory**, and so do the
    directories that it needs. -/
theorem Stores.within {o : Output} {s : Step} {directory path text : String}
    (h : out.Stores o s directory path text) (habs : Path.isAbsolute out.directory = true)
    (hindex : isIndexFileName out.indexFile = true) (hs : s.Slashless) (d : Disk) :
    Path.isAbsolute directory = true ∧ (∀ place, Passes directory place → out.WithinReach place) ∧
      Below out.root (d.destination path) := by
  have hroot : d.destination out.directory = out.root := destination_of_isAbsolute habs d
  cases h with
  | @artifact target tree segments text fresh package render =>
    obtain ⟨hpackage, htype⟩ := hs
    have hsegments : ∀ s ∈ segments, IsFileName s :=
      fun s hs => isFileName_segment package hs hpackage
    refine ⟨?_, fun place hplace => ?_, segments ++ [target.typeName ++ ".rs"], by simp, ?_⟩
    · exact (isAbsolute_foldl_join (fun s hs => (hsegments s hs).2.2) _).trans habs
    · exact passes_or_below hsegments (steps_foldl_join hsegments out.directory).1 hplace
    · rw [destination_artifactPath package hpackage htype, hroot, List.append_assoc]
  | index render =>
    refine ⟨habs, fun place hplace => .inl hplace, [out.indexFile], by simp, ?_⟩
    rw [destination_indexPath hindex, hroot]

/-- **A step without slashes stays inside**, whatever it comes to. -/
theorem changesOnly_step {o : Output} {s : Step} (habs : Path.isAbsolute out.directory = true)
    (hindex : isIndexFileName out.indexFile = true) (hs : s.Slashless) :
    ChangesOnly out.WithinReach (Below out.root) o.disk (out.step o s).state.disk := by
  rcases disk_step out o s with hsame | ⟨directory, path, text, result, stores, hstore, -⟩
  · rw [hsame]
    exact .refl _
  · obtain ⟨hdir, hwithin, hbelow⟩ :=
      stores.within habs hindex hs (out.step o s).state.disk
    apply (changesOnly_store hstore).mono
    · intro place hplace
      exact hwithin place (hplace.passes hdir)
    · intro place hplace
      rwa [resolve_eq_destination hplace.2]

/-- **A sequence of steps stays inside the output directory as long as there are no
    slashes.** An artifact that is recorded lies where its package and its type name say
    exactly if they hold none. If none of the steps asks for one, every recorded artifact
    does, and nothing is made or stored but below the output directory and on the way to
    it. -/
theorem play_confined {config : EmitConfig} {disk : Disk} {path : String}
    (hopen : openAt config disk path = .ok out) (hindex : isIndexFileName config.indexFile = true)
    (script : List Step) :
    (∀ w ∈ (out.play { disk } script).written, ∃ segments,
      packageSegments w.package = .ok segments ∧
        (out.LiesAt segments w ↔ '/' ∉ w.package.toList ∧ '/' ∉ w.typeName.toList)) ∧
    ((∀ s ∈ script, s.Slashless) →
      (∀ w ∈ (out.play { disk } script).written, ∃ segments,
        packageSegments w.package = .ok segments ∧ out.LiesAt segments w) ∧
      ChangesOnly out.WithinReach (Below out.root) disk (out.play { disk } script).disk) := by
  have habs := isAbsolute_of_openAt hopen
  have hfile : isIndexFileName out.indexFile = true := by rw [(openAt_eq_ok hopen).1, hindex]
  -- nothing was recorded before, so each artifact comes from a step of the script
  have hrecorded : ∀ w ∈ (out.play { disk } script).written, out.RecordedBy script w := by
    intro w hw
    rcases mem_written_play w hw with hold | hnew
    · cases hold
    · exact hnew
  refine ⟨?_, fun hslashless => ⟨?_, ?_⟩⟩
  · intro w hw
    obtain ⟨target, tree, segments, text, -, hsegments, -, rfl⟩ := hrecorded w hw
    exact ⟨segments, hsegments, liesAt_iff habs hsegments rfl⟩
  · intro w hw
    obtain ⟨target, tree, segments, text, hs, hsegments, -, rfl⟩ := hrecorded w hw
    exact ⟨segments, hsegments, (liesAt_iff habs hsegments rfl).2 (hslashless _ hs)⟩
  · -- from step to step, what was changed stays within reach
    apply play_invariant (P := fun o =>
      ChangesOnly out.WithinReach (Below out.root) disk o.disk)
    · intro o s hs hbefore
      exact hbefore.trans (changesOnly_step habs hfile (hslashless s hs))
    · exact .refl disk

/-! ## A comment in a type name -/

/-- An output directory in another directory. -/
def nested : OutputDirectory := ⟨"/r/out", "fieldpaths.rs", {}⟩

theorem openAt_nested : openAt {} ⟨[], []⟩ "/r/out" = .ok nested := rfl

/-- An artifact in a package. -/
def ordinary : Step := .write ⟨"T", "A", "T.A"⟩ []

/-- An artifact whose type name goes on with a comment. -/
def commented : Step := .write ⟨"", "T//../../x", "X"⟩ []

/-- The disk after the first one. -/
def ordinaryDisk (source : String) : Disk :=
  ⟨[(["r"], .directory), (["r", "out"], .directory), (["r", "out", "T"], .directory),
    (["r", "out", "T", "A.rs"], .file source.toUTF8)], []⟩

theorem parse?_commented : Ident.parse? "T//../../x" = some ⟨false, ['T']⟩ := by
  have hfront : skipTrivia "T//../../x".toList = "T//../../x".toList :=
    skipTrivia_of_isIdentStart (by decide : isIdentStart 'T' = true) _
  have hlex : lexIdent "T//../../x".toList = some (⟨false, ['T']⟩, "//../../x".toList) := by decide
  have hcomment : skipTrivia "//../../x".toList = [] := by
    have hskip : afterTrivia? "//../../x".toList = some [] := by decide
    rw [skipTrivia_of_some hskip]
    exact skipTrivia_of_none rfl
  have hmark : dropByteOrderMark "T//../../x".toList = "T//../../x".toList := rfl
  rw [Ident.parse?, hmark, hfront, hlex]
  simp only [Option.bind_some, hcomment]
  decide

theorem packageSegments_T : packageSegments "T" = .ok ["T"] :=
  packageSegments_of_parse? (parse?_word (by decide) (by decide)) (by decide)

theorem step_ordinary : ∃ source, (nested.step { disk := ⟨[], []⟩ } ordinary).state =
    ⟨ordinaryDisk source, [⟨"T", "A", "/r/out/T/A.rs"⟩]⟩ := by
  have hident : Ident.parse? "A" = some ⟨false, "A".toList⟩ := parse?_word (by decide) (by decide)
  obtain ⟨source, hsource⟩ :=
    nested.renderer.exists_renderText_nil ⟨"T", "A", "T.A"⟩ hident
  have hpath : nested.artifactPath ["T"] "A" = "/r/out/T/A.rs" := by decide
  have hstore : store ⟨[], []⟩ (nested.packageDirectory ["T"]) "/r/out/T/A.rs" source =
      (.ok (), ordinaryDisk source) := rfl
  have hwrite : nested.write { disk := ⟨[], []⟩ } ⟨"T", "A", "T.A"⟩ [] = .done _ _ :=
    write_eq_done (fun _ hw => by cases hw) packageSegments_T hsource hpath hstore
  exact ⟨source, congrArg Emission.state hwrite⟩

/-- The artifact whose name leads up is stored beside the output directory. -/
theorem step_commented (source : String) : ∃ escaped,
    (nested.step ⟨ordinaryDisk source, [⟨"T", "A", "/r/out/T/A.rs"⟩]⟩ commented).state =
      ⟨(ordinaryDisk source).put ["r", "x.rs"] (.file escaped),
        [⟨"T", "A", "/r/out/T/A.rs"⟩, ⟨"", "T//../../x", "/r/out/T//../../x.rs"⟩]⟩ := by
  obtain ⟨text, htext⟩ :=
    nested.renderer.exists_renderText_nil ⟨"", "T//../../x", "X"⟩ parse?_commented
  have hseg : packageSegments "" = .ok [] := rfl
  have hpath : nested.artifactPath [] "T//../../x" = "/r/out/T//../../x.rs" := by decide
  have hstore : store (ordinaryDisk source) (nested.packageDirectory []) "/r/out/T//../../x.rs" text =
      (.ok (), (ordinaryDisk source).put ["r", "x.rs"] (.file text.toUTF8)) := rfl
  have hnew : ∀ w ∈ [(⟨"T", "A", "/r/out/T/A.rs"⟩ : Written)],
      ¬(w.package = "" ∧ w.typeName = "T//../../x") := by decide
  exact ⟨text.toUTF8, congrArg Emission.state (write_eq_done hnew hseg htext hpath hstore)⟩

/-- **Without slashes an artifact lies where its names say.** -/
theorem ordinary_lies : openAt {} ⟨[], []⟩ "/r/out" = .ok nested ∧
    isIndexFileName ({} : EmitConfig).indexFile = true ∧ (∀ s ∈ [ordinary], s.Slashless) ∧
    nested.LiesAt ["T"] ⟨"T", "A", "/r/out/T/A.rs"⟩ ∧
    ChangesOnly nested.WithinReach (Below nested.root) ⟨[], []⟩
      (nested.play { disk := ⟨[], []⟩ } [ordinary]).disk := by
  have hindex : isIndexFileName ({} : EmitConfig).indexFile = true := by decide
  have hslashless : ∀ s ∈ [ordinary], s.Slashless := by
    intro s hs
    obtain rfl := List.mem_singleton.1 hs
    exact ⟨by decide, by decide⟩
  obtain ⟨hlies, hchanges⟩ := (play_confined openAt_nested hindex [ordinary]).2 hslashless
  refine ⟨openAt_nested, hindex, hslashless, ?_, hchanges⟩
  obtain ⟨source, hstate⟩ := step_ordinary
  rw [play_cons, play_nil, hstate] at hlies
  obtain ⟨segments, hsegments, hlies⟩ := hlies _ List.mem_cons_self
  obtain rfl : ["T"] = segments := Except.ok.inj (packageSegments_T.symm.trans hsegments)
  exact hlies

/-- **A usable index file, and an artifact beside the output directory**: its type name is
    an identifier with a comment behind it, and the comment leads back up. -/
theorem commented_escapes : openAt {} ⟨[], []⟩ "/r/out" = .ok nested ∧
    isIndexFileName ({} : EmitConfig).indexFile = true ∧
    (∃ content, (nested.play { disk := ⟨[], []⟩ } [ordinary, commented]).disk.node? ["r", "x.rs"] =
      some (.file content)) ∧
    (nested.play { disk := ⟨[], []⟩ } [ordinary, commented]).written.map (·.path) =
      ["/r/out/T/A.rs", "/r/out/T//../../x.rs"] ∧
    Path.names "/r/out/T//../../x.rs" = ["r", "out", "T", "..", "..", "x.rs"] ∧
    nested.root = ["r", "out"] ∧ ¬Below nested.root ["r", "x.rs"] := by
  obtain ⟨source, hfirst⟩ := step_ordinary
  obtain ⟨escaped, hsecond⟩ := step_commented source
  rw [play_cons, play_cons, play_nil, hfirst, hsecond]
  have hroot : nested.root = ["r", "out"] := by decide
  refine ⟨openAt_nested, by decide, ⟨escaped, by simp⟩, rfl, by decide, hroot, ?_⟩
  rw [hroot]
  intro h
  obtain ⟨behind, -, heq⟩ := h
  simp at heq

end OutputDirectory

end QueryPaths
