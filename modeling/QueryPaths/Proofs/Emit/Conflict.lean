import QueryPaths.Proofs.Emit.Crate

/-! # Conflicts in the index

    An artifact and a package of one name cannot stand side by side. Nothing else keeps the
    index from being rendered: what was recorded lies in sound packages, so all modules have
    names.

    * **`Conflict`**: an artifact whose package goes on, under its own type name, in the package
      of another artifact.
    * **`PackageTree.exists_clash_of_items`**: a package that cannot be rendered holds such a
      pair, and the error names the place.
    * **`indexText_isError_iff`**: when the index cannot be rendered.
    * **`OutputDirectory.finish_fails_iff_conflict`**: the same after any sequence of steps.
-/

namespace QueryPaths

open Source

/-- **An artifact of this package and type name is in the way**: another artifact belongs into a
    package of the same segments, or further inside it. -/
def Conflict (written : List Written) (segments : List String) (typeName : String) : Prop :=
  ∃ v ∈ written, ∃ w ∈ written, ∃ longer,
    packageSegments v.package = .ok segments ∧ v.typeName = typeName ∧
      packageSegments w.package = .ok longer ∧ segments ++ [typeName] <+: longer

namespace PackageTree

variable {scope : List String} {t t' : PackageTree} {written : List Written} {e : EmitError}

/-! ## Packages that cannot be rendered -/

/-- An inclusion is refused if its artifact is called like a package beside it. -/
theorem exists_of_inclusions_eq_error {names : List String} {artifacts : List (String × String)}
    (h : inclusions scope names artifacts = .error e) :
    ∃ a ∈ artifacts, a.1 ∈ names ∧ e = .duplicateName scope a.1 := by
  induction artifacts with
  | nil => simp [inclusions] at h
  | cons artifact rest ih =>
    obtain ⟨typeName, path⟩ := artifact
    rw [inclusions] at h
    by_cases htaken : typeName ∈ names
    · simp only [List.contains_iff_mem, htaken, if_true, bind_eq_error, throw_eq_error,
        throw_eq_ok, false_and, exists_false, or_false] at h
      exact ⟨(typeName, path), List.mem_cons_self, htaken, h.symm⟩
    · simp only [List.contains_iff_mem, htaken, if_false, bind_eq_error, pure_eq_error,
        and_false, exists_false, or_false] at h
      obtain ⟨a, ha, hclash⟩ := ih h
      exact ⟨a, List.mem_cons_of_mem _ ha, hclash⟩

/-- Modules are refused if one of the packages is, provided that all have names. -/
theorem exists_of_moduleItems_eq_error {modules : List (String × PackageTree)}
    (hident : ∀ m ∈ modules, (Ident.parse? m.1).isSome = true)
    (h : moduleItems scope modules = .error e) :
    ∃ m ∈ modules, items (scope ++ [m.1]) m.2 = .error e := by
  induction modules with
  | nil => simp [moduleItems] at h
  | cons m rest ih =>
    obtain ⟨name, t⟩ := m
    obtain ⟨ident, hparse⟩ := Option.isSome_iff_exists.1 (hident (name, t) List.mem_cons_self)
    simp only [moduleItems, identifier_eq_ok_iff.2 hparse, bind_eq_error, pure_eq_error,
      and_false, exists_false, or_false, reduceCtorEq, false_or, Except.ok.injEq,
      exists_eq_left'] at h
    rcases h with hfirst | ⟨body, -, hrest⟩
    · exact ⟨(name, t), List.mem_cons_self, hfirst⟩
    · obtain ⟨m, hm, herror⟩ := ih (fun m hm => hident m (List.mem_cons_of_mem _ hm)) hrest
      exact ⟨m, List.mem_cons_of_mem _ hm, herror⟩

/-- **A package that cannot be rendered** holds, itself or further inside, an artifact that is
    called like a package beside it. The error names both. -/
theorem exists_clash_of_items (hordered : Ordered t)
    (hident : ∀ way u, t.at? way = some u → ∀ m ∈ u.modules, (Ident.parse? m.1).isSome = true)
    (h : items scope t = .error e) :
    ∃ way u, t.at? way = some u ∧
      ∃ a ∈ u.artifacts, a.1 ∈ u.modules.map (·.1) ∧ e = .duplicateName (scope ++ way) a.1 := by
  induction t generalizing scope with
  | package artifacts modules ih =>
    obtain ⟨hown, hnested⟩ := (forall_at?_iff hordered).1 hident
    simp only [items, bind_eq_error, pure_eq_error, and_false, exists_false, or_false] at h
    -- the clash is among the artifacts of the package itself, or further inside
    rcases h with hfirst | ⟨first, -, hrest⟩
    · obtain ⟨a, ha, hclash, rfl⟩ := exists_of_inclusions_eq_error hfirst
      exact ⟨[], _, rfl, a, ha, hclash, by rw [List.append_nil]⟩
    · -- one of the packages inside cannot be rendered
      obtain ⟨m, hm, herror⟩ := exists_of_moduleItems_eq_error hown hrest
      obtain ⟨way, u, hu, a, ha, hclash, rfl⟩ :=
        ih m hm (hordered.nested m hm) (hnested m hm) herror
      have hlookup : modules.lookup m.1 = some m.2 := (lookup_eq_some_iff hordered.nodup).2 hm
      refine ⟨m.1 :: way, u, ?_, a, ha, hclash, by rw [List.append_assoc]; rfl⟩
      show (modules.lookup m.1).bind (at? · way) = some u
      rw [hlookup, Option.bind_some, hu]

/-! ## Packages of sound artifacts -/

theorem exists_ofWritten (h : ∀ w ∈ written, ∃ segments, packageSegments w.package = .ok segments)
    (t : PackageTree) : ∃ t', ofWritten written t = .ok t' := by
  induction written generalizing t with
  | nil => exact ⟨t, rfl⟩
  | cons w rest ih =>
    obtain ⟨segments, hsegments⟩ := h w List.mem_cons_self
    obtain ⟨t', ht'⟩ :=
      ih (fun v hv => h v (List.mem_cons_of_mem _ hv)) (t.insert w.typeName w.path segments)
    exact ⟨t', ofWritten_cons_eq_ok.2 ⟨segments, hsegments, ht'⟩⟩

theorem isSome_parse?_of_mem_modules (hok : ofWritten written empty = .ok t) {way : List String}
    {u : PackageTree} (hu : t.at? way = some u) :
    ∀ m ∈ u.modules, (Ident.parse? m.1).isSome = true := by
  intro m hm
  have hpackage := (mem_modules_iff hu).1 (List.mem_map_of_mem hm)
  rcases (hasPackage_iff hok).1 hpackage with hnil | ⟨w, -, segments, hsegments, hprefix⟩
  · exact absurd hnil (List.append_ne_nil_of_right_ne_nil _ (List.cons_ne_nil _ _))
  · apply (packageSegments_eq_ok hsegments).1
    exact hprefix.subset (List.mem_append_right _ (List.mem_singleton_self _))

/-- **An artifact is called like a package beside it** exactly if it is in conflict. -/
theorem exists_clash_iff_conflict (hok : ofWritten written empty = .ok t) {way : List String}
    {typeName : String} :
    (∃ u, t.at? way = some u ∧
      ∃ a ∈ u.artifacts, a.1 ∈ u.modules.map (·.1) ∧ a.1 = typeName) ↔
      Conflict written way typeName := by
  constructor
  · rintro ⟨u, hu, a, ha, hclash, rfl⟩
    obtain ⟨v, hv, hsegments, rfl⟩ := (mem_artifacts_iff hok hu).1 ha
    rcases (hasPackage_iff hok).1 ((mem_modules_iff hu).1 hclash) with
      hnil | ⟨w, hw, longer, hlonger, hprefix⟩
    · exact absurd hnil (List.append_ne_nil_of_right_ne_nil _ (List.cons_ne_nil _ _))
    · exact ⟨v, hv, w, hw, longer, hsegments, rfl, hlonger, hprefix⟩
  · rintro ⟨v, hv, w, hw, longer, hsegments, rfl, hlonger, hprefix⟩
    have hpackage : HasPackage t way :=
      (hasPackage_iff hok).2 (.inr ⟨v, hv, way, hsegments, List.prefix_rfl⟩)
    obtain ⟨u, hu⟩ := Option.isSome_iff_exists.1 hpackage
    refine ⟨u, hu, _, (mem_artifacts_iff hok hu).2 ⟨v, hv, hsegments, rfl⟩, ?_, rfl⟩
    exact (mem_modules_iff hu).2 ((hasPackage_iff hok).2 (.inr ⟨w, hw, longer, hlonger, hprefix⟩))

end PackageTree

/-! ## The index -/

variable {written : List Written}

/-- The order that artifacts are recorded in makes no difference to conflicts. -/
theorem conflict_mergeSort {segments : List String} {typeName : String} :
    Conflict (written.mergeSort Written.le) segments typeName ↔
      Conflict written segments typeName := by
  simp only [Conflict, List.mem_mergeSort]

/-- The index of sound artifacts is that of packages with names. -/
theorem exists_packages
    (h : ∀ w ∈ written, ∃ segments, packageSegments w.package = .ok segments) :
    ∃ t, PackageTree.ofWritten (written.mergeSort Written.le) .empty = .ok t ∧
      indexText written = sourceText <$> t.items [] := by
  obtain ⟨t, ht⟩ := PackageTree.exists_ofWritten
    (fun w hw => h w (List.mem_mergeSort.1 hw)) PackageTree.empty
  refine ⟨t, ht, ?_⟩
  rw [indexText, indexItems, ht]
  rfl

/-- **If the index of sound artifacts cannot be rendered, one of them is in conflict**, and the
    error names it. -/
theorem exists_conflict_of_indexText
    (h : ∀ w ∈ written, ∃ segments, packageSegments w.package = .ok segments) {e : EmitError}
    (herror : indexText written = .error e) :
    ∃ segments typeName, Conflict written segments typeName ∧
      e = .duplicateName segments typeName := by
  obtain ⟨t, hok, htext⟩ := exists_packages h
  rw [htext] at herror
  cases hitems : t.items [] with
  | ok items => rw [hitems] at herror; cases herror
  | error d =>
    rw [hitems] at herror
    obtain rfl : d = e := Except.error.inj herror
    obtain ⟨way, u, hu, a, ha, hclash, rfl⟩ := PackageTree.exists_clash_of_items
      (PackageTree.ordered_empty.ofWritten hok)
      (fun way u hu => PackageTree.isSome_parse?_of_mem_modules hok hu) hitems
    refine ⟨way, a.1, ?_, by rw [List.nil_append]⟩
    exact conflict_mergeSort.1
      ((PackageTree.exists_clash_iff_conflict hok).1 ⟨u, hu, a, ha, hclash, rfl⟩)

/-- **The index of sound artifacts cannot be rendered** exactly if one of them is in conflict. -/
theorem indexText_isError_iff
    (h : ∀ w ∈ written, ∃ segments, packageSegments w.package = .ok segments) :
    (∃ e, indexText written = .error e) ↔
      ∃ segments typeName, Conflict written segments typeName := by
  constructor
  · rintro ⟨e, herror⟩
    obtain ⟨segments, typeName, hconflict, -⟩ := exists_conflict_of_indexText h herror
    exact ⟨segments, typeName, hconflict⟩
  · rintro ⟨segments, typeName, hconflict⟩
    obtain ⟨t, hok, htext⟩ := exists_packages h
    obtain ⟨u, hu, a, ha, hclash, -⟩ :=
      (PackageTree.exists_clash_iff_conflict hok).2 (conflict_mergeSort.2 hconflict)
    cases hitems : t.items [] with
    | error e => exact ⟨e, by rw [htext, hitems]; rfl⟩
    | ok items =>
      -- what is rendered is free of such pairs
      have hordered := PackageTree.ordered_empty.ofWritten hok
      exact absurd hclash ((PackageTree.forall_at?_of_items hordered hitems segments u hu).1 a ha)

/-! ## The end of a sequence of steps -/

namespace OutputDirectory

variable {out : OutputDirectory} {o : Output}

theorem finish_of_indexText_error {e : EmitError} (h : indexText o.written = .error e) :
    out.finish o = .refused o e := by
  simp only [finish, h]

/-- An index that can be rendered is written, as far as the disk allows. -/
theorem finish_of_indexText_ok {text : String} (h : indexText o.written = .ok text) :
    (out.finish o).result = .ok () ∨ ∃ path fault, (out.finish o).result = .error (.io path fault) := by
  simp only [finish, h]
  split
  · next hfails =>
    obtain ⟨path, fault, rfl⟩ := exists_io_of_store_error hfails
    exact .inr ⟨path, fault, rfl⟩
  · exact .inl rfl

/-- **When the index cannot be written.** After any sequence of steps, rendering the index fails
    exactly if two of the recorded artifacts are in conflict. The error is then that of a name
    taken twice: it names the package and the type of one that is in the way, and never a name
    that is no identifier. So the output is completed, but for what the disk refuses, exactly
    if there is no conflict; and if there is one, completing it changes nothing. -/
theorem finish_fails_iff_conflict (out : OutputDirectory) (disk : Disk) (script : List Step) :
    ((∃ e, indexText (out.play { disk } script).written = .error e) ↔
      ∃ segments typeName, Conflict (out.play { disk } script).written segments typeName) ∧
    (∀ e, indexText (out.play { disk } script).written = .error e →
      (∀ text, e ≠ .invalidIdent text) ∧ ∃ segments typeName,
        Conflict (out.play { disk } script).written segments typeName ∧
        e = .duplicateName segments typeName ∧
        e.message = "duplicate name '" ++ typeName ++ "' in '" ++ "::".intercalate segments ++ "'" ∧
        out.finish (out.play { disk } script) = .refused (out.play { disk } script) e) ∧
    (((out.finish (out.play { disk } script)).result = .ok () ∨
        ∃ path fault, (out.finish (out.play { disk } script)).result = .error (.io path fault)) ↔
      ¬∃ segments typeName, Conflict (out.play { disk } script).written segments typeName) := by
  have hsound : ∀ w ∈ (out.play { disk } script).written,
      ∃ segments, packageSegments w.package = .ok segments := exists_segments_of_mem_play
  generalize out.play { disk } script = o at hsound ⊢
  have hiff := indexText_isError_iff hsound
  have hnamed : ∀ e, indexText o.written = .error e → ∃ segments typeName,
      Conflict o.written segments typeName ∧ e = .duplicateName segments typeName :=
    fun e => exists_conflict_of_indexText hsound
  rw [← hiff]
  refine ⟨Iff.rfl, ?_, ?_⟩
  · intro e herror
    obtain ⟨segments, typeName, hconflict, rfl⟩ := hnamed e herror
    have hnoName : ∀ text, EmitError.duplicateName segments typeName ≠ .invalidIdent text := by
      intro text h
      cases h
    exact ⟨hnoName, segments, typeName, hconflict, rfl, rfl, finish_of_indexText_error herror⟩
  · constructor
    · rintro hresult ⟨e, herror⟩
      -- the index was refused, and that is neither success nor a fault of the disk
      obtain ⟨segments, typeName, -, rfl⟩ := hnamed e herror
      rw [finish_of_indexText_error herror] at hresult
      rcases hresult with hok | ⟨path, fault, hio⟩
      · cases hok
      · cases hio
    · intro hnone
      cases htext : indexText o.written with
      | error e => exact absurd ⟨e, htext⟩ hnone
      | ok text => exact finish_of_indexText_ok htext

/-- An artifact of the root package that is called like a package. -/
def shadowing : Step := .write ⟨"", "a", "a"⟩ []

theorem step_shadowing (source : String) :
    (topmost.step ⟨plainDisk source, [⟨"a", "T", "/out/a/T.rs"⟩]⟩ shadowing).state.written =
      [⟨"a", "T", "/out/a/T.rs"⟩, ⟨"", "a", "/out/a.rs"⟩] := by
  obtain ⟨text, htext⟩ := topmost.renderer.exists_renderText_nil ⟨"", "a", "a"⟩ parse?_a
  have hseg : packageSegments "" = .ok [] := rfl
  have hpath : topmost.artifactPath [] "a" = "/out/a.rs" := by decide
  have hstore : store (plainDisk source) (topmost.packageDirectory []) "/out/a.rs" text =
      (.ok (), (plainDisk source).put ["out", "a.rs"] (.file text.toUTF8)) := rfl
  have hnew : ∀ w ∈ [(⟨"a", "T", "/out/a/T.rs"⟩ : Written)],
      ¬(w.package = "" ∧ w.typeName = "a") := by decide
  have hwrite : topmost.write ⟨plainDisk source, [⟨"a", "T", "/out/a/T.rs"⟩]⟩ ⟨"", "a", "a"⟩ [] =
      .done _ _ := write_eq_done hnew hseg htext hpath hstore
  exact congrArg (·.state.written) hwrite

/-- **An artifact beside a package of its name**: both were emitted, and the index is refused. -/
theorem shadowed_package_refused :
    (topmost.finish (topmost.play { disk := ⟨[], []⟩ } [plainly, shadowing])).result =
      .error (.duplicateName [] "a") := by
  obtain ⟨source, -, hplain⟩ := step_plainly
  have hplay : (topmost.play { disk := ⟨[], []⟩ } [plainly, shadowing]).written =
      [⟨"a", "T", "/out/a/T.rs"⟩, ⟨"", "a", "/out/a.rs"⟩] := by
    rw [play_cons, play_cons, play_nil, hplain, Emission.done, step_shadowing]
  obtain ⟨hiff, hnamed, -⟩ := finish_fails_iff_conflict topmost ⟨[], []⟩ [plainly, shadowing]
  have hroot : packageSegments "" = .ok [] := rfl
  have hconflict : Conflict (topmost.play { disk := ⟨[], []⟩ } [plainly, shadowing]).written [] "a" := by
    rw [hplay]
    exact ⟨_, List.mem_cons_of_mem _ List.mem_cons_self, _, List.mem_cons_self, ["a"], hroot, rfl,
      packageSegments_a, List.prefix_rfl⟩
  -- the index is refused for a conflict; it remains to see for which one
  obtain ⟨e, herror⟩ := hiff.2 ⟨_, _, hconflict⟩
  obtain ⟨-, segments, typeName, hother, rfl, -, hfinish⟩ := hnamed e herror
  rw [hfinish, Emission.refused]
  rw [hplay] at hother
  obtain ⟨v, hv, w, hw, longer, hsegments, rfl, hlonger, hprefix⟩ := hother
  rcases List.mem_pair.1 hv with rfl | rfl
  · -- the artifact inside the package is not in the way of anything
    obtain rfl : ["a"] = segments := Except.ok.inj (packageSegments_a.symm.trans hsegments)
    rcases List.mem_pair.1 hw with rfl | rfl
    · obtain rfl : ["a"] = longer := Except.ok.inj (packageSegments_a.symm.trans hlonger)
      exact absurd hprefix (by decide)
    · obtain rfl : [] = longer := Except.ok.inj (hroot.symm.trans hlonger)
      exact absurd hprefix (by decide)
  · obtain rfl : [] = segments := Except.ok.inj (hroot.symm.trans hsegments)
    rfl

end OutputDirectory

end QueryPaths
