import QueryPaths.Emit.Memory
import QueryPaths.Proofs.Config.Settings
import QueryPaths.Proofs.Emit.Directory
import QueryPaths.Proofs.Emit.InvalidNames
import QueryPaths.Proofs.Emit.Paths
import QueryPaths.Proofs.Emit.TreeNames
import QueryPaths.Proofs.Generate.Success

/-! # Keywords in the way

    Usable settings and well-formed classes are made of words, but a word of the
    settings may be a keyword, and a simple name may become one with the suffix behind
    it. Nothing else keeps the classes of a run from being made of identifiers.

    * **`WellFormed`**: classes whose own names are identifiers.
    * **`KeywordBlocks`**: a keyword keeps a class from being rendered.
    * **`OutputDirectory.write_eq_invalidIdent_iff`**, **`Memory.write_eq_invalidIdent_iff`**:
      the emitters look at a new target's names and at nothing else.
    * **`ClassPool.invalidIdent_iff_keyword`**: a class fails for a name that is no
      identifier exactly if a keyword keeps it from being rendered.
-/

namespace QueryPaths

open Name (constantName)
open Source

/-- **A class whose own names are identifiers**: plain ASCII words, and no keywords. -/
structure WellFormed (c : ModelClass) : Prop where
  /-- The simple name is one. -/
  simple : isPlainIdent c.simple = true ∧ c.simple.toList ∉ keywords
  /-- The package is that at the root, or each of its pieces is one. -/
  package : c.package = "" ∨ ∀ piece ∈ c.package.toList.splitOn '.',
    isPlainIdent (String.ofList piece) = true ∧ piece ∉ keywords

instance (c : ModelClass) : Decidable (WellFormed c) :=
  decidable_of_iff
    ((isPlainIdent c.simple && !keywords.contains c.simple.toList &&
      (c.package == "" || (c.package.toList.splitOn '.').all fun piece =>
        isPlainIdent (String.ofList piece) && !keywords.contains piece)) = true)
    (by
      simp only [Bool.and_eq_true, Bool.or_eq_true, Bool.not_eq_true', beq_iff_eq,
        List.all_eq_true, List.contains_eq_mem, decide_eq_false_iff_not]
      exact ⟨fun h => ⟨h.1, h.2⟩, fun h => ⟨h.simple, h.package⟩⟩)

/-- **A field of the class leads to a namespace** before a constant name is repeated: its
    link leads to another class, and the constants up to it are distinct. -/
def NamespaceFirst (pool : ClassPool) (c : ModelClass) : Prop :=
  ∃ i f d, c.fields[i]? = some f ∧ pool.target? f = some d ∧ d.qualified ≠ c.qualified ∧
    ((c.fields.take (i + 1)).map (constantName ·.name)).Nodup

/-- **The keyword `text` keeps the class from being rendered**: it is the type name, or it
    is the self constant and there is a namespace to put it in. -/
def KeywordBlocks (config : Config) (pool : ClassPool) (c : ModelClass) (text : String) : Prop :=
  text.toList ∈ keywords ∧
    (text = config.generate.typeName c ∨
      (config.generate.typeName c).toList ∉ keywords ∧ text = config.emit.selfConst ∧
        NamespaceFirst pool c)

/-! ## Names of well-formed classes -/

theorem exists_admitSegments {pieces : List (List Char)}
    (h : ∀ piece ∈ pieces, isPlainIdent (String.ofList piece) = true ∧ piece ∉ keywords) :
    ∃ segments, admitSegments pieces = .ok segments := by
  induction pieces with
  | nil => exact ⟨[], rfl⟩
  | cons piece rest ih =>
    obtain ⟨segments, hrest⟩ := ih fun p hp => h p (List.mem_cons_of_mem _ hp)
    obtain ⟨hplain, hkey⟩ := h piece List.mem_cons_self
    have hident := identifier_of_isPlainIdent hplain
    rw [String.toList_ofList, if_neg hkey] at hident
    refine ⟨String.ofList piece :: segments, ?_⟩
    simp only [admitSegments, bind_eq_ok, pure_eq_ok]
    exact ⟨_, hident, segments, hrest, rfl⟩

/-- **The package of a well-formed class has segments.** -/
theorem WellFormed.exists_segments {c : ModelClass} (h : WellFormed c) :
    ∃ segments, packageSegments c.package = .ok segments := by
  rcases h.package with hroot | hpieces
  · exact ⟨[], by rw [packageSegments, if_pos hroot]⟩
  · by_cases hroot : c.package = ""
    · exact ⟨[], by rw [packageSegments, if_pos hroot]⟩
    · rw [packageSegments, if_neg hroot]
      exact exists_admitSegments hpieces

theorem parse?_eq_none_iff {name : String} (h : IsWord name.toList) :
    Ident.parse? name = none ↔ name.toList ∈ keywords := by
  rw [parse?_of_isWord h]
  split <;> simp_all

variable {config : Config} {pool : ClassPool} {c : ModelClass} {text : String}

/-- In a class's tree a branch comes first if a field leads to a namespace. -/
theorem branchFirst_tree_iff : BranchFirst [] (pool.tree c) ↔ NamespaceFirst pool c := by
  -- positions and names of the nodes are those of the fields
  have hnames : ∀ i, ((pool.tree c).take (i + 1)).map PathNode.name =
      (c.fields.take (i + 1)).map (constantName ·.name) := by
    intro i
    rw [List.map_take, ClassPool.tree, ClassPool.map_name_nodes, ← List.map_take]
  have hnode : ∀ i : Nat, (pool.tree c)[i]? =
      c.fields[i]?.map (pool.fieldNode [c.qualified] "") := by
    intro i
    rw [ClassPool.tree, ClassPool.nodes_eq_map, List.getElem?_map]
  constructor
  · intro h
    obtain ⟨i, n, hn, hbranch, hnodup, -⟩ := h
    rw [hnode] at hn
    obtain ⟨f, hf, rfl⟩ := Option.map_eq_some_iff.1 hn
    obtain ⟨d, htarget, hfresh⟩ := (ClassPool.isBranch_fieldNode ..).1 hbranch
    exact ⟨i, f, d, hf, htarget, fun heq => hfresh (List.mem_singleton.2 heq), hnames i ▸ hnodup⟩
  · intro h
    obtain ⟨i, f, d, hf, htarget, hne, hnodup⟩ := h
    refine ⟨i, _, by rw [hnode, hf]; rfl, ?_, hnames i ▸ hnodup, fun _ _ => List.not_mem_nil⟩
    exact (ClassPool.isBranch_fieldNode ..).2
      ⟨d, htarget, fun hmem => hne (List.mem_singleton.1 hmem)⟩

/-- **A well-formed class cannot be rendered for a name** exactly if a keyword keeps it
    from that. -/
theorem renderText_eq_invalidIdent_iff (hvalid : config.validate = .ok ()) (hc : WellFormed c)
    {r : Renderer} (hr : r.selfConst = config.emit.selfConst) :
    r.renderText (config.generate.target c) (pool.tree c) = .error (.invalidIdent text) ↔
      KeywordBlocks config pool c text := by
  -- usable settings and a simple name make words, so only keywords are left
  obtain ⟨⟨-, hsuffix⟩, hself, -⟩ := Config.validate_eq_ok_iff.1 hvalid
  have htype : IsWord (config.generate.typeName c).toList :=
    isWord_of_isPlainIdent (isPlainIdent_append hc.simple.1 hsuffix)
  have hconst : IsWord r.selfConst.toList := isWord_of_isPlainIdent (hr ▸ hself)
  have hrender : r.renderText (config.generate.target c) (pool.tree c) =
      .error (.invalidIdent text) ↔
        r.render (config.generate.target c) (pool.tree c) = .error (.invalidIdent text) := by
    simp only [Renderer.renderText, bind_eq_error, pure_eq_error, and_false, exists_false, or_false]
  have htypeName : (config.generate.target c).typeName = config.generate.typeName c := rfl
  rw [hrender, Renderer.render_eq_invalidIdent_iff (ClassPool.plainNames_tree pool c),
    branchFirst_tree_iff, htypeName, parse?_eq_none_iff htype, parse?_eq_none_iff hconst,
    Option.isSome_iff_ne_none, Ne, parse?_eq_none_iff htype, hr, KeywordBlocks]
  -- in either case the keyword is the text itself
  constructor
  · rintro (⟨hkey, rfl⟩ | ⟨hno, hkey, rfl, hfirst⟩)
    · exact ⟨hkey, .inl rfl⟩
    · exact ⟨hkey, .inr ⟨hno, rfl, hfirst⟩⟩
  · rintro ⟨hkey, rfl | ⟨hno, rfl, hfirst⟩⟩
    · exact .inl ⟨hkey, rfl⟩
    · exact .inr ⟨hno, hkey, rfl, hfirst⟩

/-! ## Writes -/

variable {target : Target} {tree : List PathNode}

/-- **The directory emitter** refuses a name only in a new target, for its package or its
    tree. -/
theorem OutputDirectory.write_eq_invalidIdent_iff {out : OutputDirectory} {o : Output} :
    (out.write o target tree).result = .error (.invalidIdent text) ↔
      (∀ w ∈ o.written, ¬(w.package = target.package ∧ w.typeName = target.typeName)) ∧
        (packageSegments target.package = .error (.invalidIdent text) ∨
          (∃ segments, packageSegments target.package = .ok segments) ∧
            out.renderer.renderText target tree = .error (.invalidIdent text)) := by
  unfold OutputDirectory.write
  by_cases hdup : (o.written.any fun w =>
      w.package == target.package && w.typeName == target.typeName) = true
  · rw [if_pos hdup]
    obtain ⟨w, hw, hsame⟩ := List.any_eq_true.1 hdup
    simp only [Bool.and_eq_true, beq_iff_eq] at hsame
    constructor
    · intro h
      cases h
    · intro h
      exact absurd hsame (h.1 w hw)
  rw [if_neg hdup]
  have hnew := forall_other_target hdup
  cases hseg : packageSegments target.package with
  | error e => simpa [Emission.refused] using fun _ => hnew
  | ok segments =>
    cases htext : out.renderer.renderText target tree with
    | error e => simpa [Emission.refused, htext] using fun _ => hnew
    | ok source =>
      simp only [reduceCtorEq, and_false, or_false, iff_false]
      split
      · next e disk hstore =>
        -- what is stored can fail for the disk only
        obtain ⟨path, fault, rfl⟩ := exists_io_of_store_error hstore
        simp [Emission.refused]
      · simp [Emission.done]

/-- **The memory emitter** refuses a name only in the tree of a new target. -/
theorem Memory.write_eq_invalidIdent_iff {r : Renderer} {m : Memory} :
    (Memory.write r m target tree).result = .error (.invalidIdent text) ↔
      m.get? target.package target.typeName = none ∧
        r.renderText target tree = .error (.invalidIdent text) := by
  unfold Memory.write
  by_cases hdup : (m.get? target.package target.typeName).isSome = true
  · rw [if_pos hdup]
    obtain ⟨a, ha⟩ := Option.isSome_iff_exists.1 hdup
    simp [Emission.refused, ha]
  · have hnone : m.get? target.package target.typeName = none := by simpa using hdup
    rw [if_neg hdup]
    cases htext : r.renderText target tree with
    | error e => simp [Emission.refused, hnone]
    | ok source => simp [Emission.done]

/-! ## Runs -/

/-- A write of a well-formed class into a directory is refused for a name if the class is
    new and a keyword keeps it from being rendered. -/
theorem WellFormed.write_eq_invalidIdent_iff (hc : WellFormed c) (hvalid : config.validate = .ok ())
    {out : OutputDirectory} (hr : out.renderer.selfConst = config.emit.selfConst) {o : Output} :
    (out.write o (config.generate.target c) (pool.tree c)).result = .error (.invalidIdent text) ↔
      (∀ w ∈ o.written, ¬(w.package = c.package ∧ w.typeName = config.generate.typeName c)) ∧
        KeywordBlocks config pool c text := by
  obtain ⟨segments, hsegments⟩ := hc.exists_segments
  have hpackage : packageSegments (config.generate.target c).package = .ok segments := hsegments
  rw [OutputDirectory.write_eq_invalidIdent_iff, renderText_eq_invalidIdent_iff hvalid hc hr,
    hpackage]
  simp [GenerateConfig.target]

/-- **A class fails for a name that is no identifier exactly if a keyword is in the way.**
    With usable settings and well-formed classes, a write into a directory or into memory
    is refused for a name exactly if the target is new and that name is a keyword: the
    type name, or the self constant where the class has a namespace. So every such failure
    of a run comes from a keyword. -/
theorem ClassPool.invalidIdent_iff_keyword (pool : ClassPool) (config : Config)
    (hvalid : config.validate = .ok ()) (hpool : ∀ c ∈ pool.project, WellFormed c) :
    (∀ (out : OutputDirectory) (o : Output), out.renderer.selfConst = config.emit.selfConst →
      ∀ c ∈ pool.project, ∀ text,
        (out.write o (config.generate.target c) (pool.tree c)).result =
            .error (.invalidIdent text) ↔
          (∀ w ∈ o.written, ¬(w.package = c.package ∧ w.typeName = config.generate.typeName c)) ∧
            KeywordBlocks config pool c text) ∧
    (∀ (r : Renderer) (m : Memory), r.selfConst = config.emit.selfConst →
      ∀ c ∈ pool.project, ∀ text,
        (Memory.write r m (config.generate.target c) (pool.tree c)).result =
            .error (.invalidIdent text) ↔
          m.get? c.package (config.generate.typeName c) = none ∧
            KeywordBlocks config pool c text) ∧
    (∀ disk path out run, pool.runInto config disk path = .ok (out, run) →
      ∀ failure ∈ run.report.failures, ∀ text, failure.error = .invalidIdent text →
        ∃ c ∈ pool.project, failure.cls = c.qualified ∧ KeywordBlocks config pool c text) := by
  refine ⟨?_, ?_, ?_⟩
  · intro out o hr c hc text
    exact (hpool c hc).write_eq_invalidIdent_iff hvalid hr
  · intro r m hr c hc text
    rw [Memory.write_eq_invalidIdent_iff, renderText_eq_invalidIdent_iff hvalid (hpool c hc) hr]
    rfl
  · intro disk path out run hrun failure hfailure text herror
    simp only [ClassPool.runInto, bind_eq_ok, pure_eq_ok, Prod.mk.injEq] at hrun
    obtain ⟨out, hopen, rfl, rfl⟩ := hrun
    obtain ⟨c, hc, hcls, o, hwrite⟩ := exists_write_of_failure hfailure
    -- the opened directory renders with the settings
    have hr : out.renderer.selfConst = config.emit.selfConst := by
      rw [(OutputDirectory.openAt_eq_ok hopen).2]
    rw [herror] at hwrite
    exact ⟨c, hc, hcls, (((hpool c hc).write_eq_invalidIdent_iff hvalid hr).1 hwrite).2⟩

/-! ## A class with a namespace -/

/-- A class that links to another one. -/
def linked : ClassPool := .ofList [(ModelClass.make "" "A").linkTo "b" "B", .make "" "B"]

/-- The settings with another self constant. -/
def withSelfConst (selfConst : String) : Config := { emit := { selfConst } }

theorem project_linked :
    linked.project = [(ModelClass.make "" "A").linkTo "b" "B", .make "" "B"] := by
  simp [linked, ClassPool.project, ModelClass.make, ModelClass.linkTo]

theorem wellFormed_linked : ∀ c ∈ linked.project, WellFormed c := by
  rw [project_linked]
  decide

theorem namespaceFirst_linked : NamespaceFirst linked ((ModelClass.make "" "A").linkTo "b" "B") :=
  ⟨0, ⟨"b", some "B"⟩, .make "" "B", rfl, by decide +kernel, by decide, by decide⟩

/-- The directory emitter for `/out`. -/
def outWith (selfConst : String) : OutputDirectory := ⟨"/out", "fieldpaths.rs", ⟨selfConst, true⟩⟩

theorem runInto_linked (selfConst : String) :
    linked.runInto (withSelfConst selfConst) ⟨[], []⟩ "/out" =
      .ok (outWith selfConst,
        linked.generate {} (outWith selfConst).emitter { disk := ⟨[], []⟩ }) :=
  rfl

/-- **With the self constant of the defaults no class fails for a name.** -/
theorem linked_named : (withSelfConst "SELF").validate = .ok () ∧
    (∀ c ∈ linked.project, WellFormed c) ∧
    ∃ run, linked.runInto (withSelfConst "SELF") ⟨[], []⟩ "/out" = .ok (outWith "SELF", run) ∧
      ∀ failure ∈ run.report.failures, ∀ text, failure.error ≠ .invalidIdent text := by
  have hvalid : (withSelfConst "SELF").validate = .ok () := by decide
  obtain ⟨-, -, hruns⟩ :=
    ClassPool.invalidIdent_iff_keyword linked (withSelfConst "SELF") hvalid wellFormed_linked
  refine ⟨hvalid, wellFormed_linked, _, runInto_linked _, ?_⟩
  intro failure hfailure text herror
  obtain ⟨c, hc, -, hkey, hname⟩ := hruns _ _ _ _ (runInto_linked _) failure hfailure text herror
  -- neither type name is a keyword, nor is the self constant
  rw [project_linked] at hc
  have hword : text ∈ ["AFields", "BFields", "SELF"] := by
    rcases hname with rfl | ⟨-, rfl, -⟩
    · rcases List.mem_cons.1 hc with rfl | hc
      · decide
      · obtain rfl := List.mem_singleton.1 hc
        decide
    · decide
  have hall : ∀ word ∈ ["AFields", "BFields", "SELF"], word.toList ∉ keywords := by decide
  exact hall text hword hkey

/-- **Usable settings, well-formed classes, and a class that fails for a name**: the self
    constant is a keyword. -/
theorem linked_not_named : (withSelfConst "fn").validate = .ok () ∧
    (∀ c ∈ linked.project, WellFormed c) ∧
    ∃ run, linked.runInto (withSelfConst "fn") ⟨[], []⟩ "/out" = .ok (outWith "fn", run) ∧
      ⟨"A", .invalidIdent "fn"⟩ ∈ run.report.failures := by
  have hvalid : (withSelfConst "fn").validate = .ok () := by decide
  have hblocks : KeywordBlocks (withSelfConst "fn") linked
      ((ModelClass.make "" "A").linkTo "b" "B") "fn" :=
    ⟨by decide, .inr ⟨by decide, rfl, namespaceFirst_linked⟩⟩
  have hformed : WellFormed ((ModelClass.make "" "A").linkTo "b" "B") := by
    apply wellFormed_linked
    rw [project_linked]
    exact List.mem_cons_self
  have hnew : ∀ w ∈ ([] : List Written),
      ¬(w.package = "" ∧ w.typeName = "AFields") := fun w hw => by cases hw
  -- nothing was emitted before, so only the keyword is in the way
  have hwrite : ((outWith "fn").write { disk := ⟨[], []⟩ }
      (GenerateConfig.target {} ((ModelClass.make "" "A").linkTo "b" "B"))
        (linked.tree ((ModelClass.make "" "A").linkTo "b" "B"))).result =
          .error (.invalidIdent "fn") :=
    (hformed.write_eq_invalidIdent_iff hvalid rfl).2 ⟨hnew, hblocks⟩
  refine ⟨hvalid, wellFormed_linked, _, runInto_linked _, ?_⟩
  rw [ClassPool.generate, project_linked]
  exact mem_failures_of_write hwrite

end QueryPaths
