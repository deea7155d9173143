import QueryPaths.Proofs.Generate.FailSoft
import QueryPaths.Proofs.Path.Walk

/-! # The first class that renders

    Several classes may have one target. A run into memory that goes on after failures keeps the
    first of them that can be rendered. Those in front of it fail for reasons of their own, and
    those behind it are refused, whether or not they could be rendered.

    * **`ClassPool.rendering`**: what a class renders to, by itself.
    * **`ClassPool.mem_keys_play_iff`**: the targets that are taken after some classes.
    * **`ClassPool.answer_in_memory`**: what memory answers to a class.
    * **`ClassPool.first_rendered_is_kept`**: the artifacts and the failures of a run.
-/

namespace QueryPaths

namespace ClassPool

/-- **What a class renders to**, by itself: the source of its artifact, or what is wrong with
    its names. -/
def rendering (pool : ClassPool) (config : GenerateConfig) (r : Renderer) (c : ModelClass) :
    Except EmitError String :=
  r.renderText (config.target c) (pool.tree c)

/-- **Can the class be rendered?** -/
def Renders (pool : ClassPool) (config : GenerateConfig) (r : Renderer) (c : ModelClass) : Prop :=
  ∃ source, pool.rendering config r c = .ok source

variable {pool : ClassPool} {config : GenerateConfig} {r : Renderer} {c : ModelClass}
  {classes : List ModelClass}

theorem artifact_eq_ok_iff {a : Artifact} :
    r.artifact (config.target c) (pool.tree c) = .ok a ↔
      ∃ source, pool.rendering config r c = .ok source ∧
        a = ⟨c.package, config.typeName c, source⟩ := by
  rw [Renderer.artifact, bind_eq_ok]
  exact exists_congr fun source => and_congr Iff.rfl (pure_eq_ok.trans eq_comm)

/-- The artifacts of some classes are those of the classes that render. -/
theorem mem_artifacts_iff {a : Artifact} :
    a ∈ classes.filterMap (fun c => (r.artifact (config.target c) (pool.tree c)).toOption) ↔
      ∃ c ∈ classes, ∃ source, pool.rendering config r c = .ok source ∧
        a = ⟨c.package, config.typeName c, source⟩ := by
  rw [List.mem_filterMap]
  exact exists_congr fun c => and_congr_right fun _ => toOption_eq_some.trans artifact_eq_ok_iff

/-- **What memory keeps of some classes.** -/
theorem artifacts_play_requests (classes : List ModelClass) :
    ((Memory.emitter r).play {} (writes (pool.requests config classes))).artifacts =
      keepFirst Artifact.key [] (classes.filterMap fun c =>
        (r.artifact (config.target c) (pool.tree c)).toOption) := by
  rw [Memory.artifacts_play, filterMap_offer?]

/-- **A target is taken after some classes** exactly if one of them has it and renders. -/
theorem mem_keys_play_iff {k : String × String} :
    k ∈ ((Memory.emitter r).play {} (writes (pool.requests config classes))).artifacts.map
        Artifact.key ↔
      ∃ c ∈ classes, (config.target c).key = k ∧ pool.Renders config r c := by
  rw [artifacts_play_requests, mem_map_keepFirst, List.map_nil, List.mem_map]
  simp only [List.not_mem_nil, false_or, mem_artifacts_iff]
  constructor
  · rintro ⟨a, ⟨c, hc, source, hrender, rfl⟩, rfl⟩
    exact ⟨c, hc, rfl, source, hrender⟩
  · rintro ⟨c, hc, rfl, source, hrender⟩
    exact ⟨_, ⟨c, hc, source, hrender, rfl⟩, rfl⟩

/-- **What memory answers to a class** behind others: if one of them has its target and renders,
    the class is refused, and else it is rendered. -/
theorem answer_in_memory (before : List ModelClass) (c : ModelClass) :
    let m := (Memory.emitter r).play {} (writes (pool.requests config before))
    let answer := (Memory.write r m (config.target c) (pool.tree c)).result
    ((∃ b ∈ before, (config.target b).key = (config.target c).key ∧ pool.Renders config r b) →
      answer = .error (.duplicateArtifact c.package (config.typeName c))) ∧
    ((∀ b ∈ before, (config.target b).key = (config.target c).key → ¬pool.Renders config r b) →
      answer = (pool.rendering config r c).map fun _ => ()) := by
  intro m answer
  have hanswer : answer = answerTo _ (config.target c) _ := Memory.result_write _ _ _ _
  -- memory refuses a target exactly if a class in front has taken it
  rw [hanswer, answerTo]
  constructor
  · intro htaken
    rw [if_pos (mem_keys_play_iff.2 htaken)]
    rfl
  · intro hfree
    have hnew : ¬∃ b ∈ before,
        (config.target b).key = (config.target c).key ∧ pool.Renders config r b := by
      rintro ⟨b, hb, hkey, hrenders⟩
      exact hfree b hb hkey hrenders
    rw [if_neg (mt mem_keys_play_iff.1 hnew), Renderer.artifact, ← rendering]
    cases pool.rendering config r c <;> rfl

/-- **The first class of a target that renders** gives the artifact that memory has for it. -/
theorem get?_play_of_first {before after : List ModelClass} {source : String}
    (hfirst : ∀ b ∈ before, (config.target b).key = (config.target c).key →
      ¬pool.Renders config r b)
    (hrender : pool.rendering config r c = .ok source) :
    ((Memory.emitter r).play {} (writes (pool.requests config (before ++ c :: after)))).get?
        c.package (config.typeName c) = some ⟨c.package, config.typeName c, source⟩ := by
  have hnone : (before.filterMap fun c =>
      (r.artifact (config.target c) (pool.tree c)).toOption).find?
        (Artifact.key · = (c.package, config.typeName c)) = none := by
    rw [List.find?_eq_none]
    intro a ha hkey
    obtain ⟨b, hb, text, hb', rfl⟩ := mem_artifacts_iff.1 ha
    exact hfirst b hb (of_decide_eq_true hkey) ⟨text, hb'⟩
  have hartifact : r.artifact (config.target c) (pool.tree c) =
      .ok ⟨c.package, config.typeName c, source⟩ :=
    artifact_eq_ok_iff.2 ⟨source, hrender, rfl⟩
  rw [Memory.get?_eq_find?, artifacts_play_requests, find?_keepFirst, List.find?_nil,
    Option.none_or, List.filterMap_append, List.find?_append, hnone, Option.none_or,
    List.filterMap_cons, hartifact]
  exact List.find?_cons_of_pos (decide_eq_true rfl)

/-- **A run into memory** that goes on after failures keeps what it asked for, and reports only
    about its classes. -/
theorem generate_in_memory (pool : ClassPool) (r : Renderer) (hsoft : config.failFast = false) :
    (pool.generate config (Memory.emitter r) {}).state =
        (Memory.emitter r).play {} (writes (pool.requests config pool.project)) ∧
      (pool.generate config (Memory.emitter r) {}).report = {
        emitted := (attempts pool config (Memory.emitter r) {} pool.project).filterMap
          (Attempt.artifact? config)
        failures := (attempts pool config (Memory.emitter r) {} pool.project).filterMap
          Attempt.failure? } :=
  runClasses_of_failSoft pool (Memory.emitter r) hsoft {} pool.project

/-- **Each target is emitted at most once, and by the first class that renders.** After a run
    into empty memory that goes on after failures, no two artifacts have one target, and there
    is an artifact for a target exactly if a project class of that target renders. It is that of
    the first such class. The report lists the answers to all project classes, in order, and the
    run comes to its end without an error. A class is refused as a duplicate if one of its target
    stands in front of it and renders, whatever the class itself is like. All other classes are
    emitted if they render, and if not, fail with their own error. -/
theorem first_rendered_is_kept (pool : ClassPool) (config : GenerateConfig)
    (hsoft : config.failFast = false) (r : Renderer) :
    let run := pool.generate config (Memory.emitter r) {}
    (run.state.artifacts.map Artifact.key).Nodup ∧
    (∀ package typeName, (run.state.get? package typeName).isSome = true ↔
      ∃ c ∈ pool.project, (config.target c).key = (package, typeName) ∧
        pool.Renders config r c) ∧
    (∀ before c after source, pool.project = before ++ c :: after →
      (∀ b ∈ before, (config.target b).key = (config.target c).key →
        ¬pool.Renders config r b) →
      pool.rendering config r c = .ok source →
        run.state.get? c.package (config.typeName c) =
          some ⟨c.package, config.typeName c, source⟩) ∧
    ∃ attempts : List Attempt, attempts.map (·.cls) = pool.project ∧
      run.report = {
        emitted := attempts.filterMap (Attempt.artifact? config)
        failures := attempts.filterMap Attempt.failure? } ∧
      ∀ before a after, attempts = before ++ a :: after →
        ((∃ b ∈ before, (config.target b.cls).key = (config.target a.cls).key ∧
            pool.Renders config r b.cls) →
          a.answer = .error (.duplicateArtifact a.cls.package (config.typeName a.cls))) ∧
        ((∀ b ∈ before, (config.target b.cls).key = (config.target a.cls).key →
            ¬pool.Renders config r b.cls) →
          a.answer = (pool.rendering config r a.cls).map fun _ => ()) := by
  intro run
  obtain ⟨hstate, hreport⟩ := generate_in_memory pool r hsoft
  refine ⟨?_, ?_, ?_, attempts pool config (Memory.emitter r) {} pool.project, map_cls_attempts,
    hreport, ?_⟩
  · rw [hstate, artifacts_play_requests]
    exact nodup_keepFirst List.nodup_nil
  · intro package typeName
    rw [hstate, ← mem_keys_play_iff]
    exact Memory.isSome_get?_iff
  · intro before c after source hproject hfirst hrender
    rw [hstate, hproject]
    exact get?_play_of_first hfirst hrender
  · intro before a after hsplit
    -- the answer to a class is that of memory after the classes in front
    rw [answer_of_attempts hsplit]
    obtain ⟨hrefused, hown⟩ := answer_in_memory (before.map (·.cls)) a.cls
    constructor
    · rintro ⟨b, hb, htaken⟩
      exact hrefused ⟨b.cls, List.mem_map_of_mem hb, htaken⟩
    · intro hfree
      exact hown (List.forall_mem_map.2 hfree)

/-! ## Three classes of one target -/

/-- A class with two fields of one constant. -/
def ambiguous : ModelClass := ((ModelClass.make "" "A").scalar "x").scalar "X"

/-- A class that cannot be rendered, in front of two that can, all of one target. -/
def contested : ClassPool := .ofList [ambiguous, .make "" "A", .make "" "A"]

theorem project_contested : contested.project = [ambiguous, .make "" "A", .make "" "A"] := by
  simp [contested, project, ambiguous, ModelClass.make, ModelClass.scalar]

theorem rendering_ambiguous (pool : ClassPool) :
    pool.rendering {} {} ambiguous = .error (.duplicateName ["AFields"] "X") := by
  have htree : pool.tree ambiguous = [.leaf "X" "x", .leaf "X" "X"] := by
    -- both fields are scalars of the same constant name
    have hfirst : Name.constantName "x" = "X" := by decide +kernel
    have hsecond : Name.constantName "X" = "X" := by decide +kernel
    rw [tree, nodes_eq_map]
    show [PathNode.leaf (Name.constantName "x") "x", .leaf (Name.constantName "X") "X"] = _
    rw [hfirst, hsecond]
  have htype : Source.Ident.parse? "AFields" = some ⟨false, "AFields".toList⟩ :=
    Source.parse?_word (by decide) (by decide)
  have hname : Source.Ident.parse? "X" = some ⟨false, "X".toList⟩ :=
    Source.parse?_word (by decide) (by decide)
  have htarget : GenerateConfig.target {} ambiguous = ⟨"", "AFields", "A"⟩ := rfl
  rw [rendering, htree, htarget]
  simp [Renderer.renderText, Renderer.render, Renderer.siblings, Renderer.node, identifier, htype,
    hname, PathNode.name]

theorem rendering_contested : ∃ source, contested.rendering {} {} (.make "" "A") = .ok source := by
  have htype : Source.Ident.parse? "AFields" = some ⟨false, "AFields".toList⟩ :=
    Source.parse?_word (by decide) (by decide)
  have htree : contested.tree (.make "" "A") = [] := by simp [tree, ModelClass.make]
  rw [rendering, htree]
  exact Renderer.exists_renderText_nil {} _ htype

/-- **The second of three classes gives the artifact**: the first one fails for its fields, and
    the third one is refused. -/
theorem second_of_contested_kept : GenerateConfig.failFast {} = false ∧
    ∃ source, contested.rendering {} {} (.make "" "A") = .ok source ∧
      (contested.generate {} (Memory.emitter {}) {}).state.get? "" "AFields" =
        some ⟨"", "AFields", source⟩ ∧
      (contested.generate {} (Memory.emitter {}) {}).report.failures =
        [⟨"A", .duplicateName ["AFields"] "X"⟩, ⟨"A", .duplicateArtifact "" "AFields"⟩] := by
  obtain ⟨source, hsource⟩ := rendering_contested
  obtain ⟨-, -, hkept, attempts, hclasses, hreport, hanswers⟩ :=
    first_rendered_is_kept contested {} rfl {}
  have hfails : ¬contested.Renders {} {} ambiguous := by
    rintro ⟨text, htext⟩
    cases (rendering_ambiguous _).symm.trans htext
  refine ⟨rfl, source, hsource, ?_, ?_⟩
  · refine hkept [ambiguous] (.make "" "A") [.make "" "A"] source project_contested ?_ hsource
    intro b hb _
    obtain rfl := List.mem_singleton.1 hb
    exact hfails
  · -- three attempts: one cannot be rendered, one is kept, and one comes too late
    rw [project_contested] at hclasses
    obtain ⟨first, rest, rfl, hfirst, hrest⟩ := List.map_eq_cons_iff.1 hclasses
    obtain ⟨second, rest, rfl, hsecond, hrest⟩ := List.map_eq_cons_iff.1 hrest
    obtain ⟨third, rest, rfl, hthird, hrest⟩ := List.map_eq_cons_iff.1 hrest
    obtain rfl := List.map_eq_nil_iff.1 hrest
    have hown := (hanswers [] first [second, third] rfl).2 (fun _ h => by cases h)
    have hnext := (hanswers [first] second [third] rfl).2 (fun b hb _ => by
      obtain rfl := List.mem_singleton.1 hb
      rwa [hfirst])
    have hrefused := (hanswers [first, second] third [] rfl).1
      ⟨second, by simp, by rw [hsecond, hthird], source, by rw [hsecond, hsource]⟩
    rw [hfirst, rendering_ambiguous] at hown
    rw [hsecond, hsource] at hnext
    rw [hreport]
    simp only [List.filterMap_cons, Attempt.failure?, hown, hnext, hrefused, hfirst, hthird]
    rfl

end ClassPool

end QueryPaths
