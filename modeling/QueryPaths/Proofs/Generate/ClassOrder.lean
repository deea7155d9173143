import Mathlib.Data.List.Find
import QueryPaths.Proofs.Emit.Entries
import QueryPaths.Proofs.Generate.FirstRendered
import QueryPaths.Proofs.Generate.Intact
import QueryPaths.Proofs.Path.Locality

/-! # The order of classes

    Where names are unique, classes may stand in any order. Lookups find the same classes, so
    the path trees are the same. No class is in the way of another one, so each is emitted or
    fails for itself. And the index is sorted.

    * **`ClassPool.SameClasses`**: two pools of the same classes with unique names.
    * **`SameClasses.tree_eq`**: the path trees do not depend on the order.
    * **`ClassPool.attempts_of_nodup`**, **`ClassPool.artifacts_of_nodup`**,
      **`ClassPool.written_of_nodup`**: what comes of classes of different targets.
    * **`ClassPool.order_makes_no_difference`**: runs for the same classes.
-/

namespace QueryPaths

/-- **An entry is found wherever it stands**, if no two have one key. -/
theorem find?_of_perm {α κ : Type} [DecidableEq κ] {key : α → κ} {l l' : List α} (h : l.Perm l')
    (hkeys : (l.map key).Nodup) (k : κ) : l.find? (key · = k) = l'.find? (key · = k) := by
  refine List.find?_eq_find?_of_perm h ?_
  intro a ha b hb
  have hsame : key a = key b := (of_decide_eq_true ha.2).trans (of_decide_eq_true hb.2).symm
  exact List.inj_on_of_nodup_map hkeys ha.1 hb.1 hsame

namespace ClassPool

variable {pool pool' : ClassPool} {config : GenerateConfig} {classes : List ModelClass}

/-! ## Pools of the same classes -/

/-- **Two pools of the same classes**, in whatever order, whose names are unique. -/
structure SameClasses (pool pool' : ClassPool) : Prop where
  /-- The classes are the same. -/
  perm : pool.toList.Perm pool'.toList
  /-- No two classes have one qualified name. -/
  qualified : (pool.toList.map (·.qualified)).Nodup
  /-- No two project classes have one simple name in one package. -/
  names : (pool.project.map fun c => (c.package, c.simple)).Nodup

namespace SameClasses

theorem project_perm (h : SameClasses pool pool') : pool.project.Perm pool'.project :=
  h.perm.filter _

theorem symm (h : SameClasses pool pool') : SameClasses pool' pool where
  perm := h.perm.symm
  qualified := (h.perm.map _).nodup_iff.1 h.qualified
  names := (h.project_perm.map _).nodup_iff.1 h.names

theorem get?_eq (h : SameClasses pool pool') (q : String) : pool.get? q = pool'.get? q := by
  rw [get?_eq_find?, get?_eq_find?]
  exact find?_of_perm h.perm h.qualified q

/-- **Every class has the same path tree.** -/
theorem tree_eq (h : SameClasses pool pool') : pool.tree = pool'.tree := by
  funext c
  exact nodes_congr_mentions (fun name _ => h.get?_eq name) _ _

/-- **No two project classes have one target.** -/
theorem nodup_keys (h : SameClasses pool pool') (config : GenerateConfig) :
    (pool.project.map fun c => (config.target c).key).Nodup := by
  -- the suffix keeps different simple names apart
  have hinj : Function.Injective fun name : String × String =>
      (name.1, name.2 ++ config.suffix) := by
    intro a b hab
    obtain ⟨hpackage, htype⟩ := Prod.mk.inj hab
    exact Prod.ext hpackage ((String.append_left_inj _).1 htype)
  have hmap := h.names.map hinj
  rwa [List.map_map] at hmap

end SameClasses

/-! ## Classes of different targets -/

section Targets

variable {r : Renderer}

/-- **In memory** a class whose target no other class has gets the answer to its own
    rendering. -/
theorem attempts_of_nodup (hkeys : (classes.map fun c => (config.target c).key).Nodup) :
    attempts pool config (Memory.emitter r) {} classes =
      classes.map fun c => ⟨c, (pool.rendering config r c).map fun _ => ()⟩ := by
  apply attempts_eq_map
  intro a ha
  obtain ⟨before, after, hsplit⟩ := List.append_of_mem ha
  -- no class in front has the target
  have hfree : ∀ b ∈ before.map (·.cls), (config.target b).key = (config.target a.cls).key →
      ¬pool.Renders config r b := by
    intro b hb hkey
    have hclasses : classes = (before ++ a :: after).map (·.cls) := by
      rw [← hsplit, map_cls_attempts]
    rw [hclasses, List.map_append, List.map_append, List.nodup_append] at hkeys
    exact absurd hkey (hkeys.2.2 _ (List.mem_map_of_mem hb) _ List.mem_cons_self)
  exact (answer_of_attempts hsplit).trans ((answer_in_memory _ _).2 hfree)

/-- **Memory keeps what can be rendered** of classes of different targets. -/
theorem artifacts_of_nodup (hkeys : (classes.map fun c => (config.target c).key).Nodup) :
    ((Memory.emitter r).play {} (writes (pool.requests config classes))).artifacts =
      classes.filterMap fun c => (r.artifact (config.target c) (pool.tree c)).toOption := by
  rw [artifacts_play_requests]
  refine keepFirst_filterMap ?_ hkeys
  intro c a hmade
  obtain ⟨source, -, rfl⟩ := artifact_eq_ok_iff.1 (toOption_eq_some.1 hmade)
  rfl

/-- **A directory records what can be rendered** of classes of different targets in sound
    packages, if the disk allows it. -/
theorem written_of_nodup {out : OutputDirectory} {disk : Disk}
    (hkeys : (classes.map fun c => (config.target c).key).Nodup)
    (hdisk : DiskAllows (out.emitter.emissions { disk } (writes (pool.requests config classes)))) :
    (out.play { disk } (writes (pool.requests config classes))).written =
      classes.filterMap fun c => (out.entry (config.target c) (pool.tree c)).toOption := by
  rw [OutputDirectory.written_play_of_diskAllows hdisk, filterMap_offer?]
  refine keepFirst_filterMap ?_ hkeys
  intro c w hmade
  exact OutputDirectory.key_of_entry (toOption_eq_some.1 hmade)

end Targets

/-! ## Runs for the same classes -/

namespace SameClasses

theorem rendering_eq (h : SameClasses pool pool') (config : GenerateConfig) (r : Renderer) :
    pool.rendering config r = pool'.rendering config r := by
  funext c
  rw [rendering, rendering, h.tree_eq]

/-- **The answers of memory** are the same for each class. -/
theorem attempts_perm (h : SameClasses pool pool') (config : GenerateConfig) (r : Renderer) :
    (attempts pool config (Memory.emitter r) {} pool.project).Perm
      (attempts pool' config (Memory.emitter r) {} pool'.project) := by
  rw [attempts_of_nodup (h.nodup_keys config), attempts_of_nodup (h.symm.nodup_keys config),
    h.rendering_eq]
  exact h.project_perm.map _

/-- **What memory keeps** is the same. -/
theorem artifacts_perm (h : SameClasses pool pool') (config : GenerateConfig) (r : Renderer) :
    ((Memory.emitter r).play {} (writes (pool.requests config pool.project))).artifacts.Perm
      ((Memory.emitter r).play {} (writes (pool'.requests config pool'.project))).artifacts := by
  rw [artifacts_of_nodup (h.nodup_keys config), artifacts_of_nodup (h.symm.nodup_keys config),
    h.tree_eq]
  exact h.project_perm.filterMap _

/-- **What a directory records** is the same, if the disk allows it. -/
theorem written_perm (h : SameClasses pool pool') (config : GenerateConfig)
    {out : OutputDirectory} {disk disk' : Disk}
    (hdisk : DiskAllows
      (out.emitter.emissions { disk } (writes (pool.requests config pool.project))))
    (hdisk' : DiskAllows
      (out.emitter.emissions { disk := disk' } (writes (pool'.requests config pool'.project)))) :
    (out.play { disk } (writes (pool.requests config pool.project))).written.Perm
      (out.play { disk := disk' } (writes (pool'.requests config pool'.project))).written := by
  rw [written_of_nodup (h.nodup_keys config) hdisk,
    written_of_nodup (h.symm.nodup_keys config) hdisk', h.tree_eq]
  exact h.project_perm.filterMap _

end SameClasses

/-- **A run into a directory** that goes on after failures records what its requests record, and
    its failures are those of the requests. -/
theorem generate_into_directory (pool : ClassPool) (out : OutputDirectory) (disk : Disk)
    (hsoft : config.failFast = false) :
    (pool.generate config out.emitter { disk }).state =
        (out.finish (out.play { disk } (writes (pool.requests config pool.project)))).state ∧
      (pool.generate config out.emitter { disk }).report.failures =
        (attempts pool config out.emitter { disk } pool.project).filterMap Attempt.failure? ∧
      (pool.generate config out.emitter { disk }).report.finishError =
        (out.finish (out.play { disk } (writes (pool.requests config pool.project)))).error? := by
  obtain ⟨hstate, hreport⟩ := runClasses_of_failSoft pool out.emitter hsoft { disk } pool.project
  rw [OutputDirectory.play_emitter] at hstate hreport
  rw [generate, hstate, hreport]
  exact ⟨rfl, rfl, rfl⟩

/-- **The order of classes makes no difference** where names are unique. Two runs that go on
    after failures, for the same classes in any two orders, emit the same targets into empty
    memory, with the same source for each, report the same failures, and succeed both or not at
    all. Into one directory, unless a write fails for the disk, they come to the same index, or
    to the same error for it. If it can be written in both, both index files hold the same. -/
theorem order_makes_no_difference (pool pool' : ClassPool) (config : GenerateConfig)
    (hsame : SameClasses pool pool') (hsoft : config.failFast = false) :
    (∀ r : Renderer,
      let run := pool.generate config (Memory.emitter r) {}
      let run' := pool'.generate config (Memory.emitter r) {}
      run.report.emitted.Perm run'.report.emitted ∧
      (∀ package typeName, run.state.get? package typeName = run'.state.get? package typeName) ∧
      run.report.failures.Perm run'.report.failures ∧
      run.report.isSuccess = run'.report.isSuccess) ∧
    (∀ (out : OutputDirectory) (disk disk' : Disk),
      let run := pool.generate config out.emitter { disk }
      let run' := pool'.generate config out.emitter { disk := disk' }
      (∀ failure ∈ run.report.failures ++ run'.report.failures,
        ∀ path fault, failure.error ≠ .io path fault) →
      indexText run.state.written = indexText run'.state.written ∧
      (run.report.finishError = none → run'.report.finishError = none →
        run.state.disk.readText out.indexPath = run'.state.disk.readText out.indexPath)) := by
  constructor
  · intro r run run'
    obtain ⟨hstate, hreport⟩ := generate_in_memory pool r hsoft
    obtain ⟨hstate', hreport'⟩ := generate_in_memory pool' r hsoft
    -- the same classes were attempted with the same answers, in another order
    have hattempts := hsame.attempts_perm config r
    have hfailures : run.report.failures.Perm run'.report.failures := by
      rw [hreport, hreport']
      exact hattempts.filterMap _
    refine ⟨?_, ?_, hfailures, ?_⟩
    · rw [hreport, hreport']
      exact hattempts.filterMap _
    · intro package typeName
      rw [hstate, hstate', Memory.get?_eq_find?, Memory.get?_eq_find?]
      apply find?_of_perm (hsame.artifacts_perm config r)
      rw [artifacts_play_requests]
      exact nodup_keepFirst List.nodup_nil
    · rw [Report.isSuccess, Report.isSuccess, hfailures.isEmpty_eq, hreport, hreport']
  · intro out disk disk' run run' hdisk
    obtain ⟨hstate, hfailures, hend⟩ := generate_into_directory pool out disk hsoft
    obtain ⟨hstate', hfailures', hend'⟩ := generate_into_directory pool' out disk' hsoft
    -- without failures of the disk, both runs record what the requests ask for
    have hallows := diskAllows_of_failures fun failure hfailure =>
      hdisk failure (List.mem_append_left _ (hfailures ▸ hfailure))
    have hallows' := diskAllows_of_failures fun failure hfailure =>
      hdisk failure (List.mem_append_right _ (hfailures' ▸ hfailure))
    have hwritten := hsame.written_perm config hallows hallows'
    -- the index is sorted, so it depends on what is recorded only
    have hindex := indexText_congr (fun w => hwritten.mem_iff)
      (OutputDirectory.nodup_keys_play List.nodup_nil)
      (OutputDirectory.nodup_keys_play List.nodup_nil)
    constructor
    · rw [hstate, hstate', OutputDirectory.written_finish, OutputDirectory.written_finish, hindex]
    · intro hnone hnone'
      have hok := Emission.error?_eq_none.1 (hend.symm.trans hnone)
      have hok' := Emission.error?_eq_none.1 (hend'.symm.trans hnone')
      obtain ⟨text, htext, hread⟩ := OutputDirectory.readText_finish hok
      obtain ⟨text', htext', hread'⟩ := OutputDirectory.readText_finish hok'
      obtain rfl : text = text' := Except.ok.inj (htext.symm.trans (hindex.trans htext'))
      rw [hstate, hstate', hread, hread']

/-! ## Two classes in either order -/

/-- A class that can be rendered, in front of one that cannot. -/
def dogFirst : ClassPool := .ofList [.make "" "Dog", ambiguous]

/-- The class that cannot be rendered, in front of the other one. -/
def dogLast : ClassPool := .ofList [ambiguous, .make "" "Dog"]

theorem project_dogFirst : dogFirst.project = [.make "" "Dog", ambiguous] := by
  simp [dogFirst, project, ambiguous, ModelClass.make, ModelClass.scalar]

theorem sameClasses_dog : SameClasses dogFirst dogLast where
  perm := by
    rw [dogFirst, dogLast, toList_ofList, toList_ofList]
    exact .swap _ _ _
  qualified := by
    rw [dogFirst, toList_ofList]
    decide
  names := by
    rw [project_dogFirst]
    decide

/-- The class that cannot be rendered is refused, as long as its target is new. -/
theorem write_ambiguous (pool : ClassPool) (o : Output)
    (h : ("", "AFields") ∉ o.written.map Written.key) :
    (outAt "fieldpaths.rs").write o (GenerateConfig.target {} ambiguous) (pool.tree ambiguous) =
      .refused o (.duplicateName ["AFields"] "X") := by
  apply OutputDirectory.write_of_entry_error h
  exact bind_eq_error.2 (.inr ⟨[], rfl, bind_eq_error.2 (.inl (rendering_ambiguous pool))⟩)

theorem write_dog (pool : ClassPool) : ∃ source,
    (outAt "fieldpaths.rs").write { disk := ⟨[], []⟩ } (GenerateConfig.target {} (.make "" "Dog"))
        (pool.tree (.make "" "Dog")) =
      .done ⟨storedDog source, [⟨"", "DogFields", "/out/DogFields.rs"⟩]⟩
        [.wroteArtifact "/out/DogFields.rs"] := by
  have htree : pool.tree (.make "" "Dog") = [] := by simp [tree, ModelClass.make]
  rw [htree]
  exact write_onlyDog "fieldpaths.rs"

theorem failures_dogFirst : (dogFirst.generate {} (outAt "fieldpaths.rs").emitter
    { disk := ⟨[], []⟩ }).report.failures = [⟨"A", .duplicateName ["AFields"] "X"⟩] := by
  obtain ⟨source, hdog⟩ := write_dog dogFirst
  have hnew : ("", "AFields") ∉
      [(⟨"", "DogFields", "/out/DogFields.rs"⟩ : Written)].map Written.key := by decide
  have hrefused := write_ambiguous dogFirst ⟨storedDog source, _⟩ hnew
  rw [(generate_into_directory dogFirst _ _ rfl).2.1, project_dogFirst]
  simp only [attempts, OutputDirectory.emitter, hdog, Emission.done, hrefused, Emission.refused]
  rfl

theorem failures_dogLast : (dogLast.generate {} (outAt "fieldpaths.rs").emitter
    { disk := ⟨[], []⟩ }).report.failures = [⟨"A", .duplicateName ["AFields"] "X"⟩] := by
  have hproject : dogLast.project = [ambiguous, .make "" "Dog"] := by
    simp [dogLast, project, ambiguous, ModelClass.make, ModelClass.scalar]
  obtain ⟨source, hdog⟩ := write_dog dogLast
  have hrefused := write_ambiguous dogLast { disk := ⟨[], []⟩ } List.not_mem_nil
  rw [(generate_into_directory dogLast _ _ rfl).2.1, hproject]
  simp only [attempts, OutputDirectory.emitter, hrefused, Emission.refused, hdog, Emission.done]
  rfl

/-- **Either order** gives the same failure and the same index. -/
theorem dog_first_or_last : SameClasses dogFirst dogLast ∧ GenerateConfig.failFast {} = false ∧
    (dogFirst.generate {} (Memory.emitter {}) {}).report.emitted.Perm
      (dogLast.generate {} (Memory.emitter {}) {}).report.emitted ∧
    let run := dogFirst.generate {} (outAt "fieldpaths.rs").emitter { disk := ⟨[], []⟩ }
    let run' := dogLast.generate {} (outAt "fieldpaths.rs").emitter { disk := ⟨[], []⟩ }
    run.report.failures = [⟨"A", .duplicateName ["AFields"] "X"⟩] ∧
      run'.report.failures = [⟨"A", .duplicateName ["AFields"] "X"⟩] ∧
      indexText run.state.written = indexText run'.state.written := by
  obtain ⟨hmemory, hdirectory⟩ := order_makes_no_difference dogFirst dogLast {} sameClasses_dog rfl
  obtain ⟨hemitted, -⟩ := hmemory {}
  refine ⟨sameClasses_dog, rfl, hemitted, failures_dogFirst, failures_dogLast,
    (hdirectory _ _ _ ?_).1⟩
  intro failure hfailure path fault hio
  rw [failures_dogFirst, failures_dogLast] at hfailure
  rcases List.mem_pair.1 hfailure with rfl | rfl
  · cases hio
  · cases hio

end ClassPool

end QueryPaths
