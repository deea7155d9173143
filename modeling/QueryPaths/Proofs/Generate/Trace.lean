import Mathlib.Algebra.GroupWithZero.Nat
import QueryPaths.Emit.Memory
import QueryPaths.Proofs.Generate.Account
import QueryPaths.Proofs.Path.Subtree
import QueryPaths.Proofs.Path.Trail

/-! # What the trace of a run tells

    A run reports what it does while it builds a tree, and whether the artifact of each class
    could be emitted. With an emitter that reports nothing itself, the trace tells exactly what
    was built: every node of the trees of the attempted classes, in order, why links were not
    expanded, and all that is in the report.

    * **`Emitter.Silent`**: emitters that report nothing.
    * **`leavesTold`**: the leaves of a trace, each with what is said of links right before it.
    * **`ClassPool.filterMap_leafPath?_treeEvents`**, **`ClassPool.filterMap_lead?_treeEvents`**,
      **`ClassPool.leavesTold_trail`**: what the events of one tree tell.
    * **`ClassPool.TellsTrees`**, **`ClassPool.Tells`**: what a trace tells of some classes, and
      of a report.
    * **`ClassPool.tells_runClasses`**: the trace of a run tells of the classes that were
      attempted.
    * **`ClassPool.generate_tells`**: the same for the project classes of a pool.
-/

namespace QueryPaths

/-! ## Parts of a trace -/

/-- **An emitter that reports nothing.** -/
structure Emitter.Silent {σ : Type} (emitter : Emitter σ) : Prop where
  /-- Not when an artifact is to be emitted, -/
  write : ∀ s target tree, (emitter.write s target tree).events = []
  /-- and not at the end. -/
  finish : ∀ s, (emitter.finish s).events = []

namespace Event

/-- The path of a leaf, if the event is that one was generated. -/
def leafPath? : Event → Option String
  | generateLeaf path => some path
  | _ => none

/-- The path below which a class is entered, if the event is that. -/
def lead? : Event → Option String
  | enterClass _ _ lead => some lead
  | _ => none

/-- Does the event say why a link is not expanded? -/
def isReason : Event → Bool
  | unresolvedLink .. | cyclicLink .. => true
  | _ => false

/-- The package and the type name of an artifact, if the event is that it was emitted. -/
def artifact? : Event → Option (String × String)
  | generated package typeName _ => some (package, typeName)
  | _ => none

/-- A reason is no leaf, and no class is entered. It is of the lowest level. -/
theorem of_isReason {e : Event} (h : e.isReason = true) :
    e.leafPath? = none ∧ e.lead? = none ∧ e.level = .debug := by
  cases e <;> simp_all [isReason, leafPath?, lead?, level]

theorem of_level {e : Event} (h : e.level ≠ .debug) :
    e.leafPath? = none ∧ e.lead? = none ∧ e.isReason = false := by
  cases e <;> simp_all [isReason, leafPath?, lead?, level]

end Event

/-- **The leaves that a trace tells of**, each with the reasons right before it. The reasons
    that come right before the trace are given. -/
def leavesTold (before : List Event) : List Event → List (List Event × String)
  | [] => []
  | e :: rest =>
    match e.leafPath? with
    | some path => (before, path) :: leavesTold [] rest
    | none => leavesTold (if e.isReason then before ++ [e] else []) rest

namespace PathNode

/-- **The paths of all leaves** of some trees, depth first. -/
def leafPaths (nodes : List PathNode) : List String :=
  ((preorder nodes).filter (!·.isBranch)).map path

/-- **The own paths of all branches** of some trees, depth first. -/
def branchPaths (nodes : List PathNode) : List String :=
  ((preorder nodes).filter (·.isBranch)).map path

end PathNode

namespace Report

theorem attempted_addEmitted (report : Report) (package typeName : String) :
    (report.addEmitted package typeName).attempted = report.attempted + 1 := by
  simp only [attempted, addEmitted, List.length_cons]
  omega

theorem attempted_addFailure (report : Report) (cls : String) (e : EmitError) :
    (report.addFailure cls e).attempted = report.attempted + 1 := by
  simp only [attempted, addFailure, List.length_cons]
  omega

end Report

namespace ClassPool

open PathNode (leafPaths branchPaths preorder)

variable {pool : ClassPool} {classes : List ModelClass} {report : Report} {events : List Event}
  {c : ModelClass}

/-! ## What the trace of a tree tells -/

/-- The leaf that is at a node, with the reasons to be told before it. -/
def leafNote? (pool : ClassPool) : Stop × PathNode → Option (List Event × String)
  | (stop, .leaf _ path) => some (pool.linkReasons stop, path)
  | (_, .branch ..) => none

/-- What is said of a link is one reason, or nothing. -/
theorem linkReasons_cases (pool : ClassPool) (stop : Stop) :
    pool.linkReasons stop = [] ∨ ∃ e : Event, pool.linkReasons stop = [e] ∧ e.isReason = true := by
  unfold linkReasons
  split
  · exact .inl rfl
  · split
    · exact .inr ⟨_, rfl, rfl⟩
    · exact .inr ⟨_, rfl, rfl⟩

theorem filterMap_linkReasons {α : Type} {f : Event → Option α}
    (h : ∀ e, e.isReason = true → f e = none) (stop : Stop) :
    (pool.linkReasons stop).filterMap f = [] := by
  rcases pool.linkReasons_cases stop with hnone | ⟨e, hone, hreason⟩
  · rw [hnone, List.filterMap_nil]
  · rw [hone, List.filterMap_cons_none (h e hreason), List.filterMap_nil]

theorem level_of_mem_reports {v : Stop × PathNode} {e : Event} (h : e ∈ pool.reports v) :
    e.level = .debug := by
  obtain ⟨stop, node⟩ := v
  -- a leaf is reported after the reason for it, a branch by its class
  cases node with
  | leaf name path =>
    rcases List.mem_append.1 h with hmem | hmem
    · rcases pool.linkReasons_cases stop with hnone | ⟨d, hone, hreason⟩
      · rw [hnone] at hmem
        cases hmem
      · rw [hone] at hmem
        rw [List.mem_singleton.1 hmem]
        exact (Event.of_isReason hreason).2.2
    · rw [List.mem_singleton.1 hmem]
      rfl
  | branch name path children =>
    obtain ⟨d, -, rfl⟩ := List.mem_map.1 h
    rfl

theorem level_of_mem_treeEvents {e : Event} (h : e ∈ pool.treeEvents c) : e.level = .debug := by
  rw [treeEvents_eq_trail] at h
  rcases List.mem_cons.1 h with rfl | hbelow
  · rfl
  · obtain ⟨v, -, hv⟩ := List.mem_flatMap.1 hbelow
    exact level_of_mem_reports hv

/-- **Each leaf of a trail is told with its own reasons.** -/
theorem leavesTold_trail (trail : List (Stop × PathNode)) (rest : List Event) :
    leavesTold [] (trail.flatMap pool.reports ++ rest) =
      trail.filterMap pool.leafNote? ++ leavesTold [] rest := by
  induction trail with
  | nil => rfl
  | cons v trail ih =>
    obtain ⟨stop, node⟩ := v
    rw [List.flatMap_cons, List.append_assoc]
    cases node with
    | leaf name path =>
      have hnote : pool.leafNote? (stop, .leaf name path) =
          some (pool.linkReasons stop, path) := rfl
      rw [List.filterMap_cons_some hnote, List.cons_append, ← ih]
      show leavesTold [] (pool.linkReasons stop ++ [.generateLeaf path] ++ _) = _
      -- there is one reason or none
      rcases pool.linkReasons_cases stop with hnone | ⟨e, hone, hreason⟩
      · rw [hnone]
        rfl
      · have hleaf := (Event.of_isReason hreason).1
        have hpath : Event.leafPath? (.generateLeaf path) = some path := rfl
        simp [hone, leavesTold, hleaf, hreason, hpath]
    | branch name path children =>
      rw [List.filterMap_cons_none rfl, ← ih]
      show leavesTold [] ((pool.target? stop.field).toList.map _ ++ _) = _
      cases pool.target? stop.field with
      | none => rfl
      | some d => rfl

/-- The leaves that are generated for a trail are those of its nodes. -/
theorem filterMap_leafPath?_trail (trail : List (Stop × PathNode)) :
    (trail.flatMap pool.reports).filterMap Event.leafPath? =
      ((trail.map (·.2)).filter (!·.isBranch)).map PathNode.path := by
  induction trail with
  | nil => rfl
  | cons v trail ih =>
    obtain ⟨stop, node⟩ := v
    rw [List.flatMap_cons, List.filterMap_append, ih, List.map_cons]
    cases node with
    | leaf name path =>
      have hreasons : (pool.linkReasons stop).filterMap Event.leafPath? = [] :=
        filterMap_linkReasons (fun e he => (Event.of_isReason he).1) stop
      simp [reports, hreasons, Event.leafPath?, PathNode.isBranch, PathNode.path]
    | branch name path children =>
      cases htarget : pool.target? stop.field with
      | none => simp [reports, htarget, PathNode.isBranch]
      | some d => simp [reports, htarget, Event.leafPath?, PathNode.isBranch]

/-- The classes that are entered for a trail are entered below the paths of its branches. -/
theorem filterMap_lead?_trail {trail : List (Stop × PathNode)}
    (h : ∀ v ∈ trail, pool.BuiltFor v.1 v.2) :
    (trail.flatMap pool.reports).filterMap Event.lead? =
      ((trail.map (·.2)).filter (·.isBranch)).map (·.path ++ ".") := by
  induction trail with
  | nil => rfl
  | cons v trail ih =>
    obtain ⟨hv, htrail⟩ := List.forall_mem_cons.1 h
    obtain ⟨stop, node⟩ := v
    rw [List.flatMap_cons, List.filterMap_append, ih htrail, List.map_cons]
    cases node with
    | leaf name path =>
      have hreasons : (pool.linkReasons stop).filterMap Event.lead? = [] :=
        filterMap_linkReasons (fun e he => (Event.of_isReason he).2.1) stop
      simp [reports, hreasons, Event.lead?, PathNode.isBranch]
    | branch name path children =>
      obtain ⟨d, htarget⟩ := hv.exists_target rfl
      simp [reports, htarget, Event.lead?, PathNode.isBranch, PathNode.path]

theorem map_node_treeTrail (pool : ClassPool) (c : ModelClass) :
    (pool.treeTrail c).map (·.2) = preorder (pool.tree c) :=
  pool.map_node_trail c _ _ _

/-- **The leaves that are generated for a class** are those of its tree. -/
theorem filterMap_leafPath?_treeEvents (pool : ClassPool) (c : ModelClass) :
    (pool.treeEvents c).filterMap Event.leafPath? = leafPaths (pool.tree c) := by
  rw [treeEvents_eq_trail, List.filterMap_cons_none rfl, filterMap_leafPath?_trail,
    map_node_treeTrail, leafPaths]

/-- **The classes that are entered for a class** are itself, and one for each branch of its tree. -/
theorem filterMap_lead?_treeEvents (pool : ClassPool) (c : ModelClass) :
    (pool.treeEvents c).filterMap Event.lead? =
      "" :: (branchPaths (pool.tree c)).map (· ++ ".") := by
  have hroot : Event.lead? (.enterClass c.qualified c.fields.length "") = some "" := rfl
  rw [treeEvents_eq_trail, List.filterMap_cons_some hroot,
    filterMap_lead?_trail builtFor_of_mem_treeTrail, map_node_treeTrail, branchPaths, List.map_map]
  rfl

/-! ## What a trace tells of classes -/

/-- **A trace tells of the trees of some classes**, one after the other. -/
structure TellsTrees (pool : ClassPool) (classes : List ModelClass) (events : List Event) :
    Prop where
  /-- The leaves that are generated are those of the trees. -/
  leaves : events.filterMap Event.leafPath? = classes.flatMap fun c => leafPaths (pool.tree c)
  /-- Classes are entered at the root of each tree, and below each of its branches. -/
  entered : events.filterMap Event.lead? =
    classes.flatMap fun c => "" :: (branchPaths (pool.tree c)).map (· ++ ".")
  /-- What is said right before a leaf is why the link of its field is not expanded. -/
  reasons : leavesTold [] events =
    classes.flatMap fun c => (pool.treeTrail c).filterMap pool.leafNote?

/-- **Nothing of higher level tells of trees.** -/
theorem TellsTrees.raise (h : pool.TellsTrees classes events) {e : Event} (he : e.level ≠ .debug) :
    pool.TellsTrees classes (e :: events) := by
  obtain ⟨hleaf, hlead, hreason⟩ := Event.of_level he
  refine ⟨?_, ?_, ?_⟩
  · rw [List.filterMap_cons_none hleaf, h.leaves]
  · rw [List.filterMap_cons_none hlead, h.entered]
  · rw [leavesTold, hleaf, ← h.reasons]
    simp [hreason]

/-- **The tree of one more class** is told first. -/
theorem TellsTrees.build (h : pool.TellsTrees classes events) (c : ModelClass) :
    pool.TellsTrees (c :: classes) (pool.treeEvents c ++ events) where
  leaves := by
    rw [List.filterMap_append, filterMap_leafPath?_treeEvents, h.leaves, List.flatMap_cons]
  entered := by
    rw [List.filterMap_append, filterMap_lead?_treeEvents, h.entered, List.flatMap_cons]
  reasons := by
    rw [treeEvents_eq_trail, List.cons_append, List.flatMap_cons, ← h.reasons, treeTrail,
      ← leavesTold_trail]
    rfl

/-- **A trace tells exactly what was built**: the trees of the classes, and the report. -/
structure Tells (pool : ClassPool) (classes : List ModelClass) (report : Report)
    (events : List Event) : Prop extends pool.TellsTrees classes events where
  /-- The infos are the emitted artifacts. -/
  infos : (events.filter (·.level = .info)).map Event.artifact? = report.emitted.map some
  /-- The errors are the failed classes, and then the end if it failed. -/
  errors : events.filter (·.level = .error) =
    (report.failures.map fun f => .classFailed f.cls f.error) ++
      report.finishError.toList.map .finishFailed

theorem filter_level_treeEvents (pool : ClassPool) (c : ModelClass) {level : Level}
    (h : level ≠ .debug) : (pool.treeEvents c).filter (·.level = level) = [] := by
  rw [List.filter_eq_nil_iff]
  intro e he
  rw [level_of_mem_treeEvents he]
  simpa using h.symm

theorem Tells.emit (h : pool.Tells classes report events) (c : ModelClass)
    (package typeName : String) (nodes : Nat) :
    pool.Tells (c :: classes) (report.addEmitted package typeName)
      (pool.treeEvents c ++ .generated package typeName nodes :: events) where
  toTellsTrees := (h.toTellsTrees.raise (by simp [Event.level])).build c
  infos := by
    rw [List.filter_append, filter_level_treeEvents pool c (by decide), List.nil_append,
      List.filter_cons_of_pos rfl, List.map_cons, h.infos]
    rfl
  errors := by
    rw [List.filter_append, filter_level_treeEvents pool c (by decide), List.nil_append,
      List.filter_cons_of_neg (by simp [Event.level]), h.errors]
    rfl

theorem Tells.fail (h : pool.Tells classes report events) (c : ModelClass) (e : EmitError) :
    pool.Tells (c :: classes) (report.addFailure c.qualified e)
      (pool.treeEvents c ++ .classFailed c.qualified e :: events) where
  toTellsTrees := (h.toTellsTrees.raise (by simp [Event.level])).build c
  infos := by
    rw [List.filter_append, filter_level_treeEvents pool c (by decide), List.nil_append,
      List.filter_cons_of_neg (by simp [Event.level]), h.infos]
    rfl
  errors := by
    rw [List.filter_append, filter_level_treeEvents pool c (by decide), List.nil_append,
      List.filter_cons_of_pos rfl, h.errors]
    rfl

/-- Nothing is told where nothing was attempted and nothing failed. -/
theorem Tells.stop (pool : ClassPool) (skipped : Nat) : pool.Tells [] { skipped } [] :=
  ⟨⟨rfl, rfl, rfl⟩, rfl, rfl⟩

theorem Tells.finish {σ : Type} {emitter : Emitter σ} (pool : ClassPool) (hsilent : emitter.Silent)
    (s : σ) :
    pool.Tells [] (runFinish emitter s).report (runFinish emitter s).events := by
  have hevents := hsilent.finish s
  unfold runFinish
  cases hresult : (emitter.finish s).result with
  | ok _ =>
    simp only [hresult, hevents]
    exact .stop pool 0
  | error e =>
    simp only [hresult, hevents]
    exact ⟨⟨rfl, rfl, rfl⟩, rfl, rfl⟩

/-! ## What the trace of a run tells -/

/-- **The trace of a run tells of the classes that were attempted**, and of its report. -/
theorem tells_runClasses {σ : Type} {emitter : Emitter σ} (pool : ClassPool)
    (config : GenerateConfig) (hsilent : emitter.Silent) (s : σ) (todo : List ModelClass) :
    pool.Tells (todo.take (runClasses pool config emitter s todo).report.attempted)
      (runClasses pool config emitter s todo).report
      (runClasses pool config emitter s todo).events := by
  induction todo generalizing s with
  | nil =>
    rw [List.take_nil]
    exact .finish pool hsilent s
  | cons c rest ih =>
    have hafter := ih (emitter.write s (config.target c) (pool.tree c)).state
    have hevents := hsilent.write s (config.target c) (pool.tree c)
    -- the emitter reports nothing, so the events are those of the run
    simp only [runClasses, hevents, List.append_nil]
    cases (emitter.write s (config.target c) (pool.tree c)).result with
    | ok _ =>
      simp only
      rw [Report.attempted_addEmitted, List.take_succ_cons]
      exact hafter.emit c ..
    | error e =>
      cases config.failFast with
      | true => exact (Tells.stop pool rest.length).fail c e
      | false =>
        simp only [Bool.false_eq_true, if_false]
        rw [Report.attempted_addFailure, List.take_succ_cons]
        exact hafter.fail c e

/-- **The trace tells exactly what was built.** With any emitter that reports nothing itself, the
    project classes are attempted in order, as many as the report says, and the trace tells of
    their trees and of the report. The leaves that are generated are those of the trees, depth
    first and class by class. A class is entered with an empty path at the root of each tree, and
    for each branch below its own path with a dot behind it, in order; so as many are entered as
    there are trees and branches. Right before a leaf whose field has a link one reason is told,
    that the link does not resolve exactly if the pool does not have its target, and before the
    leaf of a scalar field none. The infos are the emitted artifacts in order, and the errors are
    the failed classes, and the failed end if there is one. -/
theorem generate_tells {σ : Type} {emitter : Emitter σ} (pool : ClassPool)
    (config : GenerateConfig) (hsilent : emitter.Silent) (start : σ) :
    let run := pool.generate config emitter start
    let attempted := pool.project.take run.report.attempted
    pool.Tells attempted run.report run.events ∧
      (run.events.filterMap Event.lead?).length =
        (attempted.map fun c => 1 + (branchPaths (pool.tree c)).length).sum ∧
      ∀ c ∈ attempted, (pool.treeTrail c).map (·.2) = preorder (pool.tree c) ∧
        ∀ v ∈ pool.treeTrail c, pool.BuiltFor v.1 v.2 := by
  have htells := tells_runClasses pool config hsilent start pool.project
  refine ⟨htells, ?_, fun c _ => ⟨map_node_treeTrail pool c, builtFor_of_mem_treeTrail⟩⟩
  rw [ClassPool.generate, htells.entered, List.length_flatMap]
  congr 1
  refine List.map_congr_left fun c _ => ?_
  rw [List.length_cons, List.length_map, Nat.add_comm]

/-! ## The trace of a household -/

theorem silent_memory (r : Renderer) : (Memory.emitter r).Silent where
  write m target tree := by
    show (Memory.write r m target tree).events = []
    unfold Memory.write
    split
    · rfl
    · split
      · rfl
      · rfl
  finish _ := rfl

theorem project_household : household.project = [owner, hound] := by
  rw [project, household, toList_ofList]
  rfl

/-- The leaves of both trees, with the reasons to be told. -/
theorem leafNotes_household :
    (household.treeTrail owner).filterMap household.leafNote? =
      [([], "name"), ([.cyclicLink "Dog" "owner" "Owner"], "dog.owner"),
        ([.unresolvedLink "Dog" "vet" "Vet"], "dog.vet")] ∧
    (household.treeTrail hound).filterMap household.leafNote? =
      [([], "owner.name"), ([.cyclicLink "Owner" "dog" "Dog"], "owner.dog"),
        ([.unresolvedLink "Dog" "vet" "Vet"], "vet")] := by
  constructor
  · rw [treeTrail, tree_owner]
    simp [trail, nodeTrail, target?, get?_household, List.filterMap_cons, leafNote?, linkReasons,
      owner, hound, ModelClass.make, ModelClass.scalar, ModelClass.linkTo, qualify]
  · rw [treeTrail, tree_hound]
    simp [trail, nodeTrail, target?, get?_household, List.filterMap_cons, leafNote?, linkReasons,
      owner, hound, ModelClass.make, ModelClass.scalar, ModelClass.linkTo, qualify]

/-- **A trace of two trees**: in the owner's tree the owner is not entered again below the dog, and
    the dog not below the owner in its own. -/
theorem household_told :
    (Memory.emitter {}).Silent ∧
    let run := household.generate {} (Memory.emitter {}) {}
    run.report.attempted = 2 ∧
    run.events.filterMap Event.leafPath? =
      ["name", "dog.owner", "dog.vet", "owner.name", "owner.dog", "vet"] ∧
    run.events.filterMap Event.lead? = ["", "dog.", "", "owner."] ∧
    leavesTold [] run.events =
      [([], "name"), ([.cyclicLink "Dog" "owner" "Owner"], "dog.owner"),
        ([.unresolvedLink "Dog" "vet" "Vet"], "dog.vet"), ([], "owner.name"),
        ([.cyclicLink "Owner" "dog" "Dog"], "owner.dog"),
        ([.unresolvedLink "Dog" "vet" "Vet"], "vet")] ∧
    (run.events.filter (·.level = .info)).map Event.artifact? = run.report.emitted.map some := by
  obtain ⟨account, hsettles, -⟩ :=
    exists_account_runClasses household {} (Memory.emitter {}) {} [] household.project
  have hattempted : (household.generate {} (Memory.emitter {}) {}).report.attempted = 2 := by
    -- nothing is skipped, so all classes are attempted
    have htotal := hsettles.total
    have hskipped := (hsettles.failSoft rfl).2.1
    rw [project_household, List.length_cons, List.length_cons, List.length_nil] at htotal
    rw [project_household] at hskipped
    rw [generate, project_household, Report.attempted]
    omega
  obtain ⟨htells, -⟩ := generate_tells household {} (silent_memory {}) {}
  refine ⟨silent_memory {}, hattempted, ?_, ?_, ?_, htells.infos⟩
  · rw [htells.leaves, hattempted, project_household]
    simp [leafPaths, tree_owner, tree_hound, PathNode.isBranch, PathNode.path, PathNode.children]
  · rw [htells.entered, hattempted, project_household]
    simp [branchPaths, tree_owner, tree_hound, PathNode.isBranch, PathNode.path, PathNode.children]
  · rw [htells.reasons, hattempted, project_household]
    simp [leafNotes_household]

end ClassPool

end QueryPaths
