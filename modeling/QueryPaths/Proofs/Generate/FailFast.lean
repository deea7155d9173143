import QueryPaths.Proofs.Generate.Success

/-! # Runs that stop at the first failure

    A run that stops at the first failure does what the run that goes on after failures does, up
    to that failure, and nothing else. If nothing fails the two are the same.

    * **`Run.andThen`**: a run that is continued by another one.
    * **`exists_front_of_emitsAll`**: classes that are emitted are a front of every run that
      begins with them, whatever follows.
    * **`emitsAll_or_fails`**: either all classes are emitted, or there is a first one that fails.
    * **`runClasses_of_emitsAll`**, **`runClasses_of_first_failure`**: the runs in both cases.
    * **`ClassPool.failFast_cuts_failSoft`**: the two runs of a pool.
-/

namespace QueryPaths

variable {σ : Type}

/-! ## Runs in two parts -/

/-- **A run that is continued by another one.** What they emitted and what failed adds up; what
    was left out, and how it ended, is a matter of the second one. -/
def Run.andThen (first next : Run σ) : Run σ where
  report :=
    { emitted := first.report.emitted ++ next.report.emitted
      failures := first.report.failures ++ next.report.failures
      skipped := next.report.skipped
      finishError := next.report.finishError }
  state := next.state
  events := first.events ++ next.events

theorem Run.andThen_assoc (a b c : Run σ) : (a.andThen b).andThen c = a.andThen (b.andThen c) := by
  unfold andThen
  simp only [List.append_assoc]

theorem Run.isSuccess_andThen (a b : Run σ) : (a.andThen b).report.isSuccess =
    (a.report.failures.isEmpty && b.report.isSuccess) := by
  unfold andThen Report.isSuccess
  cases hfailed : a.report.failures with
  | nil => simp
  | cons failure rest => simp

variable {pool : ClassPool} {config : GenerateConfig} {emitter : Emitter σ} {s s' : σ}

/-- **Classes that are emitted** are a front of every run that begins with them. The front is the
    same whatever classes follow, and whether or not the run is to stop at failures. -/
theorem exists_front_of_emitsAll {before : List ModelClass}
    (h : EmitsAll pool config emitter s before s') :
    ∃ front : Run σ,
      front.report = { emitted := before.map fun c => (c.package, config.typeName c) } ∧
      ∀ failFast rest, runClasses pool { config with failFast } emitter s (before ++ rest) =
        front.andThen (runClasses pool { config with failFast } emitter s' rest) := by
  induction h with
  | nil s => exact ⟨⟨{}, s, []⟩, rfl, fun _ _ => rfl⟩
  | @cons s s' c before emits after ih =>
    obtain ⟨front, hreport, hruns⟩ := ih
    -- the first class, with its events, comes in front of the front
    let step := emitter.write s (config.target c) (pool.tree c)
    let first : Run σ :=
      { report := { emitted := [(c.package, config.typeName c)] }
        state := step.state
        events := pool.treeEvents c ++ step.events ++
          [.generated c.package (config.typeName c) (pool.tree c).length] }
    refine ⟨first.andThen front, ?_, ?_⟩
    · simp [Run.andThen, first, hreport]
    · intro failFast rest
      have htarget : GenerateConfig.target { config with failFast } c = config.target c := rfl
      rw [Run.andThen_assoc, ← hruns failFast rest, List.cons_append, runClasses, htarget, emits]
      simp [Run.andThen, first, step, Report.addEmitted, GenerateConfig.target]

/-! ## The first failure -/

/-- **Either all classes are emitted, or there is a first one that fails.** -/
theorem emitsAll_or_fails (pool : ClassPool) (config : GenerateConfig) (emitter : Emitter σ) (s : σ)
    (todo : List ModelClass) :
    (∃ s', EmitsAll pool config emitter s todo s') ∨
    ∃ before c after s' e, todo = before ++ c :: after ∧
      EmitsAll pool config emitter s before s' ∧
      (emitter.write s' (config.target c) (pool.tree c)).result = .error e := by
  induction todo generalizing s with
  | nil => exact .inl ⟨s, .nil s⟩
  | cons c rest ih =>
    cases hstep : (emitter.write s (config.target c) (pool.tree c)).result with
    | error e => exact .inr ⟨[], c, rest, s, e, rfl, .nil s, hstep⟩
    | ok _ =>
      rcases ih (emitter.write s (config.target c) (pool.tree c)).state with hall | hfails
      · obtain ⟨s', hall⟩ := hall
        exact .inl ⟨s', .cons hstep hall⟩
      · obtain ⟨before, d, after, s', e, hrest, hbefore, herror⟩ := hfails
        exact .inr ⟨c :: before, d, after, s', e, by rw [hrest, List.cons_append],
          .cons hstep hbefore, herror⟩

/-- **A run stops at a class that fails**, if it is to. -/
def Run.stopped (step : Emission σ) (events : List Event) (c : ModelClass) (e : EmitError)
    (after : List ModelClass) : Run σ where
  report := { failures := [⟨c.qualified, e⟩], skipped := after.length }
  state := step.state
  events := events ++ step.events ++ [.classFailed c.qualified e]

/-- At a class that fails one run stops, and the other one goes on from there. -/
theorem runClasses_of_fails {c : ModelClass} {e : EmitError} (after : List ModelClass)
    (h : (emitter.write s (config.target c) (pool.tree c)).result = .error e) :
    let step := emitter.write s (config.target c) (pool.tree c)
    let stopped := Run.stopped step (pool.treeEvents c) c e after
    runClasses pool { config with failFast := true } emitter s (c :: after) = stopped ∧
      runClasses pool { config with failFast := false } emitter s (c :: after) =
        stopped.andThen
          (runClasses pool { config with failFast := false } emitter step.state after) := by
  intro step stopped
  have htarget : ∀ failFast, GenerateConfig.target { config with failFast } c = config.target c :=
    fun _ => rfl
  constructor
  · rw [runClasses, htarget true, h]
    rfl
  · rw [runClasses, htarget false, h]
    simp [Run.andThen, Run.stopped, stopped, step, Report.addFailure]

/-! ## The two runs of a pool -/

/-- **Without a failure** it makes no difference whether the run is to stop at one. -/
theorem runClasses_of_emitsAll {todo : List ModelClass}
    (h : EmitsAll pool config emitter s todo s') :
    runClasses pool { config with failFast := true } emitter s todo =
        runClasses pool { config with failFast := false } emitter s todo ∧
      (runClasses pool { config with failFast := false } emitter s todo).report.failures = [] := by
  obtain ⟨front, hreport, hruns⟩ := exists_front_of_emitsAll h
  have hrun : ∀ failFast, runClasses pool { config with failFast } emitter s todo =
      front.andThen (runFinish emitter s') := by
    intro failFast
    have hfront := hruns failFast []
    rwa [List.append_nil, runClasses] at hfront
  refine ⟨(hrun true).trans (hrun false).symm, ?_⟩
  rw [hrun false, Run.andThen, hreport, failures_runFinish, List.append_nil]

/-- **At the first failure** one run ends, and the other one goes on from there. -/
theorem runClasses_of_first_failure {before after : List ModelClass} {c : ModelClass}
    {e : EmitError} (hbefore : EmitsAll pool config emitter s before s')
    (herror : (emitter.write s' (config.target c) (pool.tree c)).result = .error e) :
    let soft := runClasses pool { config with failFast := false } emitter s (before ++ c :: after)
    let fast := runClasses pool { config with failFast := true } emitter s (before ++ c :: after)
    fast.report =
        { emitted := before.map fun c => (c.package, config.typeName c)
          failures := [⟨c.qualified, e⟩]
          skipped := after.length
          finishError := none } ∧
      fast.state = (emitter.write s' (config.target c) (pool.tree c)).state ∧
      soft = fast.andThen
        (runClasses pool { config with failFast := false } emitter fast.state after) := by
  intro soft fast
  obtain ⟨front, hreport, hruns⟩ := exists_front_of_emitsAll hbefore
  obtain ⟨hstops, hgoes⟩ := runClasses_of_fails after herror
  let step := emitter.write s' (config.target c) (pool.tree c)
  -- both runs begin with the same front
  have hfast : fast = front.andThen (.stopped step (pool.treeEvents c) c e after) := by
    show runClasses pool _ emitter s (before ++ c :: after) = _
    rw [hruns true, hstops]
  have hstate : fast.state = step.state := by
    rw [hfast]
    rfl
  refine ⟨?_, hstate, ?_⟩
  · rw [hfast, Run.andThen, hreport]
    simp [Run.stopped]
  · show runClasses pool _ emitter s (before ++ c :: after) = _
    rw [hruns false, hgoes, ← Run.andThen_assoc, ← hfast, hstate]

/-- **A run that stops at the first failure is the run that goes on, cut off there.** Whatever the
    emitter is and wherever it starts: either nothing fails, and the two runs are the same in all
    respects. Or all classes in front of some class are emitted, and this one fails. Then the run
    that stops has emitted the classes in front, reports the one failure, leaves out the classes
    behind, does not come to its end, and leaves the emitter as it is after that failure. The
    other run is this one, continued from this state with the classes behind: so what one run has
    emitted, and its failure, come first in the report of the other. In either case both succeed
    or neither does. -/
theorem ClassPool.failFast_cuts_failSoft (pool : ClassPool) (config : GenerateConfig)
    (emitter : Emitter σ) (start : σ) :
    let soft := pool.generate { config with failFast := false } emitter start
    let fast := pool.generate { config with failFast := true } emitter start
    fast.report.isSuccess = soft.report.isSuccess ∧
    (soft.report.failures = [] ∧ fast = soft ∨
      ∃ before c after s e, pool.project = before ++ c :: after ∧
        EmitsAll pool config emitter start before s ∧
        (emitter.write s (config.target c) (pool.tree c)).result = .error e ∧
        fast.report =
          { emitted := before.map fun c => (c.package, config.typeName c)
            failures := [⟨c.qualified, e⟩]
            skipped := after.length
            finishError := none } ∧
        fast.state = (emitter.write s (config.target c) (pool.tree c)).state ∧
        fast.report.failures = soft.report.failures.take 1 ∧
        soft = fast.andThen
          (runClasses pool { config with failFast := false } emitter fast.state after)) := by
  intro soft fast
  rcases emitsAll_or_fails pool config emitter start pool.project with hall | hfails
  · obtain ⟨s, hall⟩ := hall
    obtain ⟨hsame, hnone⟩ := runClasses_of_emitsAll hall
    replace hsame : fast = soft := hsame
    exact ⟨by rw [hsame], .inl ⟨hnone, hsame⟩⟩
  · obtain ⟨before, c, after, s, e, hproject, hbefore, herror⟩ := hfails
    have hcut := @runClasses_of_first_failure _ _ _ _ _ _ _ after _ _ hbefore herror
    rw [← hproject] at hcut
    obtain ⟨hreport, hstate, hsoft⟩ := hcut
    replace hreport : fast.report = _ := hreport
    replace hsoft : soft = fast.andThen _ := hsoft
    -- the failure stands in both reports
    have hsuccess : fast.report.isSuccess = soft.report.isSuccess := by
      rw [hsoft, Run.isSuccess_andThen, Report.isSuccess, hreport]
      rfl
    have hfirst : fast.report.failures = soft.report.failures.take 1 := by
      rw [hsoft, Run.andThen, hreport]
      rfl
    exact ⟨hsuccess, .inr ⟨before, c, after, s, e, hproject, hbefore, herror, hreport, hstate,
      hfirst, hsoft⟩⟩

end QueryPaths
