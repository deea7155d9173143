import QueryPaths.Generate.Directory
import QueryPaths.Proofs.Except

/-! # What runs report

    A run that succeeds has emitted every class, one after the other, and its end
    has succeeded, too. Every failure that a run reports is that of a write.

    * **`EmitsAll`**: every class of a list is emitted.
    * **`emitsAll_of_isSuccess`**: a run that succeeds emits every class.
    * **`exists_write_of_failure`**: a failure in the report is that of a write.
    * **`ClassPool.generateInto_eq_ok`**: what success means for the directory
      emitter.
-/

namespace QueryPaths

/-- **Every class is emitted**, one after the other, from one state to another. -/
inductive EmitsAll {σ : Type} (pool : ClassPool) (config : GenerateConfig) (emitter : Emitter σ) :
    σ → List ModelClass → σ → Prop where
  /-- There is nothing to emit. -/
  | nil (s : σ) : EmitsAll pool config emitter s [] s
  /-- The first class is emitted, and then the others. -/
  | cons {s s' : σ} {c : ModelClass} {rest : List ModelClass}
      (emits : (emitter.write s (config.target c) (pool.tree c)).result = .ok ())
      (after : EmitsAll pool config emitter
        (emitter.write s (config.target c) (pool.tree c)).state rest s') :
      EmitsAll pool config emitter s (c :: rest) s'

variable {σ : Type} {pool : ClassPool} {config : GenerateConfig} {emitter : Emitter σ}

theorem isSuccess_runFinish {s : σ} :
    (runFinish emitter s).report.isSuccess = true ↔ (emitter.finish s).result = .ok () := by
  unfold runFinish
  cases h : (emitter.finish s).result with
  | ok _ => simp [h, Report.isSuccess]
  | error e => simp [h, Report.isSuccess]

theorem state_runFinish (s : σ) : (runFinish emitter s).state = (emitter.finish s).state := by
  unfold runFinish
  cases h : (emitter.finish s).result <;> simp [h]

theorem emitted_runFinish (s : σ) : (runFinish emitter s).report.emitted = [] := by
  unfold runFinish
  cases h : (emitter.finish s).result <;> simp [h]

/-- **A run that succeeds** emits every class and then finishes. -/
theorem emitsAll_of_isSuccess {s : σ} {classes : List ModelClass}
    (h : (runClasses pool config emitter s classes).report.isSuccess = true) :
    ∃ s', EmitsAll pool config emitter s classes s' ∧ (emitter.finish s').result = .ok () ∧
      (runClasses pool config emitter s classes).state = (emitter.finish s').state ∧
      (runClasses pool config emitter s classes).report.emitted =
        classes.map fun c => (c.package, config.typeName c) := by
  induction classes generalizing s with
  | nil =>
    rw [runClasses] at h ⊢
    exact ⟨s, .nil s, isSuccess_runFinish.1 h, state_runFinish s, emitted_runFinish s⟩
  | cons c rest ih =>
    rw [runClasses] at h ⊢
    cases hstep : (emitter.write s (config.target c) (pool.tree c)).result with
    | error e =>
      -- a failed class stays in the report, whether or not the run goes on
      exfalso
      simp only [hstep] at h
      split at h <;> simp [Report.isSuccess, Report.addFailure] at h
    | ok _ =>
      simp only [hstep] at h ⊢
      have hrest : (runClasses pool config emitter
          (emitter.write s (config.target c) (pool.tree c)).state rest).report.isSuccess = true := by
        simpa [Report.isSuccess, Report.addEmitted] using h
      obtain ⟨s', hall, hfinish, hstate, hemitted⟩ := ih hrest
      refine ⟨s', .cons hstep hall, hfinish, hstate, ?_⟩
      rw [List.map_cons, ← hemitted]
      rfl

theorem failures_runFinish (s : σ) : (runFinish emitter s).report.failures = [] := by
  unfold runFinish
  cases h : (emitter.finish s).result <;> simp [h]

/-- A write that fails at once is reported. -/
theorem mem_failures_of_write {s : σ} {c : ModelClass} {rest : List ModelClass} {e : EmitError}
    (h : (emitter.write s (config.target c) (pool.tree c)).result = .error e) :
    ⟨c.qualified, e⟩ ∈ (runClasses pool config emitter s (c :: rest)).report.failures := by
  rw [runClasses]
  simp only [h]
  split
  · exact List.mem_singleton_self _
  · exact List.mem_cons_self

/-- **Every failure in the report** is that of a write of one of the classes. -/
theorem exists_write_of_failure {s : σ} {classes : List ModelClass} {failure : ClassFailure}
    (h : failure ∈ (runClasses pool config emitter s classes).report.failures) :
    ∃ c ∈ classes, failure.cls = c.qualified ∧ ∃ s',
      (emitter.write s' (config.target c) (pool.tree c)).result = .error failure.error := by
  induction classes generalizing s with
  | nil =>
    rw [runClasses, failures_runFinish] at h
    cases h
  | cons c rest ih =>
    -- a failure of the classes that are left is known
    have hrest : failure ∈ (runClasses pool config emitter
        (emitter.write s (config.target c) (pool.tree c)).state rest).report.failures →
          ∃ c' ∈ c :: rest, failure.cls = c'.qualified ∧ ∃ s',
            (emitter.write s' (config.target c') (pool.tree c')).result = .error failure.error := by
      intro hmem
      obtain ⟨c', hc', hfails⟩ := ih hmem
      exact ⟨c', List.mem_cons_of_mem _ hc', hfails⟩
    rw [runClasses] at h
    cases hstep : (emitter.write s (config.target c) (pool.tree c)).result with
    | ok _ =>
      simp only [hstep] at h
      exact hrest h
    | error e =>
      have hfirst : failure = ⟨c.qualified, e⟩ → ∃ c' ∈ c :: rest, failure.cls = c'.qualified ∧
          ∃ s', (emitter.write s' (config.target c') (pool.tree c')).result =
            .error failure.error := by
        rintro rfl
        exact ⟨c, List.mem_cons_self, rfl, s, hstep⟩
      simp only [hstep] at h
      split at h
      · exact hfirst (List.mem_singleton.1 h)
      · rcases List.mem_cons.1 h with hmem | hmem
        · exact hfirst hmem
        · exact hrest hmem

/-- **What success means for the directory emitter.** -/
theorem ClassPool.generateInto_eq_ok {pool : ClassPool} {config : Config} {disk : Disk}
    {path : String} {out : OutputDirectory} {run : Run Output} {report : Report}
    (hrun : pool.runInto config disk path = .ok (out, run))
    (hok : (pool.generateInto config disk path).result = .ok report) :
    OutputDirectory.openAt config.emit disk path = .ok out ∧ run.report = report ∧
      run.report.emitted = pool.project.map (fun c => (c.package, config.generate.typeName c)) ∧
      ∃ o, EmitsAll pool config.generate out.emitter { disk } pool.project o ∧
        (out.finish o).result = .ok () ∧ run.state = (out.finish o).state := by
  unfold ClassPool.generateInto at hok
  simp only [hrun, Report.toResult] at hok
  split at hok
  · next hsuccess =>
    simp only [ClassPool.runInto, bind_eq_ok, pure_eq_ok, Prod.mk.injEq] at hrun
    obtain ⟨_, hopen, rfl, rfl⟩ := hrun
    obtain ⟨o, hall, hfinish, hstate, hemitted⟩ := emitsAll_of_isSuccess hsuccess
    exact ⟨hopen, Except.ok.inj hok, hemitted, o, hall, hfinish, hstate⟩
  · cases hok

end QueryPaths
