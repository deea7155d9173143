import QueryPaths.Proofs.Emit.Offers
import QueryPaths.Proofs.Generate.Account
import QueryPaths.Proofs.Generate.Success

/-! # Runs that go on after failures

    A run that goes on after failures asks its emitter for the path trees of all project classes,
    one after the other, and then for the end. What it leaves behind is what the emitter leaves
    behind after this script, and its report is read off the answers.

    * **`ClassPool.requests`**: what a run asks its emitter for.
    * **`attempts`**: the classes with the answers.
    * **`answer_of_attempts`**: each answer is the emitter's after the requests in front.
    * **`runClasses_of_failSoft`**: the report and the state of such a run.
-/

namespace QueryPaths

/-- **What a run asks for**: the path tree of each class, for its target. -/
def ClassPool.requests (pool : ClassPool) (config : GenerateConfig) (classes : List ModelClass) :
    List (Target × List PathNode) :=
  classes.map fun c => (config.target c, pool.tree c)

/-- **The attempts of a run that goes on after failures**, from a state of the emitter. -/
def attempts {σ : Type} (pool : ClassPool) (config : GenerateConfig) (emitter : Emitter σ) (s : σ) :
    List ModelClass → List Attempt
  | [] => []
  | c :: rest =>
    let step := emitter.write s (config.target c) (pool.tree c)
    ⟨c, step.result⟩ :: attempts pool config emitter step.state rest

/-- What went wrong in a step, if anything. -/
def Emission.error? {σ : Type} (e : Emission σ) : Option EmitError :=
  match e.result with
  | .ok () => none
  | .error error => some error

variable {σ : Type} {pool : ClassPool} {config : GenerateConfig} {emitter : Emitter σ} {s : σ}
  {todo : List ModelClass}

theorem Emission.error?_eq_none {e : Emission σ} : e.error? = none ↔ e.result = .ok () := by
  rw [error?]
  cases e.result with
  | ok _ => simp
  | error d => simp

theorem filterMap_offer? {α : Type} (make : Target → List PathNode → Except EmitError α)
    (classes : List ModelClass) :
    (writes (pool.requests config classes)).filterMap (Step.offer? make) =
      classes.filterMap fun c => (make (config.target c) (pool.tree c)).toOption := by
  rw [writes, ClassPool.requests, List.map_map, List.filterMap_map]
  rfl

@[simp] theorem map_cls_attempts :
    (attempts pool config emitter s todo).map (·.cls) = todo := by
  induction todo generalizing s with
  | nil => rfl
  | cons c rest ih => exact congrArg (c :: ·) ih

/-- **If each answer depends on its class alone**, the attempts are the classes with these
    answers. -/
theorem attempts_eq_map {answer : ModelClass → Except EmitError Unit}
    (h : ∀ a ∈ attempts pool config emitter s todo, a.answer = answer a.cls) :
    attempts pool config emitter s todo = todo.map fun c => ⟨c, answer c⟩ := by
  have hsame : ∀ a ∈ attempts pool config emitter s todo,
      (⟨a.cls, answer a.cls⟩ : Attempt) = a := by
    intro a ha
    rw [← h a ha]
  calc attempts pool config emitter s todo
      = (attempts pool config emitter s todo).map fun a => ⟨a.cls, answer a.cls⟩ := by
        rw [List.map_congr_left hsame, List.map_id']
    _ = ((attempts pool config emitter s todo).map (·.cls)).map fun c => ⟨c, answer c⟩ := by
        rw [List.map_map]
        rfl
    _ = todo.map fun c => ⟨c, answer c⟩ := by rw [map_cls_attempts]

/-- **The answers** are those of the script of requests. -/
theorem map_answer_attempts : (attempts pool config emitter s todo).map (·.answer) =
    (emitter.emissions s (writes (pool.requests config todo))).map (·.result) := by
  induction todo generalizing s with
  | nil => rfl
  | cons c rest ih => exact congrArg (_ :: ·) ih

/-- **Each answer** is what the emitter comes to after the requests for the classes in front. -/
theorem answer_of_attempts {before after : List Attempt} {a : Attempt}
    (h : attempts pool config emitter s todo = before ++ a :: after) :
    a.answer = (emitter.write
      (emitter.play s (writes (pool.requests config (before.map (·.cls)))))
      (config.target a.cls) (pool.tree a.cls)).result := by
  induction before generalizing s todo with
  | nil =>
    cases todo with
    | nil => cases h
    | cons c rest =>
      obtain ⟨rfl, -⟩ := List.cons.inj h
      rfl
  | cons first before ih =>
    cases todo with
    | nil => cases h
    | cons c rest =>
      obtain ⟨rfl, hrest⟩ := List.cons.inj h
      exact ih hrest

/-- **The disk allows the requests** if it is the reason of no failure. -/
theorem diskAllows_of_failures
    (h : ∀ failure ∈ (attempts pool config emitter s todo).filterMap Attempt.failure?,
      ∀ path fault, failure.error ≠ .io path fault) :
    DiskAllows (emitter.emissions s (writes (pool.requests config todo))) := by
  intro e he path fault hio
  have hanswer : e.result ∈ (attempts pool config emitter s todo).map (·.answer) := by
    rw [map_answer_attempts]
    exact List.mem_map_of_mem he
  obtain ⟨a, ha, hsame⟩ := List.mem_map.1 hanswer
  have hfailure : a.failure? = some ⟨a.cls.qualified, .io path fault⟩ := by
    rw [Attempt.failure?, hsame, hio]
  exact h _ (List.mem_filterMap.2 ⟨a, ha, hfailure⟩) path fault rfl

/-- The end of a run reports only what went wrong there. -/
theorem report_runFinish (emitter : Emitter σ) (s : σ) :
    (runFinish emitter s).report = { finishError := (emitter.finish s).error? } := by
  rw [runFinish, Emission.error?]
  cases (emitter.finish s).result <;> rfl

/-- **A run that goes on after failures** attempts every class and then comes to its end. The
    report tells the attempts apart by their answers, and no class is left out. -/
theorem runClasses_of_failSoft (pool : ClassPool) (emitter : Emitter σ)
    (hsoft : config.failFast = false) (s : σ) (todo : List ModelClass) :
    (runClasses pool config emitter s todo).state =
        (emitter.finish (emitter.play s (writes (pool.requests config todo)))).state ∧
      (runClasses pool config emitter s todo).report =
        { emitted := (attempts pool config emitter s todo).filterMap (Attempt.artifact? config)
          failures := (attempts pool config emitter s todo).filterMap Attempt.failure?
          finishError :=
            (emitter.finish (emitter.play s (writes (pool.requests config todo)))).error? } := by
  induction todo generalizing s with
  | nil =>
    rw [runClasses]
    exact ⟨state_runFinish s, report_runFinish emitter s⟩
  | cons c rest ih =>
    obtain ⟨hstate, hreport⟩ := ih (emitter.write s (config.target c) (pool.tree c)).state
    rw [runClasses, attempts]
    -- emitted or failed, the run goes on from the same state
    cases hstep : (emitter.write s (config.target c) (pool.tree c)).result with
    | ok _ =>
      refine ⟨hstate, ?_⟩
      simp only [hreport, Report.addEmitted]
      rfl
    | error e =>
      simp only [hsoft, Bool.false_eq_true, if_false]
      refine ⟨hstate, ?_⟩
      simp only [hreport, Report.addFailure]
      rfl

end QueryPaths
