import QueryPaths.Generate.Run

/-! # Accounts of runs

    A run hands the project classes to its emitter one after the other, and completes the
    output unless a failure stopped it. Its report lists the answers. This holds for every
    emitter, whatever its states are and whatever it answers: an emitter that also keeps a
    history of its calls does the same and shows what it was asked for.

    * **`Emitter.recording`**: an emitter with a history of its calls.
    * **`Account`**: the classes that a run attempted, the answers, and the answer to its end.
    * **`Account.Settles`**: what an account says of a report.
    * **`exists_account_runClasses`**: every run has an account, which is its history, too.
    * **`ClassPool.generate_accounts`**: the same for the project classes of a pool.
-/

namespace QueryPaths

/-! ## Histories -/

/-- **A call of an emitter**, with its answer. -/
inductive Call where
  /-- The path tree of a class was to be emitted. -/
  | write (target : Target) (tree : List PathNode) (answer : Except EmitError Unit)
  /-- The output was to be completed. -/
  | finish (answer : Except EmitError Unit)

/-- **An emitter with a history of its calls** beside its state, the latest one last. The
    history makes no difference to what it does. -/
def Emitter.recording {σ : Type} (emitter : Emitter σ) : Emitter (σ × List Call) where
  write s target tree :=
    let step := emitter.write s.1 target tree
    ⟨(step.state, s.2 ++ [.write target tree step.result]), step.result, step.events⟩
  finish s :=
    let step := emitter.finish s.1
    ⟨(step.state, s.2 ++ [.finish step.result]), step.result, step.events⟩

/-! ## Accounts -/

/-- **An attempt**: a class that was handed to the emitter, and the answer. -/
structure Attempt where
  /-- The class. -/
  cls : ModelClass
  /-- What the emitter answered. -/
  answer : Except EmitError Unit

namespace Attempt

/-- The call that an attempt makes. The tree is built against the whole pool. -/
def call (pool : ClassPool) (config : GenerateConfig) (a : Attempt) : Call :=
  .write (config.target a.cls) (pool.tree a.cls) a.answer

/-- The artifact that a successful attempt emits. -/
def artifact? (config : GenerateConfig) (a : Attempt) : Option (String × String) :=
  match a.answer with
  | .ok () => some (a.cls.package, config.typeName a.cls)
  | .error _ => none

/-- The failure of an attempt that did not succeed. -/
def failure? (a : Attempt) : Option ClassFailure :=
  match a.answer with
  | .ok () => none
  | .error e => some ⟨a.cls.qualified, e⟩

/-- Each attempt has emitted an artifact or failed. -/
theorem length_artifacts_add_failures (config : GenerateConfig) (attempts : List Attempt) :
    (attempts.filterMap (artifact? config)).length + (attempts.filterMap failure?).length =
      attempts.length := by
  induction attempts with
  | nil => rfl
  | cons a rest ih =>
    obtain ⟨c, answer⟩ := a
    cases answer with
    | ok _ =>
      simp only [List.filterMap_cons, artifact?, failure?, List.length_cons]
      omega
    | error e =>
      simp only [List.filterMap_cons, artifact?, failure?, List.length_cons]
      omega

theorem failures_eq_nil_iff {attempts : List Attempt} :
    attempts.filterMap failure? = [] ↔ ∀ a ∈ attempts, a.answer = .ok () := by
  rw [List.filterMap_eq_nil_iff]
  refine forall₂_congr fun a _ => ?_
  obtain ⟨c, answer⟩ := a
  cases answer <;> simp [failure?]

end Attempt

/-- **The account of a run.** -/
structure Account where
  /-- The attempts, in order. -/
  attempts : List Attempt
  /-- The answer at the end, if the run came to its end. -/
  ending : Option (Except EmitError Unit)

namespace Account

/-- **The calls that an account tells of**: one for each attempt, and then the end. -/
def calls (pool : ClassPool) (config : GenerateConfig) (account : Account) : List Call :=
  account.attempts.map (Attempt.call pool config) ++ account.ending.toList.map .finish

/-- The classes that were attempted. -/
def classes (account : Account) : List ModelClass := account.attempts.map (·.cls)

/-- The account with one more attempt in front. -/
def cons (a : Attempt) (account : Account) : Account :=
  { account with attempts := a :: account.attempts }

/-- What went wrong at the end. -/
def endError? (account : Account) : Option EmitError :=
  match account.ending with
  | some (.error e) => some e
  | _ => none

/-- **An account settles a report** on the run for a list of classes. -/
structure Settles (config : GenerateConfig) (todo : List ModelClass) (account : Account)
    (report : Report) : Prop where
  /-- The classes are attempted in order, each once, up to some point. -/
  attempted : account.classes <+: todo
  /-- The emitted artifacts are those of the attempts that succeeded. -/
  emitted : report.emitted = account.attempts.filterMap (Attempt.artifact? config)
  /-- The failed classes are those of the others. -/
  failures : report.failures = account.attempts.filterMap Attempt.failure?
  /-- The classes left out are those that were not attempted. -/
  skipped : account.attempts.length + report.skipped = todo.length
  /-- What is reported of the end is its answer. -/
  finishError : report.finishError = account.endError?
  /-- A run that goes on after failures attempts all classes and comes to its end. -/
  failSoft : config.failFast = false →
    account.classes = todo ∧ report.skipped = 0 ∧ account.ending.isSome = true
  /-- A run that is to stop does the same if nothing fails. Otherwise the one failure is that
      of the last attempt, and the run does not come to its end. -/
  failFast : config.failFast = true →
    report.failures = [] ∧ account.classes = todo ∧ account.ending.isSome = true ∨
    ∃ before c e, account.attempts = before ++ [⟨c, .error e⟩] ∧
      report.failures = [⟨c.qualified, e⟩] ∧ account.ending = none

namespace Settles

variable {config : GenerateConfig} {todo : List ModelClass} {account : Account} {report : Report}

/-! ## Steps -/

theorem finish (config : GenerateConfig) (answer : Except EmitError Unit) :
    Settles config [] ⟨[], some answer⟩ { finishError := endError? ⟨[], some answer⟩ } where
  attempted := List.nil_prefix
  emitted := rfl
  failures := rfl
  skipped := rfl
  finishError := rfl
  failSoft _ := ⟨rfl, rfl, rfl⟩
  failFast _ := .inl ⟨rfl, rfl, rfl⟩

/-- A class is emitted, and then the run goes on. -/
theorem emit (h : Settles config todo account report) (c : ModelClass) :
    Settles config (c :: todo) (account.cons ⟨c, .ok ()⟩)
      (report.addEmitted c.package (config.typeName c)) where
  attempted := List.cons_prefix_cons.2 ⟨rfl, h.attempted⟩
  emitted := congrArg (_ :: ·) h.emitted
  failures := h.failures
  skipped := by
    have hrest := h.skipped
    simp only [cons, Report.addEmitted, List.length_cons]
    omega
  finishError := h.finishError
  failSoft hsoft := by
    obtain ⟨hall, hskipped, hend⟩ := h.failSoft hsoft
    exact ⟨congrArg (c :: ·) hall, hskipped, hend⟩
  failFast hfast := by
    rcases h.failFast hfast with ⟨hnone, hall, hend⟩ | ⟨before, d, e, hlast, hfailure, hend⟩
    · exact .inl ⟨hnone, congrArg (c :: ·) hall, hend⟩
    · exact .inr ⟨⟨c, .ok ()⟩ :: before, d, e, congrArg (_ :: ·) hlast, hfailure, hend⟩

/-- A class fails, and the run goes on all the same. -/
theorem fail (h : Settles config todo account report) (hsoft : config.failFast = false)
    (c : ModelClass) (e : EmitError) :
    Settles config (c :: todo) (account.cons ⟨c, .error e⟩) (report.addFailure c.qualified e) where
  attempted := List.cons_prefix_cons.2 ⟨rfl, h.attempted⟩
  emitted := h.emitted
  failures := congrArg (_ :: ·) h.failures
  skipped := by
    have hrest := h.skipped
    simp only [cons, Report.addFailure, List.length_cons]
    omega
  finishError := h.finishError
  failSoft _ := by
    obtain ⟨hall, hskipped, hend⟩ := h.failSoft hsoft
    exact ⟨congrArg (c :: ·) hall, hskipped, hend⟩
  failFast hfast := by
    rw [hsoft] at hfast
    cases hfast

/-- A class fails, and the run stops. -/
theorem stop (hfast : config.failFast = true) (c : ModelClass) (e : EmitError)
    (todo : List ModelClass) :
    Settles config (c :: todo) ⟨[⟨c, .error e⟩], none⟩
      { failures := [⟨c.qualified, e⟩], skipped := todo.length } where
  attempted := List.cons_prefix_cons.2 ⟨rfl, List.nil_prefix⟩
  emitted := rfl
  failures := rfl
  skipped := by
    simp only [List.length_cons, List.length_nil]
    omega
  finishError := rfl
  failSoft hsoft := by
    rw [hfast] at hsoft
    cases hsoft
  failFast _ := .inr ⟨[], c, e, rfl, rfl, rfl⟩

/-! ## What follows -/

/-- **Every class is accounted for.** -/
theorem total (h : Settles config todo account report) :
    report.emitted.length + report.failures.length + report.skipped = todo.length := by
  rw [h.emitted, h.failures, Attempt.length_artifacts_add_failures, h.skipped]

/-- Where nothing failed, every class was attempted, and the run came to its end, in either
    mode. -/
theorem complete (h : Settles config todo account report) (hnone : report.failures = []) :
    account.classes = todo ∧ report.skipped = 0 ∧ account.ending.isSome = true := by
  have hend : account.classes = todo ∧ account.ending.isSome = true := by
    -- only a run that stops at failures may leave classes out, and it stops at one
    cases hmode : config.failFast with
    | false =>
      obtain ⟨hall, -, hend⟩ := h.failSoft hmode
      exact ⟨hall, hend⟩
    | true =>
      rcases h.failFast hmode with ⟨-, hall, hend⟩ | ⟨_, _, _, -, hfailure, -⟩
      · exact ⟨hall, hend⟩
      · rw [hnone] at hfailure
        cases hfailure
  have hskipped : report.skipped = 0 := by
    have hlength := h.skipped
    have hattempts : account.attempts.length = todo.length := by
      rw [← hend.1, classes, List.length_map]
    omega
  exact ⟨hend.1, hskipped, hend.2⟩

theorem isSuccess_iff_failed (h : Settles config todo account report) :
    report.isSuccess = true ↔ report.failed = 0 := by
  simp only [Report.isSuccess, Report.failed, Bool.and_eq_true, List.isEmpty_iff, beq_iff_eq,
    Option.isNone_iff_eq_none, Nat.add_eq_zero_iff, List.length_eq_zero_iff]
  constructor
  · intro hgood
    obtain ⟨⟨hnone, -⟩, herror⟩ := hgood
    exact ⟨hnone, by simp [herror]⟩
  · intro hgood
    obtain ⟨hnone, herror⟩ := hgood
    exact ⟨⟨hnone, (h.complete hnone).2.1⟩, by simpa using herror⟩

/-- **A run succeeds** exactly if every class is attempted, each answer is good, and so is the
    one at the end. -/
theorem isSuccess_iff (h : Settles config todo account report) :
    report.isSuccess = true ↔ account.classes = todo ∧
      (∀ a ∈ account.attempts, a.answer = .ok ()) ∧ account.ending = some (.ok ()) := by
  have hreport : report.isSuccess = true ↔
      report.failures = [] ∧ report.skipped = 0 ∧ account.endError? = none := by
    simp [Report.isSuccess, and_assoc, h.finishError]
  -- a report is good if no failure, no class left out and no error at the end is in it
  rw [hreport, ← Attempt.failures_eq_nil_iff, ← h.failures]
  constructor
  · intro hgood
    obtain ⟨hnone, -, herror⟩ := hgood
    obtain ⟨hall, -, hend⟩ := h.complete hnone
    obtain ⟨answer, hanswer⟩ := Option.isSome_iff_exists.1 hend
    refine ⟨hall, hnone, ?_⟩
    cases answer with
    | ok _ => exact hanswer
    | error e =>
      rw [endError?, hanswer] at herror
      cases herror
  · intro hgood
    obtain ⟨-, hnone, hend⟩ := hgood
    exact ⟨hnone, (h.complete hnone).2.1, by rw [endError?, hend]⟩

end Settles

end Account

/-! ## Runs -/

variable {σ : Type}

/-- **Every run has an account.** It settles the report, and the emitter's history grows by
    the calls that it tells of. -/
theorem exists_account_runClasses (pool : ClassPool) (config : GenerateConfig)
    (emitter : Emitter σ) (s : σ) (history : List Call) (todo : List ModelClass) :
    ∃ account : Account,
      account.Settles config todo (runClasses pool config emitter s todo).report ∧
      (runClasses pool config emitter.recording (s, history) todo).report =
        (runClasses pool config emitter s todo).report ∧
      (runClasses pool config emitter.recording (s, history) todo).state =
        ((runClasses pool config emitter s todo).state,
          history ++ account.calls pool config) := by
  induction todo generalizing s history with
  | nil =>
    refine ⟨⟨[], some (emitter.finish s).result⟩, ?_⟩
    simp only [runClasses, runFinish, Emitter.recording]
    have hend := Account.Settles.finish config (emitter.finish s).result
    cases hfinish : (emitter.finish s).result with
    | ok _ =>
      rw [hfinish] at hend
      exact ⟨hend, rfl, rfl⟩
    | error e =>
      rw [hfinish] at hend
      exact ⟨hend, rfl, rfl⟩
  | cons c rest ih =>
    -- the history is longer by one call when the run goes on
    obtain ⟨account, hsettles, hreport, hstate⟩ :=
      ih (emitter.write s (config.target c) (pool.tree c)).state
        (history ++ [.write (config.target c) (pool.tree c)
          (emitter.write s (config.target c) (pool.tree c)).result])
    have hcalls : ∀ answer, history ++ [.write (config.target c) (pool.tree c) answer] ++
        account.calls pool config = history ++ (account.cons ⟨c, answer⟩).calls pool config := by
      intro answer
      rw [List.append_assoc]
      rfl
    simp only [runClasses, Emitter.recording] at hreport hstate ⊢
    cases hstep : (emitter.write s (config.target c) (pool.tree c)).result with
    | ok _ =>
      rw [hstep] at hreport hstate
      exact ⟨_, hsettles.emit c, by rw [hreport], by rw [hstate, hcalls]⟩
    | error e =>
      rw [hstep] at hreport hstate
      cases hmode : config.failFast with
      | true => exact ⟨_, .stop hmode c e rest, rfl, rfl⟩
      | false => exact ⟨_, hsettles.fail hmode c e, by simp [hreport], by simp [hstate, ← hcalls]⟩

/-- **A run accounts for every project class**, whatever the emitter. The calls are those of
    the account, and no others: the trees of a front of the project classes, each once, and
    then the end, unless a failure stopped the run. The report lists the answers; emitted,
    failed and skipped classes make up all of them. A class is handed over with its tree against
    the whole pool, its package, its simple name with the suffix, and its qualified name. And a
    run succeeds exactly if all classes were emitted and the end succeeded. -/
theorem ClassPool.generate_accounts (pool : ClassPool) (config : GenerateConfig)
    (emitter : Emitter σ) (start : σ) :
    ∃ account : Account,
      account.Settles config pool.project (pool.generate config emitter start).report ∧
      (pool.generate config emitter.recording (start, [])).report =
        (pool.generate config emitter start).report ∧
      (pool.generate config emitter.recording (start, [])).state =
        ((pool.generate config emitter start).state, account.calls pool config) ∧
      (pool.generate config emitter start).report.emitted.length +
          (pool.generate config emitter start).report.failures.length +
          (pool.generate config emitter start).report.skipped = pool.project.length ∧
      (∀ a : Attempt, a.call pool config = .write
        ⟨a.cls.package, a.cls.simple ++ config.suffix, a.cls.qualified⟩ (pool.tree a.cls) a.answer) ∧
      ((pool.generate config emitter start).report.isSuccess = true ↔
        account.classes = pool.project ∧ (∀ a ∈ account.attempts, a.answer = .ok ()) ∧
          account.ending = some (.ok ())) := by
  obtain ⟨account, hsettles, hreport, hstate⟩ :=
    exists_account_runClasses pool config emitter start [] pool.project
  exact ⟨account, hsettles, hreport, hstate, hsettles.total, fun _ => rfl, hsettles.isSuccess_iff⟩

end QueryPaths
