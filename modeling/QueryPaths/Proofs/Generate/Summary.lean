import QueryPaths.Proofs.Emit.Session
import QueryPaths.Proofs.Generate.Account
import QueryPaths.Proofs.Generate.Intact

/-! # Summaries of failed runs

    A run into a directory that does not succeed is summed up by two numbers: how many things
    failed, and how many classes were attempted. The end of the run counts among the first if it
    failed, and never among the second. So the first number may be the larger one, and it tells
    how many of the attempted artifacts failed only if the end did not.

    * **`ClassPool.calls`**: the calls of its emitter that a run makes.
    * **`Account.countP_isFailed`**, **`Account.countP_isWrite`**: how many of a kind there are.
    * **`Account.countP_isFailed_le_iff`**, **`Account.countP_isFailed_eq_iff`**: how the numbers
      of calls compare.
    * **`Account.Settles.counts`**: the numbers of a report are such numbers of calls.
    * **`ClassPool.generateInto_eq_failed_iff`**: when a run into a directory fails, and what its
      summary says.
-/

namespace QueryPaths

open Disk OutputDirectory

/-! ## Kinds of calls -/

namespace Call

/-- What the emitter answered. -/
def answer : Call → Except EmitError Unit
  | write _ _ answer => answer
  | finish answer => answer

/-- Is the call about an artifact? -/
def isWrite : Call → Bool
  | write .. => true
  | finish _ => false

/-- Did the call fail? -/
def isFailed (call : Call) : Bool :=
  match call.answer with
  | .ok () => false
  | .error _ => true

end Call

/-- **The calls that a run makes**, in order, with their answers. -/
def ClassPool.calls {σ : Type} (pool : ClassPool) (config : GenerateConfig) (emitter : Emitter σ)
    (start : σ) : List Call :=
  (pool.generate config emitter.recording (start, [])).state.2

/-! ## Counting calls -/

namespace Account

variable {pool : ClassPool} {config : GenerateConfig} {account : Account}

/-- **Every attempt is a call about an artifact**, and the end is none. -/
theorem countP_isWrite :
    (account.calls pool config).countP Call.isWrite = account.attempts.length := by
  have hattempts : ∀ a ∈ account.attempts, (Call.isWrite ∘ Attempt.call pool config) a = true := by
    intro a _
    rfl
  have hending : ∀ answer ∈ account.ending.toList, ¬(Call.isWrite ∘ Call.finish) answer = true := by
    intro answer _
    simp [Call.isWrite]
  rw [calls, List.countP_append, List.countP_map, List.countP_map,
    List.countP_eq_length.2 hattempts, List.countP_eq_zero.2 hending, Nat.add_zero]

theorem countP_isFailed_attempts (attempts : List Attempt) :
    (attempts.map (Attempt.call pool config)).countP Call.isFailed =
      (attempts.filterMap Attempt.failure?).length := by
  induction attempts with
  | nil => rfl
  | cons a rest ih =>
    obtain ⟨c, answer⟩ := a
    rw [List.map_cons, List.countP_cons, ih, List.filterMap_cons]
    cases answer with
    | ok _ => rfl
    | error e => rfl

/-- **What failed** are the failures, and the end if it failed. -/
theorem countP_isFailed : (account.calls pool config).countP Call.isFailed =
    (account.attempts.filterMap Attempt.failure?).length +
      if account.endError?.isSome then 1 else 0 := by
  have hending : (account.ending.toList.map Call.finish).countP Call.isFailed =
      if account.endError?.isSome then 1 else 0 := by
    unfold endError?
    split
    · next e hend => simp [hend, Call.isFailed, Call.answer]
    · next hend =>
      cases hanswer : account.ending with
      | none => rfl
      | some answer =>
        cases answer with
        | ok _ => rfl
        | error e => exact absurd hanswer (hend e)
  rw [calls, List.countP_append, countP_isFailed_attempts, hending]

/-- Of the calls about artifacts those failed that are the failures. -/
theorem countP_isFailed_and_isWrite :
    (account.calls pool config).countP (fun call => call.isFailed && call.isWrite) =
      (account.attempts.filterMap Attempt.failure?).length := by
  have hattempts : (fun call : Call => call.isFailed && call.isWrite) ∘ Attempt.call pool config =
      Call.isFailed ∘ Attempt.call pool config := by
    funext a
    simp [Attempt.call, Call.isWrite]
  have hending : ∀ answer ∈ account.ending.toList,
      ¬((fun call : Call => call.isFailed && call.isWrite) ∘ Call.finish) answer = true := by
    intro answer _
    simp [Call.isWrite]
  rw [calls, List.countP_append, List.countP_map, List.countP_map, hattempts,
    List.countP_eq_zero.2 hending, Nat.add_zero, ← List.countP_map, countP_isFailed_attempts]

theorem isSome_endError?_iff :
    account.endError?.isSome = true ↔ ∃ e, Call.finish (.error e) ∈ account.calls pool config := by
  have hmem : ∀ e, Call.finish (.error e) ∈ account.calls pool config ↔
      account.ending = some (.error e) := by
    intro e
    simp [calls, Attempt.call]
  simp only [hmem]
  unfold endError?
  split
  · next e hend => simp [hend]
  · next hend => simpa using hend

theorem artifacts_ne_nil_iff : account.attempts.filterMap (Attempt.artifact? config) ≠ [] ↔
    ∃ target tree, Call.write target tree (.ok ()) ∈ account.calls pool config := by
  constructor
  · intro h
    obtain ⟨artifact, hartifact⟩ := List.exists_mem_of_ne_nil _ h
    obtain ⟨⟨c, answer⟩, ha, hsome⟩ := List.mem_filterMap.1 hartifact
    cases answer with
    | error e => cases hsome
    | ok _ => exact ⟨_, _, List.mem_append_left _ (List.mem_map.2 ⟨_, ha, rfl⟩)⟩
  · intro h
    obtain ⟨target, tree, hcall⟩ := h
    -- the call at the end is about no artifact
    rcases List.mem_append.1 hcall with hcall | hcall
    · obtain ⟨⟨c, answer⟩, ha, heq⟩ := List.mem_map.1 hcall
      obtain ⟨-, -, rfl⟩ := Call.write.inj heq
      exact List.ne_nil_of_mem (List.mem_filterMap.2 ⟨_, ha, rfl⟩)
    · obtain ⟨answer, -, heq⟩ := List.mem_map.1 hcall
      cases heq

/-- **No more calls failed than there were about artifacts**, unless the end failed and nothing
    was emitted. -/
theorem countP_isFailed_le_iff :
    (account.calls pool config).countP Call.isFailed ≤
        (account.calls pool config).countP Call.isWrite ↔
      (∃ target tree, Call.write target tree (.ok ()) ∈ account.calls pool config) ∨
        ∀ e, Call.finish (.error e) ∉ account.calls pool config := by
  have hsplit := Attempt.length_artifacts_add_failures config account.attempts
  rw [countP_isFailed, countP_isWrite, ← artifacts_ne_nil_iff, ← not_exists,
    ← isSome_endError?_iff, ← List.length_pos_iff]
  split
  · next hend =>
    simp only [hend, not_true_eq_false, or_false]
    omega
  · next hend => exact iff_of_true (by omega) (.inr hend)

/-- **As many calls failed as did of those about artifacts**, unless the end failed. -/
theorem countP_isFailed_eq_iff :
    (account.calls pool config).countP Call.isFailed =
        (account.calls pool config).countP (fun call => call.isFailed && call.isWrite) ↔
      ∀ e, Call.finish (.error e) ∉ account.calls pool config := by
  rw [countP_isFailed, countP_isFailed_and_isWrite, ← not_exists, ← isSome_endError?_iff]
  split
  · next hend => simp [hend]
  · next hend => simp [hend]

/-- **The numbers of a report** count the calls of its run, and the run succeeds exactly if none
    of them failed. -/
theorem Settles.counts {todo : List ModelClass} {report : Report}
    (h : Settles config todo account report) (pool : ClassPool) :
    report.failed = (account.calls pool config).countP Call.isFailed ∧
      report.attempted = (account.calls pool config).countP Call.isWrite ∧
      (report.isSuccess = false ↔ ∃ call ∈ account.calls pool config, call.isFailed = true) := by
  have hfailed : report.failed = (account.calls pool config).countP Call.isFailed := by
    rw [Report.failed, countP_isFailed, h.failures, h.finishError]
  have hattempted : report.attempted = (account.calls pool config).countP Call.isWrite := by
    rw [Report.attempted, countP_isWrite, h.emitted, h.failures,
      Attempt.length_artifacts_add_failures]
  refine ⟨hfailed, hattempted, ?_⟩
  rw [← Bool.not_eq_true, h.isSuccess_iff_failed, hfailed, ← List.countP_pos_iff]
  omega

end Account

/-! ## Runs into a directory -/

/-- **A report that is no success** is summed up by its numbers. -/
theorem Report.toResult_eq_failed_iff {report : Report} {failed attempted : Nat} :
    report.toResult = .error (.failed failed attempted) ↔
      report.isSuccess = false ∧ failed = report.failed ∧ attempted = report.attempted := by
  unfold toResult
  split
  · next hgood => simp [hgood]
  · next hbad => simp [hbad, eq_comm]

/-- A directory that cannot be opened is another failure. -/
theorem ClassPool.generateInto_of_openAt_error {pool : ClassPool} {config : Config} {disk : Disk}
    {path : String} {e : EmitError} (h : openAt config.emit disk path = .error e) :
    (pool.generateInto config disk path).result = .error (.emit e) := by
  simp only [generateInto, runInto, h]
  rfl

/-- **The result of a run into a directory** that could be opened, and an account of the run. -/
theorem ClassPool.exists_account_generateInto (pool : ClassPool) {config : Config} {disk : Disk}
    {path : String} {out : OutputDirectory} (h : openAt config.emit disk path = .ok out) :
    ∃ (account : Account) (report : Report),
      (pool.generateInto config disk path).result = report.toResult ∧
      account.Settles config.generate pool.project report ∧
      pool.calls config.generate out.emitter { disk } = account.calls pool config.generate := by
  obtain ⟨account, hsettles, -, hstate⟩ :=
    exists_account_runClasses pool config.generate out.emitter { disk } [] pool.project
  have hrun : pool.runInto config disk path =
      .ok (out, pool.generate config.generate out.emitter { disk }) := by
    simp only [runInto, bind_eq_ok, pure_eq_ok]
    exact ⟨out, h, rfl⟩
  refine ⟨account, _, ?_, hsettles, ?_⟩
  · simp only [generateInto, hrun]
    rfl
  · rw [calls, generate, hstate, List.nil_append]

/-- **A run into a directory that could be opened** fails exactly if a call did, and its summary
    counts the calls. -/
theorem ClassPool.result_eq_failed_iff {pool : ClassPool} {config : Config} {disk : Disk}
    {path : String} {out : OutputDirectory} (h : openAt config.emit disk path = .ok out)
    {failed attempted : Nat} :
    (pool.generateInto config disk path).result = .error (.failed failed attempted) ↔
      (∃ call ∈ pool.calls config.generate out.emitter { disk }, call.isFailed = true) ∧
        failed = (pool.calls config.generate out.emitter { disk }).countP Call.isFailed ∧
        attempted = (pool.calls config.generate out.emitter { disk }).countP Call.isWrite := by
  obtain ⟨account, report, hresult, hsettles, hcalls⟩ := pool.exists_account_generateInto h
  obtain ⟨hfailed, hattempted, hsuccess⟩ := hsettles.counts pool
  rw [hresult, Report.toResult_eq_failed_iff, hsuccess, hfailed, hattempted, hcalls]

/-- **When a run into a directory fails, and what its summary says.** It fails exactly if the
    directory could be opened and some call of the emitter failed. The summary gives the number of
    the calls that failed, the end among them, and the number of the calls about artifacts. So at
    least one is said to have failed. But no more are said to have failed than were attempted
    exactly if an artifact was emitted or the end did not fail; and it is the number of the
    artifacts that failed exactly if the end did not. -/
theorem ClassPool.generateInto_eq_failed_iff (pool : ClassPool) (config : Config) (disk : Disk)
    (path : String) (failed attempted : Nat) :
    ((pool.generateInto config disk path).result = .error (.failed failed attempted) ↔
      ∃ out, openAt config.emit disk path = .ok out ∧
        let calls := pool.calls config.generate out.emitter { disk }
        (∃ call ∈ calls, call.isFailed = true) ∧
          failed = calls.countP Call.isFailed ∧ attempted = calls.countP Call.isWrite) ∧
    ∀ out, openAt config.emit disk path = .ok out →
      (pool.generateInto config disk path).result = .error (.failed failed attempted) →
        let calls := pool.calls config.generate out.emitter { disk }
        1 ≤ failed ∧
        (failed ≤ attempted ↔ (∃ target tree, Call.write target tree (.ok ()) ∈ calls) ∨
          ∀ e, Call.finish (.error e) ∉ calls) ∧
        (failed = calls.countP (fun call => call.isFailed && call.isWrite) ↔
          ∀ e, Call.finish (.error e) ∉ calls) := by
  constructor
  · constructor
    · intro hfails
      -- a directory that cannot be opened is another failure
      cases hopen : openAt config.emit disk path with
      | error e =>
        rw [generateInto_of_openAt_error hopen] at hfails
        cases hfails
      | ok out => exact ⟨out, rfl, (result_eq_failed_iff hopen).1 hfails⟩
    · intro h
      obtain ⟨out, hopen, hcalls⟩ := h
      exact (result_eq_failed_iff hopen).2 hcalls
  · intro out hopen hfails calls
    obtain ⟨hsome, rfl, rfl⟩ := (result_eq_failed_iff hopen).1 hfails
    obtain ⟨account, -, -, -, hcalls⟩ := pool.exists_account_generateInto hopen
    refine ⟨List.countP_pos_iff.2 hsome, ?_⟩
    show (calls.countP Call.isFailed ≤ calls.countP Call.isWrite ↔ _) ∧
      (calls.countP Call.isFailed = _ ↔ _)
    rw [show calls = account.calls pool config.generate from hcalls]
    exact ⟨Account.countP_isFailed_le_iff, Account.countP_isFailed_eq_iff⟩

/-! ## Runs for one class whose end fails -/

theorem calls_onlyDog {disk : Disk} {step last : Emission Output}
    (hstep : (outAt "fieldpaths.rs").write { disk } ⟨"", "DogFields", "Dog"⟩ [] = step)
    (hlast : (outAt "fieldpaths.rs").finish step.state = last) :
    onlyDog.calls {} (outAt "fieldpaths.rs").emitter { disk } =
      [.write ⟨"", "DogFields", "Dog"⟩ [] step.result, .finish last.result] := by
  have htree : onlyDog.tree (.make "" "Dog") = [] := by simp [ClassPool.tree, ModelClass.make]
  have htarget : GenerateConfig.target {} (.make "" "Dog") = ⟨"", "DogFields", "Dog"⟩ := rfl
  simp only [ClassPool.calls, ClassPool.generate, project_onlyDog, runClasses, runFinish,
    Emitter.recording, OutputDirectory.emitter, htree, htarget, hstep, hlast]
  cases step.result <;> cases last.result <;> rfl

/-- A disk with a directory in place of the index file. -/
def withoutIndex : Disk :=
  ⟨[(["out"], .directory), (["out", "fieldpaths.rs"], .directory)], []⟩

/-- **An artifact is emitted, and then the end fails**: the summary says that one artifact of one
    failed. -/
theorem withoutIndex_failed :
    openAt {} withoutIndex "/out" = .ok (outAt "fieldpaths.rs") ∧
      (onlyDog.generateInto {} withoutIndex "/out").result = .error (.failed 1 1) ∧
      let calls := onlyDog.calls {} (outAt "fieldpaths.rs").emitter { disk := withoutIndex }
      calls = [.write ⟨"", "DogFields", "Dog"⟩ [] (.ok ()),
        .finish (.error (.io "/out/fieldpaths.rs" .isDirectory))] ∧
      1 ≤ 1 ∧
      (1 ≤ 1 ↔ (∃ target tree, Call.write target tree (.ok ()) ∈ calls) ∨
        ∀ e, Call.finish (.error e) ∉ calls) ∧
      (1 = calls.countP (fun call => call.isFailed && call.isWrite) ↔
        ∀ e, Call.finish (.error e) ∉ calls) := by
  have hopen : openAt {} withoutIndex "/out" = .ok (outAt "fieldpaths.rs") := rfl
  let stored := fun source : String =>
    withoutIndex.put ["out", "DogFields.rs"] (.file source.toUTF8)
  have hstored : ∀ source, store withoutIndex "/out" "/out/DogFields.rs" source =
      (.ok (), stored source) := fun _ => rfl
  obtain ⟨source, hwrite⟩ := write_onlyDog_of_store "fieldpaths.rs" hstored
  obtain ⟨index, hindex⟩ := indexText_onlyDog "/out/DogFields.rs"
  -- a directory stands in the place of the index
  have hfinish : (outAt "fieldpaths.rs").finish
      ⟨stored source, [⟨"", "DogFields", "/out/DogFields.rs"⟩]⟩ =
        .refused ⟨stored source, [⟨"", "DogFields", "/out/DogFields.rs"⟩]⟩
          (.io "/out/fieldpaths.rs" .isDirectory) := by
    have hstore : store (stored source) (outAt "fieldpaths.rs").directory
        (outAt "fieldpaths.rs").indexPath index =
          (.error (.io "/out/fieldpaths.rs" .isDirectory), stored source) := rfl
    simp only [finish, hindex, hstore]
  have hcalls : onlyDog.calls {} (outAt "fieldpaths.rs").emitter { disk := withoutIndex } = _ :=
    calls_onlyDog hwrite hfinish
  obtain ⟨hiff, hsummary⟩ := ClassPool.generateInto_eq_failed_iff onlyDog {} withoutIndex "/out" 1 1
  have hfails : (onlyDog.generateInto {} withoutIndex "/out").result = .error (.failed 1 1) := by
    refine hiff.2 ⟨_, hopen, ?_⟩
    rw [hcalls]
    exact ⟨⟨_, List.mem_cons_of_mem _ List.mem_cons_self, rfl⟩, rfl, rfl⟩
  exact ⟨hopen, hfails, hcalls, hsummary _ hopen hfails⟩

/-- **More failed than were attempted**: neither the artifact nor the index can be stored where a
    file is in place of the output directory. -/
theorem two_of_one_failed :
    (onlyDog.generateInto {} blocked "/out").result = .error (.failed 2 1) ∧
      ¬(1 ≤ 2 ∧ 2 ≤ 1) ∧
      (GenerateError.failed 2 1).message = "2 of 1 field path artifacts failed to generate" := by
  have hopen : openAt {} blocked "/out" = .ok (outAt "fieldpaths.rs") := rfl
  have hstore : ∀ path text, store blocked "/out" path text =
      (.error (.io "/out" .alreadyExists), blocked) := fun _ _ => rfl
  have hwrite : (outAt "fieldpaths.rs").write { disk := blocked } ⟨"", "DogFields", "Dog"⟩ [] =
      .refused { disk := blocked } (.io "/out" .alreadyExists) := by
    obtain ⟨source, hsource⟩ := renderText_onlyDog
    have hrender : (outAt "fieldpaths.rs").renderer.renderText ⟨"", "DogFields", "Dog"⟩ [] =
      .ok source := hsource
    have hseg : packageSegments "" = .ok [] := rfl
    have hdirectory : (outAt "fieldpaths.rs").packageDirectory [] = "/out" := rfl
    simp [write, hseg, hrender, hdirectory, hstore]
  -- nothing was emitted, so the index has no entries, and cannot be stored either
  have hfinish : (outAt "fieldpaths.rs").finish { disk := blocked } =
      .refused { disk := blocked } (.io "/out" .alreadyExists) := by
    obtain ⟨index, hindex⟩ : ∃ index, indexText [] = .ok index := by
      simp [indexText, indexItems, PackageTree.ofWritten, PackageTree.empty, PackageTree.items,
        PackageTree.inclusions, PackageTree.moduleItems]
    have hdirectory : (outAt "fieldpaths.rs").directory = "/out" := rfl
    simp [finish, hindex, hdirectory, hstore]
  have hcalls : onlyDog.calls {} (outAt "fieldpaths.rs").emitter { disk := blocked } = _ :=
    calls_onlyDog hwrite hfinish
  refine ⟨(ClassPool.result_eq_failed_iff hopen).2 ?_, by decide, by decide⟩
  rw [hcalls]
  exact ⟨⟨_, List.mem_cons_self, rfl⟩, rfl, rfl⟩

end QueryPaths
