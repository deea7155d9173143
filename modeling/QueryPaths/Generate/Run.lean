import QueryPaths.Config.Settings
import QueryPaths.Emit.Emitter
import QueryPaths.Generate.Report
import QueryPaths.Path.Trace

/-! # Generation runs

    A run builds the path tree of every project class of a pool, in order, and
    hands it to an emitter. A class that fails is noted and the run goes on,
    unless the settings ask it to stop there; a stopped run is not finished.

    * **`Run`**: the report, the emitter's last state, and the events.
    * **`runClasses`**: the run from a given class onwards.
    * **`ClassPool.generate`**: the whole run.
-/

namespace QueryPaths

/-- The outcome of a run. -/
structure Run (σ : Type) where
  /-- The report. -/
  report : Report
  /-- The last state of the emitter. -/
  state : σ
  /-- What was reported on the way. -/
  events : List Event

/-- **The name of a class's artifact.** -/
def GenerateConfig.typeName (config : GenerateConfig) (c : ModelClass) : String :=
  c.simple ++ config.suffix

/-- **The target of a class.** -/
def GenerateConfig.target (config : GenerateConfig) (c : ModelClass) : Target :=
  { package := c.package, typeName := config.typeName c, source := c.qualified }

/-- The end of a run: the emitter completes its output. -/
def runFinish {σ : Type} (emitter : Emitter σ) (state : σ) : Run σ :=
  let last := emitter.finish state
  match last.result with
  | .ok () => ⟨{}, last.state, last.events⟩
  | .error e => ⟨{ finishError := some e }, last.state, last.events ++ [.finishFailed e]⟩

/-- **The run for the classes that are left**, and its end. -/
def runClasses {σ : Type} (pool : ClassPool) (config : GenerateConfig) (emitter : Emitter σ)
    (state : σ) : List ModelClass → Run σ
  | [] => runFinish emitter state
  | c :: rest =>
    let tree := pool.tree c
    let target := config.target c
    let step := emitter.write state target tree
    let events := pool.treeEvents c ++ step.events
    match step.result with
    | .ok () =>
      let after := runClasses pool config emitter step.state rest
      ⟨after.report.addEmitted target.package target.typeName, after.state,
        events ++ .generated target.package target.typeName tree.length :: after.events⟩
    | .error e =>
      if config.failFast then
        ⟨{ failures := [⟨c.qualified, e⟩], skipped := rest.length }, step.state,
          events ++ [.classFailed c.qualified e]⟩
      else
        let after := runClasses pool config emitter step.state rest
        ⟨after.report.addFailure c.qualified e, after.state,
          events ++ .classFailed c.qualified e :: after.events⟩

/-- **A generation run** for the project classes of a pool. -/
def ClassPool.generate {σ : Type} (pool : ClassPool) (config : GenerateConfig)
    (emitter : Emitter σ) (start : σ) : Run σ :=
  runClasses pool config emitter start pool.project

end QueryPaths
