import QueryPaths.Config.Document
import QueryPaths.Emit.Directory
import QueryPaths.Generate.Run
import QueryPaths.Model.Manifest

/-! # Generation into a directory

    * **`ClassPool.runInto`**: the run of a pool with the directory emitter.
    * **`ClassPool.generateInto`**: the same, where any failure is an error.
    * **`generateFromManifest`**: a run from files. The manifest is loaded first,
      then the settings, and only then is anything written.
-/

namespace QueryPaths

/-- Why generation did not succeed. -/
inductive GenerateError where
  /-- The manifest does not load. -/
  | load (error : LoadError)
  /-- The settings do not load. -/
  | config (error : ConfigError)
  /-- The output directory cannot be opened. -/
  | emit (error : EmitError)
  /-- Some artifacts failed, or the end of the run. -/
  | failed (failed attempted : Nat)
  deriving DecidableEq, Repr, Inhabited

/-- **The wording** of an error. -/
def GenerateError.message : GenerateError → String
  | .load error => error.message
  | .config error => error.message
  | .emit error => error.message
  | .failed failures attempts =>
    Nat.repr failures ++ " of " ++ Nat.repr attempts ++ " field path artifacts failed to generate"

/-- What generation leaves behind. -/
structure Generation where
  /-- The report, if everything succeeded. -/
  result : Except GenerateError Report
  /-- The disk. -/
  disk : Disk
  /-- What was reported on the way. -/
  events : List Event := []

/-- Nothing was written. -/
def Generation.refused (disk : Disk) (error : GenerateError) : Generation :=
  { result := .error error, disk }

/-- A report, unless there were failures. -/
def Report.toResult (report : Report) : Except GenerateError Report :=
  if report.isSuccess then .ok report else .error (.failed report.failed report.attempted)

/-- **The run of a pool into a directory**, and the directory. -/
def ClassPool.runInto (pool : ClassPool) (config : Config) (disk : Disk) (path : String) :
    Except EmitError (OutputDirectory × Run Output) := do
  let out ← OutputDirectory.openAt config.emit disk path
  return (out, pool.generate config.generate out.emitter { disk })

/-- **Generates the artifacts of a pool** into a directory. -/
def ClassPool.generateInto (pool : ClassPool) (config : Config) (disk : Disk) (path : String) :
    Generation :=
  match pool.runInto config disk path with
  | .error error => .refused disk (.emit error)
  | .ok (_, run) => ⟨run.report.toResult, run.state.disk, run.events⟩

/-- **Generates the artifacts of a manifest** into a directory. Without a settings
    file the defaults are used. -/
def generateFromManifest (disk : Disk) (manifest config out : String) : Generation :=
  match Manifest.load disk manifest with
  | .error error => .refused disk (.load error)
  | .ok manifest =>
    match Config.loadOrDefault disk config with
    | .error error => .refused disk (.config error)
    | .ok config => manifest.pool.generateInto config disk out

end QueryPaths
