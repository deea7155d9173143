import QueryPaths.Command.Invocation
import QueryPaths.Generate.Directory
import QueryPaths.Path.Dump

/-! # Commands

    What the program does for a command line, as a function of the arguments and
    the disk.

    * **`Outcome`**: what a command leaves behind.
    * **`runGenerate`**, **`runTree`**: the commands.
    * **`run`**: a whole command line.
-/

namespace QueryPaths.Command

/-- What a command leaves behind. -/
structure Outcome where
  /-- The exit code: zero on success, two if the command line is at fault, and one
      for every other failure. -/
  code : Nat
  /-- What is printed. -/
  stdout : String := ""
  /-- The lines of the log. -/
  log : List String := []
  /-- What is told about a command line that is at fault. -/
  complaint : String := ""
  /-- The disk. -/
  disk : Disk

/-! ## Failures -/

/-- A message, and the cause that it already tells once more. -/
def withCause (message cause : String) : String := message ++ ": " ++ cause

/-- How it is told that a manifest does not load. -/
def loadFailure : LoadError → String
  | .io path fault => withCause (LoadError.io path fault).message fault.message
  | .json error => withCause (LoadError.json error).message error.message

/-- How it is told that settings do not load. -/
def configFailure : ConfigError → String
  | .io path fault => withCause (ConfigError.io path fault).message fault.message
  | .parse (.data error) => withCause (ConfigError.parse (.data error)).message error.message
  | error => error.message

/-- How it is told that the output directory cannot be opened. -/
def emitFailure : EmitError → String
  | .io path fault => withCause (EmitError.io path fault).message fault.message
  | error => error.message

/-! ## Commands -/

/-- What a command did, before it is told. -/
structure Work where
  /-- Did it succeed? -/
  success : Bool
  /-- What is printed. -/
  stdout : String := ""
  /-- What was reported. -/
  events : List Event
  /-- The disk. -/
  disk : Disk

/-- A command that could not be carried out. -/
def Work.fatal (disk : Disk) (text : String) : Work :=
  { success := false, events := [.fatal text], disk }

/-- The settings file that is looked for if none is named: beside the manifest. -/
def defaultConfigPath (model : String) : String :=
  match Disk.Path.parent? model with
  | some directory => Disk.Path.join directory configFileName
  | none => configFileName

/-- The settings for a command. A settings file that is named must exist. -/
def loadConfig (disk : Disk) (model : String) : Option String → Except ConfigError Config
  | some path => Config.load disk path
  | none => Config.loadOrDefault disk (defaultConfigPath model)

/-- The event that sums up a run. -/
def summary (out : OutputDirectory) (report : Report) : Event :=
  if report.isSuccess then .runSucceeded report.emitted.length out.indexPath
  else .runFailed report.failures.length report.skipped report.attempted

/-- **Writes the artifacts of a model.** -/
def runGenerate (disk : Disk) (model out : String) (config : Option String) (failFast : Bool) :
    Work :=
  match Manifest.load disk model with
  | .error error => .fatal disk (loadFailure error)
  | .ok manifest =>
    match loadConfig disk model config with
    | .error error => .fatal disk (configFailure error)
    | .ok config =>
      let failFast := config.generate.failFast || failFast
      let config := { config with generate := { config.generate with failFast } }
      match manifest.pool.runInto config disk out with
      | .error error => .fatal disk (emitFailure error)
      | .ok (directory, run) =>
        { success := run.report.isSuccess
          events := run.events ++ [summary directory run.report]
          disk := run.state.disk }

/-- **Prints the path tree of a class.** -/
def runTree (disk : Disk) (model cls : String) : Work :=
  match Manifest.load disk model with
  | .error error => .fatal disk (loadFailure error)
  | .ok manifest =>
    match manifest.pool.get? cls with
    | none => .fatal disk ("class '" ++ cls ++ "' not found in " ++ model)
    | some root =>
      { success := true
        stdout := (PathNode.dumpTree (manifest.pool.tree root)).pretty ++ "\n"
        events := manifest.pool.treeEvents root
        disk }

/-- The paths that a command reads. -/
def Action.inputs : Action → List String
  | .generate model _ config _ => [model, config.getD (defaultConfigPath model)]
  | .tree model _ => [model]

/-- The directory that a command writes into, if it writes. -/
def Action.output? : Action → Option String
  | .generate _ out _ _ => some out
  | .tree _ _ => none

/-- Carries out a command. -/
def Action.work (disk : Disk) : Action → Work
  | .generate model out config failFast => runGenerate disk model out config failFast
  | .tree model cls => runTree disk model cls

/-- The lines of the log. Details are left out unless they are asked for. -/
def logLines (verbose : Bool) (events : List Event) : List String :=
  (events.filter fun event => verbose || event.level != .debug).map Event.line

/-- The name and version of the program. -/
def versionText : String := "fieldpaths 0.3.0\n"

/-- What an invocation leaves behind. -/
def Invocation.outcome (disk : Disk) : Invocation → Outcome
  | .version => { code := 0, stdout := versionText, disk }
  | .help form => { code := 0, stdout := form.help, disk }
  | .run verbose action =>
    let work := action.work disk
    { code := if work.success then 0 else 1
      stdout := work.stdout
      log := logLines verbose work.events
      disk := work.disk }

/-- **Carries out a command line.** -/
def run (disk : Disk) (args : List String) : Outcome :=
  match Invocation.ofArguments args with
  | .error error => { code := 2, complaint := error.text, disk }
  | .ok invocation => invocation.outcome disk

end QueryPaths.Command
