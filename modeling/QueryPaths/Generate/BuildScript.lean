import QueryPaths.Generate.Directory

/-! # Generation from a build script

    A build script first tells the build tool which files it depends on, and then
    generates into the directory that the build tool gives it. All paths are seen
    from the working directory, that of the settings file too.
-/

namespace QueryPaths

/-- What a build script leaves behind. -/
structure ScriptOutcome where
  /-- What it printed. -/
  stdout : String
  /-- The error that it ended with, if any. -/
  failure : Option GenerateError
  /-- The disk. -/
  disk : Disk

/-- The code that a script ends with. -/
def ScriptOutcome.exitCode (outcome : ScriptOutcome) : Nat :=
  if outcome.failure.isSome then 1 else 0

/-- The line that makes the build tool watch a file. -/
def watchLine (path : String) : String := "cargo:rerun-if-changed=" ++ path ++ "\n"

/-- **Runs a build script** for a manifest. The files are watched in any case. -/
def buildScript (disk : Disk) (manifest : String) (config : Option String) (out : String) :
    ScriptOutcome :=
  let config := config.getD configFileName
  let generation := generateFromManifest disk manifest config out
  { stdout := String.join (["build.rs", manifest, config].map watchLine)
    failure := match generation.result with
      | .error error => some error
      | .ok _ => none
    disk := generation.disk }

end QueryPaths
