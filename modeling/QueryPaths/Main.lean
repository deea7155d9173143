import QueryPaths.Command.Run

/-! # The program

    The command line on a real machine: what the command can see is copied onto
    a disk, the command is carried out on that disk, and what it changed there is
    changed on the machine.

    * **`sight`**: the disk of an invocation.
    * **`commit`**: the changes that it made.
-/

namespace QueryPaths.Command

/-! ## Looking at the machine -/

/-- Puts what the machine has at a place onto a disk. -/
def look (disk : Disk) (place : Disk.Place) : IO Disk := do
  if place = [] then return disk
  let here := (← IO.currentDir) / Disk.placeText place
  if ← here.isDir then return disk.put place .directory
  if ← here.pathExists then return disk.put place (.file (← IO.FS.readBinFile here))
  return disk

/-- Looks at each place along the steps of a path. Answers the last one, too. -/
def lookAlong (disk : Disk) (here : Disk.Place) : List String → IO (Disk × Disk.Place)
  | [] => return (disk, here)
  | "." :: rest => lookAlong disk here rest
  | ".." :: rest => lookAlong disk here.dropLast rest
  | step :: rest => do lookAlong (← look disk (here ++ [step])) (here ++ [step]) rest

/-- Looks at everything below a place, so many directories deep. -/
def lookBelow (disk : Disk) (place : Disk.Place) : Nat → IO Disk
  | 0 => return disk
  | depth + 1 => do
    if !disk.isDirectoryAt place then return disk
    let here := (← IO.currentDir) / Disk.placeText place
    (← here.readDir).toList.foldlM (fun disk entry => do
      let inner := place ++ [entry.fileName]
      lookBelow (← look disk inner) inner depth) disk

/-- How many directories deep an output directory is looked at. -/
def maxDirectories : Nat := 256

/-- **The disk that a command can see**: the files it reads, the directory it writes
    into, and the directories on the way there. -/
def sight (action : Action) : IO Disk := do
  let cwd := Disk.Path.names (← IO.currentDir).toString
  let (start, _) ← lookAlong { entries := [], cwd } [] cwd
  let disk ← action.inputs.foldlM (fun disk path => do
    return (← lookAlong disk (disk.start path) (Disk.steps path)).1) start
  match action.output? with
  | none => return disk
  | some out =>
    let (disk, place) ← lookAlong disk (disk.start out) (Disk.steps out)
    lookBelow disk place maxDirectories

/-! ## Changing the machine -/

/-- **Makes the changes** between two disks on the machine. -/
def commit (before after : Disk) : IO Unit :=
  after.entries.forM fun (place, node) => do
    if before.node? place ≠ some node then
      let here := (← IO.currentDir) / Disk.placeText place
      match node with
      | .directory => IO.FS.createDir here
      | .file content => IO.FS.writeBinFile here content

/-- Carries out an invocation on the machine. -/
def Invocation.perform (invocation : Invocation) : IO UInt32 := do
  let before ←
    match invocation with
    | .version | .help _ => pure { entries := [] }
    | .run _ action => sight action
  let outcome := invocation.outcome before
  outcome.log.forM (IO.eprintln ·)
  commit before outcome.disk
  IO.print outcome.stdout
  return outcome.code.toUInt32

end QueryPaths.Command

open QueryPaths.Command in
/-- Carries out the command line that the program is started with. -/
def main (args : List String) : IO UInt32 := do
  match Invocation.ofArguments args with
  | .ok invocation => invocation.perform
  | .error error =>
    IO.eprint error.text
    return 2
