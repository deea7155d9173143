import QueryPaths.Disk.Tree

/-! # Writes that are broken off

    A file is opened before anything is written to it, and then it is empty. What
    goes wrong from there on leaves it as it is: with some of the new bytes, and
    none of the old ones.

    * **`Disk.Interruption`**: what breaks off a write.
    * **`Disk.writeUntil`** writes a file, unless it is broken off.
    * **`FaultyDisk`**: a disk with what will break off the writes to come.
-/

namespace QueryPaths

namespace Disk

/-- **What breaks off the writing of a file** that could be opened. -/
structure Interruption where
  /-- How many bytes are written before. -/
  kept : Nat
  /-- What is then said to be wrong. -/
  fault : Fault
  deriving DecidableEq, Repr, Inhabited

/-- **Writes a file, unless it is broken off.** An interruption behind the last byte comes too
    late. -/
def writeUntil (d : Disk) (interruption : Option Interruption) (path : String)
    (content : ByteArray) : Except Fault Unit × Disk :=
  match interruption.filter (·.kept < content.size) with
  | none =>
    match d.writeFile path content with
    | .error fault => (.error fault, d)
    | .ok written => (.ok (), written)
  | some i =>
    match d.writeFile path (content.extract 0 i.kept) with
    | .error fault => (.error fault, d)
    | .ok partly => (.error i.fault, partly)

end Disk

/-- **A disk on which writes may be broken off.** -/
structure FaultyDisk where
  /-- The disk. -/
  disk : Disk
  /-- What breaks off the writes to come, the next one first. -/
  interruptions : List (Option Disk.Interruption) := []
  deriving DecidableEq, Inhabited

end QueryPaths
