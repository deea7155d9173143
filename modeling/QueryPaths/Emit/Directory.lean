import QueryPaths.Config.Settings
import QueryPaths.Disk.Tree
import QueryPaths.Emit.Emitter
import QueryPaths.Emit.Index

/-! # Emission into a directory

    The directory emitter writes each artifact to a file of its own, in the
    directory of its package below the output directory, and at the end the
    index of all of them.

    Its files lie on a `Disk`, with what that leaves out: links, special files and
    permissions. Path texts are Unicode, and storing a file fails before the file is
    touched or not at all. A `FileEmitter` does the same without these two limits.

    * **`OutputDirectory`**: where and how to write.
    * **`Output`**: the disk, and what was written to it so far.
    * **`OutputDirectory.write`** checks in a fixed order: is the target new, is
      the package made of identifiers, can the tree be rendered. Only then is
      the disk touched, and only after that is the artifact recorded.
    * **`OutputDirectory.finish`** writes the index.
-/

namespace QueryPaths

/-- Where and how artifacts are written. -/
structure OutputDirectory where
  /-- The absolute path of the output directory. -/
  directory : String
  /-- The index file, seen from the output directory. -/
  indexFile : String
  /-- How artifacts are rendered. -/
  renderer : Renderer
  deriving DecidableEq, Repr, Inhabited

/-- The state of emission into a directory. -/
structure Output where
  /-- The disk. -/
  disk : Disk
  /-- The artifacts written so far, oldest first. -/
  written : List Written := []
  deriving DecidableEq, Inhabited

/-- The written artifacts in the order of package and type name. -/
def Output.sorted (o : Output) : List Written := o.written.mergeSort Written.le

namespace OutputDirectory

/-- **Opens a directory for output.** It need not exist, but its path must not be
    empty. -/
def openAt (config : EmitConfig) (disk : Disk) (path : String) :
    Except EmitError OutputDirectory :=
  match Disk.Path.absolute (Disk.placeText disk.cwd) path with
  | .error fault => .error (.io path fault)
  | .ok directory =>
    .ok ⟨directory, config.indexFile, ⟨config.selfConst, config.docs⟩⟩

/-- The path of the index file. -/
def indexPath (out : OutputDirectory) : String := Disk.Path.join out.directory out.indexFile

/-- The directory of a package. -/
def packageDirectory (out : OutputDirectory) (segments : List String) : String :=
  segments.foldl Disk.Path.join out.directory

/-- The file of an artifact. -/
def artifactPath (out : OutputDirectory) (segments : List String) (typeName : String) : String :=
  Disk.Path.join (out.packageDirectory segments) (typeName ++ ".rs")

/-- Makes a directory and writes a file, which need not be in it. -/
def store (disk : Disk) (directory path text : String) : Except EmitError Unit × Disk :=
  match disk.createAll directory with
  | (.error fault, partly) => (.error (.io directory fault), partly)
  | (.ok (), ready) =>
    match ready.writeFile path text.toUTF8 with
    | .error fault => (.error (.io path fault), ready)
    | .ok stored => (.ok (), stored)

/-- **Emits one artifact.** -/
def write (out : OutputDirectory) (o : Output) (target : Target) (tree : List PathNode) :
    Emission Output :=
  if o.written.any fun w => w.package == target.package && w.typeName == target.typeName then
    .refused o (.duplicateArtifact target.package target.typeName)
  else
    match packageSegments target.package with
    | .error e => .refused o e
    | .ok segments =>
      match out.renderer.renderText target tree with
      | .error e => .refused o e
      | .ok text =>
        let path := out.artifactPath segments target.typeName
        match store o.disk (out.packageDirectory segments) path text with
        | (.error e, disk) => .refused { o with disk } e
        | (.ok (), disk) =>
          let entry : Written := ⟨target.package, target.typeName, path⟩
          .done { disk, written := o.written ++ [entry] } [.wroteArtifact path]

/-- **Writes the index** of all artifacts written so far. -/
def finish (out : OutputDirectory) (o : Output) : Emission Output :=
  match indexText o.written with
  | .error e => .refused o e
  | .ok text =>
    match store o.disk out.directory out.indexPath text with
    | (.error e, disk) => .refused { o with disk } e
    | (.ok (), disk) => .done { o with disk } [.wroteIndex out.indexPath o.written.length]

/-- **The directory emitter.** -/
def emitter (out : OutputDirectory) : Emitter Output where
  write := out.write
  finish := out.finish

end OutputDirectory

end QueryPaths
