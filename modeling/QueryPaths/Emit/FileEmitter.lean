import QueryPaths.Disk.Interruption
import QueryPaths.Disk.RawPath
import QueryPaths.Emit.Directory

/-! # Emission into files of any kind

    What the directory emitter does depends little on what a path is, and on how
    a file is stored. Here it is done for any kind of path and any way of storing,
    so with paths that are no texts, and on disks where a write can fail half-way.

    * **`FilePath`**: a kind of path, with joining and a text form.
    * **`FileEmitter`**: where artifacts are written, and how they are stored.
    * **`Filing`**: what was written so far, and where.
    * **`FileEmitter.write`**, **`FileEmitter.finish`**: the steps.
    * **`OutputDirectory.onRawPaths`**, **`OutputDirectory.onFaultyDisk`**: an
      output directory on raw paths, and where writes may be broken off.
-/

namespace QueryPaths

/-- **A kind of path.** -/
class FilePath (π : Type) where
  /-- The path of a child, seen from the path of a directory. -/
  join : π → String → π
  /-- The path as text. -/
  text : π → String

instance : FilePath String where
  join := Disk.Path.join
  text := id

instance : FilePath Disk.RawPath where
  join := Disk.RawPath.join
  text := Disk.RawPath.text

/-- **Where and how artifacts are written**: with paths in `π`, into a store in `σ`. -/
structure FileEmitter (π σ : Type) where
  /-- Makes a directory and writes a file, which need not be in it. -/
  store : σ → (directory path : π) → (text : String) → Except EmitError Unit × σ
  /-- The path of the output directory. -/
  directory : π
  /-- The index file, seen from the output directory. -/
  indexFile : String
  /-- How artifacts are rendered. -/
  renderer : Renderer

/-- An artifact that was written to a file. -/
structure Filed (π : Type) where
  /-- The dotted package of the artifact. -/
  package : String
  /-- The name of the generated module. -/
  typeName : String
  /-- The path of the file it was written to. -/
  path : π

/-- **The artifact as the index names it**, with its path as text. -/
def Filed.shown {π : Type} [FilePath π] (f : Filed π) : Written :=
  ⟨f.package, f.typeName, FilePath.text f.path⟩

/-- The state of emission into files. -/
structure Filing (π σ : Type) where
  /-- The store. -/
  files : σ
  /-- The artifacts written so far, oldest first. -/
  filed : List (Filed π) := []

namespace FileEmitter

variable {π σ : Type} [FilePath π]

/-- The path of the index file. -/
def indexPath (e : FileEmitter π σ) : π := FilePath.join e.directory e.indexFile

/-- The directory of a package. -/
def packageDirectory (e : FileEmitter π σ) (segments : List String) : π :=
  segments.foldl FilePath.join e.directory

/-- The file of an artifact. -/
def artifactPath (e : FileEmitter π σ) (segments : List String) (typeName : String) : π :=
  FilePath.join (e.packageDirectory segments) (typeName ++ ".rs")

/-- **Emits one artifact.** -/
def write (e : FileEmitter π σ) (s : Filing π σ) (target : Target) (tree : List PathNode) :
    Emission (Filing π σ) :=
  if s.filed.any fun f => f.package == target.package && f.typeName == target.typeName then
    .refused s (.duplicateArtifact target.package target.typeName)
  else
    match packageSegments target.package with
    | .error error => .refused s error
    | .ok segments =>
      match e.renderer.renderText target tree with
      | .error error => .refused s error
      | .ok text =>
        let path := e.artifactPath segments target.typeName
        match e.store s.files (e.packageDirectory segments) path text with
        | (.error error, files) => .refused { s with files } error
        | (.ok (), files) =>
          let entry : Filed π := ⟨target.package, target.typeName, path⟩
          .done { files, filed := s.filed ++ [entry] } [.wroteArtifact (FilePath.text path)]

/-- **Writes the index** of all artifacts written so far. -/
def finish (e : FileEmitter π σ) (s : Filing π σ) : Emission (Filing π σ) :=
  match indexText (s.filed.map Filed.shown) with
  | .error error => .refused s error
  | .ok text =>
    match e.store s.files e.directory e.indexPath text with
    | (.error error, files) => .refused { s with files } error
    | (.ok (), files) =>
      .done { s with files } [.wroteIndex (FilePath.text e.indexPath) s.filed.length]

/-- **The emitter.** -/
def emitter (e : FileEmitter π σ) : Emitter (Filing π σ) where
  write := e.write
  finish := e.finish

end FileEmitter

namespace OutputDirectory

/-- Makes a directory and writes a file, unless that is broken off. -/
def storeUntil (interruption : Option Disk.Interruption) (disk : Disk)
    (directory path text : String) : Except EmitError Unit × Disk :=
  match disk.createAll directory with
  | (.error fault, partly) => (.error (.io directory fault), partly)
  | (.ok (), ready) =>
    match ready.writeUntil interruption path text.toUTF8 with
    | (.error fault, partly) => (.error (.io path fault), partly)
    | (.ok (), stored) => (.ok (), stored)

/-- The output directory on a disk on which writes may be broken off. -/
def onFaultyDisk (out : OutputDirectory) : FileEmitter String FaultyDisk where
  store files directory path text :=
    let (result, disk) := storeUntil files.interruptions.head?.join files.disk directory path text
    (result, ⟨disk, files.interruptions.tail⟩)
  directory := out.directory
  indexFile := out.indexFile
  renderer := out.renderer

end OutputDirectory

end QueryPaths
