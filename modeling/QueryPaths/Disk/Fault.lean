/-! # Faults of file operations

    Why reading or writing a path fails, and how that is said.
-/

namespace QueryPaths.Disk

/-- The cause of a failed file operation. -/
inductive Fault where
  /-- Some part of the path does not exist. -/
  | notFound
  /-- Something exists where a directory was to be made. -/
  | alreadyExists
  /-- A part of the path that must be a directory is a file. -/
  | notDirectory
  /-- The path names a directory where a file is needed. -/
  | isDirectory
  /-- A name in the path, or the path itself, is too long. -/
  | nameTooLong
  /-- The device is full. -/
  | noSpace
  /-- The file would be larger than files may be. -/
  | fileTooLarge
  /-- The device failed. -/
  | deviceFailure
  /-- The path holds a NUL character. -/
  | nulInPath
  /-- The file's content is not UTF-8 text. -/
  | notUtf8
  /-- An empty path was to be made absolute. -/
  | emptyPath
  deriving DecidableEq, Repr, Inhabited

/-- **The wording** of a fault. -/
def Fault.message : Fault → String
  | .notFound => "No such file or directory (os error 2)"
  | .alreadyExists => "File exists (os error 17)"
  | .notDirectory => "Not a directory (os error 20)"
  | .isDirectory => "Is a directory (os error 21)"
  | .nameTooLong => "File name too long (os error 36)"
  | .noSpace => "No space left on device (os error 28)"
  | .fileTooLarge => "File too large (os error 27)"
  | .deviceFailure => "Input/output error (os error 5)"
  | .nulInPath => "file name contained an unexpected NUL byte"
  | .notUtf8 => "stream did not contain valid UTF-8"
  | .emptyPath => "cannot make an empty path absolute"

end QueryPaths.Disk
