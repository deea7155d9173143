import QueryPaths.Disk.Fault

/-! # Emission errors

    What can go wrong when the artifact of a class, or the index, is emitted.
-/

namespace QueryPaths

/-- The cause of a failed emission. -/
inductive EmitError where
  /-- A directory or file could not be written. -/
  | io (path : String) (fault : Disk.Fault)
  /-- A name is no identifier of the generated source. -/
  | invalidIdent (text : String)
  /-- Two items of one scope would have the same name. -/
  | duplicateName (scope : List String) (name : String)
  /-- The same type was already emitted for the same package. -/
  | duplicateArtifact (package typeName : String)
  deriving DecidableEq, Repr, Inhabited

/-- **The wording** of an emission error. A scope is written outermost first. -/
def EmitError.message : EmitError → String
  | .io path fault => "failed to write '" ++ path ++ "': " ++ fault.message
  | .invalidIdent text => "'" ++ text ++ "' is not a valid identifier"
  | .duplicateName scope name =>
    "duplicate name '" ++ name ++ "' in '" ++ "::".intercalate scope ++ "'"
  | .duplicateArtifact package typeName =>
    "artifact '" ++ typeName ++ "' in package '" ++ package ++ "' was already emitted"

end QueryPaths
