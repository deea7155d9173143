import QueryPaths.Emit.Error

/-! # Reports

    What a generation run answers: the artifacts it emitted, the classes that
    failed, how many it left out, and whether it could be finished.
-/

namespace QueryPaths

/-- A class whose artifact could not be emitted. -/
structure ClassFailure where
  /-- The qualified name of the class. -/
  cls : String
  /-- What went wrong. -/
  error : EmitError
  deriving DecidableEq, Repr, Inhabited

/-- The answer of a generation run. -/
structure Report where
  /-- The emitted artifacts by package and type name, in order. -/
  emitted : List (String × String) := []
  /-- The classes that failed, in order. -/
  failures : List ClassFailure := []
  /-- How many classes were left out after a failure. -/
  skipped : Nat := 0
  /-- What went wrong at the end. -/
  finishError : Option EmitError := none
  deriving DecidableEq, Repr, Inhabited

namespace Report

/-- **Did everything succeed?** -/
def isSuccess (r : Report) : Bool :=
  r.failures.isEmpty && r.skipped == 0 && r.finishError.isNone

/-- How many classes were attempted. -/
def attempted (r : Report) : Nat := r.emitted.length + r.failures.length

/-- How many things went wrong: the failed classes, and the end of the run if it
    failed. -/
def failed (r : Report) : Nat := r.failures.length + if r.finishError.isSome then 1 else 0

/-- The report with one more emitted artifact in front. -/
def addEmitted (r : Report) (package typeName : String) : Report :=
  { r with emitted := (package, typeName) :: r.emitted }

/-- The report with one more failed class in front. -/
def addFailure (r : Report) (cls : String) (error : EmitError) : Report :=
  { r with failures := ⟨cls, error⟩ :: r.failures }

end Report

end QueryPaths
