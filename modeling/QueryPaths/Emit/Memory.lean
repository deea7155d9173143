import QueryPaths.Emit.Emitter

/-! # Emission into memory

    The memory emitter keeps the rendered artifacts in the order of their
    emission. It looks at the target before it renders: a target that is
    already there is refused.
-/

namespace QueryPaths

/-- A rendered artifact. -/
structure Artifact where
  /-- The dotted package of the artifact. -/
  package : String
  /-- The name of the generated module. -/
  typeName : String
  /-- The rendered source. -/
  source : String
  deriving DecidableEq, Repr, Inhabited

/-- The artifacts emitted so far, in order. -/
structure Memory where
  /-- The artifacts, oldest first. -/
  artifacts : List Artifact := []
  deriving DecidableEq, Repr, Inhabited

namespace Memory

/-- **The artifact of a target**, if it was emitted. -/
def get? (m : Memory) (package typeName : String) : Option Artifact :=
  m.artifacts.find? fun a => a.package == package && a.typeName == typeName

/-- Emits one artifact. Nothing changes unless it can be rendered. -/
def write (renderer : Renderer) (m : Memory) (target : Target) (tree : List PathNode) :
    Emission Memory :=
  if (m.get? target.package target.typeName).isSome then
    .refused m (.duplicateArtifact target.package target.typeName)
  else
    match renderer.renderText target tree with
    | .error e => .refused m e
    | .ok source =>
      .done ⟨m.artifacts ++ [⟨target.package, target.typeName, source⟩]⟩

/-- **The memory emitter.** There is nothing to complete at the end. -/
def emitter (renderer : Renderer := {}) : Emitter Memory where
  write := write renderer
  finish m := .done m

end Memory

end QueryPaths
