import QueryPaths.Emit.Renderer
import QueryPaths.Trace.Event

/-! # Emitters

    An emitter takes the path trees of classes one after the other and is told
    when there are no more. It keeps a state of its own, and each step answers
    whether it succeeded.
-/

namespace QueryPaths

/-- What one step of an emitter leaves behind. -/
structure Emission (σ : Type) where
  /-- The state after the step. -/
  state : σ
  /-- Did the step succeed? -/
  result : Except EmitError Unit
  /-- What the step reported. -/
  events : List Event := []

/-- **An emitter** with states in `σ`. -/
structure Emitter (σ : Type) where
  /-- Emits the path tree of one class. -/
  write : σ → Target → List PathNode → Emission σ
  /-- Completes the output. -/
  finish : σ → Emission σ

namespace Emission

/-- A step that failed, and the state that it leaves. -/
def refused {σ : Type} (state : σ) (error : EmitError) : Emission σ :=
  { state, result := .error error }

/-- A step that succeeded. -/
def done {σ : Type} (state : σ) (events : List Event := []) : Emission σ :=
  { state, result := .ok (), events }

end Emission

end QueryPaths
