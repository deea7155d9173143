import QueryPaths.Emit.Error
import QueryPaths.Text.Quoted

/-! # Events

    What a run reports while it works. An event has a level, a fixed message
    and named fields.

    * **`Event`**: what can be reported.
    * **`Event.level`**, **`Event.message`**, **`Event.fields`**: its parts.
    * **`Event.line`**: the event as a line of the log.
-/

namespace QueryPaths

/-- How important an event is. -/
inductive Level where
  | debug
  | info
  | warn
  | error
  deriving DecidableEq, Repr, Inhabited

/-- The word for a level. -/
def Level.text : Level → String
  | .debug => "DEBUG"
  | .info => "INFO"
  | .warn => "WARN"
  | .error => "ERROR"

/-- The value of an event's field. -/
inductive FieldValue where
  /-- A text that the log shows in quotes. -/
  | text (s : String)
  /-- A text that the log shows as it is. -/
  | bare (s : String)
  deriving DecidableEq, Repr, Inhabited

/-- The value itself, without quotes. -/
def FieldValue.value : FieldValue → String
  | .text s => s
  | .bare s => s

/-- The value as the log shows it. -/
def FieldValue.shown : FieldValue → String
  | .text s => Text.quoted s
  | .bare s => s

/-- What a run reports. -/
inductive Event where
  /-- The fields of a class are expanded below the path `lead`. -/
  | enterClass (cls : String) (fields : Nat) (lead : String)
  /-- A link names no class of the pool. -/
  | unresolvedLink (cls field target : String)
  /-- A link leads back to a class on the way. -/
  | cyclicLink (cls field target : String)
  /-- A plain field was generated. -/
  | generateLeaf (path : String)
  /-- An artifact was written to a file. -/
  | wroteArtifact (path : String)
  /-- The index was written, with so many artifacts in it. -/
  | wroteIndex (path : String) (artifacts : Nat)
  /-- The artifact of a class was emitted. -/
  | generated (package typeName : String) (nodes : Nat)
  /-- The artifact of a class could not be emitted. -/
  | classFailed (cls : String) (error : EmitError)
  /-- The run could not be finished. -/
  | finishFailed (error : EmitError)
  /-- A run from the command line succeeded. -/
  | runSucceeded (artifacts : Nat) (index : String)
  /-- A run from the command line had failures. -/
  | runFailed (failed skipped attempted : Nat)
  /-- A command could not be carried out. -/
  | fatal (text : String)
  deriving DecidableEq, Repr, Inhabited

namespace Event

/-- The level of an event. -/
def level : Event → Level
  | enterClass .. | unresolvedLink .. | cyclicLink .. | generateLeaf .. => .debug
  | wroteArtifact .. | wroteIndex .. => .debug
  | generated .. | runSucceeded .. => .info
  | runFailed .. => .warn
  | classFailed .. | finishFailed .. | fatal .. => .error

/-- The message of an event. -/
def message : Event → String
  | enterClass .. => "building field paths"
  | unresolvedLink .. => "link target not in class pool, generating plain field"
  | cyclicLink .. => "link target already on path, generating plain field"
  | generateLeaf .. => "generating field"
  | wroteArtifact .. => "wrote artifact"
  | wroteIndex .. => "wrote index"
  | generated .. => "generated field paths"
  | classFailed .. => "failed to generate field paths"
  | finishFailed .. => "failed to finish generation"
  | runSucceeded .. => "field paths generated"
  | runFailed .. => "field path generation finished with failures"
  | fatal text => text

/-- How the target of a link is shown. -/
def targetText (target : String) : String := "Some(" ++ Text.quoted target ++ ")"

/-- The fields of an event, in order. -/
def fields : Event → List (String × FieldValue)
  | enterClass cls count lead =>
    [("class", .text cls), ("fields", .bare (Nat.repr count)), ("prefix", .text lead)]
  | unresolvedLink cls field target =>
    [("class", .text cls), ("field", .bare field), ("target", .bare (targetText target))]
  | cyclicLink cls field target =>
    [("class", .text cls), ("field", .bare field), ("target", .bare (targetText target))]
  | generateLeaf path => [("path", .bare path)]
  | wroteArtifact path => [("path", .bare path)]
  | wroteIndex path artifacts => [("path", .bare path), ("artifacts", .bare (Nat.repr artifacts))]
  | generated package typeName nodes =>
    [("package", .text package), ("type_name", .bare typeName), ("nodes", .bare (Nat.repr nodes))]
  | classFailed cls error => [("class", .text cls), ("error", .bare error.message)]
  | finishFailed error => [("error", .bare error.message)]
  | runSucceeded artifacts index =>
    [("artifacts", .bare (Nat.repr artifacts)), ("index", .bare index)]
  | runFailed failed skipped attempted =>
    [("failed", .bare (Nat.repr failed)), ("skipped", .bare (Nat.repr skipped)),
      ("attempted", .bare (Nat.repr attempted))]
  | fatal _ => []

/-- Control characters that could steer a terminal are shown by their code in the
    message of a log line. -/
def guardChar (c : Char) : List Char :=
  match c with
  | '\x1b' => "\\x1b".toList
  | '\x07' => "\\x07".toList
  | '\x08' => "\\x08".toList
  | '\x0c' => "\\x0c".toList
  | '\x7f' => "\\x7f".toList
  | c => if 0x80 ≤ c.toNat && c.toNat ≤ 0x9f then Text.codePointEscape c else [c]

/-- **The event as a line of the log.** -/
def line (e : Event) : String :=
  let message := String.ofList (e.message.toList.flatMap guardChar)
  let shown := e.fields.map fun (key, value) => " " ++ key ++ "=" ++ value.shown
  e.level.text ++ " " ++ message ++ String.join shown

end Event

end QueryPaths
