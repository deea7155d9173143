import QueryPaths.Command.Form

/-! # Faults of a command line

    Why a command line cannot be understood, and what its user is told then: the
    fault, mostly with a command line that would do, and where more can be read.

    * **`UsageError`**: the fault.
    * **`UsageError.message`**: the fault in words.
    * **`UsageError.text`**: all that the user is told.
-/

namespace QueryPaths.Command

/-- Why a command line cannot be understood. -/
inductive UsageError where
  /-- Nothing is given: the page of help is shown. -/
  | nothing (form : Form)
  /-- An argument that has no place where it stands. -/
  | unexpected (argument usage : String)
  /-- A word that names no command, where one must follow. -/
  | unknownCommand (name usage : String)
  /-- A command behind the two hyphens that end the options. -/
  | commandBehindStop (name usage : String)
  /-- Something is given, but no command. -/
  | noCommand (form : Form)
  /-- An option without its value. -/
  | noValue (label : String)
  /-- A flag with a value. -/
  | needlessValue (value label usage : String)
  /-- A parameter that is given once more. -/
  | repeated (label usage : String)
  /-- Options that are not given, though they must be. -/
  | missing (labels : List String) (usage : String)
  deriving DecidableEq, Repr, Inhabited

namespace UsageError

/-- **The fault in words.** -/
def message : UsageError → String
  | nothing form => form.about
  | unexpected argument _ | commandBehindStop argument _ =>
    "unexpected argument '" ++ argument ++ "' found"
  | unknownCommand name _ => "unrecognized subcommand '" ++ name ++ "'"
  | noCommand form =>
    "'" ++ form.call ++ "' requires a subcommand but one was not provided"
  | noValue label => "a value is required for '" ++ label ++ "' but none was supplied"
  | needlessValue value label _ =>
    "unexpected value '" ++ value ++ "' for '" ++ label ++ "' found; no more were expected"
  | repeated label _ => "the argument '" ++ label ++ "' cannot be used multiple times"
  | missing _ _ => "the following required arguments were not provided:"

/-- What is listed below the fault. -/
def details : UsageError → List String
  | missing labels _ => labels
  | noCommand form => ["[subcommands: " ++ ", ".intercalate (form.commands.map (·.1)) ++ "]"]
  | _ => []

/-- What is advised. -/
def advice? : UsageError → Option String
  | commandBehindStop name _ =>
    some ("tip: subcommand '" ++ name ++ "' exists; to use it, remove the '--' before it")
  | _ => none

/-- A command line that would do. -/
def usage? : UsageError → Option String
  | unexpected _ usage | unknownCommand _ usage | commandBehindStop _ usage => some usage
  | needlessValue _ _ usage | repeated _ usage | missing _ usage => some usage
  | noCommand form => some form.usage
  | nothing _ | noValue _ => none

/-- Puts a line in from the margin. -/
def indented (line : String) : String := "  " ++ line

/-- **All that the user is told**, in paragraphs. -/
def text : UsageError → String
  | nothing form => form.help
  | error =>
    let fault := "\n".intercalate (("error: " ++ error.message) :: error.details.map indented)
    let advice := (error.advice?.map indented).toList
    let usage := (error.usage?.map ("Usage: " ++ ·)).toList
    "\n\n".intercalate ([fault] ++ advice ++ usage ++
      ["For more information, try '--help'."]) ++ "\n"

end UsageError

end QueryPaths.Command
