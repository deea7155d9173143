import QueryPaths.Command.Arguments

/-! # Invocations

    What a command line asks for: the program's own parameters first, then a command
    and what is given to it.

    * **`Action`**: a command that does something.
    * **`Invocation`**: what a command line asks for.
    * **`Invocation.ofArguments`**: reads a command line.
-/

namespace QueryPaths.Command

/-- A command and its options. -/
inductive Action where
  /-- Write the artifacts of a model. -/
  | generate (model out : String) (config : Option String) (failFast : Bool)
  /-- Print the path tree of a class. -/
  | tree (model cls : String)
  deriving DecidableEq, Repr, Inhabited

/-- What a command line asks for. -/
inductive Invocation where
  /-- Print the name and version of the program. -/
  | version
  /-- Print the page that explains a command. -/
  | help (form : Form)
  /-- Carry out a command; `verbose` if everything is to be reported. -/
  | run (verbose : Bool) (action : Action)
  deriving DecidableEq, Repr, Inhabited

namespace Invocation

/-- Takes the flag for more reports into account. -/
def ofAction (verbose : Bool) (given : Given) (action : Action) : Invocation :=
  .run (verbose || given.has (verboseFlag false).name) action

/-- What is given to the generating command. -/
def ofGenerate (verbose : Bool) (given : Given) : Except Halt Invocation :=
  match given.value? modelOption.name, given.value? outOption.name with
  | some model, some out =>
    .ok (ofAction verbose given
      (.generate model out (given.value? configOption.name) (given.has failFastFlag.name)))
  | _, _ => .error (.fault (Form.generate.incomplete given))

/-- What is given to the command that prints a tree. -/
def ofTree (verbose : Bool) (given : Given) : Except Halt Invocation :=
  match given.value? modelOption.name, given.value? classOption.name with
  | some model, some cls => .ok (ofAction verbose given (.tree model cls))
  | _, _ => .error (.fault (Form.tree.incomplete given))

/-- The page of help that names of commands lead to. -/
def ofHelp (form : Form) : List String → Except Halt Invocation
  | [] => .ok (.help form)
  | name :: rest =>
    match Form.ofName? name with
    | some inner =>
      if form.hasCommand name then ofHelp inner rest
      else .error (.fault (.unknownCommand name form.usage))
    | none => .error (.fault (.unknownCommand name form.usage))

/-- A command with its arguments; `verbose` if the flag stands in front of it. -/
def ofCommand (verbose : Bool) (name : String) (args : List String) : Except Halt Invocation :=
  match name with
  | "generate" => do ofGenerate verbose (← Form.generate.read {} args).given
  | "tree" => do ofTree verbose (← Form.tree.read {} args).given
  | _ => ofHelp Form.program args

/-- A command line, up to where reading it is halted. -/
def reading (args : List String) : Except Halt Invocation := do
  let front ← Form.program.read {} args
  match front.command with
  | some (name, rest) => ofCommand (front.given.has (verboseFlag true).name) name rest
  | none =>
    throw (.fault (if front.given.settled.isEmpty then .nothing Form.program
      else .noCommand Form.program))

/-- **What a command line asks for**, or the fault that is met first. A request for
    help or for the version is answered as soon as it is met. -/
def ofArguments (args : List String) : Except UsageError Invocation :=
  match reading args with
  | .ok invocation => .ok invocation
  | .error .version => .ok .version
  | .error (.help form) => .ok (.help form)
  | .error (.fault error) => .error error

end Invocation

end QueryPaths.Command
