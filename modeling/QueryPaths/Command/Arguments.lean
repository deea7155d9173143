import QueryPaths.Command.UsageError

/-! # Command line arguments

    Arguments are read from the left, against the form of a command. An option is
    written with its full name, and its value either behind an equals sign or as the
    next argument. In the latter case the option is looked at only when something
    else follows, so that a fault of what follows may be told first.

    * **`Argument`**: the shapes of an argument.
    * **`Given`**: the parameters that are given.
    * **`Form.read`**: reads arguments up to the end, or up to a command.
-/

namespace QueryPaths.Command

/-! ## Shapes of arguments -/

/-- The shape of an argument. -/
inductive Argument where
  /-- Two hyphens: no options follow. -/
  | stop
  /-- A full name behind two hyphens, and the text behind an equals sign. -/
  | long (name : String) (value : Option String)
  /-- Letters behind one hyphen. -/
  | short (letters : List Char)
  /-- Anything else, also a hyphen alone. -/
  | plain (text : String)
  deriving DecidableEq, Repr, Inhabited

/-- **The shape of an argument.** -/
def Argument.ofString (s : String) : Argument :=
  match s.toList with
  | ['-', '-'] => .stop
  | '-' :: '-' :: rest =>
    let name := String.ofList (rest.takeWhile (· != '='))
    match rest.dropWhile (· != '=') with
    | [] => .long name none
    | _ :: value => .long name (some (String.ofList value))
  | ['-'] => .plain s
  | '-' :: letters => .short letters
  | _ => .plain s

/-! ## What is given -/

/-- The parameters that are given. -/
structure Given where
  /-- Those that have been looked at, in order, with their values. -/
  settled : List (Parameter × String) := []
  /-- The option that was written last, whose value is an argument of its own, if
      that argument is there. -/
  pending : Option (Parameter × Option String) := none
  deriving DecidableEq, Repr, Inhabited

/-- Why the arguments are not read on. -/
inductive Halt where
  /-- The version is asked for. -/
  | version
  /-- The page of help is asked for. -/
  | help (form : Form)
  /-- There is a fault. -/
  | fault (error : UsageError)
  deriving DecidableEq, Repr, Inhabited

namespace Given

/-- Is the parameter of that name given? -/
def has (given : Given) (name : String) : Bool := given.settled.any (·.1.name == name)

/-- The value of the option of that name. -/
def value? (given : Given) (name : String) : Option String :=
  (given.settled.find? (·.1.name == name)).map (·.2)

/-- The parameters that have been looked at. -/
def parameters (given : Given) : List Parameter := given.settled.map (·.1)

/-- The parameters that have been looked at, and the pending option if its value is there. An
    option that would be given twice by that is left out. -/
def written (given : Given) : List Parameter :=
  match given.pending with
  | some (p, some _) =>
    if given.has p.name then given.parameters.filter (·.name != p.name)
    else given.parameters ++ [p]
  | _ => given.parameters

/-- **One more parameter.** It may not be there already, and a path is not empty. -/
def add (given : Given) (form : Form) (p : Parameter) (value : String) : Except Halt Given :=
  if given.has p.name then .error (.fault (.repeated p.label form.usage))
  else if p.kind = .path ∧ value = "" then .error (.fault (.noValue p.label))
  else .ok { given with settled := given.settled ++ [(p, value)] }

/-- **Looks at the pending option.** -/
def settle (given : Given) (form : Form) : Except Halt Given :=
  match given.pending with
  | none => .ok given
  | some (p, none) => .error (.fault (.noValue p.label))
  | some (p, some value) => { given with pending := none }.add form p value

end Given

/-! ## Faults that show what is given -/

namespace Form

/-- An unknown name is told with a usage around what is given already. -/
def unknownName (form : Form) (given : Given) (name : String) : UsageError :=
  .unexpected ("--" ++ name)
    (if given.written.isEmpty then form.usage else form.usageAround given.written false)

/-- A value of a flag is told with a usage around the flag and what is given already;
    if some of that is the command's own, all its own parameters are to choose from. -/
def needless (form : Form) (given : Given) (p : Parameter) (value : String) : UsageError :=
  .needlessValue value p.label
    (form.usageAround (given.parameters.filter (!·.own) ++ [p]) (given.parameters.any (·.own)))

/-- The parameters that must be given and are not. -/
def lacking (form : Form) (given : Given) : List Parameter :=
  form.required.filter fun p => !given.has p.name

/-- All missing options are told at once. -/
def incomplete (form : Form) (given : Given) : UsageError :=
  .missing ((form.lacking given).map (·.label)) (form.usageAround given.parameters false)

/-- A plain argument that is no value and no command. -/
def misplaced (form : Form) (text : String) : UsageError :=
  if form.commands.isEmpty then .unexpected text form.usage else .unknownCommand text form.usage

/-- The argument behind the two hyphens that end the options. -/
def behindStop (form : Form) (text : String) : UsageError :=
  if form.hasCommand text then .commandBehindStop text form.usage else form.misplaced text

/-! ## Reading -/

/-- Takes a flag. Pages of help and versions are answered at once. -/
def takeFlag (form : Form) (given : Given) (p : Parameter) : Except Halt Given := do
  let given ← given.settle form
  match p.kind with
  | .help => throw (.help form)
  | .version => throw .version
  | .flag | .path | .text => given.add form p ""

/-- Takes the flags that letters stand for. -/
def takeLetters (form : Form) (given : Given) : List Char → Except Halt Given
  | [] => return given
  | c :: rest =>
    match form.ofLetter? c with
    | none => throw (.fault (.unexpected ("-" ++ String.singleton c) form.usage))
    | some p => do form.takeLetters (← form.takeFlag given p) rest

/-- Takes a parameter by its full name, with the text behind an equals sign. -/
def takeName (form : Form) (given : Given) (name : String) (value : Option String) :
    Except Halt Given :=
  match form.find? name with
  | none => throw (.fault (form.unknownName given name))
  | some p =>
    match p.kind.takesValue, value with
    | false, none => form.takeFlag given p
    | false, some value => throw (.fault (form.needless given p value))
    | true, none => do return { ← given.settle form with pending := some (p, none) }
    | true, some value => do (← given.settle form).add form p value

/-- Where reading ends. -/
structure Reading where
  /-- The parameters that are given. -/
  given : Given
  /-- The command that follows, and the arguments behind it. -/
  command : Option (String × List String) := none
  deriving DecidableEq, Repr, Inhabited

/-- **Reads arguments** up to the end, or up to a command below the form. -/
def read (form : Form) (given : Given) : List String → Except Halt Reading
  | [] => do return { given := ← given.settle form }
  | arg :: rest =>
    match given.pending, Argument.ofString arg with
    | some (p, none), .plain value => form.read { given with pending := some (p, some value) } rest
    | _, .plain text =>
      if form.hasCommand text then do
        return { given := ← given.settle form, command := some (text, rest) }
      else throw (.fault (form.misplaced text))
    | _, .short letters => do form.read (← form.takeLetters given letters) rest
    | _, .long name value => do form.read (← form.takeName given name value) rest
    | _, .stop =>
      match rest with
      | [] => do return { given := ← given.settle form }
      | text :: _ => throw (.fault (form.behindStop text))

end Form

end QueryPaths.Command
