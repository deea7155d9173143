/-! # Forms of command lines

    What may be given to a command, and how that is shown to its user.

    * **`Parameter`**: an option or a flag.
    * **`Form`**: a command, with what may be given to it.
    * **`Form.usage`**: how it is called, in one line.
    * **`Form.usageAround`**: the same, for what was given already.
    * **`Form.help`**: the page that explains it.
    * **`Form.program`**, **`Form.generate`**, **`Form.tree`**, **`Form.helper`**:
      the forms of this program.
-/

namespace QueryPaths.Command

/-! ## Parameters -/

/-- What stands behind a parameter's name, and what the parameter is for. -/
inductive ParameterKind where
  /-- Nothing stands behind it: that it is given says enough. -/
  | flag
  /-- Nothing stands behind it, and it asks for the page of help. -/
  | help
  /-- Nothing stands behind it, and it asks for the version. -/
  | version
  /-- A path, which must not be empty. -/
  | path
  /-- Any text. -/
  | text
  deriving DecidableEq, Repr, Inhabited

/-- Does a value stand behind it? -/
def ParameterKind.takesValue : ParameterKind → Bool
  | .path | .text => true
  | .flag | .help | .version => false

/-- A flag, or an option with a value. -/
structure Parameter where
  /-- The full name, without hyphens. -/
  name : String
  /-- The letter that may stand for it. -/
  letter : Option Char := none
  /-- What stands behind it. -/
  kind : ParameterKind
  /-- Must it be given? -/
  required : Bool := false
  /-- Is it one of the command's own, and not one that every command has? -/
  own : Bool := true
  /-- What it is for. -/
  note : String
  deriving DecidableEq, Repr, Inhabited

namespace Parameter

/-- How a parameter is written, with a word in capitals for its value. -/
def label (p : Parameter) : String :=
  if p.kind.takesValue then "--" ++ p.name ++ " <" ++ p.name.toUpper ++ ">" else "--" ++ p.name

/-- All ways to write a parameter. Those without a letter are set in line with the
    others. -/
def ways (p : Parameter) : String :=
  match p.letter with
  | some c => "-" ++ String.singleton c ++ ", " ++ p.label
  | none => "    " ++ p.label

/-- May a user choose whether to give it, to change what the command does? -/
def isChoice (p : Parameter) : Bool :=
  !p.required && p.kind != .help && p.kind != .version

end Parameter

/-! ## Forms -/

/-- A command, with what may be given to it. -/
structure Form where
  /-- The words that call it, from the name of the program on. -/
  call : String
  /-- What it does. -/
  about : String
  /-- Its parameters, in the order of the page of help. -/
  parameters : List Parameter
  /-- The commands below it and what they do. If there are any, one must follow. -/
  commands : List (String × String) := []
  /-- The words that may follow it, and what they are for. -/
  operand : Option (String × String) := none
  deriving DecidableEq, Repr, Inhabited

namespace Form

/-- The parameters that must be given. -/
def required (form : Form) : List Parameter := form.parameters.filter (·.required)

/-- The parameter of a full name. -/
def find? (form : Form) (name : String) : Option Parameter :=
  form.parameters.find? (·.name == name)

/-- The parameter that a letter stands for. -/
def ofLetter? (form : Form) (letter : Char) : Option Parameter :=
  form.parameters.find? (·.letter == some letter)

/-- Is it the name of a command below it? -/
def hasCommand (form : Form) (name : String) : Bool := (form.commands.lookup name).isSome

/-! ## Usage -/

/-- What a command line ends with, behind the parameters. -/
def ending (form : Form) : List String :=
  if form.commands.isEmpty then (form.operand.map (·.1)).toList else ["<COMMAND>"]

/-- **How a command is called.** Parameters that may be left out are only hinted at. -/
def usage (form : Form) : String :=
  let hint := if form.parameters.any (·.isChoice) then ["[OPTIONS]"] else []
  " ".intercalate ([form.call] ++ hint ++ form.required.map (·.label) ++ form.ending)

/-- The command's own parameters, as alternatives. -/
def alternatives (form : Form) : String :=
  "<" ++ "|".intercalate ((form.parameters.filter (·.own)).map (·.label)) ++ ">"

/-- **How a command is called, around what was given already**: the parameters that
    must be given, and then those mentioned. With `grouped`, the command's own are
    shown as alternatives instead. -/
def usageAround (form : Form) (mentioned : List Parameter) (grouped : Bool) : String :=
  let shown := (form.required ++ mentioned).eraseDups
  let labels :=
    if grouped then (shown.filter (!·.own)).map (·.label) ++ [form.alternatives]
    else shown.map (·.label)
  " ".intercalate ([form.call] ++ labels ++ form.ending)

/-! ## Help -/

/-- Rows of two columns, the first as wide as its widest entry. -/
def columns (rows : List (String × String)) : List String :=
  let width := (rows.map (·.1.length)).foldl max 0
  rows.map fun (head, note) =>
    "  " ++ head ++ String.ofList (List.replicate (width - head.length) ' ') ++ "  " ++ note

/-- A titled part of the page of help, if there is anything in it. -/
def titled (title : String) (rows : List (String × String)) : List (List String) :=
  if rows.isEmpty then [] else [title :: columns rows]

/-- **The page that explains a command.** -/
def help (form : Form) : String :=
  let parts :=
    [[form.about], ["Usage: " ++ form.usage]] ++ titled "Commands:" form.commands ++
      titled "Arguments:" form.operand.toList ++
      titled "Options:" (form.parameters.map fun p => (p.ways, p.note))
  "\n\n".intercalate (parts.map ("\n".intercalate ·)) ++ "\n"

end Form

/-! ## The forms of this program -/

/-- The flag for more reports on the way. It belongs to the program, and may be given
    to the commands too. -/
def verboseFlag (own : Bool) : Parameter where
  name := "verbose"
  letter := some 'v'
  kind := .flag
  own := own
  note := "Log traversal details"

/-- The flag that asks for the page of help. -/
def helpFlag : Parameter where
  name := "help"
  letter := some 'h'
  kind := .help
  own := false
  note := "Print help"

/-- The flag that asks for the version. -/
def versionFlag : Parameter where
  name := "version"
  letter := some 'V'
  kind := .version
  own := false
  note := "Print version"

/-- The option that names the manifest. -/
def modelOption : Parameter where
  name := "model"
  kind := .path
  required := true
  note := "Model manifest (JSON)"

/-- The option that names the output directory. -/
def outOption : Parameter where
  name := "out"
  kind := .path
  required := true
  note := "Output directory"

/-- The option that names the settings file. -/
def configOption : Parameter where
  name := "config"
  kind := .path
  note := "Config file; defaults to `fieldpaths.toml` next to the manifest"

/-- The flag that ends a run with its first failure. -/
def failFastFlag : Parameter where
  name := "fail-fast"
  kind := .flag
  note := "Stop at the first class that fails to generate"

/-- The option that names a class. -/
def classOption : Parameter where
  name := "class"
  kind := .text
  required := true
  note := "Qualified name of the root class"

namespace Form

/-- The command that writes the artifacts of a model. -/
def generate : Form where
  call := "fieldpaths generate"
  about := "Write one artifact per project class plus an index file"
  parameters := [modelOption, verboseFlag false, outOption, configOption, failFastFlag, helpFlag]

/-- The command that prints a path tree. -/
def tree : Form where
  call := "fieldpaths tree"
  about := "Print the path tree of a single class as JSON"
  parameters := [modelOption, verboseFlag false, classOption, helpFlag]

/-- The command that prints a page of help. -/
def helper : Form where
  call := "fieldpaths help"
  about := "Print this message or the help of the given subcommand(s)"
  parameters := []
  operand := some ("[COMMAND]...", "Print help for the subcommand(s)")

/-- The program as a whole. -/
def program : Form where
  call := "fieldpaths"
  about := "Generate query path constants for model classes"
  parameters := [verboseFlag true, helpFlag, versionFlag]
  commands := [("generate", generate.about), ("tree", tree.about), ("help", helper.about)]

/-- The form of a command. -/
def ofName? (name : String) : Option Form :=
  match name with
  | "generate" => some generate
  | "tree" => some tree
  | "help" => some helper
  | _ => none

end Form

end QueryPaths.Command
