/-! # Settings

    The settings of a generation run, with their defaults, and what is asked of
    them before they are used.
-/

namespace QueryPaths

/-- What is generated. -/
structure GenerateConfig where
  /-- Appended to the simple class name to name each artifact. -/
  suffix : String := "Fields"
  /-- Does the run stop at the first class that fails? -/
  failFast : Bool := false
  deriving DecidableEq, Repr, Inhabited

/-- How artifacts are written. -/
structure EmitConfig where
  /-- The constant that holds a branch's own path. -/
  selfConst : String := "SELF"
  /-- The index file in the output directory. -/
  indexFile : String := "fieldpaths.rs"
  /-- Are the artifacts documented? -/
  docs : Bool := true
  deriving DecidableEq, Repr, Inhabited

/-- The settings of a run. -/
structure Config where
  /-- What is generated. -/
  generate : GenerateConfig := {}
  /-- How it is written. -/
  emit : EmitConfig := {}
  deriving DecidableEq, Repr, Inhabited

/-- The file name under which settings are looked for. -/
def configFileName : String := "fieldpaths.toml"

/-- A setting with an unusable value. -/
inductive InvalidSetting where
  /-- The suffix cannot be part of an identifier. -/
  | suffix (value : String)
  /-- The self constant cannot be an identifier. -/
  | selfConst (value : String)
  /-- The index file is no plain file name. -/
  | indexFile (value : String)
  deriving DecidableEq, Repr, Inhabited

/-- **The wording** of an unusable setting. -/
def InvalidSetting.message : InvalidSetting → String
  | .suffix value =>
    "generate.suffix '" ++ value ++ "' must be a non-empty identifier fragment"
  | .selfConst value => "emit.self_const '" ++ value ++ "' must be a valid identifier"
  | .indexFile value =>
    "emit.index_file '" ++ value ++ "' must be a plain `.rs` file name"

/-! ## Validation -/

/-- ASCII letters, ASCII digits and underscores only. -/
def isIdentFragment (s : String) : Bool :=
  s.toList.all fun c => c.isAlphanum || c == '_'

/-- A fragment that starts with no digit and is more than an underscore. -/
def isPlainIdent (s : String) : Bool :=
  s.toList.head?.any (fun c => c.isAlpha || c == '_') && s != "_" && isIdentFragment s

/-- A name that ends in `.rs` and holds no separator of either kind. -/
def isIndexFileName (s : String) : Bool :=
  ['.', 'r', 's'].isSuffixOf s.toList && !s.toList.any fun c => c == '/' || c == '\\'

/-- **Are the settings usable?** The first that is not is named. -/
def Config.validate (config : Config) : Except InvalidSetting Unit :=
  if config.generate.suffix = "" ∨ isIdentFragment config.generate.suffix = false then
    .error (.suffix config.generate.suffix)
  else if isPlainIdent config.emit.selfConst = false then
    .error (.selfConst config.emit.selfConst)
  else if isIndexFileName config.emit.indexFile = false then
    .error (.indexFile config.emit.indexFile)
  else .ok ()

end QueryPaths
