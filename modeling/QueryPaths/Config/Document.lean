import QueryPaths.Config.Settings
import QueryPaths.Disk.Tree
import QueryPaths.Toml.Decoder
import QueryPaths.Toml.Document

/-! # Settings files

    Settings are written as a TOML document of two tables. Whatever is not given
    keeps its default, and nothing else may be given.

    * **`Config.ofEntries`**: the settings of a table.
    * **`Config.read`**: the settings of a text, once they are usable.
    * **`Config.load`**, **`Config.loadOrDefault`**: the settings of a file.
-/

namespace QueryPaths

open Decode (DataError)
open Toml (Decoder RecordShape Entries)

/-! ## Records -/

/-- The record of what is generated. -/
def generateShape : RecordShape GenerateConfig where
  name := "GenerateConfig"
  slots := [
    { name := "suffix"
      fill := fun config value =>
        (Decoder.string value).map fun suffix => { config with suffix } },
    { name := "fail_fast"
      fill := fun config value =>
        (Decoder.boolean value).map fun failFast => { config with failFast } }]

/-- The record of how it is written. -/
def emitShape : RecordShape EmitConfig where
  name := "EmitConfig"
  slots := [
    { name := "self_const"
      fill := fun config value =>
        (Decoder.string value).map fun selfConst => { config with selfConst } },
    { name := "index_file"
      fill := fun config value =>
        (Decoder.string value).map fun indexFile => { config with indexFile } },
    { name := "docs"
      fill := fun config value =>
        (Decoder.boolean value).map fun docs => { config with docs } }]

/-- The record of all settings. Its fields are records again. -/
def configShape : RecordShape Config where
  name := "Config"
  slots := [
    { name := "generate"
      fill := fun config value =>
        (generateShape.decoder {} value).map fun generate => { config with generate } },
    { name := "emit"
      fill := fun config value =>
        (emitShape.decoder {} value).map fun emit => { config with emit } }]

/-! ## Errors -/

/-- What is wrong with the text of a settings file. -/
inductive ParseError where
  /-- It is no TOML document. -/
  | malformed
  /-- The data does not fit. -/
  | data (error : DataError)
  deriving DecidableEq, Repr, Inhabited

/-- Why settings do not load. -/
inductive ConfigError where
  /-- The file cannot be read. -/
  | io (path : String) (fault : Disk.Fault)
  /-- Its text is at fault. -/
  | parse (error : ParseError)
  /-- A setting is unusable. -/
  | invalid (setting : InvalidSetting)
  deriving DecidableEq, Repr, Inhabited

/-- **The wording** of an error. What makes a text no document is not told. -/
def ConfigError.message : ConfigError → String
  | .io path fault => "failed to read config '" ++ path ++ "': " ++ fault.message
  | .parse .malformed => "failed to parse config"
  | .parse (.data error) => "failed to parse config: " ++ error.message
  | .invalid setting => "invalid config: " ++ setting.message

/-! ## Reading -/

namespace Config

/-- **The settings of a table.** A table whose data does not fit is no document in
    the first place if it holds values that cannot be read. -/
def ofEntries (entries : Entries) : Except ParseError Config :=
  (configShape.ofEntries {} entries).mapError fun error =>
    if Toml.entriesReadable entries then .data error else .malformed

/-- The settings of a text, usable or not. -/
def parse (text : String) : Except ParseError Config :=
  match Toml.readDocument text with
  | none => .error .malformed
  | some entries => ofEntries entries

/-- **Reads settings** from a text. -/
def read (text : String) : Except ConfigError Config := do
  let config ← (parse text).mapError .parse
  config.validate.mapError .invalid
  return config

/-- **Loads settings** from a file. -/
def load (disk : Disk) (path : String) : Except ConfigError Config := do
  let text ← (disk.readText path).mapError (.io path)
  read text

/-- **Loads settings** from a file if there is anything at its path. -/
def loadOrDefault (disk : Disk) (path : String) : Except ConfigError Config :=
  if disk.pathExists path then load disk path else .ok {}

end Config

end QueryPaths
