import QueryPaths.Generate.BuildScript
import QueryPaths.Proofs.Command.Pipeline
import QueryPaths.Proofs.Disk.Siblings

/-! # The build script and the command

    Where no settings file is named, the command looks for one beside the manifest, and the build
    script in the working directory. So the two do the same if these are one directory, or if the
    settings in both places come to the same; otherwise each goes by its own.

    * **`Generation.Alike`**, **`ScriptOutcome.Agrees`**: doing the same.
    * **`pipeline_alike`**: only usable settings make a difference.
    * **`loadOrDefault_beside`**: the settings beside a manifest in the working directory.
    * **`buildScript_agrees`**: when the script and the command do the same.
-/

namespace QueryPaths

open Disk (FileName)
open Command

/-! ## Doing the same -/

/-- **Two generations are alike** if both succeed or both fail, and they leave the same disk. -/
def Generation.Alike (a b : Generation) : Prop :=
  ((∃ report, a.result = .ok report) ↔ ∃ report, b.result = .ok report) ∧ a.disk = b.disk

/-- **A build script and a command have done the same**: both succeed or both fail, and they leave
    the same disk. -/
def ScriptOutcome.Agrees (script : ScriptOutcome) (command : Outcome) : Prop :=
  (script.exitCode = 0 ↔ command.code = 0) ∧ script.disk = command.disk

theorem exitCode_buildScript (disk : Disk) (model : String) (config : Option String)
    (out : String) : (buildScript disk model config out).exitCode = 0 ↔
      ∃ report, (generateFromManifest disk model (config.getD configFileName) out).result =
        .ok report := by
  unfold ScriptOutcome.exitCode buildScript
  cases hresult : (generateFromManifest disk model (config.getD configFileName) out).result with
  | error error => simp [hresult]
  | ok report => simp [hresult]

/-! ## Settings -/

variable {disk : Disk} {model out : String}

/-- **Only usable settings make a difference**: a run does not depend on why they do not load. -/
theorem pipeline_alike {settings settings' : Except ConfigError Config} (failFast : Bool)
    (h : settings.toOption = settings'.toOption) :
    (pipeline disk model settings failFast out).Alike
      (pipeline disk model settings' failFast out) := by
  -- either both settings load, and then alike, or neither does
  cases hload : settings with
  | ok config =>
    rw [hload] at h
    rw [toOption_eq_some.1 h.symm]
    exact ⟨Iff.rfl, rfl⟩
  | error error =>
    cases hload' : settings' with
    | ok config =>
      rw [hload, hload'] at h
      cases h
    | error error' =>
      unfold pipeline
      cases Manifest.load disk model with
      | error _ => exact ⟨Iff.rfl, rfl⟩
      | ok _ => simp [Generation.Alike, Generation.refused]

/-- Paths that lead to the same place have the same settings. -/
theorem Config.toOption_loadOrDefault {path path' : String}
    (h : ∀ place, disk.resolve path = .ok place ↔ disk.resolve path' = .ok place) :
    (loadOrDefault disk path).toOption = (loadOrDefault disk path').toOption := by
  have hexists : disk.pathExists path = true ↔ disk.pathExists path' = true := by
    simp only [Disk.pathExists_iff, h]
  -- where there is no file, both are the defaults
  unfold loadOrDefault
  by_cases hpath : disk.pathExists path = true
  · rw [if_pos hpath, if_pos (hexists.1 hpath)]
    apply Option.ext
    intro config
    simp only [toOption_eq_some, load_eq_ok_iff]
    constructor
    · intro hload
      obtain ⟨text, hread, hconfig⟩ := hload
      exact ⟨text, Disk.readText_congr h hread, hconfig⟩
    · intro hload
      obtain ⟨text, hread, hconfig⟩ := hload
      exact ⟨text, Disk.readText_congr (fun place => (h place).symm) hread, hconfig⟩
  · rw [if_neg hpath, if_neg (fun hpath' => hpath (hexists.2 hpath'))]

theorem fileName_configFileName : FileName configFileName := ⟨by decide, by decide, by decide⟩

/-- **Beside a manifest in the working directory** are the settings of the working directory. -/
theorem loadOrDefault_beside {manifest : Manifest} (hload : Manifest.load disk model = .ok manifest)
    (hdir : disk.destination ((Disk.Path.parent? model).getD "") = disk.cwd)
    (hlen : (settingsBeside model).utf8ByteSize ≤ Disk.maxPathBytes) :
    (Config.loadOrDefault disk configFileName).toOption =
      (Config.loadOrDefault disk (settingsBeside model)).toOption := by
  obtain ⟨found, hmodel⟩ := Disk.pathExists_iff.1 (Manifest.pathExists_of_load hload)
  apply Config.toOption_loadOrDefault
  intro place
  unfold settingsBeside at hlen ⊢
  cases hparent : Disk.Path.parent? model with
  | none => exact Iff.rfl
  | some dir =>
    rw [hparent, Option.getD_some] at hdir hlen
    rw [Option.getD_some, Disk.resolve_name_iff fileName_configFileName (by decide),
      Disk.resolve_beside_iff fileName_configFileName hmodel hparent hlen, hdir]

/-! ## The script and the command -/

/-- **When a build script and a command without settings of their own do the same.** -/
structure AgreeOnSettings (disk : Disk) (model out : String) (script : ScriptOutcome)
    (command : Outcome) : Prop where
  /-- They do the same exactly if the library does, with the settings of the working directory and
      with those beside the manifest. -/
  agrees_iff : script.Agrees command ↔
    (generateFromManifest disk model configFileName out).Alike
      (generateFromManifest disk model (settingsBeside model) out)
  /-- Without a manifest that loads, both fail and write nothing. -/
  unloaded : (∀ manifest, Manifest.load disk model ≠ .ok manifest) →
    script.exitCode = 1 ∧ command.code = 1 ∧ script.disk = disk ∧ command.disk = disk
  /-- They do the same if the settings in both places are the same, or unusable. -/
  of_same_settings : (Config.loadOrDefault disk configFileName).toOption =
    (Config.loadOrDefault disk (settingsBeside model)).toOption → script.Agrees command
  /-- They do the same if the manifest is in the working directory, however its path leads there. -/
  of_same_directory : disk.destination ((Disk.Path.parent? model).getD "") = disk.cwd →
    (settingsBeside model).utf8ByteSize ≤ Disk.maxPathBytes → script.Agrees command

/-- A script agrees with a command if their generations are alike. -/
theorem agrees_iff_alike {config : String} {command : Outcome} {generation : Generation}
    (hcommand : command.Agrees generation) :
    (buildScript disk model (some config) out).Agrees command ↔
      (generateFromManifest disk model config out).Alike generation := by
  unfold ScriptOutcome.Agrees Generation.Alike
  rw [exitCode_buildScript, hcommand.1, hcommand.2]
  rfl

/-- A script fails without a manifest that loads, and writes nothing. -/
theorem buildScript_of_unloaded {config : Option String}
    (h : ∀ manifest, Manifest.load disk model ≠ .ok manifest) :
    (buildScript disk model config out).exitCode = 1 ∧
      (buildScript disk model config out).disk = disk := by
  cases hload : Manifest.load disk model with
  | ok manifest => exact absurd hload (h manifest)
  | error error =>
    simp [buildScript, generateFromManifest, hload, Generation.refused, ScriptOutcome.exitCode]

/-- **The build script and the command** do the same exactly if the settings of the working
    directory lead to what those beside the manifest lead to. So they do wherever the manifest does
    not load, the settings are the same, or the manifest is in the working directory. -/
theorem buildScript_agrees (disk : Disk) {model out : String} (hmodel : model ≠ "")
    (hout : out ≠ "") :
    AgreeOnSettings disk model out (buildScript disk model none out)
      (run disk (commandLine model out none false)) := by
  have hargs := @ofArguments_commandLine model out none false hmodel hout
    (fun _ hpath => by cases hpath)
  obtain ⟨hcode, hcommand⟩ := @agrees_pipeline disk model out false _ _ none hargs
  have hnear := generateFromManifest_eq_pipeline disk model configFileName out
  have hbeside := generateFromManifest_eq_pipeline disk model (settingsBeside model) out
  -- the command is the library run with the settings beside the manifest
  have hexact : (buildScript disk model none out).Agrees
      (run disk (commandLine model out none false)) ↔
        (generateFromManifest disk model configFileName out).Alike
          (generateFromManifest disk model (settingsBeside model) out) := by
    rw [hbeside]
    exact agrees_iff_alike hcommand
  have hsame : (Config.loadOrDefault disk configFileName).toOption =
      (Config.loadOrDefault disk (settingsBeside model)).toOption →
        (buildScript disk model none out).Agrees (run disk (commandLine model out none false)) := by
    intro hsettings
    rw [hexact, hnear, hbeside]
    exact pipeline_alike false hsettings
  have hunloaded : (∀ manifest, Manifest.load disk model ≠ .ok manifest) →
      (buildScript disk model none out).exitCode = 1 ∧
        (run disk (commandLine model out none false)).code = 1 ∧
        (buildScript disk model none out).disk = disk ∧
        (run disk (commandLine model out none false)).disk = disk := by
    intro hno
    obtain ⟨hexit, hscript⟩ := @buildScript_of_unloaded disk model out none hno
    obtain ⟨hone, hdisk⟩ := (runsPipeline_of_agrees hcode hcommand).refused (.inl hno)
    exact ⟨hexit, hone, hscript, hdisk⟩
  refine ⟨hexact, hunloaded, hsame, ?_⟩
  intro hdir hlen
  -- a manifest that loads lies in a directory that can be followed; without one both fail
  by_cases hload : ∃ manifest, Manifest.load disk model = .ok manifest
  · obtain ⟨manifest, hmanifest⟩ := hload
    exact hsame (loadOrDefault_beside hmanifest hdir hlen)
  · obtain ⟨hexit, hone, hscript, hdisk⟩ := hunloaded (not_exists.1 hload)
    exact ⟨by rw [hexit, hone], by rw [hscript, hdisk]⟩

/-- A manifest in the working directory, and settings beside it. -/
def kennelHere : Disk where
  entries := [
    (["work"], .directory),
    (["work", "model.json"], .file kennelModel.toUTF8),
    (["work", "fieldpaths.toml"], .file "[emit]\nindex_file = \"paths.rs\"".toUTF8)]
  cwd := ["work"]

/-- **Where both look into one directory**, they do the same, though the paths are not spelt
    alike. -/
theorem kennelHere_agrees :
    settingsBeside "../work/model.json" = "../work/fieldpaths.toml" ∧
      (buildScript kennelHere "../work/model.json" none "out").Agrees
        (run kennelHere (commandLine "../work/model.json" "out" none false)) := by
  have hagree := @buildScript_agrees kennelHere "../work/model.json" "out" (by decide) (by decide)
  exact ⟨by decide +kernel, hagree.of_same_directory (by decide +kernel) (by decide +kernel)⟩

theorem generateFromManifest_kennel : ∃ report source index,
    (generateFromManifest kennel "sub/model.json" configFileName "out").result = .ok report ∧
      (generateFromManifest kennel "sub/model.json" configFileName "out").disk =
        kennelWith "fieldpaths.rs" source index := by
  have hsettings : Config.loadOrDefault kennel configFileName = .ok (withIndex "fieldpaths.rs") :=
    toOption_eq_some.1 (by decide +kernel)
  have hsteps : generateFromManifest kennel "sub/model.json" configFileName "out" =
      onlyDog.generateInto (withIndex "fieldpaths.rs") kennel "out" := by
    rw [generateFromManifest_eq_pipeline, pipeline_of_ok load_kennel hsettings]
    rfl
  rw [hsteps]
  exact generateInto_onlyDog_of_store rfl (fun _ => rfl) (fun _ _ => rfl)

/-- **A manifest whose settings the build script does not find.** Both succeed, the command with the
    index file that the settings beside the manifest name, and the script with that of the
    defaults. -/
theorem kennel_disagrees :
    let script := buildScript kennel "sub/model.json" none "out"
    let command := run kennel (commandLine "sub/model.json" "out" none false)
    script.exitCode = 0 ∧ command.code = 0 ∧ kennel.destination "out" = ["out"] ∧
      (command.disk.node? ["out", "paths.rs"]).isSome = true ∧
      script.disk.node? ["out", "paths.rs"] = none ∧
      command.disk.node? ["out", "fieldpaths.rs"] = none ∧
      (script.disk.node? ["out", "fieldpaths.rs"]).isSome = true := by
  intro script command
  -- the script goes by the defaults
  obtain ⟨report, source, index, hresult, hdisk⟩ := generateFromManifest_kennel
  have hexit : script.exitCode = 0 := (exitCode_buildScript _ _ none _).2 ⟨report, hresult⟩
  have hscript : script.disk = kennelWith "fieldpaths.rs" source index := hdisk
  -- and the command by the settings beside the manifest
  obtain ⟨-, hagrees⟩ := @agrees_pipeline kennel "sub/model.json" "out" false _ _ none
    (ofArguments_commandLine (by decide) (by decide) (fun _ hpath => by cases hpath))
  obtain ⟨report', source', index', hresult', hdisk'⟩ := generateInto_kennel
  have hsteps := @pipeline_of_ok kennel _ "out" _ false _ _ load_kennel loadOrDefault_kennel
  have hcode : command.code = 0 := hagrees.1.2 ⟨report', by
    rw [← hresult']
    exact congrArg Generation.result hsteps⟩
  have hcommand : command.disk = kennelWith "paths.rs" source' index' := by
    rw [← hdisk']
    exact hagrees.2.trans (congrArg Generation.disk hsteps)
  rw [hscript, hcommand]
  exact ⟨hexit, hcode, by decide +kernel, rfl, rfl, rfl, rfl⟩

end QueryPaths
