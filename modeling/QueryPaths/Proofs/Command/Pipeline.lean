import QueryPaths.Command.Run
import QueryPaths.Proofs.Generate.Regeneration

/-! # The command and the library

    The command that writes artifacts takes the steps that the library takes for a manifest: the
    manifest is loaded, then the settings, and then the artifacts are generated. The two differ in
    where the settings come from, and in a flag that can be given only to the command.

    * **`commandLine`**, **`ofArguments_commandLine`**: a command line for given paths.
    * **`pipeline`**: the steps, for any settings.
    * **`generateFromManifest_eq_pipeline`**, **`runGenerate_eq_pipeline`**: both take them.
    * **`generate_runs_pipeline`**: what a command line leaves behind.
-/

namespace QueryPaths.Command

/-! ## Command lines -/

/-- An option with its value, as one argument. -/
def Parameter.withValue (p : Parameter) (value : String) : String :=
  "--" ++ p.name ++ "=" ++ value

/-- **A command line** that writes the artifacts of a model. -/
def commandLine (model out : String) (config : Option String) (failFast : Bool) : List String :=
  "generate" :: modelOption.withValue model :: outOption.withValue out ::
    ((config.map configOption.withValue).toList ++ if failFast then ["--fail-fast"] else [])

/-- A name behind two hyphens ends at the first equals sign. -/
theorem ofString_withValue {p : Parameter} (h : '=' ∉ p.name.toList) (value : String) :
    Argument.ofString (p.withValue value) = .long p.name (some value) := by
  have hlist : (p.withValue value).toList =
      '-' :: '-' :: (p.name.toList ++ '=' :: value.toList) := by
    simp [Parameter.withValue]
  have hname : ∀ c ∈ p.name.toList, (c != '=') = true := by
    intro c hc
    have hne : c ≠ '=' := fun heq => h (heq ▸ hc)
    simpa using hne
  obtain ⟨c, cs, hcs⟩ := List.exists_cons_of_ne_nil
    (List.append_ne_nil_of_right_ne_nil p.name.toList (List.cons_ne_nil '=' value.toList))
  unfold Argument.ofString
  rw [hlist, hcs]
  simp only
  rw [← hcs, List.takeWhile_append_of_pos hname, List.dropWhile_append_of_pos hname]
  simp

/-- **An option with its value** is taken, if it is known to the command and new. -/
theorem read_withValue {form : Form} {settled : List (Parameter × String)} {p : Parameter}
    {value : String} (hname : '=' ∉ p.name.toList) (hfind : form.find? p.name = some p)
    (htakes : p.kind.takesValue = true) (hnew : Given.has { settled } p.name = false)
    (hvalue : value ≠ "") (rest : List String) :
    form.read { settled } (p.withValue value :: rest) =
      form.read { settled := settled ++ [(p, value)] } rest := by
  have hadd : Given.add { settled } form p value = .ok { settled := settled ++ [(p, value)] } := by
    rw [Given.add, hnew, if_neg (by simp), if_neg (by simp [hvalue])]
  have htake : form.takeName { settled } p.name (some value) =
      .ok { settled := settled ++ [(p, value)] } := by
    simp only [Form.takeName, hfind, htakes, Given.settle]
    exact hadd
  rw [Form.read.eq_def]
  simp only [ofString_withValue hname, htake]
  rfl

/-- **The command line is read** as what it is made of. -/
theorem ofArguments_commandLine {model out : String} {config : Option String} {failFast : Bool}
    (hmodel : model ≠ "") (hout : out ≠ "") (hconfig : ∀ path ∈ config, path ≠ "") :
    Invocation.ofArguments (commandLine model out config failFast) =
      .ok (.run false (.generate model out config failFast)) := by
  -- the name of the command, and then its options
  have hreading : Invocation.reading (commandLine model out config failFast) =
      .ok (.run false (.generate model out config failFast)) := by
    show (Form.generate.read {} (commandLine model out config failFast).tail).bind
      (fun back => Invocation.ofGenerate false back.given) = _
    unfold commandLine
    rw [List.tail_cons, read_withValue (by decide) rfl rfl rfl hmodel,
      read_withValue (by decide) rfl rfl rfl hout]
    cases config with
    | none => cases failFast <;> rfl
    | some path =>
      rw [Option.map_some, Option.toList_some, List.singleton_append,
        read_withValue (by decide) rfl rfl rfl (hconfig path rfl)]
      cases failFast <;> rfl
  rw [Invocation.ofArguments, hreading]

end QueryPaths.Command

namespace QueryPaths

/-! ## Loading files -/

theorem Manifest.pathExists_of_load {disk : Disk} {path : String} {manifest : Manifest}
    (h : load disk path = .ok manifest) : disk.pathExists path = true := by
  simp only [load, bind_eq_ok, mapError_eq_ok] at h
  obtain ⟨text, hread, -⟩ := h
  exact Disk.pathExists_of_readText hread

theorem Config.load_eq_ok_iff {disk : Disk} {path : String} {config : Config} :
    load disk path = .ok config ↔
      ∃ text, disk.readText path = .ok text ∧ read text = .ok config := by
  simp only [load, bind_eq_ok, mapError_eq_ok]

theorem Config.pathExists_of_load {disk : Disk} {path : String} {config : Config}
    (h : load disk path = .ok config) : disk.pathExists path = true := by
  obtain ⟨text, hread, -⟩ := load_eq_ok_iff.1 h
  exact Disk.pathExists_of_readText hread

/-! ## The steps -/

/-- The settings with a flag that stops the run at the first failure. -/
def Config.orFailFast (config : Config) (failFast : Bool) : Config :=
  { config with generate.failFast := config.generate.failFast || failFast }

@[simp] theorem Config.orFailFast_false (config : Config) : config.orFailFast false = config := by
  simp [orFailFast]

/-- **The steps from a manifest to its artifacts**, for settings that load or do not. -/
def pipeline (disk : Disk) (model : String) (settings : Except ConfigError Config)
    (failFast : Bool) (out : String) : Generation :=
  match Manifest.load disk model with
  | .error error => .refused disk (.load error)
  | .ok manifest =>
    match settings with
    | .error error => .refused disk (.config error)
    | .ok config => manifest.pool.generateInto (config.orFailFast failFast) disk out

variable {disk : Disk} {model out : String} {settings : Except ConfigError Config}
  {failFast : Bool} {manifest : Manifest} {config : Config}

theorem pipeline_of_ok (hmanifest : Manifest.load disk model = .ok manifest)
    (hsettings : settings = .ok config) :
    pipeline disk model settings failFast out =
      manifest.pool.generateInto (config.orFailFast failFast) disk out := by
  simp only [pipeline, hmanifest, hsettings]

/-- **If something does not load**, the steps fail and nothing is written. -/
theorem pipeline_of_refused (h : (∀ manifest, Manifest.load disk model ≠ .ok manifest) ∨
    ∀ config, settings ≠ .ok config) :
    ∃ error, pipeline disk model settings failFast out = .refused disk error := by
  unfold pipeline
  cases hmanifest : Manifest.load disk model with
  | error error => exact ⟨.load error, rfl⟩
  | ok manifest =>
    cases hsettings : settings with
    | error error => exact ⟨.config error, rfl⟩
    | ok config =>
      rcases h with hno | hno
      · exact absurd hmanifest (hno manifest)
      · exact absurd hsettings (hno config)

/-- **Success**: everything loads, and the artifacts are generated. -/
theorem pipeline_eq_ok_iff :
    (∃ report, (pipeline disk model settings failFast out).result = .ok report) ↔
      ∃ manifest config report, Manifest.load disk model = .ok manifest ∧ settings = .ok config ∧
        (manifest.pool.generateInto (config.orFailFast failFast) disk out).result = .ok report := by
  constructor
  · intro h
    obtain ⟨report, hreport⟩ := h
    -- the first step that does not load would have refused the run
    cases hmanifest : Manifest.load disk model with
    | error error =>
      simp only [pipeline, hmanifest, Generation.refused] at hreport
      cases hreport
    | ok manifest =>
      cases hsettings : settings with
      | error error =>
        simp only [pipeline, hmanifest, hsettings, Generation.refused] at hreport
        cases hreport
      | ok config =>
        rw [pipeline_of_ok hmanifest hsettings] at hreport
        exact ⟨manifest, config, report, rfl, rfl, hreport⟩
  · intro h
    obtain ⟨manifest, config, report, hmanifest, hsettings, hreport⟩ := h
    exact ⟨report, by rw [pipeline_of_ok hmanifest hsettings, hreport]⟩

/-- **The library takes these steps**, with settings that need not be there. -/
theorem generateFromManifest_eq_pipeline (disk : Disk) (model config out : String) :
    generateFromManifest disk model config out =
      pipeline disk model (Config.loadOrDefault disk config) false out := by
  unfold generateFromManifest pipeline
  cases Manifest.load disk model with
  | error error => rfl
  | ok manifest =>
    cases Config.loadOrDefault disk config with
    | error error => rfl
    | ok config =>
      show manifest.pool.generateInto config disk out =
        manifest.pool.generateInto (config.orFailFast false) disk out
      rw [Config.orFailFast_false]

namespace Command

/-- The settings file beside a manifest. -/
def settingsBeside (model : String) : String :=
  Disk.Path.join ((Disk.Path.parent? model).getD "") configFileName

/-- The settings for a command: of the file that is named, or else of the one beside the
    manifest, if it is there. -/
def settingsFor (disk : Disk) (model : String) : Option String → Except ConfigError Config
  | some path => Config.load disk path
  | none => Config.loadOrDefault disk (settingsBeside model)

theorem loadConfig_eq_settingsFor (disk : Disk) (model : String) (config : Option String) :
    loadConfig disk model config = settingsFor disk model config := by
  have hbeside : defaultConfigPath model = settingsBeside model := by
    unfold defaultConfigPath settingsBeside
    cases Disk.Path.parent? model <;> rfl
  cases config with
  | some path => rfl
  | none => rw [loadConfig, hbeside, settingsFor]

/-- **The command takes these steps**, with its own settings. -/
theorem runGenerate_eq_pipeline (disk : Disk) (model out : String) (config : Option String)
    (failFast : Bool) :
    let steps := pipeline disk model (settingsFor disk model config) failFast out
    ((runGenerate disk model out config failFast).success = true ↔
        ∃ report, steps.result = .ok report) ∧
      (runGenerate disk model out config failFast).disk = steps.disk := by
  unfold runGenerate pipeline
  rw [loadConfig_eq_settingsFor]
  -- step by step, as far as both of them go
  cases Manifest.load disk model with
  | error error => simp [Work.fatal, Generation.refused]
  | ok manifest =>
    cases settingsFor disk model config with
    | error error => simp [Work.fatal, Generation.refused]
    | ok config =>
      simp only [ClassPool.generateInto, Config.orFailFast]
      cases manifest.pool.runInto _ disk out with
      | error error => simp [Work.fatal, Generation.refused]
      | ok both =>
        obtain ⟨directory, run⟩ := both
        simp only [Report.toResult]
        by_cases hsuccess : run.report.isSuccess = true
        · simp [hsuccess]
        · simp [hsuccess]

/-! ## What a command line leaves behind -/

/-- **A command has done what a generation does**: both succeed or both fail, and they leave the
    same disk. -/
def Outcome.Agrees (outcome : Outcome) (generation : Generation) : Prop :=
  (outcome.code = 0 ↔ ∃ report, generation.result = .ok report) ∧ outcome.disk = generation.disk

/-- **A command has taken the steps from a manifest to its artifacts.** -/
structure RunsPipeline (disk : Disk) (model out : String) (config : Option String)
    (failFast : Bool) (outcome : Outcome) : Prop where
  /-- It succeeds if the manifest loads, the settings load, and everything is generated. -/
  code_eq_zero_iff : outcome.code = 0 ↔ ∃ manifest settings report,
    Manifest.load disk model = .ok manifest ∧ settingsFor disk model config = .ok settings ∧
      (manifest.pool.generateInto (settings.orFailFast failFast) disk out).result = .ok report
  /-- There is one code for all failures. -/
  code_of_failure : outcome.code ≠ 0 → outcome.code = 1
  /-- If everything loads, the disk is the one that the generation leaves. -/
  disk_of_loaded : ∀ manifest settings, Manifest.load disk model = .ok manifest →
    settingsFor disk model config = .ok settings →
      outcome.disk = (manifest.pool.generateInto (settings.orFailFast failFast) disk out).disk
  /-- If something does not load, nothing is written. -/
  refused : ((∀ manifest, Manifest.load disk model ≠ .ok manifest) ∨
      ∀ settings, settingsFor disk model config ≠ .ok settings) →
    outcome.code = 1 ∧ outcome.disk = disk
  /-- A settings file that is named must be there. -/
  missing : ∀ path, config = some path → disk.pathExists path = false →
    outcome.code = 1 ∧ outcome.disk = disk
  /-- Without options it does what the library does with the settings beside the manifest. -/
  agrees : config = none → failFast = false →
    outcome.Agrees (generateFromManifest disk model (settingsBeside model) out)
  /-- With a settings file that is there it does what the library does with that file. -/
  agrees_with : ∀ path, config = some path → disk.pathExists path = true → failFast = false →
    outcome.Agrees (generateFromManifest disk model path out)

/-- What follows if a command does what the steps do. -/
theorem runsPipeline_of_agrees {config : Option String} {outcome : Outcome}
    (hcode : outcome.code ≤ 1)
    (h : outcome.Agrees
      (pipeline disk model (settingsFor disk model config) failFast out)) :
    RunsPipeline disk model out config failFast outcome := by
  obtain ⟨hsuccess, hdisk⟩ := h
  have hrefused : ((∀ manifest, Manifest.load disk model ≠ .ok manifest) ∨
      ∀ settings, settingsFor disk model config ≠ .ok settings) →
        outcome.code = 1 ∧ outcome.disk = disk := by
    intro hno
    obtain ⟨error, hrefusal⟩ := pipeline_of_refused hno
    rw [hrefusal] at hsuccess hdisk
    have hfails : outcome.code ≠ 0 := by
      intro hzero
      obtain ⟨report, hreport⟩ := hsuccess.1 hzero
      cases hreport
    exact ⟨by omega, hdisk⟩
  refine ⟨hsuccess.trans pipeline_eq_ok_iff, by omega, ?_, hrefused, ?_, ?_, ?_⟩
  · intro manifest settings hmanifest hsettings
    rw [hdisk, pipeline_of_ok hmanifest hsettings]
  · intro path hpath habsent
    refine hrefused (.inr fun settings hsettings => ?_)
    -- a file that is not there cannot be read
    subst hpath
    have hexists := Config.pathExists_of_load hsettings
    rw [habsent] at hexists
    cases hexists
  · intro hnone hslow
    subst hnone hslow
    rw [generateFromManifest_eq_pipeline]
    exact ⟨hsuccess, hdisk⟩
  · intro path hpath hexists hslow
    subst hpath hslow
    rw [generateFromManifest_eq_pipeline, Config.loadOrDefault, if_pos hexists]
    exact ⟨hsuccess, hdisk⟩

/-- **A command line that asks for a model's artifacts** does what the steps do, however it is
    written. -/
theorem agrees_pipeline {args : List String} {verbose : Bool} {config : Option String}
    (hargs : Invocation.ofArguments args =
      .ok (.run verbose (.generate model out config failFast))) :
    (run disk args).code ≤ 1 ∧ (run disk args).Agrees
      (pipeline disk model (settingsFor disk model config) failFast out) := by
  obtain ⟨hsuccess, hdisk⟩ := runGenerate_eq_pipeline disk model out config failFast
  have hrun : run disk args =
      (Invocation.run verbose (.generate model out config failFast)).outcome disk := by
    rw [run, hargs]
  have hcode : (run disk args).code =
      if (runGenerate disk model out config failFast).success then 0 else 1 := by
    rw [hrun]
    rfl
  unfold Outcome.Agrees
  rw [hcode, ← hsuccess]
  refine ⟨by split <;> omega, by split <;> simp_all, ?_⟩
  rw [hrun]
  exact hdisk

/-- **The command and the library take the same steps.** There is a command line for any paths that
    are not empty; and every command line that asks for a model's artifacts, however it is written,
    does what the steps do. -/
theorem generate_runs_pipeline (disk : Disk) {model out : String} {config : Option String}
    (failFast : Bool) (hmodel : model ≠ "") (hout : out ≠ "")
    (hconfig : ∀ path ∈ config, path ≠ "") :
    Invocation.ofArguments (commandLine model out config failFast) =
        .ok (.run false (.generate model out config failFast)) ∧
      ∀ args verbose,
        Invocation.ofArguments args = .ok (.run verbose (.generate model out config failFast)) →
          RunsPipeline disk model out config failFast (run disk args) := by
  refine ⟨ofArguments_commandLine hmodel hout hconfig, ?_⟩
  intro args verbose hargs
  obtain ⟨hcode, hagrees⟩ := agrees_pipeline hargs
  exact runsPipeline_of_agrees hcode hagrees

end Command

/-! ## A model with its own settings -/

open Disk OutputDirectory

/-- What generating for one class leaves behind, if its artifact and the index can be stored. -/
theorem generateInto_onlyDog_of_store {disk : Disk} {path indexFile : String}
    {written : String → Disk} {finished : String → String → Disk}
    (hopen : openAt (withIndex indexFile).emit disk path = .ok (outAt indexFile))
    (hwrite : ∀ source, store disk "/out" "/out/DogFields.rs" source = (.ok (), written source))
    (hfinish : ∀ source index, store (written source) "/out" (outAt indexFile).indexPath index =
      (.ok (), finished source index)) :
    ∃ report source index,
      (onlyDog.generateInto (withIndex indexFile) disk path).result = .ok report ∧
        (onlyDog.generateInto (withIndex indexFile) disk path).disk = finished source index := by
  obtain ⟨source, hstep⟩ := write_onlyDog_of_store indexFile hwrite
  obtain ⟨index, hindex⟩ := indexText_onlyDog "/out/DogFields.rs"
  -- the artifact
  have hemits : (outAt indexFile).emitter.write { disk }
      (GenerateConfig.target {} (.make "" "Dog")) (onlyDog.tree (.make "" "Dog")) =
        .done ⟨written source, [⟨"", "DogFields", "/out/DogFields.rs"⟩]⟩
          [.wroteArtifact "/out/DogFields.rs"] := by
    have htree : onlyDog.tree (.make "" "Dog") = [] := by simp [ClassPool.tree, ModelClass.make]
    rw [htree]
    exact hstep
  have hall : EmitsAll onlyDog {} (outAt indexFile).emitter { disk } onlyDog.project
      ⟨written source, [⟨"", "DogFields", "/out/DogFields.rs"⟩]⟩ := by
    rw [project_onlyDog]
    refine .cons (by rw [hemits]; rfl) ?_
    rw [hemits]
    exact .nil _
  -- the index
  have hend : (outAt indexFile).finish ⟨written source, [⟨"", "DogFields", "/out/DogFields.rs"⟩]⟩ =
      .done ⟨finished source index, [⟨"", "DogFields", "/out/DogFields.rs"⟩]⟩
        [.wroteIndex (outAt indexFile).indexPath 1] :=
    finish_eq_done hindex (hfinish source index)
  obtain ⟨hresult, hdisk⟩ := ClassPool.generateInto_of_emitsAll hopen hall (by rw [hend]; rfl)
  exact ⟨_, source, index, hresult, by rw [hdisk, hend]; rfl⟩

/-- The manifest of that class. -/
def kennelModel : String := "\x7b\"classes\": [\x7b\"simple_class_name\": \"Dog\"\x7d]\x7d"

/-- The manifest and settings beside it, below the working directory. -/
def kennel : Disk where
  entries := [
    (["sub"], .directory),
    (["sub", "model.json"], .file kennelModel.toUTF8),
    (["sub", "fieldpaths.toml"], .file "[emit]\nindex_file = \"paths.rs\"".toUTF8)]

/-- The kennel's disk with the artifact and the index. -/
def kennelWith (indexFile source index : String) : Disk where
  entries := kennel.entries ++ [
    (["out"], .directory),
    (["out", "DogFields.rs"], .file source.toUTF8),
    (["out", indexFile], .file index.toUTF8)]

theorem load_kennel : Manifest.load kennel "sub/model.json" = .ok ⟨[.make "" "Dog"]⟩ :=
  toOption_eq_some.1 (by decide +kernel)

theorem loadOrDefault_kennel :
    Config.loadOrDefault kennel (Command.settingsBeside "sub/model.json") =
      .ok (withIndex "paths.rs") :=
  toOption_eq_some.1 (by decide +kernel)

theorem generateInto_kennel : ∃ report source index,
    (onlyDog.generateInto (withIndex "paths.rs") kennel "out").result = .ok report ∧
      (onlyDog.generateInto (withIndex "paths.rs") kennel "out").disk =
        kennelWith "paths.rs" source index :=
  generateInto_onlyDog_of_store rfl (fun _ => rfl) (fun _ _ => rfl)

/-- **The command finds the settings beside the manifest**, and succeeds. -/
theorem Command.kennel_runs_pipeline :
    let outcome := run kennel (commandLine "sub/model.json" "out" none false)
    RunsPipeline kennel "sub/model.json" "out" none false outcome ∧ outcome.code = 0 := by
  obtain ⟨hargs, hall⟩ := @generate_runs_pipeline kennel "sub/model.json" "out" none false
    (by decide) (by decide) (fun _ hpath => by cases hpath)
  have hruns := hall _ _ hargs
  obtain ⟨report, -, -, hreport, -⟩ := generateInto_kennel
  exact ⟨hruns, hruns.code_eq_zero_iff.2
    ⟨_, _, report, load_kennel, loadOrDefault_kennel, hreport⟩⟩

end QueryPaths
