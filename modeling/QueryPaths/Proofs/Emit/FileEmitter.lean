import QueryPaths.Emit.FileEmitter
import QueryPaths.Proofs.Disk.RawPath
import QueryPaths.Proofs.Emit.Session

/-! # Steps of a file emitter

    What a step of a file emitter can come to does not depend on what its paths are, nor on how
    files are stored. An output directory does the same on path texts, on raw paths, and on a
    disk on which nothing is broken off.

    * **`FileEmitter.Outcome`**: all that a step can come to; `outcome_step` says that there is
      nothing else.
    * **`FileEmitter.files_step`**, **`FileEmitter.Stores.store_eq`**: what a step does to the
      store.
    * **`Emitter.Follows`**: doing the same with other states; `Follows.play` and
      `Follows.emitted` are about whole scripts.
    * **`FileEmitter.Copies.follows`**: a file emitter that joins, shows and stores as an output
      directory does follows it.
    * **`OutputDirectory.onRawPaths_copies`**, **`OutputDirectory.onFaultyDisk_copies`**: the
      output directory in its other forms.
-/

namespace QueryPaths

/-- What is filed after a step that stored a file: an artifact, but not the index. -/
def Step.filed {π : Type} (path : π) : Step → List (Filed π)
  | .write target _ => [⟨target.package, target.typeName, path⟩]
  | .finish => []

/-- **What a script emits**: the trees of the writes that succeed. -/
def Emitter.emitted {σ : Type} (emitter : Emitter σ) (s : σ) :
    List Step → List (Target × List PathNode)
  | [] => []
  | a :: rest =>
    a.emittedWith (emitter.step s a).result ++ emitter.emitted (emitter.step s a).state rest

namespace FileEmitter

variable {π σ : Type} [FilePath π] {e : FileEmitter π σ} {s : Filing π σ} {a : Step}

/-! ## What a step can come to -/

/-- **What a step stores**: the directory, the path of the file, and its text. -/
inductive Stores (e : FileEmitter π σ) (s : Filing π σ) : Step → π → π → String → Prop where
  /-- An artifact that is new, in a sound package, and rendered. -/
  | artifact {target : Target} {tree : List PathNode} {segments : List String} {text : String}
      (fresh : ∀ f ∈ s.filed, ¬(f.package = target.package ∧ f.typeName = target.typeName))
      (package : packageSegments target.package = .ok segments)
      (render : e.renderer.renderText target tree = .ok text) :
      Stores e s (.write target tree) (e.packageDirectory segments)
        (e.artifactPath segments target.typeName) text
  /-- The index of all artifacts filed so far. -/
  | index {text : String} (render : indexText (s.filed.map Filed.shown) = .ok text) :
      Stores e s .finish e.directory e.indexPath text

/-- **All that a step can come to.** -/
inductive Outcome (e : FileEmitter π σ) (s : Filing π σ) (a : Step) :
    Emission (Filing π σ) → Prop where
  /-- It is refused, and nothing changes. -/
  | refused (error : EmitError) : Outcome e s a (.refused s error)
  /-- Its file cannot be stored, and that changes the store only. -/
  | broken {directory path : π} {text : String} {error : EmitError} {files : σ}
      (stores : e.Stores s a directory path text)
      (fails : e.store s.files directory path text = (.error error, files)) :
      Outcome e s a (.refused { s with files } error)
  /-- Its file is stored, and an artifact is filed last. -/
  | done {directory path : π} {text : String} {files : σ} (events : List Event)
      (stores : e.Stores s a directory path text)
      (succeeds : e.store s.files directory path text = (.ok (), files)) :
      Outcome e s a (.done ⟨files, s.filed ++ a.filed path⟩ events)

theorem outcome_write (e : FileEmitter π σ) (s : Filing π σ) (target : Target)
    (tree : List PathNode) : e.Outcome s (.write target tree) (e.write s target tree) := by
  unfold write
  split
  · exact .refused _
  · next hdup =>
    have hfresh : ∀ f ∈ s.filed, ¬(f.package = target.package ∧ f.typeName = target.typeName) := by
      intro f hf hsame
      exact hdup (List.any_eq_true.2 ⟨f, hf, by simp [hsame]⟩)
    -- package and tree are looked at before anything is stored
    cases hpackage : packageSegments target.package with
    | error error => exact .refused error
    | ok segments =>
      cases hrender : e.renderer.renderText target tree with
      | error error => exact .refused error
      | ok text =>
        have hstores : e.Stores s (.write target tree) _ _ text :=
          .artifact hfresh hpackage hrender
        simp only
        split
        · next hfails => exact .broken hstores hfails
        · next hsucceeds => exact .done _ hstores hsucceeds

theorem outcome_finish (e : FileEmitter π σ) (s : Filing π σ) :
    e.Outcome s .finish (e.finish s) := by
  unfold finish
  cases hrender : indexText (s.filed.map Filed.shown) with
  | error error => exact .refused error
  | ok text =>
    simp only
    split
    · next hfails => exact .broken (.index hrender) hfails
    · next files hsucceeds =>
      have hdone := Outcome.done [.wroteIndex (FilePath.text e.indexPath) s.filed.length]
        (.index hrender) hsucceeds
      rwa [Step.filed, List.append_nil] at hdone

/-- **Every step comes to one of these outcomes.** -/
theorem outcome_step (e : FileEmitter π σ) (s : Filing π σ) (a : Step) :
    e.Outcome s a (e.emitter.step s a) := by
  cases a with
  | write target tree => exact outcome_write e s target tree
  | finish => exact outcome_finish e s

/-- A new artifact in a sound package, rendered, comes to what its file comes to. -/
theorem write_of_store {target : Target} {tree : List PathNode} {segments : List String}
    {text : String}
    (hnew : ∀ f ∈ s.filed, ¬(f.package = target.package ∧ f.typeName = target.typeName))
    (hpackage : packageSegments target.package = .ok segments)
    (hrender : e.renderer.renderText target tree = .ok text) :
    e.write s target tree =
      match e.store s.files (e.packageDirectory segments)
        (e.artifactPath segments target.typeName) text with
      | (.error error, files) => .refused { s with files } error
      | (.ok (), files) =>
        .done ⟨files, s.filed ++ [⟨target.package, target.typeName,
            e.artifactPath segments target.typeName⟩]⟩
          [.wroteArtifact (FilePath.text (e.artifactPath segments target.typeName))] := by
  have hdup : ¬(s.filed.any fun f =>
      f.package == target.package && f.typeName == target.typeName) = true := by
    intro hany
    obtain ⟨f, hf, hsame⟩ := List.any_eq_true.1 hany
    simp only [Bool.and_eq_true, beq_iff_eq] at hsame
    exact hnew f hf hsame
  rcases hstore : e.store s.files (e.packageDirectory segments)
      (e.artifactPath segments target.typeName) text with ⟨error | _, files⟩ <;>
    simp only [write, if_neg hdup, hpackage, hrender, hstore]

/-- **A step that comes to storing its file** succeeds if that does, and fails with the same
    error. -/
theorem Stores.store_eq {directory path : π} {text : String}
    (h : e.Stores s a directory path text) :
    e.store s.files directory path text =
      ((e.emitter.step s a).result, (e.emitter.step s a).state.files) := by
  cases h with
  | @artifact target tree segments text fresh package render =>
    have hwrite : e.emitter.step s (.write target tree) = _ := write_of_store fresh package render
    rw [hwrite]
    rcases e.store s.files _ _ text with ⟨error | _, files⟩ <;> rfl
  | @index text render =>
    simp only [Emitter.step, emitter, finish, render]
    rcases e.store s.files _ _ text with ⟨error | _, files⟩ <;> rfl

/-- **What a step does to the store**: nothing, or what storing its file does. -/
theorem files_step (e : FileEmitter π σ) (s : Filing π σ) (a : Step) :
    (e.emitter.step s a).state.files = s.files ∨
      ∃ directory path text, e.Stores s a directory path text := by
  generalize hstep : e.emitter.step s a = emission
  have hout : e.Outcome s a emission := hstep ▸ outcome_step e s a
  cases hout with
  | refused error => exact .inl rfl
  | broken stores fails => exact .inr ⟨_, _, _, stores⟩
  | done events stores succeeds => exact .inr ⟨_, _, _, stores⟩

end FileEmitter

/-! ## The same with other states -/

/-- The emission with another state. -/
def Emission.map {σ τ : Type} (f : σ → τ) (e : Emission σ) : Emission τ :=
  ⟨f e.state, e.result, e.events⟩

/-- **Does an emitter do the same as another one**, with the states that `f` gives? -/
def Emitter.Follows {σ τ : Type} (copy : Emitter τ) (emitter : Emitter σ) (f : σ → τ) : Prop :=
  ∀ s a, copy.step (f s) a = (emitter.step s a).map f

namespace Emitter.Follows

variable {σ τ : Type} {copy : Emitter τ} {emitter : Emitter σ} {f : σ → τ}

/-- **A script leads to the same state.** -/
theorem play (h : copy.Follows emitter f) (s : σ) (script : List Step) :
    copy.play (f s) script = f (emitter.play s script) := by
  induction script generalizing s with
  | nil => rfl
  | cons a rest ih =>
    rw [play_cons, play_cons, h s a, Emission.map]
    exact ih _

/-- **A script emits the same.** -/
theorem emitted (h : copy.Follows emitter f) (s : σ) (script : List Step) :
    copy.emitted (f s) script = emitter.emitted s script := by
  induction script generalizing s with
  | nil => rfl
  | cons a rest ih =>
    rw [Emitter.emitted, Emitter.emitted, h s a, Emission.map]
    exact congrArg _ (ih _)

end Emitter.Follows

namespace FileEmitter

variable {π σ : Type} [FilePath π] {e : FileEmitter π σ} {out : OutputDirectory} {f : String → π}
  {g : Disk → σ}

/-- The state of an output directory, with paths and the store in other forms. -/
def filing (f : String → π) (g : Disk → σ) (o : Output) : Filing π σ :=
  ⟨g o.disk, o.written.map fun w => ⟨w.package, w.typeName, f w.path⟩⟩

/-- **Does a file emitter write what an output directory does?** Paths and the store may have
    other forms. -/
structure Copies (e : FileEmitter π σ) (out : OutputDirectory) (f : String → π) (g : Disk → σ) :
    Prop where
  /-- Paths are joined in the same way. -/
  join : ∀ base child, FilePath.join (f base) child = f (Disk.Path.join base child)
  /-- A path is shown as it is. -/
  text : ∀ path, FilePath.text (f path) = path
  /-- Files are stored in the same way. -/
  store : ∀ disk directory path text, e.store (g disk) (f directory) (f path) text =
    ((OutputDirectory.store disk directory path text).1,
      g (OutputDirectory.store disk directory path text).2)
  /-- The output directory is the same. -/
  directory : e.directory = f out.directory
  /-- The index file is the same. -/
  indexFile : e.indexFile = out.indexFile
  /-- Artifacts are rendered in the same way. -/
  renderer : e.renderer = out.renderer

namespace Copies

theorem indexPath (h : e.Copies out f g) : e.indexPath = f out.indexPath := by
  rw [FileEmitter.indexPath, h.directory, h.indexFile, h.join]
  rfl

theorem packageDirectory (h : e.Copies out f g) (segments : List String) :
    e.packageDirectory segments = f (out.packageDirectory segments) := by
  rw [FileEmitter.packageDirectory, h.directory, OutputDirectory.packageDirectory]
  generalize out.directory = directory
  induction segments generalizing directory with
  | nil => rfl
  | cons segment rest ih => rw [List.foldl_cons, h.join, ih, List.foldl_cons]

theorem artifactPath (h : e.Copies out f g) (segments : List String) (typeName : String) :
    e.artifactPath segments typeName = f (out.artifactPath segments typeName) := by
  rw [FileEmitter.artifactPath, h.packageDirectory, h.join]
  rfl

theorem map_shown (h : e.Copies out f g) (o : Output) :
    (filing f g o).filed.map Filed.shown = o.written := by
  have hshown : ∀ w : Written, (⟨w.package, w.typeName, f w.path⟩ : Filed π).shown = w := by
    intro w
    rw [Filed.shown, h.text]
  rw [filing, List.map_map]
  exact (List.map_congr_left fun w _ => hshown w).trans (List.map_id _)

/-- **A copy does the same as its original**, step by step. -/
theorem follows (h : e.Copies out f g) : e.emitter.Follows out.emitter (filing f g) := by
  intro o a
  cases a with
  | write target tree =>
    change e.write (filing f g o) target tree = (out.write o target tree).map (filing f g)
    -- the same targets are taken
    have hany : ((filing f g o).filed.any fun w =>
        w.package == target.package && w.typeName == target.typeName) =
        o.written.any fun w => w.package == target.package && w.typeName == target.typeName :=
      List.any_map
    unfold FileEmitter.write OutputDirectory.write
    rw [hany, h.renderer]
    split
    · rfl
    · cases packageSegments target.package with
      | error error => rfl
      | ok segments =>
        cases out.renderer.renderText target tree with
        | error error => rfl
        | ok text =>
          -- the one place where the stores come in
          simp only [h.packageDirectory, h.artifactPath, h.text, filing, h.store]
          rcases OutputDirectory.store o.disk _ _ text with ⟨error | _, disk⟩
          · rfl
          · simp [Emission.map, Emission.done, filing]
  | finish =>
    change e.finish (filing f g o) = (out.finish o).map (filing f g)
    unfold FileEmitter.finish OutputDirectory.finish
    rw [h.map_shown]
    cases indexText o.written with
    | error error => rfl
    | ok text =>
      simp only [h.directory, h.indexPath, h.text, filing, h.store]
      rcases OutputDirectory.store o.disk _ _ text with ⟨error | _, disk⟩
      · rfl
      · simp [Emission.map, Emission.done, filing]

end Copies

end FileEmitter

namespace OutputDirectory

open Disk

variable (out : OutputDirectory)

/-- **On a disk on which nothing is broken off** an output directory does what it does on any
    disk. -/
theorem onFaultyDisk_copies : out.onFaultyDisk.Copies out id (⟨·, []⟩) where
  join := fun _ _ => rfl
  text := fun _ => rfl
  store := by
    intro disk directory path text
    simp only [onFaultyDisk, List.head?_nil, Option.join_none, storeUntil_none]
    rfl
  directory := rfl
  indexFile := rfl
  renderer := rfl

end OutputDirectory

end QueryPaths
