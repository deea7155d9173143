import QueryPaths.Proofs.Emit.Directory
import QueryPaths.Proofs.Emit.Packages

/-! # Sequences of steps

    The directory emitter may be asked for artifacts and for the index in any order and
    as often as one likes. Steps that fail leave an output behind that further steps start
    from.

    * **`Step`**, **`OutputDirectory.play`**: a sequence of steps, and the output after it.
    * **`OutputDirectory.Outcome`**: all that a step can come to; `outcome_step` says that
      there is nothing else.
    * **`OutputDirectory.emitted`**, **`OutputDirectory.sources`**: the trees that a sequence
      emits, and their sources.
    * **`OutputDirectory.mem_written_play`**, **`OutputDirectory.map_key_written_play`**: what
      is recorded after a sequence.
-/

namespace QueryPaths

/-- **A step of an emitter.** -/
inductive Step where
  /-- The path tree of one class is to be emitted. -/
  | write (target : Target) (tree : List PathNode)
  /-- The output is to be completed. -/
  | finish
  deriving Inhabited

/-- What a step emits with the given result: its tree, if it has one and succeeded. -/
def Step.emittedWith (result : Except EmitError Unit) : Step → List (Target × List PathNode)
  | .write target tree =>
    match result with
    | .ok () => [(target, tree)]
    | .error _ => []
  | .finish => []

/-- What is recorded after a step that stored a file: an artifact, but not the index. -/
def Step.recorded (path : String) : Step → List Written
  | .write target _ => [⟨target.package, target.typeName, path⟩]
  | .finish => []

namespace OutputDirectory

open Disk

variable {out : OutputDirectory} {o : Output} {s : Step} {script : List Step}

/-- One step. -/
def step (out : OutputDirectory) (o : Output) : Step → Emission Output
  | .write target tree => out.write o target tree
  | .finish => out.finish o

/-- **The output after a sequence of steps**, whether or not they succeed. -/
def play (out : OutputDirectory) (o : Output) : List Step → Output
  | [] => o
  | s :: rest => out.play (out.step o s).state rest

/-- **What a sequence of steps emits**: the trees of the writes that succeed. -/
def emitted (out : OutputDirectory) (o : Output) : List Step → List (Target × List PathNode)
  | [] => []
  | s :: rest =>
    s.emittedWith (out.step o s).result ++ out.emitted (out.step o s).state rest

/-- The record of an emitted tree, with its source in place of the file that it is in. -/
def source? (out : OutputDirectory) (e : Target × List PathNode) : Option Written :=
  (out.renderer.renderText e.1 e.2).toOption.map fun text => ⟨e.1.package, e.1.typeName, text⟩

/-- **The sources that a sequence of steps emits.** -/
def sources (out : OutputDirectory) (o : Output) (script : List Step) : List Written :=
  (out.emitted o script).filterMap out.source?

@[simp] theorem play_nil : out.play o [] = o := rfl

@[simp] theorem play_cons : out.play o (s :: script) = out.play (out.step o s).state script := rfl

/-- **What every step keeps is kept by a sequence of steps.** -/
theorem play_invariant {P : Output → Prop} (hstep : ∀ o, ∀ s ∈ script, P o → P (out.step o s).state)
    (h : P o) : P (out.play o script) := by
  induction script generalizing o with
  | nil => exact h
  | cons s rest ih =>
    rw [play_cons]
    apply ih fun o s hs => hstep o s (List.mem_cons_of_mem _ hs)
    exact hstep o s List.mem_cons_self h

/-! ## What a step can come to -/

/-- **What a step stores**: the directory, the path of the file, and its text. -/
inductive Stores (out : OutputDirectory) (o : Output) : Step → String → String → String → Prop where
  /-- An artifact that is new, in a sound package, and rendered. -/
  | artifact {target : Target} {tree : List PathNode} {segments : List String} {text : String}
      (fresh : ∀ w ∈ o.written, ¬(w.package = target.package ∧ w.typeName = target.typeName))
      (package : packageSegments target.package = .ok segments)
      (render : out.renderer.renderText target tree = .ok text) :
      Stores out o (.write target tree) (out.packageDirectory segments)
        (out.artifactPath segments target.typeName) text
  /-- The index of all artifacts recorded so far. -/
  | index {text : String} (render : indexText o.written = .ok text) :
      Stores out o .finish out.directory out.indexPath text

/-- **All that a step can come to.** -/
inductive Outcome (out : OutputDirectory) (o : Output) (s : Step) : Emission Output → Prop where
  /-- It is refused, and nothing changes. -/
  | refused (e : EmitError) : Outcome out o s (.refused o e)
  /-- Its file cannot be stored; some directories may have been made. -/
  | broken {directory path text : String} {e : EmitError} {disk : Disk}
      (stores : out.Stores o s directory path text)
      (fails : store o.disk directory path text = (.error e, disk)) :
      Outcome out o s (.refused { o with disk } e)
  /-- Its file is stored, and an artifact is recorded last. -/
  | done {directory path text : String} {disk : Disk} (events : List Event)
      (stores : out.Stores o s directory path text)
      (succeeds : store o.disk directory path text = (.ok (), disk)) :
      Outcome out o s (.done ⟨disk, o.written ++ s.recorded path⟩ events)

theorem outcome_write (out : OutputDirectory) (o : Output) (target : Target) (tree : List PathNode) :
    out.Outcome o (.write target tree) (out.write o target tree) := by
  unfold write
  by_cases hdup : (o.written.any fun w =>
      w.package == target.package && w.typeName == target.typeName) = true
  · rw [if_pos hdup]
    exact .refused _
  rw [if_neg hdup]
  have hfresh := forall_other_target hdup
  -- package and tree are looked at before anything is stored
  cases hpackage : packageSegments target.package with
  | error e => exact .refused e
  | ok segments =>
    cases hrender : out.renderer.renderText target tree with
    | error e => exact .refused e
    | ok text =>
      have hstores : out.Stores o (.write target tree) _ _ text :=
        .artifact hfresh hpackage hrender
      simp only
      split
      · next hfails => exact .broken hstores hfails
      · next hsucceeds => exact .done _ hstores hsucceeds

theorem outcome_finish (out : OutputDirectory) (o : Output) :
    out.Outcome o .finish (out.finish o) := by
  unfold finish
  cases hrender : indexText o.written with
  | error e => exact .refused e
  | ok text =>
    simp only
    split
    · next hfails => exact .broken (.index hrender) hfails
    · next disk hsucceeds =>
      have hdone := Outcome.done [.wroteIndex out.indexPath o.written.length] (.index hrender) hsucceeds
      rwa [Step.recorded, List.append_nil] at hdone

/-- **Every step comes to one of these outcomes.** -/
theorem outcome_step (out : OutputDirectory) (o : Output) (s : Step) :
    out.Outcome o s (out.step o s) := by
  cases s with
  | write target tree => exact outcome_write out o target tree
  | finish => exact outcome_finish out o

/-- **What a step does to the disk**: nothing, or what storing its file does. If that succeeds,
    so does the step. -/
theorem disk_step (out : OutputDirectory) (o : Output) (s : Step) :
    (out.step o s).state.disk = o.disk ∨
      ∃ directory path text result, out.Stores o s directory path text ∧
        store o.disk directory path text = (result, (out.step o s).state.disk) ∧
        (result = .ok () → (out.step o s).result = .ok ()) := by
  generalize hstep : out.step o s = emission
  have hout : out.Outcome o s emission := hstep ▸ outcome_step out o s
  cases hout with
  | refused e => exact .inl rfl
  | broken stores fails => exact .inr ⟨_, _, _, _, stores, fails, fun hok => by cases hok⟩
  | done events stores succeeds => exact .inr ⟨_, _, _, _, stores, succeeds, fun _ => rfl⟩

/-! ## What is recorded -/

/-- **Where a recorded artifact comes from**: one of the steps was asked for it, and it was
    found sound. -/
def RecordedBy (out : OutputDirectory) (script : List Step) (w : Written) : Prop :=
  ∃ target tree segments text, .write target tree ∈ script ∧
    packageSegments target.package = .ok segments ∧
    out.renderer.renderText target tree = .ok text ∧
    w = ⟨target.package, target.typeName, out.artifactPath segments target.typeName⟩

/-- A step adds to the record only what it is asked for. -/
theorem mem_written_step {w : Written} (hs : s ∈ script) (h : w ∈ (out.step o s).state.written) :
    w ∈ o.written ∨ out.RecordedBy script w := by
  generalize hstep : out.step o s = emission at h
  have hout : out.Outcome o s emission := hstep ▸ outcome_step out o s
  -- only a step that is done adds to the record
  cases hout with
  | refused e => exact .inl h
  | broken stores fails => exact .inl h
  | done events stores succeeds =>
    rcases List.mem_append.1 h with hold | hnew
    · exact .inl hold
    · cases stores with
      | artifact fresh package render =>
        obtain rfl := List.mem_singleton.1 hnew
        exact .inr ⟨_, _, _, _, hs, package, render, rfl⟩
      | index render => cases hnew

/-- **Everything recorded after a sequence of steps** was recorded before or comes from
    one of the steps. -/
theorem mem_written_play :
    ∀ w ∈ (out.play o script).written, w ∈ o.written ∨ out.RecordedBy script w := by
  apply play_invariant (P := fun o' => ∀ w ∈ o'.written, w ∈ o.written ∨ out.RecordedBy script w)
  · intro o' s hs hbefore w hw
    rcases mem_written_step hs hw with hold | hnew
    · exact hbefore w hold
    · exact .inr hnew
  · intro w hw
    exact .inl hw

theorem exists_segments_of_mem_play {disk : Disk} :
    ∀ w ∈ (out.play { disk } script).written,
      ∃ segments, packageSegments w.package = .ok segments := by
  intro w hw
  rcases mem_written_play w hw with hold | ⟨target, tree, segments, text, -, hsegments, -, rfl⟩
  · cases hold
  · exact ⟨segments, hsegments⟩

/-- **No target is recorded twice.** -/
theorem nodup_keys_play (h : (o.written.map Written.key).Nodup) :
    ((out.play o script).written.map Written.key).Nodup := by
  apply play_invariant (P := fun o' => (o'.written.map Written.key).Nodup)
  · intro o' s _ hbefore
    generalize hstep : out.step o' s = emission
    have hout : out.Outcome o' s emission := hstep ▸ outcome_step out o' s
    cases hout with
    | refused e => exact hbefore
    | broken stores fails => exact hbefore
    | done events stores succeeds =>
      cases stores with
      | artifact fresh package render =>
        -- the artifact was new
        rw [Emission.done, List.map_append, List.nodup_append]
        refine ⟨hbefore, List.pairwise_singleton _ _, ?_⟩
        rintro k hk _ hk' rfl
        obtain ⟨w, hw, hkey⟩ := List.mem_map.1 hk
        obtain rfl := List.mem_singleton.1 hk'
        exact fresh w hw ⟨congrArg Prod.fst hkey, congrArg Prod.snd hkey⟩
      | index render => exact (List.append_nil o'.written).symm ▸ hbefore
  · exact h

/-! ## What is emitted -/

/-- **A step records what it emits**, and that is sound. -/
theorem emittedWith_step (out : OutputDirectory) (o : Output) (s : Step) :
    (out.step o s).state.written.map Written.key = o.written.map Written.key ++
        ((s.emittedWith (out.step o s).result).filterMap out.source?).map Written.key ∧
      ∀ e ∈ s.emittedWith (out.step o s).result, ∃ segments text,
        packageSegments e.1.package = .ok segments ∧ out.renderer.renderText e.1 e.2 = .ok text := by
  generalize hstep : out.step o s = emission
  have hout : out.Outcome o s emission := hstep ▸ outcome_step out o s
  -- nothing is emitted by a step that fails, nor by one that writes the index
  have hfailed : ∀ e, s.emittedWith (.error e) = [] := by
    intro e
    cases s <;> rfl
  cases hout with
  | refused e => simp [Emission.refused, hfailed]
  | broken stores fails => simp [Emission.refused, hfailed]
  | @done _ _ text _ events stores succeeds =>
    cases stores with
    | @artifact target tree segments _ fresh package render =>
      have hsource : out.source? (target, tree) = some ⟨target.package, target.typeName, text⟩ := by
        rw [source?, render]
        rfl
      simp [Emission.done, Step.emittedWith, Step.recorded, hsource, Written.key, package, render]
    | index render => simp [Emission.done, Step.emittedWith, Step.recorded]

/-- **A sequence of steps records what it emits**, in order. -/
theorem map_key_written_play (out : OutputDirectory) (o : Output) (script : List Step) :
    (out.play o script).written.map Written.key =
      o.written.map Written.key ++ (out.sources o script).map Written.key := by
  induction script generalizing o with
  | nil => simp [sources, emitted]
  | cons s rest ih =>
    rw [play_cons, ih, (emittedWith_step out o s).1, sources, sources, emitted,
      List.filterMap_append, List.map_append, List.append_assoc]

/-- **What is emitted is sound.** -/
theorem sound_of_mem_emitted {e : Target × List PathNode} (h : e ∈ out.emitted o script) :
    ∃ segments text, packageSegments e.1.package = .ok segments ∧
      out.renderer.renderText e.1 e.2 = .ok text := by
  induction script generalizing o with
  | nil => cases h
  | cons s rest ih =>
    rw [emitted] at h
    rcases List.mem_append.1 h with hfirst | hrest
    · exact (emittedWith_step out o s).2 e hfirst
    · exact ih hrest

theorem mem_sources_iff {w : Written} : w ∈ out.sources o script ↔
    ∃ e ∈ out.emitted o script, ∃ text, out.renderer.renderText e.1 e.2 = .ok text ∧
      w = ⟨e.1.package, e.1.typeName, text⟩ := by
  rw [sources, List.mem_filterMap]
  constructor
  · rintro ⟨e, he, hsource⟩
    obtain ⟨text, htext, rfl⟩ := Option.map_eq_some_iff.1 hsource
    refine ⟨e, he, text, ?_, rfl⟩
    cases hrender : out.renderer.renderText e.1 e.2 with
    | error d => rw [hrender] at htext; cases htext
    | ok source => rw [hrender] at htext; rw [Option.some.inj htext]
  · rintro ⟨e, he, text, hrender, rfl⟩
    exact ⟨e, he, by rw [source?, hrender]; rfl⟩

end OutputDirectory

end QueryPaths
