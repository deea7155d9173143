import QueryPaths.Emit.Memory
import QueryPaths.Proofs.Emit.Crate

/-! # Sessions of an emitter

    Any emitter may be asked for the steps of a script one after the other. A step that is
    refused for what it was asked for, and not by the disk, leaves the emitter as it was: the
    session might as well have gone without it.

    * **`Emitter.play`**, **`Emitter.emissions`**: the state after a script, and what each of its
      steps came to.
    * **`Emission.isRefused`**, **`Emitter.withoutRefused`**: refused steps, and a script without
      those that are refused on the way.
    * **`Emitter.emissions_withoutRefused`**: where refused steps change nothing, the others come
      to the same without them.
    * **`OutputDirectory.state_of_isRefused`**, **`OutputDirectory.step_of_io`**: what a step that
      fails leaves behind.
    * **`OutputDirectory.failed_step_leaves_no_trace`**: all of it together.
-/

namespace QueryPaths

/-! ## What steps come to -/

/-- **The steps that ask for path trees** one after the other. -/
def writes (requests : List (Target × List PathNode)) : List Step :=
  requests.map fun q => .write q.1 q.2

namespace Emitter

variable {σ : Type} {emitter : Emitter σ} {s : σ} {a : Step} {front script : List Step}

/-- One step of an emitter. -/
def step (emitter : Emitter σ) (s : σ) : Step → Emission σ
  | .write target tree => emitter.write s target tree
  | .finish => emitter.finish s

/-- **The state after a script**, whether or not its steps succeed. -/
def play (emitter : Emitter σ) (s : σ) : List Step → σ
  | [] => s
  | a :: rest => emitter.play (emitter.step s a).state rest

/-- **What each step of a script comes to**, in order. -/
def emissions (emitter : Emitter σ) (s : σ) : List Step → List (Emission σ)
  | [] => []
  | a :: rest => emitter.step s a :: emitter.emissions (emitter.step s a).state rest

@[simp] theorem play_nil : emitter.play s [] = s := rfl

@[simp] theorem play_cons :
    emitter.play s (a :: script) = emitter.play (emitter.step s a).state script := rfl

theorem emissions_append : emitter.emissions s (front ++ script) =
    emitter.emissions s front ++ emitter.emissions (emitter.play s front) script := by
  induction front generalizing s with
  | nil => rfl
  | cons first rest ih => exact congrArg (_ :: ·) ih

end Emitter

/-! ## Refused steps -/

/-- **Is the step refused for what it was asked for?** The target is already there, or a name
    is no identifier, or it is taken. -/
def Emission.isRefused {σ : Type} (e : Emission σ) : Bool :=
  match e.result with
  | .error (.duplicateArtifact ..) => true
  | .error (.invalidIdent _) => true
  | .error (.duplicateName ..) => true
  | .error (.io ..) => false
  | .ok () => false

namespace Emitter

variable {σ : Type} {emitter : Emitter σ}

/-- **A script without the steps that are refused** when it is played from a state. -/
def withoutRefused (emitter : Emitter σ) (s : σ) : List Step → List Step
  | [] => []
  | a :: rest =>
    let kept := emitter.withoutRefused (emitter.step s a).state rest
    if (emitter.step s a).isRefused then kept else a :: kept

/-- **Where refused steps change nothing, a script can do without them**: the other steps come
    to the same, and so does the whole script. -/
theorem emissions_withoutRefused
    (hsame : ∀ s a, (emitter.step s a).isRefused = true → (emitter.step s a).state = s)
    (s : σ) (script : List Step) :
    emitter.emissions s (emitter.withoutRefused s script) =
        (emitter.emissions s script).filter (!·.isRefused) ∧
      emitter.play s (emitter.withoutRefused s script) = emitter.play s script := by
  induction script generalizing s with
  | nil => exact ⟨rfl, rfl⟩
  | cons a rest ih =>
    obtain ⟨hemissions, hplay⟩ := ih (emitter.step s a).state
    rw [withoutRefused, emissions, play_cons]
    by_cases hrefused : (emitter.step s a).isRefused = true
    · -- the rest starts from the same state with or without this step
      have hstate := hsame s a hrefused
      rw [if_pos hrefused, List.filter_cons_of_neg (by simp [hrefused])]
      rw [hstate] at hemissions hplay ⊢
      exact ⟨hemissions, hplay⟩
    · rw [if_neg hrefused, List.filter_cons_of_pos (by simp [hrefused]), emissions, play_cons,
        hemissions, hplay]
      exact ⟨rfl, rfl⟩

end Emitter

/-! ## Refused by a directory -/

/-- **Nothing but directories was added to a disk**: what lay at a place lies there as it did,
    and where nothing was, there is at most a new directory. -/
structure Disk.OnlyAddsDirectories (d d' : Disk) : Prop where
  /-- The working directory is the same. -/
  cwd : d'.cwd = d.cwd
  /-- Every place is as it was, or a new directory. -/
  node : ∀ place, d'.node? place = d.node? place ∨
    (d.node? place = none ∧ d'.node? place = some .directory)

namespace OutputDirectory

open Disk

variable {out : OutputDirectory} {o : Output} {s : Step}

@[simp] theorem step_emitter (out : OutputDirectory) (o : Output) (s : Step) :
    out.emitter.step o s = out.step o s := by
  cases s <;> rfl

@[simp] theorem play_emitter (out : OutputDirectory) (o : Output) (script : List Step) :
    out.emitter.play o script = out.play o script := by
  induction script generalizing o with
  | nil => rfl
  | cons s rest ih => rw [Emitter.play_cons, play_cons, step_emitter, ih]

/-- **A refused step changes nothing**: neither the disk nor the record. -/
theorem state_of_isRefused (h : (out.step o s).isRefused = true) : (out.step o s).state = o := by
  generalize hstep : out.step o s = emission at h ⊢
  have hout : out.Outcome o s emission := hstep ▸ outcome_step out o s
  cases hout with
  | refused e => rfl
  | broken stores fails =>
    -- what cannot be stored is refused by the disk
    obtain ⟨path, fault, rfl⟩ := exists_io_of_store_error fails
    cases h
  | done events stores succeeds => cases h

/-- A file that cannot be stored leaves the directories that were made for it. -/
theorem onlyAddsDirectories_of_store_error {disk disk' : Disk} {directory path text : String}
    {e : EmitError} (h : store disk directory path text = (.error e, disk')) :
    OnlyAddsDirectories disk disk' := by
  have hchanges := changesOnly_store h
  refine ⟨hchanges.cwd, fun place => ?_⟩
  rcases hchanges.node place with hsame | ⟨hnone, hdir, -⟩ | ⟨-, hfile, -⟩
  · exact .inl hsame
  · exact .inr ⟨hnone, hdir⟩
  · cases hfile

/-- **A step that the disk refuses** leaves the record as it was, and at most new directories. -/
theorem step_of_io {path : String} {fault : Fault}
    (h : (out.step o s).result = .error (.io path fault)) :
    (out.step o s).state.written = o.written ∧
      OnlyAddsDirectories o.disk (out.step o s).state.disk := by
  generalize hstep : out.step o s = emission at h ⊢
  have hout : out.Outcome o s emission := hstep ▸ outcome_step out o s
  cases hout with
  | refused e => exact ⟨rfl, rfl, fun _ => .inl rfl⟩
  | broken stores fails => exact ⟨rfl, onlyAddsDirectories_of_store_error fails⟩
  | done events stores succeeds => cases h

end OutputDirectory

/-- **A write into memory that fails changes nothing.** -/
theorem Memory.state_of_write_error {r : Renderer} {m : Memory} {target : Target}
    {tree : List PathNode} {e : EmitError} (h : (Memory.write r m target tree).result = .error e) :
    (Memory.write r m target tree).state = m := by
  unfold Memory.write at h ⊢
  split
  · rfl
  · next hnew =>
    rw [if_neg hnew] at h
    cases hrender : r.renderText target tree with
    | error d => rfl
    | ok source =>
      rw [hrender] at h
      cases h

/-! ## Failures without a trace -/

/-- **A failed emission leaves no trace.** Whatever the disk and the record are, a step of the
    directory emitter that is refused as a duplicate, or for a name, changes neither. So a script
    without all steps that are refused on its way comes to the same: every other step succeeds or
    fails as before, with the same disk and record behind it, and so it is at the end. A step that
    fails for the disk leaves the record and the content of every file as they were, and at most
    adds directories. And a write into memory that fails leaves the artifacts as they were. -/
theorem OutputDirectory.failed_step_leaves_no_trace (out : OutputDirectory) :
    (∀ o s, (out.step o s).isRefused = true → (out.step o s).state = o) ∧
    (∀ o script,
      out.emitter.emissions o (out.emitter.withoutRefused o script) =
          (out.emitter.emissions o script).filter (!·.isRefused) ∧
        out.play o (out.emitter.withoutRefused o script) = out.play o script) ∧
    (∀ o s path fault, (out.step o s).result = .error (.io path fault) →
      (out.step o s).state.written = o.written ∧
        o.disk.OnlyAddsDirectories (out.step o s).state.disk) ∧
    (∀ (r : Renderer) (m : Memory) (target : Target) (tree : List PathNode) (e : EmitError),
      (Memory.write r m target tree).result = .error e →
        (Memory.write r m target tree).state = m) := by
  refine ⟨fun o s => state_of_isRefused, ?_, fun o s path fault => step_of_io,
    fun r m target tree e => Memory.state_of_write_error⟩
  intro o script
  have hsame : ∀ o s, (out.emitter.step o s).isRefused = true →
      (out.emitter.step o s).state = o := by
    intro o s h
    rw [step_emitter] at h ⊢
    exact state_of_isRefused h
  have hboth := Emitter.emissions_withoutRefused hsame o script
  rwa [play_emitter, play_emitter] at hboth

namespace OutputDirectory

/-- A disk with a file in place of the output directory. -/
def blocked : Disk := ⟨[(["out"], .file "".toUTF8)], []⟩

/-- **A step that is repeated, one that the disk refuses, and a repeated write into memory.** -/
theorem repeated_and_blocked_leave_no_trace :
    (topmost.step (topmost.play { disk := ⟨[], []⟩ } [plainly]) plainly).isRefused = true ∧
    (topmost.step (topmost.play { disk := ⟨[], []⟩ } [plainly]) plainly).state =
      topmost.play { disk := ⟨[], []⟩ } [plainly] ∧
    topmost.emitter.withoutRefused { disk := ⟨[], []⟩ } [plainly, plainly] = [plainly] ∧
    topmost.play { disk := ⟨[], []⟩ } [plainly] =
      topmost.play { disk := ⟨[], []⟩ } [plainly, plainly] ∧
    (topmost.step { disk := blocked } plainly).result = .error (.io "/out/a" .notDirectory) ∧
    blocked.OnlyAddsDirectories (topmost.step { disk := blocked } plainly).state.disk ∧
    (Memory.write {} ⟨[⟨"a", "T", ""⟩]⟩ ⟨"a", "T", "a.T"⟩ []).result =
      .error (.duplicateArtifact "a" "T") ∧
    (Memory.write {} ⟨[⟨"a", "T", ""⟩]⟩ ⟨"a", "T", "a.T"⟩ []).state = ⟨[⟨"a", "T", ""⟩]⟩ := by
  obtain ⟨hrefused, hwithout, hio, hmemory⟩ := failed_step_leaves_no_trace topmost
  obtain ⟨source, hsource, hfirst⟩ := step_plainly
  have hplay : topmost.play { disk := ⟨[], []⟩ } [plainly] =
      ⟨plainDisk source, [⟨"a", "T", "/out/a/T.rs"⟩]⟩ := by
    rw [play_cons, play_nil, hfirst, Emission.done]
  have hsecond : (topmost.step (topmost.play { disk := ⟨[], []⟩ } [plainly]) plainly).isRefused =
      true := by
    rw [hplay]
    rfl
  -- of the two equal steps, the second one is left out
  have hscript : topmost.emitter.withoutRefused { disk := ⟨[], []⟩ } [plainly, plainly] =
      [plainly] := by
    have hkept : (topmost.step { disk := ⟨[], []⟩ } plainly).isRefused = false := by
      rw [hfirst]
      rfl
    have hdropped : (topmost.step (topmost.step { disk := ⟨[], []⟩ } plainly).state
        plainly).isRefused = true := hsecond
    simp [Emitter.withoutRefused, hkept, hdropped]
  -- a file stands where the directory of the package should be
  have hblocked : (topmost.step { disk := blocked } plainly).result =
      .error (.io "/out/a" .notDirectory) := by
    have hstore : store blocked (topmost.packageDirectory ["a"]) (topmost.artifactPath ["a"] "T")
        source = (.error (.io "/out/a" .notDirectory), blocked) := rfl
    show (topmost.write { disk := blocked } ⟨"a", "T", "a.T"⟩ []).result = _
    simp [write, packageSegments_a, hsource, hstore, Emission.refused]
  refine ⟨hsecond, hrefused _ _ hsecond, hscript, ?_, hblocked, (hio _ _ _ _ hblocked).2, rfl,
    hmemory _ _ _ _ _ rfl⟩
  have hsame := (hwithout { disk := ⟨[], []⟩ } [plainly, plainly]).2
  rwa [hscript] at hsame

end OutputDirectory

end QueryPaths
