import QueryPaths.Proofs.Emit.Crate
import QueryPaths.Proofs.Emit.Offers

/-! # Memory as a dry run

    What is emitted into memory tells what would be emitted into a directory. As long as packages
    are sound and the disk refuses nothing, both emitters make the same decision at every step:
    each keeps the first artifact of a target, and both render alike.

    * **`SameTargets`**: the record of a directory and memory are about the same targets.
    * **`SameTargets.result_write`**, **`SameTargets.write`**: then both answer a request alike,
      and they are about the same targets after it.
    * **`SameTargets.play`**: so they are after any sequence of requests.
    * **`SameTargets.readText_write`**: the file of an artifact that was just written holds
      what memory holds.
    * **`OutputDirectory.memory_rehearses`**: both emitters side by side.
-/

namespace QueryPaths

open Disk

/-! ## The two states -/

/-- **The directory emitter has recorded the targets that memory has artifacts of**, in the same
    order. -/
def SameTargets (o : Output) (m : Memory) : Prop :=
  o.written.map Written.key = m.artifacts.map Artifact.key

/-- **In a sound package** there is a record exactly if there is an artifact, and otherwise there
    is neither for the same reason. -/
theorem OutputDirectory.map_entry {out : OutputDirectory} {target : Target} {tree : List PathNode}
    {segments : List String} (h : packageSegments target.package = .ok segments) :
    (out.entry target tree).map Written.key =
      (out.renderer.artifact target tree).map Artifact.key := by
  rw [entry, Renderer.artifact, h]
  cases out.renderer.renderText target tree <;> rfl

/-- The answer to an offer does not depend on what is made of it. -/
theorem answerTo_map {α β : Type} {taken : Prop} [Decidable taken] {target : Target}
    {offer : Except EmitError α} (f : α → β) :
    answerTo taken target (offer.map f) = answerTo taken target offer := by
  rw [answerTo, answerTo]
  cases offer <;> rfl

theorem toList_toOption_map {ε α β : Type} {offer : Except ε α} (f : α → β) :
    offer.toOption.toList.map f = (offer.map f).toOption.toList := by
  cases offer <;> rfl

namespace SameTargets

variable {out : OutputDirectory} {o : Output} {m : Memory} {target : Target} {tree : List PathNode}
  {segments : List String}

/-! ## One request -/

/-- **A request gets the same answer from both.** -/
theorem result_write (h : SameTargets o m)
    (hpackage : packageSegments target.package = .ok segments)
    (hdisk : ∀ path fault, (out.write o target tree).result ≠ .error (.io path fault)) :
    (Memory.write out.renderer m target tree).result = (out.write o target tree).result := by
  rw [Memory.result_write, (OutputDirectory.result_write hdisk).1, ← answerTo_map Artifact.key,
    ← answerTo_map Written.key, OutputDirectory.map_entry hpackage, answerTo, answerTo, h]

/-- **After a request** both are about the same targets still. -/
theorem write (h : SameTargets o m) (hpackage : packageSegments target.package = .ok segments)
    (hdisk : ∀ path fault, (out.write o target tree).result ≠ .error (.io path fault)) :
    SameTargets (out.write o target tree).state
      (Memory.write out.renderer m target tree).state := by
  rw [SameTargets, (OutputDirectory.result_write hdisk).2, Memory.artifacts_write,
    map_key_keepFirst, map_key_keepFirst, h, toList_toOption_map, toList_toOption_map,
    OutputDirectory.map_entry hpackage]

/-- **An artifact that was just written** can be read from its file, and memory has the same
    source for its target. -/
theorem readText_write (h : SameTargets o m) (hok : (out.write o target tree).result = .ok ()) :
    ∃ source file,
      (Memory.write out.renderer m target tree).state.get? target.package target.typeName =
        some ⟨target.package, target.typeName, source⟩ ∧
      ⟨target.package, target.typeName, file⟩ ∈ (out.write o target tree).state.written ∧
      (out.write o target tree).state.disk.readText file = .ok source := by
  obtain ⟨segments, source, disk, -, hrender, hstore, hstate, hnew⟩ :=
    OutputDirectory.write_result_eq_ok hok
  refine ⟨source, out.artifactPath segments target.typeName, ?_, ?_, ?_⟩
  · -- nothing was found for the target before, so the new artifact is
    have hfree : m.artifacts.find? (Artifact.key · = target.key) = none := by
      rw [List.find?_eq_none]
      intro a ha htarget
      have hmem : target.key ∈ o.written.map Written.key := by
        rw [h]
        exact List.mem_map.2 ⟨a, ha, of_decide_eq_true htarget⟩
      obtain ⟨w, hw, hkey⟩ := List.mem_map.1 hmem
      exact hnew w hw ⟨congrArg Prod.fst hkey, congrArg Prod.snd hkey⟩
    have hartifact : out.renderer.artifact target tree =
        .ok ⟨target.package, target.typeName, source⟩ := by
      rw [Renderer.artifact, hrender]
      rfl
    -- memory finds what was there before, and else the new one
    rw [Memory.get?_eq_find?, Memory.artifacts_write, hartifact]
    show (keepFirst Artifact.key m.artifacts [_]).find? (Artifact.key · = target.key) = _
    rw [find?_keepFirst, hfree, Option.none_or]
    simp [Artifact.key, Target.key]
  · rw [hstate]
    exact List.mem_append_right _ (List.mem_singleton_self _)
  · rw [hstate]
    exact OutputDirectory.readText_store hstore

/-! ## Sequences of requests -/

/-- **After the same requests** both are about the same targets. -/
theorem play {requests : List (Target × List PathNode)} (h : SameTargets o m)
    (hpackages : ∀ q ∈ requests, ∃ segments, packageSegments q.1.package = .ok segments)
    (hdisk : DiskAllows (out.emitter.emissions o (writes requests))) :
    SameTargets (out.play o (writes requests))
      ((Memory.emitter out.renderer).play m (writes requests)) := by
  induction requests generalizing o m with
  | nil => exact h
  | cons q rest ih =>
    obtain ⟨hfirst, hrest⟩ := List.forall_mem_cons.1 hdisk
    obtain ⟨segments, hsegments⟩ := hpackages q List.mem_cons_self
    exact ih (h.write hsegments hfirst) (fun p hp => hpackages p (List.mem_cons_of_mem _ hp)) hrest

end SameTargets

/-! ## Both emitters -/

namespace OutputDirectory

variable {out : OutputDirectory}

/-- **The memory emitter is a faithful dry run of the directory emitter.** Take any settings, the
    defaults among them, and a disk on which the directory can be opened, and give both emitters,
    fresh, the same requests in sound packages. If the disk refuses none of them, every request
    gets the same answer from both, and afterwards the same targets are recorded as are in memory.
    And whenever the answer is good, the file of the artifact holds the very source that memory
    has for its target. -/
theorem memory_rehearses (config : EmitConfig) (disk : Disk) (path : String)
    (hopen : openAt config disk path = .ok out) (requests : List (Target × List PathNode))
    (hpackages : ∀ q ∈ requests, ∃ segments, packageSegments q.1.package = .ok segments)
    (hdisk : DiskAllows (out.emitter.emissions { disk } (writes requests))) :
    let memory := Memory.emitter ⟨config.selfConst, config.docs⟩
    ∀ before target tree after, requests = before ++ (target, tree) :: after →
      let o := out.play { disk } (writes before)
      let m := memory.play {} (writes before)
      (memory.write m target tree).result = (out.write o target tree).result ∧
      SameTargets (out.write o target tree).state (memory.write m target tree).state ∧
      ((out.write o target tree).result = .ok () → ∃ source file,
        (memory.write m target tree).state.get? target.package target.typeName =
          some ⟨target.package, target.typeName, source⟩ ∧
        ⟨target.package, target.typeName, file⟩ ∈ (out.write o target tree).state.written ∧
        (out.write o target tree).state.disk.readText file = .ok source) := by
  intro memory before target tree after hsplit o m
  -- the directory renders with the settings, as memory does
  have hmemory : memory = Memory.emitter out.renderer := by
    rw [(openAt_eq_ok hopen).2]
  have hscript : writes requests = writes before ++ .write target tree :: writes after := by
    rw [hsplit, writes, List.map_append, List.map_cons, ← writes, ← writes]
  rw [hscript, Emitter.emissions_append, play_emitter] at hdisk
  obtain ⟨hbefore, hbehind⟩ := List.forall_mem_append.1 hdisk
  have hwrite : ∀ path fault, (out.write o target tree).result ≠ .error (.io path fault) :=
    hbehind _ List.mem_cons_self
  have hsame : SameTargets o m := by
    show SameTargets (out.play _ _) (memory.play _ _)
    rw [hmemory]
    refine SameTargets.play rfl (fun q hq => hpackages q ?_) hbefore
    rw [hsplit]
    exact List.mem_append_left _ hq
  obtain ⟨segments, hsegments⟩ : ∃ segments, packageSegments target.package = .ok segments := by
    apply hpackages (target, tree)
    rw [hsplit]
    exact List.mem_append_right _ List.mem_cons_self
  rw [hmemory]
  exact ⟨hsame.result_write hsegments hwrite, hsame.write hsegments hwrite, hsame.readText_write⟩

/-- The target of an artifact in a package. -/
def inPackage : Target := ⟨"a", "T", "a.T"⟩

/-- One request, made twice. -/
def repeated : List (Target × List PathNode) := [(inPackage, []), (inPackage, [])]

/-- **A repeated request** is answered by both emitters, and refused by both the second time. -/
theorem repeated_rehearsed : openAt {} ⟨[], []⟩ "/out" = .ok topmost ∧
    (∀ q ∈ repeated, ∃ segments, packageSegments q.1.package = .ok segments) ∧
    DiskAllows (topmost.emitter.emissions { disk := ⟨[], []⟩ } (writes repeated)) ∧
    (Memory.emitter.write (Memory.emitter.play {} (writes [(inPackage, [])])) inPackage []).result =
      .error (.duplicateArtifact "a" "T") ∧
    ∃ source file,
      (Memory.emitter.write {} inPackage []).state.get? "a" "T" = some ⟨"a", "T", source⟩ ∧
      (topmost.write { disk := ⟨[], []⟩ } inPackage []).state.disk.readText file = .ok source := by
  obtain ⟨text, -, hstep⟩ := step_plainly
  have hfirst : topmost.write { disk := ⟨[], []⟩ } inPackage [] = _ := hstep
  have hok : (topmost.write { disk := ⟨[], []⟩ } inPackage []).result = .ok () := by
    rw [hfirst]
    rfl
  -- the target is taken by the first request
  have hsecond : (topmost.write (topmost.write { disk := ⟨[], []⟩ } inPackage []).state
      inPackage []).result = .error (.duplicateArtifact "a" "T") := by
    rw [hfirst, write_of_taken List.mem_cons_self]
    rfl
  have hopen : openAt {} ⟨[], []⟩ "/out" = .ok topmost := rfl
  have hpackages : ∀ q ∈ repeated, ∃ segments, packageSegments q.1.package = .ok segments := by
    intro q hq
    refine ⟨["a"], ?_⟩
    rcases List.mem_pair.1 hq with rfl | rfl <;> exact packageSegments_a
  have hdisk : DiskAllows (topmost.emitter.emissions { disk := ⟨[], []⟩ } (writes repeated)) := by
    intro e he path fault hio
    rcases List.mem_pair.1 he with rfl | rfl
    · cases hok.symm.trans hio
    · cases hsecond.symm.trans hio
  have hboth := memory_rehearses {} ⟨[], []⟩ "/out" hopen repeated hpackages hdisk
  obtain ⟨hanswer, -, -⟩ := hboth [(inPackage, [])] inPackage [] [] rfl
  obtain ⟨-, -, hread⟩ := hboth [] inPackage [] [(inPackage, [])] rfl
  obtain ⟨source, file, hfound, -, hholds⟩ := hread hok
  exact ⟨hopen, hpackages, hdisk, hanswer.trans hsecond, source, file, hfound, hholds⟩

end OutputDirectory

end QueryPaths
