import QueryPaths.Proofs.Disk.Repetition
import QueryPaths.Proofs.Generate.FailFast
import QueryPaths.Proofs.Generate.FailSoft
import QueryPaths.Proofs.Generate.Intact

/-! # Generating again

    After a run that succeeds, another one with the same pool, settings and directory meets the
    directories and files that the first one has left. It succeeds in the same way, and in the end
    the disk is as it was.

    While the second run is under way the disk may well be another one: where several files share
    a place, the first of them is there again until the last one is written over it. So the second
    run is followed beside the first one.

    * **`Repeats`**: what holds between the disks of the two runs after the same steps.
    * **`Repeats.store`**, **`EmitsAll.again`**: kept by a step, and by all of them.
    * **`ClassPool.generateInto_again`**: the whole second run.
-/

namespace QueryPaths

open Disk OutputDirectory

/-! ## Two runs side by side -/

/-- **The second run is as far as the first one was.** The first run had the disk `d` then and has
    left the disk `left`; the second one has `e`. -/
structure Repeats (left d e : Disk) : Prop where
  /-- All that the first run has left is there, in its kind. -/
  keeps : Keeps left e
  /-- There are no other entries, and none has moved. -/
  layout : e.layout = left.layout
  /-- What lies at a place was left there by the first run, or is what it had there then. -/
  node : ∀ place, e.node? place = left.node? place ∨ e.node? place = d.node? place

variable {left d d' e : Disk}

theorem Repeats.start (left d : Disk) : Repeats left d left :=
  ⟨.refl left, rfl, fun _ => .inl rfl⟩

/-- **When both runs are through, the disks are the same.** -/
theorem Repeats.finish (h : Repeats left left e) : e = left :=
  eq_of_layout_eq h.layout h.keeps.cwd fun place => (h.node place).elim id id

/-- **A file that was stored is stored again.** -/
theorem Repeats.store {directory path text : String} (h : Repeats left d e)
    (hstore : store d directory path text = (.ok (), d')) (hleft : Keeps d' left) :
    ∃ e', store e directory path text = (.ok (), e') ∧ Repeats left d' e' := by
  obtain ⟨ready, hcreate, hwrite⟩ := store_steps hstore
  have hadds : Extends d ready := by
    have hextends := extends_createAll d directory
    rwa [hcreate] at hextends
  have hkeeps : Keeps d' e := hleft.trans h.keeps
  have hcreate' := createAll_again hcreate ((keeps_writeFile hwrite).trans hkeeps)
  obtain ⟨hwrite', hne, old, hold⟩ := writeFile_again hwrite hkeeps
  refine ⟨e.put (ready.destination path) (.file text.toUTF8), ?_, ?_, ?_, ?_⟩
  · unfold OutputDirectory.store
    simp only [hcreate', hwrite']
  · exact h.keeps.trans (keeps_writeFile hwrite')
  · rw [layout_put hne _ (by rw [hold]; rfl), h.layout]
  · intro place
    obtain ⟨-, -, hput⟩ := writeFile_eq_put hwrite
    rw [hput, node?_put ready hne, node?_put e hne]
    by_cases hplace : place = ready.destination path
    · rw [if_pos hplace, if_pos hplace]
      exact .inr rfl
    · rw [if_neg hplace, if_neg hplace]
      rcases h.node place with hsame | hsame
      · exact .inl hsame
      · cases hnode : d.node? place with
        | some node => exact .inr (by rw [hsame, hnode, hadds.node hnode])
        | none =>
          -- nothing is at the place in the second run, so the first one has left nothing there
          rw [hnode] at hsame
          cases hnone : left.node? place with
          | none => exact .inl hsame
          | some node =>
            have hsome := h.keeps.isSome (by rw [hnone]; rfl)
            rw [hsame] at hsome
            cases hsome

/-! ## Emitting again -/

variable {out : OutputDirectory} {pool : ClassPool} {config : GenerateConfig} {o o' : Output}
  {classes : List ModelClass}

theorem EmitsAll.keeps (h : EmitsAll pool config out.emitter o classes o') :
    Keeps o.disk o'.disk := by
  induction h with
  | nil s => exact .refl s.disk
  | @cons s s' c rest emits after ih =>
    obtain ⟨segments, text, disk, -, -, hstore, hstate, -⟩ := write_result_eq_ok emits
    have hstep : (out.emitter.write s (config.target c) (pool.tree c)).state.disk = disk :=
      congrArg Output.disk hstate
    rw [hstep] at ih
    exact (keeps_store hstore).trans ih

/-- **Classes that were emitted are emitted again**, with the same record. -/
theorem EmitsAll.again (h : EmitsAll pool config out.emitter o classes o')
    (hleft : Keeps o'.disk left) (hrepeats : Repeats left o.disk e) :
    ∃ e', EmitsAll pool config out.emitter ⟨e, o.written⟩ classes ⟨e', o'.written⟩ ∧
      Repeats left o'.disk e' := by
  induction h generalizing e with
  | nil s => exact ⟨e, .nil _, hrepeats⟩
  | @cons s s' c rest emits after ih =>
    obtain ⟨segments, text, disk, hseg, htext, hstore, hstate, hnew⟩ := write_result_eq_ok emits
    replace hstate : (out.emitter.write s (config.target c) (pool.tree c)).state = _ := hstate
    have hafter := after.keeps
    rw [hstate] at hafter ih
    -- the file of the first class is stored again
    obtain ⟨e₁, hstore', hrepeats'⟩ := hrepeats.store hstore (hafter.trans hleft)
    have hwrite : out.emitter.write ⟨e, s.written⟩ (config.target c) (pool.tree c) = .done _ _ :=
      write_eq_done hnew hseg htext rfl hstore'
    obtain ⟨e', hrest, hend⟩ := ih hleft hrepeats'
    refine ⟨e', .cons (by rw [hwrite]; rfl) ?_, hend⟩
    rw [hwrite]
    exact hrest

/-! ## Runs that succeed -/

/-- A run that succeeds has emitted all classes, and then the index. -/
theorem ClassPool.exists_emitsAll_of_ok {config : Config} {disk : Disk} {path : String}
    {report : Report} (h : (pool.generateInto config disk path).result = .ok report) :
    ∃ out o, openAt config.emit disk path = .ok out ∧
      EmitsAll pool config.generate out.emitter { disk } pool.project o ∧
      (out.finish o).result = .ok () := by
  cases hrun : pool.runInto config disk path with
  | error e =>
    simp only [generateInto, hrun, Generation.refused] at h
    cases h
  | ok both =>
    obtain ⟨out, run⟩ := both
    obtain ⟨hopen, -, -, o, hall, hfinish, -⟩ := generateInto_eq_ok hrun h
    exact ⟨out, o, hopen, hall, hfinish⟩

/-- **If all classes are emitted, and then the index**, the run succeeds: its report lists the
    classes, and its disk is the one that the index is written to. -/
theorem ClassPool.generateInto_of_emitsAll {config : Config} {disk : Disk} {path : String}
    (hopen : openAt config.emit disk path = .ok out)
    (hall : EmitsAll pool config.generate out.emitter { disk } pool.project o)
    (hfinish : (out.finish o).result = .ok ()) :
    (pool.generateInto config disk path).result =
        .ok { emitted := pool.project.map fun c => (c.package, config.generate.typeName c) } ∧
      (pool.generateInto config disk path).disk = (out.finish o).state.disk := by
  obtain ⟨front, hreport, hruns⟩ := exists_front_of_emitsAll hall
  -- the run is the front of emitted classes, and then its end
  have hrun : pool.generate config.generate out.emitter { disk } =
      front.andThen (runFinish out.emitter o) := by
    have hfront := hruns config.generate.failFast []
    rwa [List.append_nil, runClasses] at hfront
  have hend : (runFinish out.emitter o).report = {} := by
    have hnone : (out.emitter.finish o).error? = none := Emission.error?_eq_none.2 hfinish
    rw [report_runFinish, hnone]
  have hreport' : (pool.generate config.generate out.emitter { disk }).report =
      { emitted := pool.project.map fun c => (c.package, config.generate.typeName c) } := by
    rw [hrun, Run.andThen, hreport, hend]
    simp
  have hinto : pool.runInto config disk path =
      .ok (out, pool.generate config.generate out.emitter { disk }) := by
    simp only [runInto, bind_eq_ok, pure_eq_ok]
    exact ⟨out, hopen, rfl⟩
  simp only [generateInto, hinto, hreport', Report.toResult]
  refine ⟨rfl, ?_⟩
  rw [hrun]
  exact congrArg Output.disk (state_runFinish o)

/-! ## The second run -/

/-- **Generating again changes nothing.** If a run succeeds, then another one with the same pool,
    settings and directory, on the disk that the first one has left, succeeds with an equal report
    and leaves the very same disk. -/
theorem ClassPool.generateInto_again {pool : ClassPool} {config : Config} {disk : Disk}
    {path : String} {report : Report}
    (h : (pool.generateInto config disk path).result = .ok report) :
    let left := (pool.generateInto config disk path).disk
    (pool.generateInto config left path).result = .ok report ∧
      (pool.generateInto config left path).disk = left := by
  intro left
  obtain ⟨out, o, hopen, hall, hfinish⟩ := exists_emitsAll_of_ok h
  obtain ⟨hresult, hdisk⟩ := generateInto_of_emitsAll hopen hall hfinish
  obtain ⟨index, final, hindex, hstore, hstate⟩ := finish_result_eq_ok hfinish
  have hleft : left = final := by
    show (pool.generateInto config disk path).disk = final
    rw [hdisk, hstate]
  have hkeeps := hall.keeps.trans (keeps_store hstore)
  -- all classes are emitted again, and then the index
  obtain ⟨e, hall', hrepeats⟩ := hall.again (keeps_store hstore) (.start final disk)
  obtain ⟨e', hstore', hend⟩ := hrepeats.store hstore (.refl final)
  have hfinish' : out.finish ⟨e, o.written⟩ = .done ⟨e', o.written⟩ _ :=
    finish_eq_done hindex hstore'
  have hopen' : openAt config.emit final path = .ok out := by
    rw [openAt_congr hkeeps.cwd, hopen]
  obtain ⟨hresult', hdisk'⟩ := generateInto_of_emitsAll hopen' hall' (by rw [hfinish']; rfl)
  rw [hleft]
  refine ⟨?_, ?_⟩
  · rw [hresult', ← hresult, h]
  · rw [hdisk', hfinish', ← hend.finish]
    rfl

/-- **A file that is written twice**: an artifact and the index, which have the same file name. The
    second run writes the artifact over the index for a while. -/
theorem onlyDog_again :
    let left := (onlyDog.generateInto (withIndex "DogFields.rs") ⟨[], []⟩ "/out").disk
    (onlyDog.generateInto (withIndex "DogFields.rs") ⟨[], []⟩ "/out").result =
        .ok { emitted := [("", "DogFields")] } ∧
      (onlyDog.generateInto (withIndex "DogFields.rs") left "/out").result =
        .ok { emitted := [("", "DogFields")] } ∧
      (onlyDog.generateInto (withIndex "DogFields.rs") left "/out").disk = left := by
  intro left
  have hok := generateInto_onlyDog (fun _ _ => rfl : ∀ source index,
    (store (storedDog source) "/out" (outAt "DogFields.rs").indexPath index).1 = .ok ())
  exact ⟨hok, ClassPool.generateInto_again hok⟩

end QueryPaths
