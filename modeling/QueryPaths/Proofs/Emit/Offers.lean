import QueryPaths.Proofs.Emit.Session

/-! # What an emitter keeps

    Both emitters go by targets in the same way. What a step offers, an artifact or the reason
    why there is none, does not depend on what was there before. An artifact is kept if its
    target is new, and a target that is taken is refused, whatever is offered for it.

    * **`keepFirst`**: of entries offered one after the other, the first of each key.
    * **`answerTo`**: the answer to a target that may be taken.
    * **`Memory.result_write`**, **`Memory.artifacts_play`**: what memory answers and keeps.
    * **`OutputDirectory.result_write`**, **`OutputDirectory.written_play_of_diskAllows`**: the
      same for a directory, as long as the disk refuses nothing.
-/

namespace QueryPaths

/-! ## The first of each key -/

section KeepFirst

variable {α κ : Type} [DecidableEq κ] {key : α → κ} {kept offers : List α} {a : α}

/-- **What is kept of entries that are offered one after the other**: each whose key is not
    there yet. -/
def keepFirst (key : α → κ) (kept : List α) : List α → List α
  | [] => kept
  | a :: rest => keepFirst key (if key a ∈ kept.map key then kept else kept ++ [a]) rest

@[simp] theorem keepFirst_nil : keepFirst key kept [] = kept := rfl

theorem keepFirst_cons_of_mem (h : key a ∈ kept.map key) :
    keepFirst key kept (a :: offers) = keepFirst key kept offers := by
  rw [keepFirst, if_pos h]

theorem keepFirst_cons_of_notMem (h : key a ∉ kept.map key) :
    keepFirst key kept (a :: offers) = keepFirst key (kept ++ [a]) offers := by
  rw [keepFirst, if_neg h]

theorem keepFirst_singleton :
    keepFirst key kept [a] = if key a ∈ kept.map key then kept else kept ++ [a] := rfl

theorem keepFirst_append {others : List α} :
    keepFirst key kept (offers ++ others) = keepFirst key (keepFirst key kept offers) others := by
  induction offers generalizing kept with
  | nil => rfl
  | cons a rest ih => exact ih

/-- **What is found under a key** is what was there before, and else the first entry that was
    offered for it. -/
theorem find?_keepFirst (k : κ) :
    (keepFirst key kept offers).find? (key · = k) =
      (kept.find? (key · = k)).or (offers.find? (key · = k)) := by
  induction offers generalizing kept with
  | nil => rw [keepFirst_nil, List.find?_nil, Option.or_none]
  | cons a rest ih =>
    by_cases htaken : key a ∈ kept.map key
    · rw [keepFirst_cons_of_mem htaken, ih]
      by_cases hk : key a = k
      · -- the entry is not kept, since something is found under its key already
        obtain ⟨b, hb, hkey⟩ := List.mem_map.1 htaken
        have hfound : (kept.find? (key · = k)).isSome = true :=
          List.find?_isSome.2 ⟨b, hb, by simp [hkey, hk]⟩
        rw [Option.or_of_isSome hfound, Option.or_of_isSome hfound]
      · rw [List.find?_cons_of_neg (by simpa using hk)]
    · rw [keepFirst_cons_of_notMem htaken, ih, List.find?_append, Option.or_assoc]
      by_cases hk : key a = k <;> simp [hk]

/-- **The keys that are there** are those from before and those offered. -/
theorem mem_map_keepFirst {k : κ} :
    k ∈ (keepFirst key kept offers).map key ↔ k ∈ kept.map key ∨ k ∈ offers.map key := by
  have hsome : ∀ l : List α, k ∈ l.map key ↔ (l.find? (key · = k)).isSome = true := by
    intro l
    rw [List.find?_isSome, List.mem_map]
    simp only [decide_eq_true_eq]
  rw [hsome, find?_keepFirst, Option.isSome_or, Bool.or_eq_true, ← hsome, ← hsome]

/-- The keys that are kept depend on the keys that are offered. -/
theorem map_key_keepFirst :
    (keepFirst key kept offers).map key = keepFirst id (kept.map key) (offers.map key) := by
  induction offers generalizing kept with
  | nil => rfl
  | cons a rest ih =>
    rw [List.map_cons]
    by_cases htaken : key a ∈ kept.map key
    · rw [keepFirst_cons_of_mem htaken, ih, keepFirst_cons_of_mem (by simpa using htaken)]
    · rw [keepFirst_cons_of_notMem htaken, ih, keepFirst_cons_of_notMem (by simpa using htaken),
        List.map_append, List.map_singleton]

/-- **No key is kept twice.** -/
theorem nodup_keepFirst (h : (kept.map key).Nodup) :
    ((keepFirst key kept offers).map key).Nodup := by
  induction offers generalizing kept with
  | nil => exact h
  | cons a rest ih =>
    by_cases htaken : key a ∈ kept.map key
    · rw [keepFirst_cons_of_mem htaken]
      exact ih h
    · rw [keepFirst_cons_of_notMem htaken]
      apply ih
      rw [List.map_append, List.map_singleton]
      exact List.nodup_append.2 ⟨h, List.pairwise_singleton _ _, by
        rintro k hk _ hk' rfl
        exact htaken (List.mem_singleton.1 hk' ▸ hk)⟩

/-- **Entries of different new keys** are all kept, in order. -/
theorem keepFirst_of_nodup (h : ((kept ++ offers).map key).Nodup) :
    keepFirst key kept offers = kept ++ offers := by
  induction offers generalizing kept with
  | nil => rw [keepFirst_nil, List.append_nil]
  | cons a rest ih =>
    have hnew : key a ∉ kept.map key := by
      intro htaken
      rw [List.map_append, List.nodup_append] at h
      exact h.2.2 _ htaken _ (List.mem_map_of_mem List.mem_cons_self) rfl
    rw [List.append_cons] at h
    rw [keepFirst_cons_of_notMem hnew, ih h, List.append_assoc]
    rfl

/-- **What is made for different names** is all kept, if the names are its keys. -/
theorem keepFirst_filterMap {β : Type} {make : β → Option α} {name : β → κ} {entries : List β}
    (hkey : ∀ b a, make b = some a → key a = name b) (hnames : (entries.map name).Nodup) :
    keepFirst key [] (entries.filterMap make) = entries.filterMap make := by
  apply keepFirst_of_nodup
  rw [List.nil_append, List.Nodup, List.pairwise_map]
  refine (List.pairwise_map.1 hnames).filterMap make ?_
  intro b b' hne a ha a' ha'
  rwa [hkey b a ha, hkey b' a' ha']

end KeepFirst

/-! ## Targets -/

/-- What targets are told apart by: the package and the type name. -/
def Target.key (t : Target) : String × String := (t.package, t.typeName)

/-- The target that an artifact in memory was emitted for. -/
def Artifact.key (a : Artifact) : String × String := (a.package, a.typeName)

/-- **The answer to a target**: if it is taken it is refused, and else it is what the `offer`
    comes to. -/
def answerTo {α : Type} (taken : Prop) [Decidable taken] (target : Target)
    (offer : Except EmitError α) : Except EmitError Unit :=
  if taken then .error (.duplicateArtifact target.package target.typeName)
  else offer.map fun _ => ()

/-- **What a step offers**: the entry that is made for its target, if it has one and that can be
    made. -/
def Step.offer? {α : Type} (make : Target → List PathNode → Except EmitError α) : Step → Option α
  | .write target tree => (make target tree).toOption
  | .finish => none

/-! ## Memory -/

/-- **The artifact of a path tree** in memory. -/
def Renderer.artifact (r : Renderer) (target : Target) (tree : List PathNode) :
    Except EmitError Artifact := do
  let source ← r.renderText target tree
  return ⟨target.package, target.typeName, source⟩

namespace Memory

variable {r : Renderer} {m : Memory} {target : Target} {tree : List PathNode}

/-- An artifact is found by its target. -/
theorem get?_eq_find? (m : Memory) (package typeName : String) :
    m.get? package typeName = m.artifacts.find? (Artifact.key · = (package, typeName)) := by
  rw [get?]
  congr 1
  funext a
  rw [Bool.eq_iff_iff]
  simp [Artifact.key]

theorem isSome_get?_iff {package typeName : String} :
    (m.get? package typeName).isSome = true ↔
      (package, typeName) ∈ m.artifacts.map Artifact.key := by
  rw [get?_eq_find?, List.find?_isSome, List.mem_map]
  simp only [decide_eq_true_eq]

/-- **What memory answers** to a target, taken or not. -/
theorem result_write (r : Renderer) (m : Memory) (target : Target) (tree : List PathNode) :
    (write r m target tree).result =
      answerTo (target.key ∈ m.artifacts.map Artifact.key) target (r.artifact target tree) := by
  rw [write, answerTo, Renderer.artifact]
  -- a taken target is refused before there is a record
  by_cases htaken : target.key ∈ m.artifacts.map Artifact.key
  · rw [if_pos htaken, if_pos (isSome_get?_iff.2 htaken)]
    rfl
  · rw [if_neg htaken, if_neg (mt isSome_get?_iff.1 htaken)]
    cases r.renderText target tree <;> rfl

/-- **What memory keeps** of a target, taken or not. -/
theorem artifacts_write (r : Renderer) (m : Memory) (target : Target) (tree : List PathNode) :
    (write r m target tree).state.artifacts =
      keepFirst Artifact.key m.artifacts (r.artifact target tree).toOption.toList := by
  rw [write, Renderer.artifact]
  cases r.renderText target tree with
  | error e => split <;> rfl
  | ok source =>
    show _ = keepFirst Artifact.key m.artifacts [⟨target.package, target.typeName, source⟩]
    rw [keepFirst_singleton]
    by_cases htaken : target.key ∈ m.artifacts.map Artifact.key
    · rw [if_pos (isSome_get?_iff.2 htaken)]
      exact (if_pos htaken).symm
    · rw [if_neg (mt isSome_get?_iff.1 htaken)]
      exact (if_neg htaken).symm

/-- **What memory keeps of a script**: the first artifact of each target that is offered. -/
theorem artifacts_play (r : Renderer) (m : Memory) (script : List Step) :
    ((emitter r).play m script).artifacts =
      keepFirst Artifact.key m.artifacts (script.filterMap (Step.offer? r.artifact)) := by
  induction script generalizing m with
  | nil => rfl
  | cons a rest ih =>
    rw [Emitter.play_cons, ih]
    cases a with
    | finish => rfl
    | write target tree =>
      have hstep : ((emitter r).step m (.write target tree)).state.artifacts =
          keepFirst Artifact.key m.artifacts (r.artifact target tree).toOption.toList :=
        artifacts_write r m target tree
      rw [hstep, ← keepFirst_append, List.filterMap_cons, Step.offer?]
      cases (r.artifact target tree).toOption <;> rfl

end Memory

/-! ## Directories -/

/-- **The record of a path tree** in a directory, provided that the tree can be rendered. -/
def OutputDirectory.entry (out : OutputDirectory) (target : Target) (tree : List PathNode) :
    Except EmitError Written := do
  let segments ← packageSegments target.package
  let _ ← out.renderer.renderText target tree
  return ⟨target.package, target.typeName, out.artifactPath segments target.typeName⟩

/-- **The disk refuses none of these steps.** -/
def DiskAllows {σ : Type} (emissions : List (Emission σ)) : Prop :=
  ∀ e ∈ emissions, ∀ path fault, e.result ≠ .error (.io path fault)

namespace OutputDirectory

variable {out : OutputDirectory} {o : Output} {target : Target} {tree : List PathNode}

theorem any_target_iff : (o.written.any fun w =>
      w.package == target.package && w.typeName == target.typeName) = true ↔
    target.key ∈ o.written.map Written.key := by
  simp [List.any_eq_true, List.mem_map, Target.key, Written.key]

theorem write_of_taken (h : target.key ∈ o.written.map Written.key) :
    out.write o target tree =
      .refused o (.duplicateArtifact target.package target.typeName) := by
  rw [write, if_pos (any_target_iff.2 h)]

theorem write_of_entry_error (h : target.key ∉ o.written.map Written.key) {e : EmitError}
    (herror : out.entry target tree = .error e) : out.write o target tree = .refused o e := by
  rw [write, if_neg (mt any_target_iff.1 h)]
  rw [entry] at herror
  cases hpackage : packageSegments target.package with
  | error d =>
    rw [hpackage] at herror
    rw [Except.error.inj herror]
  | ok segments =>
    cases hrender : out.renderer.renderText target tree with
    | error d =>
      rw [hpackage, hrender] at herror
      rw [Except.error.inj herror]
    | ok text =>
      rw [hpackage, hrender] at herror
      cases herror

/-- A new target is recorded, unless its file cannot be stored. -/
theorem write_of_entry_ok (h : target.key ∉ o.written.map Written.key) {w : Written}
    (hentry : out.entry target tree = .ok w) :
    ((out.write o target tree).result = .ok () ∧
        (out.write o target tree).state.written = o.written ++ [w]) ∨
      ∃ path fault, (out.write o target tree).result = .error (.io path fault) := by
  rw [write, if_neg (mt any_target_iff.1 h)]
  simp only [entry, bind_eq_ok, pure_eq_ok] at hentry
  obtain ⟨segments, hpackage, text, hrender, rfl⟩ := hentry
  simp only [hpackage, hrender]
  split
  · next hfails =>
    obtain ⟨path, fault, rfl⟩ := exists_io_of_store_error hfails
    exact .inr ⟨path, fault, rfl⟩
  · exact .inl ⟨rfl, rfl⟩

theorem key_of_entry {w : Written} (h : out.entry target tree = .ok w) : w.key = target.key := by
  simp only [entry, bind_eq_ok, pure_eq_ok] at h
  obtain ⟨segments, -, text, -, rfl⟩ := h
  rfl

/-- **What a directory answers** to a target, taken or not, and what it records, as long as the
    disk does not refuse it. -/
theorem result_write
    (hdisk : ∀ path fault, (out.write o target tree).result ≠ .error (.io path fault)) :
    (out.write o target tree).result =
        answerTo (target.key ∈ o.written.map Written.key) target (out.entry target tree) ∧
      (out.write o target tree).state.written =
        keepFirst Written.key o.written (out.entry target tree).toOption.toList := by
  by_cases htaken : target.key ∈ o.written.map Written.key
  · rw [write_of_taken htaken, answerTo, if_pos htaken]
    refine ⟨rfl, ?_⟩
    cases hentry : out.entry target tree with
    | error e => rfl
    | ok w =>
      show _ = keepFirst Written.key o.written [w]
      rw [keepFirst_singleton, key_of_entry hentry, if_pos htaken]
      rfl
  · rw [answerTo, if_neg htaken]
    cases hentry : out.entry target tree with
    | error e =>
      rw [write_of_entry_error htaken hentry]
      exact ⟨rfl, rfl⟩
    | ok w =>
      rcases write_of_entry_ok htaken hentry with ⟨hresult, hwritten⟩ | ⟨path, fault, hio⟩
      · rw [hresult, hwritten]
        refine ⟨rfl, ?_⟩
        show _ = keepFirst Written.key o.written [w]
        rw [keepFirst_singleton, key_of_entry hentry, if_neg htaken]
      · exact absurd hio (hdisk path fault)

/-- **What a directory records of a script** that the disk allows: the first record of each
    target that is offered. -/
theorem written_play_of_diskAllows {script : List Step}
    (hdisk : DiskAllows (out.emitter.emissions o script)) :
    (out.play o script).written =
      keepFirst Written.key o.written (script.filterMap (Step.offer? out.entry)) := by
  induction script generalizing o with
  | nil => rfl
  | cons a rest ih =>
    obtain ⟨hfirst, hrest⟩ := List.forall_mem_cons.1 hdisk
    rw [step_emitter] at hfirst hrest
    rw [play_cons, ih hrest]
    cases a with
    | finish => exact congrArg (keepFirst Written.key · _) (written_finish out o)
    | write target tree =>
      have hstep : (out.step o (.write target tree)).state.written =
          keepFirst Written.key o.written (out.entry target tree).toOption.toList :=
        (result_write hfirst).2
      rw [hstep, ← keepFirst_append, List.filterMap_cons, Step.offer?]
      cases (out.entry target tree).toOption <;> rfl

end OutputDirectory

end QueryPaths
