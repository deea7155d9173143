import Mathlib.Data.List.Basic
import QueryPaths.Disk.Tree
import QueryPaths.Proofs.Except

/-! # Where paths lead

    A path can be followed only over what exists, but the place it leads to is
    settled by its text alone: `..` undoes the name before it.

    * **`Disk.destination`**: the place, read off the path text.
    * **`Disk.walk_eq_foldl`**, **`Disk.resolve_eq_destination`**: a path that can
      be followed leads there.
    * **`Disk.destination_join`**: joining a path goes on from the destination.
-/

namespace QueryPaths.Disk

/-! ## Steps of path texts -/

/-- The pieces between separators hold no separator, and nothing new. -/
theorem mem_of_mem_splitOn {sep c : Char} {cs piece : List Char} (h : piece ∈ cs.splitOn sep)
    (hc : c ∈ piece) : c ∈ cs ∧ c ≠ sep := by
  induction cs generalizing piece with
  | nil =>
    obtain rfl : piece = [] := by simpa using h
    cases hc
  | cons x xs ih =>
    rw [List.splitOn_cons_eq_if_modifyHead] at h
    split at h
    · rcases List.mem_cons.1 h with rfl | h
      · cases hc
      · exact ⟨List.mem_cons_of_mem _ (ih h hc).1, (ih h hc).2⟩
    · next hx =>
      -- the character joins the first piece of the rest
      obtain ⟨first, others, hsplit⟩ := List.exists_cons_of_ne_nil (List.splitOn_ne_nil sep xs)
      rw [hsplit] at h ih
      rcases List.mem_cons.1 h with rfl | h
      · rcases List.mem_cons.1 hc with rfl | hc
        · exact ⟨List.mem_cons_self, by simpa using hx⟩
        · have := ih List.mem_cons_self hc
          exact ⟨List.mem_cons_of_mem _ this.1, this.2⟩
      · have := ih (List.mem_cons_of_mem _ h) hc
        exact ⟨List.mem_cons_of_mem _ this.1, this.2⟩

/-- A character that is no separator stands in some piece. -/
theorem exists_mem_splitOn {sep c : Char} {cs : List Char} (h : c ∈ cs) (hne : c ≠ sep) :
    ∃ piece ∈ cs.splitOn sep, c ∈ piece := by
  induction cs with
  | nil => cases h
  | cons x xs ih =>
    rw [List.splitOn_cons_eq_if_modifyHead]
    obtain ⟨first, others, hsplit⟩ := List.exists_cons_of_ne_nil (List.splitOn_ne_nil sep xs)
    rw [hsplit] at ih ⊢
    split
    · next hx =>
      rcases List.mem_cons.1 h with rfl | h
      · exact absurd (by simpa using hx) hne
      · obtain ⟨piece, hpiece, hc⟩ := ih h
        exact ⟨piece, List.mem_cons_of_mem _ hpiece, hc⟩
    · -- the character joins the first piece of the rest
      rcases List.mem_cons.1 h with rfl | h
      · exact ⟨c :: first, List.mem_cons_self, List.mem_cons_self⟩
      · obtain ⟨piece, hpiece, hc⟩ := ih h
        rcases List.mem_cons.1 hpiece with rfl | hpiece
        · exact ⟨x :: piece, List.mem_cons_self, List.mem_cons_of_mem _ hc⟩
        · exact ⟨piece, List.mem_cons_of_mem _ hpiece, hc⟩

theorem steps_append_slash (a b : String) : steps (a ++ "/" ++ b) = steps a ++ steps b := by
  have hlist : (a ++ "/" ++ b).toList = a.toList ++ '/' :: b.toList := by simp
  rw [steps, Path.pieces, hlist, List.splitOn_append_cons_self]
  simp [steps, Path.pieces]

/-- Nothing is behind a slash at the end. -/
theorem steps_of_endsWithSlash {base : String} (h : Path.endsWithSlash base = true)
    (child : String) : steps (base ++ child) = steps base ++ steps child := by
  -- behind the slash there is an empty piece, which is no step
  obtain ⟨front, hfront⟩ : ∃ front : String, base = front ++ "/" := by
    have hlast : base.toList.getLast? = some '/' := by simpa [Path.endsWithSlash] using h
    obtain ⟨cs, hcs⟩ := List.getLast?_eq_some_iff.1 hlast
    exact ⟨String.ofList cs, String.toList_injective (by simp [hcs])⟩
  rw [hfront, steps_append_slash]
  have hempty : steps (front ++ "/") = steps front := by
    have := steps_append_slash front ""
    simpa [steps, Path.pieces] using this
  rw [hempty]

theorem steps_join {child : String} (h : Path.isAbsolute child = false) (base : String) :
    steps (Path.join base child) = steps base ++ steps child := by
  rw [Path.join, if_neg (by simp [h])]
  split
  · next hbase =>
    rcases hbase with rfl | hslash
    · simp [steps, Path.pieces]
    · exact steps_of_endsWithSlash hslash child
  · exact steps_append_slash base child

theorem isAbsolute_join {child : String} (h : Path.isAbsolute child = false) (base : String) :
    Path.isAbsolute (Path.join base child) = Path.isAbsolute base := by
  rw [Path.join, if_neg (by simp [h])]
  by_cases hbase : base = ""
  · subst hbase
    simpa [Path.isAbsolute] using h
  · have hne : base.toList ≠ [] := by simpa using hbase
    obtain ⟨c, cs, hcs⟩ := List.exists_cons_of_ne_nil hne
    split <;> simp [Path.isAbsolute, hcs]

theorem steps_of_no_slash {name : String} (hne : name ≠ "") (h : '/' ∉ name.toList) :
    steps name = [name] := by
  have hlist : name.toList ≠ [] := by simpa using hne
  simp [steps, Path.pieces, List.splitOn_eq_singleton h, hlist]

/-! ## Destinations -/

/-- The place that one step leads to. -/
def advance (here : Place) (step : String) : Place :=
  if step = "." then here else if step = ".." then here.dropLast else here ++ [step]

/-- **The place that a path leads to**, whatever is on the disk. -/
def destination (d : Disk) (path : String) : Place := (steps path).foldl advance (d.start path)

theorem advance_of_isStepName {step : String} (h : isStepName step = true) (here : Place) :
    advance here step = here ++ [step] := by
  simp only [isStepName, Bool.and_eq_true, decide_eq_true_eq] at h
  rw [advance, if_neg h.1, if_neg h.2]

theorem destination_join {child : String} (h : Path.isAbsolute child = false) (d : Disk)
    (base : String) :
    d.destination (Path.join base child) = (steps child).foldl advance (d.destination base) := by
  have hstart : d.start (Path.join base child) = d.start base := by
    rw [start, isAbsolute_join h, start]
  show (steps (Path.join base child)).foldl advance (d.start (Path.join base child)) =
    (steps child).foldl advance ((steps base).foldl advance (d.start base))
  rw [hstart, steps_join h, List.foldl_append]

theorem destination_congr {d d' : Disk} (h : d'.cwd = d.cwd) (path : String) :
    d'.destination path = d.destination path := by
  simp [destination, start, h]

/-! ## Following paths -/

/-- Can one step be taken from a place? The place must be a directory, and a name
    must be that of something in it. -/
def CanStep (d : Disk) (here : Place) (step : String) : Prop :=
  d.enter here = .ok () ∧ (isStepName step = true →
    step.utf8ByteSize ≤ maxNameBytes ∧ (d.node? (here ++ [step])).isSome = true)

/-- **A walk takes its steps one by one.** -/
theorem walk_cons_eq_ok_iff {d : Disk} {here place : Place} {step : String}
    {rest : List String} :
    d.walk here (step :: rest) = .ok place ↔
      d.CanStep here step ∧ d.walk (advance here step) rest = .ok place := by
  rw [walk, CanStep]
  -- the tests of a step in the order they are made
  cases d.enter here with
  | error e => simp
  | ok _ =>
    by_cases hdot : step = "."
    · simp [hdot, advance, isStepName]
    · by_cases hup : step = ".."
      · simp [hup, advance, isStepName]
      · have hname : isStepName step = true := by simp [isStepName, hdot, hup]
        by_cases hlen : step.utf8ByteSize > maxNameBytes
        · simp [hdot, hup, hname, hlen, Nat.not_le.2 hlen]
        · by_cases hnode : (d.node? (here ++ [step])).isSome = true
          · simp [hdot, hup, hname, hlen, hnode, Nat.le_of_not_lt hlen, advance]
          · simp [hdot, hup, hname, hlen, hnode]

theorem walk_eq_foldl {d : Disk} {here place : Place} {path : List String}
    (h : d.walk here path = .ok place) : place = path.foldl advance here := by
  induction path generalizing here with
  | nil => exact (Except.ok.inj h).symm
  | cons step rest ih => exact ih (walk_cons_eq_ok_iff.1 h).2

theorem walk_append_eq_ok_iff {d : Disk} {here place : Place} {front back : List String} :
    d.walk here (front ++ back) = .ok place ↔
      ∃ mid, d.walk here front = .ok mid ∧ d.walk mid back = .ok place := by
  induction front generalizing here with
  | nil => simp [walk]
  | cons step rest ih =>
    simp only [List.cons_append, walk_cons_eq_ok_iff, ih]
    constructor
    · intro h
      obtain ⟨hstep, mid, hfront, hback⟩ := h
      exact ⟨mid, ⟨hstep, hfront⟩, hback⟩
    · intro h
      obtain ⟨mid, ⟨hstep, hfront⟩, hback⟩ := h
      exact ⟨hstep, mid, hfront, hback⟩

/-- What it takes to follow a path. -/
theorem resolve_eq_ok_iff {d : Disk} {path : String} {place : Place} :
    d.resolve path = .ok place ↔
      checkText path = .ok () ∧ d.walk (d.start path) (steps path) = .ok place ∧
        (Path.endsWithSlash path = true → d.enter place = .ok ()) := by
  simp only [resolve, bind_eq_ok]
  constructor
  · -- the walk is the same in both cases; a slash at the end asks for a directory there
    rintro ⟨⟨⟩, hcheck, found, hwalk, h⟩
    split at h
    · next hslash =>
      simp only [bind_eq_ok, pure_eq_ok] at h
      obtain ⟨⟨⟩, henter, rfl⟩ := h
      exact ⟨hcheck, hwalk, fun _ => henter⟩
    · next hslash =>
      obtain rfl := pure_eq_ok.1 h
      exact ⟨hcheck, hwalk, fun hends => absurd hends hslash⟩
  · intro h
    obtain ⟨hcheck, hwalk, henter⟩ := h
    refine ⟨(), hcheck, place, hwalk, ?_⟩
    split
    · next hslash => simp [henter hslash]
    · rfl

/-- **A path that can be followed leads to its destination.** -/
theorem resolve_eq_destination {d : Disk} {path : String} {place : Place}
    (h : d.resolve path = .ok place) : place = d.destination path :=
  walk_eq_foldl (resolve_eq_ok_iff.1 h).2.1

theorem pathExists_iff {d : Disk} {path : String} :
    d.pathExists path = true ↔ ∃ place, d.resolve path = .ok place := by
  unfold pathExists
  simp only [Option.isSome_iff_exists, toOption_eq_some]

/-- What it takes to find the directory that holds the last step of a path. -/
theorem locate_eq_ok {d : Disk} {path : String} {dir : Place} {last : String}
    (h : d.locate path = .ok (dir, some last)) :
    checkText path = .ok () ∧ d.enter dir = .ok () ∧
      ∃ front, steps path = front ++ [last] ∧ d.walk (d.start path) front = .ok dir := by
  simp only [locate, bind_eq_ok] at h
  obtain ⟨⟨⟩, hcheck, h⟩ := h
  split at h
  · simp at h
  · next step hstep =>
    obtain ⟨front, hfront⟩ := List.getLast?_eq_some_iff.1 hstep
    simp only [hfront, List.dropLast_concat, bind_eq_ok, pure_eq_ok, Prod.mk.injEq,
      Option.some.injEq] at h
    obtain ⟨found, hwalk, ⟨⟩, henter, rfl, rfl⟩ := h
    exact ⟨hcheck, henter, front, hfront, hwalk⟩

/-- The directory that holds the last name of a path, and the name, are its destination. -/
theorem destination_of_locate {d : Disk} {path : String} {dir : Place} {last : String}
    (h : d.locate path = .ok (dir, some last)) (hname : isStepName last = true) :
    d.destination path = dir ++ [last] := by
  obtain ⟨-, -, front, hsteps, hwalk⟩ := locate_eq_ok h
  show (steps path).foldl advance (d.start path) = dir ++ [last]
  rw [hsteps, List.foldl_append, ← walk_eq_foldl hwalk]
  exact advance_of_isStepName hname dir

end QueryPaths.Disk
