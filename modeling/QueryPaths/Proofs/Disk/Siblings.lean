import Mathlib.Data.List.Induction
import QueryPaths.Proofs.Disk.Creation

/-! # Files beside a path

    The directory that contains a path is found on its text alone: the last name goes, with what
    is behind it and the empty pieces and dots in front of it. So whoever follows the path comes
    through that directory, and finds there what lies beside the path.

    * **`heads_eq`**: the parts of some pieces that end in a name.
    * **`steps_ofStem`**: the steps of a path that is put together again.
    * **`steps_parent`**: a path goes on from its containing directory.
    * **`resolve_beside_iff`**: a file in the directory of a path.
    * **`resolve_name_iff`**: a file in the working directory.
-/

namespace QueryPaths.Disk

/-! ## Pieces up to a name -/

/-- All pieces are the longest part, if the last of them is a name. -/
theorem heads_concat (front : List (List Char)) (last : List Char) :
    Path.heads (front ++ [last]) =
      if Path.isName last = true then (front ++ [last]) :: Path.heads front
      else Path.heads front := by
  have hfront : ∀ k ∈ (List.range (front.length + 1)).reverse,
      (front ++ [last]).take k = front.take k := by
    intro k hk
    have hle : k ≤ front.length := by
      have := List.mem_range.1 (List.mem_reverse.1 hk)
      omega
    exact List.take_append_of_le_length hle
  have hall : (front ++ [last]).take (front.length + 1) = front ++ [last] := by
    rw [List.take_of_length_le]
    simp
  -- the longest part is all of them; the others are those of the front
  unfold Path.heads
  rw [List.length_append, List.length_singleton, List.range_succ, List.reverse_append,
    List.map_append, List.map_congr_left hfront]
  simp only [List.reverse_singleton, List.map_cons, List.map_nil, List.singleton_append, hall,
    List.filter_cons, List.getLast?_concat, Option.all_some]

/-- **The parts of some pieces that end in a name**, the longest first: either there is no name, or
    they are the pieces up to the last name, and the parts of what is in front of it. -/
theorem heads_eq (ps : List (List Char)) :
    Path.heads ps = [[]] ∨
      ∃ front name behind, ps = front ++ name :: behind ∧ Path.isName name = true ∧
        Path.heads ps = (front ++ [name]) :: Path.heads front := by
  -- from the last piece to the first
  induction ps using List.reverseRecOn with
  | nil => exact .inl rfl
  | append_singleton init last ih =>
    rw [heads_concat]
    by_cases hname : Path.isName last = true
    · rw [if_pos hname]
      exact .inr ⟨init, last, [], rfl, hname, rfl⟩
    · rw [if_neg hname]
      rcases ih with hnone | ⟨front, name, behind, hinit, hisName, hheads⟩
      · exact .inl hnone
      · exact .inr ⟨front, name, behind ++ [last], by rw [hinit]; simp, hisName, hheads⟩

/-- The longest part but one lacks a name that follows it. -/
theorem exists_behind_of_heads {ps second : List (List Char)} {shorter : List (List (List Char))}
    (h : (Path.heads ps).drop 1 = second :: shorter) :
    ∃ between name behind, ps = second ++ (between ++ name :: behind) ∧
      Path.isName name = true := by
  rcases heads_eq ps with hnone | ⟨front, name, behind, hps, hname, hheads⟩
  · rw [hnone] at h
    cases h
  · rw [hheads, List.drop_one, List.tail_cons] at h
    rcases heads_eq front with hnone | ⟨front', name', between, hfront, -, hheads'⟩
    · obtain ⟨rfl, -⟩ := List.cons.inj (hnone.symm.trans h)
      exact ⟨front, name, behind, hps, hname⟩
    · obtain ⟨rfl, -⟩ := List.cons.inj (hheads'.symm.trans h)
      exact ⟨between, name, behind, by rw [hps, hfront]; simp, hname⟩

/-! ## Pieces that are put together again -/

theorem steps_intercalate {qs : List (List Char)} (h : ∀ piece ∈ qs, '/' ∉ piece) :
    steps (String.ofList (['/'].intercalate qs)) = (qs.filter (· ≠ [])).map String.ofList := by
  unfold steps Path.pieces
  rw [String.toList_ofList]
  by_cases hnil : qs = []
  · subst hnil
    rfl
  · rw [List.splitOn_intercalate '/' h hnil]

/-- A dot and pieces behind it, the first of which is empty. -/
theorem steps_dot {qs : List (List Char)} (h : ∀ piece ∈ qs, '/' ∉ piece)
    (hfirst : qs = [] ∨ ∃ more, qs = [] :: more) :
    Path.isAbsolute (Path.ofStem ['.'] qs) = false ∧
      steps (Path.ofStem ['.'] qs) = "." :: (qs.filter (· ≠ [])).map String.ofList := by
  -- the dot takes the place of the empty first piece
  have hlist : Path.ofStem ['.'] qs = String.ofList (['/'].intercalate (['.'] :: qs.tail)) := by
    unfold Path.ofStem
    rcases hfirst with rfl | ⟨more, rfl⟩
    · rfl
    · cases more <;> rfl
  have htail : ∀ piece ∈ ['.'] :: qs.tail, '/' ∉ piece := by
    intro piece hpiece
    rcases List.mem_cons.1 hpiece with rfl | hmem
    · simp
    · exact h piece (List.mem_of_mem_tail hmem)
  refine ⟨by simp [Path.isAbsolute, Path.ofStem], ?_⟩
  rw [hlist, steps_intercalate htail]
  rcases hfirst with rfl | ⟨more, rfl⟩
  · rfl
  · simp

/-- **What precedes the pieces of a path**: the root, a dot, or nothing. -/
theorem stem_cases (path : String) :
    (∃ rest, path.toList = '/' :: rest ∧ Path.stem path = ['/']) ∨
    (∃ rest, path.toList = '.' :: rest ∧ (rest = [] ∨ ∃ r, rest = '/' :: r) ∧
      Path.stem path = ['.']) ∨
    (Path.isAbsolute path = false ∧ Path.stem path = []) := by
  unfold Path.stem
  split
  · next rest hpath => exact .inl ⟨rest, hpath, rfl⟩
  · next hpath => exact .inr (.inl ⟨[], hpath, .inl rfl, rfl⟩)
  · next rest hpath => exact .inr (.inl ⟨'/' :: rest, hpath, .inr ⟨rest, rfl⟩, rfl⟩)
  · next hroot _ _ =>
    refine .inr (.inr ⟨?_, rfl⟩)
    unfold Path.isAbsolute
    cases hpath : path.toList with
    | nil => rfl
    | cons c cs =>
      have hc : c ≠ '/' := fun heq => hroot cs (by rw [hpath, heq])
      simpa using hc

/-- The first pieces of a path that does not start at the root do not start there either. -/
theorem isAbsolute_intercalate {qs behind : List (List Char)}
    (h : Path.isAbsolute (String.ofList (['/'].intercalate (qs ++ behind))) = false) :
    Path.isAbsolute (String.ofList (['/'].intercalate qs)) = false := by
  unfold Path.isAbsolute at h ⊢
  rw [String.toList_ofList] at h ⊢
  match qs with
  | [] => rfl
  | [[]] => rfl
  | [] :: _ :: _ => simp at h
  | [c :: cs] =>
    cases behind with
    | nil => simpa using h
    | cons b bs => simpa using h
  | (c :: cs) :: q :: rest => simpa using h

/-- **A path that is cut off behind some pieces** starts where it did, and the path goes on from
    there with the pieces that were cut off. -/
theorem steps_ofStem {path : String} {qs behind : List (List Char)}
    (h : (path.toList.drop (Path.stem path).length).splitOn '/' = qs ++ behind) :
    Path.isAbsolute (Path.ofStem (Path.stem path) qs) = Path.isAbsolute path ∧
      steps path =
        steps (Path.ofStem (Path.stem path) qs) ++ (behind.filter (· ≠ [])).map String.ofList := by
  have hpieces : ∀ piece ∈ qs ++ behind, '/' ∉ piece := by
    intro piece hpiece hslash
    rw [← h] at hpiece
    exact (mem_of_mem_splitOn hpiece hslash).2 rfl
  have hqs : ∀ piece ∈ qs, '/' ∉ piece := fun piece hmem =>
    hpieces piece (List.mem_append_left _ hmem)
  -- what is behind the stem are the pieces with slashes between them
  have hrest : path.toList.drop (Path.stem path).length = ['/'].intercalate (qs ++ behind) := by
    rw [← h, List.intercalate_splitOn]
  rcases stem_cases path with ⟨rest, hpath, hstem⟩ | ⟨rest, hpath, hshape, hstem⟩ | ⟨habs, hstem⟩
  · -- both start at the root
    rw [hstem] at hrest ⊢
    obtain ⟨habs, hsteps⟩ := ofStem_root qs hqs
    obtain ⟨habs', hsteps'⟩ := ofStem_root (qs ++ behind) hpieces
    have hwhole : Path.ofStem ['/'] (qs ++ behind) = path := by
      apply String.toList_injective
      rw [Path.ofStem, String.toList_ofList, ← hrest, hpath]
      rfl
    rw [hwhole] at habs' hsteps'
    refine ⟨habs.trans habs'.symm, ?_⟩
    rw [hsteps, hsteps', List.filter_append, List.map_append]
  · -- the dot is a step in front
    rw [hstem, hpath] at hrest
    rw [hpath, hstem] at h
    -- behind the dot there is a slash or nothing, so the first piece is empty
    have hdot : qs ++ behind = [] :: (qs ++ behind).tail := by
      rw [← h]
      rcases hshape with rfl | ⟨r, rfl⟩
      · rfl
      · show ('/' :: r).splitOn '/' = [] :: (('/' :: r).splitOn '/').tail
        rw [List.splitOn_cons_eq_if_modifyHead, if_pos (by simp)]
        rfl
    have hfirst : qs = [] ∨ ∃ more, qs = [] :: more := by
      cases qs with
      | nil => exact .inl rfl
      | cons q more => exact .inr ⟨more, by rw [(List.cons.inj hdot).1]⟩
    have hwhole : Path.ofStem ['.'] (qs ++ behind) = path := by
      apply String.toList_injective
      rw [Path.ofStem, String.toList_ofList, ← hrest, hpath]
      rfl
    obtain ⟨habs, hsteps⟩ := steps_dot hqs hfirst
    obtain ⟨habs', hsteps'⟩ := steps_dot hpieces (.inr ⟨_, hdot⟩)
    rw [hwhole] at habs' hsteps'
    rw [hstem]
    refine ⟨habs.trans habs'.symm, ?_⟩
    rw [hsteps, hsteps', List.filter_append, List.map_append, List.cons_append]
  · rw [hstem] at hrest ⊢
    have hwhole : String.ofList (['/'].intercalate (qs ++ behind)) = path := by
      rw [← hrest]
      exact String.ofList_toList
    rw [← hwhole] at habs ⊢
    refine ⟨(isAbsolute_intercalate habs).trans habs.symm, ?_⟩
    unfold Path.ofStem
    rw [List.nil_append, steps_intercalate hqs, steps_intercalate hpieces, List.filter_append,
      List.map_append]

/-- **A path goes on from its containing directory.** -/
theorem steps_parent {path dir : String} (h : Path.parent? path = some dir) :
    Path.isAbsolute dir = Path.isAbsolute path ∧
      ∃ step rest, steps path = steps dir ++ step :: rest := by
  unfold Path.parent? at h
  split at h
  · next up _ habove =>
    obtain rfl : up = dir := Option.some.inj h
    unfold Path.above at habove
    rw [← List.map_drop] at habove
    obtain ⟨second, shorter, hheads, rfl, -⟩ := List.map_eq_cons_iff.1 habove
    obtain ⟨between, name, behind, hps, hname⟩ := exists_behind_of_heads hheads
    obtain ⟨habs, hsteps⟩ := steps_ofStem hps
    refine ⟨habs, ?_⟩
    -- the name is a step behind the directory
    have hmem : name ∈ (between ++ name :: behind).filter (· ≠ []) := by
      have hne : name ≠ [] := by
        intro hnil
        rw [hnil] at hname
        cases hname
      simp [hne]
    have hbehind : ((between ++ name :: behind).filter (· ≠ [])).map String.ofList ≠ [] := by
      intro hnil
      rw [List.map_eq_nil_iff.1 hnil] at hmem
      cases hmem
    obtain ⟨step, rest, hstep⟩ := List.exists_cons_of_ne_nil hbehind
    exact ⟨step, rest, by rw [hsteps, hstep]⟩
  · split at h
    · next hstem =>
      obtain rfl : "" = dir := Option.some.inj h
      -- the dot in front is the first step
      have hpieces : (path.toList.drop (Path.stem path).length).splitOn '/' =
          [] ++ (path.toList.drop (Path.stem path).length).splitOn '/' := rfl
      obtain ⟨habs, hsteps⟩ := steps_ofStem hpieces
      obtain ⟨hdot, hfirst⟩ := @steps_dot [] (by simp) (.inl rfl)
      rw [hstem] at habs hsteps
      rw [hdot] at habs
      rw [hfirst] at hsteps
      exact ⟨habs, ".", _, hsteps⟩
    · cases h

/-! ## Files beside a path -/

/-- A name that can stand alone as a path. -/
structure FileName (name : String) : Prop where
  /-- It is not empty. -/
  nonempty : name ≠ ""
  /-- It has no parts. -/
  slash_notMem : '/' ∉ name.toList
  /-- It can be looked up. -/
  nul_notMem : '\x00' ∉ name.toList

theorem checkText_eq_ok_iff {path : String} :
    checkText path = .ok () ↔
      '\x00' ∉ path.toList ∧ path ≠ "" ∧ path.utf8ByteSize ≤ maxPathBytes := by
  unfold checkText
  by_cases hnul : '\x00' ∈ path.toList
  · simp [hnul]
  · by_cases hempty : path = ""
    · simp [hempty]
    · by_cases hlong : path.utf8ByteSize > maxPathBytes
      · simp [hnul, hempty, hlong, Nat.not_le.2 hlong]
      · simp [hnul, hempty, hlong, Nat.le_of_not_lt hlong]

/-- The characters of a path but for the slashes are those of its steps. -/
theorem mem_toList_iff {path : String} {c : Char} (hc : c ≠ '/') :
    c ∈ path.toList ↔ ∃ step ∈ steps path, c ∈ step.toList := by
  constructor
  · intro hmem
    obtain ⟨piece, hpiece, hcpiece⟩ := exists_mem_splitOn hmem hc
    have hne : piece ≠ [] := List.ne_nil_of_mem hcpiece
    refine ⟨String.ofList piece, List.mem_map_of_mem ?_, by simpa using hcpiece⟩
    exact List.mem_filter.2 ⟨hpiece, by simpa using hne⟩
  · intro h
    obtain ⟨step, hstep, hcstep⟩ := h
    obtain ⟨piece, hpiece, rfl⟩ := List.mem_map.1 hstep
    rw [String.toList_ofList] at hcstep
    exact (mem_of_mem_splitOn (List.mem_filter.1 hpiece).1 hcstep).1

variable {d : Disk} {path dir name : String} {found place : Place}

theorem FileName.endsWithSlash_join (h : FileName name) (dir : String) :
    Path.endsWithSlash (Path.join dir name) = false := by
  obtain ⟨c, hlast⟩ : ∃ c, name.toList.getLast? = some c := by
    have hne : name.toList ≠ [] := by simpa using h.nonempty
    exact ⟨_, List.getLast?_eq_some_getLast hne⟩
  have hc : c ≠ '/' := fun heq => h.slash_notMem (heq ▸ List.mem_of_getLast? hlast)
  have hjoin : (Path.join dir name).toList.getLast? = some c := by
    unfold Path.join
    split
    · exact hlast
    · split <;> simp [hlast, List.getLast?_cons]
  unfold Path.endsWithSlash
  rw [hjoin]
  simpa using hc

theorem FileName.isAbsolute (h : FileName name) : Path.isAbsolute name = false := by
  unfold Path.isAbsolute
  cases hlist : name.toList with
  | nil => rfl
  | cons c cs =>
    have hc : c ≠ '/' := fun heq => h.slash_notMem (by rw [hlist, heq]; exact List.mem_cons_self)
    simpa using hc

theorem resolve_join_iff (hname : FileName name) (hcheck : checkText (Path.join dir name) = .ok ())
    (hwalk : d.walk (d.start dir) (steps dir) = .ok found) :
    d.resolve (Path.join dir name) = .ok place ↔ d.walk found [name] = .ok place := by
  have hstart : d.start (Path.join dir name) = d.start dir := by
    rw [start, isAbsolute_join hname.isAbsolute, start]
  rw [resolve_eq_ok_iff, hname.endsWithSlash_join, hstart, steps_join hname.isAbsolute,
    steps_of_no_slash hname.nonempty hname.slash_notMem, walk_append_eq_ok_iff]
  constructor
  · intro h
    obtain ⟨-, ⟨mid, hfront, hback⟩, -⟩ := h
    obtain rfl := Except.ok.inj (hwalk.symm.trans hfront)
    exact hback
  · intro h
    exact ⟨hcheck, ⟨found, hwalk, h⟩, by simp⟩

/-- **A file in the directory of a path that can be followed.** -/
theorem resolve_beside_iff (hname : FileName name) (hpath : d.resolve path = .ok found)
    (hdir : Path.parent? path = some dir)
    (hlen : (Path.join dir name).utf8ByteSize ≤ maxPathBytes) :
    d.resolve (Path.join dir name) = .ok place ↔ d.walk (d.destination dir) [name] = .ok place := by
  obtain ⟨habs, step, rest, hsteps⟩ := steps_parent hdir
  obtain ⟨hcheck, hwalk, -⟩ := resolve_eq_ok_iff.1 hpath
  obtain ⟨hnul, -, -⟩ := checkText_eq_ok_iff.1 hcheck
  -- whoever follows the path comes through the directory
  have hstart : d.start path = d.start dir := by rw [start, start, habs]
  rw [hstart, hsteps, walk_append_eq_ok_iff] at hwalk
  obtain ⟨mid, hfront, -⟩ := hwalk
  rw [show d.destination dir = mid from (walk_eq_foldl hfront).symm]
  refine resolve_join_iff hname (checkText_eq_ok_iff.2 ⟨?_, ?_, hlen⟩) hfront
  · intro hmem
    obtain ⟨part, hpart, hc⟩ := (mem_toList_iff (by decide)).1 hmem
    rw [steps_join hname.isAbsolute, steps_of_no_slash hname.nonempty hname.slash_notMem] at hpart
    rcases List.mem_append.1 hpart with hpart | hpart
    · have hmem' : part ∈ steps path := by
        rw [hsteps]
        exact List.mem_append_left _ hpart
      exact hnul ((mem_toList_iff (by decide)).2 ⟨part, hmem', hc⟩)
    · rw [List.mem_singleton.1 hpart] at hc
      exact hname.nul_notMem hc
  · intro hempty
    have hnone : steps (Path.join dir name) = [] := by rw [hempty]; rfl
    rw [steps_join hname.isAbsolute, steps_of_no_slash hname.nonempty hname.slash_notMem] at hnone
    exact List.append_ne_nil_of_right_ne_nil _ (List.cons_ne_nil _ _) hnone

theorem resolve_name_iff (hname : FileName name) (hlen : name.utf8ByteSize ≤ maxPathBytes) :
    d.resolve name = .ok place ↔ d.walk d.cwd [name] = .ok place := by
  have hjoin : Path.join "" name = name := by
    simp [Path.join, hname.isAbsolute]
  have hcheck := checkText_eq_ok_iff.2 ⟨hname.nul_notMem, hname.nonempty, hlen⟩
  have hiff := @resolve_join_iff d "" name d.cwd place hname (by rw [hjoin]; exact hcheck) rfl
  rwa [hjoin] at hiff

end QueryPaths.Disk
