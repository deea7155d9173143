import QueryPaths.Emit.Directory
import QueryPaths.Proofs.Disk.Destination
import QueryPaths.Proofs.Except

/-! # Where artifacts lie

    An artifact lies below the output directory, in the directories of its
    package. A segment or a type name may hold a slash only inside a comment, and
    without slashes each of them is a single step of the path.

    * **`packageSegments_eq_ok`**: what it takes for a package to have segments.
    * **`packageSegments_inj`**: packages with the same segments are the same.
    * **`OutputDirectory.destination_artifactPath`**, **`destination_indexPath`**:
      the places of artifacts and of the index, for names without slashes.
-/

namespace QueryPaths

open Disk Source

/-- **A name that stands for something of its own**: a single step of a path. -/
def IsFileName (name : String) : Prop :=
  steps name = [name] ∧ isStepName name = true ∧ Path.isAbsolute name = false

/-! ## Packages -/

theorem identifier_eq_ok_iff {name : String} {ident : Ident} :
    identifier name = .ok ident ↔ Ident.parse? name = some ident := by
  unfold identifier
  split <;> simp_all

theorem identifier_eq_error_iff {name : String} {e : EmitError} :
    identifier name = .error e ↔ Ident.parse? name = none ∧ e = .invalidIdent name := by
  unfold identifier
  split
  · simp_all
  · simp_all [eq_comm]

/-- Segments are admitted as they are spelt, each an identifier. -/
theorem admitSegments_eq_ok {pieces : List (List Char)} {segments : List String}
    (h : admitSegments pieces = .ok segments) :
    segments = pieces.map String.ofList ∧
      ∀ segment ∈ segments, (Ident.parse? segment).isSome = true := by
  induction pieces generalizing segments with
  | nil =>
    obtain rfl := Except.ok.inj h
    simp
  | cons piece rest ih =>
    simp only [admitSegments, bind_eq_ok, pure_eq_ok] at h
    obtain ⟨ident, hident, others, hrest, rfl⟩ := h
    obtain ⟨rfl, hall⟩ := ih hrest
    refine ⟨rfl, ?_⟩
    intro segment hmem
    rcases List.mem_cons.1 hmem with rfl | hmem
    · simp [identifier_eq_ok_iff.1 hident]
    · exact hall segment hmem

/-- **What it takes for a package to have segments.** -/
theorem packageSegments_eq_ok {package : String} {segments : List String}
    (h : packageSegments package = .ok segments) :
    (∀ segment ∈ segments, (Ident.parse? segment).isSome = true) ∧
      (package = "" ∧ segments = [] ∨
        package ≠ "" ∧ segments = (package.toList.splitOn '.').map String.ofList) := by
  unfold packageSegments at h
  split at h
  · next hempty =>
    obtain rfl := Except.ok.inj h
    exact ⟨by simp, .inl ⟨hempty, rfl⟩⟩
  · next hne =>
    obtain ⟨hsegments, hall⟩ := admitSegments_eq_ok h
    exact ⟨hall, .inr ⟨hne, hsegments⟩⟩

/-- **Packages are told apart by their segments.** -/
theorem packageSegments_inj {p q : String} {segments : List String}
    (hp : packageSegments p = .ok segments) (hq : packageSegments q = .ok segments) : p = q := by
  rcases (packageSegments_eq_ok hp).2 with ⟨rfl, hnil⟩ | ⟨-, hsegp⟩
  · rcases (packageSegments_eq_ok hq).2 with ⟨rfl, -⟩ | ⟨-, hsegq⟩
    · rfl
    · simp [hnil] at hsegq
  · rcases (packageSegments_eq_ok hq).2 with ⟨-, hnil⟩ | ⟨-, hsegq⟩
    · simp [hnil] at hsegp
    · -- the pieces joined with dots again are the package
      have hpieces : p.toList.splitOn '.' = q.toList.splitOn '.' := by
        refine List.map_injective_iff.2 (fun _ _ => String.ofList_injective) ?_
        rw [← hsegp, ← hsegq]
      have hlist := congrArg (['.'].intercalate ·) hpieces
      simp only [List.intercalate_splitOn] at hlist
      exact String.toList_injective hlist

theorem parse?_empty : Ident.parse? "" = none := by
  have hskip : skipTrivia [] = [] := skipTrivia_of_none rfl
  have hlex : lexIdent [] = none := by decide
  have hlist : dropByteOrderMark "".toList = [] := rfl
  rw [Ident.parse?, hlist, hskip, hlex]
  rfl

/-- An identifier without a dot is a package of one segment. -/
theorem packageSegments_of_parse? {name : String} {ident : Ident}
    (h : Ident.parse? name = some ident) (hdot : '.' ∉ name.toList) :
    packageSegments name = .ok [name] := by
  have hne : name ≠ "" := by
    rintro rfl
    rw [parse?_empty] at h
    cases h
  have hident : identifier (String.ofList name.toList) = .ok ident := by
    rw [String.ofList_toList]
    exact identifier_eq_ok_iff.2 h
  rw [packageSegments, if_neg hne, List.splitOn_eq_singleton hdot]
  simp only [admitSegments, bind_eq_ok, pure_eq_ok]
  exact ⟨ident, hident, [], rfl, by rw [String.ofList_toList]⟩

theorem isFileName_segment {package segment : String} {segments : List String}
    (h : packageSegments package = .ok segments) (hmem : segment ∈ segments)
    (hslash : '/' ∉ package.toList) : IsFileName segment := by
  obtain ⟨hall, hpieces⟩ := packageSegments_eq_ok h
  have hne : segment ≠ "" := by
    rintro rfl
    have := hall "" hmem
    rw [parse?_empty] at this
    cases this
  -- no piece of the package holds a dot or a slash
  have hchars : ∀ c ∈ segment.toList, c ≠ '/' ∧ c ≠ '.' := by
    intro c hc
    rcases hpieces with ⟨-, rfl⟩ | ⟨-, rfl⟩
    · cases hmem
    · obtain ⟨piece, hpiece, rfl⟩ := List.mem_map.1 hmem
      obtain ⟨hin, hdot⟩ := mem_of_mem_splitOn hpiece (by simpa using hc)
      exact ⟨by rintro rfl; exact hslash hin, hdot⟩
  refine ⟨steps_of_no_slash hne fun hin => (hchars _ hin).1 rfl, ?_, ?_⟩
  · have hdot : segment ≠ "." ∧ segment ≠ ".." := by
      constructor <;> rintro rfl <;> exact (hchars '.' (by simp)).2 rfl
    simp [isStepName, hdot]
  · obtain ⟨c, cs, hcs⟩ := List.exists_cons_of_ne_nil (by simpa using hne : segment.toList ≠ [])
    have := (hchars c (by simp [hcs])).1
    simp [Path.isAbsolute, hcs, this]

/-! ## Files -/

theorem isFileName_of_suffix {name : String} (hsuffix : ['.', 'r', 's'] <:+ name.toList)
    (hslash : '/' ∉ name.toList) : IsFileName name := by
  have hne : name ≠ "" := by
    rintro rfl
    exact absurd hsuffix (by simp)
  refine ⟨steps_of_no_slash hne hslash, ?_, ?_⟩
  · have hdot : name ≠ "." ∧ name ≠ ".." := by
      constructor <;> rintro rfl <;> exact absurd hsuffix.length_le (by simp)
    simp [isStepName, hdot]
  · obtain ⟨c, cs, hcs⟩ := List.exists_cons_of_ne_nil (by simpa using hne : name.toList ≠ [])
    rw [hcs] at hslash
    have hc : c ≠ '/' := fun h => hslash (by simp [h])
    simp [Path.isAbsolute, hcs, hc]

theorem destination_join_fileName {name : String} (h : IsFileName name) (d : Disk)
    (base : String) : d.destination (Path.join base name) = d.destination base ++ [name] := by
  obtain ⟨hsteps, hname, habs⟩ := h
  rw [destination_join habs, hsteps]
  exact advance_of_isStepName hname _

theorem isFileName_artifact {typeName : String} (h : '/' ∉ typeName.toList) :
    IsFileName (typeName ++ ".rs") :=
  isFileName_of_suffix (by simp) (by simp [h])

theorem isFileName_index {name : String} (h : isIndexFileName name = true) : IsFileName name := by
  simp only [isIndexFileName, Bool.and_eq_true, List.isSuffixOf_iff_suffix, Bool.not_eq_true',
    List.any_eq_false, Bool.or_eq_true, beq_iff_eq, not_or] at h
  exact isFileName_of_suffix h.1 fun hin => (h.2 _ hin).1 rfl

namespace OutputDirectory

/-- The directory of a package is one step further for each segment. -/
theorem destination_packageDirectory {package : String} {segments : List String}
    (h : packageSegments package = .ok segments) (hslash : '/' ∉ package.toList)
    (out : OutputDirectory) (d : Disk) :
    d.destination (out.packageDirectory segments) = d.destination out.directory ++ segments := by
  have hstep : ∀ segment ∈ segments, IsFileName segment :=
    fun segment hmem => isFileName_segment h hmem hslash
  unfold packageDirectory
  clear h
  generalize out.directory = base
  induction segments generalizing base with
  | nil => simp
  | cons segment rest ih =>
    rw [List.foldl_cons, ih fun s hs => hstep s (List.mem_cons_of_mem _ hs)]
    rw [destination_join_fileName (hstep segment List.mem_cons_self)]
    simp

/-- **The place of an artifact**, for names without slashes. -/
theorem destination_artifactPath {package typeName : String} {segments : List String}
    (h : packageSegments package = .ok segments) (hpackage : '/' ∉ package.toList)
    (htype : '/' ∉ typeName.toList) (out : OutputDirectory) (d : Disk) :
    d.destination (out.artifactPath segments typeName) =
      d.destination out.directory ++ segments ++ [typeName ++ ".rs"] := by
  rw [artifactPath, destination_join_fileName (isFileName_artifact htype),
    destination_packageDirectory h hpackage]

/-- **The place of the index.** -/
theorem destination_indexPath {out : OutputDirectory} (h : isIndexFileName out.indexFile = true)
    (d : Disk) :
    d.destination out.indexPath = d.destination out.directory ++ [out.indexFile] :=
  destination_join_fileName (isFileName_index h) d _

end OutputDirectory

end QueryPaths
