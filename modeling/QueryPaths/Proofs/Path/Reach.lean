import Mathlib.Logic.Relation
import QueryPaths.Proofs.Path.Walk

/-! # Classes that links reach

    A tree expands a class only where it is not already on the way. Every class
    that links reach is nevertheless expanded somewhere: a way that comes back to
    a class can be cut short there.

    * **`ClassPool.Links`**: one class has a field that leads to another.
    * **`ClassPool.Expanded`**: the classes that are expanded below a class.
    * **`ClassPool.expanded_iff`**: these are the classes that links reach without
      coming to a class on the way.
    * **`ClassPool.reaches_outside_iff`**: nothing is lost by keeping away from the
      root, if its name is looked up as itself.
-/

namespace QueryPaths.ClassPool

open Name (constantName)
open Relation

/-- **One class links to another** through some field. -/
def Links (pool : ClassPool) (c d : ModelClass) : Prop :=
  ∃ f ∈ c.fields, pool.target? f = some d

/-- A link to a class that is not one of those already on the way. -/
def LinksOutside (pool : ClassPool) (active : List String) (c d : ModelClass) : Prop :=
  pool.Links c d ∧ d.qualified ∉ active

/-- **The classes expanded below `c`**, where `active` are the classes on the way. -/
inductive Expanded (pool : ClassPool) : List String → ModelClass → ModelClass → Prop where
  /-- The target of a link. -/
  | first {active : List String} {c d : ModelClass} (h : pool.LinksOutside active c d) :
      Expanded pool active c d
  /-- A class expanded below the target of a link, which then is on the way, too. -/
  | inner {active : List String} {c d e : ModelClass} (h : pool.LinksOutside active c d)
      (rest : Expanded pool (d.qualified :: active) d e) : Expanded pool active c e

variable {pool : ClassPool} {active : List String} {c d e : ModelClass}

theorem Links.unique {c' d' : ModelClass} (h : pool.Links c d) (h' : pool.Links c' d')
    (hq : d.qualified = d'.qualified) : d = d' := by
  obtain ⟨f, -, hf⟩ := h
  obtain ⟨g, -, hg⟩ := h'
  exact target?_unique hf hg hq

theorem LinksOutside.of_cons {q : String} (h : pool.LinksOutside (q :: active) c d) :
    pool.LinksOutside active c d :=
  ⟨h.1, fun hmem => h.2 (List.mem_cons_of_mem _ hmem)⟩

/-- Each link outside leaves fewer classes to visit. -/
theorem LinksOutside.unvisited_lt (h : pool.LinksOutside active c d) :
    pool.unvisited (d.qualified :: active) < pool.unvisited active := by
  obtain ⟨⟨f, -, hf⟩, hfresh⟩ := h
  exact ClassPool.unvisited_lt (resolve_eq_resolved_iff_target?.2 ⟨hf, hfresh⟩)

/-- **The branches among a class's nodes** are those of its links outside. -/
theorem exists_branch_mem_nodes (h : pool.LinksOutside active c d) (lead : String) :
    ∃ name path, .branch name path (pool.nodes (d.qualified :: active) (path ++ ".") d.fields) ∈
      pool.nodes active lead c.fields := by
  obtain ⟨⟨f, hf, htarget⟩, hfresh⟩ := h
  refine ⟨constantName f.name, lead ++ f.name, ?_⟩
  rw [nodes_eq_map]
  exact List.mem_map.2 ⟨f, hf, fieldNode_of_target htarget hfresh⟩

/-- A branch among a class's nodes holds the nodes of a class that is linked. -/
theorem linksOutside_of_branch_mem {name path lead : String} {children : List PathNode}
    (h : .branch name path children ∈ pool.nodes active lead c.fields) :
    ∃ d, pool.LinksOutside active c d ∧
      children = pool.nodes (d.qualified :: active) (path ++ ".") d.fields := by
  rw [nodes_eq_map] at h
  obtain ⟨f, hf, heq⟩ := List.mem_map.1 h
  have hbranch : (pool.fieldNode active lead f).isBranch = true := by rw [heq]; rfl
  obtain ⟨d, htarget, hfresh⟩ := (isBranch_fieldNode pool active lead f).1 hbranch
  rw [fieldNode_of_target htarget hfresh] at heq
  obtain ⟨-, rfl, rfl⟩ := PathNode.branch.inj heq
  exact ⟨d, ⟨⟨f, hf, htarget⟩, hfresh⟩, rfl⟩

theorem Expanded.transGen (h : pool.Expanded active c e) :
    TransGen (pool.LinksOutside active) c e := by
  induction h with
  | first h => exact .single h
  | inner h _ ih => exact .head h (TransGen.mono (fun _ _ hlink => hlink.of_cons) _ _ ih)

/-- **A way that comes to `d` can be cut short there**: its last part, from `d` on,
    does not come to `d` again. -/
theorem reflTransGen_cons {q : String}
    (hunique : ∀ x y, pool.Links x y → y.qualified = q → y = d) {x : ModelClass}
    (h : ReflTransGen (pool.LinksOutside active) x e) :
    ReflTransGen (pool.LinksOutside (q :: active)) x e ∨
      ReflTransGen (pool.LinksOutside (q :: active)) d e := by
  induction h using ReflTransGen.head_induction_on with
  | refl => exact .inl .refl
  | @head x y hxy _ ih =>
    rcases ih with hye | hde
    · -- the way from `y` on keeps away from `q`; does `y` itself?
      by_cases hq : y.qualified = q
      · obtain rfl := hunique x y hxy.1 hq
        exact .inr hye
      · have hlink : pool.LinksOutside (q :: active) x y :=
          ⟨hxy.1, by simpa [hq] using hxy.2⟩
        exact .inl (.head hlink hye)
    · exact .inr hde

/-- **What can be reached is expanded**, by induction on the number of classes that
    are not on the way. -/
theorem expanded_of_transGen (h : TransGen (pool.LinksOutside active) c e) :
    pool.Expanded active c e := by
  induction hn : pool.unvisited active using Nat.strongRecOn generalizing active c with
  | _ n ih =>
    obtain ⟨d, hcd, hde⟩ := TransGen.head'_iff.1 h
    have hunique : ∀ x y, pool.Links x y → y.qualified = d.qualified → y = d :=
      fun x y hxy hq => hxy.unique hcd.1 hq
    -- behind the last visit to `d` the way keeps away from `d`
    have hde' : ReflTransGen (pool.LinksOutside (d.qualified :: active)) d e :=
      (reflTransGen_cons hunique hde).elim id id
    rcases reflTransGen_iff_eq_or_transGen.1 hde' with rfl | htrans
    · exact .first hcd
    · subst hn
      exact .inner hcd (ih _ hcd.unvisited_lt htrans rfl)

/-- **Expanded are exactly the classes that links reach**, keeping away from those on
    the way. -/
theorem expanded_iff : pool.Expanded active c e ↔ TransGen (pool.LinksOutside active) c e :=
  ⟨Expanded.transGen, expanded_of_transGen⟩

/-- Where the root's name finds nothing but the root itself, keeping away from the
    root loses no other class. -/
theorem reaches_outside_iff {root : ModelClass}
    (hroot : ∀ c, pool.get? root.qualified = some c → c = root) (hne : e.qualified ≠ root.qualified) :
    TransGen (pool.LinksOutside [root.qualified]) root e ↔ ReflTransGen pool.Links root e := by
  constructor
  · intro h
    exact (TransGen.mono (fun _ _ hlink => hlink.1) _ _ h).to_reflTransGen
  · intro h
    have hunique : ∀ x y, pool.Links x y → y.qualified = root.qualified → y = root := by
      intro x y h hq
      obtain ⟨f, -, hf⟩ := h
      obtain ⟨q, -, hget⟩ := Option.bind_eq_some_iff.1 hf
      obtain rfl : y.qualified = q := (mem_of_get? hget).2
      exact hroot y (hq ▸ hget)
    have hout : ReflTransGen (pool.LinksOutside []) root e :=
      ReflTransGen.mono (fun _ _ hlink => ⟨hlink, List.not_mem_nil⟩) _ _ h
    -- behind the last visit to the root the way keeps away from the root
    have hcut := (reflTransGen_cons hunique hout).elim id id
    rcases reflTransGen_iff_eq_or_transGen.1 hcut with rfl | htrans
    · exact absurd rfl hne
    · exact htrans

end QueryPaths.ClassPool
