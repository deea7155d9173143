import Mathlib.Data.Finset.Card
import Mathlib.Data.Finset.SDiff
import QueryPaths.Proofs.Path.Removal

/-! # How deep building goes

    A visit of a class goes through its fields, and visits the class of each link that is
    expanded before it goes on. All visits share one set of the classes on the way: a class is
    put into it before it is visited, and taken out afterwards. Each visit inside another one
    uses up a name of the pool, so visits are nested no deeper than there are names that are not
    on the way, however the links run, and the nodes lie no deeper either.

    * **`ClassPool.visit`**: the visits, none of them nested deeper than some limit.
    * **`ClassPool.namesLeft`**: how many names of the pool are not on the way.
    * **`ClassPool.run_visit`**: with one visit more than there are names left, the nodes are
      built, and the set is what it was before.
    * **`PathNode.depthOf`**, **`ClassPool.depthOf_nodes_le`**: how deep the nodes lie.
    * **`ClassPool.building_ends`**: both bounds.
-/

namespace QueryPaths

open Name (constantName)

/-! ## Depth -/

namespace PathNode

mutual

/-- **How deep a node goes**: a leaf counts one, a branch one more than its children. -/
def depth : PathNode → Nat
  | leaf _ _ => 1
  | branch _ _ children => 1 + depthOf children

/-- The depth of the deepest of some nodes; there is none in an empty list. -/
def depthOf : List PathNode → Nat
  | [] => 0
  | node :: rest => max (depth node) (depthOf rest)

end

theorem depthOf_le {nodes : List PathNode} {bound : Nat} (h : ∀ node ∈ nodes, depth node ≤ bound) :
    depthOf nodes ≤ bound := by
  induction nodes with
  | nil => exact Nat.zero_le _
  | cons node rest ih =>
    have hnode := h node List.mem_cons_self
    have hrest := ih fun other hother => h other (List.mem_cons_of_mem _ hother)
    exact Nat.max_le.2 ⟨hnode, hrest⟩

end PathNode

namespace ClassPool

open PathNode (depth depthOf)

variable {pool : ClassPool} {active : List String} {lead : String} {field : Field}
  {d : ModelClass} {limit : Nat}

/-! ## Visits that share one set -/

/-- **Visits one field**, with the set of the classes on the way as state: `inner` visits the class
    of a link that is expanded, and that class is in the set meanwhile. -/
def visitField (pool : ClassPool)
    (inner : String → List Field → StateT (List String) Option (List PathNode)) (lead : String)
    (field : Field) : StateT (List String) Option PathNode := do
  let active ← get
  match pool.resolve active field with
  | .resolved d =>
    modify fun active => active.insert d.qualified
    let children ← inner (lead ++ field.name ++ ".") d.fields
    modify fun active => active.filter (· != d.qualified)
    return .branch (constantName field.name) (lead ++ field.name) children
  | _ => return .leaf (constantName field.name) (lead ++ field.name)

/-- **Visits the fields of a class** one after the other, all with the same set. Visits that are
    nested deeper than the limit are given up. -/
def visit (pool : ClassPool) :
    Nat → String → List Field → StateT (List String) Option (List PathNode)
  | 0, _, _ => failure
  | limit + 1, lead, fields => fields.mapM (pool.visitField (pool.visit limit) lead)

/-- One after the other, steps that leave the state alone answer each for itself. -/
theorem run_mapM_eq_some {α β σ : Type} {step : α → StateT σ Option β} {answer : α → β} {s : σ}
    {xs : List α} (h : ∀ x ∈ xs, (step x).run s = some (answer x, s)) :
    (xs.mapM step).run s = some (xs.map answer, s) := by
  induction xs with
  | nil => rfl
  | cons x rest ih =>
    have hx := h x List.mem_cons_self
    have hrest := ih fun y hy => h y (List.mem_cons_of_mem _ hy)
    simp [List.mapM_cons, hx, hrest]

/-- The name that is taken out of the set was put in before. -/
theorem filter_cons_of_fresh {name : String} (hfresh : name ∉ active) :
    (name :: active).filter (· != name) = active := by
  rw [List.filter_cons_of_neg (by simp), List.filter_eq_self]
  intro other hother
  rw [bne_iff_ne]
  intro heq
  exact hfresh (heq ▸ hother)

/-- **A field whose link is expanded** has its branch built and leaves the set as it was, if the
    visit inside leaves the set as it found it. -/
theorem run_visitField_of_target
    {inner : String → List Field → StateT (List String) Option (List PathNode)}
    (htarget : pool.target? field = some d) (hfresh : d.qualified ∉ active)
    (hinner : (inner (lead ++ field.name ++ ".") d.fields).run (d.qualified :: active) =
      some (pool.nodes (d.qualified :: active) (lead ++ field.name ++ ".") d.fields,
        d.qualified :: active)) :
    (pool.visitField inner lead field).run active =
      some (pool.fieldNode active lead field, active) := by
  have hresolve := resolve_eq_resolved_iff_target?.2 ⟨htarget, hfresh⟩
  rw [fieldNode_of_target htarget hfresh]
  simp [visitField, hresolve, List.insert_of_not_mem hfresh, hinner, filter_cons_of_fresh hfresh]

/-- **A field whose link is not expanded** has its leaf built, and the set is not touched. -/
theorem run_visitField_of_no_target
    {inner : String → List Field → StateT (List String) Option (List PathNode)}
    (hleaf : ∀ d, pool.target? field = some d → d.qualified ∈ active) :
    (pool.visitField inner lead field).run active =
      some (pool.fieldNode active lead field, active) := by
  rw [fieldNode_of_no_target hleaf]
  cases hresolve : pool.resolve active field with
  | resolved d =>
    obtain ⟨htarget, hfresh⟩ := resolve_eq_resolved_iff_target?.1 hresolve
    exact absurd (hleaf d htarget) hfresh
  | scalar => simp [visitField, hresolve]
  | unresolved => simp [visitField, hresolve]
  | cyclic => simp [visitField, hresolve]

/-! ## Names that are left -/

/-- **The qualified names of a pool**, each once. -/
def names (pool : ClassPool) : Finset String := (pool.toList.map (·.qualified)).toFinset

/-- **How many names of the pool are not on the way.** -/
def namesLeft (pool : ClassPool) (active : List String) : Nat :=
  (pool.names \ active.toFinset).card

theorem mem_names_of_target? (h : pool.target? field = some d) : d.qualified ∈ pool.names := by
  obtain ⟨name, -, hget⟩ := Option.bind_eq_some_iff.1 h
  unfold names
  rw [List.mem_toFinset]
  exact List.mem_map_of_mem (mem_of_get? hget).1

/-- **Each nested visit uses up a name**: the one that is put into the set is a name of the pool,
    since a class is found under its own name. -/
theorem namesLeft_cons (h : pool.target? field = some d) (hfresh : d.qualified ∉ active) :
    pool.namesLeft (d.qualified :: active) + 1 = pool.namesLeft active := by
  have hmem : d.qualified ∈ pool.names \ active.toFinset := by
    rw [Finset.mem_sdiff, List.mem_toFinset]
    exact ⟨mem_names_of_target? h, hfresh⟩
  unfold namesLeft
  rw [List.toFinset_cons, Finset.sdiff_insert]
  exact Finset.card_erase_add_one hmem

theorem namesLeft_singleton (pool : ClassPool) (name : String) :
    pool.namesLeft [name] = (pool.names.erase name).card := by
  unfold namesLeft
  rw [List.toFinset_cons, List.toFinset_nil, insert_empty_eq, Finset.sdiff_singleton_eq_erase]

/-! ## Both bounds -/

/-- **A visit ends if it may nest deeper than there are names left**, and leaves the set as it
    was. By induction on the limit: a nested visit has one visit and one name less. -/
theorem run_visit (h : pool.namesLeft active < limit) (lead : String) (fields : List Field) :
    (pool.visit limit lead fields).run active = some (pool.nodes active lead fields, active) := by
  induction limit generalizing active lead fields with
  | zero => omega
  | succ limit ih =>
    rw [nodes_eq_map]
    apply run_mapM_eq_some
    intro f _
    rcases pool.fieldNode_cases active lead f with ⟨d, htarget, hfresh, -⟩ | ⟨hleaf, -⟩
    · have hless := namesLeft_cons htarget hfresh
      apply run_visitField_of_target htarget hfresh
      exact ih (by omega) _ _
    · exact run_visitField_of_no_target hleaf

/-- **Nodes lie no deeper than there are names left**, one for each branch on the way to a leaf. -/
theorem depthOf_nodes_le (pool : ClassPool) (active : List String) (lead : String)
    (fields : List Field) :
    depthOf (pool.nodes active lead fields) ≤ 1 + pool.namesLeft active := by
  induction active using pool.active_induct generalizing lead fields with
  | step active ih =>
    rw [nodes_eq_map]
    apply PathNode.depthOf_le
    intro node hnode
    obtain ⟨f, -, rfl⟩ := List.mem_map.1 hnode
    rcases pool.fieldNode_cases active lead f with ⟨d, htarget, hfresh, hbranch⟩ | ⟨-, hleaf⟩
    · have hless := namesLeft_cons htarget hfresh
      have hinner := ih f d htarget hfresh (lead ++ f.name ++ ".") d.fields
      rw [hbranch, depth]
      omega
    · rw [hleaf, depth]
      omega

/-- **Building ends on every pool, and goes no deeper than there are names.** For any class, any
    lead and any classes on the way, one visit more than there are names of the pool that are not
    on the way is enough to build the nodes, and these lie no deeper than that. For the tree of a
    root these are the names other than its own. -/
theorem building_ends (pool : ClassPool) :
    (∀ (c : ModelClass) (lead : String) (active : List String),
      (pool.visit (1 + pool.namesLeft active) lead c.fields).run active =
          some (pool.nodes active lead c.fields, active) ∧
        depthOf (pool.nodes active lead c.fields) ≤ 1 + pool.namesLeft active) ∧
    ∀ root : ModelClass,
      (pool.visit (1 + (pool.names.erase root.qualified).card) "" root.fields).run
          [root.qualified] = some (pool.tree root, [root.qualified]) ∧
        depthOf (pool.tree root) ≤ 1 + (pool.names.erase root.qualified).card := by
  have hboth : ∀ (c : ModelClass) (lead : String) (active : List String),
      (pool.visit (1 + pool.namesLeft active) lead c.fields).run active =
          some (pool.nodes active lead c.fields, active) ∧
        depthOf (pool.nodes active lead c.fields) ≤ 1 + pool.namesLeft active := by
    intro c lead active
    refine ⟨run_visit (by omega) lead c.fields, ?_⟩
    exact depthOf_nodes_le pool active lead c.fields
  refine ⟨hboth, ?_⟩
  intro root
  rw [← namesLeft_singleton]
  exact hboth root "" [root.qualified]

end ClassPool

end QueryPaths
