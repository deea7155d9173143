import QueryPaths.Proofs.Path.Walk

/-! # Removing classes

    Without the classes of one name, links to them do not resolve. In a tree that comes to the
    same as having the name on the way from the start: such links become plain fields, and
    nothing else changes.

    * **`ClassPool.without`**: a pool without the classes of one name.
    * **`ClassPool.nodes_without`**: the nodes of such a pool are those with the name on the way.
    * **`ClassPool.cut`**: the nodes of some fields in which the branches of links to certain
      classes are leaves.
    * **`ClassPool.nodes_append`**: putting more names on the way cuts the branches to them.
    * **`ClassPool.tree_without`**: what removing classes does to a tree.
-/

namespace QueryPaths.ClassPool

open Name (constantName)
open PathNode (at?)

variable {pool : ClassPool} {active names : List String} {q : String}

/-! ## Classes on the way -/

/-- **Induction over the classes on the way**: what holds of some of them may be derived from
    what holds with the target of a link added that is not yet among them. -/
theorem active_induct (pool : ClassPool) {motive : List String → Prop}
    (step : ∀ active, (∀ f d, pool.target? f = some d → d.qualified ∉ active →
      motive (d.qualified :: active)) → motive active) : ∀ active, motive active := by
  intro active
  induction hn : pool.unvisited active using Nat.strongRecOn generalizing active with
  | _ n ih =>
    subst hn
    refine step active fun f d htarget hfresh => ih _ ?_ _ rfl
    exact unvisited_lt (resolve_eq_resolved_iff_target?.2 ⟨htarget, hfresh⟩)

/-- **Only which classes are on the way matters**, not their order. -/
theorem nodes_congr_active {active' : List String} (h : ∀ x, x ∈ active ↔ x ∈ active')
    (lead : String) (fields : List Field) :
    pool.nodes active lead fields = pool.nodes active' lead fields := by
  induction active using pool.active_induct generalizing active' lead fields with
  | step active ih =>
    rw [nodes_eq_map, nodes_eq_map]
    refine List.map_congr_left fun f _ => ?_
    rcases pool.fieldNode_cases active lead f with ⟨d, htarget, hfresh, hnode⟩ | ⟨hleaf, hnode⟩
    · have hmore : ∀ x, x ∈ d.qualified :: active ↔ x ∈ d.qualified :: active' := by
        intro x
        rw [List.mem_cons, List.mem_cons, h]
      rw [hnode, fieldNode_of_target htarget fun hmem => hfresh ((h _).2 hmem),
        ih f d htarget hfresh hmore]
    · rw [hnode, fieldNode_of_no_target fun d hd => (h _).1 (hleaf d hd)]

/-! ## Pools without some classes -/

/-- **The pool without the classes of one qualified name.** -/
def without (pool : ClassPool) (q : String) : ClassPool :=
  ofList (pool.toList.filter (·.qualified ≠ q))

theorem get?_without (pool : ClassPool) (q name : String) :
    (pool.without q).get? name = if name = q then none else pool.get? name := by
  rw [get?_eq_find?, get?_eq_find?, without, toList_ofList, List.find?_filter]
  by_cases hname : name = q
  · rw [if_pos hname, List.find?_eq_none]
    intro c _
    simp [hname]
  · rw [if_neg hname]
    congr 1
    funext c
    by_cases hc : c.qualified = name
    · simp [hc, hname]
    · simp [hc]

/-- **A link still leads to the same class**, unless that is removed. -/
theorem target?_without_eq_some {f : Field} {d : ModelClass} :
    (pool.without q).target? f = some d ↔ pool.target? f = some d ∧ d.qualified ≠ q := by
  rw [target?, target?, Option.bind_eq_some_iff, Option.bind_eq_some_iff]
  simp only [get?_without]
  constructor
  · rintro ⟨name, hlink, hget⟩
    split at hget
    · cases hget
    · next hname => exact ⟨⟨name, hlink, hget⟩, (mem_of_get? hget).2 ▸ hname⟩
  · rintro ⟨⟨name, hlink, hget⟩, hd⟩
    have hname : name ≠ q := (mem_of_get? hget).2 ▸ hd
    exact ⟨name, hlink, by rwa [if_neg hname]⟩

/-- **Without the classes of a name, nodes are built as if it were on the way.** -/
theorem nodes_without (pool : ClassPool) (q : String) (active : List String) (lead : String)
    (fields : List Field) :
    (pool.without q).nodes active lead fields = pool.nodes (q :: active) lead fields := by
  induction active using pool.active_induct generalizing lead fields with
  | step active ih =>
    rw [nodes_eq_map, nodes_eq_map]
    refine List.map_congr_left fun f _ => ?_
    rcases pool.fieldNode_cases (q :: active) lead f with
      ⟨d, htarget, hfresh, hnode⟩ | ⟨hleaf, hnode⟩
    · obtain ⟨hne, hfresh⟩ := List.ne_and_not_mem_of_not_mem_cons hfresh
      -- the name and the link's target are put on the way in the other order
      have hswap : ∀ x, x ∈ q :: d.qualified :: active ↔ x ∈ d.qualified :: q :: active := by
        intro x
        simp only [List.mem_cons, or_left_comm]
      rw [hnode, fieldNode_of_target (target?_without_eq_some.2 ⟨htarget, hne⟩) hfresh,
        ih f d htarget hfresh, nodes_congr_active hswap]
    · rw [hnode]
      refine fieldNode_of_no_target fun d hd => ?_
      obtain ⟨htarget, hne⟩ := target?_without_eq_some.1 hd
      exact List.mem_of_ne_of_mem hne (hleaf d htarget)

/-! ## Cutting branches -/

mutual

/-- The node of a field, or a leaf in its place if it is the branch of a link to a class that
    has one of the names. -/
def cutNode (pool : ClassPool) (names : List String) : Field → PathNode → PathNode
  | _, .leaf name path => .leaf name path
  | field, .branch name path children =>
    match pool.target? field with
    | some d =>
      if d.qualified ∈ names then .leaf name path
      else .branch name path (pool.cut names d.fields children)
    | none => .branch name path children

/-- **The nodes of some fields with certain branches cut**: each branch of a link that resolves
    to a class of one of the names is a leaf of the same name and path. -/
def cut (pool : ClassPool) (names : List String) : List Field → List PathNode → List PathNode
  | field :: fields, node :: rest => pool.cutNode names field node :: pool.cut names fields rest
  | _, _ => []

end

theorem cut_map (g : Field → PathNode) (fields : List Field) :
    pool.cut names fields (fields.map g) = fields.map fun f => pool.cutNode names f (g f) := by
  induction fields with
  | nil => rfl
  | cons f rest ih => rw [List.map_cons, cut, ih, List.map_cons]

/-- **Putting more names on the way** cuts the branches to them. -/
theorem nodes_append (pool : ClassPool) (names active : List String) (lead : String)
    (fields : List Field) :
    pool.nodes (names ++ active) lead fields =
      pool.cut names fields (pool.nodes active lead fields) := by
  induction active using pool.active_induct generalizing lead fields with
  | step active ih =>
    rw [nodes_eq_map, nodes_eq_map, cut_map]
    refine List.map_congr_left fun f _ => ?_
    rcases pool.fieldNode_cases active lead f with ⟨d, htarget, hfresh, hnode⟩ | ⟨hleaf, hnode⟩
    · simp only [hnode, cutNode, htarget]
      -- a branch is cut if its class is among the new names, and cut further inside if not
      by_cases hname : d.qualified ∈ names
      · rw [if_pos hname]
        refine fieldNode_of_no_target fun e he => ?_
        obtain rfl := Option.some.inj (htarget.symm.trans he)
        exact List.mem_append_left _ hname
      · have hnot : d.qualified ∉ names ++ active := by
          rw [List.mem_append, not_or]
          exact ⟨hname, hfresh⟩
        have hmiddle : ∀ x, x ∈ d.qualified :: (names ++ active) ↔
            x ∈ names ++ d.qualified :: active := by
          intro x
          simp only [List.mem_append, List.mem_cons, or_left_comm]
        rw [if_neg hname, fieldNode_of_target htarget hnot, nodes_congr_active hmiddle,
          ih f d htarget hfresh]
    · rw [hnode, cutNode]
      exact fieldNode_of_no_target fun d hd => List.mem_append_right _ (hleaf d hd)

/-! ## Walks without some classes -/

/-- **The field of a stop leads to a class of this name.** -/
def LeadsTo (pool : ClassPool) (q : String) (stop : Stop) : Prop :=
  ∃ d, pool.target? stop.field = some d ∧ d.qualified = q

variable {root c : ModelClass} {chain : List Nat} {before stops : List Stop} {last stop : Stop}

/-- A link that still leads to a class does not lead to a removed one. -/
theorem target?_without_iff {d : ModelClass} :
    (pool.without q).target? stop.field = some d ↔
      pool.target? stop.field = some d ∧ ¬pool.LeadsTo q stop := by
  rw [target?_without_eq_some]
  refine and_congr_right fun htarget => not_congr ?_
  constructor
  · intro hd
    exact ⟨d, htarget, hd⟩
  · rintro ⟨e, he, rfl⟩
    exact congrArg (·.qualified) (Option.some.inj (htarget.symm.trans he))

theorem walk_singleton_iff : Walk pool c chain [stop] ↔
    ∃ i, chain = [i] ∧ stop.cls = c ∧ c.fields[i]? = some stop.field := by
  constructor
  · intro h
    cases h with
    | last here => exact ⟨_, rfl, rfl, here⟩
    | follow here target rest =>
      obtain ⟨_, _, _, _, -, hnil⟩ := rest.exists_cons
      cases hnil
  · rintro ⟨i, rfl, rfl, here⟩
    exact .last here

theorem walk_cons_iff (hne : stops ≠ []) : Walk pool c chain (stop :: stops) ↔
    ∃ i chain' d, chain = i :: chain' ∧ stop.cls = c ∧ c.fields[i]? = some stop.field ∧
      pool.target? stop.field = some d ∧ Walk pool d chain' stops := by
  constructor
  · intro h
    cases h with
    | last here => exact absurd rfl hne
    | follow here target rest => exact ⟨_, _, _, rfl, rfl, here, target, rest⟩
  · rintro ⟨i, chain', d, rfl, rfl, here, target, rest⟩
    exact .follow here target rest

/-- **The walks that are left** are those that follow no link to a removed class. -/
theorem walk_without_iff : Walk (pool.without q) c chain (before ++ [last]) ↔
    Walk pool c chain (before ++ [last]) ∧ ∀ stop ∈ before, ¬pool.LeadsTo q stop := by
  induction before generalizing c chain with
  | nil =>
    rw [List.nil_append, walk_singleton_iff, walk_singleton_iff]
    simp
  | cons stop rest ih =>
    have hne : rest ++ [last] ≠ [] := List.append_ne_nil_of_right_ne_nil _ (List.cons_ne_nil _ _)
    rw [List.cons_append, walk_cons_iff hne, walk_cons_iff hne]
    simp only [target?_without_iff, ih, List.forall_mem_cons]
    constructor
    · rintro ⟨i, chain', d, rfl, hcls, here, ⟨target, hfirst⟩, walk, hrest⟩
      exact ⟨⟨i, chain', d, rfl, hcls, here, target, walk⟩, hfirst, hrest⟩
    · rintro ⟨⟨i, chain', d, rfl, hcls, here, target, walk⟩, hfirst, hrest⟩
      exact ⟨i, chain', d, rfl, hcls, here, ⟨target, hfirst⟩, walk, hrest⟩

/-! ## Trees without some classes -/

/-- A field's node is still a branch, unless its link leads to a removed class. -/
theorem isBranch_fieldNode_without {active : List String} {lead : String} :
    ((pool.without q).fieldNode active lead stop.field).isBranch = true ↔
      (pool.fieldNode active lead stop.field).isBranch = true ∧ ¬pool.LeadsTo q stop := by
  rw [isBranch_fieldNode, isBranch_fieldNode]
  simp only [target?_without_iff]
  constructor
  · rintro ⟨d, ⟨htarget, hother⟩, hfresh⟩
    exact ⟨⟨d, htarget, hfresh⟩, hother⟩
  · rintro ⟨⟨d, htarget, hfresh⟩, hother⟩
    exact ⟨d, ⟨htarget, hother⟩, hfresh⟩

/-- A walk from the root that comes to no class twice leads to the node of its last field. -/
theorem at?_tree_of_walk (h : Walk pool root chain (before ++ [last]))
    (hnodup : (visited (before ++ [last])).Nodup) :
    at? (pool.tree root) chain =
      some (pool.fieldNode (visited (before ++ [last])).reverse (leadOf before) last.field) := by
  have hclasses : (visited (before ++ [last]) ++ []).Nodup := by rwa [List.append_nil]
  obtain ⟨before', last', hstops, hat⟩ := at?_nodes_of_walk h hclasses ""
  obtain ⟨rfl, hlast⟩ := List.append_inj' hstops rfl
  obtain rfl := List.singleton_inj.1 hlast
  rwa [List.append_nil, String.empty_append] at hat

/-- Every node of a tree is at the end of a walk from the root that comes to no class twice. -/
theorem exists_walk_of_at?_tree {node : PathNode} (h : at? (pool.tree root) chain = some node) :
    ∃ before last, Walk pool root chain (before ++ [last]) ∧
      (visited (before ++ [last])).Nodup := by
  obtain ⟨stops, hwalk, hnodup⟩ := exists_walk_of_at?_nodes (List.nodup_singleton _) h
  obtain ⟨before, last, rfl, -⟩ := at?_nodes_of_walk hwalk hnodup ""
  rw [List.append_nil] at hnodup
  exact ⟨before, last, hwalk, hnodup⟩

/-- **Removing classes only turns branches into leaves.** The tree without the classes of a name
    is the tree with the branches of links to them cut, and the tree itself if the name is the
    root's own. So the nodes that are left are those with no such link on the way to them.
    Their names and paths are the same, and so is their kind, unless the node is itself the
    branch of such a link. -/
theorem tree_without (pool : ClassPool) (root : ModelClass) (q : String) :
    (pool.without q).tree root = pool.cut [q] root.fields (pool.tree root) ∧
    (q = root.qualified → (pool.without q).tree root = pool.tree root) ∧
    ∀ chain,
      ((∃ node, at? ((pool.without q).tree root) chain = some node) ↔
        (∃ node, at? (pool.tree root) chain = some node) ∧ ∃ before last,
          Walk pool root chain (before ++ [last]) ∧ ∀ stop ∈ before, ¬pool.LeadsTo q stop) ∧
      ∀ node node' before last, at? (pool.tree root) chain = some node →
        at? ((pool.without q).tree root) chain = some node' →
        Walk pool root chain (before ++ [last]) →
          node'.name = node.name ∧ node'.path = node.path ∧
            (node'.isBranch = true ↔ node.isBranch = true ∧ ¬pool.LeadsTo q last) := by
  refine ⟨?_, ?_, fun chain => ⟨⟨?_, ?_⟩, ?_⟩⟩
  · rw [tree, nodes_without, tree]
    exact nodes_append pool [q] [root.qualified] "" root.fields
  · rintro rfl
    rw [tree, nodes_without, tree]
    exact nodes_congr_active (by simp) "" root.fields
  · rintro ⟨node, hnode⟩
    obtain ⟨before, last, hwalk, hnodup⟩ := exists_walk_of_at?_tree hnode
    obtain ⟨hwalk, hnone⟩ := walk_without_iff.1 hwalk
    exact ⟨⟨_, at?_tree_of_walk hwalk hnodup⟩, before, last, hwalk, hnone⟩
  · rintro ⟨⟨node, hnode⟩, before, last, hwalk, hnone⟩
    obtain ⟨before', last', hwalk', hnodup⟩ := exists_walk_of_at?_tree hnode
    rw [hwalk'.unique hwalk] at hnodup
    exact ⟨_, at?_tree_of_walk (walk_without_iff.2 ⟨hwalk, hnone⟩) hnodup⟩
  · intro node node' before last hnode hnode' hwalk
    -- both nodes are built for the last field, with the same classes on the way
    obtain ⟨before', last', hwalk', hnodup⟩ := exists_walk_of_at?_tree hnode'
    obtain ⟨hfull, hnone⟩ := walk_without_iff.1 hwalk'
    obtain ⟨rfl, hlast⟩ := List.append_inj' (hfull.unique hwalk) rfl
    obtain rfl := List.singleton_inj.1 hlast
    obtain rfl := Option.some.inj (hnode.symm.trans (at?_tree_of_walk hwalk hnodup))
    obtain rfl := Option.some.inj (hnode'.symm.trans (at?_tree_of_walk hwalk' hnodup))
    refine ⟨?_, ?_, isBranch_fieldNode_without⟩
    · rw [name_fieldNode, name_fieldNode]
    · rw [path_fieldNode, path_fieldNode]

end QueryPaths.ClassPool
