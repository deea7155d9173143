import QueryPaths.Path.Trace
import QueryPaths.Proofs.Path.Composition
import QueryPaths.Proofs.Path.Removal

/-! # What is reported while a tree is built

    A branch is put together only after everything below it, but its class is entered before.
    So the events of a tree come in the order of its nodes, each before those below it: where a
    class is entered for a branch, and where a field is generated for a leaf, behind the reason
    why its link is not expanded, if it has one.

    * **`ClassPool.trail`**: the nodes of a finished tree in that order, each with the class and
      the field that it stands for.
    * **`ClassPool.reports`**: what is reported for one of them.
    * **`ClassPool.treeEvents_eq_trail`**: these are the events of a tree, and there are no others.
    * **`ClassPool.map_node_trail`**, **`ClassPool.builtFor_of_mem_trail`**: the trail has every
      node, and with it the field that the node was built for.
-/

namespace QueryPaths.ClassPool

open PathNode (preorder)

variable {pool : ClassPool} {active : List String} {lead : String} {c : ModelClass}

/-! ## Events of fields -/

/-- **The events of one field** of a class, under the classes on the way. -/
def oneFieldEvents (pool : ClassPool) (cls : String) (active : List String) (lead : String)
    (field : Field) : List Event :=
  match pool.resolve active field with
  | .resolved d =>
    .enterClass d.qualified d.fields.length (lead ++ field.name ++ ".") ::
      pool.fieldEvents d.qualified (d.qualified :: active) (lead ++ field.name ++ ".") d.fields
  | .unresolved =>
    [.unresolvedLink cls field.name (field.link.getD ""), .generateLeaf (lead ++ field.name)]
  | .cyclic => [.cyclicLink cls field.name (field.link.getD ""), .generateLeaf (lead ++ field.name)]
  | .scalar => [.generateLeaf (lead ++ field.name)]

/-- **Every field has events of its own**, in the order of the fields. -/
theorem fieldEvents_eq_flatMap (pool : ClassPool) (cls : String) (active : List String)
    (lead : String) (fields : List Field) :
    pool.fieldEvents cls active lead fields =
      fields.flatMap (pool.oneFieldEvents cls active lead) := by
  induction fields with
  | nil => simp [fieldEvents]
  | cons field rest ih =>
    rw [fieldEvents, ih, List.flatMap_cons]
    congr 1
    unfold oneFieldEvents
    split <;> simp_all

/-! ## The trail of a tree -/

mutual

/-- The trail of the node of one field. -/
def nodeTrail (pool : ClassPool) (c : ModelClass) : Field → PathNode → List (Stop × PathNode)
  | field, .leaf name path => [(⟨c, field⟩, .leaf name path)]
  | field, .branch name path children =>
    (⟨c, field⟩, .branch name path children) ::
      match pool.target? field with
      | some d => pool.trail d d.fields children
      | none => []

/-- **The trail of the nodes of some fields**: these nodes and all nodes below them, each before
    those below it, and with each the class and the field that it stands for. -/
def trail (pool : ClassPool) (c : ModelClass) : List Field → List PathNode → List (Stop × PathNode)
  | field :: fields, node :: rest => pool.nodeTrail c field node ++ pool.trail c fields rest
  | _, _ => []

end

/-- **The trail of a class's tree.** -/
def treeTrail (pool : ClassPool) (root : ModelClass) : List (Stop × PathNode) :=
  pool.trail root root.fields (pool.tree root)

theorem trail_map (g : Field → PathNode) (fields : List Field) :
    pool.trail c fields (fields.map g) = fields.flatMap fun f => pool.nodeTrail c f (g f) := by
  induction fields with
  | nil => rfl
  | cons f rest ih => rw [List.map_cons, trail, ih, List.flatMap_cons]

theorem trail_nodes (pool : ClassPool) (c : ModelClass) (active : List String) (lead : String)
    (fields : List Field) : pool.trail c fields (pool.nodes active lead fields) =
      fields.flatMap fun f => pool.nodeTrail c f (pool.fieldNode active lead f) := by
  rw [nodes_eq_map, trail_map]

/-- **Why a link is not expanded**: nothing is said of a scalar field. A link that the pool does
    not resolve is told apart from one to a class on the way. -/
def linkReasons (pool : ClassPool) (stop : Stop) : List Event :=
  match stop.field.link with
  | none => []
  | some target =>
    match pool.get? target with
    | none => [.unresolvedLink stop.cls.qualified stop.field.name target]
    | some _ => [.cyclicLink stop.cls.qualified stop.field.name target]

/-- **What is reported for a node** and the field that it stands for: that a class is entered
    below the path of a branch, or that a leaf is generated, behind the reason if there is one. -/
def reports (pool : ClassPool) : Stop × PathNode → List Event
  | (stop, .leaf _ path) => pool.linkReasons stop ++ [.generateLeaf path]
  | (stop, .branch _ path _) =>
    (pool.target? stop.field).toList.map fun d =>
      .enterClass d.qualified d.fields.length (path ++ ".")

/-- A field that is not expanded is reported as the leaf that is built for it. -/
theorem oneFieldEvents_of_no_target {f : Field}
    (h : ∀ d, pool.target? f = some d → d.qualified ∈ active) :
    pool.oneFieldEvents c.qualified active lead f =
      pool.linkReasons ⟨c, f⟩ ++ [.generateLeaf (lead ++ f.name)] := by
  unfold oneFieldEvents resolve linkReasons
  cases hlink : f.link with
  | none => rfl
  | some target =>
    cases hget : pool.get? target with
    | none => simp [hget]
    | some d =>
      have hd : d.qualified ∈ active := h d (by rw [target?, hlink, Option.bind_some, hget])
      simp [hget, hd]

/-- **The events of some fields are those of the trail** of the nodes that are built for them. -/
theorem fieldEvents_eq_trail (pool : ClassPool) (c : ModelClass) (active : List String)
    (lead : String) (fields : List Field) :
    pool.fieldEvents c.qualified active lead fields =
      (pool.trail c fields (pool.nodes active lead fields)).flatMap pool.reports := by
  induction active using pool.active_induct generalizing c lead fields with
  | step active ih =>
    rw [fieldEvents_eq_flatMap, trail_nodes, List.flatMap_assoc]
    refine List.flatMap_congr fun f _ => ?_
    rcases pool.fieldNode_cases active lead f with ⟨d, htarget, hfresh, hnode⟩ | ⟨hleaf, hnode⟩
    · -- the class is entered, and what is reported below it is known for one more class on the way
      have hbelow := ih f d htarget hfresh d (lead ++ f.name ++ ".") d.fields
      have hresolve := resolve_eq_resolved_iff_target?.2 ⟨htarget, hfresh⟩
      simp only [oneFieldEvents, hresolve, hbelow, hnode, nodeTrail, htarget, List.flatMap_cons,
        reports, Option.toList_some, List.map_cons, List.map_nil, List.cons_append, List.nil_append]
    · rw [oneFieldEvents_of_no_target hleaf, hnode]
      simp [nodeTrail, reports]

/-- **The events of building a tree**: its root is entered, and then comes the trail. -/
theorem treeEvents_eq_trail (pool : ClassPool) (root : ModelClass) :
    pool.treeEvents root = .enterClass root.qualified root.fields.length "" ::
      (pool.treeTrail root).flatMap pool.reports := by
  rw [treeEvents, fieldEvents_eq_trail, treeTrail, tree]

/-! ## What is on a trail -/

/-- **The trail has all nodes**, each before those below it. -/
theorem map_node_trail (pool : ClassPool) (c : ModelClass) (active : List String) (lead : String)
    (fields : List Field) : (pool.trail c fields (pool.nodes active lead fields)).map (·.2) =
      preorder (pool.nodes active lead fields) := by
  induction active using pool.active_induct generalizing c lead fields with
  | step active ih =>
    induction fields with
    | nil => simp [trail]
    | cons f rest ihrest =>
      rw [nodes_eq_map] at ihrest ⊢
      rw [List.map_cons, trail, List.map_append, ihrest, PathNode.preorder_cons]
      rw [← List.cons_append]
      congr 1
      rcases pool.fieldNode_cases active lead f with ⟨d, htarget, hfresh, hnode⟩ | ⟨-, hnode⟩
      · have hbelow := ih f d htarget hfresh d (lead ++ f.name ++ ".") d.fields
        simp only [hnode, nodeTrail, htarget, List.map_cons, hbelow, PathNode.children]
      · simp [hnode, nodeTrail, PathNode.children]

/-- **A node is built for a field** of a class if it is the field's node under some classes on the
    way, that one among them. -/
def BuiltFor (pool : ClassPool) (stop : Stop) (node : PathNode) : Prop :=
  stop.field ∈ stop.cls.fields ∧
    ∃ active lead, stop.cls.qualified ∈ active ∧ node = pool.fieldNode active lead stop.field

/-- **Each node of the trail was built for the field beside it.** -/
theorem builtFor_of_mem_trail {v : Stop × PathNode} (hactive : c.qualified ∈ active)
    (h : v ∈ pool.trail c c.fields (pool.nodes active lead c.fields)) : pool.BuiltFor v.1 v.2 := by
  induction active using pool.active_induct generalizing c lead with
  | step active ih =>
    rw [trail_nodes] at h
    obtain ⟨f, hf, hv⟩ := List.mem_flatMap.1 h
    have hhere : pool.BuiltFor ⟨c, f⟩ (pool.fieldNode active lead f) :=
      ⟨hf, active, lead, hactive, rfl⟩
    -- the node of the field itself, or one below it
    rcases pool.fieldNode_cases active lead f with ⟨d, htarget, hfresh, hnode⟩ | ⟨-, hnode⟩
    · rw [hnode, nodeTrail] at hv
      rcases List.mem_cons.1 hv with rfl | hbelow
      · rwa [hnode] at hhere
      · simp only [htarget] at hbelow
        exact ih f d htarget hfresh List.mem_cons_self hbelow
    · rw [hnode, nodeTrail] at hv
      obtain rfl := List.mem_singleton.1 hv
      rwa [hnode] at hhere

theorem builtFor_of_mem_treeTrail {root : ModelClass} :
    ∀ v ∈ pool.treeTrail root, pool.BuiltFor v.1 v.2 :=
  fun _ hv => builtFor_of_mem_trail (List.mem_singleton_self _) hv

theorem BuiltFor.exists_target {stop : Stop} {node : PathNode} (h : pool.BuiltFor stop node)
    (hbranch : node.isBranch = true) : ∃ d, pool.target? stop.field = some d := by
  obtain ⟨-, active, lead, -, rfl⟩ := h
  obtain ⟨d, htarget, -⟩ := (isBranch_fieldNode ..).1 hbranch
  exact ⟨d, htarget⟩

end QueryPaths.ClassPool
