import Mathlib.Data.List.Nodup
import QueryPaths.Path.Tree

/-! # Link walks

    A link walk starts at a class, takes one field at each stop, and goes on to
    the class that the field's link resolves to. A walk is given by the
    positions of the fields, and so is a node of a path tree.

    * **`ClassPool.target?`**: the class that a field's link resolves to.
    * **`ClassPool.Walk`**: the walks of a pool, with the stops they make.
    * **`PathNode.at?`**: the node at a chain of positions.
    * **`ClassPool.at?_nodes_of_walk`**: a walk that comes to no class twice
      leads to a node, and that node is built with exactly the classes of the
      walk on the way.
    * **`ClassPool.tree_addresses_walks`**: the nodes of a tree are the walks
      from the root that come to no class twice.
-/

namespace QueryPaths

open Name (constantName)

namespace PathNode

/-- **The node at a chain of positions**: the first position is that of a node
    among `nodes`, and each further one that of a child of the node before. -/
def at? : List PathNode → List Nat → Option PathNode
  | _, [] => none
  | nodes, [i] => nodes[i]?
  | nodes, i :: j :: rest => nodes[i]?.bind fun node => at? node.children (j :: rest)

end PathNode

namespace ClassPool

/-! ## Targets of links -/

/-- **The class that a field leads to**: none for a scalar field and for a link
    that the pool does not resolve. -/
def target? (pool : ClassPool) (field : Field) : Option ModelClass :=
  field.link.bind pool.get?

theorem target?_unique {pool : ClassPool} {f g : Field} {c d : ModelClass}
    (hc : pool.target? f = some c) (hd : pool.target? g = some d)
    (hq : c.qualified = d.qualified) : c = d := by
  obtain ⟨p, -, hp⟩ := Option.bind_eq_some_iff.1 hc
  obtain ⟨q, -, hq'⟩ := Option.bind_eq_some_iff.1 hd
  have hpq : p = q := by rw [← (mem_of_get? hp).2, ← (mem_of_get? hq').2, hq]
  rw [hpq, hq'] at hp
  exact (Option.some.inj hp).symm

/-- **A link is expanded** exactly if its target is not on the way. -/
theorem resolve_eq_resolved_iff_target? {pool : ClassPool} {active : List String}
    {field : Field} {c : ModelClass} :
    pool.resolve active field = .resolved c ↔
      pool.target? field = some c ∧ c.qualified ∉ active := by
  rw [resolve_eq_resolved_iff, target?, Option.bind_eq_some_iff]
  constructor
  · intro h
    obtain ⟨q, hlink, hget, hfresh⟩ := h
    exact ⟨⟨q, hlink, hget⟩, hfresh⟩
  · intro h
    obtain ⟨⟨q, hlink, hget⟩, hfresh⟩ := h
    exact ⟨q, hlink, hget, hfresh⟩

/-! ## The node of one field -/

/-- **The node that is built for one field** under the classes on the way. -/
def fieldNode (pool : ClassPool) (active : List String) (lead : String) (field : Field) :
    PathNode :=
  match pool.resolve active field with
  | .resolved target =>
    .branch (constantName field.name) (lead ++ field.name)
      (pool.nodes (target.qualified :: active) (lead ++ field.name ++ ".") target.fields)
  | _ => .leaf (constantName field.name) (lead ++ field.name)

/-- **Every field has a node of its own**, in the order of the fields. -/
theorem nodes_eq_map (pool : ClassPool) (active : List String) (lead : String)
    (fields : List Field) :
    pool.nodes active lead fields = fields.map (pool.fieldNode active lead) := by
  induction fields with
  | nil => simp
  | cons field rest ih =>
    rw [nodes_cons, ih]
    rfl

/-- An expanded link is a branch with the target's fields below it. -/
theorem fieldNode_of_target {pool : ClassPool} {active : List String} {lead : String}
    {field : Field} {d : ModelClass} (hd : pool.target? field = some d)
    (hfresh : d.qualified ∉ active) :
    pool.fieldNode active lead field =
      .branch (constantName field.name) (lead ++ field.name)
        (pool.nodes (d.qualified :: active) (lead ++ field.name ++ ".") d.fields) := by
  have h := resolve_eq_resolved_iff_target?.2 ⟨hd, hfresh⟩
  simp only [fieldNode, h]

theorem fieldNode_of_no_target {pool : ClassPool} {active : List String} {lead : String}
    {field : Field} (h : ∀ d, pool.target? field = some d → d.qualified ∈ active) :
    pool.fieldNode active lead field = .leaf (constantName field.name) (lead ++ field.name) := by
  unfold fieldNode
  split
  · next d hd =>
    obtain ⟨htarget, hfresh⟩ := resolve_eq_resolved_iff_target?.1 hd
    exact absurd (h d htarget) hfresh
  · rfl

/-- **Every field's node** is a branch with the target's nodes below it, or a leaf. -/
theorem fieldNode_cases (pool : ClassPool) (active : List String) (lead : String) (field : Field) :
    (∃ d, pool.target? field = some d ∧ d.qualified ∉ active ∧ pool.fieldNode active lead field =
      .branch (constantName field.name) (lead ++ field.name)
        (pool.nodes (d.qualified :: active) (lead ++ field.name ++ ".") d.fields)) ∨
    (∀ d, pool.target? field = some d → d.qualified ∈ active) ∧
      pool.fieldNode active lead field = .leaf (constantName field.name) (lead ++ field.name) := by
  by_cases hexp : ∃ d, pool.target? field = some d ∧ d.qualified ∉ active
  · obtain ⟨d, htarget, hfresh⟩ := hexp
    exact .inl ⟨d, htarget, hfresh, fieldNode_of_target htarget hfresh⟩
  · have hleaf : ∀ d, pool.target? field = some d → d.qualified ∈ active := by
      intro d hd
      by_contra hfresh
      exact hexp ⟨d, hd, hfresh⟩
    exact .inr ⟨hleaf, fieldNode_of_no_target hleaf⟩

@[simp] theorem name_fieldNode (pool : ClassPool) (active : List String) (lead : String)
    (field : Field) : (pool.fieldNode active lead field).name = constantName field.name := by
  unfold fieldNode
  split <;> rfl

@[simp] theorem path_fieldNode (pool : ClassPool) (active : List String) (lead : String)
    (field : Field) : (pool.fieldNode active lead field).path = lead ++ field.name := by
  unfold fieldNode
  split <;> rfl

@[simp] theorem map_name_nodes (pool : ClassPool) (active : List String) (lead : String)
    (fields : List Field) :
    (pool.nodes active lead fields).map PathNode.name = fields.map (constantName ·.name) := by
  simp [nodes_eq_map]

@[simp] theorem map_path_nodes (pool : ClassPool) (active : List String) (lead : String)
    (fields : List Field) :
    (pool.nodes active lead fields).map PathNode.path = fields.map (lead ++ ·.name) := by
  simp [nodes_eq_map]

/-- A field's node is a branch exactly if its target exists and is not on the way. -/
theorem isBranch_fieldNode (pool : ClassPool) (active : List String) (lead : String)
    (field : Field) : (pool.fieldNode active lead field).isBranch = true ↔
      ∃ d, pool.target? field = some d ∧ d.qualified ∉ active := by
  constructor
  · intro h
    rcases pool.fieldNode_cases active lead field with ⟨d, hd, hfresh, -⟩ | ⟨-, hnode⟩
    · exact ⟨d, hd, hfresh⟩
    · rw [hnode] at h
      exact absurd h (by simp [PathNode.isBranch])
  · intro h
    obtain ⟨d, hd, hfresh⟩ := h
    rw [fieldNode_of_target hd hfresh]
    rfl

/-! ## Walks -/

/-- A stop of a walk: a class and the field that is taken there. -/
structure Stop where
  /-- The class. -/
  cls : ModelClass
  /-- One of its fields. -/
  field : Field

/-- The qualified names of the classes along a walk. -/
def visited (stops : List Stop) : List String := stops.map (·.cls.qualified)

/-- The raw names of the fields along a walk. -/
def taken (stops : List Stop) : List String := stops.map (·.field.name)

/-- **A link walk** from a class: at each stop the field at the given position is
    taken, and its target is the next stop. The last field need not lead
    anywhere. -/
inductive Walk (pool : ClassPool) : ModelClass → List Nat → List Stop → Prop where
  /-- The walk that only takes a field of its first class. -/
  | last {c : ModelClass} {f : Field} {i : Nat} (here : c.fields[i]? = some f) :
      Walk pool c [i] [⟨c, f⟩]
  /-- A walk that goes on through the target of its first field. -/
  | follow {c d : ModelClass} {f : Field} {i : Nat} {chain : List Nat} {stops : List Stop}
      (here : c.fields[i]? = some f) (target : pool.target? f = some d)
      (rest : Walk pool d chain stops) : Walk pool c (i :: chain) (⟨c, f⟩ :: stops)

/-- A walk takes at least one field, and its first stop is where it starts. -/
theorem Walk.exists_cons {pool : ClassPool} {c : ModelClass} {chain : List Nat}
    {stops : List Stop} (h : Walk pool c chain stops) :
    ∃ i chain' f stops', chain = i :: chain' ∧ stops = ⟨c, f⟩ :: stops' := by
  cases h with
  | last here => exact ⟨_, _, _, _, rfl, rfl⟩
  | follow here target rest => exact ⟨_, _, _, _, rfl, rfl⟩

/-- **The positions determine the walk.** -/
theorem Walk.unique {pool : ClassPool} {c : ModelClass} {chain : List Nat}
    {stops stops' : List Stop} (h : Walk pool c chain stops) (h' : Walk pool c chain stops') :
    stops = stops' := by
  induction h generalizing stops' with
  | last here =>
    cases h' with
    | last here' => rw [Option.some.inj (here.symm.trans here')]
    | follow _ _ rest' =>
      obtain ⟨_, _, _, _, hnil, -⟩ := rest'.exists_cons
      exact absurd hnil (by simp)
  | follow here target rest ih =>
    cases h' with
    | last _ =>
      obtain ⟨_, _, _, _, hnil, -⟩ := rest.exists_cons
      exact absurd hnil (by simp)
    | follow here' target' rest' =>
      -- the same position is the same field, and the same field has the same target
      have hf := Option.some.inj (here.symm.trans here')
      subst hf
      have hd := Option.some.inj (target.symm.trans target')
      subst hd
      rw [ih rest']

/-! ## Walks and nodes -/

/-- The text in front of the last name of a walk's path. -/
def leadOf : List Stop → String
  | [] => ""
  | stop :: rest => stop.field.name ++ "." ++ leadOf rest

theorem leadOf_append_name (before : List Stop) (last : Stop) :
    leadOf before ++ last.field.name = ".".intercalate (taken (before ++ [last])) := by
  induction before with
  | nil => simp [leadOf, taken]
  | cons stop rest ih =>
    have hne : taken (rest ++ [last]) ≠ [] := by simp [taken]
    calc leadOf (stop :: rest) ++ last.field.name
        = stop.field.name ++ "." ++ (leadOf rest ++ last.field.name) := by
          simp [leadOf, String.append_assoc]
      _ = stop.field.name ++ "." ++ ".".intercalate (taken (rest ++ [last])) := by rw [ih]
      _ = ".".intercalate (taken (stop :: rest ++ [last])) := by
          rw [← String.intercalate_cons_of_ne_nil hne]
          rfl

/-- **A walk leads to a node**, if it comes to no class twice and to none of those
    `above` its first class. The node is the one built for the last field with
    all classes of the walk on the way. -/
theorem at?_nodes_of_walk {pool : ClassPool} {c : ModelClass} {chain : List Nat}
    {stops : List Stop} (h : Walk pool c chain stops) {above : List String}
    (hnodup : (visited stops ++ above).Nodup) (lead : String) :
    ∃ before last, stops = before ++ [last] ∧
      PathNode.at? (pool.nodes (c.qualified :: above) lead c.fields) chain =
        some (pool.fieldNode ((visited stops).reverse ++ above) (lead ++ leadOf before)
          last.field) := by
  induction h generalizing above lead with
  | @last c f i here =>
    refine ⟨[], ⟨c, f⟩, rfl, ?_⟩
    simp [PathNode.at?, nodes_eq_map, here, visited, leadOf]
  | @follow c d f i chain stops here target rest ih =>
    -- behind the first stop its class is one more of those above
    have hnodup' : (visited stops ++ c.qualified :: above).Nodup := List.nodup_middle.2 hnodup
    obtain ⟨before, last, rfl, hat⟩ := ih hnodup' (lead ++ f.name ++ ".")
    have hfresh : d.qualified ∉ c.qualified :: above := by
      obtain ⟨_, _, _, stops', -, hstops⟩ := rest.exists_cons
      rw [hstops] at hnodup'
      intro hmem
      exact (List.nodup_cons.1 hnodup').1 (List.mem_append_right _ hmem)
    refine ⟨⟨c, f⟩ :: before, last, rfl, ?_⟩
    obtain ⟨j, chain', _, _, rfl, -⟩ := rest.exists_cons
    have hnode : (pool.nodes (c.qualified :: above) lead c.fields)[i]? =
        some (pool.fieldNode (c.qualified :: above) lead f) := by
      simp [nodes_eq_map, here]
    rw [PathNode.at?, hnode, Option.bind_some, fieldNode_of_target target hfresh]
    simpa [PathNode.children, visited, leadOf, String.append_assoc] using hat

/-- **Every node is at the end of a walk** that comes to no class twice and to none
    of those above its first class. -/
theorem exists_walk_of_at?_nodes {pool : ClassPool} {c : ModelClass} {above : List String}
    (hactive : (c.qualified :: above).Nodup) {lead : String} {chain : List Nat} {node : PathNode}
    (h : PathNode.at? (pool.nodes (c.qualified :: above) lead c.fields) chain = some node) :
    ∃ stops, Walk pool c chain stops ∧ (visited stops ++ above).Nodup := by
  induction chain generalizing c above lead with
  | nil => simp [PathNode.at?] at h
  | cons i chain ih =>
    cases chain with
    | nil =>
      rw [PathNode.at?, nodes_eq_map, List.getElem?_map, Option.map_eq_some_iff] at h
      obtain ⟨f, here, -⟩ := h
      exact ⟨[⟨c, f⟩], .last here, by simpa [visited] using hactive⟩
    | cons j rest =>
      rw [PathNode.at?, nodes_eq_map, List.getElem?_map, Option.bind_eq_some_iff] at h
      obtain ⟨inner, hinner, hat⟩ := h
      obtain ⟨f, here, rfl⟩ := Option.map_eq_some_iff.1 hinner
      -- a leaf has no children, so the field's link was expanded
      rcases pool.fieldNode_cases (c.qualified :: above) lead f with
        ⟨d, target, hfresh, hnode⟩ | ⟨-, hnode⟩
      · rw [hnode] at hat
        obtain ⟨stops, hwalk, hnodup⟩ :=
          ih (List.nodup_cons.2 ⟨hfresh, hactive⟩) (by simpa [PathNode.children] using hat)
        refine ⟨⟨c, f⟩ :: stops, .follow here target hwalk, ?_⟩
        exact List.nodup_middle.1 hnodup
      · rw [hnode] at hat
        cases rest <;> simp [PathNode.children, PathNode.at?] at hat

/-! ## The tree of a root -/

/-- What is said of the node at the end of a walk. -/
structure EndsAt (pool : ClassPool) (before : List Stop) (last : Stop) (node : PathNode) :
    Prop where
  /-- The path consists of all field names of the walk. -/
  path : node.path = ".".intercalate (taken (before ++ [last]))
  /-- The generated name depends on the last field alone. -/
  name : node.name = constantName last.field.name
  /-- The node is a branch exactly if the last field leads to a class to which
      the walk has not come yet. -/
  isBranch_iff : node.isBranch = true ↔
    ∃ d, pool.target? last.field = some d ∧ d.qualified ∉ visited (before ++ [last])
  /-- Below a branch there is one node for each field of that class, in order. -/
  children : ∀ d, pool.target? last.field = some d → d.qualified ∉ visited (before ++ [last]) →
    node.children.map PathNode.path = d.fields.map (node.path ++ "." ++ ·.name)

/-- The node built at the end of a walk from the root is as described. -/
theorem endsAt_fieldNode (pool : ClassPool) (before : List Stop) (last : Stop) :
    pool.EndsAt before last
      (pool.fieldNode ((visited (before ++ [last])).reverse) (leadOf before) last.field) where
  path := by rw [path_fieldNode, leadOf_append_name]
  name := name_fieldNode ..
  isBranch_iff := by simp [isBranch_fieldNode]
  children := by
    intro d target hfresh
    rw [fieldNode_of_target target (by simpa using hfresh)]
    exact map_path_nodes ..

/-- **The path tree is the set of link walks that come to no class twice.** A chain
    of positions leads to a node exactly if it is such a walk from the root, the
    node is the one that the walk describes, and the nodes at the top are those
    of the root's fields, in order. -/
theorem tree_addresses_walks (pool : ClassPool) (root : ModelClass) :
    (pool.tree root).map PathNode.path = root.fields.map (·.name) ∧
    ∀ chain,
      ((∃ node, PathNode.at? (pool.tree root) chain = some node) ↔
        ∃ stops, Walk pool root chain stops ∧ (visited stops).Nodup) ∧
      ∀ node before last, PathNode.at? (pool.tree root) chain = some node →
        Walk pool root chain (before ++ [last]) → pool.EndsAt before last node := by
  have hroot : [root.qualified].Nodup := List.nodup_singleton _
  refine ⟨by simp [tree], fun chain => ⟨⟨?_, ?_⟩, ?_⟩⟩
  · intro h
    obtain ⟨node, h⟩ := h
    obtain ⟨stops, hwalk, hnodup⟩ := exists_walk_of_at?_nodes hroot h
    exact ⟨stops, hwalk, by simpa using hnodup⟩
  · intro h
    obtain ⟨stops, hwalk, hnodup⟩ := h
    have hnodup' : (visited stops ++ []).Nodup := by simpa using hnodup
    obtain ⟨_, _, -, hat⟩ := at?_nodes_of_walk hwalk hnodup' ""
    exact ⟨_, hat⟩
  · intro node before last h hwalk
    obtain ⟨stops, hwalk', hnodup⟩ := exists_walk_of_at?_nodes hroot h
    obtain ⟨before', last', rfl, hat⟩ := at?_nodes_of_walk hwalk' hnodup ""
    -- the positions determine the walk, so this one is the one that leads to the node
    obtain ⟨rfl, hlast⟩ := List.append_inj' (hwalk.unique hwalk') rfl
    obtain rfl : last = last' := List.singleton_inj.1 hlast
    have hnode := Option.some.inj (h.symm.trans hat)
    rw [hnode]
    simpa using pool.endsAt_fieldNode before last

end ClassPool

end QueryPaths
