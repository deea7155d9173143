import Mathlib.Data.List.Nodup
import Mathlib.Data.List.TakeWhile
import QueryPaths.Proofs.Path.Reach

/-! # Paths that tell nodes apart

    The path of a node is that of the way to it with the node's own name behind it.
    If no name holds a dot and siblings have different names, a path says how to get
    to its node, so no two nodes of a tree have the same path.

    * **`PathNode.preorder`**, **`PathNode.paths`**: a list of nodes with all nodes below, depth
      first, and the paths of these.
    * **`PathNode.Composed`**: trees whose paths are composed of such names.
    * **`PathNode.Composed.nodup_paths`**, **`PathNode.eq_of_path_eq`**: the paths of
      such a tree are different, so each of them has one position.
    * **`CleanNames`**: what the field names of a class have to satisfy.
    * **`ClassPool.composed_nodes`**: trees of classes with clean names are composed.
-/

namespace QueryPaths

namespace PathNode

/-! ## All nodes of a tree -/

/-- **The nodes of a list of siblings** and all nodes below them, each before those below it. -/
def preorder (nodes : List PathNode) : List PathNode := (rowsOf 0 nodes).map (·.2)

theorem rows_eq_cons (depth : Nat) (node : PathNode) :
    rows depth node = (depth, node) :: rowsOf (depth + 1) node.children := by
  cases node <;> rfl

/-- How deep rows start makes no difference to their nodes. -/
theorem map_node_rows (node : PathNode) : ∀ depth,
    (rows depth node).map (·.2) = (rows 0 node).map (·.2) := by
  induction node with
  | leaf name path => intro depth; rfl
  | branch name path children ih =>
    intro depth
    -- both sides list the children at some depth
    have hchildren : ∀ d e, (rowsOf d children).map (·.2) = (rowsOf e children).map (·.2) := by
      intro d e
      induction children with
      | nil => rfl
      | cons first rest ihrest =>
        have hfirst := ih first List.mem_cons_self
        have hrest := ihrest fun node hnode => ih node (List.mem_cons_of_mem _ hnode)
        rw [rowsOf, rowsOf, List.map_append, List.map_append, hfirst d, hfirst e, hrest]
    rw [rows_eq_cons, rows_eq_cons, List.map_cons, List.map_cons]
    exact congrArg _ (hchildren (depth + 1) 1)

theorem map_node_rowsOf (depth : Nat) (nodes : List PathNode) :
    (rowsOf depth nodes).map (·.2) = preorder nodes := by
  induction nodes with
  | nil => rfl
  | cons node rest ih =>
    rw [preorder, rowsOf, rowsOf, List.map_append, List.map_append, map_node_rows node depth, ih]
    rfl

@[simp] theorem preorder_nil : preorder [] = [] := rfl

@[simp] theorem preorder_cons (node : PathNode) (rest : List PathNode) :
    preorder (node :: rest) = node :: (preorder node.children ++ preorder rest) := by
  rw [preorder, rowsOf, rows_eq_cons, List.map_append, List.map_cons, map_node_rowsOf,
    map_node_rowsOf, List.cons_append]

/-! ## All paths of a tree -/

/-- **The paths of a list of nodes** and of everything below them, depth first. -/
def paths (nodes : List PathNode) : List String := (rowsOf 0 nodes).map fun row => row.2.path

theorem paths_eq_map_preorder (nodes : List PathNode) :
    paths nodes = (preorder nodes).map path := by
  rw [paths, preorder, List.map_map]
  rfl

@[simp] theorem paths_nil : paths [] = [] := rfl

@[simp] theorem paths_cons (node : PathNode) (rest : List PathNode) :
    paths (node :: rest) = node.path :: (paths node.children ++ paths rest) := by
  simp only [paths_eq_map_preorder, preorder_cons, List.map_cons, List.map_append]

theorem paths_eq_flatMap (nodes : List PathNode) :
    paths nodes = nodes.flatMap fun node => node.path :: paths node.children := by
  induction nodes with
  | nil => rfl
  | cons node rest ih => rw [paths_cons, ih, List.flatMap_cons, List.cons_append]

/-! ## Positions -/

/-- A position leads to a node, and the further ones to a node below it. -/
theorem at?_cons_eq_some {nodes : List PathNode} {i : Nat} {chain : List Nat} {node : PathNode} :
    at? nodes (i :: chain) = some node ↔ ∃ first, nodes[i]? = some first ∧
      (chain = [] ∧ first = node ∨ at? first.children chain = some node) := by
  cases chain with
  | nil => simp [at?]
  | cons j rest => simp [at?, Option.bind_eq_some_iff]

theorem path_mem_paths {nodes : List PathNode} {chain : List Nat} {node : PathNode}
    (h : at? nodes chain = some node) : node.path ∈ paths nodes := by
  induction chain generalizing nodes with
  | nil => simp [at?] at h
  | cons i chain ih =>
    obtain ⟨first, hfirst, hnode⟩ := at?_cons_eq_some.1 h
    rw [paths_eq_flatMap]
    refine List.mem_flatMap.2 ⟨first, List.mem_of_getElem? hfirst, ?_⟩
    rcases hnode with ⟨-, rfl⟩ | hbelow
    · exact List.mem_cons_self
    · exact List.mem_cons_of_mem _ (ih hbelow)

/-- A node's path is that of the sibling at the first index of its position, or one below. -/
theorem path_mem_first {chain : List Nat} {first node : PathNode}
    (h : chain = [] ∧ first = node ∨ at? first.children chain = some node) :
    node.path ∈ first.path :: paths first.children := by
  rcases h with ⟨-, rfl⟩ | hbelow
  · exact List.mem_cons_self
  · exact List.mem_cons_of_mem _ (path_mem_paths hbelow)

/-- Where all paths are different, a path shows the first index. -/
theorem index_unique {nodes : List PathNode} (hnodup : (paths nodes).Nodup) {i j : Nat}
    {first first' : PathNode} (hfirst : nodes[i]? = some first) (hfirst' : nodes[j]? = some first')
    {path : String} (hmem : path ∈ first.path :: paths first.children)
    (hmem' : path ∈ first'.path :: paths first'.children) : i = j := by
  rw [paths_eq_flatMap, List.nodup_flatMap] at hnodup
  have hapart := List.pairwise_iff_getElem.1 hnodup.2
  obtain ⟨hi, rfl⟩ := List.getElem?_eq_some_iff.1 hfirst
  obtain ⟨hj, rfl⟩ := List.getElem?_eq_some_iff.1 hfirst'
  by_contra hne
  rcases Nat.lt_or_gt_of_ne hne with hlt | hlt
  · exact hapart i j hi hj hlt hmem hmem'
  · exact hapart j i hj hi hlt hmem' hmem

/-- **Where all paths are different, each has one position.** -/
theorem eq_of_path_eq {nodes : List PathNode} (hnodup : (paths nodes).Nodup)
    {chain chain' : List Nat} {node node' : PathNode} (h : at? nodes chain = some node)
    (h' : at? nodes chain' = some node') (hpath : node.path = node'.path) : chain = chain' := by
  induction chain generalizing nodes chain' with
  | nil => simp [at?] at h
  | cons i chain ih =>
    cases chain' with
    | nil => simp [at?] at h'
    | cons j chain' =>
      obtain ⟨first, hfirst, hnode⟩ := at?_cons_eq_some.1 h
      obtain ⟨first', hfirst', hnode'⟩ := at?_cons_eq_some.1 h'
      obtain rfl : i = j :=
        index_unique hnodup hfirst hfirst' (path_mem_first hnode) (hpath ▸ path_mem_first hnode')
      obtain rfl : first = first' := Option.some.inj (hfirst.symm.trans hfirst')
      -- a node's own path is none of those below it
      rw [paths_eq_flatMap, List.nodup_flatMap] at hnodup
      obtain ⟨hown, hbelow⟩ := List.nodup_cons.1 (hnodup.1 first (List.mem_of_getElem? hfirst))
      rcases hnode with ⟨rfl, rfl⟩ | hat
      · rcases hnode' with ⟨rfl, -⟩ | hat'
        · rfl
        · exact absurd (hpath ▸ path_mem_paths hat') hown
      · rcases hnode' with ⟨rfl, rfl⟩ | hat'
        · exact absurd (hpath ▸ path_mem_paths hat) hown
        · rw [ih hbelow hat hat']

/-! ## Composed paths -/

/-- **Trees whose paths are composed**: each sibling's path is the common lead with a
    name behind it that holds no dot, no two siblings have the same, and the path with
    a dot behind it is the lead of the nodes below. -/
inductive Composed : String → List PathNode → Prop where
  /-- There are no nodes. -/
  | nil (lead : String) : Composed lead []
  /-- The first node, and the others. -/
  | cons {lead name : String} {node : PathNode} {rest : List PathNode}
      (path : node.path = lead ++ name) (dotless : '.' ∉ name.toList)
      (fresh : ∀ other ∈ rest, other.path ≠ node.path)
      (below : Composed (node.path ++ ".") node.children) (others : Composed lead rest) :
      Composed lead (node :: rest)

/-- Is one path the other one, or one behind it? -/
def Behind (path other : String) : Prop := other = path ∨ ∃ tail, other = path ++ "." ++ tail

/-- The name at which a path goes on behind a lead. -/
def nameBehind (lead path : String) : List Char :=
  (path.toList.drop lead.toList.length).takeWhile (· ≠ '.')

/-- A path shows the name of each node on its way. -/
theorem nameBehind_of_behind {lead name path : String} (h : Behind (lead ++ name) path)
    (hname : '.' ∉ name.toList) : nameBehind lead path = name.toList := by
  have hall : ∀ c ∈ name.toList, decide (c ≠ '.') = true := by
    intro c hc
    rw [decide_eq_true_eq]
    rintro rfl
    exact hname hc
  rcases h with rfl | ⟨tail, rfl⟩
  · rw [nameBehind, String.toList_append, List.drop_left]
    exact List.takeWhile_eq_self_iff.2 hall
  · have hlist : (lead ++ name ++ "." ++ tail).toList =
        lead.toList ++ (name.toList ++ '.' :: tail.toList) := by simp
    rw [nameBehind, hlist, List.drop_left, List.takeWhile_append_of_pos hall]
    simp

variable {lead : String} {nodes : List PathNode}

theorem Composed.exists_name (h : Composed lead nodes) {node : PathNode} (hnode : node ∈ nodes) :
    ∃ name, node.path = lead ++ name ∧ '.' ∉ name.toList := by
  induction h with
  | nil => cases hnode
  | cons path dotless _ _ _ _ ih =>
    rcases List.mem_cons.1 hnode with rfl | hnode
    · exact ⟨_, path, dotless⟩
    · exact ih hnode

theorem Composed.exists_tail {path other : String} {child : PathNode}
    (h : Composed (path ++ ".") nodes) (hchild : child ∈ nodes) (hbehind : Behind child.path other) :
    ∃ tail, other = path ++ "." ++ tail := by
  obtain ⟨name, hname, -⟩ := h.exists_name hchild
  rcases hbehind with rfl | ⟨tail, rfl⟩
  · exact ⟨name, hname⟩
  · refine ⟨name ++ "." ++ tail, ?_⟩
    rw [hname]
    simp only [String.append_assoc]

/-- **Every path lies behind that of a sibling.** -/
theorem Composed.exists_behind (h : Composed lead nodes) {path : String} (hpath : path ∈ paths nodes) :
    ∃ node ∈ nodes, Behind node.path path := by
  induction h with
  | nil => cases hpath
  | @cons lead name node rest _ _ _ below _ ihbelow ihothers =>
    rw [paths_cons] at hpath
    rcases List.mem_cons.1 hpath with rfl | hpath
    · exact ⟨node, List.mem_cons_self, .inl rfl⟩
    · rcases List.mem_append.1 hpath with hbelow | hothers
      · obtain ⟨child, hchild, hbehind⟩ := ihbelow hbelow
        exact ⟨node, List.mem_cons_self, .inr (below.exists_tail hchild hbehind)⟩
      · obtain ⟨other, hother, hbehind⟩ := ihothers hothers
        exact ⟨other, List.mem_cons_of_mem _ hother, hbehind⟩

/-- **The paths of a composed tree are all different.** -/
theorem Composed.nodup_paths (h : Composed lead nodes) : (paths nodes).Nodup := by
  induction h with
  | nil => exact List.nodup_nil
  | @cons lead name node rest path dotless fresh below others ihbelow ihothers =>
    have hbelow : ∀ p ∈ PathNode.paths node.children, ∃ tail, p = node.path ++ "." ++ tail := by
      intro p hp
      obtain ⟨child, hchild, hbehind⟩ := below.exists_behind hp
      exact below.exists_tail hchild hbehind
    -- a path of another sibling shows another name behind the lead
    have hapart : ∀ p, Behind node.path p → p ∉ paths rest := by
      intro p hp hmem
      obtain ⟨other, hother, hbehind⟩ := others.exists_behind hmem
      obtain ⟨name', hname', hdotless'⟩ := others.exists_name hother
      rw [path] at hp
      rw [hname'] at hbehind
      have hsame : name'.toList = name.toList := by
        rw [← nameBehind_of_behind hbehind hdotless', nameBehind_of_behind hp dotless]
      apply fresh other hother
      rw [hname', path, String.toList_injective hsame]
    -- a path below the node is longer than its own
    have hlonger : node.path ∉ PathNode.paths node.children := by
      intro hmem
      obtain ⟨tail, heq⟩ := hbelow _ hmem
      have hlength := congrArg String.length heq
      have hdot : ".".length = 1 := rfl
      simp only [String.length_append] at hlength
      omega
    rw [paths_cons, List.nodup_cons, List.nodup_append]
    refine ⟨?_, ihbelow, ihothers, ?_⟩
    · intro hmem
      rcases List.mem_append.1 hmem with hmem | hmem
      · exact hlonger hmem
      · exact hapart _ (.inl rfl) hmem
    · rintro p hp q hq rfl
      exact hapart p (.inr (hbelow p hp)) hq

end PathNode

/-! ## Classes with clean names -/

/-- **Field names that make paths unique**: no two fields of the class have the same,
    and none of them holds a dot. -/
structure CleanNames (c : ModelClass) : Prop where
  /-- No two fields have the same raw name. -/
  nodup : (c.fields.map (·.name)).Nodup
  /-- No raw name holds the separator of paths. -/
  dotless : ∀ f ∈ c.fields, '.' ∉ f.name.toList

namespace ClassPool

open PathNode (Composed)

variable {pool : ClassPool} {active : List String} {c : ModelClass}

/-- The nodes of some fields are composed if those below each of them are. -/
theorem composed_map_fieldNode {fields : List Field} {lead : String}
    (hnodup : (fields.map (·.name)).Nodup) (hdotless : ∀ f ∈ fields, '.' ∉ f.name.toList)
    (hbelow : ∀ f ∈ fields, Composed (lead ++ f.name ++ ".") (pool.fieldNode active lead f).children) :
    Composed lead (fields.map (pool.fieldNode active lead)) := by
  induction fields with
  | nil => exact .nil lead
  | cons f rest ih =>
    rw [List.map_cons, List.nodup_cons] at hnodup
    obtain ⟨hnew, hnodup⟩ := hnodup
    have hothers := ih hnodup (fun g hg => hdotless g (List.mem_cons_of_mem _ hg))
      fun g hg => hbelow g (List.mem_cons_of_mem _ hg)
    have hfirst := hbelow f List.mem_cons_self
    rw [List.map_cons]
    rw [← path_fieldNode pool active lead f] at hfirst
    refine .cons (path_fieldNode ..) (hdotless f List.mem_cons_self) ?_ hfirst hothers
    -- siblings of one path would be fields of one name
    intro other hother heq
    obtain ⟨g, hg, rfl⟩ := List.mem_map.1 hother
    rw [path_fieldNode, path_fieldNode] at heq
    have hname : g.name = f.name := (String.append_right_inj lead).1 heq
    exact hnew (hname ▸ List.mem_map_of_mem hg)

/-- **A tree is composed if all its classes have clean names**, by induction on the
    number of classes that are not on the way. -/
theorem composed_nodes (hc : CleanNames c) (hbelow : ∀ e, pool.Expanded active c e → CleanNames e)
    (lead : String) : Composed lead (pool.nodes active lead c.fields) := by
  induction hn : pool.unvisited active using Nat.strongRecOn generalizing active c lead with
  | _ n ih =>
    rw [nodes_eq_map]
    apply composed_map_fieldNode hc.nodup hc.dotless
    intro f hf
    rcases pool.fieldNode_cases active lead f with ⟨d, htarget, hfresh, hnode⟩ | ⟨-, hnode⟩
    · -- below an expanded link are the fields of its target
      have hlink : pool.LinksOutside active c d := ⟨⟨f, hf, htarget⟩, hfresh⟩
      rw [hnode]
      apply ih _ (hn ▸ hlink.unvisited_lt) (hbelow d (.first hlink)) _ _ rfl
      intro e he
      exact hbelow e (.inner hlink he)
    · rw [hnode]
      exact .nil _

end ClassPool

end QueryPaths
