import QueryPaths.Proofs.Path.Removal

/-! # Trees below links

    Below a link stands the tree of the linked class, with the path of the link in front of every
    path. It is the class's own tree but for the links that lead back to a class on the way: such a
    link may be expanded in the class's own tree, and is a plain field below the link.

    * **`PathNode.under`**: a node with a text in front of its path and of all paths below.
    * **`ClassPool.nodes_under`**: a longer lead stands in front of every path, and changes nothing
      else.
    * **`ClassPool.nodes_of_active`**: the nodes of a class are those of its own tree, cut.
    * **`ClassPool.nodes_eq_cut_tree`**: the same for any classes on the way, and for the nodes
      below any branch of a tree.
-/

namespace QueryPaths

open Name (constantName)

/-! ## Paths with a text in front -/

namespace PathNode

mutual

/-- **The node with a text in front of its path** and of all paths below it. -/
def under (front : String) : PathNode → PathNode
  | leaf name path => .leaf name (front ++ path)
  | branch name path children => .branch name (front ++ path) (allUnder front children)

/-- **Siblings with a text in front of all their paths.** -/
def allUnder (front : String) : List PathNode → List PathNode
  | [] => []
  | node :: rest => under front node :: allUnder front rest

end

theorem allUnder_eq_map (front : String) (nodes : List PathNode) :
    allUnder front nodes = nodes.map (under front) := by
  induction nodes with
  | nil => rfl
  | cons node rest ih => rw [allUnder, ih, List.map_cons]

@[simp] theorem under_leaf (front name path : String) :
    under front (.leaf name path) = .leaf name (front ++ path) := rfl

@[simp] theorem under_branch (front name path : String) (children : List PathNode) :
    under front (.branch name path children) =
      .branch name (front ++ path) (children.map (under front)) := by
  rw [under, allUnder_eq_map]

end PathNode

namespace ClassPool

open PathNode (at? under)

variable {pool : ClassPool} {active names : List String} {c : ModelClass}

/-- **A longer lead stands in front of every path.** -/
theorem nodes_under (pool : ClassPool) (active : List String) (front lead : String)
    (fields : List Field) :
    pool.nodes active (front ++ lead) fields =
      (pool.nodes active lead fields).map (under front) := by
  induction active using pool.active_induct generalizing lead fields with
  | step active ih =>
    rw [nodes_eq_map, nodes_eq_map, List.map_map]
    refine List.map_congr_left fun f _ => ?_
    rw [Function.comp_apply]
    rcases pool.fieldNode_cases active lead f with ⟨d, htarget, hfresh, hnode⟩ | ⟨hleaf, hnode⟩
    · have hbelow := ih f d htarget hfresh (lead ++ f.name ++ ".") d.fields
      rw [hnode, fieldNode_of_target htarget hfresh, PathNode.under_branch, ← hbelow]
      simp only [String.append_assoc]
    · rw [hnode, fieldNode_of_no_target hleaf, PathNode.under_leaf, String.append_assoc]

/-! ## The tree of a class below others -/

/-- **With some names on the way beside its own**, a class has the nodes of its own tree, with the
    branches to classes of these names cut. -/
theorem nodes_of_active (h : ∀ x, x ∈ active ↔ x ∈ names ∨ x = c.qualified) (lead : String) :
    pool.nodes active lead c.fields = pool.cut names c.fields ((pool.tree c).map (under lead)) := by
  have hsame : ∀ x, x ∈ active ↔ x ∈ names ++ [c.qualified] := by
    intro x
    rw [h, List.mem_append, List.mem_singleton]
  calc pool.nodes active lead c.fields
      = pool.nodes (names ++ [c.qualified]) lead c.fields := nodes_congr_active hsame lead c.fields
    _ = pool.cut names c.fields (pool.nodes [c.qualified] lead c.fields) :=
        nodes_append pool names [c.qualified] lead c.fields
    _ = pool.cut names c.fields (pool.nodes [c.qualified] (lead ++ "") c.fields) := by
        rw [String.append_empty]
    _ = pool.cut names c.fields ((pool.tree c).map (under lead)) := by rw [nodes_under, tree]

/-- **What is below a link is the linked class's own tree, under the path of the link.** With any
    classes on the way, its own among them, a class has the nodes of its own tree with the lead in
    front of every path, in which each branch of a link to a class on the way is a leaf of the same
    name and path. So the nodes below a branch of any tree are those of the linked class's own tree
    with the branch's path and a dot in front of every path, cut only at links that lead back to
    classes on the way from the root. -/
theorem nodes_eq_cut_tree (pool : ClassPool) :
    (∀ (c : ModelClass) (lead : String) (active : List String), c.qualified ∈ active →
      pool.nodes active lead c.fields =
        pool.cut active c.fields ((pool.tree c).map (under lead))) ∧
    ∀ (root : ModelClass) (chain : List Nat) (node : PathNode),
      at? (pool.tree root) chain = some node → node.isBranch = true →
        ∃ before last d, Walk pool root chain (before ++ [last]) ∧
          pool.target? last.field = some d ∧
          node.children = pool.cut (visited (before ++ [last])) d.fields
            ((pool.tree d).map (under (node.path ++ "."))) := by
  constructor
  · intro c lead active hc
    apply nodes_of_active
    intro x
    constructor
    · intro hx
      exact .inl hx
    · rintro (hx | rfl)
      · exact hx
      · exact hc
  · intro root chain node hnode hbranch
    obtain ⟨before, last, hwalk, hnodup⟩ := exists_walk_of_at?_tree hnode
    -- the node is the one built for the last field, with the classes of the walk on the way
    obtain rfl := Option.some.inj (hnode.symm.trans (at?_tree_of_walk hwalk hnodup))
    obtain ⟨d, htarget, hfresh⟩ := (isBranch_fieldNode ..).1 hbranch
    refine ⟨before, last, d, hwalk, htarget, ?_⟩
    rw [path_fieldNode, fieldNode_of_target htarget hfresh, PathNode.children]
    apply nodes_of_active
    intro x
    rw [List.mem_cons, List.mem_reverse, or_comm]

/-! ## A dog and its owner -/

/-- A class with a link to another one. -/
def owner : ModelClass := ((ModelClass.make "" "Owner").scalar "name").linkTo "dog" "Dog"

/-- A class with a link back, and one that does not resolve. -/
def hound : ModelClass := ((ModelClass.make "" "Dog").linkTo "owner" "Owner").linkTo "vet" "Vet"

/-- The pool of the owner and the dog. -/
def household : ClassPool := .ofList [owner, hound]

theorem get?_household : household.get? "Owner" = some owner ∧ household.get? "Dog" = some hound ∧
    household.get? "Vet" = none := by decide +kernel

theorem constantName_household : constantName "name" = "NAME" ∧ constantName "dog" = "DOG" ∧
    constantName "owner" = "OWNER" ∧ constantName "vet" = "VET" := by decide +kernel

theorem tree_owner : household.tree owner =
    [.leaf "NAME" "name",
      .branch "DOG" "dog" [.leaf "OWNER" "dog.owner", .leaf "VET" "dog.vet"]] := by
  simp [tree, nodes_cons, resolve, get?_household, constantName_household, hound, owner,
    ModelClass.make, ModelClass.scalar, ModelClass.linkTo, qualify]

theorem tree_hound : household.tree hound =
    [.branch "OWNER" "owner" [.leaf "NAME" "owner.name", .leaf "DOG" "owner.dog"],
      .leaf "VET" "vet"] := by
  simp [tree, nodes_cons, resolve, get?_household, constantName_household, hound, owner,
    ModelClass.make, ModelClass.scalar, ModelClass.linkTo, qualify]

/-- The dog's own tree without the branch of its owner. -/
theorem cut_tree_hound :
    household.cut ["Dog", "Owner"] hound.fields ((household.tree hound).map (under "dog.")) =
      [.leaf "OWNER" "dog.owner", .leaf "VET" "dog.vet"] := by
  rw [tree_hound]
  simp [cut, cutNode, target?, get?_household, hound, owner, ModelClass.make, ModelClass.scalar,
    ModelClass.linkTo, qualify]

/-- **Below the owner's dog the owner is not expanded again**, as it is in the dog's own tree. -/
theorem dog_of_owner :
    hound.qualified ∈ ["Dog", "Owner"] ∧
      household.nodes ["Dog", "Owner"] "dog." hound.fields =
        [.leaf "OWNER" "dog.owner", .leaf "VET" "dog.vet"] ∧
      at? (household.tree owner) [1] =
        some (.branch "DOG" "dog" [.leaf "OWNER" "dog.owner", .leaf "VET" "dog.vet"]) ∧
      ∃ before last d, Walk household owner [1] (before ++ [last]) ∧
        household.target? last.field = some d ∧
        [.leaf "OWNER" "dog.owner", .leaf "VET" "dog.vet"] =
          household.cut (visited (before ++ [last])) d.fields
            ((household.tree d).map (under "dog.")) := by
  have hdog : hound.qualified ∈ ["Dog", "Owner"] := by decide
  have hat : at? (household.tree owner) [1] =
      some (.branch "DOG" "dog" [.leaf "OWNER" "dog.owner", .leaf "VET" "dog.vet"]) := by
    rw [tree_owner]
    rfl
  obtain ⟨hown, hbelow⟩ := nodes_eq_cut_tree household
  refine ⟨hdog, ?_, hat, hbelow owner [1] _ hat rfl⟩
  rw [hown hound "dog." ["Dog", "Owner"] hdog, cut_tree_hound]

end ClassPool

end QueryPaths
