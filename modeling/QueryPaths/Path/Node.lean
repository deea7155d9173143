/-! # Path nodes

    The query paths of a class form a tree: a leaf for a field with a path of
    its own, and a branch for a link whose class is expanded below it.
-/

namespace QueryPaths

/-- One generated item. -/
inductive PathNode where
  /-- A field that is queried by its own path. -/
  | leaf (name path : String)
  /-- A link: its own path, and the fields of the linked class below it. -/
  | branch (name path : String) (children : List PathNode)
  deriving Repr, Inhabited

namespace PathNode

/-- The identifier generated for the field. -/
def name : PathNode → String
  | leaf n _ => n
  | branch n _ _ => n

/-- The query path; for a branch, that of the link itself. -/
def path : PathNode → String
  | leaf _ p => p
  | branch _ p _ => p

/-- The nodes below; a leaf has none. -/
def children : PathNode → List PathNode
  | leaf _ _ => []
  | branch _ _ cs => cs

/-- Is the node an expanded link? -/
def isBranch : PathNode → Bool
  | leaf _ _ => false
  | branch _ _ _ => true

/-- **Induction over a node and all nodes below it.** -/
@[elab_as_elim, induction_eliminator]
theorem induct {motive : PathNode → Prop} (leaf : ∀ name path, motive (.leaf name path))
    (branch : ∀ name path children, (∀ node ∈ children, motive node) →
      motive (.branch name path children)) :
    ∀ node, motive node
  | .leaf name path => leaf name path
  | .branch name path children => branch name path children fun node _ => induct leaf branch node

/-! ## The tree as rows -/

mutual

/-- The node and all nodes below it, each with its depth, parents first. -/
def rows (depth : Nat) : PathNode → List (Nat × PathNode)
  | leaf n p => [(depth, leaf n p)]
  | branch n p cs => (depth, branch n p cs) :: rowsOf (depth + 1) cs

/-- **The rows of a list of siblings** and of everything below them, depth first. -/
def rowsOf (depth : Nat) : List PathNode → List (Nat × PathNode)
  | [] => []
  | node :: rest => rows depth node ++ rowsOf depth rest

end

end PathNode

end QueryPaths
