import QueryPaths.Json.Value
import QueryPaths.Path.Node

/-! # Path trees as JSON

    Each node is an object that begins with its kind: a leaf with its name and
    its path, a branch with its name, its own path and its children.
-/

namespace QueryPaths.PathNode

open Json (Value)

mutual

/-- **A node** as a JSON value. -/
def dump : PathNode → Value
  | leaf name path =>
    .object [("kind", .string "leaf"), ("generated_name", .string name),
      ("path_value", .string path)]
  | branch name path children =>
    .object [("kind", .string "namespace"), ("generated_name", .string name),
      ("self_path_value", .string path), ("children", .array (dumpAll children))]

/-- Nodes as JSON values. -/
def dumpAll : List PathNode → List Value
  | [] => []
  | node :: rest => dump node :: dumpAll rest

end

/-- **A tree** as a JSON value. -/
def dumpTree (nodes : List PathNode) : Value := .array (dumpAll nodes)

end QueryPaths.PathNode
