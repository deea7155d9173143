import QueryPaths.Emit.Error
import QueryPaths.Path.Node
import QueryPaths.Source.Item

/-! # Rendering a path tree

    The artifact of a class is a module of string constants, one for each leaf
    of its path tree. A branch becomes a module inside, whose first constant
    holds the path of the link itself.

    * **`identifier`** admits a name into the source.
    * **`Renderer.siblings`** renders one scope. A name may stand in a scope
      once; inside a branch the self constant is already taken.
    * **`Renderer.render`** renders the whole artifact.
-/

namespace QueryPaths

open Source

/-- Where an artifact belongs and what it is generated for. -/
structure Target where
  /-- The dotted package; empty for the root package. -/
  package : String
  /-- The name of the generated module. -/
  typeName : String
  /-- The qualified name of the class. -/
  source : String
  deriving DecidableEq, Repr, Inhabited

/-- How artifacts are rendered. -/
structure Renderer where
  /-- The name of the constant that holds a branch's own path. -/
  selfConst : String := "SELF"
  /-- Are modules documented? -/
  docs : Bool := true
  deriving DecidableEq, Repr, Inhabited

/-- **The identifier that a name stands for.** -/
def identifier (name : String) : Except EmitError Ident :=
  match Ident.parse? name with
  | some ident => .ok ident
  | none => .error (.invalidIdent name)

namespace Renderer

/-- The documentation of an artifact. -/
def artifactDoc (r : Renderer) (target : Target) : List Attribute :=
  if r.docs then
    [.doc (" Query paths of every queryable field in `" ++ target.source ++ "`.")]
  else []

/-- The documentation of a branch. -/
def branchDoc (r : Renderer) (path : String) : List Attribute :=
  if r.docs then [.doc (" Fields reached through `" ++ path ++ "`.")] else []

mutual

/-- One node in the scope that the names `scope` lead to, outermost first. -/
def node (r : Renderer) (scope : List String) : PathNode → Except EmitError Item
  | .leaf name path => do
    let ident ← identifier name
    return .constant ident path
  | .branch name path children => do
    let ident ← identifier name
    let selfIdent ← identifier r.selfConst
    let items ← r.siblings (scope ++ [name]) [r.selfConst] children
    return .module (r.branchDoc path) ident (.constant selfIdent path :: items)

/-- **The nodes of one scope**, in order. `taken` are the names that the scope
    already holds. -/
def siblings (r : Renderer) (scope taken : List String) :
    List PathNode → Except EmitError (List Item)
  | [] => return []
  | first :: rest => do
    if taken.contains first.name then throw (.duplicateName scope first.name)
    let item ← r.node scope first
    let items ← r.siblings scope (first.name :: taken) rest
    return item :: items

end

/-- **The artifact of a path tree.** The type name is checked before the tree. -/
def render (r : Renderer) (target : Target) (tree : List PathNode) : Except EmitError Item := do
  let ident ← identifier target.typeName
  let items ← r.siblings [target.typeName] [] tree
  return .module (r.artifactDoc target ++ [.allow "non_snake_case"]) ident items

/-- The artifact as the text of a file. -/
def renderText (r : Renderer) (target : Target) (tree : List PathNode) :
    Except EmitError String := do
  let item ← r.render target tree
  return sourceText [item]

end Renderer

end QueryPaths
