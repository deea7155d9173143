import QueryPaths.Emit.Renderer
import QueryPaths.Disk.Path

/-! # The index of written artifacts

    The index includes every written artifact in the module of its package.
    At each level the artifacts come first, then the modules, both in order.

    * **`packageSegments`**: the modules that a package stands for.
    * **`PackageTree`**: the artifacts sorted into nested packages.
    * **`PackageTree.items`**: the items of the index. An artifact and a module
      of one name cannot stand side by side.
    * **`indexText`**: the index of a list of written artifacts.
-/

namespace QueryPaths

open Source

/-- An artifact that was written to a file. -/
structure Written where
  /-- The dotted package of the artifact. -/
  package : String
  /-- The name of the generated module. -/
  typeName : String
  /-- The file it was written to, as the index names it. -/
  path : String
  deriving DecidableEq, Repr, Inhabited

/-- The order of artifacts: by package, then by type name. -/
def Written.le (a b : Written) : Bool :=
  a.package < b.package || (a.package == b.package && a.typeName ≤ b.typeName)

/-! ## Packages -/

/-- Admits every one of these names as an identifier, and keeps their spelling. -/
def admitSegments : List (List Char) → Except EmitError (List String)
  | [] => .ok []
  | segment :: rest => do
    let _ ← identifier (String.ofList segment)
    let segments ← admitSegments rest
    return String.ofList segment :: segments

/-- **The segments of a package**, outermost first. Each must be an identifier;
    the empty package has none. -/
def packageSegments (package : String) : Except EmitError (List String) :=
  if package = "" then .ok [] else admitSegments (package.toList.splitOn '.')

/-! ## Nested packages -/

/-- A package with its artifacts and the packages inside it. -/
inductive PackageTree where
  /-- The artifacts by type name and path, and the inner packages in order. -/
  | package (artifacts : List (String × String)) (modules : List (String × PackageTree))
  deriving Inhabited

namespace PackageTree

/-- A package with nothing in it. -/
def empty : PackageTree := .package [] []

/-- Changes the inner package of one name, making it in its place if need be. -/
def alter (name : String) (f : PackageTree → PackageTree) :
    List (String × PackageTree) → List (String × PackageTree)
  | [] => [(name, f empty)]
  | (n, t) :: rest =>
    if n = name then (n, f t) :: rest
    else if name < n then (name, f empty) :: (n, t) :: rest
    else (n, t) :: alter name f rest

/-- Adds an artifact below the given segments, behind those already there. -/
def insert (typeName path : String) : List String → PackageTree → PackageTree
  | [], .package artifacts modules => .package (artifacts ++ [(typeName, path)]) modules
  | segment :: rest, .package artifacts modules =>
    .package artifacts (alter segment (insert typeName path rest) modules)

/-- The inclusions of a package's artifacts. None may be called like one of the
    `modules` beside it. -/
def inclusions (scope modules : List String) :
    List (String × String) → Except EmitError (List Item)
  | [] => return []
  | (typeName, path) :: rest => do
    if modules.contains typeName then throw (.duplicateName scope typeName)
    let items ← inclusions scope modules rest
    return .inclusion path :: items

mutual

/-- **The items of a package**: its artifacts, then the packages inside it.
    `scope` are the packages on the way, outermost first. -/
def items (scope : List String) : PackageTree → Except EmitError (List Item)
  | .package artifacts modules => do
    let first ← inclusions scope (modules.map (·.1)) artifacts
    let rest ← moduleItems scope modules
    return first ++ rest

/-- The modules of the packages inside a package. -/
def moduleItems (scope : List String) :
    List (String × PackageTree) → Except EmitError (List Item)
  | [] => return []
  | (name, inner) :: rest => do
    let ident ← identifier name
    let body ← items (scope ++ [name]) inner
    let others ← moduleItems scope rest
    return .module [] ident body :: others

end

/-- The written artifacts sorted into their packages, in the order given. -/
def ofWritten : List Written → PackageTree → Except EmitError PackageTree
  | [], tree => return tree
  | w :: rest, tree => do
    let segments ← packageSegments w.package
    ofWritten rest (tree.insert w.typeName w.path segments)

end PackageTree

/-- **The index** of the written artifacts, whatever the order they are given in. -/
def indexItems (written : List Written) : Except EmitError (List Item) := do
  let tree ← PackageTree.ofWritten (written.mergeSort Written.le) .empty
  tree.items []

/-- The index as the text of a file. -/
def indexText (written : List Written) : Except EmitError String := do
  let items ← indexItems written
  return sourceText items

end QueryPaths
