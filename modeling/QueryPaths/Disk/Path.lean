import QueryPaths.Disk.Fault

/-! # Path texts

    A path is the text that a user writes: names between slashes. Operations on
    path texts touch no disk and keep what was written wherever they can, since
    paths reappear in messages and in the index. Path texts are Unicode; a path of
    other bytes is a `RawPath`.

    * **`join`** puts a path below another; an absolute one replaces it.
    * **`absolute`** completes a path with the working directory. Names `..`
      stay, since only the disk can tell what they mean.
    * **`ancestors`**, **`parent?`**: the path and the directories above it.
-/

namespace QueryPaths.Disk.Path

/-! ## Pieces -/

/-- The pieces between slashes, empty ones and `.` included. -/
def pieces (path : String) : List (List Char) := path.toList.splitOn '/'

/-- Does a piece name something? The empty piece and `.` stay where they are. -/
def isName (piece : List Char) : Bool := piece ≠ [] && piece ≠ ['.']

/-- **The names** along a path, `..` included. -/
def names (path : String) : List String := ((pieces path).filter isName).map String.ofList

/-- Does the path start at the root? -/
def isAbsolute (path : String) : Bool := path.toList.head? == some '/'

/-- Does the path end with a slash? -/
def endsWithSlash (path : String) : Bool := path.toList.getLast? == some '/'

/-! ## Joining -/

/-- **The path `child` as seen from `base`.** -/
def join (base child : String) : String :=
  if isAbsolute child then child
  else if base = "" ∨ endsWithSlash base = true then base ++ child
  else base ++ "/" ++ child

/-- **The path seen from the working directory `cwd`.** Repeated slashes and `.`
    go, a slash at the end stays, and so do exactly two slashes at the front. -/
def absolute (cwd path : String) : Except Fault String :=
  if path = "" then .error .emptyPath
  else
    let base :=
      match path.toList with
      | '/' :: '/' :: '/' :: _ => "/"
      | '/' :: '/' :: _ => "//"
      | '/' :: _ => "/"
      | _ => cwd
    let full := (names path).foldl join base
    .ok (if endsWithSlash path then join full "" else full)

/-! ## Going up -/

/-- What precedes the pieces that can be dropped: the root, or a leading `.`. -/
def stem (path : String) : List Char :=
  match path.toList with
  | '/' :: _ => ['/']
  | ['.'] => ['.']
  | '.' :: '/' :: _ => ['.']
  | _ => []

/-- The pieces behind the stem, cut off behind their last name, and then one name
    less each time. The last list is empty. -/
def heads (ps : List (List Char)) : List (List (List Char)) :=
  ((List.range (ps.length + 1)).reverse.map (ps.take ·)).filter fun head =>
    head.getLast?.all isName

/-- The stem with pieces behind it. -/
def ofStem (stem : List Char) (ps : List (List Char)) : String :=
  String.ofList (stem ++ ['/'].intercalate ps)

/-- The paths above `path`, the nearest first, down to the bare stem. -/
def above (path : String) : List String :=
  let s := stem path
  ((heads ((path.toList.drop s.length).splitOn '/')).map (ofStem s)).drop 1

/-- **The path itself and the directories above it**, the nearest first, without
    the root or the empty path. -/
def ancestors (path : String) : List String :=
  if names path = [] then [] else path :: (above path).dropLast

/-- **The path of the containing directory.** The root and the empty path have
    none. -/
def parent? (path : String) : Option String :=
  match above path with
  | up :: _ => some up
  | [] => if stem path = ['.'] then some "" else none

end QueryPaths.Disk.Path
