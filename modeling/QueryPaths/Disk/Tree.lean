import QueryPaths.Disk.Path

/-! # Disks

    A disk is a tree of directories and files together with a working
    directory. A place on it is the list of names on the way from the root. A
    path text is followed name by name: each name but the last must be a
    directory, and `..` leads back to the directory that was come from.

    This is a file system without some of what real ones have. There are no links,
    so a file lies at one place only; no special files; and no permissions. Names
    are Unicode texts. A file that is written fails before it is touched or not at
    all, and a write that fails later is a matter of `Disk.writeUntil`.

    * **`Disk.node?`** is the view of a disk: what lies at a place.
    * **`Disk.resolve`** finds the place that a path leads to.
    * **`Disk.makeDirectory`**, **`Disk.writeFile`** change one place.
    * **`Disk.createAll`** makes a directory and those missing above it.
-/

namespace QueryPaths

namespace Disk

/-- What lies at a place. -/
inductive Node where
  /-- A file and its content. -/
  | file (content : ByteArray)
  /-- A directory. -/
  | directory
  deriving Inhabited

instance : DecidableEq Node
  | .directory, .directory => isTrue rfl
  | .file a, .file b =>
    if h : a.data = b.data then isTrue (congrArg _ (ByteArray.ext h))
    else isFalse fun same => h (by injection same with same; rw [same])
  | .directory, .file _ => isFalse (by simp)
  | .file _, .directory => isFalse (by simp)

/-- A place: the names on the way from the root. -/
abbrev Place := List String

end Disk

open Disk in
/-- The files and directories below the root. -/
structure Disk where
  /-- What lies at each place but the root, which is a directory. -/
  entries : List (Place × Node)
  /-- The working directory. -/
  cwd : Place := []
  deriving DecidableEq, Inhabited

namespace Disk

/-! ## Places -/

/-- **What lies at a place.** The root is always a directory. -/
def node? (d : Disk) (place : Place) : Option Node :=
  if place = [] then some .directory else d.entries.lookup place

/-- Puts a node at a place that may already be in use. -/
def putEntry (place : Place) (node : Node) : List (Place × Node) → List (Place × Node)
  | [] => [(place, node)]
  | (p, n) :: rest =>
    if p = place then (p, node) :: rest else (p, n) :: putEntry place node rest

/-- The disk with a node at a place. -/
def put (d : Disk) (place : Place) (node : Node) : Disk :=
  { d with entries := putEntry place node d.entries }

theorem lookup_putEntry (place other : Place) (node : Node) (es : List (Place × Node)) :
    (putEntry place node es).lookup other =
      if other = place then some node else es.lookup other := by
  induction es with
  | nil =>
    by_cases h : other = place
    · subst h; simp [putEntry]
    · have hbeq : (other == place) = false := by simpa using h
      simp [putEntry, List.lookup_cons, hbeq, h]
  | cons e rest ih =>
    obtain ⟨p, n⟩ := e
    -- the first entry is replaced, or the node is put further behind
    by_cases hp : p = place
    · subst hp
      by_cases h : other = p
      · subst h; simp [putEntry]
      · have hbeq : (other == p) = false := by simpa using h
        simp [putEntry, List.lookup_cons, hbeq, h]
    · by_cases h : other = p
      · subst h; simp [putEntry, hp]
      · have hbeq : (other == p) = false := by simpa using h
        simp [putEntry, hp, List.lookup_cons, hbeq, ih]

/-- **Putting a node changes one place.** -/
@[simp] theorem node?_put (d : Disk) {place : Place} (h : place ≠ []) (node : Node)
    (other : Place) :
    (d.put place node).node? other = if other = place then some node else d.node? other := by
  by_cases ho : other = []
  · subst ho
    simp [node?, Ne.symm h]
  · simp [node?, ho, put, lookup_putEntry]

/-- Is there a directory at the place? -/
def isDirectoryAt (d : Disk) (place : Place) : Bool := d.node? place == some .directory

/-- The longest name that a directory can hold, in bytes. -/
def maxNameBytes : Nat := 255

/-- The longest path that can be followed, in bytes. -/
def maxPathBytes : Nat := 4095

/-! ## Following a path -/

/-- Where a path starts: at the root or in the working directory. -/
def start (d : Disk) (path : String) : Place := if Path.isAbsolute path then [] else d.cwd

/-- The steps along a path: its names, and `.` where it was written. -/
def steps (path : String) : List String :=
  ((Path.pieces path).filter (· ≠ [])).map String.ofList

/-- What is wrong with a path before any directory is looked at. -/
def checkText (path : String) : Except Fault Unit :=
  if path.toList.contains '\x00' then .error .nulInPath
  else if path = "" then .error .notFound
  else if path.utf8ByteSize > maxPathBytes then .error .nameTooLong
  else .ok ()

/-- Goes into a directory: a file in its place is a fault, and so is nothing. -/
def enter (d : Disk) (here : Place) : Except Fault Unit :=
  match d.node? here with
  | some .directory => .ok ()
  | some (.file _) => .error .notDirectory
  | none => .error .notFound

/-- **Follows steps** from the place `here`; everything on the way exists. -/
def walk (d : Disk) (here : Place) : List String → Except Fault Place
  | [] => .ok here
  | step :: rest =>
    match d.enter here with
    | .error e => .error e
    | .ok () =>
      if step = "." then d.walk here rest
      else if step = ".." then d.walk here.dropLast rest
      else if step.utf8ByteSize > maxNameBytes then .error .nameTooLong
      else if (d.node? (here ++ [step])).isSome then d.walk (here ++ [step]) rest
      else .error .notFound

/-- **The place that a path leads to.** A slash at the end asks for a directory. -/
def resolve (d : Disk) (path : String) : Except Fault Place := do
  checkText path
  let place ← d.walk (d.start path) (steps path)
  if Path.endsWithSlash path then d.enter place
  return place

/-- Does the path lead to anything? -/
def pathExists (d : Disk) (path : String) : Bool := (d.resolve path).toOption.isSome

/-- Does the path lead to a directory? -/
def isDirectory (d : Disk) (path : String) : Bool :=
  (d.resolve path).toOption.any d.isDirectoryAt

/-- **The directory that holds the last step** of a path, and that step. -/
def locate (d : Disk) (path : String) : Except Fault (Place × Option String) := do
  checkText path
  match (steps path).getLast? with
  | none => return (d.start path, none)
  | some last =>
    let dir ← d.walk (d.start path) (steps path).dropLast
    d.enter dir
    return (dir, some last)

/-- Is the step a name, so that something can be made under it? -/
def isStepName (step : String) : Bool := step ≠ "." && step ≠ ".."

/-! ## Reading -/

/-- **Reads a file** as text. -/
def readText (d : Disk) (path : String) : Except Fault String := do
  let place ← d.resolve path
  match d.node? place with
  | some (.file content) =>
    match String.fromUTF8? content with
    | some text => return text
    | none => throw .notUtf8
  | some .directory => throw .isDirectory
  | none => throw .notFound

/-! ## Changing -/

/-- **Makes a directory** in an existing one. -/
def makeDirectory (d : Disk) (path : String) : Except Fault Disk := do
  match ← d.locate path with
  | (_, none) => throw .alreadyExists
  | (dir, some step) =>
    if !isStepName step then throw .alreadyExists
    else if step.utf8ByteSize > maxNameBytes then throw .nameTooLong
    else if (d.node? (dir ++ [step])).isSome then throw .alreadyExists
    else return d.put (dir ++ [step]) .directory

/-- **Writes a file** in an existing directory, over an older one if there is. -/
def writeFile (d : Disk) (path : String) (content : ByteArray) : Except Fault Disk := do
  match ← d.locate path with
  | (_, none) => throw .isDirectory
  | (dir, some step) =>
    if !isStepName step || Path.endsWithSlash path then throw .isDirectory
    else if step.utf8ByteSize > maxNameBytes then throw .nameTooLong
    else if d.isDirectoryAt (dir ++ [step]) then throw .isDirectory
    else return d.put (dir ++ [step]) (.file content)

/-- A directory that is already there does no harm. -/
def tolerate (d : Disk) (path : String) (fault : Fault) : Except Fault Unit :=
  if fault = .alreadyExists ∧ d.isDirectory path = true then .ok () else .error fault

/-- Makes the first of these paths a directory. Where that fails for want of a
    directory above, the others are made first, the last one foremost. -/
def ensure (d : Disk) : List String → Except Fault Unit × Disk
  | [] => (.ok (), d)
  | path :: above =>
    match d.makeDirectory path with
    | .ok made => (.ok (), made)
    | .error .notFound =>
      match d.ensure above with
      | (.error fault, partly) => (.error fault, partly)
      | (.ok (), ready) =>
        match ready.makeDirectory path with
        | .ok made => (.ok (), made)
        | .error fault => (ready.tolerate path fault, ready)
    | .error fault => (d.tolerate path fault, d)

/-- **Makes a directory and all that are missing above it.** On a fault, those
    made so far stay. -/
def createAll (d : Disk) (path : String) : Except Fault Unit × Disk :=
  d.ensure (Path.ancestors path)

/-! ## Listing -/

/-- The path text of a place. -/
def placeText (place : Place) : String := "/" ++ "/".intercalate place

/-- **Everything below a place**, by its path from there, in order of the path
    text. A directory's path ends with a slash. -/
def listing (d : Disk) (root : Place) : List (String × Node) :=
  let found := d.entries.filterMap fun (place, node) =>
    if root.isPrefixOf place && root.length < place.length then
      let path := "/".intercalate (place.drop root.length)
      some (if node = .directory then path ++ "/" else path, node)
    else none
  found.mergeSort fun a b => a.1 ≤ b.1

end Disk

end QueryPaths
