import QueryPaths.Command.Run
import QueryPaths.Proofs.Except
import QueryPaths.Proofs.Json.Pretty
import QueryPaths.Proofs.Path.Subtree

/-! # Path trees are read back

    A node is written with its kind in front, and the kind tells which members belong to it. So a
    reader who knows the keys finds each node again, with all nodes below it, and two trees never
    have the same text. How the text is laid out makes no difference.

    * **`PathNode.Draft`**: the members of a node, in whatever order they are read.
    * **`PathNode.ofReading?`**, **`PathNode.ofElements?`**: the nodes that a JSON value stands for.
    * **`PathNode.ofReading?_dump`**: a node that is written out is found again.
    * **`PathNode.dump_determines_tree`**: so is a tree, on one line or printed by the command.
-/

namespace QueryPaths

open Json (Elements Members Reading Value elementsReading scanDocument)

namespace PathNode

/-! ## Reading nodes -/

/-- A node whose members are partly read. -/
structure Draft where
  /-- The kind. -/
  kind : Option String := none
  /-- The generated name. -/
  name : Option String := none
  /-- The path of a leaf. -/
  path : Option String := none
  /-- The path of a branch. -/
  ownPath : Option String := none
  /-- The nodes below a branch. -/
  children : Option (List PathNode) := none

/-- **The node of a draft**, if it has the members of its kind and no others. -/
def Draft.node? : Draft → Option PathNode
  | ⟨some kind, some name, some path, none, none⟩ =>
    if kind = "leaf" then some (.leaf name path) else none
  | ⟨some kind, some name, none, some path, some children⟩ =>
    if kind = "namespace" then some (.branch name path children) else none
  | _ => none

mutual

/-- **The node that a JSON value stands for.** -/
def ofReading? : Reading → Option PathNode
  | .object members => (draft? members).bind Draft.node?
  | _ => none

/-- **The nodes that the elements of an array stand for.** -/
def ofElements? : Elements → Option (List PathNode)
  | .closed => some []
  | .element value rest => do
    let node ← ofReading? value
    let others ← ofElements? rest
    return node :: others
  | _ => none

/-- The draft of the members of an object. -/
def draft? : Members → Option Draft
  | .closed => some {}
  | .member (.ok key) (.string (.ok text)) rest =>
    (draft? rest).bind fun draft =>
      if key = "kind" then some { draft with kind := text }
      else if key = "generated_name" then some { draft with name := text }
      else if key = "path_value" then some { draft with path := text }
      else if key = "self_path_value" then some { draft with ownPath := text }
      else none
  | .member (.ok key) (.array elements) rest =>
    (draft? rest).bind fun draft =>
      (ofElements? elements).bind fun children =>
        if key = "children" then some { draft with children := children } else none
  | _ => none

end

/-! ## What is written is found again -/

theorem ofElements?_dumpAll {nodes : List PathNode}
    (h : ∀ node ∈ nodes, ofReading? (dump node).reading = some node) :
    ofElements? (elementsReading (dumpAll nodes)) = some nodes := by
  induction nodes with
  | nil => rfl
  | cons node rest ih =>
    have hnode := h node List.mem_cons_self
    have hrest := ih fun n hn => h n (List.mem_cons_of_mem _ hn)
    rw [dumpAll, elementsReading, ofElements?, hnode, hrest]
    rfl

/-- **A node that is written out is found again**, with all nodes below it. -/
theorem ofReading?_dump (node : PathNode) : ofReading? (dump node).reading = some node := by
  induction node with
  | leaf name path => rfl
  | branch name path children ih =>
    have hchildren := ofElements?_dumpAll ih
    simp [dump, Value.reading, Json.membersReading, ofReading?, draft?, hchildren, Draft.node?]

/-- **A list of nodes that is written out is found again.** -/
theorem ofElements?_dumpTree (nodes : List PathNode) :
    ofElements? (elementsReading (dumpAll nodes)) = some nodes :=
  ofElements?_dumpAll fun node _ => ofReading?_dump node

/-- The text of a tree on one line holds one array. -/
theorem scanDocument_dumpTree (nodes : List PathNode) :
    scanDocument (dumpTree nodes).compact = ⟨.array (elementsReading (dumpAll nodes)), false⟩ :=
  Value.scanDocument_compact _

/-! ## The tree command -/

/-- **What the tree command prints**: the tree of the class, and a line break behind it. -/
theorem stdout_runTree {disk : Disk} {model cls : String} {manifest : Manifest} {root : ModelClass}
    (hload : Manifest.load disk model = .ok manifest) (hroot : manifest.pool.get? cls = some root) :
    (Command.runTree disk model cls).success = true ∧
      (Command.runTree disk model cls).stdout =
        (dumpTree (manifest.pool.tree root)).pretty ++ "\n" := by
  rw [Command.runTree, hload]
  dsimp only
  rw [hroot]
  exact ⟨rfl, rfl⟩

/-- **The text of a tree determines the tree.** On one line it is one array, and the nodes that its
    elements stand for are those of the tree, with their kinds, names, paths and children, however
    deep they lie and whatever the names and paths are. So no other tree has that text. What the
    tree command prints for a class has line breaks and indentation, but it is the same value. -/
theorem dump_determines_tree :
    (∀ nodes : List PathNode,
      (∃ elements, scanDocument (dumpTree nodes).compact = ⟨.array elements, false⟩ ∧
        ofElements? elements = some nodes) ∧
      (∀ others : List PathNode,
        (dumpTree others).compact = (dumpTree nodes).compact ↔ others = nodes) ∧
      scanDocument (dumpTree nodes).pretty = scanDocument (dumpTree nodes).compact) ∧
    ∀ (disk : Disk) (model cls : String) (manifest : Manifest) (root : ModelClass),
      Manifest.load disk model = .ok manifest → manifest.pool.get? cls = some root →
        (Command.runTree disk model cls).success = true ∧
          scanDocument (Command.runTree disk model cls).stdout =
            scanDocument (dumpTree (manifest.pool.tree root)).compact := by
  refine ⟨fun nodes => ⟨⟨_, scanDocument_dumpTree nodes, ofElements?_dumpTree nodes⟩, ?_, ?_⟩, ?_⟩
  · intro others
    refine ⟨fun htext => ?_, fun heq => by rw [heq]⟩
    -- equal texts are read alike, and what is read shows the nodes
    have hsame := (scanDocument_dumpTree others).symm.trans (htext ▸ scanDocument_dumpTree nodes)
    have helements : elementsReading (dumpAll others) = elementsReading (dumpAll nodes) :=
      Reading.array.inj (congrArg Json.Document.value hsame)
    have hnodes := ofElements?_dumpTree others
    rw [helements, ofElements?_dumpTree nodes] at hnodes
    exact (Option.some.inj hnodes).symm
  · have hpretty := (dumpTree nodes).scanDocument_pretty "" Json.gap_nil
    rw [String.append_empty] at hpretty
    rw [hpretty, Value.scanDocument_compact]
  · intro disk model cls manifest root hload hroot
    obtain ⟨hsuccess, hstdout⟩ := stdout_runTree hload hroot
    have hline : Json.Gap "\n".toList := by
      intro c hc
      obtain rfl := List.mem_singleton.1 hc
      decide
    refine ⟨hsuccess, ?_⟩
    rw [hstdout, Value.scanDocument_pretty _ _ hline, Value.scanDocument_compact]

open ClassPool (household hound owner)

/-- The manifest of a household. -/
def householdModel : String :=
  "\x7b\"classes\": [" ++
    "\x7b\"simple_class_name\": \"Owner\", \"fields\": [" ++
      "\x7b\"name\": \"name\"\x7d, \x7b\"name\": \"dog\", \"link\": \"Dog\"\x7d]\x7d, " ++
    "\x7b\"simple_class_name\": \"Dog\", \"fields\": [" ++
      "\x7b\"name\": \"owner\", \"link\": \"Owner\"\x7d, " ++
      "\x7b\"name\": \"vet\", \"link\": \"Vet\"\x7d]\x7d]\x7d"

/-- A disk with the household's manifest in the working directory. -/
def householdDisk : Disk where
  entries := [(["model.json"], .file householdModel.toUTF8)]

theorem load_householdDisk : Manifest.load householdDisk "model.json" = .ok ⟨[owner, hound]⟩ :=
  toOption_eq_some.1 (by decide +kernel)

/-- **The tree of the owner is printed**, and what is printed is the value of its text. -/
theorem household_printed :
    (Command.runTree householdDisk "model.json" "Owner").success = true ∧
      scanDocument (Command.runTree householdDisk "model.json" "Owner").stdout =
        scanDocument (dumpTree [.leaf "NAME" "name",
          .branch "DOG" "dog" [.leaf "OWNER" "dog.owner", .leaf "VET" "dog.vet"]]).compact := by
  have hroot : (Manifest.pool ⟨[owner, hound]⟩).get? "Owner" = some owner :=
    ClassPool.get?_household.1
  obtain ⟨-, hprinted⟩ := dump_determines_tree
  rw [← ClassPool.tree_owner]
  exact hprinted householdDisk "model.json" "Owner" _ owner load_householdDisk hroot

end PathNode

end QueryPaths
