import QueryPaths.Model.Pool
import QueryPaths.Name.Constant
import QueryPaths.Path.Node

/-! # The path tree of a class

    Starting from a root class, every link that resolves in the pool is
    expanded into the fields of the class it points to, unless that class is
    already on the way from the root. Such a link, and one that does not
    resolve, is a plain field.

    * **`ClassPool.resolve`** classifies one field against the pool and the
      classes on the way.
    * **`ClassPool.nodes`** builds the nodes of a list of fields. It ends since
      each expansion puts one more class of the pool on the way.
    * **`ClassPool.tree`** is the tree of a root class.
-/

namespace QueryPaths

open Name (constantName)

/-- What a field's link amounts to. -/
inductive Resolution where
  /-- The field has no link. -/
  | scalar
  /-- No class of the pool has the name that the link gives. -/
  | unresolved
  /-- The class is already on the way from the root. -/
  | cyclic
  /-- The class to expand. -/
  | resolved (target : ModelClass)
  deriving Repr, DecidableEq

namespace ClassPool

/-! ## Resolving links -/

/-- **Classifies a field**; `active` are the qualified names on the way from the
    root. -/
def resolve (pool : ClassPool) (active : List String) (field : Field) : Resolution :=
  match field.link with
  | none => .scalar
  | some target =>
    match pool.get? target with
    | none => .unresolved
    | some c => if active.contains c.qualified then .cyclic else .resolved c

/-- A link is expanded exactly if it resolves to a class that is not on the way. -/
theorem resolve_eq_resolved_iff {pool : ClassPool} {active : List String} {field : Field}
    {c : ModelClass} :
    pool.resolve active field = .resolved c ↔
      ∃ target, field.link = some target ∧ pool.get? target = some c ∧ c.qualified ∉ active := by
  unfold resolve
  split
  · simp_all
  · split
    · simp_all
    · split <;> simp_all <;> grind

/-! ## Why expansion ends -/

/-- How many classes of the pool are not on the way. -/
def unvisited (pool : ClassPool) (active : List String) : Nat :=
  pool.toList.countP fun c => !active.contains c.qualified

/-- Each expansion leaves fewer classes to visit. -/
theorem unvisited_lt {pool : ClassPool} {active : List String} {field : Field} {c : ModelClass}
    (h : pool.resolve active field = .resolved c) :
    pool.unvisited (c.qualified :: active) < pool.unvisited active := by
  obtain ⟨target, -, hget, hfresh⟩ := resolve_eq_resolved_iff.1 h
  have hmem := (mem_of_get? hget).1
  -- the classes left afterwards are among those left before, and `c` is not one of them
  have mono : ∀ l : List ModelClass,
      l.countP (fun d => !(c.qualified :: active).contains d.qualified) ≤
        l.countP fun d => !active.contains d.qualified := by
    intro l
    apply List.countP_mono_left
    intro d _ hd
    simp_all
  unfold unvisited
  obtain ⟨before, after, hsplit⟩ := List.append_of_mem hmem
  have hb := mono before
  have ha := mono after
  rw [hsplit]
  simp only [List.countP_append, List.countP_cons]
  have hnot : (!(c.qualified :: active).contains c.qualified) = false := by simp
  have hyes : (!active.contains c.qualified) = true := by simpa using hfresh
  simp only [hnot, hyes, Bool.false_eq_true, ↓reduceIte]
  omega

/-! ## The tree -/

/-- **The nodes of a list of fields**, in order. `active` are the classes on the
    way from the root, the one that owns the fields included; `lead` is the
    path of the way, with its trailing separator. -/
def nodes (pool : ClassPool) (active : List String) (lead : String) : List Field → List PathNode
  | [] => []
  | field :: rest =>
    let name := constantName field.name
    let path := lead ++ field.name
    let node :=
      match _h : pool.resolve active field with
      | .resolved target =>
        .branch name path (pool.nodes (target.qualified :: active) (path ++ ".") target.fields)
      | _ => .leaf name path
    node :: pool.nodes active lead rest
termination_by fields => (pool.unvisited active, fields.length)
decreasing_by
  · exact Prod.Lex.left _ _ (unvisited_lt _h)
  · exact Prod.Lex.right _ (by simp)

/-- **The path tree** of `root`, with links resolved in the pool. The root itself
    need not be in the pool. -/
def tree (pool : ClassPool) (root : ModelClass) : List PathNode :=
  pool.nodes [root.qualified] "" root.fields

@[simp] theorem nodes_nil (pool : ClassPool) (active : List String) (lead : String) :
    pool.nodes active lead [] = [] := by
  simp [nodes]

/-- **Siblings are independent**: the first field's node stands before the nodes
    of the others. -/
theorem nodes_cons (pool : ClassPool) (active : List String) (lead : String) (field : Field)
    (rest : List Field) :
    pool.nodes active lead (field :: rest) =
      (match pool.resolve active field with
        | .resolved target =>
          .branch (constantName field.name) (lead ++ field.name)
            (pool.nodes (target.qualified :: active) (lead ++ field.name ++ ".") target.fields)
        | _ => .leaf (constantName field.name) (lead ++ field.name)) ::
      pool.nodes active lead rest := by
  rw [nodes]
  congr 1
  split <;> simp_all

end ClassPool

end QueryPaths
