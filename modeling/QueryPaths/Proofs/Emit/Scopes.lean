import Mathlib.Data.List.Nodup
import QueryPaths.Proofs.Emit.Paths

/-! # Scopes of a path tree

    The nodes of a tree lie in scopes: the list at the top, and the children of
    each branch. Whether a tree can be rendered depends on each of its scopes
    alone.

    * **`PathNode.Scope`**: the scopes of a list of nodes, with the names that lead
      there.
    * **`Renderer.Fits`**: what a scope has to satisfy.
    * **`Renderer.siblings_cons_eq_ok`**, **`Renderer.render_eq_ok`**: what is rendered.
    * **`Renderer.siblings_isOk_iff`**, **`Renderer.render_isOk_iff`**: rendering
      succeeds exactly if every scope fits.
-/

namespace QueryPaths

open Source

/-- **The scopes of a list of nodes**: the list itself, and those of the children of
    its branches. The names of the branches on the way lead there. -/
inductive PathNode.Scope : List PathNode → List String → List PathNode → Prop where
  /-- The list itself. -/
  | top (nodes : List PathNode) : Scope nodes [] nodes
  /-- A scope of the children of a branch. -/
  | inside {nodes children inner : List PathNode} {name path : String} {way : List String}
      (mem : .branch name path children ∈ nodes) (rest : Scope children way inner) :
      Scope nodes (name :: way) inner

open PathNode (Scope)

namespace Renderer

/-- **What a scope has to satisfy.** Inside branches there is the self constant,
    too. -/
structure Fits (r : Renderer) (way : List String) (inner : List PathNode) : Prop where
  /-- No two siblings have the same name. -/
  nodup : (inner.map PathNode.name).Nodup
  /-- Every name is an identifier. -/
  ident : ∀ n ∈ inner, (Ident.parse? n.name).isSome = true
  /-- Inside a branch, the self constant is an identifier. -/
  self_ident : way ≠ [] → (Ident.parse? r.selfConst).isSome = true
  /-- Inside a branch, no node has the name of the self constant. -/
  self_fresh : way ≠ [] → ∀ n ∈ inner, n.name ≠ r.selfConst

variable {r : Renderer}

/-- How far inside branches a scope lies makes no difference. -/
theorem fits_cons_cons {a b : String} {way : List String} {inner : List PathNode} :
    r.Fits (a :: b :: way) inner ↔ r.Fits (b :: way) inner := by
  constructor
  · intro h
    exact ⟨h.nodup, h.ident, fun _ => h.self_ident (by simp), fun _ => h.self_fresh (by simp)⟩
  · intro h
    exact ⟨h.nodup, h.ident, fun _ => h.self_ident (by simp), fun _ => h.self_fresh (by simp)⟩

/-! ## What is rendered -/

variable {name path : String} {scope taken : List String} {children nodes : List PathNode}
  {item : Item} {items : List Item}

theorem node_leaf_eq_ok :
    r.node scope (.leaf name path) = .ok item ↔
      ∃ ident, Ident.parse? name = some ident ∧ item = .constant ident path := by
  simp only [node, bind_eq_ok, pure_eq_ok, identifier_eq_ok_iff]
  constructor
  · rintro ⟨ident, hident, rfl⟩
    exact ⟨ident, hident, rfl⟩
  · rintro ⟨ident, hident, rfl⟩
    exact ⟨ident, hident, rfl⟩

/-- **A branch becomes a module** that starts with the self constant. -/
theorem node_branch_eq_ok :
    r.node scope (.branch name path children) = .ok item ↔
      ∃ ident self items, Ident.parse? name = some ident ∧ Ident.parse? r.selfConst = some self ∧
        r.siblings (scope ++ [name]) [r.selfConst] children = .ok items ∧
        item = .module (r.branchDoc path) ident (.constant self path :: items) := by
  simp only [node, bind_eq_ok, pure_eq_ok, identifier_eq_ok_iff]
  constructor
  · rintro ⟨ident, hident, self, hself, items, hitems, rfl⟩
    exact ⟨ident, self, items, hident, hself, hitems, rfl⟩
  · rintro ⟨ident, self, items, hident, hself, hitems, rfl⟩
    exact ⟨ident, hident, self, hself, items, hitems, rfl⟩

theorem siblings_nil_eq_ok : r.siblings scope taken [] = .ok items ↔ items = [] := by
  rw [siblings, pure_eq_ok, eq_comm]

/-- **Siblings become one item each**, if the names are new. -/
theorem siblings_cons_eq_ok {first : PathNode} :
    r.siblings scope taken (first :: nodes) = .ok items ↔
      ∃ item others, first.name ∉ taken ∧ r.node scope first = .ok item ∧
        r.siblings scope (first.name :: taken) nodes = .ok others ∧ items = item :: others := by
  rw [siblings]
  by_cases htaken : first.name ∈ taken
  · simp [htaken, bind, Except.bind, throw, throwThe, MonadExceptOf.throw]
  · simp only [List.contains_iff_mem, htaken, if_false, bind_eq_ok, pure_eq_ok]
    constructor
    · rintro ⟨item, hitem, others, hothers, rfl⟩
      exact ⟨item, others, not_false, hitem, hothers, rfl⟩
    · rintro ⟨item, others, -, hitem, hothers, rfl⟩
      exact ⟨item, hitem, others, hothers, rfl⟩

/-- **An artifact is one module** with the items of the tree. -/
theorem render_eq_ok {target : Target} :
    r.render target nodes = .ok item ↔
      ∃ ident items, Ident.parse? target.typeName = some ident ∧
        r.siblings [target.typeName] [] nodes = .ok items ∧
        item = .module (r.artifactDoc target ++ [.allow "non_snake_case"]) ident items := by
  simp only [render, bind_eq_ok, pure_eq_ok, identifier_eq_ok_iff]
  constructor
  · rintro ⟨ident, hident, items, hitems, rfl⟩
    exact ⟨ident, items, hident, hitems, rfl⟩
  · rintro ⟨ident, items, hident, hitems, rfl⟩
    exact ⟨ident, hident, items, hitems, rfl⟩

theorem renderText_eq_ok {target : Target} {source : String} :
    r.renderText target nodes = .ok source ↔
      ∃ item, r.render target nodes = .ok item ∧ sourceText [item] = source := by
  simp only [renderText, bind_eq_ok, pure_eq_ok]

theorem exists_renderText_nil (r : Renderer) (target : Target) {ident : Ident}
    (h : Ident.parse? target.typeName = some ident) :
    ∃ source, r.renderText target [] = .ok source :=
  ⟨_, renderText_eq_ok.2 ⟨_, render_eq_ok.2 ⟨ident, [], h, siblings_nil_eq_ok.2 rfl, rfl⟩, rfl⟩⟩

/-! ## One scope -/

/-- **Siblings can be rendered** if their names are new and each of them can. -/
theorem siblings_isOk_iff_nodes :
    (∃ items, r.siblings scope taken nodes = .ok items) ↔
      (∀ n ∈ nodes, n.name ∉ taken) ∧ (nodes.map PathNode.name).Nodup ∧
        ∀ n ∈ nodes, ∃ item, r.node scope n = .ok item := by
  induction nodes generalizing taken with
  | nil => simp [siblings_nil_eq_ok]
  | cons first rest ih =>
    -- the first name must be new; from then on it is taken, too
    have hstep : (∃ items, r.siblings scope taken (first :: rest) = .ok items) ↔
        first.name ∉ taken ∧ (∃ item, r.node scope first = .ok item) ∧
          ∃ items, r.siblings scope (first.name :: taken) rest = .ok items := by
      simp only [siblings_cons_eq_ok]
      constructor
      · intro h
        obtain ⟨_, item, others, hfresh, hitem, hothers, -⟩ := h
        exact ⟨hfresh, ⟨item, hitem⟩, others, hothers⟩
      · intro h
        obtain ⟨hfresh, ⟨item, hitem⟩, others, hothers⟩ := h
        exact ⟨_, item, others, hfresh, hitem, hothers, rfl⟩
    rw [hstep, ih]
    -- a name that is new beside `first :: taken` is new and not the first one
    constructor
    · intro h
      obtain ⟨hfirst, hnode, hfresh, hnodup, hnodes⟩ := h
      refine ⟨?_, ?_, ?_⟩
      · intro n hn
        rcases List.mem_cons.1 hn with rfl | hn
        · exact hfirst
        · exact fun hmem => hfresh n hn (List.mem_cons_of_mem _ hmem)
      · refine List.nodup_cons.2 ⟨?_, hnodup⟩
        intro hmem
        obtain ⟨n, hn, hname⟩ := List.mem_map.1 hmem
        exact hfresh n hn (hname ▸ List.mem_cons_self)
      · intro n hn
        rcases List.mem_cons.1 hn with rfl | hn
        · exact hnode
        · exact hnodes n hn
    · intro h
      obtain ⟨hfresh, hnodup, hnodes⟩ := h
      obtain ⟨hnew, hnodup⟩ := List.nodup_cons.1 hnodup
      refine ⟨hfresh first List.mem_cons_self, hnodes first List.mem_cons_self, ?_, hnodup,
        fun n hn => hnodes n (List.mem_cons_of_mem _ hn)⟩
      intro n hn hmem
      rcases List.mem_cons.1 hmem with heq | hmem
      · exact hnew (List.mem_map.2 ⟨n, hn, heq⟩)
      · exact hfresh n (List.mem_cons_of_mem _ hn) hmem

theorem node_leaf_isOk_iff :
    (∃ item, r.node scope (.leaf name path) = .ok item) ↔ (Ident.parse? name).isSome = true := by
  simp only [node_leaf_eq_ok, Option.isSome_iff_exists]
  constructor
  · intro h
    obtain ⟨_, ident, hident, -⟩ := h
    exact ⟨ident, hident⟩
  · intro h
    obtain ⟨ident, hident⟩ := h
    exact ⟨_, ident, hident, rfl⟩

/-- A branch can be rendered if its name and the self constant are identifiers, and
    its children can be rendered beside the self constant. -/
theorem node_branch_isOk_iff :
    (∃ item, r.node scope (.branch name path children) = .ok item) ↔
      (Ident.parse? name).isSome = true ∧ (Ident.parse? r.selfConst).isSome = true ∧
        ∃ items, r.siblings (scope ++ [name]) [r.selfConst] children = .ok items := by
  simp only [node_branch_eq_ok, Option.isSome_iff_exists]
  constructor
  · intro h
    obtain ⟨_, ident, self, items, hident, hself, hitems, -⟩ := h
    exact ⟨⟨ident, hident⟩, ⟨self, hself⟩, items, hitems⟩
  · intro h
    obtain ⟨⟨ident, hident⟩, ⟨self, hself⟩, items, hitems⟩ := h
    exact ⟨_, ident, self, items, hident, hself, hitems, rfl⟩

/-! ## All scopes -/

/-- **A node can be rendered** if its name is an identifier and every scope inside it
    fits. -/
theorem node_isOk_iff (node : PathNode) : ∀ scope,
    (∃ item, r.node scope node = .ok item) ↔
      (Ident.parse? node.name).isSome = true ∧
        ∀ name path children way inner, node = .branch name path children →
          Scope children way inner → r.Fits (name :: way) inner := by
  induction node with
  | leaf name path =>
    intro scope
    rw [node_leaf_isOk_iff]
    simp [PathNode.name]
  | branch name path children ih =>
    intro scope
    rw [node_branch_isOk_iff, siblings_isOk_iff_nodes]
    constructor
    · intro h
      obtain ⟨hname, hself, hfresh, hnodup, hnodes⟩ := h
      refine ⟨hname, ?_⟩
      rintro _ _ _ way inner ⟨⟩ hscope
      -- a scope inside the branch is that of the children, or lies inside a child
      have hident : ∀ n ∈ children, (Ident.parse? n.name).isSome = true :=
        fun n hn => ((ih n hn _).1 (hnodes n hn)).1
      cases hscope with
      | top => exact ⟨hnodup, hident, fun _ => hself, fun _ n hn => by simpa using hfresh n hn⟩
      | inside mem rest =>
        exact fits_cons_cons.2 (((ih _ mem _).1 (hnodes _ mem)).2 _ _ _ _ _ rfl rest)
    · intro h
      obtain ⟨hname, hfits⟩ := h
      -- the children are the innermost scope; what fits further inside fits from there
      have htop := hfits name path children [] children rfl (.top children)
      refine ⟨hname, htop.self_ident (by simp), ?_, htop.nodup, ?_⟩
      · intro n hn
        simpa using htop.self_fresh (by simp) n hn
      · intro n hn
        rw [ih n hn]
        refine ⟨htop.ident n hn, ?_⟩
        rintro name' path' children' way inner rfl hscope
        exact fits_cons_cons.1 (hfits name path children _ inner rfl (.inside hn hscope))

/-- **A list of nodes can be rendered** exactly if its names are not taken yet and
    every scope fits. -/
theorem siblings_isOk_iff :
    (∃ items, r.siblings scope taken nodes = .ok items) ↔
      (∀ n ∈ nodes, n.name ∉ taken) ∧ ∀ way inner, Scope nodes way inner → r.Fits way inner := by
  rw [siblings_isOk_iff_nodes]
  apply and_congr_right
  intro _
  constructor
  · intro h way inner hscope
    obtain ⟨hnodup, hnodes⟩ := h
    -- the scope at the top is that of the siblings, any other lies inside one of them
    cases hscope with
    | top =>
      refine ⟨hnodup, fun n hn => ?_, fun h => absurd rfl h, fun h => absurd rfl h⟩
      exact ((node_isOk_iff n scope).1 (hnodes n hn)).1
    | inside mem rest => exact ((node_isOk_iff _ scope).1 (hnodes _ mem)).2 _ _ _ _ _ rfl rest
  · intro hfits
    have htop := hfits [] nodes (.top nodes)
    refine ⟨htop.nodup, fun n hn => (node_isOk_iff n scope).2 ⟨htop.ident n hn, ?_⟩⟩
    rintro name path children way inner rfl hscope
    exact hfits _ inner (.inside hn hscope)

/-- **A tree can be rendered** exactly if the type name is an identifier and every
    scope of the tree fits. -/
theorem render_isOk_iff {target : Target} {tree : List PathNode} :
    (∃ item, r.render target tree = .ok item) ↔
      (Ident.parse? target.typeName).isSome = true ∧
        ∀ way inner, Scope tree way inner → r.Fits way inner := by
  have hparts : (∃ item, r.render target tree = .ok item) ↔
      (Ident.parse? target.typeName).isSome = true ∧
        ∃ items, r.siblings [target.typeName] [] tree = .ok items := by
    simp only [render_eq_ok, Option.isSome_iff_exists]
    constructor
    · intro h
      obtain ⟨_, ident, items, hident, hitems, -⟩ := h
      exact ⟨⟨ident, hident⟩, items, hitems⟩
    · intro h
      obtain ⟨⟨ident, hident⟩, items, hitems⟩ := h
      exact ⟨_, ident, items, hident, hitems, rfl⟩
  rw [hparts, siblings_isOk_iff]
  simp

end Renderer

end QueryPaths
