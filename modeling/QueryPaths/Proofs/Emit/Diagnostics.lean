import QueryPaths.Proofs.Emit.InvalidNames
import QueryPaths.Proofs.Path.Composition

/-! # Which trees can be rendered, and what is said of the others

    Any list of nodes may be handed to a renderer. It makes an artifact of exactly those that are
    well scoped, and what it says of any other is true: the name that it calls twice taken is so
    in the scope that it gives, and the name that it calls no identifier is none, and is used.

    * **`PathNode.mem_preorder_iff`**, **`PathNode.exists_branch_iff`**: nodes and branches at
      any depth, and the scopes that they lie in.
    * **`Renderer.WellScoped`**: what a tree has to satisfy.
    * **`Renderer.Clashes`**: what is wrong with a name in a scope.
    * **`Renderer.TrueOf`**: what an error says of some nodes.
    * **`Renderer.trueOf_of_siblings`**, **`Renderer.trueOf_of_node`**: every error says what is
      true of the nodes.
    * **`Renderer.render_settles`**: both for whole artifacts.
-/

namespace QueryPaths

open Source

/-! ## Nodes and scopes -/

namespace PathNode

variable {nodes inner children : List PathNode} {n : PathNode} {way : List String}
  {name path : String}

theorem mem_preorder :
    n ∈ preorder nodes ↔ ∃ first ∈ nodes, n = first ∨ n ∈ preorder first.children := by
  induction nodes with
  | nil => simp
  | cons first rest ih => simp [ih, or_assoc]

theorem exists_eq_branch_of_mem (h : n ∈ preorder children) (first : PathNode)
    (hfirst : first.children = children) : ∃ name path, first = .branch name path children := by
  cases first with
  | leaf name path =>
    subst hfirst
    cases h
  | branch name path cs =>
    subst hfirst
    exact ⟨name, path, rfl⟩

/-- **Below a branch** every node lies in a scope of the children. -/
theorem exists_scope_below (first : PathNode) :
    ∀ n ∈ preorder first.children, ∃ way inner, Scope first.children way inner ∧ n ∈ inner := by
  induction first with
  | leaf name path =>
    intro n hn
    cases hn
  | branch name path children ih =>
    intro n hn
    show ∃ way inner, Scope children way inner ∧ n ∈ inner
    obtain ⟨child, hchild, rfl | hbelow⟩ := mem_preorder.1 hn
    · exact ⟨[], children, .top children, hchild⟩
    · obtain ⟨way, inner, hscope, hmem⟩ := ih child hchild n hbelow
      obtain ⟨name, path, hbranch⟩ := exists_eq_branch_of_mem hbelow child rfl
      rw [hbranch] at hchild
      exact ⟨name :: way, inner, .inside hchild hscope, hmem⟩

/-- **The nodes of a tree are those of its scopes.** -/
theorem mem_preorder_iff :
    n ∈ preorder nodes ↔ ∃ way inner, Scope nodes way inner ∧ n ∈ inner := by
  constructor
  · intro h
    exact exists_scope_below (.branch "" "" nodes) n h
  · intro h
    obtain ⟨way, inner, hscope, hn⟩ := h
    induction hscope with
    | top => exact mem_preorder.2 ⟨n, hn, .inl rfl⟩
    | inside mem _ ih => exact mem_preorder.2 ⟨_, mem, .inr (ih hn)⟩

/-- The children of a branch in a scope are a scope, with its name at the end of the way. -/
theorem Scope.concat (h : Scope nodes way inner) (hmem : .branch name path children ∈ inner) :
    Scope nodes (way ++ [name]) children := by
  induction h with
  | top => exact .inside hmem (.top children)
  | inside mem _ ih => exact .inside mem (ih hmem)

/-- **There is a branch at some depth** exactly if there is a scope inside a branch. -/
theorem exists_branch_iff :
    (∃ n ∈ preorder nodes, n.isBranch = true) ↔ ∃ way inner, Scope nodes way inner ∧ way ≠ [] := by
  constructor
  · intro h
    obtain ⟨n, hn, hbranch⟩ := h
    obtain ⟨way, inner, hscope, hmem⟩ := mem_preorder_iff.1 hn
    cases n with
    | leaf => cases hbranch
    | branch name path children => exact ⟨_, _, hscope.concat hmem, by simp⟩
  · intro h
    obtain ⟨way, inner, hscope, hway⟩ := h
    cases hscope with
    | top => exact absurd rfl hway
    | inside mem _ => exact ⟨_, mem_preorder.2 ⟨_, mem, .inl rfl⟩, rfl⟩

end PathNode

open PathNode (Scope preorder mem_preorder mem_preorder_iff exists_branch_iff)

namespace Renderer

variable {r : Renderer} {base taken scope : List String} {nodes children tree : List PathNode}
  {e : EmitError} {name path typeName : String}

/-! ## Well scoped trees -/

/-- **What a tree has to satisfy** to be rendered under a type name. -/
structure WellScoped (r : Renderer) (typeName : String) (tree : List PathNode) : Prop where
  /-- The type name is an identifier. -/
  type_ident : (Ident.parse? typeName).isSome = true
  /-- Every generated name is an identifier, at any depth. -/
  name_ident : ∀ n ∈ preorder tree, (Ident.parse? n.name).isSome = true
  /-- The self constant is an identifier, if there is a branch at any depth. -/
  self_ident : (∃ n ∈ preorder tree, n.isBranch = true) →
    (Ident.parse? r.selfConst).isSome = true
  /-- No two siblings have the same name. -/
  nodup : ∀ way inner, Scope tree way inner → (inner.map PathNode.name).Nodup
  /-- Inside a branch, no node has the name of the self constant. -/
  self_fresh : ∀ way inner, Scope tree way inner → way ≠ [] → ∀ n ∈ inner, n.name ≠ r.selfConst

/-- A tree is well scoped if each of its scopes fits. -/
theorem wellScoped_iff : r.WellScoped typeName tree ↔
    (Ident.parse? typeName).isSome = true ∧
      ∀ way inner, Scope tree way inner → r.Fits way inner := by
  constructor
  · -- nodes are in some scope, and a branch is there if a scope lies further inside
    intro h
    refine ⟨h.type_ident, ?_⟩
    intro way inner hscope
    refine ⟨h.nodup way inner hscope, ?_, ?_, h.self_fresh way inner hscope⟩
    · intro n hn
      exact h.name_ident n (mem_preorder_iff.2 ⟨way, inner, hscope, hn⟩)
    · intro hway
      exact h.self_ident (exists_branch_iff.2 ⟨way, inner, hscope, hway⟩)
  · intro h
    obtain ⟨htype, hfits⟩ := h
    refine ⟨htype, ?_, ?_, ?_, ?_⟩
    · intro n hn
      obtain ⟨way, inner, hscope, hmem⟩ := mem_preorder_iff.1 hn
      exact (hfits way inner hscope).ident n hmem
    · intro hbranch
      obtain ⟨way, inner, hscope, hway⟩ := exists_branch_iff.1 hbranch
      exact (hfits way inner hscope).self_ident hway
    · intro way inner hscope
      exact (hfits way inner hscope).nodup
    · intro way inner hscope
      exact (hfits way inner hscope).self_fresh

/-! ## What errors say -/

/-- **A name clashes in a scope** if two siblings have it, or if it is the self constant inside a
    branch and a child has it, too. -/
def Clashes (r : Renderer) (way : List String) (inner : List PathNode) (name : String) : Prop :=
  2 ≤ (inner.map PathNode.name).count name ∨
    way ≠ [] ∧ name = r.selfConst ∧ name ∈ inner.map PathNode.name

/-- **What an error says is true of some nodes**, to which the names `base` lead: a name clashes in
    the scope that is given, or what is called no identifier is none, and is the name of a node or
    the self constant of a branch. -/
def TrueOf (r : Renderer) (base : List String) (nodes : List PathNode) : EmitError → Prop
  | .duplicateName scope name =>
    ∃ way inner, scope = base ++ way ∧ Scope nodes way inner ∧ r.Clashes way inner name
  | .invalidIdent text => Ident.parse? text = none ∧
    ((∃ n ∈ preorder nodes, n.name = text) ∨
      text = r.selfConst ∧ ∃ n ∈ preorder nodes, n.isBranch = true)
  | _ => False

/-- What is true of the children of a branch is true of its scope. -/
theorem TrueOf.of_children (hmem : .branch name path children ∈ nodes)
    (h : r.TrueOf (base ++ [name]) children e) : r.TrueOf base nodes e := by
  -- the nodes below the branch are nodes of the whole
  have hbelow : ∀ n ∈ preorder children, n ∈ preorder nodes := by
    intro n hn
    exact mem_preorder.2 ⟨_, hmem, .inr hn⟩
  cases e with
  | io => exact h
  | duplicateArtifact => exact h
  | invalidIdent text =>
    obtain ⟨hnone, ⟨n, hn, hname⟩ | ⟨hself, n, hn, hbranch⟩⟩ := h
    · exact ⟨hnone, .inl ⟨n, hbelow n hn, hname⟩⟩
    · exact ⟨hnone, .inr ⟨hself, n, hbelow n hn, hbranch⟩⟩
  | duplicateName scope taken =>
    obtain ⟨way, inner, rfl, hscope, hclash⟩ := h
    refine ⟨name :: way, inner, by simp, .inside hmem hscope, ?_⟩
    rcases hclash with htwice | ⟨-, hself, hchild⟩
    · exact .inl htwice
    · exact .inr ⟨List.cons_ne_nil _ _, hself, hchild⟩

/-! ## One scope -/

/-- **Where siblings fail**: at one of them, at a name that was taken before, or at a name that
    two of them have. -/
theorem siblings_error_cases (h : r.siblings scope taken nodes = .error e) :
    (∃ n ∈ nodes, r.node scope n = .error e) ∨
      ∃ name, e = .duplicateName scope name ∧ name ∈ nodes.map PathNode.name ∧
        (name ∈ taken ∨ 2 ≤ (nodes.map PathNode.name).count name) := by
  induction nodes generalizing taken with
  | nil => simp [siblings] at h
  | cons first rest ih =>
    rcases siblings_cons_eq_error.1 h with ⟨htaken, rfl⟩ | ⟨-, hfirst | ⟨item, -, hrest⟩⟩
    · exact .inr ⟨first.name, rfl, List.mem_cons_self, .inl htaken⟩
    · exact .inl ⟨first, List.mem_cons_self, hfirst⟩
    · -- behind the first node its name is taken, too
      rcases ih hrest with ⟨n, hn, herror⟩ | ⟨name, rfl, hmem, hwhy⟩
      · exact .inl ⟨n, List.mem_cons_of_mem _ hn, herror⟩
      · -- taken by the first node, it is there twice
        refine .inr ⟨name, rfl, List.mem_cons_of_mem _ hmem, ?_⟩
        have hpos := List.count_pos_iff.2 hmem
        rw [List.map_cons, List.count_cons]
        rcases hwhy with htaken | htwice
        · rcases List.mem_cons.1 htaken with rfl | htaken
          · right
            simp only [beq_self_eq_true, if_true]
            omega
          · exact .inl htaken
        · right
          omega

/-- **Errors of siblings are true of them**, if those of each sibling are, but for a name that was
    taken before the first of them. -/
theorem trueOf_of_siblings
    (hnodes : ∀ n ∈ nodes, r.node base n = .error e → r.TrueOf base nodes e)
    (h : r.siblings base taken nodes = .error e) :
    r.TrueOf base nodes e ∨
      ∃ name ∈ taken, name ∈ nodes.map PathNode.name ∧ e = .duplicateName base name := by
  rcases siblings_error_cases h with ⟨n, hn, herror⟩ | ⟨name, rfl, hmem, htaken | htwice⟩
  · exact .inl (hnodes n hn herror)
  · exact .inr ⟨name, htaken, hmem, rfl⟩
  · exact .inl ⟨[], nodes, by simp, .top nodes, .inl htwice⟩

/-- **Errors of a node are true of its scope**, by induction on the node. -/
theorem trueOf_of_node (n : PathNode) : ∀ base nodes e, n ∈ nodes → r.node base n = .error e →
    r.TrueOf base nodes e := by
  induction n with
  | leaf name path =>
    intro base nodes e hmem h
    have hname : identifier name = .error e := by
      simpa only [node, bind_eq_error, pure_eq_error, and_false, exists_false, or_false] using h
    obtain ⟨hnone, rfl⟩ := identifier_eq_error_iff.1 hname
    exact ⟨hnone, .inl ⟨_, mem_preorder.2 ⟨_, hmem, .inl rfl⟩, rfl⟩⟩
  | branch name path children ih =>
    intro base nodes e hmem h
    have hin : .branch name path children ∈ preorder nodes := mem_preorder.2 ⟨_, hmem, .inl rfl⟩
    rcases node_branch_eq_error_iff.1 h with ⟨hnone, rfl⟩ | ⟨-, hrest⟩
    · exact ⟨hnone, .inl ⟨_, hin, rfl⟩⟩
    · rcases hrest with ⟨hnone, rfl⟩ | ⟨-, hchildren⟩
      · exact ⟨hnone, .inr ⟨rfl, _, hin, rfl⟩⟩
      · -- a name taken before the first child is that of the self constant
        rcases trueOf_of_siblings (fun n hn => ih n hn _ _ _ hn) hchildren with
          htrue | ⟨taken, hself, hchild, rfl⟩
        · exact htrue.of_children hmem
        · obtain rfl := List.mem_singleton.1 hself
          refine ⟨[name], children, rfl, .inside hmem (.top children), ?_⟩
          exact .inr ⟨List.cons_ne_nil _ _, rfl, hchild⟩

/-! ## Whole artifacts -/

/-- The text of a scope: the type name, and each name on the way behind two colons. -/
theorem intercalate_cons (first : String) (way : List String) :
    "::".intercalate (first :: way) = way.foldl (fun text name => text ++ "::" ++ name) first := by
  induction way generalizing first with
  | nil => exact String.intercalate_singleton
  | cons name rest ih =>
    rw [List.foldl_cons, ← ih, String.intercalate_cons_cons]
    cases rest with
    | nil => rw [String.intercalate_singleton, String.intercalate_singleton]
    | cons next others =>
      rw [String.intercalate_cons_cons, String.intercalate_cons_cons]
      simp only [String.append_assoc]

theorem message_duplicateName (first : String) (way : List String) (name : String) :
    (EmitError.duplicateName (first :: way) name).message =
      "duplicate name '" ++ name ++ "' in '" ++
        way.foldl (fun text name => text ++ "::" ++ name) first ++ "'" := by
  rw [← intercalate_cons]
  rfl

/-- **Exactly the well scoped trees are rendered, and what is said of the others is true.** An
    artifact is made of a tree exactly if it is well scoped. Otherwise the error is one of two. A
    name is called twice taken in a scope: then the scope is the type name and the names on the
    way to a scope of the tree, and in it two siblings have the name, or a child has it beside the
    self constant of that name. Or a text is called no identifier: then it is none, and is the
    type name, the name of a node of the tree, or the self constant of a tree with a branch. -/
theorem render_settles (r : Renderer) (target : Target) (tree : List PathNode) :
    ((∃ item, r.render target tree = .ok item) ↔ r.WellScoped target.typeName tree) ∧
    ∀ e, r.render target tree = .error e →
      (∃ way inner name, e = .duplicateName (target.typeName :: way) name ∧
        e.message = "duplicate name '" ++ name ++ "' in '" ++
          way.foldl (fun text name => text ++ "::" ++ name) target.typeName ++ "'" ∧
        Scope tree way inner ∧ r.Clashes way inner name) ∨
      ∃ text, e = .invalidIdent text ∧ Ident.parse? text = none ∧
        (text = target.typeName ∨ (∃ n ∈ preorder tree, n.name = text) ∨
          text = r.selfConst ∧ ∃ n ∈ preorder tree, n.isBranch = true) := by
  refine ⟨?_, ?_⟩
  · rw [render_isOk_iff, wellScoped_iff]
  · intro e h
    simp only [render, bind_eq_error, pure_eq_error, and_false, exists_false, or_false,
      identifier_eq_error_iff] at h
    rcases h with ⟨hnone, rfl⟩ | ⟨ident, -, hsiblings⟩
    · exact .inr ⟨_, rfl, hnone, .inl rfl⟩
    · -- at the top no name is taken before the first node
      rcases trueOf_of_siblings (fun n hn => trueOf_of_node n _ _ _ hn) hsiblings with
        htrue | ⟨name, hname, -⟩
      · cases e with
        | io => cases htrue
        | duplicateArtifact => cases htrue
        | invalidIdent text =>
          obtain ⟨hnone, hused⟩ := htrue
          exact .inr ⟨text, rfl, hnone, .inr hused⟩
        | duplicateName scope name =>
          obtain ⟨way, inner, rfl, hscope, hclash⟩ := htrue
          have hmessage := message_duplicateName target.typeName way name
          exact .inl ⟨way, inner, name, rfl, hmessage, hscope, hclash⟩
      · cases hname

/-! ## A child named like the self constant -/

/-- A branch with a child that has the name of the self constant. -/
def shadowing : List PathNode :=
  [.leaf "NAME" "name", .branch "OWNER" "owner" [.leaf "SELF" "owner.self"]]

theorem isSome_parse?_shadowing : (Ident.parse? "DogFields").isSome = true ∧
    (Ident.parse? "NAME").isSome = true ∧ (Ident.parse? "OWNER").isSome = true ∧
    (Ident.parse? "SELF").isSome = true := by
  have hword : ∀ name ∈ ["DogFields", "NAME", "OWNER", "SELF"],
      (Ident.parse? name).isSome = true := by
    intro name hname
    have hplain : IsWord name.toList ∧ name.toList ∉ keywords := by
      revert name
      decide
    rw [parse?_word hplain.1 hplain.2]
    rfl
  exact ⟨hword _ (by simp), hword _ (by simp), hword _ (by simp), hword _ (by simp)⟩

theorem render_shadowing : ({} : Renderer).render ⟨"m", "DogFields", "m.Dog"⟩ shadowing =
    .error (.duplicateName ["DogFields", "OWNER"] "SELF") := by
  obtain ⟨htype, hname, howner, hself⟩ := isSome_parse?_shadowing
  obtain ⟨ident, hident⟩ := Option.isSome_iff_exists.1 htype
  have hleaf : ∃ first,
      ({} : Renderer).node ["DogFields"] (.leaf "NAME" "name") = .ok first :=
    node_leaf_isOk_iff.2 hname
  obtain ⟨first, hfirst⟩ := hleaf
  -- inside the branch the name of the self constant is taken
  have hchild : ({} : Renderer).siblings ["DogFields", "OWNER"] ["SELF"]
      [.leaf "SELF" "owner.self"] = .error (.duplicateName ["DogFields", "OWNER"] "SELF") :=
    siblings_cons_eq_error.2 (.inl ⟨List.mem_cons_self, rfl⟩)
  have hbranch : ({} : Renderer).node ["DogFields"]
      (.branch "OWNER" "owner" [.leaf "SELF" "owner.self"]) =
      .error (.duplicateName ["DogFields", "OWNER"] "SELF") :=
    node_branch_eq_error_iff.2 (.inr ⟨howner, .inr ⟨hself, hchild⟩⟩)
  have hsiblings : ({} : Renderer).siblings ["DogFields"] [] shadowing =
      .error (.duplicateName ["DogFields", "OWNER"] "SELF") := by
    refine siblings_cons_eq_error.2 (.inr ⟨List.not_mem_nil, .inr ⟨first, hfirst, ?_⟩⟩)
    exact siblings_cons_eq_error.2 (.inr ⟨by decide, .inl hbranch⟩)
  simp only [render, bind_eq_error, identifier_eq_ok_iff]
  exact .inr ⟨ident, hident, .inl hsiblings⟩

/-- **The error names the branch and the self constant**, which a child of the branch has as its
    name; and an empty type name is called no identifier. -/
theorem shadowing_diagnosed :
    ({} : Renderer).render ⟨"m", "DogFields", "m.Dog"⟩ shadowing =
        .error (.duplicateName ["DogFields", "OWNER"] "SELF") ∧
      (∃ way inner, ["DogFields", "OWNER"] = "DogFields" :: way ∧ Scope shadowing way inner ∧
        ({} : Renderer).Clashes way inner "SELF") ∧
      ¬({} : Renderer).WellScoped "DogFields" shadowing ∧
      ({} : Renderer).render ⟨"m", "", "m.Dog"⟩ shadowing = .error (.invalidIdent "") ∧
      Ident.parse? "" = none := by
  obtain ⟨hok, herror⟩ := render_settles {} ⟨"m", "DogFields", "m.Dog"⟩ shadowing
  refine ⟨render_shadowing, ?_, ?_, ?_, parse?_empty⟩
  · rcases herror _ render_shadowing with ⟨way, inner, name, heq, -, hscope, hclash⟩ | ⟨_, heq, -⟩
    · obtain ⟨hway, rfl⟩ := EmitError.duplicateName.inj heq
      exact ⟨way, inner, hway, hscope, hclash⟩
    · cases heq
  · intro hwell
    obtain ⟨item, hitem⟩ := hok.2 hwell
    rw [render_shadowing] at hitem
    cases hitem
  · simp only [render, bind_eq_error, identifier_eq_error_iff]
    exact .inl ⟨parse?_empty, trivial⟩

end Renderer

end QueryPaths
