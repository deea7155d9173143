import QueryPaths.Proofs.Emit.Scopes
import QueryPaths.Proofs.Source.Reading

/-! # Reading an artifact back

    The text of an artifact holds its path tree, and nothing else besides the
    documentation. As long as names are written as they are, reading the text gives
    back each leaf as a constant and each branch as a module, in place.

    * **`PlainNames`**: all names of a tree are written as they are.
    * **`outline`**: the items that a node stands for.
    * **`Renderer.isSound_of_render`**: every artifact can be read back.
    * **`Renderer.renderText_gives_back_tree`**: what is read back from the text is the tree.
-/

namespace QueryPaths

open PathNode (Scope)
open Source

/-! ## What a tree stands for -/

/-- The identifier that is written like the name. -/
def plain (name : String) : Ident := ⟨false, name.toList⟩

/-- **A name that is written as it is**: it reads as the identifier of its spelling. -/
def IsPlain (name : String) : Prop := Ident.parse? name = some (plain name)

/-- **The plain names** are the words that are no keywords. -/
theorem isPlain_iff {name : String} :
    IsPlain name ↔ IsWord name.toList ∧ name.toList ∉ keywords :=
  parse?_plain_iff

theorem IsPlain.eq_plain {name : String} {i : Ident} (h : IsPlain name)
    (hi : Ident.parse? name = some i) : i = plain name :=
  Option.some.inj (hi.symm.trans h)

/-- **All names of a tree are written as they are**, those inside branches, too. -/
def PlainNames (nodes : List PathNode) : Prop :=
  ∀ way inner, Scope nodes way inner → ∀ n ∈ inner, IsPlain n.name

theorem PlainNames.isPlain {nodes : List PathNode} {n : PathNode} (h : PlainNames nodes)
    (hn : n ∈ nodes) : IsPlain n.name :=
  h [] nodes (.top nodes) n hn

theorem PlainNames.children {nodes children : List PathNode} {name path : String}
    (h : PlainNames nodes) (hn : .branch name path children ∈ nodes) : PlainNames children :=
  fun way inner hscope => h (name :: way) inner (.inside hn hscope)

theorem PlainNames.singleton {nodes : List PathNode} {n : PathNode} (h : PlainNames nodes)
    (hn : n ∈ nodes) : PlainNames [n] := by
  intro way inner hscope m hm
  cases hscope with
  | top =>
    obtain rfl := List.mem_singleton.1 hm
    exact h.isPlain hn
  | inside mem hscope =>
    obtain rfl := List.mem_singleton.1 mem
    exact h.children hn _ inner hscope m hm

theorem plainNames_nil : PlainNames [] := by
  intro way inner hscope n hn
  cases hscope with
  | top => cases hn
  | inside mem _ => cases mem

/-- The names of a list are those of the first node, those below it, and the others. -/
theorem plainNames_cons {first : PathNode} {rest : List PathNode} :
    PlainNames (first :: rest) ↔
      IsPlain first.name ∧ PlainNames first.children ∧ PlainNames rest := by
  constructor
  · intro h
    refine ⟨h.isPlain List.mem_cons_self, ?_, ?_⟩
    · -- a leaf has nothing below it
      cases first with
      | leaf => exact plainNames_nil
      | branch => exact h.children List.mem_cons_self
    · intro way inner hscope n hn
      -- a scope of all nodes is the top, or lies inside the first node or one of the others
      cases hscope with
      | top => exact h.isPlain (List.mem_cons_of_mem _ hn)
      | inside mem hscope => exact h.children (List.mem_cons_of_mem _ mem) _ inner hscope n hn
  · intro h way inner hscope n hn
    obtain ⟨hfirst, hbelow, hrest⟩ := h
    cases hscope with
    | top =>
      rcases List.mem_cons.1 hn with rfl | hn
      · exact hfirst
      · exact hrest.isPlain hn
    | inside mem hscope =>
      rcases List.mem_cons.1 mem with rfl | mem
      · exact hbelow _ inner hscope n hn
      · exact hrest.children mem _ inner hscope n hn

mutual

/-- **The item that a node stands for.** A leaf is a constant with the leaf's path. A
    branch is a module: first the self constant with the branch's own path, then the
    children. -/
def outline (selfConst : String) : PathNode → Item
  | .leaf name path => .constant (plain name) path
  | .branch name path children =>
    .module [] (plain name) (.constant (plain selfConst) path :: outlines selfConst children)

/-- The items that siblings stand for. -/
def outlines (selfConst : String) : List PathNode → List Item
  | [] => []
  | node :: rest => outline selfConst node :: outlines selfConst rest

end

theorem outlines_eq_map (selfConst : String) (nodes : List PathNode) :
    outlines selfConst nodes = nodes.map (outline selfConst) := by
  induction nodes with
  | nil => rfl
  | cons node rest ih => rw [outlines, ih, List.map_cons]

namespace Renderer

variable {r : Renderer} {target : Target} {tree nodes : List PathNode} {scope taken : List String}
  {item : Item} {items : List Item}

/-! ## Siblings -/

theorem exists_node_of_mem_siblings (h : r.siblings scope taken nodes = .ok items)
    (hitem : item ∈ items) : ∃ n ∈ nodes, r.node scope n = .ok item := by
  induction nodes generalizing taken items with
  | nil =>
    obtain rfl := siblings_nil_eq_ok.1 h
    cases hitem
  | cons first rest ih =>
    obtain ⟨item', others, -, hfirst, hothers, rfl⟩ := siblings_cons_eq_ok.1 h
    rcases List.mem_cons.1 hitem with rfl | hitem
    · exact ⟨first, List.mem_cons_self, hfirst⟩
    · obtain ⟨n, hn, hnode⟩ := ih hothers hitem
      exact ⟨n, List.mem_cons_of_mem _ hn, hnode⟩

theorem map_bare_siblings {selfConst : String}
    (hnodes : ∀ n ∈ nodes, ∀ item, r.node scope n = .ok item → item.bare = outline selfConst n)
    (h : r.siblings scope taken nodes = .ok items) :
    items.map Item.bare = nodes.map (outline selfConst) := by
  induction nodes generalizing taken items with
  | nil =>
    obtain rfl := siblings_nil_eq_ok.1 h
    rfl
  | cons first rest ih =>
    obtain ⟨item, others, -, hfirst, hothers, rfl⟩ := siblings_cons_eq_ok.1 h
    rw [List.map_cons, List.map_cons, hnodes first List.mem_cons_self item hfirst,
      ih (fun n hn => hnodes n (List.mem_cons_of_mem _ hn)) hothers]

/-! ## Every artifact can be read back -/

theorem isName_of_parse? {name : String} {i : Ident} (h : Ident.parse? name = some i) :
    i.IsToken ∧ i.isName = true := by
  obtain ⟨htoken, hkey⟩ := isToken_of_parse? h
  refine ⟨htoken, ?_⟩
  rcases hkey with hraw | hkey
  · simp [Ident.isName, hraw]
  · simp [Ident.isName, hkey]

/-- Documentation may be any text, and may be left out. -/
theorem isSound_of_mem_docs {docs : Bool} {text : String} :
    ∀ a ∈ (if docs then [Attribute.doc text] else []), a.IsSound := by
  intro a ha
  split at ha
  · obtain rfl := List.mem_singleton.1 ha
    trivial
  · cases ha

/-- **A rendered node is sound**, whatever documentation and paths hold. -/
theorem isSound_of_node (n : PathNode) :
    ∀ scope item, r.node scope n = .ok item → item.IsSound := by
  induction n with
  | leaf name path =>
    intro scope item h
    obtain ⟨ident, hident, rfl⟩ := node_leaf_eq_ok.1 h
    obtain ⟨htoken, hname⟩ := isName_of_parse? hident
    exact .constant htoken hname
  | branch name path children ih =>
    intro scope item h
    obtain ⟨ident, self, items, hident, hself, hitems, rfl⟩ := node_branch_eq_ok.1 h
    obtain ⟨htoken, hname⟩ := isName_of_parse? hident
    obtain ⟨hselfToken, hselfName⟩ := isName_of_parse? hself
    have hdoc : ∀ a ∈ r.branchDoc path, a.IsSound := isSound_of_mem_docs
    refine .module hdoc htoken hname ?_
    intro item hitem
    -- the self constant comes first, then the items of the children
    rcases List.mem_cons.1 hitem with rfl | hitem
    · exact .constant hselfToken hselfName
    · obtain ⟨child, hchild, hnode⟩ := exists_node_of_mem_siblings hitems hitem
      exact ih child hchild _ item hnode

/-- **Every artifact is sound.** -/
theorem isSound_of_render (h : r.render target tree = .ok item) : item.IsSound := by
  obtain ⟨ident, items, hident, hitems, rfl⟩ := render_eq_ok.1 h
  obtain ⟨htoken, hname⟩ := isName_of_parse? hident
  -- maybe documentation, and then always the lint
  have hattributes : ∀ a ∈ r.artifactDoc target ++ [.allow "non_snake_case"], a.IsSound := by
    intro a ha
    rcases List.mem_append.1 ha with ha | ha
    · exact isSound_of_mem_docs a ha
    · obtain rfl := List.mem_singleton.1 ha
      show IsWord "non_snake_case".toList
      decide
  refine .module hattributes htoken hname ?_
  intro item hitem
  obtain ⟨n, -, hnode⟩ := exists_node_of_mem_siblings hitems hitem
  exact isSound_of_node n _ item hnode

/-! ## What is read back is the tree -/

/-- **A rendered node shows what it stands for**, once the documentation is taken off. -/
theorem bare_of_node (hself : IsPlain r.selfConst) (n : PathNode) :
    ∀ nodes scope item, n ∈ nodes → PlainNames nodes → r.node scope n = .ok item →
      item.bare = outline r.selfConst n := by
  induction n with
  | leaf name path =>
    intro nodes scope item hn hplain h
    obtain ⟨ident, hident, rfl⟩ := node_leaf_eq_ok.1 h
    have hname := hplain.isPlain hn
    rw [PathNode.name] at hname
    -- a plain name is printed as it stands
    obtain rfl := hname.eq_plain hident
    rfl
  | branch name path children ih =>
    intro nodes scope item hn hplain h
    obtain ⟨ident, self, items, hident, hself', hitems, rfl⟩ := node_branch_eq_ok.1 h
    have hname := hplain.isPlain hn
    rw [PathNode.name] at hname
    obtain rfl := hname.eq_plain hident
    obtain rfl := hself.eq_plain hself'
    have hchildren : items.map Item.bare = children.map (outline r.selfConst) :=
      map_bare_siblings
        (fun child hchild item hnode =>
          ih child hchild children _ item hchild (hplain.children hn) hnode)
        hitems
    rw [Item.bare, Item.bareItems_eq_map, List.map_cons, hchildren, Item.bare, outline,
      outlines_eq_map]

/-- **A whole artifact shows what it stands for**, once the documentation is taken off. -/
theorem bare_of_render (hself : IsPlain r.selfConst) (htype : IsPlain target.typeName)
    (hplain : PlainNames tree) (h : r.render target tree = .ok item) :
    item.bare = .module [] (plain target.typeName) (tree.map (outline r.selfConst)) := by
  obtain ⟨ident, items, hident, hitems, rfl⟩ := render_eq_ok.1 h
  obtain rfl := htype.eq_plain hident
  have htree : items.map Item.bare = tree.map (outline r.selfConst) :=
    map_bare_siblings (fun n hn item hnode => bare_of_node hself n tree _ item hn hplain hnode)
      hitems
  rw [Item.bare, Item.bareItems_eq_map, htree]

/-- The text of an artifact is read back as its only item, without attributes. -/
theorem read?_of_render (h : r.render target tree = .ok item) :
    read? (sourceText [item]) = some [item.bare] := by
  have hsound : ∀ item' ∈ [item], item'.IsSound := by
    intro item' hitem
    obtain rfl := List.mem_singleton.1 hitem
    exact isSound_of_render h
  rw [read?_sourceText hsound, List.map_singleton]

theorem read?_of_renderText {source : String} (hself : IsPlain r.selfConst)
    (htype : IsPlain target.typeName) (hplain : PlainNames tree)
    (h : r.renderText target tree = .ok source) :
    read? source =
      some [.module [] (plain target.typeName) (tree.map (outline r.selfConst))] := by
  obtain ⟨item, hrender, rfl⟩ := renderText_eq_ok.1 h
  rw [read?_of_render hrender, bare_of_render hself htype hplain hrender]

/-- Whether an artifact can be rendered does not depend on the documentation. -/
theorem render_docs_isOk (docs : Bool) (h : ∃ item, r.render target tree = .ok item) :
    ∃ item, ({ r with docs }).render target tree = .ok item := by
  obtain ⟨htype, hfits⟩ := render_isOk_iff.1 h
  refine render_isOk_iff.2 ⟨htype, ?_⟩
  intro way inner hscope
  -- what a scope has to satisfy depends on the self constant alone
  have hscopeFits := hfits way inner hscope
  exact ⟨hscopeFits.nodup, hscopeFits.ident, hscopeFits.self_ident, hscopeFits.self_fresh⟩

/-- **Rendered source gives back the tree.** The text is read back as one module of the
    type name that holds what the tree stands for, in order and in place, and nothing
    else. The documentation makes no difference. -/
theorem renderText_gives_back_tree {source : String} (hself : IsPlain r.selfConst)
    (htype : IsPlain target.typeName) (hplain : PlainNames tree)
    (h : r.renderText target tree = .ok source) :
    read? source =
        some [.module [] (plain target.typeName) (tree.map (outline r.selfConst))] ∧
      ∀ docs, ∃ other, ({ r with docs }).renderText target tree = .ok other ∧
        read? other = read? source := by
  have hread := read?_of_renderText hself htype hplain h
  refine ⟨hread, ?_⟩
  intro docs
  -- both texts have the same outline, which does not mention the documentation
  obtain ⟨item, hrender, -⟩ := renderText_eq_ok.1 h
  obtain ⟨item', hrender'⟩ := render_docs_isOk docs ⟨item, hrender⟩
  have hother : ({ r with docs }).renderText target tree = .ok (sourceText [item']) :=
    renderText_eq_ok.2 ⟨item', hrender', rfl⟩
  have hself' : IsPlain ({ r with docs } : Renderer).selfConst := hself
  exact ⟨_, hother, (read?_of_renderText hself' htype hplain hother).trans hread.symm⟩

/-! ## A tree with awkward paths -/

/-- A leaf, and a branch with a leaf inside. Their paths hold quotes, a backslash, a
    closing brace and control characters. -/
def awkward : List PathNode :=
  [.leaf "NAME" "na\"me\\", .branch "OWNER" "own\x00er" [.leaf "CITY" "\n] \x7d"]]

/-- The target of a class with an awkward name. -/
def awkwardTarget : Target := ⟨"", "DogFields", "\"Dog\"\n"⟩

/-- The awkward tree is read back, with its documentation. -/
theorem awkward_read_back :
    IsPlain ({} : Renderer).selfConst ∧ IsPlain awkwardTarget.typeName ∧ PlainNames awkward ∧
      ∃ source, ({} : Renderer).renderText awkwardTarget awkward = .ok source ∧
        read? source = some [.module [] (plain "DogFields")
          [.constant (plain "NAME") "na\"me\\", .module [] (plain "OWNER")
            [.constant (plain "SELF") "own\x00er", .constant (plain "CITY") "\n] \x7d"]]] := by
  have hself : IsPlain ({} : Renderer).selfConst := isPlain_iff.2 (by decide)
  have htype : IsPlain awkwardTarget.typeName := isPlain_iff.2 (by decide)
  have hname : IsPlain "NAME" := isPlain_iff.2 (by decide)
  have howner : IsPlain "OWNER" := isPlain_iff.2 (by decide)
  have hcity : IsPlain "CITY" := isPlain_iff.2 (by decide)
  have hplain : PlainNames awkward := by
    simp [awkward, plainNames_cons, plainNames_nil, PathNode.name, PathNode.children, hname,
      howner, hcity]
  -- the children first, then the branch and the leaf beside it
  have hchildren : ({} : Renderer).siblings ["DogFields", "OWNER"] ["SELF"]
      [.leaf "CITY" "\n] \x7d"] = .ok [.constant (plain "CITY") "\n] \x7d"] :=
    siblings_cons_eq_ok.2 ⟨_, _, by decide, node_leaf_eq_ok.2 ⟨_, hcity, rfl⟩,
      siblings_nil_eq_ok.2 rfl, rfl⟩
  have hbranch : ({} : Renderer).node ["DogFields"]
      (.branch "OWNER" "own\x00er" [.leaf "CITY" "\n] \x7d"]) = .ok _ :=
    node_branch_eq_ok.2 ⟨_, _, _, howner, hself, hchildren, rfl⟩
  have htree : ({} : Renderer).siblings ["DogFields"] [] awkward = .ok _ :=
    siblings_cons_eq_ok.2 ⟨_, _, List.not_mem_nil, node_leaf_eq_ok.2 ⟨_, hname, rfl⟩,
      siblings_cons_eq_ok.2 ⟨_, _, by decide, hbranch, siblings_nil_eq_ok.2 rfl, rfl⟩, rfl⟩
  have hrender : ({} : Renderer).render awkwardTarget awkward = .ok _ :=
    render_eq_ok.2 ⟨_, _, htype, htree, rfl⟩
  have htext := renderText_eq_ok.2 ⟨_, hrender, rfl⟩
  exact ⟨hself, htype, hplain, _, htext, (renderText_gives_back_tree hself htype hplain htext).1⟩

end Renderer

end QueryPaths
