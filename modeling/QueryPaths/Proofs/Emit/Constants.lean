import QueryPaths.Proofs.Config.Settings
import QueryPaths.Proofs.Emit.Spelling
import QueryPaths.Proofs.Emit.TreeNames
import QueryPaths.Proofs.Path.Composition

/-! # Constants and query paths

    Each constant of an artifact holds the path of one node. If field names hold no
    dots, the constants of an artifact and the query paths they hold correspond one to
    one: a path belongs to one position of the tree, and a place to one constant.

    * **`Renderer.values_of_render`**: the constants of an artifact hold the paths of
      its tree, in order.
    * **`ClassPool.unambiguous_of_render`**: an artifact whose self constant is usable
      declares no name twice in a scope.
    * **`ClassPool.constants_match_paths`**: neither paths nor places nor values repeat.
-/

namespace QueryPaths

open Name (constantName)
open PathNode (Scope paths at?)
open Relation
open Source Source.Item

namespace Renderer

variable {r : Renderer} {scope taken : List String} {nodes tree : List PathNode} {target : Target}
  {item : Item} {items : List Item}

/-! ## What constants hold -/

/-- Siblings hold the paths of their nodes if each of them does. -/
theorem values_of_siblings
    (hnodes : ∀ n ∈ nodes, ∀ scope item, r.node scope n = .ok item →
      item.constants.map (·.2) = n.path :: paths n.children)
    (h : r.siblings scope taken nodes = .ok items) :
    (constantsOf items).map (·.2) = paths nodes := by
  induction nodes generalizing taken items with
  | nil =>
    obtain rfl := siblings_nil_eq_ok.1 h
    rfl
  | cons first rest ih =>
    obtain ⟨item, others, -, hfirst, hothers, rfl⟩ := siblings_cons_eq_ok.1 h
    have hvalues := hnodes first List.mem_cons_self scope item hfirst
    have hrest := ih (fun n hn => hnodes n (List.mem_cons_of_mem _ hn)) hothers
    rw [constantsOf, List.map_append, hvalues, hrest, PathNode.paths_cons, List.cons_append]

/-- **A node's constants hold its own path and those below it.** -/
theorem values_of_node (n : PathNode) : ∀ scope item, r.node scope n = .ok item →
    item.constants.map (·.2) = n.path :: paths n.children := by
  induction n with
  | leaf name path =>
    intro scope item h
    obtain ⟨ident, -, rfl⟩ := node_leaf_eq_ok.1 h
    rfl
  | branch name path children ih =>
    intro scope item h
    obtain ⟨ident, self, items, -, -, hitems, rfl⟩ := node_branch_eq_ok.1 h
    have hchildren : (constantsOf items).map (·.2) = paths children :=
      values_of_siblings (fun n hn => ih n hn) hitems
    -- the self constant comes first, and the module's name in front changes no value
    have hbody : (constantsOf (.constant self path :: items)).map (·.2) = path :: paths children := by
      rw [constantsOf, List.map_append, hchildren]
      rfl
    rw [constants, List.map_map]
    exact hbody

/-- **An artifact's constants hold the paths of its tree**, in order. -/
theorem values_of_render (h : r.render target tree = .ok item) :
    item.constants.map (·.2) = paths tree := by
  obtain ⟨ident, items, -, hitems, rfl⟩ := render_eq_ok.1 h
  have hitems : (constantsOf items).map (·.2) = paths tree :=
    values_of_siblings (fun n _ => values_of_node n) hitems
  rw [constants, List.map_map]
  exact hitems

end Renderer

namespace ClassPool

variable {pool : ClassPool} {root : ModelClass} {r : Renderer} {target : Target} {item : Item}

/-! ## Names and paths of a class's tree -/

theorem Expanded.reachable {active : List String} {c d : ModelClass}
    (h : pool.Expanded active c d) : ReflTransGen pool.Links c d :=
  (TransGen.mono (fun _ _ hlink => hlink.1) _ _ h.transGen).to_reflTransGen

/-- **No two nodes of the root's tree have the same path** if the classes expanded in it
    have clean names. -/
theorem nodup_paths_tree (hroot : CleanNames root)
    (hbelow : ∀ c, pool.Expanded [root.qualified] root c → CleanNames c) :
    (paths (pool.tree root)).Nodup :=
  (composed_nodes hroot hbelow "").nodup_paths

theorem nodup_names_of_distinctNames {c : ModelClass} (h : DistinctNames c) :
    (c.fields.map (·.name)).Nodup := by
  have hmap : (c.fields.map (·.name)).map constantName = c.fields.map (constantName ·.name) := by
    rw [List.map_map]
    rfl
  have hnodup : ((c.fields.map (·.name)).map constantName).Nodup := by
    rw [hmap]
    exact h
  exact hnodup.of_map _

/-- **Rendering a class's tree requires distinct raw names** in the root and in every
    class expanded below it. -/
theorem nodup_names_of_render (h : r.render target (pool.tree root) = .ok item) :
    (root.fields.map (·.name)).Nodup ∧
      ∀ c, pool.Expanded [root.qualified] root c → (c.fields.map (·.name)).Nodup := by
  obtain ⟨-, hfits⟩ := Renderer.render_isOk_iff.1 ⟨item, h⟩
  have hscope : ∀ way active lead (c : ModelClass),
      Scope (pool.tree root) way (pool.nodes active lead c.fields) →
        (c.fields.map (·.name)).Nodup := by
    intro way active lead c hscope
    have hnames := (hfits way _ hscope).nodup
    rw [map_name_nodes] at hnames
    exact nodup_names_of_distinctNames hnames
  refine ⟨hscope [] _ _ root (.top _), fun c hexp => ?_⟩
  obtain ⟨way, active, lead, -, hc⟩ := scope_of_expanded hexp ""
  exact hscope way active lead c hc

/-- **An artifact of a class declares no name twice in a scope** if the self constant
    passes for an identifier. -/
theorem unambiguous_of_render (hself : isPlainIdent r.selfConst = true)
    (h : r.render target (pool.tree root) = .ok item) : Unambiguous [item] := by
  obtain ⟨-, hfits⟩ := Renderer.render_isOk_iff.1 ⟨item, h⟩
  refine (Renderer.unambiguous_render_iff h).2 fun way inner hscope => ?_
  apply noSynonyms_of_isPlain
  apply Renderer.isPlain_of_mem_spellings
  · intro hway
    -- inside a branch the self constant was admitted, so it is no keyword
    have hident := (hfits way inner hscope).self_ident hway
    have hword := isWord_of_isPlainIdent hself
    have hkey : r.selfConst.toList ∉ keywords := by
      intro hkey
      rw [parse?_of_isWord hword, if_pos hkey] at hident
      cases hident
    exact parse?_word hword hkey
  · exact plainNames_tree pool root way inner hscope

/-! ## One to one -/

/-- **Constants and query paths correspond one to one.** If no field name of the root or
    of a class that links reach holds a dot, and each of these classes has distinct raw
    names, every path belongs to one position of the tree. And if an artifact of the tree
    is rendered with usable settings, which requires distinct names, no two of its
    constants have the same place or the same value. -/
theorem constants_match_paths (pool : ClassPool) (root : ModelClass)
    (hdotless : ∀ c, ReflTransGen pool.Links root c → ∀ f ∈ c.fields, '.' ∉ f.name.toList) :
    ((∀ c, ReflTransGen pool.Links root c → (c.fields.map (·.name)).Nodup) →
      ∀ chain chain' node node', at? (pool.tree root) chain = some node →
        at? (pool.tree root) chain' = some node' → node.path = node'.path → chain = chain') ∧
    ∀ (config : Config) (r : Renderer) (target : Target) (item : Item),
      config.validate = .ok () → r.selfConst = config.emit.selfConst →
      r.render target (pool.tree root) = .ok item →
        (item.constants.map (·.1)).Nodup ∧ (item.constants.map (·.2)).Nodup ∧
          item.constants.map (·.2) = paths (pool.tree root) := by
  -- names without dots and without repetition make for clean classes
  have hclean : ∀ c, ReflTransGen pool.Links root c → (c.fields.map (·.name)).Nodup →
      CleanNames c := fun c hreach hnodup => ⟨hnodup, hdotless c hreach⟩
  constructor
  · intro hnodup chain chain' node node' hnode hnode' hpath
    have hpaths : (paths (pool.tree root)).Nodup := by
      apply nodup_paths_tree (hclean root .refl (hnodup root .refl))
      intro c hexp
      exact hclean c hexp.reachable (hnodup c hexp.reachable)
    exact PathNode.eq_of_path_eq hpaths hnode hnode' hpath
  · intro config r target item hvalid hconst h
    -- that names do not repeat follows here from the rendering
    obtain ⟨hroot, hbelow⟩ := nodup_names_of_render h
    have hpaths : (paths (pool.tree root)).Nodup := by
      apply nodup_paths_tree (hclean root .refl hroot)
      intro c hexp
      exact hclean c hexp.reachable (hbelow c hexp)
    have hself : isPlainIdent r.selfConst = true := by
      rw [hconst]
      exact (Config.validate_eq_ok_iff.1 hvalid).2.1
    have hplaces := nodup_places (unambiguous_of_render hself h)
    rw [constantsOf_eq_flatMap, List.flatMap_singleton] at hplaces
    have hvalues := Renderer.values_of_render h
    exact ⟨hplaces, hvalues ▸ hpaths, hvalues⟩

/-! ## A class under several links -/

/-- A class with an empty field name, a link to itself and two links to one class. -/
def person : ModelClass :=
  ((((ModelClass.make "" "Person").scalar "").linkTo "boss" "Person").linkTo "home" "Place").linkTo
    "work" "Place"

/-- The class under both links. -/
def place : ModelClass := (ModelClass.make "" "Place").scalar "name"

/-- The pool of both classes. -/
def people : ClassPool := .ofList [person, place]

theorem reach_people {c : ModelClass} (h : ReflTransGen people.Links person c) :
    c = person ∨ c = place := by
  induction h with
  | refl => exact .inl rfl
  | tail _ hlink _ =>
    obtain ⟨f, -, htarget⟩ := hlink
    obtain ⟨q, -, hget⟩ := Option.bind_eq_some_iff.1 htarget
    have hmem := (mem_of_get? hget).1
    have hlist : people.toList = [person, place] := by decide +kernel
    rw [hlist] at hmem
    simpa using hmem

/-- **Both can be rendered together**: the constants of the two expansions of one class
    differ in their place and in their value. -/
theorem people_match :
    (∀ c, ReflTransGen people.Links person c → ∀ f ∈ c.fields, '.' ∉ f.name.toList) ∧
    (∀ c, ReflTransGen people.Links person c → (c.fields.map (·.name)).Nodup) ∧
    ({} : Config).validate = .ok () ∧
    ∃ item, ({} : Renderer).render ⟨"", "PersonFields", "Person"⟩ (people.tree person) = .ok item ∧
      (item.constants.map (·.1)).Nodup ∧ (item.constants.map (·.2)).Nodup ∧
        ∀ chain chain' node node', at? (people.tree person) chain = some node →
          at? (people.tree person) chain' = some node' → node.path = node'.path →
            chain = chain' := by
  have hdotless : ∀ c, ReflTransGen people.Links person c → ∀ f ∈ c.fields,
      '.' ∉ f.name.toList := by
    intro c hreach
    rcases reach_people hreach with rfl | rfl
    · decide
    · decide
  have hnodup : ∀ c, ReflTransGen people.Links person c → (c.fields.map (·.name)).Nodup := by
    intro c hreach
    rcases reach_people hreach with rfl | rfl
    · decide
    · decide
  have hvalid : ({} : Config).validate = .ok () := by decide
  have htype : (Ident.parse? "PersonFields").isSome = true := by
    rw [parse?_word (by decide) (by decide)]
    rfl
  have hself : (Ident.parse? ({} : Renderer).selfConst).isSome = true := isSome_parse?_defaults.2
  -- the tree can be rendered, since all classes in it are well named
  obtain ⟨item, hitem⟩ := (render_tree_isOk_iff_expanded people person {}
    ⟨"", "PersonFields", "Person"⟩ htype hself).2 (by
      refine ⟨by decide, fun c hexp => ?_⟩
      rcases reach_people hexp.reachable with rfl | rfl
      · exact ⟨by decide, by decide⟩
      · exact ⟨by decide, by decide⟩)
  obtain ⟨hpaths, hconstants⟩ := constants_match_paths people person hdotless
  obtain ⟨hplaces, hvalues, -⟩ := hconstants {} {} _ item hvalid rfl hitem
  exact ⟨hdotless, hnodup, hvalid, item, hitem, hplaces, hvalues, hpaths hnodup⟩

end ClassPool

end QueryPaths
