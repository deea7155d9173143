import QueryPaths.Proofs.Emit.ReadBack
import QueryPaths.Proofs.Name.Identifier
import QueryPaths.Proofs.Path.Reach

/-! # Which trees can be rendered

    The scopes of a class's tree are the fields of the class itself and those of
    the classes expanded below it, so whether the tree can be rendered is a
    matter of the model alone.

    * **`ClassPool.scope_of_expanded`**, **`ClassPool.expanded_of_scope`**: each
      expanded class has a scope of its own, and there are no other scopes inside.
    * **`WellNamed`**: what the fields of an expanded class have to satisfy.
    * **`ClassPool.render_tree_isOk_iff`**: a class can be rendered exactly if its
      own names are distinct and all classes that links reach are well named.
-/

namespace QueryPaths

open Name (constantName)
open PathNode (Scope)
open Source

namespace ClassPool

variable {pool : ClassPool}

/-! ## Scopes and expanded classes -/

/-- **Each expanded class has a scope of its own.** -/
theorem scope_of_expanded {active : List String} {c e : ModelClass}
    (h : pool.Expanded active c e) (lead : String) :
    ∃ way below lead', way ≠ [] ∧
      Scope (pool.nodes active lead c.fields) way (pool.nodes below lead' e.fields) := by
  induction h generalizing lead with
  | first hlink =>
    obtain ⟨name, path, hmem⟩ := exists_branch_mem_nodes hlink lead
    exact ⟨[name], _, _, List.cons_ne_nil _ _, .inside hmem (.top _)⟩
  | inner hlink _ ih =>
    obtain ⟨name, path, hmem⟩ := exists_branch_mem_nodes hlink lead
    obtain ⟨way, below, lead', -, hscope⟩ := ih (path ++ ".")
    exact ⟨name :: way, below, lead', List.cons_ne_nil _ _, .inside hmem hscope⟩

/-- **Every scope inside a tree is that of an expanded class.** -/
theorem expanded_of_scope {nodes inner : List PathNode} {way : List String}
    (h : Scope nodes way inner) {active : List String} {c : ModelClass} {lead : String}
    (hnodes : nodes = pool.nodes active lead c.fields) (hway : way ≠ []) :
    ∃ e below lead', pool.Expanded active c e ∧ inner = pool.nodes below lead' e.fields := by
  induction h generalizing active c lead with
  | top => exact absurd rfl hway
  | inside hmem rest ih =>
    subst hnodes
    -- the branch belongs to a link, so its children are the nodes of the linked class
    obtain ⟨d, hlink, hchildren⟩ := linksOutside_of_branch_mem hmem
    cases rest with
    | top => exact ⟨d, _, _, .first hlink, hchildren⟩
    | inside hmem' rest' =>
      obtain ⟨e, below, lead', hexp, hinner⟩ := ih hchildren (List.cons_ne_nil _ _)
      exact ⟨e, below, lead', .inner hlink hexp, hinner⟩

end ClassPool

/-! ## Names of classes -/

/-- **The constants of a class's fields are distinct.** -/
def DistinctNames (c : ModelClass) : Prop := (c.fields.map (constantName ·.name)).Nodup

/-- **A class can be expanded beside the self constant**: its constants are distinct,
    and none of them is called like that. -/
def WellNamed (selfConst : String) (c : ModelClass) : Prop :=
  DistinctNames c ∧ ∀ f ∈ c.fields, constantName f.name ≠ selfConst

instance (c : ModelClass) : Decidable (DistinctNames c) :=
  inferInstanceAs (Decidable (List.Nodup _))

namespace Renderer

variable {r : Renderer} {pool : ClassPool} {c : ModelClass} {active : List String} {lead : String}

theorem exists_name_eq {n : PathNode} (h : n ∈ pool.nodes active lead c.fields) :
    ∃ f ∈ c.fields, n.name = constantName f.name := by
  have hname : n.name ∈ (pool.nodes active lead c.fields).map PathNode.name :=
    List.mem_map_of_mem h
  rw [ClassPool.map_name_nodes] at hname
  obtain ⟨f, hf, heq⟩ := List.mem_map.1 hname
  exact ⟨f, hf, heq.symm⟩

theorem isPlain_name {n : PathNode} (h : n ∈ pool.nodes active lead c.fields) : IsPlain n.name := by
  obtain ⟨f, -, hname⟩ := exists_name_eq h
  rw [hname]
  exact Name.parse?_constantName f.name

theorem isSome_parse?_name {n : PathNode} (h : n ∈ pool.nodes active lead c.fields) :
    (Ident.parse? n.name).isSome = true :=
  Option.isSome_iff_exists.2 ⟨_, isPlain_name h⟩

/-- The scope at the top fits if the constants of the root are distinct. -/
theorem fits_nil_nodes_iff :
    r.Fits [] (pool.nodes active lead c.fields) ↔ DistinctNames c := by
  constructor
  · intro h
    have hnodup := h.nodup
    rwa [ClassPool.map_name_nodes] at hnodup
  · intro h
    refine ⟨?_, fun n hn => isSome_parse?_name hn, fun h => absurd rfl h, fun h => absurd rfl h⟩
    rw [ClassPool.map_name_nodes]
    show DistinctNames c
    exact h

/-- A scope inside fits if its class is well named. -/
theorem fits_nodes_iff {way : List String} (hway : way ≠ [])
    (hself : (Ident.parse? r.selfConst).isSome = true) :
    r.Fits way (pool.nodes active lead c.fields) ↔ WellNamed r.selfConst c := by
  constructor
  · intro h
    have hnodup := h.nodup
    rw [ClassPool.map_name_nodes] at hnodup
    refine ⟨hnodup, fun f hf => ?_⟩
    -- the field has a node, and that must not be called like the self constant
    have hmem : pool.fieldNode active lead f ∈ pool.nodes active lead c.fields := by
      rw [ClassPool.nodes_eq_map]
      exact List.mem_map_of_mem hf
    have hfresh := h.self_fresh hway _ hmem
    rwa [ClassPool.name_fieldNode] at hfresh
  · intro h
    obtain ⟨hnodup, hfresh⟩ := h
    refine ⟨?_, fun n hn => isSome_parse?_name hn, fun _ => hself, fun _ n hn => ?_⟩
    · rw [ClassPool.map_name_nodes]
      show DistinctNames c
      exact hnodup
    · obtain ⟨f, hf, hname⟩ := exists_name_eq hn
      rw [hname]
      exact hfresh f hf

end Renderer

namespace ClassPool

open Relation

/-- **All names of a class's tree stand for themselves.** -/
theorem plainNames_tree (pool : ClassPool) (root : ModelClass) : PlainNames (pool.tree root) := by
  intro way inner hscope n hn
  by_cases hway : way = []
  · subst hway
    cases hscope
    exact Renderer.isPlain_name hn
  · obtain ⟨c, active, lead, -, rfl⟩ := expanded_of_scope hscope rfl hway
    exact Renderer.isPlain_name hn

/-- **A class can be rendered** exactly if its own constants are distinct and every
    class expanded below it is well named. -/
theorem render_tree_isOk_iff_expanded (pool : ClassPool) (root : ModelClass) (r : Renderer)
    (target : Target) (htype : (Ident.parse? target.typeName).isSome = true)
    (hself : (Ident.parse? r.selfConst).isSome = true) :
    (∃ item, r.render target (pool.tree root) = .ok item) ↔
      DistinctNames root ∧
        ∀ c, pool.Expanded [root.qualified] root c → WellNamed r.selfConst c := by
  rw [Renderer.render_isOk_iff]
  constructor
  · intro h
    obtain ⟨-, hfits⟩ := h
    refine ⟨Renderer.fits_nil_nodes_iff.1 (hfits [] _ (.top _)), fun c hexp => ?_⟩
    obtain ⟨way, below, lead, hway, hscope⟩ := scope_of_expanded hexp ""
    exact (Renderer.fits_nodes_iff hway hself).1 (hfits way _ hscope)
  · intro h
    obtain ⟨hroot, hexpanded⟩ := h
    refine ⟨htype, fun way inner hscope => ?_⟩
    -- only the scope at the top is exempt from the self constant
    by_cases hway : way = []
    · subst hway
      cases hscope with
      | top => exact Renderer.fits_nil_nodes_iff.2 hroot
    · obtain ⟨c, below, lead, hexp, rfl⟩ := expanded_of_scope hscope rfl hway
      exact (Renderer.fits_nodes_iff hway hself).2 (hexpanded c hexp)

/-- **When a class can be rendered, in terms of the model alone**: its own constants
    are distinct, and every class that links reach without coming to a class of
    its name is well named. If its name is looked up as the class itself or not at
    all, these are all other classes that links reach. -/
theorem render_tree_isOk_iff (pool : ClassPool) (root : ModelClass) (r : Renderer)
    (target : Target) (htype : (Ident.parse? target.typeName).isSome = true)
    (hself : (Ident.parse? r.selfConst).isSome = true) :
    ((∃ item, r.render target (pool.tree root) = .ok item) ↔
      DistinctNames root ∧ ∀ c, TransGen (pool.LinksOutside [root.qualified]) root c →
        WellNamed r.selfConst c) ∧
    ((∀ c, pool.get? root.qualified = some c → c = root) →
      ((∃ item, r.render target (pool.tree root) = .ok item) ↔
        DistinctNames root ∧ ∀ c, c.qualified ≠ root.qualified → ReflTransGen pool.Links root c →
          WellNamed r.selfConst c)) := by
  have hmain : (∃ item, r.render target (pool.tree root) = .ok item) ↔
      DistinctNames root ∧ ∀ c, TransGen (pool.LinksOutside [root.qualified]) root c →
        WellNamed r.selfConst c := by
    rw [render_tree_isOk_iff_expanded pool root r target htype hself]
    simp only [expanded_iff]
  refine ⟨hmain, fun hroot => hmain.trans (and_congr_right fun _ => ?_)⟩
  constructor
  · intro h c hne hreach
    exact h c ((reaches_outside_iff hroot hne).2 hreach)
  · intro h c hreach
    have hne : c.qualified ≠ root.qualified := by
      obtain ⟨_, -, hlast⟩ := TransGen.tail'_iff.1 hreach
      exact fun heq => hlast.2 (List.mem_singleton.2 heq)
    exact h c hne ((reaches_outside_iff hroot hne).1 hreach)

/-! ## A root with a namesake -/

/-- An earlier class with the name of the root. -/
def namesake : ModelClass := ((ModelClass.make "m" "A").linkTo "c" "m.C").asLibrary

/-- The root. -/
def later : ModelClass := (ModelClass.make "m" "A").linkTo "b" "m.B"

/-- A class that links back to that name. -/
def between : ModelClass := ((ModelClass.make "m" "B").linkTo "a" "m.A").asLibrary

/-- A class that cannot be expanded. -/
def unnamed : ModelClass := (((ModelClass.make "m" "C").scalar "x").scalar "X").asLibrary

/-- The root comes second, so its name is looked up as the other class. -/
def shadowed : ClassPool := .ofList [namesake, later, between, unnamed]

/-- The root comes first. -/
def cyclic : ClassPool := .ofList [later, between]

theorem isSome_parse?_defaults : (Ident.parse? "AFields").isSome = true ∧
    (Ident.parse? ({} : Renderer).selfConst).isSome = true := by
  have htype : Ident.parse? "AFields" = some ⟨false, "AFields".toList⟩ :=
    parse?_word (by decide) (by decide)
  have hself : Ident.parse? "SELF" = some ⟨false, "SELF".toList⟩ :=
    parse?_word (by decide) (by decide)
  exact ⟨by rw [htype]; rfl, by rw [hself]; rfl⟩

theorem links_iff_of_single {pool : ClassPool} {c d e : ModelClass} {f : Field}
    (hfields : c.fields = [f]) (htarget : pool.target? f = some d) : pool.Links c e ↔ e = d := by
  simp only [Links, hfields, List.mem_singleton, exists_eq_left, htarget, Option.some.injEq]
  exact eq_comm

theorem wellNamed_between : WellNamed ({} : Renderer).selfConst between := by
  refine ⟨by decide, fun f hf => ?_⟩
  obtain rfl := List.mem_singleton.1 hf
  decide

/-- In the cyclic pool the root can be rendered. -/
theorem render_cyclic : (Ident.parse? "AFields").isSome = true ∧
    (Ident.parse? ({} : Renderer).selfConst).isSome = true ∧
    cyclic.get? later.qualified = some later ∧
    ∃ item, ({} : Renderer).render ⟨"m", "AFields", "m.A"⟩ (cyclic.tree later) = .ok item := by
  obtain ⟨htype, hself⟩ := isSome_parse?_defaults
  have hroot : cyclic.get? later.qualified = some later := by decide +kernel
  have hfirst : ∀ c, cyclic.Links later c ↔ c = between :=
    fun c => links_iff_of_single (f := ⟨"b", some "m.B"⟩) rfl (by decide +kernel)
  have hsecond : ∀ c, cyclic.Links between c ↔ c = later :=
    fun c => links_iff_of_single (f := ⟨"a", some "m.A"⟩) rfl (by decide +kernel)
  refine ⟨htype, hself, hroot, ?_⟩
  apply ((render_tree_isOk_iff cyclic later {} ⟨"m", "AFields", "m.A"⟩ htype hself).2
    fun c hc => Option.some.inj (hc.symm.trans hroot)).2
  refine ⟨by decide, fun c hne hreach => ?_⟩
  -- the links lead around in a circle
  have hcircle : c = later ∨ c = between := by
    clear hne
    induction hreach with
    | refl => exact .inl rfl
    | tail _ hlink ih =>
      rcases ih with rfl | rfl
      · exact .inr ((hfirst _).1 hlink)
      · exact .inl ((hsecond _).1 hlink)
  rcases hcircle with rfl | rfl
  · exact absurd rfl hne
  · exact wellNamed_between

/-- **A class that cannot be expanded may be reached through a namesake of the root**,
    and yet the root can be rendered: the namesake is never expanded. -/
theorem render_shadowed : (Ident.parse? "AFields").isSome = true ∧
    (Ident.parse? ({} : Renderer).selfConst).isSome = true ∧
    (∃ item, ({} : Renderer).render ⟨"m", "AFields", "m.A"⟩ (shadowed.tree later) = .ok item) ∧
    unnamed.qualified ≠ later.qualified ∧ ReflTransGen shadowed.Links later unnamed ∧
    ¬WellNamed ({} : Renderer).selfConst unnamed := by
  obtain ⟨htype, hself⟩ := isSome_parse?_defaults
  have hfirst : ∀ c, shadowed.Links later c ↔ c = between :=
    fun c => links_iff_of_single (f := ⟨"b", some "m.B"⟩) rfl (by decide +kernel)
  have hsecond : ∀ c, shadowed.Links between c ↔ c = namesake :=
    fun c => links_iff_of_single (f := ⟨"a", some "m.A"⟩) rfl (by decide +kernel)
  have hthird : ∀ c, shadowed.Links namesake c ↔ c = unnamed :=
    fun c => links_iff_of_single (f := ⟨"c", some "m.C"⟩) rfl (by decide +kernel)
  refine ⟨htype, hself, ?_, by decide, ?_, ?_⟩
  · apply (render_tree_isOk_iff_expanded shadowed later {} ⟨"m", "AFields", "m.A"⟩ htype hself).2
    refine ⟨by decide, fun c hexp => ?_⟩
    -- behind the class between, the only link leads to the root's own name
    have hstop : ∀ d, ¬shadowed.LinksOutside [between.qualified, later.qualified] between d := by
      intro d h
      obtain ⟨hlink, hfresh⟩ := h
      obtain rfl := (hsecond d).1 hlink
      exact hfresh (by decide)
    cases hexp with
    | first hlink =>
      obtain rfl := (hfirst c).1 hlink.1
      exact wellNamed_between
    | inner hlink rest =>
      obtain rfl := (hfirst _).1 hlink.1
      cases rest with
      | first hlink' => exact absurd hlink' (hstop _)
      | inner hlink' _ => exact absurd hlink' (hstop _)
  · have hb : shadowed.Links later between := (hfirst _).2 rfl
    have ha : shadowed.Links between namesake := (hsecond _).2 rfl
    have hc : shadowed.Links namesake unnamed := (hthird _).2 rfl
    exact ((ReflTransGen.single hb).tail ha).tail hc
  · intro h
    obtain ⟨hdistinct, -⟩ := h
    exact absurd hdistinct (by decide)

end ClassPool

end QueryPaths
