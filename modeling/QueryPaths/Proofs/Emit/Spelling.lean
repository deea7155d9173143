import Mathlib.Data.List.Nodup
import QueryPaths.Proofs.Emit.ReadBack
import QueryPaths.Proofs.Source.Declaration

/-! # Spellings of names

    Names are compared as they are spelt, but what is declared is the identifier that
    a spelling stands for. One identifier has many spellings: blanks and comments may
    stand around it, and it may be written in raw form.

    * **`meaning?`**: the name that a spelling stands for.
    * **`NoSynonyms`**: among some spellings, no two stand for the same name.
    * **`Renderer.spellings`**: the spellings that meet in a scope of a tree.
    * **`Renderer.unambiguous_render_iff`**: an artifact declares no name twice in a
      scope exactly if no scope of its tree has two spellings of one name.
-/

namespace QueryPaths

open PathNode (Scope)
open Source Source.Item

/-! ## What spellings stand for -/

/-- **The name that a spelling stands for**, without what is skipped around it and
    without the mark of the raw form. What is no identifier stands for none. Names are compared
    character by character: spellings that differ in Unicode normalisation only stand for
    different names. -/
def meaning? (spelling : String) : Option (List Char) := (Ident.parse? spelling).map Ident.name

/-- **No two of the spellings stand for the same name.** -/
def NoSynonyms (spellings : Set String) : Prop :=
  ∀ a ∈ spellings, ∀ b ∈ spellings, meaning? a = meaning? b → a = b

theorem meaning?_of_parse? {spelling : String} {ident : Ident}
    (h : Ident.parse? spelling = some ident) : meaning? spelling = some ident.name := by
  rw [meaning?, h]
  rfl

theorem IsPlain.meaning?_eq {name : String} (h : IsPlain name) : meaning? name = some name.toList :=
  meaning?_of_parse? h

/-- **Plain names have no synonyms among each other.** -/
theorem noSynonyms_of_isPlain {spellings : Set String} (h : ∀ a ∈ spellings, IsPlain a) :
    NoSynonyms spellings := by
  intro a ha b hb heq
  rw [(h a ha).meaning?_eq, (h b hb).meaning?_eq] at heq
  exact String.toList_injective (Option.some.inj heq)

/-- **Different spellings declare different names** exactly if there are no synonyms
    among them. -/
theorem nodup_meanings_iff {spellings : List String} (hnodup : spellings.Nodup)
    (hident : ∀ a ∈ spellings, (meaning? a).isSome = true) :
    (spellings.filterMap meaning?).Nodup ↔ NoSynonyms {a | a ∈ spellings} := by
  have hmap : (spellings.filterMap meaning?).map some = spellings.map meaning? := by
    clear hnodup
    induction spellings with
    | nil => rfl
    | cons a rest ih =>
      obtain ⟨name, hname⟩ := Option.isSome_iff_exists.1 (hident a List.mem_cons_self)
      rw [List.filterMap_cons_some hname, List.map_cons, List.map_cons, hname,
        ih fun b hb => hident b (List.mem_cons_of_mem _ hb)]
  rw [← List.nodup_map_iff (fun _ _ h => Option.some.inj h), hmap, List.nodup_map_iff_inj_on hnodup]
  rfl

namespace Renderer

variable {r : Renderer} {target : Target} {tree nodes : List PathNode} {scope taken : List String}
  {item : Item} {items : List Item}

/-! ## Spellings in a scope -/

/-- **The spellings that meet in a scope of a tree**: inside branches the self constant,
    and the names of the nodes. -/
def spellings (r : Renderer) (way : List String) (inner : List PathNode) : List String :=
  (if way = [] then [] else [r.selfConst]) ++ inner.map PathNode.name

@[simp] theorem spellings_nil (inner : List PathNode) :
    r.spellings [] inner = inner.map PathNode.name :=
  rfl

@[simp] theorem spellings_cons (name : String) (way : List String) (inner : List PathNode) :
    r.spellings (name :: way) inner = r.selfConst :: inner.map PathNode.name := by
  simp [spellings]

theorem isPlain_of_mem_spellings {way : List String} {inner : List PathNode}
    (hself : way ≠ [] → IsPlain r.selfConst) (hnames : ∀ n ∈ inner, IsPlain n.name) :
    ∀ a ∈ r.spellings way inner, IsPlain a := by
  have hplain : ∀ a ∈ inner.map PathNode.name, IsPlain a := by
    intro a ha
    obtain ⟨n, hn, rfl⟩ := List.mem_map.1 ha
    exact hnames n hn
  intro a ha
  cases way with
  | nil => exact hplain a ha
  | cons name way =>
    rw [spellings_cons] at ha
    rcases List.mem_cons.1 ha with rfl | ha
    · exact hself (List.cons_ne_nil _ _)
    · exact hplain a ha

/-- Where a scope fits, its spellings are different. -/
theorem Fits.nodup_spellings {way : List String} {inner : List PathNode} (h : r.Fits way inner) :
    (r.spellings way inner).Nodup := by
  cases way with
  | nil => simpa using h.nodup
  | cons name way =>
    rw [spellings_cons, List.nodup_cons]
    refine ⟨?_, h.nodup⟩
    intro hmem
    obtain ⟨n, hn, hname⟩ := List.mem_map.1 hmem
    exact h.self_fresh (List.cons_ne_nil _ _) n hn hname

theorem Fits.isSome_meaning? {way : List String} {inner : List PathNode} (h : r.Fits way inner) :
    ∀ a ∈ r.spellings way inner, (meaning? a).isSome = true := by
  have hnames : ∀ a ∈ inner.map PathNode.name, (meaning? a).isSome = true := by
    intro a ha
    obtain ⟨n, hn, rfl⟩ := List.mem_map.1 ha
    rw [meaning?, Option.isSome_map]
    exact h.ident n hn
  intro a ha
  cases way with
  | nil => exact hnames a ha
  | cons name way =>
    rw [spellings_cons] at ha
    rcases List.mem_cons.1 ha with rfl | ha
    · rw [meaning?, Option.isSome_map]
      exact h.self_ident (List.cons_ne_nil _ _)
    · exact hnames a ha

/-! ## What rendered nodes declare -/

/-- A rendered node declares what its name stands for. -/
theorem declared?_of_node {n : PathNode} (h : r.node scope n = .ok item) :
    item.declared? = meaning? n.name := by
  cases n with
  | leaf name path =>
    obtain ⟨ident, hident, rfl⟩ := node_leaf_eq_ok.1 h
    exact (meaning?_of_parse? hident).symm
  | branch name path children =>
    obtain ⟨ident, self, items, hident, -, -, rfl⟩ := node_branch_eq_ok.1 h
    exact (meaning?_of_parse? hident).symm

theorem declared?_of_siblings (h : r.siblings scope taken nodes = .ok items) :
    items.filterMap declared? = (nodes.map PathNode.name).filterMap meaning? := by
  induction nodes generalizing taken items with
  | nil =>
    obtain rfl := siblings_nil_eq_ok.1 h
    rfl
  | cons first rest ih =>
    obtain ⟨item, others, -, hfirst, hothers, rfl⟩ := siblings_cons_eq_ok.1 h
    rw [List.map_cons, List.filterMap_cons, List.filterMap_cons, declared?_of_node hfirst, ih hothers]

theorem exists_item_of_mem_siblings (h : r.siblings scope taken nodes = .ok items) {n : PathNode}
    (hn : n ∈ nodes) : ∃ item ∈ items, r.node scope n = .ok item := by
  induction nodes generalizing taken items with
  | nil => cases hn
  | cons first rest ih =>
    obtain ⟨item, others, -, hfirst, hothers, rfl⟩ := siblings_cons_eq_ok.1 h
    rcases List.mem_cons.1 hn with rfl | hn
    · exact ⟨item, List.mem_cons_self, hfirst⟩
    · obtain ⟨item', hitem', hnode⟩ := ih hothers hn
      exact ⟨item', List.mem_cons_of_mem _ hitem', hnode⟩

/-! ## Scopes of artifacts -/

/-- **Does every scope inside a node declare different names?** -/
def DeclaresApart (r : Renderer) (n : PathNode) : Prop :=
  ∀ name path children way inner, n = .branch name path children → Scope children way inner →
    ((r.selfConst :: inner.map PathNode.name).filterMap meaning?).Nodup

/-- **A scope's items are unambiguous** if its spellings stand for different names and
    every scope inside its nodes declares different ones. In front of the nodes there
    may be items without anything inside. -/
theorem unambiguous_append_iff {front : List Item} {spelt : List String}
    (hfront : front.filterMap declared? = spelt.filterMap meaning?)
    (hempty : ∀ item ∈ front, item.inner = [])
    (h : r.siblings scope taken nodes = .ok items)
    (hnodes : ∀ n ∈ nodes, ∀ item, r.node scope n = .ok item →
      (Unambiguous item.inner ↔ r.DeclaresApart n)) :
    Unambiguous (front ++ items) ↔
      ((spelt ++ nodes.map PathNode.name).filterMap meaning?).Nodup ∧
        ∀ n ∈ nodes, r.DeclaresApart n := by
  rw [unambiguous_iff, List.filterMap_append, hfront, declared?_of_siblings h,
    ← List.filterMap_append]
  refine and_congr_right fun _ => ?_
  constructor
  · intro hitems n hn
    obtain ⟨item, hitem, hnode⟩ := exists_item_of_mem_siblings h hn
    exact (hnodes n hn item hnode).1 (hitems item (List.mem_append_right _ hitem))
  · intro hapart item hitem
    rcases List.mem_append.1 hitem with hitem | hitem
    · rw [hempty item hitem]
      exact unambiguous_nil
    · obtain ⟨n, hn, hnode⟩ := exists_node_of_mem_siblings h hitem
      exact (hnodes n hn item hnode).2 (hapart n hn)

/-- **A rendered node is unambiguous inside** exactly if every scope inside it declares
    different names. -/
theorem unambiguous_inner_iff (n : PathNode) :
    ∀ scope item, r.node scope n = .ok item → (Unambiguous item.inner ↔ r.DeclaresApart n) := by
  induction n with
  | leaf name path =>
    intro scope item h
    obtain ⟨ident, -, rfl⟩ := node_leaf_eq_ok.1 h
    refine ⟨fun _ => ?_, fun _ => unambiguous_nil⟩
    rintro _ _ _ _ _ ⟨⟩
  | branch name path children ih =>
    intro scope item h
    obtain ⟨ident, self, items, -, hself, hitems, rfl⟩ := node_branch_eq_ok.1 h
    -- in front of the children stands the self constant, with nothing inside
    have hfront : [Item.constant self path].filterMap declared? = [r.selfConst].filterMap meaning? := by
      rw [List.filterMap_cons_some (meaning?_of_parse? hself)]
      rfl
    have hempty : ∀ item ∈ [Item.constant self path], item.inner = [] := by
      intro item hitem
      obtain rfl := List.mem_singleton.1 hitem
      rfl
    have hbody := unambiguous_append_iff hfront hempty hitems
      fun child hchild item hnode => ih child hchild _ item hnode
    refine hbody.trans ⟨?_, ?_⟩
    · -- the scopes inside the branch are that of the children, and those inside them
      intro hapart
      obtain ⟨htop, hchildren⟩ := hapart
      rintro _ _ _ way inner ⟨⟩ hscope
      cases hscope with
      | top => exact htop
      | inside mem rest => exact hchildren _ mem _ _ _ _ _ rfl rest
    · intro hapart
      refine ⟨hapart name path children [] children rfl (.top children), ?_⟩
      rintro child hchild name' path' children' way inner rfl hscope
      exact hapart name path children (name' :: way) inner rfl (.inside hchild hscope)

/-- **An artifact declares no name twice in a scope** exactly if no scope of its tree has
    two spellings of one name. -/
theorem unambiguous_render_iff (h : r.render target tree = .ok item) :
    Unambiguous [item] ↔
      ∀ way inner, Scope tree way inner → NoSynonyms {a | a ∈ r.spellings way inner} := by
  obtain ⟨-, hfits⟩ := render_isOk_iff.1 ⟨item, h⟩
  -- in a scope that fits, names apart from each other are the same as no synonyms
  have hnames : ∀ way inner, Scope tree way inner →
      (((r.spellings way inner).filterMap meaning?).Nodup ↔
        NoSynonyms {a | a ∈ r.spellings way inner}) := by
    intro way inner hscope
    have hscopeFits := hfits way inner hscope
    exact nodup_meanings_iff hscopeFits.nodup_spellings hscopeFits.isSome_meaning?
  obtain ⟨ident, items, -, hitems, rfl⟩ := render_eq_ok.1 h
  have hfront : ([] : List Item).filterMap declared? = ([] : List String).filterMap meaning? := rfl
  have hbody := unambiguous_append_iff hfront (fun _ hitem => by cases hitem)
    hitems fun n _ item hnode => unambiguous_inner_iff n _ item hnode
  rw [unambiguous_singleton]
  refine hbody.trans ⟨?_, ?_⟩
  · intro hapart way inner hscope
    obtain ⟨htop, hnodes⟩ := hapart
    refine (hnames way inner hscope).1 ?_
    cases hscope with
    | top => exact htop
    | inside mem rest =>
      rw [spellings_cons]
      exact hnodes _ mem _ _ _ _ _ rfl rest
  · intro hapart
    refine ⟨(hnames [] tree (.top tree)).2 (hapart [] tree (.top tree)), ?_⟩
    rintro n hn name path children way inner rfl hscope
    have hinside : Scope tree (name :: way) inner := .inside hn hscope
    have hscopeApart := (hnames _ inner hinside).2 (hapart _ inner hinside)
    rwa [spellings_cons] at hscopeApart

end Renderer

end QueryPaths
