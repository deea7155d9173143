import QueryPaths.Proofs.Path.Reach
import QueryPaths.Proofs.Path.Subtree

/-! # What a tree depends on

    Building the tree of a class looks up the names that links give, first those of its own
    fields, then those of the classes found. So pools that agree on these names build the same
    tree, whatever else they hold, and in whatever order.

    * **`ClassPool.Mentions`**: the names that come up below a class.
    * **`ClassPool.nodes_congr_mentions`**: pools that agree on them build the same nodes.
    * **`ClassPool.get?_insert_of_mem`**, **`ClassPool.get?_insert_of_ne`**: the names that an
      insertion does not touch.
    * **`ClassPool.tree_depends_on_mentions`**: the same tree from pools that agree, and after
      an insertion that makes no difference.
-/

namespace QueryPaths.ClassPool

open Relation

variable {pool pool' : ClassPool} {c d : ModelClass} {f : Field} {name : String}

/-! ## Names that come up -/

/-- **The names that come up below a class**: those that its own links give, and those that the
    links of any class give that links reach from it. -/
def Mentions (pool : ClassPool) (root : ModelClass) (name : String) : Prop :=
  ∃ c, ReflTransGen pool.Links root c ∧ ∃ f ∈ c.fields, f.link = some name

theorem mentions_of_link (hf : f ∈ c.fields) (hlink : f.link = some name) :
    pool.Mentions c name :=
  ⟨c, .refl, f, hf, hlink⟩

/-- What comes up below the target of a link comes up below the class that has the link. -/
theorem Mentions.of_links (hlink : pool.Links c d) (h : pool.Mentions d name) :
    pool.Mentions c name := by
  obtain ⟨e, hreach, hgiven⟩ := h
  exact ⟨e, .head hlink hreach, hgiven⟩

/-- Where pools agree on all that comes up, a field leads to the same class. -/
theorem target?_congr_mentions (h : ∀ name, pool.Mentions c name → pool.get? name = pool'.get? name)
    (hf : f ∈ c.fields) : pool'.target? f = pool.target? f := by
  unfold target?
  cases hlink : f.link with
  | none => rfl
  | some name =>
    show pool'.get? name = pool.get? name
    exact (h name (mentions_of_link hf hlink)).symm

/-- **Pools that agree on all that comes up build the same nodes.** By induction on the classes
    on the way: what comes up below the target of a link comes up here, too. -/
theorem nodes_congr_mentions
    (h : ∀ name, pool.Mentions c name → pool.get? name = pool'.get? name) (active : List String)
    (lead : String) : pool.nodes active lead c.fields = pool'.nodes active lead c.fields := by
  induction active using pool.active_induct generalizing c lead with
  | step active ih =>
    rw [nodes_eq_map, nodes_eq_map]
    apply List.map_congr_left
    intro f hf
    have htargets := target?_congr_mentions h hf
    -- a field is expanded in both pools or in neither
    rcases pool.fieldNode_cases active lead f with ⟨d, htarget, hfresh, hnode⟩ | ⟨hleaf, hnode⟩
    · have hbelow : ∀ name, pool.Mentions d name → pool.get? name = pool'.get? name := by
        intro name hname
        exact h name (hname.of_links ⟨f, hf, htarget⟩)
      rw [hnode, fieldNode_of_target (htargets.trans htarget) hfresh,
        ih f d htarget hfresh hbelow]
    · rw [hnode, fieldNode_of_no_target]
      intro d hd
      exact hleaf d (htargets.symm.trans hd)

/-! ## Insertions -/

/-- **The first class of a name keeps it**: an insertion under a name that the pool has already
    changes no lookup. -/
theorem get?_insert_of_mem (hd : d ∈ pool.toList) (hname : d.qualified = c.qualified) :
    (pool.insert c).get? name = pool.get? name := by
  rw [get?_insert]
  by_cases hsame : c.qualified = name
  · have hfound : (pool.get? name).isSome = true := by
      rw [get?_eq_find?, List.find?_isSome]
      exact ⟨d, hd, beq_iff_eq.2 (hname.trans hsame)⟩
    obtain ⟨first, hfirst⟩ := Option.isSome_iff_exists.1 hfound
    rw [hfirst, Option.some_or]
  · rw [if_neg hsame, Option.or_none]

theorem get?_insert_of_ne (hname : c.qualified ≠ name) :
    (pool.insert c).get? name = pool.get? name := by
  rw [get?_insert, if_neg hname, Option.or_none]

/-! ## Trees -/

/-- **A tree depends only on what links reach.** Two pools that agree on every name given by a
    link of the root, or of a class that links of the first pool reach from it, build the same
    tree of the root. So inserting a class changes no tree if its name is in the pool already,
    and none in which its name does not come up. -/
theorem tree_depends_on_mentions :
    (∀ (pool pool' : ClassPool) (root : ModelClass),
      (∀ name, pool.Mentions root name → pool.get? name = pool'.get? name) →
        pool.tree root = pool'.tree root) ∧
    ∀ (pool : ClassPool) (c root : ModelClass),
      (∃ d ∈ pool.toList, d.qualified = c.qualified) ∨ ¬pool.Mentions root c.qualified →
        (pool.insert c).tree root = pool.tree root := by
  have hagree : ∀ (pool pool' : ClassPool) (root : ModelClass),
      (∀ name, pool.Mentions root name → pool.get? name = pool'.get? name) →
        pool.tree root = pool'.tree root := by
    intro pool pool' root h
    exact nodes_congr_mentions h [root.qualified] ""
  refine ⟨hagree, ?_⟩
  intro pool c root h
  symm
  apply hagree
  intro name hname
  -- the new class is not looked up, or an earlier one of its name is
  rcases h with ⟨d, hd, hsame⟩ | hnot
  · rw [get?_insert_of_mem hd hsame]
  · have hne : c.qualified ≠ name := by
      intro heq
      exact hnot (heq ▸ hname)
    rw [get?_insert_of_ne hne]

/-! ## The owner among strangers -/

/-- A class with the name that the dog already has. -/
def secondHound : ModelClass := (ModelClass.make "" "Dog").scalar "chip"

/-- A class that links to the dog, and to which nothing links. -/
def stranger : ModelClass := (ModelClass.make "" "Cat").linkTo "foe" "Dog"

/-- The owner and the dog the other way round, among others. -/
def neighbourhood : ClassPool := .ofList [stranger, hound, owner, secondHound]

theorem fields_owner : owner.fields = [⟨"name", none⟩, ⟨"dog", some "Dog"⟩] := rfl

theorem fields_hound : hound.fields = [⟨"owner", some "Owner"⟩, ⟨"vet", some "Vet"⟩] := rfl

theorem reach_owner (h : ReflTransGen household.Links owner c) : c = owner ∨ c = hound := by
  induction h with
  | refl => exact .inl rfl
  | tail _ hlink ih =>
    obtain ⟨f, hf, htarget⟩ := hlink
    rcases ih with rfl | rfl
    · simp only [fields_owner, List.mem_cons, List.not_mem_nil, or_false] at hf
      rcases hf with rfl | rfl
      · cases htarget
      · exact .inr (Option.some.inj (htarget.symm.trans get?_household.2.1))
    · simp only [fields_hound, List.mem_cons, List.not_mem_nil, or_false] at hf
      rcases hf with rfl | rfl
      · exact .inl (Option.some.inj (htarget.symm.trans get?_household.1))
      · cases htarget.symm.trans get?_household.2.2

theorem mentions_owner (h : household.Mentions owner name) :
    name = "Dog" ∨ name = "Owner" ∨ name = "Vet" := by
  obtain ⟨c, hreach, f, hf, hlink⟩ := h
  rcases reach_owner hreach with rfl | rfl
  · simp only [fields_owner, List.mem_cons, List.not_mem_nil, or_false] at hf
    rcases hf with rfl | rfl
    · cases hlink
    · exact .inl (Option.some.inj hlink).symm
  · simp only [fields_hound, List.mem_cons, List.not_mem_nil, or_false] at hf
    rcases hf with rfl | rfl
    · exact .inr (.inl (Option.some.inj hlink).symm)
    · exact .inr (.inr (Option.some.inj hlink).symm)

theorem get?_neighbourhood : neighbourhood.get? "Owner" = some owner ∧
    neighbourhood.get? "Dog" = some hound ∧ neighbourhood.get? "Vet" = none := by decide +kernel

/-- **The owner's tree is the same in the neighbourhood**, and neither a second dog nor the
    stranger changes it. -/
theorem owner_among_strangers :
    neighbourhood.tree owner =
      [.leaf "NAME" "name",
        .branch "DOG" "dog" [.leaf "OWNER" "dog.owner", .leaf "VET" "dog.vet"]] ∧
    (household.insert secondHound).tree owner = household.tree owner ∧
    (household.insert stranger).tree owner = household.tree owner := by
  obtain ⟨hagree, hinsert⟩ := tree_depends_on_mentions
  refine ⟨?_, ?_, ?_⟩
  · rw [← tree_owner]
    symm
    apply hagree
    intro name hname
    -- three names come up, and both pools agree on them
    rcases mentions_owner hname with rfl | rfl | rfl
    · rw [get?_household.2.1, get?_neighbourhood.2.1]
    · rw [get?_household.1, get?_neighbourhood.1]
    · rw [get?_household.2.2, get?_neighbourhood.2.2]
  · apply hinsert
    exact .inl ⟨hound, by decide +kernel, rfl⟩
  · apply hinsert
    right
    intro hmentions
    have hname : "Cat" = "Dog" ∨ "Cat" = "Owner" ∨ "Cat" = "Vet" := mentions_owner hmentions
    revert hname
    decide

end QueryPaths.ClassPool
