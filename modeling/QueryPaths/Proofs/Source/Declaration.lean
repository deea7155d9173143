import Mathlib.Data.List.Nodup
import QueryPaths.Source.Item

/-! # Names that items declare

    An item declares the name of its identifier in the scope that it stands in.
    The raw form of an identifier declares the same name as the plain one.

    * **`Item.declared?`**: the name that an item declares.
    * **`Item.Scope`**: the scopes of a list of items, those inside modules, too.
    * **`Item.Unambiguous`**: no scope declares a name twice.
    * **`Item.constants`**: the constants of an item, each with its place.
    * **`Item.nodup_places`**: without ambiguity, no two constants have one place.
-/

namespace QueryPaths.Source.Item

/-- **Induction over an item and all items inside it.** -/
@[elab_as_elim, induction_eliminator]
theorem induct {motive : Item → Prop}
    (constant : ∀ ident value, motive (.constant ident value))
    (module : ∀ attributes ident items, (∀ item ∈ items, motive item) →
      motive (.module attributes ident items))
    (inclusion : ∀ path, motive (.inclusion path)) : ∀ item, motive item
  | .constant ident value => constant ident value
  | .module attributes ident items =>
    module attributes ident items fun item _ => induct constant module inclusion item
  | .inclusion path => inclusion path

/-! ## Scopes -/

/-- **The name that an item declares**, whether or not it is written in raw form. An
    inclusion has no name of its own. -/
def declared? : Item → Option (List Char)
  | .constant ident _ => some ident.name
  | .module _ ident _ => some ident.name
  | .inclusion _ => none

/-- The items inside a module; any other item has none. -/
def inner : Item → List Item
  | .constant _ _ => []
  | .module _ _ items => items
  | .inclusion _ => []

/-- **The scopes of a list of items**: the list itself, and those of the items inside
    its modules. -/
inductive Scope : List Item → List Item → Prop where
  /-- The list itself. -/
  | top (items : List Item) : Scope items items
  /-- A scope of the items inside a module. -/
  | inside {items scope : List Item} {item : Item} (mem : item ∈ items)
      (rest : Scope item.inner scope) : Scope items scope

/-- **No name is declared twice in a scope.** -/
def Unambiguous (items : List Item) : Prop :=
  ∀ scope, Scope items scope → (scope.filterMap declared?).Nodup

theorem unambiguous_iff {items : List Item} :
    Unambiguous items ↔
      (items.filterMap declared?).Nodup ∧ ∀ item ∈ items, Unambiguous item.inner := by
  constructor
  · intro h
    refine ⟨h items (.top items), ?_⟩
    intro item hitem scope hscope
    exact h scope (.inside hitem hscope)
  · intro h scope hscope
    obtain ⟨htop, hinner⟩ := h
    cases hscope with
    | top => exact htop
    | inside mem rest => exact hinner _ mem scope rest

theorem unambiguous_nil : Unambiguous [] :=
  unambiguous_iff.2 ⟨List.nodup_nil, fun _ hitem => by cases hitem⟩

theorem unambiguous_singleton {item : Item} : Unambiguous [item] ↔ Unambiguous item.inner := by
  rw [unambiguous_iff]
  constructor
  · intro h
    exact h.2 item (List.mem_singleton_self item)
  · intro h
    refine ⟨?_, ?_⟩
    · cases hname : item.declared? <;> simp [hname]
    · intro other hother
      obtain rfl := List.mem_singleton.1 hother
      exact h

/-! ## Constants -/

mutual

/-- **The constants of an item**, in order: each with the names of the modules around
    it and its own, outermost first, and with its value. -/
def constants : Item → List (List (List Char) × String)
  | .constant ident value => [([ident.name], value)]
  | .module _ ident items => (constantsOf items).map fun c => (ident.name :: c.1, c.2)
  | .inclusion _ => []

/-- The constants of a list of items. -/
def constantsOf : List Item → List (List (List Char) × String)
  | [] => []
  | item :: rest => constants item ++ constantsOf rest

end

theorem constantsOf_eq_flatMap (items : List Item) :
    constantsOf items = items.flatMap constants := by
  induction items with
  | nil => rfl
  | cons item rest ih => rw [constantsOf, ih, List.flatMap_cons]

/-- The place of a constant opens with the name that its item declares. -/
theorem head?_place {item : Item} {place : List (List Char)} {value : String}
    (h : (place, value) ∈ item.constants) : ∃ name, item.declared? = some name ∧
      place.head? = some name := by
  cases item with
  | constant ident text =>
    obtain ⟨rfl, -⟩ := Prod.mk.inj (List.mem_singleton.1 h)
    exact ⟨ident.name, rfl, rfl⟩
  | module attributes ident items =>
    obtain ⟨c, -, heq⟩ := List.mem_map.1 h
    obtain ⟨rfl, -⟩ := Prod.mk.inj heq
    exact ⟨ident.name, rfl, rfl⟩
  | inclusion path => cases h

/-- Constants of items with different names have different places. -/
theorem disjoint_places {a b : Item}
    (h : ∀ name, a.declared? = some name → ∀ name', b.declared? = some name' → name ≠ name') :
    (a.constants.map (·.1)).Disjoint (b.constants.map (·.1)) := by
  intro place ha hb
  obtain ⟨⟨_, value⟩, hmem, rfl⟩ := List.mem_map.1 ha
  obtain ⟨⟨_, value'⟩, hmem', rfl⟩ := List.mem_map.1 hb
  obtain ⟨name, hname, hhead⟩ := head?_place hmem
  obtain ⟨name', hname', hhead'⟩ := head?_place hmem'
  exact h name hname name' hname' (Option.some.inj (hhead.symm.trans hhead'))

theorem nodup_places_of_items {items : List Item} (hnames : (items.filterMap declared?).Nodup)
    (hitems : ∀ item ∈ items, (item.constants.map (·.1)).Nodup) :
    ((constantsOf items).map (·.1)).Nodup := by
  rw [constantsOf_eq_flatMap, List.map_flatMap, List.nodup_flatMap]
  refine ⟨hitems, ?_⟩
  have hpairs := List.pairwise_filterMap.1 hnames
  exact hpairs.imp fun hdiffer => disjoint_places hdiffer

/-- Inside an unambiguous item no two constants have one place. -/
theorem nodup_places_of_inner (item : Item) (h : Unambiguous item.inner) :
    (item.constants.map (·.1)).Nodup := by
  induction item with
  | constant ident value => exact List.nodup_singleton _
  | module attributes ident items ih =>
    obtain ⟨htop, hinner⟩ := unambiguous_iff.1 h
    have hitems : ((constantsOf items).map (·.1)).Nodup :=
      nodup_places_of_items htop fun item hitem => ih item hitem (hinner item hitem)
    -- the module's own name stands in front of every place
    have hfront := hitems.map (List.cons_injective (a := ident.name))
    rw [constants, List.map_map]
    rwa [List.map_map] at hfront
  | inclusion path => exact List.nodup_nil

/-- **Without ambiguity, no two constants have one place.** -/
theorem nodup_places {items : List Item} (h : Unambiguous items) :
    ((constantsOf items).map (·.1)).Nodup := by
  obtain ⟨htop, hinner⟩ := unambiguous_iff.1 h
  exact nodup_places_of_items htop fun item hitem => nodup_places_of_inner item (hinner item hitem)

end QueryPaths.Source.Item
