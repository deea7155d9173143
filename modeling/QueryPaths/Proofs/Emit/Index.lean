import QueryPaths.Emit.Index
import QueryPaths.Proofs.Emit.Scopes

/-! # Items of the index

    The index consists of inclusions and of modules without attributes, while an
    artifact is a module that opens with an attribute. So no index has the text
    of an artifact.

    * **`PackageTree.items_eq_ok`**: what it takes for a package to be rendered.
    * **`PackageTree.isBare_of_mem_items`**: no item of an index carries an attribute.
    * **`renderText_ne_indexText`**: an artifact never reads like an index.
-/

namespace QueryPaths

open Source

/-- Is the item written without an attribute in front? -/
def Source.Item.isBare : Item → Bool
  | .constant _ _ => true
  | .module attributes _ _ => attributes.isEmpty
  | .inclusion _ => true

namespace PackageTree

/-! ## What is rendered -/

variable {scope : List String} {artifacts : List (String × String)}
  {modules : List (String × PackageTree)} {items : List Item}

/-- **Artifacts become inclusions** if none is called like a package beside it. -/
theorem inclusions_eq_ok {names : List String} :
    inclusions scope names artifacts = .ok items ↔
      (∀ a ∈ artifacts, a.1 ∉ names) ∧ items = artifacts.map fun a => .inclusion a.2 := by
  induction artifacts generalizing items with
  | nil =>
    rw [inclusions, pure_eq_ok, eq_comm]
    simp
  | cons artifact rest ih =>
    obtain ⟨typeName, path⟩ := artifact
    rw [inclusions]
    -- the first artifact that is called like a package ends it
    by_cases htaken : typeName ∈ names
    · simp [htaken, bind, Except.bind, throw, throwThe, MonadExceptOf.throw]
    · simp only [List.contains_iff_mem, htaken, if_false, bind_eq_ok, pure_eq_ok, ih]
      constructor
      · rintro ⟨others, ⟨hfresh, rfl⟩, rfl⟩
        exact ⟨by simpa [htaken] using hfresh, rfl⟩
      · rintro ⟨hfresh, rfl⟩
        exact ⟨_, ⟨fun a ha => hfresh a (List.mem_cons_of_mem _ ha), rfl⟩, rfl⟩

theorem moduleItems_nil_eq_ok : moduleItems scope [] = .ok items ↔ items = [] := by
  rw [moduleItems, pure_eq_ok, eq_comm]

/-- **A package becomes a module** of its name, before those of the others. -/
theorem moduleItems_cons_eq_ok {name : String} {t : PackageTree} :
    moduleItems scope ((name, t) :: modules) = .ok items ↔
      ∃ ident body others, Ident.parse? name = some ident ∧
        PackageTree.items (scope ++ [name]) t = .ok body ∧
        moduleItems scope modules = .ok others ∧ items = .module [] ident body :: others := by
  simp only [moduleItems, bind_eq_ok, pure_eq_ok, identifier_eq_ok_iff]
  constructor
  · rintro ⟨ident, hident, body, hbody, others, hothers, rfl⟩
    exact ⟨ident, body, others, hident, hbody, hothers, rfl⟩
  · rintro ⟨ident, body, others, hident, hbody, hothers, rfl⟩
    exact ⟨ident, hident, body, hbody, others, hothers, rfl⟩

/-- **A package's items** are its artifacts' inclusions and then its packages' modules. -/
theorem items_eq_ok :
    PackageTree.items scope (.package artifacts modules) = .ok items ↔
      (∀ a ∈ artifacts, a.1 ∉ modules.map (·.1)) ∧ ∃ rest, moduleItems scope modules = .ok rest ∧
        items = artifacts.map (fun a => .inclusion a.2) ++ rest := by
  simp only [PackageTree.items, bind_eq_ok, pure_eq_ok, inclusions_eq_ok]
  constructor
  · rintro ⟨first, ⟨hfresh, rfl⟩, rest, hrest, rfl⟩
    exact ⟨hfresh, rest, hrest, rfl⟩
  · rintro ⟨hfresh, rest, hrest, rfl⟩
    exact ⟨_, ⟨hfresh, rfl⟩, rest, hrest, rfl⟩

/-! ## Attributes -/

theorem isBare_of_mem_moduleItems (h : moduleItems scope modules = .ok items) :
    ∀ item ∈ items, item.isBare = true := by
  induction modules generalizing items with
  | nil =>
    obtain rfl := moduleItems_nil_eq_ok.1 h
    simp
  | cons entry rest ih =>
    obtain ⟨ident, body, others, -, -, hrest, rfl⟩ := moduleItems_cons_eq_ok.1 h
    intro item hmem
    rcases List.mem_cons.1 hmem with rfl | hmem
    · rfl
    · exact ih hrest item hmem

/-- **No item of an index carries an attribute.** -/
theorem isBare_of_mem_items {tree : PackageTree} (h : PackageTree.items scope tree = .ok items) :
    ∀ item ∈ items, item.isBare = true := by
  obtain ⟨artifacts, modules⟩ := tree
  obtain ⟨-, rest, hrest, rfl⟩ := items_eq_ok.1 h
  intro item hmem
  rcases List.mem_append.1 hmem with hmem | hmem
  · obtain ⟨a, -, rfl⟩ := List.mem_map.1 hmem
    rfl
  · exact isBare_of_mem_moduleItems hrest item hmem

end PackageTree

/-! ## Opening characters -/

theorem toList_sourceText_cons (item : Item) (rest : List Item) :
    ∃ tail, (sourceText (item :: rest)).toList = item.chars ++ tail := by
  cases rest with
  | nil => exact ⟨[], by simp [sourceText, List.intercalate]⟩
  | cons next others => simp [sourceText, List.intercalate]

theorem head?_chars_of_isBare {item : Item} (h : item.isBare = true) :
    ∃ c, item.chars.head? = some c ∧ c ≠ '#' := by
  cases item with
  | constant ident value => exact ⟨'p', rfl, by decide⟩
  | module attributes ident items =>
    obtain rfl : attributes = [] := List.isEmpty_iff.1 h
    exact ⟨'p', rfl, by decide⟩
  | inclusion path => exact ⟨'i', rfl, by decide⟩

theorem head?_chars_attribute (a : Attribute) : a.chars.head? = some '#' := by
  cases a <;> rfl

theorem head?_chars_module_cons (a : Attribute) (others : List Attribute) (ident : Ident)
    (items : List Item) : (Item.module (a :: others) ident items).chars.head? = some '#' := by
  simp only [Item.chars_module, List.flatMap_cons, List.head?_append, head?_chars_attribute,
    Option.some_or]

/-- An artifact opens with an attribute. -/
theorem head?_renderText {r : Renderer} {target : Target} {tree : List PathNode} {source : String}
    (h : r.renderText target tree = .ok source) : source.toList.head? = some '#' := by
  obtain ⟨item, hitem, rfl⟩ := Renderer.renderText_eq_ok.1 h
  obtain ⟨ident, items, -, -, rfl⟩ := Renderer.render_eq_ok.1 hitem
  have hne : r.artifactDoc target ++ [.allow "non_snake_case"] ≠ [] :=
    List.append_ne_nil_of_right_ne_nil _ (List.cons_ne_nil _ _)
  obtain ⟨a, others, hattrs⟩ := List.exists_cons_of_ne_nil hne
  rw [hattrs]
  obtain ⟨tail, htail⟩ := toList_sourceText_cons (.module (a :: others) ident items) []
  rw [htail, List.head?_append, head?_chars_module_cons, Option.some_or]

/-- **An artifact never reads like an index.** -/
theorem renderText_ne_indexText {r : Renderer} {target : Target} {tree : List PathNode}
    {written : List Written} {source index : String} (hsource : r.renderText target tree = .ok source)
    (hindex : indexText written = .ok index) : source ≠ index := by
  have hhash := head?_renderText hsource
  unfold indexText indexItems at hindex
  obtain ⟨items, hitems, hindex⟩ := bind_eq_ok.1 hindex
  obtain ⟨tree, -, hitems⟩ := bind_eq_ok.1 hitems
  rintro rfl
  rw [← pure_eq_ok.1 hindex] at hhash
  cases items with
  | nil => simp [sourceText] at hhash
  | cons item rest =>
    obtain ⟨tail, htail⟩ := toList_sourceText_cons item rest
    obtain ⟨c, hc, hne⟩ := head?_chars_of_isBare
      (PackageTree.isBare_of_mem_items hitems item List.mem_cons_self)
    rw [htail, List.head?_append, hc, Option.some_or] at hhash
    exact hne (Option.some.inj hhash)

end QueryPaths
