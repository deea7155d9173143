import QueryPaths.Proofs.Emit.Packages

/-! # Inclusions

    An inclusion stands for the items of another file. Which files the index names makes
    no difference to what it is otherwise.

    * **`Item.spliceAll`**: items with those of the included files in place of the
      inclusions.
    * **`Item.renamedAll`**: items that include other files.
    * **`indexItems_renamed`**: the index of artifacts in other files is the same but for
      the inclusions.
-/

namespace QueryPaths

open Source

namespace Source.Item

/-! ## Items of included files -/

mutual

/-- **The items that an item stands for**, where `read` gives those of a file. -/
def splice (read : String → Option (List Item)) : Item → Option (List Item)
  | .constant ident value => some [.constant ident value]
  | .module attributes ident items =>
    (spliceAll read items).map fun body => [.module attributes ident body]
  | .inclusion path => read path

/-- **The items that a list of items stands for**, one after the other. -/
def spliceAll (read : String → Option (List Item)) : List Item → Option (List Item)
  | [] => some []
  | item :: rest =>
    (splice read item).bind fun first => (spliceAll read rest).map fun others => first ++ others

end

variable {read : String → Option (List Item)}

theorem spliceAll_append {front back first rest : List Item} (hfirst : spliceAll read front = some first)
    (hrest : spliceAll read back = some rest) :
    spliceAll read (front ++ back) = some (first ++ rest) := by
  induction front generalizing first with
  | nil =>
    obtain rfl : [] = first := Option.some.inj hfirst
    exact hrest
  | cons item others ih =>
    rw [spliceAll] at hfirst
    obtain ⟨body, hbody, hmap⟩ := Option.bind_eq_some_iff.1 hfirst
    obtain ⟨behind, hbehind, rfl⟩ := Option.map_eq_some_iff.1 hmap
    rw [List.cons_append, spliceAll, hbody, Option.bind_some, ih hbehind, Option.map_some,
      List.append_assoc]

theorem spliceAll_inclusions {α : Type} {paths : α → String} {items : α → Item} {l : List α}
    (h : ∀ a ∈ l, read (paths a) = some [items a]) :
    spliceAll read (l.map fun a => .inclusion (paths a)) = some (l.map items) := by
  induction l with
  | nil => rfl
  | cons a rest ih =>
    rw [List.map_cons, spliceAll, splice, h a List.mem_cons_self, Option.bind_some,
      ih fun b hb => h b (List.mem_cons_of_mem _ hb)]
    rfl

/-! ## Items that include other files -/

mutual

/-- An item that includes the files called `f path` instead. -/
def renamed (f : String → String) : Item → Item
  | .constant ident value => .constant ident value
  | .module attributes ident items => .module attributes ident (renamedAll f items)
  | .inclusion path => .inclusion (f path)

/-- **Items that include the files called `f path` instead.** -/
def renamedAll (f : String → String) : List Item → List Item
  | [] => []
  | item :: rest => renamed f item :: renamedAll f rest

end

theorem renamedAll_append (f : String → String) (front back : List Item) :
    renamedAll f (front ++ back) = renamedAll f front ++ renamedAll f back := by
  induction front with
  | nil => rfl
  | cons item rest ih => rw [List.cons_append, renamedAll, renamedAll, ih, List.cons_append]

end Source.Item

/-! ## The index of artifacts in other files -/

/-- An artifact in the file called `f path` instead. -/
def Written.renamed (f : String → String) (w : Written) : Written := { w with path := f w.path }

namespace PackageTree

mutual

/-- A package whose artifacts are in other files. -/
def renamed (f : String → String) : PackageTree → PackageTree
  | .package artifacts modules =>
    .package (artifacts.map fun a => (a.1, f a.2)) (renamedModules f modules)

/-- Packages whose artifacts are in other files. -/
def renamedModules (f : String → String) :
    List (String × PackageTree) → List (String × PackageTree)
  | [] => []
  | (name, t) :: rest => (name, renamed f t) :: renamedModules f rest

end

variable {f : String → String}

theorem map_fst_renamedModules (ms : List (String × PackageTree)) :
    (renamedModules f ms).map (·.1) = ms.map (·.1) := by
  induction ms with
  | nil => rfl
  | cons m rest ih => rw [renamedModules, List.map_cons, ih, List.map_cons]

/-- Altering one of the packages and naming other files can be done in either order. -/
theorem renamedModules_alter {name : String} {g g' : PackageTree → PackageTree}
    (hg : ∀ t, renamed f (g t) = g' (renamed f t)) (ms : List (String × PackageTree)) :
    renamedModules f (alter name g ms) = alter name g' (renamedModules f ms) := by
  have hempty : renamed f empty = empty := rfl
  induction ms with
  | nil => rw [alter, renamedModules, renamedModules, alter, hg, hempty]; rfl
  | cons m rest ih =>
    obtain ⟨n, t⟩ := m
    rw [alter, renamedModules, alter]
    split
    · rw [renamedModules, hg]
    · split
      · rw [renamedModules, renamedModules, hg, hempty]
      · rw [renamedModules, ih]

theorem renamed_insert {typeName path : String} (segments : List String) (t : PackageTree) :
    renamed f (insert typeName path segments t) = insert typeName (f path) segments (renamed f t) := by
  induction segments generalizing t with
  | nil =>
    obtain ⟨artifacts, modules⟩ := t
    rw [insert_nil, renamed, List.map_append]
    rfl
  | cons name rest ih =>
    obtain ⟨artifacts, modules⟩ := t
    rw [insert_cons, renamed, renamedModules_alter ih]
    rfl

theorem ofWritten_renamed (written : List Written) (t : PackageTree) :
    ofWritten (written.map (Written.renamed f)) (renamed f t) =
      renamed f <$> ofWritten written t := by
  induction written generalizing t with
  | nil => rfl
  | cons w rest ih =>
    rw [List.map_cons, ofWritten, ofWritten, map_bind]
    congr 1
    funext segments
    rw [← ih, renamed_insert]
    rfl

theorem inclusions_renamed (scope names : List String) (artifacts : List (String × String)) :
    inclusions scope names (artifacts.map fun a => (a.1, f a.2)) =
      Item.renamedAll f <$> inclusions scope names artifacts := by
  induction artifacts with
  | nil => rfl
  | cons artifact rest ih =>
    obtain ⟨typeName, path⟩ := artifact
    rw [List.map_cons, inclusions, inclusions, ih]
    split
    · rfl
    · cases inclusions scope names rest <;> rfl

/-- The modules of packages are the same but for the inclusions, if each package is. -/
theorem moduleItems_renamed {modules : List (String × PackageTree)}
    (h : ∀ m ∈ modules, ∀ scope, PackageTree.items scope (renamed f m.2) =
      Item.renamedAll f <$> PackageTree.items scope m.2) (scope : List String) :
    moduleItems scope (renamedModules f modules) =
      Item.renamedAll f <$> moduleItems scope modules := by
  induction modules with
  | nil => rfl
  | cons m rest ih =>
    obtain ⟨name, t⟩ := m
    have hfirst := h (name, t) List.mem_cons_self (scope ++ [name])
    have hrest := ih fun m hm => h m (List.mem_cons_of_mem _ hm)
    rw [renamedModules, moduleItems, moduleItems, hfirst, hrest]
    cases identifier name with
    | error e => rfl
    | ok ident =>
      cases PackageTree.items (scope ++ [name]) t with
      | error e => rfl
      | ok body => cases moduleItems scope rest <;> rfl

/-- **A package is rendered the same**, but for the files it includes. -/
theorem items_renamed (t : PackageTree) (scope : List String) :
    PackageTree.items scope (renamed f t) = Item.renamedAll f <$> PackageTree.items scope t := by
  induction t generalizing scope with
  | package artifacts modules ih =>
    rw [renamed, PackageTree.items, PackageTree.items, map_fst_renamedModules, inclusions_renamed,
      moduleItems_renamed ih]
    cases inclusions scope (modules.map (·.1)) artifacts with
    | error e => rfl
    | ok first =>
      cases moduleItems scope modules with
      | error e => rfl
      | ok rest => exact congrArg Except.ok (Item.renamedAll_append f first rest).symm

end PackageTree

/-- **The index of artifacts in other files** is the same but for the inclusions. -/
theorem indexItems_renamed (f : String → String) (written : List Written) :
    indexItems (written.map (Written.renamed f)) = Item.renamedAll f <$> indexItems written := by
  -- the order of artifacts does not look at their files
  have hle : ∀ v ∈ written, ∀ w ∈ written,
      Written.le v w = Written.le (v.renamed f) (w.renamed f) := fun _ _ _ _ => rfl
  have hsort : (written.map (Written.renamed f)).mergeSort Written.le =
      (written.mergeSort Written.le).map (Written.renamed f) := (List.map_mergeSort hle).symm
  have htree := PackageTree.ofWritten_renamed (f := f) (written.mergeSort Written.le) .empty
  have hempty : PackageTree.renamed f .empty = .empty := rfl
  rw [hempty] at htree
  unfold indexItems
  rw [hsort, htree]
  cases PackageTree.ofWritten (written.mergeSort Written.le) .empty with
  | error e => rfl
  | ok tree => exact PackageTree.items_renamed tree []

end QueryPaths
