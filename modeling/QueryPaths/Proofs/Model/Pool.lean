import QueryPaths.Model.Pool

/-! # The history of a class pool

    However a pool came about, it is as good as the list of the classes that were put into it. The
    index beside that list only saves the search: each position in it is that of a class, and a
    lookup finds what a search from the front would find first. Classes that come later stand
    behind all others, so they never take a name away from the class that has it.

    * **`Change`**: what can be done to a pool. **`after`** does one thing after the other.
    * **`listed`**: the classes that were put in, without any index.
    * **`toList_after`**: the pool has these, by one step lemma for each change.
    * **`get?_of_index`**: positions in the index are those of classes.
    * **`get?_after_of_additions`**: what was found once is found ever after.
    * **`history_is_linear_scan`**: all of this for the pools that are built from nothing.
-/

namespace QueryPaths.ClassPool

/-! ## Changes -/

/-- **What is done to a pool.** -/
inductive Change where
  /-- One class is added. -/
  | insert (c : ModelClass)
  /-- Classes are added one after the other. -/
  | extend (cs : List ModelClass)
  /-- A new pool is made of these classes, and takes the place of the old one. -/
  | collect (cs : List ModelClass)
  deriving DecidableEq, Repr

/-- The pool after one change. -/
def apply (pool : ClassPool) : Change → ClassPool
  | .insert c => pool.insert c
  | .extend cs => pool.extend cs
  | .collect cs => ofList cs

/-- **The pool after some changes**, in order. -/
def after (pool : ClassPool) (changes : List Change) : ClassPool := changes.foldl apply pool

/-- What a change does to the list of classes. -/
def Change.onList (cs : List ModelClass) : Change → List ModelClass
  | .insert c => cs ++ [c]
  | .extend more => cs ++ more
  | .collect fresh => fresh

/-- **The classes that were put in**, in their order, since the last new pool. -/
def listed (changes : List Change) : List ModelClass := changes.foldl Change.onList []

/-- Does the change only add classes? -/
def Change.IsAddition : Change → Prop
  | .insert _ | .extend _ => True
  | .collect _ => False

variable {pool : ClassPool} {c : ModelClass} {q : String} {changes : List Change}

/-! ## What a pool holds -/

@[simp] theorem toList_apply (pool : ClassPool) (a : Change) :
    (pool.apply a).toList = a.onList pool.toList := by
  cases a with
  | insert c => exact toList_insert pool c
  | extend cs => exact toList_extend pool cs
  | collect cs => exact toList_ofList cs

/-- **A history does to the pool what its changes do to the list.** -/
theorem toList_after (pool : ClassPool) (changes : List Change) :
    (pool.after changes).toList = changes.foldl Change.onList pool.toList := by
  induction changes generalizing pool with
  | nil => rfl
  | cons a rest ih =>
    have hstep : pool.after (a :: rest) = (pool.apply a).after rest := rfl
    rw [hstep, ih, toList_apply, List.foldl_cons]

theorem toList_after_empty (changes : List Change) :
    (empty.after changes).toList = listed changes :=
  toList_after empty changes

/-! ## Lookups -/

/-- **A lookup finds the first class of a name.** -/
theorem get?_eq_some_iff : pool.get? q = some c ↔
    ∃ before behind, pool.toList = before ++ c :: behind ∧ c.qualified = q ∧
      ∀ d ∈ before, d.qualified ≠ q := by
  rw [get?_eq_find?, List.find?_eq_some_iff_append]
  simp only [beq_iff_eq, Bool.not_eq_true', beq_eq_false_iff_ne]
  constructor
  · intro h
    obtain ⟨hq, before, behind, hsplit, hbefore⟩ := h
    exact ⟨before, behind, hsplit, hq, hbefore⟩
  · intro h
    obtain ⟨before, behind, hsplit, hq, hbefore⟩ := h
    exact ⟨hq, before, behind, hsplit, hbefore⟩

/-- **A lookup finds nothing exactly if no class has the name.** -/
theorem get?_eq_none_iff : pool.get? q = none ↔ ∀ d ∈ pool.toList, d.qualified ≠ q := by
  rw [get?_eq_find?, List.find?_eq_none]
  simp only [beq_iff_eq]

/-- **Each position in the index is that of a class**, the one that a lookup finds. -/
theorem get?_of_index {i : Nat} (h : pool.index[q]? = some i) :
    ∃ hi : i < pool.classes.size, pool.get? q = some pool.classes[i] := by
  have hfirst : pool.classes.findIdx? (·.qualified == q) = some i := by rw [← pool.index_eq, h]
  obtain ⟨hi, -⟩ := Array.findIdx?_eq_some_iff_getElem.1 hfirst
  refine ⟨hi, ?_⟩
  rw [get?, h, Option.bind_some, Array.getElem?_eq_getElem hi]

/-- Adding classes takes no name away from a class. -/
theorem get?_apply_of_isAddition {a : Change} (hadd : a.IsAddition) (h : pool.get? q = some c) :
    (pool.apply a).get? q = some c := by
  rw [get?_eq_find?] at h
  rw [get?_eq_find?, toList_apply]
  cases a with
  | insert d =>
    show (pool.toList ++ [d]).find? (·.qualified == q) = some c
    rw [List.find?_append, h, Option.some_or]
  | extend cs =>
    show (pool.toList ++ cs).find? (·.qualified == q) = some c
    rw [List.find?_append, h, Option.some_or]
  | collect cs => exact hadd.elim

/-- **What was found once is found ever after**, as long as classes are only added. -/
theorem get?_after_of_additions (hadd : ∀ a ∈ changes, a.IsAddition)
    (h : pool.get? q = some c) : (pool.after changes).get? q = some c := by
  induction changes generalizing pool with
  | nil => exact h
  | cons a rest ih =>
    have hhere : (pool.apply a).get? q = some c :=
      get?_apply_of_isAddition (hadd a List.mem_cons_self) h
    exact ih (fun b hb => hadd b (List.mem_cons_of_mem _ hb)) hhere

/-! ## Whole histories -/

/-- **A pool is a list that is searched from the front**, whatever was done to it since it was
    empty. It holds the classes that were put in, in their order and with their duplicates; a
    lookup finds the first of them that has the name, and nothing exactly if none has it; every
    position in the index is within bounds and leads to the class that the lookup finds; the
    classes of the project are those that are not of a library, in the same order. And once a
    lookup has found a class, no class that is added later changes that. -/
theorem history_is_linear_scan (changes : List Change) :
    (empty.after changes).toList = listed changes ∧
      (empty.after changes).size = (listed changes).length ∧
      (∀ q c, (empty.after changes).get? q = some c ↔
        ∃ before behind, listed changes = before ++ c :: behind ∧ c.qualified = q ∧
          ∀ d ∈ before, d.qualified ≠ q) ∧
      (∀ q, (empty.after changes).get? q = none ↔ ∀ d ∈ listed changes, d.qualified ≠ q) ∧
      (∀ q i, (empty.after changes).index[q]? = some i →
        ∃ hi : i < (empty.after changes).classes.size,
          (empty.after changes).get? q = some (empty.after changes).classes[i]) ∧
      (empty.after changes).project = (listed changes).filter (!·.library) ∧
      ∀ later : List Change, (∀ a ∈ later, a.IsAddition) → ∀ q c,
        (empty.after changes).get? q = some c →
          (empty.after (changes ++ later)).get? q = some c := by
  have hlist : (empty.after changes).toList = listed changes := toList_after_empty changes
  refine ⟨hlist, ?_, ?_, ?_, ?_, ?_, ?_⟩
  · rw [← hlist]
    exact Array.length_toList.symm
  · intro q c
    rw [get?_eq_some_iff, hlist]
  · intro q
    rw [get?_eq_none_iff, hlist]
  · intro q i hi
    exact get?_of_index hi
  · rw [project, hlist]
  · intro later hadd q c hget
    have hsplit : empty.after (changes ++ later) = (empty.after changes).after later :=
      List.foldl_append
    rw [hsplit]
    exact get?_after_of_additions hadd hget

/-- Two classes of one name, of which the second needs no package for it. -/
example : let dog := (ModelClass.make "app" "Dog").scalar "name"
    (empty.after [.insert (.make "app" "Cat"), .collect [dog], .extend [.make "" "app.Dog"]]).get?
      "app.Dog" = some dog := by
  decide +kernel

end QueryPaths.ClassPool
