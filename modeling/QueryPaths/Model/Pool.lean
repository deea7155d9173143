import QueryPaths.Model.Class
import Std.Data.TreeMap

/-! # Class pools

    The classes known to a generation run, in the order they were added, with
    an index from qualified names to positions. When classes share a qualified
    name, the one added first is the one that lookups find.

    * **`ClassPool`** carries the proof that its index is exact.
    * **`get?_eq_find?`**: a lookup is a scan for the first class of that name.
    * **`toList_insert`**, **`get?_insert`**: what adding a class does.
-/

namespace QueryPaths

/-- The classes in insertion order, indexed by qualified name. -/
structure ClassPool where
  /-- Every class, duplicates included. -/
  classes : Array ModelClass
  /-- For each qualified name, the position of the first class that has it. -/
  index : Std.TreeMap String Nat
  /-- The index is exact. -/
  index_eq : ∀ q, index[q]? = classes.findIdx? (·.qualified == q)

namespace ClassPool

/-- The pool without classes. -/
def empty : ClassPool where
  classes := #[]
  index := {}
  index_eq := by intro q; simp

instance : Inhabited ClassPool := ⟨empty⟩
instance : EmptyCollection ClassPool := ⟨empty⟩

/-- **Adds a class** at the end. A qualified name that is already indexed keeps
    its position. -/
def insert (pool : ClassPool) (c : ModelClass) : ClassPool where
  classes := pool.classes.push c
  index := pool.index.insertIfNew c.qualified pool.classes.size
  index_eq := by
    intro q
    rw [Std.TreeMap.getElem?_insertIfNew, Array.findIdx?_push]
    by_cases hq : c.qualified = q
    · subst hq
      simp only [Std.ReflCmp.compare_self, true_and, Std.TreeMap.mem_iff_isSome_getElem?,
        pool.index_eq]
      cases h : pool.classes.findIdx? (·.qualified == c.qualified) <;> simp
    · have hcmp : compare c.qualified q ≠ .eq := by simpa using hq
      simp [hcmp, hq, pool.index_eq]

/-- Adds classes one after the other. -/
def extend (pool : ClassPool) (cs : List ModelClass) : ClassPool :=
  cs.foldl insert pool

/-- The pool of these classes, in this order. -/
def ofList (cs : List ModelClass) : ClassPool := empty.extend cs

/-- The classes in insertion order. -/
def toList (pool : ClassPool) : List ModelClass := pool.classes.toList

/-- How many classes were added. -/
def size (pool : ClassPool) : Nat := pool.classes.size

/-- **Lookup** by qualified name. -/
def get? (pool : ClassPool) (q : String) : Option ModelClass :=
  pool.index[q]?.bind (pool.classes[·]?)

/-- **The classes of the project itself**, in insertion order. -/
def project (pool : ClassPool) : List ModelClass :=
  pool.toList.filter (!·.library)

/-! ## What the operations do -/

@[simp] theorem toList_empty : (empty : ClassPool).toList = [] := rfl

@[simp] theorem toList_insert (pool : ClassPool) (c : ModelClass) :
    (pool.insert c).toList = pool.toList ++ [c] := by
  simp [toList, insert]

@[simp] theorem toList_extend (pool : ClassPool) (cs : List ModelClass) :
    (pool.extend cs).toList = pool.toList ++ cs := by
  induction cs generalizing pool with
  | nil => simp [extend]
  | cons c cs ih =>
    have step : pool.extend (c :: cs) = (pool.insert c).extend cs := rfl
    rw [step, ih]
    simp

@[simp] theorem toList_ofList (cs : List ModelClass) : (ofList cs).toList = cs := by
  simp [ofList]

/-- **Lookup is a linear scan**: the first class in insertion order that has the
    name, and none exactly if no class has it. -/
theorem get?_eq_find? (pool : ClassPool) (q : String) :
    pool.get? q = pool.toList.find? (·.qualified == q) := by
  have hidx : pool.get? q = (pool.classes.findIdx? (·.qualified == q)).bind (pool.classes[·]?) := by
    simp [get?, pool.index_eq]
  -- what is left is about the array alone: the position found first, and the class there
  rw [hidx, toList]
  clear hidx
  generalize pool.classes = classes
  rcases classes with ⟨cs⟩
  simp only [List.findIdx?_toArray, List.getElem?_toArray]
  induction cs with
  | nil => rfl
  | cons c cs ih =>
    by_cases hc : c.qualified == q
    · simp [List.findIdx?_cons, hc]
    · simp only [List.findIdx?_cons, hc, Bool.false_eq_true, ↓reduceIte]
      rw [List.find?_cons_of_neg (by simpa using hc), ← ih]
      cases cs.findIdx? (·.qualified == q) <;> simp

theorem mem_of_get? {pool : ClassPool} {q : String} {c : ModelClass}
    (h : pool.get? q = some c) : c ∈ pool.toList ∧ c.qualified = q := by
  rw [get?_eq_find?] at h
  exact ⟨List.mem_of_find?_eq_some h, by simpa using List.find?_some h⟩

/-- A lookup after an insertion: an earlier class keeps its name. -/
theorem get?_insert (pool : ClassPool) (c : ModelClass) (q : String) :
    (pool.insert c).get? q = (pool.get? q).or (if c.qualified = q then some c else none) := by
  simp only [get?_eq_find?, toList_insert, List.find?_append]
  by_cases h : c.qualified = q <;> simp [h]

end ClassPool

end QueryPaths
