import QueryPaths.Proofs.Emit.Diagnostics
import QueryPaths.Proofs.Emit.TreeNames

/-! # Generated names are admitted

    A raw field name may be any text, and a model may come from anywhere. Still the renderer never
    stumbles over a generated name: constant names are written in a small alphabet, no keyword is
    among them, and all names in a class's tree are constant names.

    * **`Name.isConstantChar_iff`**: the alphabet.
    * **`ClassPool.identifier_of_mem_preorder`**: the name of every node of a tree is admitted as it
      stands.
    * **`generated_names_are_admitted`**: what holds of the constant name of any raw name, and of
      the names in any tree.
-/

namespace QueryPaths

open Name (constantName isConstantName_constantName)
open PathNode (preorder mem_preorder_iff)
open Source

namespace Name

variable {c : Char}

/-- **The alphabet of constant names.** -/
theorem isConstantChar_iff : isConstantChar c = true ↔
    ('A' ≤ c ∧ c ≤ 'Z') ∨ ('0' ≤ c ∧ c ≤ '9') ∨ c = '_' := by
  rw [isConstantChar, Bool.or_eq_true, Bool.or_eq_true, or_assoc, isUpper_iff_toNat,
    Char.isDigit_iff_toNat, beq_iff_eq]
  exact Iff.rfl

theorem isDigit_eq_false_iff : c.isDigit = false ↔ ¬('0' ≤ c ∧ c ≤ '9') := by
  rw [← Bool.not_eq_true]
  simp only [Char.isDigit, Bool.and_eq_true, decide_eq_true_eq, ge_iff_le, Char.le_def]

theorem constantName_ne_empty (raw : String) : constantName raw ≠ "" := by
  obtain ⟨c, hc, -⟩ := (isConstantName_constantName raw).solid
  intro hempty
  rw [hempty] at hc
  cases hc

theorem identifier_constantName (raw : String) :
    identifier (constantName raw) = .ok (plain (constantName raw)) :=
  identifier_eq_ok_iff.2 (parse?_constantName raw)

end Name

/-- **Every name in a class's tree is admitted as it stands**, however deep its node lies. -/
theorem ClassPool.identifier_of_mem_preorder {pool : ClassPool} {root : ModelClass} {n : PathNode}
    (h : n ∈ preorder (pool.tree root)) : identifier n.name = .ok (plain n.name) := by
  obtain ⟨way, inner, hscope, hn⟩ := mem_preorder_iff.1 h
  have hplain : IsPlain n.name := plainNames_tree pool root way inner hscope n hn
  exact identifier_eq_ok_iff.2 hplain

/-- **Every constant name can be used as an identifier.** Whatever the raw name, it is not empty
    and consists of capital letters, digits and underscores, with no digit in front and more than
    underscores in it; so it is no keyword, and is admitted as it stands. Nothing else is generated
    for a field, so all names in the tree of a class are admitted, whatever the model. -/
theorem generated_names_are_admitted :
    (∀ raw : String,
      constantName raw ≠ "" ∧
      (∀ c ∈ (constantName raw).toList,
        ('A' ≤ c ∧ c ≤ 'Z') ∨ ('0' ≤ c ∧ c ≤ '9') ∨ c = '_') ∧
      (∀ c ∈ (constantName raw).toList.head?, ¬('0' ≤ c ∧ c ≤ '9')) ∧
      (∃ c ∈ (constantName raw).toList, c ≠ '_') ∧
      (constantName raw).toList ∉ keywords ∧
      identifier (constantName raw) = .ok (plain (constantName raw))) ∧
    ∀ (pool : ClassPool) (root : ModelClass), ∀ node ∈ preorder (pool.tree root),
      identifier node.name = .ok (plain node.name) := by
  constructor
  · intro raw
    have hname : Name.IsConstantName (constantName raw).toList := isConstantName_constantName raw
    refine ⟨Name.constantName_ne_empty raw, ?_, ?_, hname.solid, hname.not_mem_keywords,
      Name.identifier_constantName raw⟩
    · intro c hc
      exact Name.isConstantChar_iff.1 (hname.chars c hc)
    · intro c hc
      exact Name.isDigit_eq_false_iff.1 (hname.head c hc)
  · intro pool root node hnode
    exact ClassPool.identifier_of_mem_preorder hnode

example : constantName "1st of ﬀ-fn" = "_1_ST_OF___FN" := by decide

end QueryPaths
