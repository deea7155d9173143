import QueryPaths.Proofs.Emit.TreeNames
import QueryPaths.Proofs.Name.WordForms

/-! # Fields that share a constant

    Different field names may have the same constant, and the tree of a class takes them as they
    come. It is the renderer that refuses the second of them, so a class with such fields is never
    rendered.

    * **`Renderer.renderText_of_shared`**: two fields with one constant.
    * **`spellings_share_constant`**: names that spell the same words have one constant.
-/

namespace QueryPaths

open Name (IsLowerWord Joined Spelled camelCase constantName pascalCase upperWords)

variable {pool : ClassPool} {root : ModelClass} {f g : Field} {ws : List (List Char)}

theorem DistinctNames.eq_of_name_eq (h : DistinctNames root) (hf : f ∈ root.fields)
    (hg : g ∈ root.fields) (heq : constantName f.name = constantName g.name) : f = g :=
  List.inj_on_of_nodup_map h hf hg heq

/-- **A class with two fields of one constant is never rendered**, whatever the renderer is told
    and wherever the artifact belongs. -/
theorem Renderer.renderText_of_shared (hf : f ∈ root.fields) (hg : g ∈ root.fields) (hne : f ≠ g)
    (heq : constantName f.name = constantName g.name) (r : Renderer) (target : Target)
    (source : String) : r.renderText target (pool.tree root) ≠ .ok source := by
  intro h
  obtain ⟨item, hitem, -⟩ := renderText_eq_ok.1 h
  obtain ⟨-, hfits⟩ := render_isOk_iff.1 ⟨item, hitem⟩
  have hdistinct : DistinctNames root := fits_nil_nodes_iff.1 (hfits [] _ (.top _))
  exact hne (hdistinct.eq_of_name_eq hf hg heq)

/-- **All spellings of the same words have the same constant**: the words may be joined by
    underscores or by any other single characters that are no ASCII letters and digits, or stand in
    a row with capital letters at their beginnings, the first word capitalized or not. The constant
    consists of the words in upper case with underscores between them. So a class that has two
    fields with different spellings of the same words can be put into a tree, but no renderer makes
    an artifact of it. -/
theorem spellings_share_constant (hne : ws ≠ []) (hws : ∀ w ∈ ws, IsLowerWord w) :
    constantName (String.ofList (['_'].intercalate ws)) = String.ofList (upperWords ws) ∧
      constantName (String.ofList (camelCase ws)) = String.ofList (upperWords ws) ∧
      constantName (String.ofList (pascalCase ws)) = String.ofList (upperWords ws) ∧
      (∀ s, Joined ws s → constantName (String.ofList s) = String.ofList (upperWords ws)) ∧
      ∀ (pool : ClassPool) (root : ModelClass), ∀ f ∈ root.fields, ∀ g ∈ root.fields,
        Spelled ws f.name → Spelled ws g.name → f.name ≠ g.name →
          ∀ (r : Renderer) (target : Target) (source : String),
            r.renderText target (pool.tree root) ≠ .ok source := by
  have hconst : ∀ name, Spelled ws name → constantName name = String.ofList (upperWords ws) :=
    fun name h => Name.constantName_spelled hne hws h
  refine ⟨hconst _ (.joined (Name.joined_intercalate hne)), hconst _ .camel, hconst _ .pascal,
    fun s h => hconst _ (.joined h), ?_⟩
  intro pool root f hf g hg hfirst hsecond hother
  have hfields : f ≠ g := fun heq => hother (congrArg Field.name heq)
  have hsame : constantName f.name = constantName g.name :=
    (hconst _ hfirst).trans (hconst _ hsecond).symm
  exact Renderer.renderText_of_shared hf hg hfields hsame

/-- A class that writes its two words once with a capital letter and once with a hyphen. -/
def hyphenated : ModelClass := ((ModelClass.make "" "Address").scalar "zipCode").scalar "zip-code"

/-- The two words. -/
def zipCode : List (List Char) := [['z', 'i', 'p'], ['c', 'o', 'd', 'e']]

/-- `zipCode` and `zip-code` meet in `ZIP_CODE`, so their class has no artifact. -/
theorem hyphenated_never_rendered :
    constantName "zip_code" = "ZIP_CODE" ∧ constantName "zipCode" = "ZIP_CODE" ∧
      constantName "ZipCode" = "ZIP_CODE" ∧ constantName "zip-code" = "ZIP_CODE" ∧
      ∀ (pool : ClassPool) (r : Renderer) (target : Target) (source : String),
        r.renderText target (pool.tree hyphenated) ≠ .ok source := by
  have hjoined : Joined zipCode ['z', 'i', 'p', '-', 'c', 'o', 'd', 'e'] :=
    .cons ['z', 'i', 'p'] (by decide) (.single _)
  obtain ⟨hsnake, hcamel, hpascal, hother, hrender⟩ :=
    @spellings_share_constant zipCode (by decide) (by decide)
  have hfields : hyphenated.fields = [{ name := "zipCode" }, { name := "zip-code" }] := rfl
  refine ⟨hsnake, hcamel, hpascal, hother _ hjoined, fun pool => ?_⟩
  apply hrender pool hyphenated { name := "zipCode" } ?_ { name := "zip-code" } ?_ .camel
    (.joined hjoined) (by decide)
  · simp [hfields]
  · simp [hfields]

end QueryPaths
