import QueryPaths.Proofs.Emit.ReadBack

/-! # Names that cannot be rendered

    Rendering fails at a name that is no identifier, or at one that its scope holds
    already. If all names of a tree are plain, only the type name and the self constant
    can be no identifiers, and the self constant is not looked at before a branch is
    rendered.

    * **`Renderer.isDuplicate_of_render`**: if these two are identifiers, rendering can
      fail at a repeated name only.
    * **`BranchFirst`**: a branch comes before any name is repeated.
    * **`Renderer.render_eq_invalidIdent_iff`**: when rendering fails at a name that is no
      identifier.
-/

namespace QueryPaths

open PathNode (Scope)
open Source

/-- Is the error that of a name that stands in its scope already? -/
def EmitError.IsDuplicate (e : EmitError) : Prop := ∃ scope name, e = .duplicateName scope name

/-- **A branch comes before any name is repeated**: it stands at a position up to which
    all names are different and none is among those taken. -/
def BranchFirst (taken : List String) (nodes : List PathNode) : Prop :=
  ∃ i n, nodes[i]? = some n ∧ n.isBranch = true ∧
    ((nodes.take (i + 1)).map PathNode.name).Nodup ∧ ∀ m ∈ nodes.take (i + 1), m.name ∉ taken

/-- Nothing comes before the first node but that its name may be taken. -/
theorem branchFirst_cons {taken : List String} {first : PathNode} {rest : List PathNode} :
    BranchFirst taken (first :: rest) ↔
      first.name ∉ taken ∧ (first.isBranch = true ∨ BranchFirst (first.name :: taken) rest) := by
  constructor
  · intro h
    obtain ⟨i, n, hn, hbranch, hnodup, hfresh⟩ := h
    refine ⟨hfresh first (by simp), ?_⟩
    -- the branch is the first node, or one position less far behind it
    cases i with
    | zero =>
      obtain rfl := Option.some.inj hn
      exact .inl hbranch
    | succ i =>
      rw [List.take_succ_cons, List.map_cons, List.nodup_cons] at hnodup
      refine .inr ⟨i, n, hn, hbranch, hnodup.2, fun m hm hmem => ?_⟩
      rcases List.mem_cons.1 hmem with heq | hmem
      · exact hnodup.1 (List.mem_map.2 ⟨m, hm, heq⟩)
      · refine hfresh m ?_ hmem
        rw [List.take_succ_cons]
        exact List.mem_cons_of_mem _ hm
  · intro h
    obtain ⟨hnew, hbranch | hrest⟩ := h
    · refine ⟨0, first, rfl, hbranch, by simp, fun m hm => ?_⟩
      obtain rfl : m = first := by simpa using hm
      exact hnew
    · obtain ⟨i, n, hn, hbranch, hnodup, hfresh⟩ := hrest
      refine ⟨i + 1, n, hn, hbranch, ?_, fun m hm hmem => ?_⟩
      · rw [List.take_succ_cons, List.map_cons, List.nodup_cons]
        refine ⟨fun hmem => ?_, hnodup⟩
        obtain ⟨m, hm, heq⟩ := List.mem_map.1 hmem
        exact hfresh m hm (heq ▸ List.mem_cons_self)
      · rw [List.take_succ_cons] at hm
        rcases List.mem_cons.1 hm with rfl | hm
        · exact hnew hmem
        · exact hfresh m hm (List.mem_cons_of_mem _ hmem)

namespace Renderer

variable {r : Renderer} {scope taken : List String} {nodes tree : List PathNode} {target : Target}
  {e : EmitError} {text : String}

/-! ## One step -/

/-- **Siblings fail** at a name that is taken, at the first node, or behind it. -/
theorem siblings_cons_eq_error {first : PathNode} {rest : List PathNode} :
    r.siblings scope taken (first :: rest) = .error e ↔
      (first.name ∈ taken ∧ e = .duplicateName scope first.name) ∨
      (first.name ∉ taken ∧ (r.node scope first = .error e ∨ ∃ item,
        r.node scope first = .ok item ∧
          r.siblings scope (first.name :: taken) rest = .error e)) := by
  rw [siblings]
  by_cases htaken : first.name ∈ taken
  · simp [htaken, bind, Except.bind, throw, throwThe, MonadExceptOf.throw, eq_comm]
  · simp only [List.contains_iff_mem, htaken, if_false, bind_eq_error, pure_eq_error, false_and,
      false_or, not_false_eq_true, true_and, and_false, exists_false, or_false]

theorem node_leaf_ne_error {name path : String} (h : IsPlain name) :
    r.node scope (.leaf name path) ≠ .error e := by
  have hok : ∃ item, r.node scope (.leaf name path) = .ok item :=
    node_leaf_isOk_iff.2 (Option.isSome_iff_exists.2 ⟨_, h⟩)
  obtain ⟨item, hitem⟩ := hok
  rw [hitem]
  simp

/-- **A branch fails** at its name, at the self constant, or at its children. -/
theorem node_branch_eq_error_iff {name path : String} {children : List PathNode} :
    r.node scope (.branch name path children) = .error e ↔
      (Ident.parse? name = none ∧ e = .invalidIdent name) ∨
      ((Ident.parse? name).isSome = true ∧
        ((Ident.parse? r.selfConst = none ∧ e = .invalidIdent r.selfConst) ∨
        ((Ident.parse? r.selfConst).isSome = true ∧
          r.siblings (scope ++ [name]) [r.selfConst] children = .error e))) := by
  simp only [node, bind_eq_error, pure_eq_error, identifier_eq_error_iff, identifier_eq_ok_iff,
    Option.isSome_iff_exists, and_false, exists_false, or_false, exists_and_right]

theorem node_branch_eq_error {name path : String} {children : List PathNode} (h : IsPlain name) :
    r.node scope (.branch name path children) = .error e ↔
      (Ident.parse? r.selfConst = none ∧ e = .invalidIdent r.selfConst) ∨
      ((Ident.parse? r.selfConst).isSome = true ∧
        r.siblings (scope ++ [name]) [r.selfConst] children = .error e) := by
  have hname : Ident.parse? name = some (plain name) := h
  rw [node_branch_eq_error_iff, hname]
  simp

/-! ## Where the self constant is an identifier -/

/-- Siblings fail at a repeated name only if each of them does. -/
theorem isDuplicate_of_siblings
    (hnodes : ∀ n ∈ nodes, ∀ scope e, r.node scope n = .error e → e.IsDuplicate)
    (h : r.siblings scope taken nodes = .error e) : e.IsDuplicate := by
  induction nodes generalizing taken with
  | nil => simp [siblings] at h
  | cons first rest ih =>
    rcases siblings_cons_eq_error.1 h with ⟨-, rfl⟩ | ⟨-, hfirst | ⟨item, -, hrest⟩⟩
    · exact ⟨scope, first.name, rfl⟩
    · exact hnodes first List.mem_cons_self scope e hfirst
    · exact ih (fun n hn => hnodes n (List.mem_cons_of_mem _ hn)) hrest

/-- **A node with plain names fails at a repeated name only.** -/
theorem isDuplicate_of_node (hself : (Ident.parse? r.selfConst).isSome = true) (n : PathNode) :
    PlainNames [n] → ∀ scope e, r.node scope n = .error e → e.IsDuplicate := by
  induction n with
  | leaf name path =>
    intro hplain scope e h
    have hname : IsPlain name := hplain.isPlain (n := .leaf name path) List.mem_cons_self
    exact absurd h (node_leaf_ne_error hname)
  | branch name path children ih =>
    intro hplain scope e h
    have hname : IsPlain name :=
      hplain.isPlain (n := .branch name path children) List.mem_cons_self
    have hchildren : PlainNames children := hplain.children List.mem_cons_self
    rcases (node_branch_eq_error hname).1 h with ⟨hnone, -⟩ | ⟨-, h⟩
    · rw [hnone] at hself
      cases hself
    · exact isDuplicate_of_siblings (fun n hn => ih n hn (hchildren.singleton hn)) h

/-- **An artifact with plain names fails at a repeated name only.** -/
theorem isDuplicate_of_render (hself : (Ident.parse? r.selfConst).isSome = true)
    (htype : (Ident.parse? target.typeName).isSome = true) (hplain : PlainNames tree)
    (h : r.render target tree = .error e) : e.IsDuplicate := by
  simp only [render, bind_eq_error, pure_eq_error, identifier_eq_error_iff] at h
  rcases h with ⟨hnone, -⟩ | ⟨ident, -, h | ⟨items, -, h⟩⟩
  · rw [hnone] at htype
    cases htype
  · exact isDuplicate_of_siblings
      (fun n hn => isDuplicate_of_node hself n (hplain.singleton hn)) h
  · cases h

/-! ## Where it is not -/

/-- **Siblings fail at the self constant** if a branch comes before any name is
    repeated. -/
theorem siblings_eq_invalidIdent_iff (hself : Ident.parse? r.selfConst = none)
    (hplain : ∀ n ∈ nodes, IsPlain n.name) :
    r.siblings scope taken nodes = .error (.invalidIdent text) ↔
      text = r.selfConst ∧ BranchFirst taken nodes := by
  induction nodes generalizing taken with
  | nil => simp [siblings, BranchFirst]
  | cons first rest ih =>
    have hrest : r.siblings scope (first.name :: taken) rest = .error (.invalidIdent text) ↔
        text = r.selfConst ∧ BranchFirst (first.name :: taken) rest :=
      ih fun n hn => hplain n (List.mem_cons_of_mem _ hn)
    rw [siblings_cons_eq_error, branchFirst_cons, hrest]
    -- a leaf never fails and hands on to the others; a branch fails at once
    cases first with
    | leaf name path =>
      have hname : IsPlain name := hplain (.leaf name path) List.mem_cons_self
      have hne : r.node scope (.leaf name path) ≠ .error (.invalidIdent text) :=
        node_leaf_ne_error hname
      have hok : ∃ item, r.node scope (.leaf name path) = .ok item :=
        node_leaf_isOk_iff.2 (Option.isSome_iff_exists.2 ⟨_, hname⟩)
      simp only [hne, exists_and_right, hok, PathNode.isBranch, reduceCtorEq, and_false, false_or,
        true_and]
      tauto
    | branch name path children =>
      have hname : IsPlain name := hplain (.branch name path children) List.mem_cons_self
      have hbranch : r.node scope (.branch name path children) = .error (.invalidIdent text) ↔
          text = r.selfConst := by
        rw [node_branch_eq_error hname]
        simp [hself]
      have hfails : ∀ item, r.node scope (.branch name path children) ≠ .ok item := by
        intro item hitem
        obtain ⟨_, self, _, -, hsome, -⟩ := node_branch_eq_ok.1 hitem
        rw [hself] at hsome
        cases hsome
      simp only [hbranch, hfails, PathNode.isBranch, reduceCtorEq, and_false, false_or, false_and,
        exists_false, or_false, true_or, and_true]
      tauto

/-- **When rendering fails at a name that is no identifier**: at the type name, or else at
    the self constant if a branch comes before any name at the top is repeated. -/
theorem render_eq_invalidIdent_iff (hplain : PlainNames tree) :
    r.render target tree = .error (.invalidIdent text) ↔
      (Ident.parse? target.typeName = none ∧ text = target.typeName) ∨
      ((Ident.parse? target.typeName).isSome = true ∧ Ident.parse? r.selfConst = none ∧
        text = r.selfConst ∧ BranchFirst [] tree) := by
  -- the type name is looked at first, and the self constant at the first branch
  by_cases htype : Ident.parse? target.typeName = none
  · simp [render, identifier_eq_error_iff, identifier_eq_ok_iff, htype]
  · obtain ⟨ident, hident⟩ := Option.ne_none_iff_exists'.1 htype
    by_cases hself : Ident.parse? r.selfConst = none
    · have hsiblings : r.siblings [target.typeName] [] tree = .error (.invalidIdent text) ↔
          text = r.selfConst ∧ BranchFirst [] tree :=
        siblings_eq_invalidIdent_iff hself fun n hn => hplain.isPlain hn
      simp only [render, bind_eq_error, pure_eq_error, identifier_eq_error_iff,
        identifier_eq_ok_iff, hident, hself, ← hsiblings]
      simp
    · have hsome : (Ident.parse? r.selfConst).isSome = true := Option.isSome_iff_ne_none.2 hself
      constructor
      · intro h
        obtain ⟨_, _, hdup⟩ := isDuplicate_of_render hsome (by rw [hident]; rfl) hplain h
        cases hdup
      · rintro (⟨hnone, -⟩ | ⟨-, hnone, -⟩)
        · exact absurd hnone htype
        · exact absurd hnone hself

end Renderer

end QueryPaths
