import QueryPaths.Proofs.Path.Depth

/-! # One set for all visits

    A visit puts the class of an expanded link into the set of the classes on the way, goes through
    the fields of that class, and takes the class out again. All visits share the set, those inside
    this one and those of the fields that come after it. None of them can tell: only a class that
    is not in the set is put in, so what is taken out is exactly what was put in, and each visit
    might as well have a copy of the set for itself.

    * **`ClassPool.VisitEnds`**: a visit comes to an end, however deep it goes.
    * **`ClassPool.eq_of_run_visit`**: when a visit comes back, the nodes are those that are built
      with copies of the set, and the set is what it was before.
    * **`ClassPool.visitEnds_iff`**: a visit does come back, and in this way only.
    * **`ClassPool.visits_restore_set`**: what follows for fields that are visited one after the
      other.
-/

namespace QueryPaths.ClassPool

open Name (constantName)

variable {pool : ClassPool} {active active' : List String} {lead : String} {field : Field}
  {fields : List Field} {nodes : List PathNode} {d : ModelClass} {limit : Nat}

/-! ## Visits that come to an end -/

/-- **A visit of some fields comes to an end** with these nodes and this set, if visits may be
    nested deep enough. -/
def VisitEnds (pool : ClassPool) (lead : String) (fields : List Field) (active : List String)
    (nodes : List PathNode) (active' : List String) : Prop :=
  ∃ limit, (pool.visit limit lead fields).run active = some (nodes, active')

/-- Where each step, if it answers at all, leaves the state alone, the steps taken one after the
    other answer each for itself. -/
theorem eq_of_run_mapM {α β σ : Type} {step : α → StateT σ Option β} {answer : α → β} {s : σ}
    {xs : List α} {r : List β × σ} (h : ∀ x ∈ xs, ∀ r, (step x).run s = some r → r = (answer x, s))
    (hr : (xs.mapM step).run s = some r) : r = (xs.map answer, s) := by
  induction xs generalizing r with
  | nil => exact (Option.some.inj hr).symm
  | cons x rest ih =>
    rw [List.mapM_cons, StateT.run_bind] at hr
    obtain ⟨first, hfirst, hr⟩ := Option.bind_eq_some_iff.1 hr
    obtain rfl := h x List.mem_cons_self first hfirst
    -- the steps behind the first one begin with the state that it began with
    rw [StateT.run_bind] at hr
    obtain ⟨others, hothers, hr⟩ := Option.bind_eq_some_iff.1 hr
    obtain rfl := ih (fun y hy => h y (List.mem_cons_of_mem _ hy)) hothers
    exact (Option.some.inj hr).symm

/-- **A field whose link is expanded** has its target in the set while the visit inside goes on,
    whatever that one answers, and not afterwards. -/
theorem run_visitField_eq_map
    {inner : String → List Field → StateT (List String) Option (List PathNode)}
    (htarget : pool.target? field = some d) (hfresh : d.qualified ∉ active) :
    (pool.visitField inner lead field).run active =
      ((inner (lead ++ field.name ++ ".") d.fields).run (d.qualified :: active)).map fun r =>
        (.branch (constantName field.name) (lead ++ field.name) r.1,
          r.2.filter (· != d.qualified)) := by
  have hresolve := resolve_eq_resolved_iff_target?.2 ⟨htarget, hfresh⟩
  simp [visitField, hresolve, List.insert_of_not_mem hfresh, Option.map_eq_bind]

/-- **When the visit of a field comes back**, the node is built and the set is what it was, if that
    holds of every visit inside. -/
theorem eq_of_run_visitField
    {inner : String → List Field → StateT (List String) Option (List PathNode)}
    {r : PathNode × List String}
    (hinner : ∀ lead fields active r, (inner lead fields).run active = some r →
      r = (pool.nodes active lead fields, active))
    (hr : (pool.visitField inner lead field).run active = some r) :
    r = (pool.fieldNode active lead field, active) := by
  rcases pool.fieldNode_cases active lead field with ⟨d, htarget, hfresh, hnode⟩ | ⟨hleaf, -⟩
  · rw [run_visitField_eq_map htarget hfresh] at hr
    obtain ⟨inside, hinside, rfl⟩ := Option.map_eq_some_iff.1 hr
    -- the visit inside leaves the target in the set, and nothing else that was not there before
    obtain rfl := hinner _ _ _ _ hinside
    rw [hnode, filter_cons_of_fresh hfresh]
  · rw [run_visitField_of_no_target hleaf] at hr
    exact (Option.some.inj hr).symm

/-- **When a visit comes back, the set is what it was before**, and the nodes are those that are
    built with one more class on the way for each link that is expanded. By induction on the
    limit: visits inside are nested one less deep. -/
theorem eq_of_run_visit {r : List PathNode × List String}
    (hr : (pool.visit limit lead fields).run active = some r) :
    r = (pool.nodes active lead fields, active) := by
  induction limit generalizing lead fields active r with
  | zero => cases hr
  | succ limit ih =>
    rw [nodes_eq_map]
    refine eq_of_run_mapM ?_ hr
    intro f _ r hr
    apply eq_of_run_visitField _ hr
    intro lead fields active r hr
    exact ih hr

/-- **Every visit comes to an end**, with the nodes that are built from copies of the set, and with
    the set that it began with. -/
theorem visitEnds_iff : pool.VisitEnds lead fields active nodes active' ↔
    nodes = pool.nodes active lead fields ∧ active' = active := by
  constructor
  · rintro ⟨limit, hr⟩
    exact Prod.mk.inj (eq_of_run_visit hr)
  · rintro ⟨rfl, rfl⟩
    exact ⟨_, run_visit (Nat.lt_succ_self _) lead fields⟩

theorem visitEnds_nodes (pool : ClassPool) (lead : String) (fields : List Field)
    (active : List String) :
    pool.VisitEnds lead fields active (pool.nodes active lead fields) active :=
  visitEnds_iff.2 ⟨rfl, rfl⟩

/-! ## Siblings -/

theorem nodes_append_fields (xs ys : List Field) :
    pool.nodes active lead (xs ++ ys) = pool.nodes active lead xs ++ pool.nodes active lead ys := by
  simp only [nodes_eq_map, List.map_append]

theorem nodes_singleton (field : Field) :
    pool.nodes active lead [field] = [pool.fieldNode active lead field] := by
  rw [nodes_eq_map, List.map_singleton]

/-- The node of a field stands where the field stands among its siblings. -/
theorem getElem?_nodes (before after : List Field) (field : Field) :
    (pool.nodes active lead (before ++ field :: after))[before.length]? =
      some (pool.fieldNode active lead field) := by
  rw [nodes_eq_map, List.getElem?_map, List.getElem?_append_right (Nat.le_refl _), Nat.sub_self]
  rfl

/-- **Visits leave the shared set as they found it.** For any class, any lead and any classes on
    the way, whether that class is one of them or not, a visit of the class comes to an end, and
    whenever it does the set is what it was before and the nodes are those that are built with a
    copy of the set for each expanded link; for a root with itself on the way these are its tree.
    So two lists of fields, visited one after the other, get the nodes that each gets from the same
    set, and a field gets the node that it gets alone, whatever siblings are visited before it and
    after it. -/
theorem visits_restore_set (pool : ClassPool) :
    (∀ (c : ModelClass) (lead : String) (active : List String) (nodes : List PathNode)
      (active' : List String), pool.VisitEnds lead c.fields active nodes active' ↔
        nodes = pool.nodes active lead c.fields ∧ active' = active) ∧
    (∀ (root : ModelClass) (nodes : List PathNode) (active' : List String),
      pool.VisitEnds "" root.fields [root.qualified] nodes active' ↔
        nodes = pool.tree root ∧ active' = [root.qualified]) ∧
    (∀ (lead : String) (active : List String) (xs ys : List Field), ∃ first second,
      pool.VisitEnds lead xs active first active ∧
        pool.VisitEnds lead ys active second active ∧
        pool.VisitEnds lead (xs ++ ys) active (first ++ second) active) ∧
    ∀ (lead : String) (active : List String) (field : Field), ∃ node,
      pool.VisitEnds lead [field] active [node] active ∧
        ∀ before after, ∃ nodes, nodes[before.length]? = some node ∧
          pool.VisitEnds lead (before ++ field :: after) active nodes active := by
  refine ⟨?_, ?_, ?_, ?_⟩
  · intro c lead active nodes active'
    exact visitEnds_iff
  · intro root nodes active'
    exact visitEnds_iff
  · intro lead active xs ys
    refine ⟨_, _, visitEnds_nodes pool lead xs active, visitEnds_nodes pool lead ys active, ?_⟩
    rw [← nodes_append_fields]
    exact visitEnds_nodes pool lead (xs ++ ys) active
  · intro lead active field
    refine ⟨pool.fieldNode active lead field, ?_, ?_⟩
    · rw [← nodes_singleton]
      exact visitEnds_nodes pool lead [field] active
    · intro before after
      refine ⟨_, getElem?_nodes before after field, ?_⟩
      exact visitEnds_nodes pool lead (before ++ field :: after) active

end QueryPaths.ClassPool
