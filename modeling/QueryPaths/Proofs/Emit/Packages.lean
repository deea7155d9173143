import Mathlib.Data.String.Basic
import QueryPaths.Proofs.Emit.Paths

/-! # Nested packages

    Inserting artifacts one after the other sorts them into packages. Whatever the order,
    a package holds the artifacts of exactly its segments, and there is a package for
    every front of an artifact's segments, once.

    * **`PackageTree.at?`**: the package at some segments.
    * **`PackageTree.Ordered`**: the names of inner packages ascend, so none comes twice.
    * **`PackageTree.at?_insert`**: what an insertion changes.
    * **`PackageTree.artifactsAt_ofWritten`**, **`PackageTree.hasPackage_ofWritten`**: what
      the packages of a list of artifacts are.
-/

namespace QueryPaths

/-- The package and the type name of an artifact. -/
def Written.key (w : Written) : String × String := (w.package, w.typeName)

/-- Does the artifact belong into the package of these segments? -/
def Written.isIn (way : List String) (w : Written) : Bool :=
  (packageSegments w.package).toOption == some way

namespace PackageTree

/-- **Induction over a package and all packages inside it.** -/
@[elab_as_elim, induction_eliminator]
theorem induct {motive : PackageTree → Prop}
    (package : ∀ artifacts modules, (∀ m ∈ modules, motive m.2) →
      motive (.package artifacts modules)) : ∀ t, motive t
  | .package artifacts modules => package artifacts modules fun m _ => induct package m.2
decreasing_by
  all_goals
    have hlt := List.sizeOf_lt_of_mem ‹_ ∈ _›
    obtain ⟨name, t⟩ := m
    simp only [Prod.mk.sizeOf_spec, PackageTree.package.sizeOf_spec] at hlt ⊢
    omega

/-- The artifacts of a package itself. -/
def artifacts : PackageTree → List (String × String)
  | .package artifacts _ => artifacts

/-- The packages directly inside it. -/
def modules : PackageTree → List (String × PackageTree)
  | .package _ modules => modules

/-- **The package at some segments**, seen from the given one. -/
def at? : PackageTree → List String → Option PackageTree
  | t, [] => some t
  | t, name :: rest => (t.modules.lookup name).bind (at? · rest)

/-- **The names of inner packages ascend**, here and further inside. -/
inductive Ordered : PackageTree → Prop where
  /-- Those directly inside ascend, and each of them is ordered. -/
  | package {artifacts : List (String × String)} {modules : List (String × PackageTree)}
      (sorted : (modules.map (·.1)).Pairwise (· < ·)) (nested : ∀ m ∈ modules, Ordered m.2) :
      Ordered (.package artifacts modules)

variable {name typeName path : String} {f : PackageTree → PackageTree} {t t' : PackageTree}
  {ms : List (String × PackageTree)} {segments way : List String}

theorem ordered_empty : Ordered empty := .package .nil (fun _ hm => by cases hm)

theorem Ordered.sorted (h : Ordered t) : (t.modules.map (·.1)).Pairwise (· < ·) := by
  cases h with
  | package sorted nested => exact sorted

theorem Ordered.nested (h : Ordered t) : ∀ m ∈ t.modules, Ordered m.2 := by
  cases h with
  | package sorted nested => exact nested

theorem Ordered.nodup (h : Ordered t) : (t.modules.map (·.1)).Nodup :=
  h.sorted.imp fun hlt => ne_of_lt hlt

/-! ## Inner packages by name -/

theorem lookup_cons_eq (m : String × PackageTree) (rest : List (String × PackageTree))
    (other : String) :
    (m :: rest).lookup other = if other = m.1 then some m.2 else rest.lookup other := by
  rw [List.lookup_cons]
  by_cases ho : other = m.1
  · simp [ho]
  · have hbeq : (other == m.1) = false := by simpa using ho
    simp [hbeq, ho]

theorem lookup_eq_some_iff (h : (ms.map (·.1)).Nodup) :
    ms.lookup name = some t ↔ (name, t) ∈ ms := by
  induction ms with
  | nil => simp
  | cons m rest ih =>
    obtain ⟨n, u⟩ := m
    rw [List.map_cons, List.nodup_cons] at h
    obtain ⟨hnew, hnodup⟩ := h
    rw [lookup_cons_eq]
    by_cases hn : name = n
    · subst hn
      have hrest : (name, t) ∉ rest := fun hmem => hnew (List.mem_map_of_mem (f := (·.1)) hmem)
      simp [hrest, eq_comm]
    · simp [hn, ih hnodup]

theorem isSome_lookup_iff : (ms.lookup name).isSome = true ↔ name ∈ ms.map (·.1) := by
  rw [List.lookup_isSome_iff]
  constructor
  · intro h
    obtain ⟨m, hm, heq⟩ := h
    exact List.mem_map.2 ⟨m, hm, (beq_iff_eq.1 heq).symm⟩
  · intro h
    obtain ⟨m, hm, heq⟩ := List.mem_map.1 h
    exact ⟨m, hm, by simp [heq]⟩

theorem lookup_eq_none_of_lt (h : ∀ m ∈ ms, name < m.1) : ms.lookup name = none := by
  rw [List.lookup_eq_none_iff]
  intro m hm
  simpa using ne_of_lt (h m hm)

/-- **Altering an inner package** makes it if need be and leaves the others alone. -/
theorem lookup_alter (h : (ms.map (·.1)).Pairwise (· < ·)) (other : String) :
    (alter name f ms).lookup other =
      if other = name then some (f ((ms.lookup name).getD empty)) else ms.lookup other := by
  induction ms with
  | nil => rw [alter, lookup_cons_eq]; rfl
  | cons m rest ih =>
    obtain ⟨n, u⟩ := m
    rw [List.map_cons, List.pairwise_cons] at h
    obtain ⟨hfirst, hrest⟩ := h
    rw [alter]
    split
    · next hn =>
      subst hn
      simp only [lookup_cons_eq, if_true, Option.getD_some]
      split <;> rfl
    · next hn =>
      split
      · next hlt =>
        -- everything that is there comes behind the name
        have hnone : ((n, u) :: rest).lookup name = none := by
          apply lookup_eq_none_of_lt
          intro m hm
          rcases List.mem_cons.1 hm with rfl | hm
          · exact hlt
          · exact lt_trans hlt (hfirst m.1 (List.mem_map_of_mem hm))
        rw [hnone, lookup_cons_eq]
        rfl
      · rw [lookup_cons_eq, lookup_cons_eq, lookup_cons_eq, ih hrest, if_neg (Ne.symm hn)]
        by_cases ho : other = n
        · rw [if_pos ho, if_neg (ho ▸ hn), if_pos ho]
        · rw [if_neg ho, if_neg ho]

/-- What is there after altering was there before, or is the altered one. -/
theorem mem_alter {m : String × PackageTree} (h : m ∈ alter name f ms) :
    m ∈ ms ∨ m.1 = name ∧ ∃ u, (u = empty ∨ (name, u) ∈ ms) ∧ m.2 = f u := by
  induction ms with
  | nil =>
    obtain rfl := List.mem_singleton.1 h
    exact .inr ⟨rfl, empty, .inl rfl, rfl⟩
  | cons first rest ih =>
    obtain ⟨n, u⟩ := first
    -- found here, put in front of here, or looked for behind
    rw [alter] at h
    split at h
    · next hn =>
      subst hn
      rcases List.mem_cons.1 h with rfl | h
      · exact .inr ⟨rfl, u, .inr List.mem_cons_self, rfl⟩
      · exact .inl (List.mem_cons_of_mem _ h)
    · split at h
      · rcases List.mem_cons.1 h with rfl | h
        · exact .inr ⟨rfl, empty, .inl rfl, rfl⟩
        · exact .inl h
      · rcases List.mem_cons.1 h with rfl | h
        · exact .inl List.mem_cons_self
        · rcases ih h with hold | ⟨hname, v, hv, heq⟩
          · exact .inl (List.mem_cons_of_mem _ hold)
          · exact .inr ⟨hname, v, hv.imp id (List.mem_cons_of_mem _), heq⟩

/-- **Altering keeps the names in order.** -/
theorem sorted_alter (h : (ms.map (·.1)).Pairwise (· < ·)) :
    ((alter name f ms).map (·.1)).Pairwise (· < ·) := by
  induction ms with
  | nil => exact List.pairwise_singleton _ _
  | cons m rest ih =>
    obtain ⟨n, u⟩ := m
    rw [List.map_cons, List.pairwise_cons] at h
    obtain ⟨hfirst, hrest⟩ := h
    rw [alter]
    split
    · exact List.pairwise_cons.2 ⟨hfirst, hrest⟩
    · next hn =>
      split
      · next hlt =>
        rw [List.map_cons, List.pairwise_cons]
        refine ⟨fun k hk => ?_, List.pairwise_cons.2 ⟨hfirst, hrest⟩⟩
        rcases List.mem_cons.1 hk with rfl | hk
        · exact hlt
        · exact lt_trans hlt (hfirst k hk)
      · next hlt =>
        -- further behind there are the old names and the altered one
        rw [List.map_cons, List.pairwise_cons]
        refine ⟨fun k hk => ?_, ih hrest⟩
        obtain ⟨m, hm, rfl⟩ := List.mem_map.1 hk
        rcases mem_alter hm with hm | ⟨hname, -⟩
        · exact hfirst m.1 (List.mem_map_of_mem hm)
        · rw [hname]
          exact lt_of_le_of_ne (not_lt.1 hlt) hn

theorem Ordered.at? {u : PackageTree} (h : Ordered t) (hu : t.at? way = some u) : Ordered u := by
  induction way generalizing t with
  | nil =>
    obtain rfl := Option.some.inj hu
    exact h
  | cons name rest ih =>
    obtain ⟨v, hv, hu⟩ := Option.bind_eq_some_iff.1 hu
    exact ih (h.nested _ ((lookup_eq_some_iff h.nodup).1 hv)) hu

theorem at?_getD_empty (o : Option PackageTree) (name : String) (rest : List String) :
    (o.getD empty).at? (name :: rest) = o.bind (at? · (name :: rest)) := by
  cases o with
  | none => rfl
  | some t => rfl

/-! ## Insertion -/

/-- An insertion further inside alters one inner package. -/
theorem insert_cons (rest : List String) (t : PackageTree) :
    insert typeName path (name :: rest) t =
      .package t.artifacts (alter name (insert typeName path rest) t.modules) := by
  cases t
  rfl

/-- An insertion in the package itself adds an artifact behind the others. -/
theorem insert_nil (t : PackageTree) :
    insert typeName path [] t = .package (t.artifacts ++ [(typeName, path)]) t.modules := by
  cases t
  rfl

/-- **Insertion keeps packages in order.** -/
theorem Ordered.insert (h : Ordered t) : Ordered (insert typeName path segments t) := by
  induction segments generalizing t with
  | nil =>
    rw [insert_nil]
    exact .package h.sorted h.nested
  | cons name rest ih =>
    rw [insert_cons]
    refine .package (sorted_alter h.sorted) fun m hm => ?_
    rcases mem_alter hm with hold | ⟨-, u, rfl | hu, heq⟩
    · exact h.nested m hold
    · rw [heq]
      exact ih ordered_empty
    · rw [heq]
      exact ih (h.nested _ hu)

/-- **What an insertion changes**: the packages on the way to the new artifact, each of
    which is made if need be, and no other. -/
theorem at?_insert (h : Ordered t) :
    (insert typeName path segments t).at? way =
      if way <+: segments then
        some (insert typeName path (segments.drop way.length) ((t.at? way).getD empty))
      else t.at? way := by
  induction segments generalizing t way with
  | nil =>
    cases way with
    | nil => simp [at?]
    | cons name rest => simp [at?, insert_nil, modules]
  | cons segment rest ih =>
    cases way with
    | nil => simp [at?]
    | cons name others =>
      -- both ways have a first segment; only if it is the same is there a change
      rw [at?, insert_cons, modules, lookup_alter h.sorted]
      by_cases hname : name = segment
      · subst hname
        have hordered : Ordered ((t.modules.lookup name).getD empty) := by
          cases hlookup : t.modules.lookup name with
          | none => exact ordered_empty
          | some u => exact h.nested _ ((lookup_eq_some_iff h.nodup).1 hlookup)
        rw [if_pos rfl, Option.bind_some, ih hordered, at?]
        simp only [List.cons_prefix_cons, true_and, List.length_cons, List.drop_succ_cons]
        cases others with
        | nil => cases t.modules.lookup name <;> simp [at?]
        | cons next more => simp [at?_getD_empty]
      · simp [hname, at?]

/-! ## What is in a package -/

/-- The artifacts of the package at some segments; where there is none, there are none. -/
def artifactsAt (t : PackageTree) (way : List String) : List (String × String) :=
  ((t.at? way).getD empty).artifacts

/-- Is there a package at some segments? -/
def HasPackage (t : PackageTree) (way : List String) : Prop := (t.at? way).isSome = true

/-- **An insertion adds one artifact at its segments.** -/
theorem artifactsAt_insert (h : Ordered t) :
    artifactsAt (insert typeName path segments t) way =
      artifactsAt t way ++ if way = segments then [(typeName, path)] else [] := by
  unfold artifactsAt
  rw [at?_insert h]
  by_cases hprefix : way <+: segments
  · obtain ⟨behind, rfl⟩ := hprefix
    rw [if_pos (List.prefix_append way behind), List.drop_left]
    cases behind with
    | nil => simp [insert_nil, artifacts]
    | cons name rest => simp [insert_cons, artifacts]
  · have hne : way ≠ segments := by
      rintro rfl
      exact hprefix List.prefix_rfl
    rw [if_neg hprefix, if_neg hne, List.append_nil]

/-- **An insertion makes the packages on its way.** -/
theorem hasPackage_insert (h : Ordered t) :
    HasPackage (insert typeName path segments t) way ↔ HasPackage t way ∨ way <+: segments := by
  unfold HasPackage
  rw [at?_insert h]
  by_cases hway : way <+: segments
  · simp [hway]
  · simp [hway]

theorem at?_append_singleton {u : PackageTree} (h : t.at? way = some u) :
    t.at? (way ++ [name]) = u.modules.lookup name := by
  induction way generalizing t with
  | nil =>
    obtain rfl := Option.some.inj h
    rw [List.nil_append, at?]
    cases t.modules.lookup name <;> rfl
  | cons first rest ih =>
    obtain ⟨v, hv, hu⟩ := Option.bind_eq_some_iff.1 h
    rw [List.cons_append, at?, hv, Option.bind_some, ih hu]

/-- The packages directly inside are those at one more segment. -/
theorem mem_modules_iff {u : PackageTree} (h : t.at? way = some u) :
    name ∈ u.modules.map (·.1) ↔ HasPackage t (way ++ [name]) := by
  rw [HasPackage, at?_append_singleton h, isSome_lookup_iff]

/-- **What holds of every package** holds of the given one, and of every package inside. -/
theorem forall_at?_iff (h : Ordered t) {P : PackageTree → Prop} :
    (∀ way u, t.at? way = some u → P u) ↔
      P t ∧ ∀ m ∈ t.modules, ∀ way u, m.2.at? way = some u → P u := by
  -- a way into a package is empty, or leads into one of the modules first
  constructor
  · intro hall
    refine ⟨hall [] t rfl, fun m hm way u hu => ?_⟩
    have hlookup : t.modules.lookup m.1 = some m.2 := (lookup_eq_some_iff h.nodup).2 hm
    apply hall (m.1 :: way)
    rw [at?, hlookup, Option.bind_some, hu]
  · intro hboth way u hu
    obtain ⟨hself, hnested⟩ := hboth
    cases way with
    | nil =>
      obtain rfl := Option.some.inj hu
      exact hself
    | cons name rest =>
      obtain ⟨v, hv, hu⟩ := Option.bind_eq_some_iff.1 hu
      exact hnested _ ((lookup_eq_some_iff h.nodup).1 hv) rest u hu

/-! ## Packages of written artifacts -/

variable {written : List Written}

theorem isIn_iff {w : Written} : w.isIn way = true ↔ packageSegments w.package = .ok way := by
  rw [Written.isIn, beq_iff_eq]
  cases packageSegments w.package <;> simp [Except.toOption]

theorem ofWritten_cons_eq_ok {w : Written} :
    ofWritten (w :: written) t = .ok t' ↔ ∃ segments, packageSegments w.package = .ok segments ∧
      ofWritten written (insert w.typeName w.path segments t) = .ok t' := by
  simp only [ofWritten, bind_eq_ok]

theorem Ordered.ofWritten (h : Ordered t) (hok : ofWritten written t = .ok t') : Ordered t' := by
  induction written generalizing t with
  | nil =>
    obtain rfl := pure_eq_ok.1 hok
    exact h
  | cons w rest ih =>
    obtain ⟨segments, -, hrest⟩ := ofWritten_cons_eq_ok.1 hok
    exact ih h.insert hrest

/-- **A package holds the artifacts of its segments**, in the order they are given in. -/
theorem artifactsAt_ofWritten (h : Ordered t) (hok : ofWritten written t = .ok t') :
    artifactsAt t' way =
      artifactsAt t way ++ (written.filter (Written.isIn way)).map fun w => (w.typeName, w.path) := by
  induction written generalizing t with
  | nil =>
    obtain rfl := pure_eq_ok.1 hok
    simp
  | cons w rest ih =>
    obtain ⟨segments, hsegments, hrest⟩ := ofWritten_cons_eq_ok.1 hok
    rw [ih h.insert hrest, artifactsAt_insert h, List.append_assoc, List.filter_cons]
    -- an artifact is added to the package of its segments only
    by_cases hway : way = segments
    · subst hway
      rw [if_pos rfl, if_pos (isIn_iff.2 hsegments)]
      rfl
    · have hnot : ¬w.isIn way = true := by
        intro hin
        rw [isIn_iff, hsegments] at hin
        exact hway (Except.ok.inj hin).symm
      rw [if_neg hway, if_neg hnot, List.nil_append]

/-- **There is a package for every front of an artifact's segments**, and no other. -/
theorem hasPackage_ofWritten (h : Ordered t) (hok : ofWritten written t = .ok t') :
    HasPackage t' way ↔ HasPackage t way ∨
      ∃ w ∈ written, ∃ segments, packageSegments w.package = .ok segments ∧ way <+: segments := by
  induction written generalizing t with
  | nil =>
    obtain rfl := pure_eq_ok.1 hok
    simp
  | cons w rest ih =>
    obtain ⟨segments, hsegments, hrest⟩ := ofWritten_cons_eq_ok.1 hok
    rw [ih h.insert hrest, hasPackage_insert h]
    have hfirst : way <+: segments ↔
        ∃ s, packageSegments w.package = .ok s ∧ way <+: s := by
      rw [hsegments]
      simp
    rw [hfirst, or_assoc, List.exists_mem_cons_iff]

theorem artifactsAt_empty : artifactsAt empty way = [] := by
  cases way <;> rfl

theorem hasPackage_empty : HasPackage empty way ↔ way = [] := by
  cases way <;> simp [HasPackage, at?, empty, modules]

/-- **The packages of some artifacts** are the root and the fronts of their segments. -/
theorem hasPackage_iff (hok : ofWritten written empty = .ok t) :
    HasPackage t way ↔ way = [] ∨
      ∃ w ∈ written, ∃ segments, packageSegments w.package = .ok segments ∧ way <+: segments := by
  rw [hasPackage_ofWritten ordered_empty hok, hasPackage_empty]

theorem artifacts_eq_map (hok : ofWritten written empty = .ok t) {u : PackageTree}
    (hu : t.at? way = some u) :
    u.artifacts = (written.filter (Written.isIn way)).map fun w => (w.typeName, w.path) := by
  have hat : artifactsAt t way = artifactsAt empty way ++ _ :=
    artifactsAt_ofWritten ordered_empty hok
  rwa [artifactsAt, hu, Option.getD_some, artifactsAt_empty, List.nil_append] at hat

/-- **The artifacts in a package** are those of its segments. -/
theorem mem_artifacts_iff (hok : ofWritten written empty = .ok t) {u : PackageTree}
    (hu : t.at? way = some u) {a : String × String} :
    a ∈ u.artifacts ↔
      ∃ w ∈ written, packageSegments w.package = .ok way ∧ (w.typeName, w.path) = a := by
  rw [artifacts_eq_map hok hu, List.mem_map]
  constructor
  · intro h
    obtain ⟨w, hw, heq⟩ := h
    obtain ⟨hmem, hin⟩ := List.mem_filter.1 hw
    exact ⟨w, hmem, isIn_iff.1 hin, heq⟩
  · intro h
    obtain ⟨w, hw, hsegments, heq⟩ := h
    exact ⟨w, List.mem_filter.2 ⟨hw, isIn_iff.2 hsegments⟩, heq⟩

/-- **If no target comes twice, no artifact of a package is called like another.** -/
theorem nodup_artifacts (hok : ofWritten written empty = .ok t) {u : PackageTree}
    (hu : t.at? way = some u)
    (htargets : (written.map Written.key).Nodup) : (u.artifacts.map (·.1)).Nodup := by
  rw [artifacts_eq_map hok hu, List.map_map]
  -- artifacts of one package differ in their type names
  have hfilter := (List.pairwise_map.1 htargets).filter (Written.isIn way)
  refine List.pairwise_map.2 (hfilter.imp_of_mem ?_)
  intro v w hv hw hdiffer htype
  have hv' := isIn_iff.1 (List.mem_filter.1 hv).2
  have hw' := isIn_iff.1 (List.mem_filter.1 hw).2
  exact hdiffer (Prod.ext (packageSegments_inj hv' hw') htype)

theorem exists_segments_of_ofWritten (hok : ofWritten written t = .ok t') :
    ∀ w ∈ written, ∃ segments, packageSegments w.package = .ok segments := by
  induction written generalizing t with
  | nil => simp
  | cons w rest ih =>
    obtain ⟨segments, hsegments, hrest⟩ := ofWritten_cons_eq_ok.1 hok
    intro v hv
    rcases List.mem_cons.1 hv with rfl | hv
    · exact ⟨segments, hsegments⟩
    · exact ih hrest v hv

end PackageTree

end QueryPaths
