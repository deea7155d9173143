import QueryPaths.Proofs.Emit.Inclusion
import QueryPaths.Proofs.Emit.Index
import QueryPaths.Proofs.Emit.Script
import QueryPaths.Proofs.Emit.Spelling

/-! # The crate that is generated

    The index with the source of each artifact in place of its inclusion is one crate. Its
    scopes are those of the packages and those inside the artifacts. Names are told apart by
    their spelling in each of them, so a name is declared twice exactly if it has two
    spellings there.

    * **`PackageTree.Clear`**: a package in which no name has two spellings.
    * **`PackageTree.unambiguous_iff_clear`**: packages with the artifacts' sources declare
      no name twice exactly if each of them is clear.
    * **`namesIn`**: the spellings that meet in the package of some segments.
    * **`unambiguous_crate_iff`**: when the crate of some artifacts declares no name twice.
    * **`OutputDirectory.crate_unambiguous_iff`**: the same for that of a sequence of steps.
-/

namespace QueryPaths

open PathNode (Scope)
open Source Source.Item

/-! ## Attributes make no difference -/

namespace Source.Item

theorem declared?_bare (item : Item) : item.bare.declared? = item.declared? := by
  cases item <;> rfl

theorem inner_bare (item : Item) : item.bare.inner = item.inner.map bare := by
  cases item with
  | constant ident value => rfl
  | module attributes ident items => exact bareItems_eq_map items
  | inclusion path => rfl

theorem filterMap_declared?_bare (items : List Item) :
    (items.map bare).filterMap declared? = items.filterMap declared? := by
  rw [List.filterMap_map]
  congr 1
  funext item
  exact declared?_bare item

/-- **Without attributes an item is as unambiguous inside as with them.** -/
theorem unambiguous_inner_bare (item : Item) :
    Unambiguous item.bare.inner ↔ Unambiguous item.inner := by
  induction item with
  | constant ident value => rfl
  | module attributes ident items ih =>
    rw [inner_bare, unambiguous_iff, unambiguous_iff]
    show ((items.map bare).filterMap declared?).Nodup ∧ _ ↔ _
    -- the names at the top are the same, so only what is inside is left
    rw [filterMap_declared?_bare]
    refine and_congr_right fun _ => ?_
    constructor
    · intro h item hitem
      exact (ih item hitem).1 (h _ (List.mem_map_of_mem hitem))
    · intro h item hitem
      obtain ⟨item, hmem, rfl⟩ := List.mem_map.1 hitem
      exact (ih item hmem).2 (h item hmem)
  | inclusion path => rfl

end Source.Item

/-! ## Packages with the artifacts' sources -/

namespace PackageTree

/-- The names in a package: those of its artifacts and of the packages inside. -/
def names (t : PackageTree) : List String := t.artifacts.map (·.1) ++ t.modules.map (·.1)

variable {read : String → Option (List Item)} {source : String → Item} {scope : List String}
  {t : PackageTree} {items : List Item}

/-- **A package in which no name has two spellings**, neither its own nor those inside its
    artifacts. The source of an artifact is given by the file that it is in. -/
structure Clear (source : String → Item) (t : PackageTree) : Prop where
  /-- The names stand for different ones. -/
  nodup : (t.names.filterMap meaning?).Nodup
  /-- The artifacts are unambiguous inside. -/
  inside : ∀ a ∈ t.artifacts, Unambiguous (source a.2).inner

/-- **Each artifact's file is read as one item** that declares what the type name stands
    for. -/
def Readable (read : String → Option (List Item)) (source : String → Item) (t : PackageTree) :
    Prop :=
  ∀ a ∈ t.artifacts, read a.2 = some [source a.2] ∧ (source a.2).declared? = meaning? a.1

/-- The modules of packages are spliced one by one. -/
theorem exists_spliceAll_modules {modules : List (String × PackageTree)}
    {P : PackageTree → Prop}
    (hinner : ∀ m ∈ modules, ∀ scope items, PackageTree.items scope m.2 = .ok items →
      ∃ crate, spliceAll read items = some crate ∧ (Unambiguous crate ↔ P m.2))
    (h : moduleItems scope modules = .ok items) :
    ∃ crate, spliceAll read items = some crate ∧
      crate.filterMap declared? = (modules.map (·.1)).filterMap meaning? ∧
      ((∀ item ∈ crate, Unambiguous item.inner) ↔ ∀ m ∈ modules, P m.2) := by
  -- along the modules; `hinner` stands for the induction into them
  induction modules generalizing items with
  | nil =>
    obtain rfl := moduleItems_nil_eq_ok.1 h
    exact ⟨[], rfl, rfl, by simp⟩
  | cons m rest ih =>
    obtain ⟨name, t⟩ := m
    obtain ⟨ident, body, others, hident, hbody, hothers, rfl⟩ := moduleItems_cons_eq_ok.1 h
    obtain ⟨first, hfirst, hiff⟩ := hinner (name, t) List.mem_cons_self _ body hbody
    obtain ⟨behind, hbehind, hnames, hbehindIff⟩ :=
      ih (fun m hm => hinner m (List.mem_cons_of_mem _ hm)) hothers
    refine ⟨.module [] ident first :: behind, ?_, ?_, ?_⟩
    · rw [spliceAll, splice, hfirst, hbehind]
      rfl
    · rw [List.map_cons, List.filterMap_cons_some (meaning?_of_parse? hident), ← hnames]
      rfl
    · rw [List.forall_mem_cons, List.forall_mem_cons, hbehindIff]
      exact and_congr_left fun _ => hiff

/-- **Packages with the artifacts' sources declare no name twice** exactly if each of them
    is clear. -/
theorem unambiguous_iff_clear (hordered : Ordered t)
    (hread : ∀ way u, t.at? way = some u → Readable read source u)
    (h : PackageTree.items scope t = .ok items) :
    ∃ crate, spliceAll read items = some crate ∧
      (Unambiguous crate ↔ ∀ way u, t.at? way = some u → Clear source u) := by
  induction t generalizing scope items with
  | package artifacts modules ih =>
    obtain ⟨hown, hnested⟩ := (forall_at?_iff hordered).1 hread
    obtain ⟨-, rest, hrest, rfl⟩ := items_eq_ok.1 h
    -- the artifacts' sources come first, then the modules of the packages inside
    have hfront : spliceAll read (artifacts.map fun a => .inclusion a.2) =
        some (artifacts.map fun a => source a.2) := spliceAll_inclusions fun a ha => (hown a ha).1
    obtain ⟨back, hback, hnames, hbackIff⟩ := exists_spliceAll_modules
      (P := fun m => ∀ way u, m.at? way = some u → Clear source u)
      (fun m hm scope items hitems => ih m hm (hordered.nested m hm) (hnested m hm) hitems) hrest
    refine ⟨_, spliceAll_append hfront hback, ?_⟩
    have hdeclared : (artifacts.map fun a => source a.2).filterMap declared? =
        (artifacts.map (·.1)).filterMap meaning? := by
      rw [List.filterMap_map, List.filterMap_map]
      exact List.filterMap_congr fun a ha => (hown a ha).2
    rw [forall_at?_iff hordered, unambiguous_iff, List.filterMap_append, hdeclared, hnames,
      ← List.filterMap_append, List.forall_mem_append, hbackIff, List.forall_mem_map, ← and_assoc]
    refine and_congr_left fun _ => ?_
    exact ⟨fun hclear => ⟨hclear.1, hclear.2⟩, fun hclear => ⟨hclear.nodup, hclear.inside⟩⟩

/-- **Where a package is rendered**, no artifact is called like a package beside it, and all
    packages are called by identifiers. -/
theorem forall_at?_of_items (hordered : Ordered t) (h : PackageTree.items scope t = .ok items) :
    ∀ way u, t.at? way = some u → (∀ a ∈ u.artifacts, a.1 ∉ u.modules.map (·.1)) ∧
      ∀ name ∈ u.modules.map (·.1), (meaning? name).isSome = true := by
  induction t generalizing scope items with
  | package artifacts modules ih =>
    obtain ⟨hfresh, rest, hrest, -⟩ := items_eq_ok.1 h
    -- each of the modules has been rendered
    have hmodules : ∀ m ∈ modules, (meaning? m.1).isSome = true ∧
        ∃ scope items, PackageTree.items scope m.2 = .ok items := by
      clear ih h hfresh hordered
      induction modules generalizing rest with
      | nil => simp
      | cons m others ihm =>
        obtain ⟨name, t⟩ := m
        obtain ⟨ident, body, behind, hident, hbody, hbehind, rfl⟩ := moduleItems_cons_eq_ok.1 hrest
        intro m' hm'
        rcases List.mem_cons.1 hm' with rfl | hm'
        · exact ⟨by rw [meaning?_of_parse? hident]; rfl, _, body, hbody⟩
        · exact ihm behind hbehind m' hm'
    rw [forall_at?_iff hordered]
    refine ⟨⟨hfresh, fun name hname => ?_⟩, fun m hm => ?_⟩
    · obtain ⟨m, hm, rfl⟩ := List.mem_map.1 hname
      exact (hmodules m hm).1
    · obtain ⟨-, scope', items', hitems⟩ := hmodules m hm
      exact ih m hm (hordered.nested m hm) hitems

end PackageTree

/-! ## The crate of written artifacts -/

open PackageTree in
theorem indexItems_eq_ok {written : List Written} {index : List Item} :
    indexItems written = .ok index ↔
      ∃ t, ofWritten (written.mergeSort Written.le) .empty = .ok t ∧ t.items [] = .ok index := by
  simp only [indexItems, bind_eq_ok]

/-- **The names in the package of these segments**: the type names of its artifacts and the
    next segments of artifacts further inside. -/
def namesIn (written : List Written) (segments : List String) : Set String :=
  {name | (∃ w ∈ written, packageSegments w.package = .ok segments ∧ w.typeName = name) ∨
    ∃ w ∈ written, ∃ longer, packageSegments w.package = .ok longer ∧
      segments ++ [name] <+: longer}

namespace PackageTree

variable {written : List Written} {t u : PackageTree} {way scope : List String}
  {items : List Item} {source : String → Item}

/-- The names in a package are those that its segments ask for. -/
theorem mem_names_iff (hok : ofWritten written empty = .ok t) (hu : t.at? way = some u)
    {name : String} : name ∈ u.names ↔ name ∈ namesIn written way := by
  -- a name is that of an artifact in the package, or the next segment of a longer one
  have hartifacts : name ∈ u.artifacts.map (·.1) ↔
      ∃ w ∈ written, packageSegments w.package = .ok way ∧ w.typeName = name := by
    rw [List.mem_map]
    constructor
    · rintro ⟨a, ha, rfl⟩
      obtain ⟨w, hw, hsegments, rfl⟩ := (mem_artifacts_iff hok hu).1 ha
      exact ⟨w, hw, hsegments, rfl⟩
    · rintro ⟨w, hw, hsegments, rfl⟩
      exact ⟨_, (mem_artifacts_iff hok hu).2 ⟨w, hw, hsegments, rfl⟩, rfl⟩
  have hmodules : name ∈ u.modules.map (·.1) ↔ ∃ w ∈ written, ∃ longer,
      packageSegments w.package = .ok longer ∧ way ++ [name] <+: longer := by
    rw [mem_modules_iff hu, hasPackage_iff hok]
    simp
  rw [names, List.mem_append, hartifacts, hmodules]
  rfl

theorem hasPackage_of_mem_namesIn (hok : ofWritten written empty = .ok t) {name : String}
    (h : name ∈ namesIn written way) : HasPackage t way := by
  rw [hasPackage_iff hok]
  rcases h with ⟨w, hw, hsegments, -⟩ | ⟨w, hw, longer, hsegments, hprefix⟩
  · exact .inr ⟨w, hw, way, hsegments, List.prefix_rfl⟩
  · exact .inr ⟨w, hw, longer, hsegments, (List.prefix_append way [name]).trans hprefix⟩

/-- **A package of different targets declares different names** exactly if it has no
    synonyms. -/
theorem nodup_names_iff (hok : ofWritten written empty = .ok t) (hu : t.at? way = some u)
    (htargets : (written.map Written.key).Nodup)
    (hfresh : ∀ a ∈ u.artifacts, a.1 ∉ u.modules.map (·.1))
    (hident : ∀ name ∈ u.names, (meaning? name).isSome = true) :
    (u.names.filterMap meaning?).Nodup ↔ NoSynonyms (namesIn written way) := by
  -- no two spellings are equal, so two that stand for one name are synonyms
  have hnodup : u.names.Nodup := by
    have hordered : Ordered u := (ordered_empty.ofWritten hok).at? hu
    refine List.nodup_append.2 ⟨nodup_artifacts hok hu htargets, hordered.nodup, ?_⟩
    rintro name hname other hother rfl
    obtain ⟨a, ha, rfl⟩ := List.mem_map.1 hname
    exact hfresh a ha hother
  have hset : {a | a ∈ u.names} = namesIn written way := by
    ext name
    exact mem_names_iff hok hu
  rw [nodup_meanings_iff hnodup hident, hset]

/-- **Packages that can be rendered are clear** exactly if none has synonyms and no artifact
    is ambiguous inside. -/
theorem forall_clear_iff (hok : ofWritten written empty = .ok t)
    (hitems : PackageTree.items scope t = .ok items) (htargets : (written.map Written.key).Nodup)
    (hident : ∀ w ∈ written, (meaning? w.typeName).isSome = true) :
    (∀ way u, t.at? way = some u → Clear source u) ↔
      (∀ segments, NoSynonyms (namesIn written segments)) ∧
        ∀ w ∈ written, Unambiguous (source w.path).inner := by
  have hordered : Ordered t := ordered_empty.ofWritten hok
  -- type names are known to be identifiers, those of packages because they are rendered
  have hnodup : ∀ way u, t.at? way = some u →
      ((u.names.filterMap meaning?).Nodup ↔ NoSynonyms (namesIn written way)) := by
    intro way u hu
    obtain ⟨hfresh, hmodules⟩ := forall_at?_of_items hordered hitems way u hu
    refine nodup_names_iff hok hu htargets hfresh fun name hname => ?_
    rcases List.mem_append.1 hname with hname | hname
    · obtain ⟨a, ha, rfl⟩ := List.mem_map.1 hname
      obtain ⟨w, hw, -, rfl⟩ := (mem_artifacts_iff hok hu).1 ha
      exact hident w hw
    · exact hmodules name hname
  constructor
  · intro hclear
    refine ⟨fun segments a ha => ?_, fun w hw => ?_⟩
    · -- a name that is asked for stands in a package
      obtain ⟨u, hu⟩ := Option.isSome_iff_exists.1 (hasPackage_of_mem_namesIn hok ha)
      exact (hnodup segments u hu).1 (hclear segments u hu).nodup a ha
    · -- and an artifact in that of its segments
      obtain ⟨segments, hsegments⟩ := exists_segments_of_ofWritten hok w hw
      have hpackage : HasPackage t segments :=
        (hasPackage_iff hok).2 (.inr ⟨w, hw, segments, hsegments, List.prefix_rfl⟩)
      obtain ⟨u, hu⟩ := Option.isSome_iff_exists.1 hpackage
      have hartifact := (mem_artifacts_iff hok hu).2 ⟨w, hw, hsegments, rfl⟩
      exact (hclear segments u hu).inside _ hartifact
  · intro h way u hu
    obtain ⟨hsynonyms, hinside⟩ := h
    refine ⟨(hnodup way u hu).2 (hsynonyms way), fun a ha => ?_⟩
    obtain ⟨w, hw, -, rfl⟩ := (mem_artifacts_iff hok hu).1 ha
    exact hinside w hw

end PackageTree

open PackageTree in
/-- **The crate of some artifacts declares no name twice** exactly if no package has synonyms
    and no artifact is ambiguous inside. The artifacts have different targets, and each file
    is read as one item that declares what the type name stands for. -/
theorem unambiguous_crate_iff {read : String → Option (List Item)} {source : String → Item}
    {written : List Written} {index : List Item} (hindex : indexItems written = .ok index)
    (htargets : (written.map Written.key).Nodup)
    (hread : ∀ w ∈ written, read w.path = some [source w.path] ∧
      (source w.path).declared? = meaning? w.typeName ∧ (meaning? w.typeName).isSome = true) :
    ∃ crate, spliceAll read index = some crate ∧
      (Unambiguous crate ↔ (∀ segments, NoSynonyms (namesIn written segments)) ∧
        ∀ w ∈ written, Unambiguous (source w.path).inner) := by
  obtain ⟨t, hok, hitems⟩ := indexItems_eq_ok.1 hindex
  -- sorting changes neither what there is nor which targets differ
  have hmem : ∀ w, w ∈ written.mergeSort Written.le ↔ w ∈ written := fun w => List.mem_mergeSort
  have hsorted : ((written.mergeSort Written.le).map Written.key).Nodup :=
    ((List.mergeSort_perm written Written.le).map _).nodup_iff.2 htargets
  have hreadable : ∀ way u, t.at? way = some u → Readable read source u := by
    intro way u hu a ha
    obtain ⟨w, hw, -, rfl⟩ := (mem_artifacts_iff hok hu).1 ha
    obtain ⟨hone, hdeclared, -⟩ := hread w ((hmem w).1 hw)
    exact ⟨hone, hdeclared⟩
  obtain ⟨crate, hcrate, hiff⟩ :=
    unambiguous_iff_clear (ordered_empty.ofWritten hok) hreadable hitems
  refine ⟨crate, hcrate, hiff.trans ?_⟩
  have hclear : (∀ way u, t.at? way = some u → Clear source u) ↔ _ :=
    forall_clear_iff hok hitems hsorted fun w hw => (hread w ((hmem w).1 hw)).2.2
  simpa only [namesIn, hmem] using hclear

/-! ## The crate of a sequence of steps -/

/-- The names in a package depend on the targets alone. -/
theorem namesIn_congr {written others : List Written}
    (h : written.map Written.key = others.map Written.key) (segments : List String) :
    namesIn written segments = namesIn others segments := by
  -- one inclusion, for either list in the place of the other
  have hsub : ∀ {v w : List Written}, v.map Written.key = w.map Written.key →
      ∀ name ∈ namesIn v segments, name ∈ namesIn w segments := by
    intro v w hkeys name hname
    have hfind : ∀ a ∈ v, ∃ b ∈ w, b.package = a.package ∧ b.typeName = a.typeName := by
      intro a ha
      have hkey : a.key ∈ w.map Written.key := hkeys ▸ List.mem_map_of_mem ha
      obtain ⟨b, hb, heq⟩ := List.mem_map.1 hkey
      exact ⟨b, hb, congrArg Prod.fst heq, congrArg Prod.snd heq⟩
    rcases hname with ⟨a, ha, hsegments, rfl⟩ | ⟨a, ha, longer, hsegments, hprefix⟩
    · obtain ⟨b, hb, hpackage, htype⟩ := hfind a ha
      exact .inl ⟨b, hb, hpackage ▸ hsegments, htype⟩
    · obtain ⟨b, hb, hpackage, -⟩ := hfind a ha
      exact .inr ⟨b, hb, longer, hpackage ▸ hsegments, hprefix⟩
  ext name
  exact ⟨hsub h name, hsub h.symm name⟩

/-- **The index of artifacts with the same targets** is the same but for the inclusions. -/
theorem exists_indexItems_of_keys {written others : List Written} {index : List Item}
    (h : written.map Written.key = others.map Written.key) (hindex : indexItems written = .ok index) :
    ∃ filled, indexItems others = .ok filled ∧
      renamedAll (fun _ => "") filled = renamedAll (fun _ => "") index := by
  -- without their files the artifacts are the same
  have hblank : ∀ l : List Written, l.map (Written.renamed fun _ => "") =
      (l.map Written.key).map fun k => ⟨k.1, k.2, ""⟩ := by
    intro l
    rw [List.map_map]
    rfl
  have hsame : renamedAll (fun _ => "") <$> indexItems others =
      renamedAll (fun _ => "") <$> indexItems written := by
    rw [← indexItems_renamed, ← indexItems_renamed, hblank, hblank, h]
  rw [hindex] at hsame
  cases hothers : indexItems others with
  | error e =>
    rw [hothers] at hsame
    cases hsame
  | ok filled =>
    rw [hothers] at hsame
    exact ⟨filled, rfl, Except.ok.inj hsame⟩

/-- The item that a source consists of. -/
def onlyItem (source : String) : Item := ((read? source).getD []).headD default

namespace Renderer

variable {r : Renderer} {target : Target} {tree : List PathNode} {text : String}

/-- **The source of an artifact** is read as one item, which declares what the type name
    stands for and is as unambiguous inside as the tree is free of synonyms. -/
theorem onlyItem_renderText (h : r.renderText target tree = .ok text) :
    (read? text = some [onlyItem text] ∧ (onlyItem text).declared? = meaning? target.typeName ∧
      (meaning? target.typeName).isSome = true) ∧
    (Unambiguous (onlyItem text).inner ↔ ∀ way inner, Scope tree way inner →
      NoSynonyms {a | a ∈ r.spellings way inner}) := by
  obtain ⟨item, hrender, rfl⟩ := renderText_eq_ok.1 h
  have hread := read?_of_render hrender
  have honly : onlyItem (sourceText [item]) = item.bare := by
    rw [onlyItem, hread]
    rfl
  have hmeaning : item.declared? = meaning? target.typeName ∧
      (meaning? target.typeName).isSome = true := by
    obtain ⟨ident, items, hident, -, rfl⟩ := render_eq_ok.1 hrender
    rw [meaning?_of_parse? hident]
    exact ⟨rfl, rfl⟩
  -- what is read has lost its attributes, which make no difference
  rw [honly, declared?_bare, unambiguous_inner_bare, ← unambiguous_singleton,
    unambiguous_render_iff hrender]
  exact ⟨⟨hread, hmeaning⟩, Iff.rfl⟩

end Renderer

namespace OutputDirectory

variable {out : OutputDirectory}

/-- Is everything written as it is: the self constant, and the type name, the names of the
    tree and the segments of everything that is emitted? -/
structure PlainOutput (out : OutputDirectory) (emitted : List (Target × List PathNode)) : Prop where
  /-- The self constant is plain. -/
  selfConst : IsPlain out.renderer.selfConst
  /-- Every type name is plain. -/
  typeName : ∀ e ∈ emitted, IsPlain e.1.typeName
  /-- All names of every tree are plain. -/
  tree : ∀ e ∈ emitted, PlainNames e.2
  /-- Every segment of a package is plain. -/
  segments : ∀ e ∈ emitted, ∀ segments, packageSegments e.1.package = .ok segments →
    ∀ s ∈ segments, IsPlain s

theorem PlainOutput.isPlain_of_mem_namesIn {o : Output} {script : List Step} {name : String}
    {segments : List String} (h : out.PlainOutput (out.emitted o script))
    (hname : name ∈ namesIn (out.sources o script) segments) : IsPlain name := by
  rcases hname with ⟨w, hw, -, rfl⟩ | ⟨w, hw, longer, hsegments, hprefix⟩
  · obtain ⟨e, he, text, -, rfl⟩ := mem_sources_iff.1 hw
    exact h.typeName e he
  · obtain ⟨e, he, text, -, rfl⟩ := mem_sources_iff.1 hw
    apply h.segments e he longer hsegments
    exact hprefix.subset (List.mem_append_right _ (List.mem_singleton_self _))

/-- **Each source is read as one item**, which declares what the type name stands for. -/
theorem read?_of_mem_sources {o : Output} {script : List Step} {w : Written}
    (h : w ∈ out.sources o script) :
    read? w.path = some [onlyItem w.path] ∧ (onlyItem w.path).declared? = meaning? w.typeName ∧
      (meaning? w.typeName).isSome = true := by
  obtain ⟨e, -, text, hrender, rfl⟩ := mem_sources_iff.1 h
  exact (Renderer.onlyItem_renderText hrender).1

/-- **The sources are unambiguous inside** exactly if the trees are free of synonyms. -/
theorem unambiguous_sources_iff {o : Output} {script : List Step} :
    (∀ w ∈ out.sources o script, Unambiguous (onlyItem w.path).inner) ↔
      ∀ e ∈ out.emitted o script, ∀ way inner, Scope e.2 way inner →
        NoSynonyms {a | a ∈ out.renderer.spellings way inner} := by
  constructor
  · intro h e he
    obtain ⟨segments, text, -, hrender⟩ := sound_of_mem_emitted he
    have hsource : ⟨e.1.package, e.1.typeName, text⟩ ∈ out.sources o script :=
      mem_sources_iff.2 ⟨e, he, text, hrender, rfl⟩
    have hclear := h ⟨e.1.package, e.1.typeName, text⟩ hsource
    have hiff := (Renderer.onlyItem_renderText hrender).2
    exact hiff.1 hclear
  · intro h w hw
    obtain ⟨e, he, text, hrender, rfl⟩ := mem_sources_iff.1 hw
    have hiff := (Renderer.onlyItem_renderText hrender).2
    show Unambiguous (onlyItem text).inner
    exact hiff.2 (h e he)

/-- **When the crate of a sequence of steps declares no name twice.** If the index can be
    written after the steps, there is a source for each recorded target, and the index
    becomes one crate when that source stands in place of the inclusion. No scope of the
    crate declares a name twice exactly if neither a package nor a scope of an emitted tree
    has two spellings of one name. This is so if all names are written as they are. -/
theorem crate_unambiguous_iff (out : OutputDirectory) (disk : Disk) (script : List Step)
    (hfinish : (out.finish (out.play { disk } script)).result = .ok ()) :
    (out.play { disk } script).written.map Written.key =
      (out.sources { disk } script).map Written.key ∧
    ∃ index filled crate,
      indexItems (out.play { disk } script).written = .ok index ∧
      indexItems (out.sources { disk } script) = .ok filled ∧
      renamedAll (fun _ => "") filled = renamedAll (fun _ => "") index ∧
      spliceAll read? filled = some crate ∧
      (Unambiguous crate ↔
        (∀ segments, NoSynonyms (namesIn (out.play { disk } script).written segments)) ∧
        ∀ e ∈ out.emitted { disk } script, ∀ way inner, Scope e.2 way inner →
          NoSynonyms {a | a ∈ out.renderer.spellings way inner}) ∧
      (out.PlainOutput (out.emitted { disk } script) → Unambiguous crate) := by
  obtain ⟨text, _, htext, -, -⟩ := finish_result_eq_ok hfinish
  obtain ⟨index, hindex, -⟩ := bind_eq_ok.1 htext
  have hkeys : (out.play { disk } script).written.map Written.key =
      (out.sources { disk } script).map Written.key := map_key_written_play out { disk } script
  obtain ⟨filled, hfilled, hblank⟩ := exists_indexItems_of_keys hkeys hindex
  have htargets : ((out.sources { disk } script).map Written.key).Nodup :=
    hkeys ▸ nodup_keys_play List.nodup_nil
  -- the sources as records: the files that the index names may be the same for two of them
  obtain ⟨crate, hcrate, hiff⟩ :=
    unambiguous_crate_iff hfilled htargets fun w hw => read?_of_mem_sources hw
  have hnames : ∀ segments, namesIn (out.sources { disk } script) segments =
      namesIn (out.play { disk } script).written segments := namesIn_congr hkeys.symm
  rw [unambiguous_sources_iff] at hiff
  simp only [hnames] at hiff
  refine ⟨hkeys, index, filled, crate, hindex, hfilled, hblank, hcrate, hiff, fun hplain => ?_⟩
  refine hiff.2 ⟨fun segments => ?_, fun e he way inner hscope => ?_⟩
  · apply noSynonyms_of_isPlain
    intro name hname
    rw [← hnames] at hname
    exact hplain.isPlain_of_mem_namesIn hname
  · apply noSynonyms_of_isPlain
    exact Renderer.isPlain_of_mem_spellings (fun _ => hplain.selfConst)
      (hplain.tree e he way inner hscope)

/-! ## A package in raw form -/

/-- An output directory at the root. -/
def topmost : OutputDirectory := ⟨"/out", "fieldpaths.rs", {}⟩

/-- An artifact in a package. -/
def plainly : Step := .write ⟨"a", "T", "a.T"⟩ []

/-- An artifact in a package whose name is the same in raw form. -/
def rawly : Step := .write ⟨"r#a", "U", "r#a.U"⟩ []

/-- The disk after the first one. -/
def plainDisk (source : String) : Disk :=
  ⟨[(["out"], .directory), (["out", "a"], .directory),
    (["out", "a", "T.rs"], .file source.toUTF8)], []⟩

/-- The disk after both. -/
def rawDisk (source raw : String) : Disk :=
  ⟨[(["out"], .directory), (["out", "a"], .directory), (["out", "a", "T.rs"], .file source.toUTF8),
    (["out", "r#a"], .directory), (["out", "r#a", "U.rs"], .file raw.toUTF8)], []⟩

theorem parse?_a : Ident.parse? "a" = some ⟨false, ['a']⟩ :=
  parse?_word (by decide) (by decide)

theorem parse?_raw_a : Ident.parse? "r#a" = some ⟨true, ['a']⟩ := by
  have hfront : skipTrivia "r#a".toList = "r#a".toList :=
    skipTrivia_of_isIdentStart (by decide : isIdentStart 'r' = true) _
  have hlex : lexIdent "r#a".toList = some (⟨true, ['a']⟩, []) := by decide
  have hmark : dropByteOrderMark "r#a".toList = "r#a".toList := rfl
  have hend : skipTrivia [] = [] := skipTrivia_of_none rfl
  rw [Ident.parse?, hmark, hfront, hlex]
  simp [hend]

theorem packageSegments_a : packageSegments "a" = .ok ["a"] :=
  packageSegments_of_parse? parse?_a (by decide)

theorem packageSegments_raw_a : packageSegments "r#a" = .ok ["r#a"] :=
  packageSegments_of_parse? parse?_raw_a (by decide)

theorem step_plainly : ∃ source,
    topmost.renderer.renderText ⟨"a", "T", "a.T"⟩ [] = .ok source ∧
    topmost.step { disk := ⟨[], []⟩ } plainly =
      .done ⟨plainDisk source, [⟨"a", "T", "/out/a/T.rs"⟩]⟩ [.wroteArtifact "/out/a/T.rs"] := by
  have hident : Ident.parse? "T" = some ⟨false, "T".toList⟩ := parse?_word (by decide) (by decide)
  obtain ⟨source, hsource⟩ :=
    topmost.renderer.exists_renderText_nil ⟨"a", "T", "a.T"⟩ hident
  have hpath : topmost.artifactPath ["a"] "T" = "/out/a/T.rs" := by decide
  have hstore : store ⟨[], []⟩ (topmost.packageDirectory ["a"]) "/out/a/T.rs" source =
      (.ok (), plainDisk source) := rfl
  exact ⟨source, hsource,
    write_eq_done (fun _ hw => by cases hw) packageSegments_a hsource hpath hstore⟩

theorem step_rawly (source : String) : ∃ raw,
    topmost.renderer.renderText ⟨"r#a", "U", "r#a.U"⟩ [] = .ok raw ∧
    topmost.step ⟨plainDisk source, [⟨"a", "T", "/out/a/T.rs"⟩]⟩ rawly =
      .done ⟨rawDisk source raw, [⟨"a", "T", "/out/a/T.rs"⟩, ⟨"r#a", "U", "/out/r#a/U.rs"⟩]⟩
        [.wroteArtifact "/out/r#a/U.rs"] := by
  have hident : Ident.parse? "U" = some ⟨false, "U".toList⟩ := parse?_word (by decide) (by decide)
  obtain ⟨raw, hraw⟩ :=
    topmost.renderer.exists_renderText_nil ⟨"r#a", "U", "r#a.U"⟩ hident
  have hpath : topmost.artifactPath ["r#a"] "U" = "/out/r#a/U.rs" := by decide
  have hstore : store (plainDisk source) (topmost.packageDirectory ["r#a"]) "/out/r#a/U.rs" raw =
      (.ok (), rawDisk source raw) := rfl
  have hnew : ∀ w ∈ [(⟨"a", "T", "/out/a/T.rs"⟩ : Written)],
      ¬(w.package = "r#a" ∧ w.typeName = "U") := by decide
  exact ⟨raw, hraw, write_eq_done hnew packageSegments_raw_a hraw hpath hstore⟩

theorem indexItems_raw (path raw : String) :
    indexItems [⟨"a", "T", path⟩, ⟨"r#a", "U", raw⟩] =
      .ok [.module [] ⟨false, ['a']⟩ [.inclusion path], .module [] ⟨true, ['a']⟩ [.inclusion raw]] := by
  have hsorted : [(⟨"a", "T", path⟩ : Written), ⟨"r#a", "U", raw⟩].mergeSort Written.le =
      [⟨"a", "T", path⟩, ⟨"r#a", "U", raw⟩] := by
    apply List.mergeSort_of_pairwise
    have hlt : "a" < "r#a" := by decide
    have hle : Written.le ⟨"a", "T", path⟩ ⟨"r#a", "U", raw⟩ = true :=
      Bool.or_eq_true_iff.2 (.inl (decide_eq_true hlt))
    simp [hle]
  have hnot : ¬"r#a" < "a" := by decide
  have hident : identifier "a" = .ok ⟨false, ['a']⟩ := identifier_eq_ok_iff.2 parse?_a
  have hidentRaw : identifier "r#a" = .ok ⟨true, ['a']⟩ := identifier_eq_ok_iff.2 parse?_raw_a
  rw [indexItems, hsorted]
  simp [PackageTree.ofWritten, packageSegments_a, packageSegments_raw_a, PackageTree.insert,
    PackageTree.alter, PackageTree.empty, PackageTree.items, PackageTree.inclusions,
    PackageTree.moduleItems, hnot, hident, hidentRaw]

theorem indexText_plain (path : String) : ∃ text, indexText [⟨"a", "T", path⟩] = .ok text := by
  have hident : identifier "a" = .ok ⟨false, ['a']⟩ := identifier_eq_ok_iff.2 parse?_a
  simp [indexText, indexItems, PackageTree.ofWritten, packageSegments_a, PackageTree.insert,
    PackageTree.alter, PackageTree.empty, PackageTree.items, PackageTree.inclusions,
    PackageTree.moduleItems, hident]

/-- **With names written as they are** the crate of an artifact declares no name twice. -/
theorem plainly_once :
    (topmost.finish (topmost.play { disk := ⟨[], []⟩ } [plainly])).result = .ok () ∧
    ∃ index filled crate,
      indexItems (topmost.play { disk := ⟨[], []⟩ } [plainly]).written = .ok index ∧
      indexItems (topmost.sources { disk := ⟨[], []⟩ } [plainly]) = .ok filled ∧
      renamedAll (fun _ => "") filled = renamedAll (fun _ => "") index ∧
      spliceAll read? filled = some crate ∧ Unambiguous crate := by
  obtain ⟨source, hsource, hstep⟩ := step_plainly
  have hplay : topmost.play { disk := ⟨[], []⟩ } [plainly] =
      ⟨plainDisk source, [⟨"a", "T", "/out/a/T.rs"⟩]⟩ := by
    rw [play_cons, play_nil, hstep, Emission.done]
  -- the index of the one artifact is written
  have hfinish : (topmost.finish (topmost.play { disk := ⟨[], []⟩ } [plainly])).result = .ok () := by
    rw [hplay]
    obtain ⟨text, htext⟩ := indexText_plain "/out/a/T.rs"
    exact finish_result_of_store htext rfl
  obtain ⟨-, index, filled, crate, hindex, hfilled, hsame, hcrate, -, hplain⟩ :=
    crate_unambiguous_iff topmost ⟨[], []⟩ [plainly] hfinish
  refine ⟨hfinish, index, filled, crate, hindex, hfilled, hsame, hcrate, hplain ?_⟩
  have hemitted : topmost.emitted { disk := ⟨[], []⟩ } [plainly] = [(⟨"a", "T", "a.T"⟩, [])] := by
    rw [emitted, emitted, hstep, Emission.done]
    rfl
  rw [hemitted]
  -- all names that come up are plain, so no two of them are synonyms
  refine ⟨isPlain_iff.2 (by decide), ?_, ?_, ?_⟩
  · intro e he
    obtain rfl := List.mem_singleton.1 he
    exact isPlain_iff.2 (by decide)
  · intro e he
    obtain rfl := List.mem_singleton.1 he
    exact plainNames_nil
  · intro e he segments hsegments s hs
    obtain rfl := List.mem_singleton.1 he
    obtain rfl : ["a"] = segments := Except.ok.inj (packageSegments_a.symm.trans hsegments)
    obtain rfl := List.mem_singleton.1 hs
    exact isPlain_iff.2 (by decide)

/-- **Two packages of one name**: two artifacts and the index are written, and the crate
    declares the name twice. -/
theorem raw_package_twice :
    (topmost.finish (topmost.play { disk := ⟨[], []⟩ } [plainly, rawly])).result = .ok () ∧
    ∃ index filled crate,
      indexItems (topmost.play { disk := ⟨[], []⟩ } [plainly, rawly]).written = .ok index ∧
      indexItems (topmost.sources { disk := ⟨[], []⟩ } [plainly, rawly]) = .ok filled ∧
      renamedAll (fun _ => "") filled = renamedAll (fun _ => "") index ∧
      spliceAll read? filled = some crate ∧
      crate.filterMap declared? = [['a'], ['a']] ∧ ¬Unambiguous crate := by
  obtain ⟨source, hsource, hplain⟩ := step_plainly
  obtain ⟨raw, hraw, hrawStep⟩ := step_rawly source
  have hplay : topmost.play { disk := ⟨[], []⟩ } [plainly, rawly] =
      ⟨rawDisk source raw, [⟨"a", "T", "/out/a/T.rs"⟩, ⟨"r#a", "U", "/out/r#a/U.rs"⟩]⟩ := by
    rw [play_cons, play_cons, play_nil, hplain, Emission.done, hrawStep, Emission.done]
  have hsources : topmost.sources { disk := ⟨[], []⟩ } [plainly, rawly] =
      [⟨"a", "T", source⟩, ⟨"r#a", "U", raw⟩] := by
    rw [sources, emitted, emitted, emitted, hplain, Emission.done, hrawStep, Emission.done]
    simp [plainly, rawly, Step.emittedWith, source?, hsource, hraw, Except.toOption]
  -- each file holds one item, whatever its text is
  have hread : read? source = some [onlyItem source] ∧ read? raw = some [onlyItem raw] :=
    ⟨(Renderer.onlyItem_renderText hsource).1.1, (Renderer.onlyItem_renderText hraw).1.1⟩
  rw [hplay, hsources, indexItems_raw, indexItems_raw]
  refine ⟨?_, _, _, [.module [] ⟨false, ['a']⟩ [onlyItem source],
    .module [] ⟨true, ['a']⟩ [onlyItem raw]], rfl, rfl, rfl, ?_, rfl, ?_⟩
  · have hindex : indexText [⟨"a", "T", "/out/a/T.rs"⟩, ⟨"r#a", "U", "/out/r#a/U.rs"⟩] =
        .ok (sourceText [.module [] ⟨false, ['a']⟩ [.inclusion "/out/a/T.rs"],
          .module [] ⟨true, ['a']⟩ [.inclusion "/out/r#a/U.rs"]]) := by
      rw [indexText, indexItems_raw]
      rfl
    exact finish_result_of_store hindex rfl
  · simp [spliceAll, splice, hread]
  · intro h
    -- both modules declare the same name
    have htwice : ¬[['a'], ['a']].Nodup := by decide
    exact htwice (unambiguous_iff.1 h).1

end OutputDirectory

end QueryPaths
