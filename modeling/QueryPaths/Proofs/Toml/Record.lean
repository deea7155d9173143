import Mathlib.Data.Finset.Lattice.Lemmas
import QueryPaths.Proofs.Except
import QueryPaths.Toml.Decoder

/-! # Records from tables

    The entries of a table are read into a record of defaults in the order of their keys. Where each
    entry replaces the field of its key and leaves the others alone, only the keys that are given
    matter and not their order; and a key that no field has is never accepted.

    * **`RecordShape.ofEntries_eq_ok`**: what a table leaves of the defaults.
    * **`RecordShape.readEntry_of_ofEntries`**: every entry of an accepted table was read.
-/

namespace QueryPaths.Toml.RecordShape

variable {α : Type} {shape : RecordShape α} {entries : Entries}

/-- Reading entries one after the other, given what each of them does to a record of which the keys
    `seen` have been read. -/
theorem foldlM_readEntry {record : Finset String → α}
    (hstep : ∀ e ∈ entries, ∀ seen,
      shape.readEntry (record seen) e = .ok (record (insert e.1 seen))) (seen : Finset String) :
    entries.foldlM shape.readEntry (record seen) =
      .ok (record (seen ∪ (entries.map Prod.fst).toFinset)) := by
  induction entries generalizing seen with
  | nil =>
    rw [List.map_nil, List.toFinset_nil, Finset.union_empty]
    rfl
  | cons e entries ih =>
    have hrest := ih (fun d hd => hstep d (List.mem_cons_of_mem _ hd)) (insert e.1 seen)
    rw [List.foldlM_cons, hstep e List.mem_cons_self]
    show entries.foldlM shape.readEntry (record (insert e.1 seen)) = _
    rw [hrest, List.map_cons, List.toFinset_cons, Finset.insert_union, Finset.union_insert]

/-- **A table replaces the fields of its keys**, whatever their order is. -/
theorem ofEntries_eq_ok {record : Finset String → α}
    (hstep : ∀ e ∈ entries, ∀ seen,
      shape.readEntry (record seen) e = .ok (record (insert e.1 seen))) :
    shape.ofEntries (record ∅) entries = .ok (record (entries.map Prod.fst).toFinset) := by
  have hperm : (entries.mergeSort fun a b => a.1 ≤ b.1).Perm entries := List.mergeSort_perm _ _
  rw [ofEntries, foldlM_readEntry fun e he => hstep e (hperm.mem_iff.1 he),
    Finset.empty_union, List.toFinset_eq_of_perm _ _ (hperm.map _)]

theorem exists_of_foldlM {start record : α}
    (h : entries.foldlM shape.readEntry start = .ok record) :
    ∀ e ∈ entries, ∃ before after, shape.readEntry before e = .ok after := by
  induction entries generalizing start with
  | nil => exact fun e he => (List.not_mem_nil he).elim
  | cons d entries ih =>
    rw [List.foldlM_cons, bind_eq_ok] at h
    obtain ⟨next, hstep, hrest⟩ := h
    intro e he
    rcases List.mem_cons.1 he with rfl | he
    · exact ⟨start, next, hstep⟩
    · exact ih hrest e he

/-- **Every entry of an accepted table was read** into some record. -/
theorem readEntry_of_ofEntries {start record : α}
    (h : shape.ofEntries start entries = .ok record) :
    ∀ e ∈ entries, ∃ before after, shape.readEntry before e = .ok after := by
  have hperm : (entries.mergeSort fun a b => a.1 ≤ b.1).Perm entries := List.mergeSort_perm _ _
  intro e he
  exact exists_of_foldlM h e (hperm.mem_iff.2 he)

theorem mem_fieldNames_of_readEntry {before after : α} {e : String × Value}
    (h : shape.readEntry before e = .ok after) : e.1 ∈ shape.fieldNames := by
  rw [readEntry] at h
  split at h
  · cases h
  · next slot hslot =>
    have hname : slot.name = e.1 := by simpa using List.find?_some hslot
    rw [← hname]
    exact List.mem_map_of_mem (List.mem_of_find?_eq_some hslot)

end QueryPaths.Toml.RecordShape
