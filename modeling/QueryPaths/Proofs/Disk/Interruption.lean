import QueryPaths.Disk.Interruption
import QueryPaths.Proofs.Disk.Creation

/-! # What a write that is broken off touches

    Whether a file can be opened depends on its path and not on what is to be written. From then
    on its place is touched, also if the write is broken off. Other places never are.

    * **`Disk.writeUntil_cases`**: all that a write that may be broken off can come to.
    * **`Disk.keeps_writeUntil`**, **`Disk.changesOnly_writeUntil`**: what it leaves alone.
-/

namespace QueryPaths.Disk

variable {d d' : Disk} {path : String} {content : ByteArray} {interruption : Option Interruption}
  {result : Except Fault Unit}

theorem exists_writeFile (h : d.writeFile path content = .ok d') (other : ByteArray) :
    ∃ d'', d.writeFile path other = .ok d'' := by
  obtain ⟨dir, step, hloc, hname, hslash, hlen, hdir, -⟩ := writeFile_eq_ok h
  refine ⟨d.put (dir ++ [step]) (.file other), ?_⟩
  have hnotDir : d.isDirectoryAt (dir ++ [step]) = false := by simpa [isDirectoryAt] using hdir
  have hlong : ¬step.utf8ByteSize > maxNameBytes := Nat.not_lt.2 hlen
  simp [writeFile, hloc, hname, hslash, hlong, hnotDir, bind, Except.bind, pure, Except.pure]

/-- **A write either fails before the file is touched, or writes it, or is broken off** with the
    first bytes written. -/
theorem writeUntil_cases (h : d.writeUntil interruption path content = (result, d')) :
    ((∃ fault, result = .error fault) ∧ d' = d) ∨
      (result = .ok () ∧ d.writeFile path content = .ok d') ∨
      ∃ i, interruption = some i ∧ i.kept < content.size ∧ result = .error i.fault ∧
        d.writeFile path (content.extract 0 i.kept) = .ok d' := by
  -- an interruption counts only if it comes before the last byte
  unfold writeUntil at h
  split at h
  · split at h
    · obtain ⟨rfl, rfl⟩ := Prod.mk.inj h
      exact .inl ⟨⟨_, rfl⟩, rfl⟩
    · next hwrite =>
      obtain ⟨rfl, rfl⟩ := Prod.mk.inj h
      exact .inr (.inl ⟨rfl, hwrite⟩)
  · next i hi =>
    obtain ⟨rfl, hkept⟩ := Option.filter_eq_some_iff.1 hi
    split at h
    · obtain ⟨rfl, rfl⟩ := Prod.mk.inj h
      exact .inl ⟨⟨_, rfl⟩, rfl⟩
    · next hwrite =>
      obtain ⟨rfl, rfl⟩ := Prod.mk.inj h
      exact .inr (.inr ⟨i, rfl, of_decide_eq_true hkept, rfl, hwrite⟩)

theorem keeps_writeUntil (h : d.writeUntil interruption path content = (result, d')) :
    Keeps d d' := by
  rcases writeUntil_cases h with ⟨-, rfl⟩ | ⟨-, hwrite⟩ | ⟨i, -, -, -, hwrite⟩
  · exact .refl _
  · exact keeps_writeFile hwrite
  · exact keeps_writeFile hwrite

/-- **A write touches the place of a file that can be written**, also if it is broken off, and
    nothing else. -/
theorem changesOnly_writeUntil {made : Place → Prop}
    (h : d.writeUntil interruption path content = (result, d')) :
    ChangesOnly made (fun place => (∃ d'', d.writeFile path content = .ok d'') ∧
      d'.resolve path = .ok place) d d' := by
  rcases writeUntil_cases h with ⟨-, rfl⟩ | ⟨-, hwrite⟩ | ⟨i, -, -, -, hwrite⟩
  · exact .refl _
  · exact (changesOnly_writeFile hwrite).mono (fun _ => id) fun place hplace =>
      ⟨⟨_, hwrite⟩, hplace⟩
  · exact (changesOnly_writeFile hwrite).mono (fun _ => id) fun place hplace =>
      ⟨exists_writeFile hwrite content, hplace⟩

end QueryPaths.Disk
