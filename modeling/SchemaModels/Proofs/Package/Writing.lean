import SchemaModels.Proofs.Files.Replace
import SchemaModels.Proofs.Package.Draft

/-!
# What a run writes

`Wrote d d' files` says that `d'` is `d` with these files written and nothing else changed. It is
the invariant of the loop over the files of a package: `ends_writeFiles_ok` has it for all of the
files, `ends_writeFiles_error` for those before the one that could not be written.
-/

namespace SchemaModels.Package

open Files (Path Disk)

variable {d d' d'' : Disk} {files : List (Path × String)}

/-- The files hold their texts, with the bits of the files that they replace or those of new ones;
everything else is as it was. -/
structure Wrote (d d' : Disk) (files : List (Path × String)) : Prop where
  umask : d'.umask = d.umask
  holds : ∀ f ∈ files, d'.tree.get? f.1 = some (.file (d.modeFor f.1) f.2)
  other : ∀ q, q ∉ files.map (·.1) → d'.tree.get? q = d.tree.get? q

theorem wrote_nil (d : Disk) : Wrote d d [] :=
  ⟨rfl, by simp, fun _ _ => rfl⟩

theorem modeFor_congr {p : Path} (hu : d'.umask = d.umask) (hp : d'.tree.get? p = d.tree.get? p) :
    d'.modeFor p = d.modeFor p := by
  unfold Disk.modeFor Disk.newMode
  rw [hp, hu]

/-- Files written after others at different paths are written with them. -/
theorem Wrote.append {others : List (Path × String)} (h₁ : Wrote d d' files)
    (h₂ : Wrote d' d'' others) (hnodup : ((files ++ others).map (·.1)).Nodup) :
    Wrote d d'' (files ++ others) := by
  rw [List.map_append, List.nodup_append] at hnodup
  obtain ⟨-, -, hapart⟩ := hnodup
  refine ⟨h₂.umask.trans h₁.umask, ?_, fun q hq => ?_⟩
  · intro g hg
    rcases List.mem_append.mp hg with hg | hg
    · have hne : g.1 ∉ others.map (·.1) := fun hmem =>
        hapart _ (List.mem_map_of_mem hg) _ hmem rfl
      rw [h₂.other _ hne]
      exact h₁.holds _ hg
    · have hne : g.1 ∉ files.map (·.1) := fun hmem =>
        hapart _ hmem _ (List.mem_map_of_mem hg) rfl
      rw [h₂.holds g hg, modeFor_congr h₁.umask (h₁.other _ hne)]
  · rw [List.map_append, List.mem_append, not_or] at hq
    rw [h₂.other q hq.2, h₁.other q hq.1]

theorem wrote_of_ends_writeWhole {f : Path × String}
    (h : (Disk.writeWhole f.1 f.2).Ends d d' (.ok ())) : Wrote d d' [f] := by
  obtain ⟨humask, -, hget⟩ := Disk.ends_writeWhole_ok h
  refine ⟨humask, fun g hg => ?_, fun q hq => ?_⟩
  · rw [List.mem_singleton.mp hg, hget, if_pos rfl]
  · rw [List.map_singleton, List.mem_singleton] at hq
    rw [hget, if_neg hq]

/-! ## The loop -/

/-- One round of the loop that goes through writes its file. -/
theorem ends_writeFiles_cons_ok {total done : Nat} {f : Path × String}
    (h : (writeFiles total done (f :: files)).Ends d d'' (.ok ())) :
    ∃ d', Wrote d d' [f] ∧ (writeFiles total (done + 1) files).Ends d' d'' (.ok ()) := by
  unfold writeFiles at h
  obtain ⟨_, d', hw, h⟩ := Task.ends_bind_ok_iff.mp h
  obtain ⟨_, _, ⟨rfl, -⟩, h⟩ := Task.ends_bind_ok_iff.mp h
  exact ⟨d', wrote_of_ends_writeWhole hw, h⟩

/-- One round of the loop fails at its file, with the disk as it was, or later. -/
theorem ends_writeFiles_cons_error {total done : Nat} {f : Path × String} {e : Failure}
    (h : (writeFiles total done (f :: files)).Ends d d'' (.error e)) :
    (d'' = d ∧ ∃ r, e = .problem (.unwritable r (Path.text f.1))) ∨
      ∃ d', Wrote d d' [f] ∧ (writeFiles total (done + 1) files).Ends d' d'' (.error e) := by
  unfold writeFiles at h
  rcases Task.ends_bind_error_iff.mp h with h | ⟨_, d', hw, h⟩
  · exact Or.inl (Disk.ends_writeWhole_error h)
  · rcases Task.ends_bind_error_iff.mp h with ⟨-, h⟩ | ⟨_, _, ⟨rfl, -⟩, h⟩
    · cases h
    · exact Or.inr ⟨d', wrote_of_ends_writeWhole hw, h⟩

/-- **The loop writes all files** if it goes through. -/
theorem ends_writeFiles_ok {total done : Nat} (hnodup : (files.map (·.1)).Nodup)
    (h : (writeFiles total done files).Ends d d' (.ok ())) : Wrote d d' files := by
  induction files generalizing d done with
  | nil =>
    obtain ⟨rfl, -⟩ := Task.ends_pure_iff.mp h
    exact wrote_nil d
  | cons f files ih =>
    obtain ⟨d₁, hw, h⟩ := ends_writeFiles_cons_ok h
    exact hw.append (ih (List.nodup_cons.mp hnodup).2 h) hnodup

/-- **The loop stops at the first file that cannot be written**: those before it are written, and
nothing else has changed. -/
theorem ends_writeFiles_error {total done : Nat} {e : Failure} (hnodup : (files.map (·.1)).Nodup)
    (h : (writeFiles total done files).Ends d d' (.error e)) :
    ∃ written f rest r, files = written ++ f :: rest ∧ Wrote d d' written ∧
      e = .problem (.unwritable r (Path.text f.1)) := by
  induction files generalizing d done with
  | nil =>
    obtain ⟨-, h⟩ := Task.ends_pure_iff.mp h
    cases h
  | cons f files ih =>
    rcases ends_writeFiles_cons_error h with ⟨rfl, r, he⟩ | ⟨d₁, hw, h⟩
    · exact ⟨[], f, files, r, rfl, wrote_nil _, he⟩
    · obtain ⟨written, g, rest, r, rfl, hws, he⟩ := ih (List.nodup_cons.mp hnodup).2 h
      refine ⟨f :: written, g, rest, r, rfl, hw.append hws ?_, he⟩
      refine hnodup.sublist (List.Sublist.map _ ?_)
      exact (List.sublist_append_left written (g :: rest)).cons_cons f

/-! ## The old aggregator -/

/-- The old aggregator is removed, or missing. -/
theorem removeAggregator_ok_iff {p : Path} : (removeAggregator p).Ends d d' (.ok ()) ↔
    (∃ t, d.tree.unlink p = .ok t ∧ d' = { d with tree := t }) ∨
      d.tree.unlink p = .error .missing ∧ d' = d := by
  unfold removeAggregator
  rw [Task.ends_get_bind_iff]
  cases hunlink : d.tree.unlink p with
  | ok t =>
    constructor
    · intro h
      obtain ⟨_, _, ⟨rfl, -⟩, rfl, -⟩ := Task.ends_bind_ok_iff.mp h
      exact Or.inl ⟨t, rfl, rfl⟩
    · rintro (⟨t', ht, rfl⟩ | ⟨h, -⟩)
      · cases ht
        exact Task.Ends.bind ⟨rfl, rfl⟩ ⟨rfl, rfl⟩
      · cases h
  | error r =>
    cases r with
    | missing =>
      rw [Task.ends_pure_iff]
      exact ⟨fun h => Or.inr ⟨rfl, h.1.symm⟩, fun h => by simpa [eq_comm] using h⟩
    | _ => simp [Task.ends_refuse_iff]

/-- Removing the old aggregator takes away its path alone. -/
theorem ends_removeAggregator_ok {p : Path} (ht : d.tree.IsTree)
    (h : (removeAggregator p).Ends d d' (.ok ())) (hp : p ≠ []) :
    d'.umask = d.umask ∧ ∀ q, d'.tree.get? q = if q = p then none else d.tree.get? q := by
  rcases removeAggregator_ok_iff.mp h with ⟨t, hunlink, rfl⟩ | ⟨hunlink, rfl⟩
  · obtain ⟨-, rfl⟩ := FileTree.unlink_eq_ok hunlink
    exact ⟨rfl, fun q => FileTree.get?_erase hp q⟩
  · have hnone : d'.tree.get? p = none := ht.unlink_eq_missing hunlink
    refine ⟨rfl, fun q => ?_⟩
    split
    · rename_i hq
      rw [hq]
      exact hnone
    · rfl

/-- An aggregator that cannot be removed stays, as everything else does. -/
theorem ends_removeAggregator_error {p : Path} {e : Failure}
    (h : (removeAggregator p).Ends d d' (.error e)) :
    d' = d ∧ ∃ r, e = .problem (.staleAggregator r (Path.text p)) := by
  unfold removeAggregator at h
  rcases Task.ends_bind_error_iff.mp h with ⟨-, h⟩ | ⟨_, _, ⟨rfl, hs⟩, h⟩
  · cases h
  cases hs
  split at h
  · rcases Task.ends_bind_error_iff.mp h with ⟨-, h⟩ | ⟨_, _, -, -, h⟩
    · cases h
    · cases h
  · obtain ⟨-, h⟩ := Task.ends_pure_iff.mp h
    cases h
  · obtain ⟨hd, he⟩ := Task.ends_refuse_iff.mp h
    exact ⟨hd.symm, _, (Except.error.inj he).symm⟩

end SchemaModels.Package
