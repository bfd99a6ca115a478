import SchemaModels.Proofs.Files.Overwrite
import SchemaModels.Proofs.Package.Success

/-!
# Running again

A second run takes other branches than the first: it finds an aggregator to remove, and files to
replace whose bits it keeps. Removing the aggregator takes the disk back to where it was before the
last write (`removeAggregator_again`), and there the loop over the other files finds all of them
written already (`writeFiles_again`); so the second run ends where it began. `generate_again`: after
a run that succeeded, the same run succeeds with the same report and leaves the disk as it is.
-/

namespace SchemaModels.Package

open Files (Path Disk Node)

variable {request : Request} {d d' : Disk} {report : RunReport}

/-! ## The files -/

/-- What files are once they are written to a disk. -/
def nodesOn (d : Disk) (files : List (Path × String)) : List (Path × Node) :=
  files.map fun f => (f.1, .file (d.modeFor f.1) f.2)

theorem nodesOn_congr {files : List (Path × String)} (h : ∀ p, d'.modeFor p = d.modeFor p) :
    nodesOn d' files = nodesOn d files := by
  unfold nodesOn
  simp only [h]

/-- The loop over the files sets their paths one after the other, all with the bits that they have
or would get before the first of them. -/
theorem writeFiles_eq_setAll {total done : Nat} {files : List (Path × String)} {u : Unit}
    (h : (writeFiles total done files).Ends d d' (.ok u)) : (∀ f ∈ nodesOn d files, f.1 ≠ []) ∧
      d' = { d with tree := d.tree.setAll (nodesOn d files) } := by
  induction files generalizing d done with
  | nil =>
    obtain ⟨rfl, -⟩ := Task.ends_pure_iff.mp h
    exact ⟨by simp [nodesOn], rfl⟩
  | cons f files ih =>
    obtain ⟨d₁, v, hwrite, hrest⟩ := writeFiles_cons_iff.mp h
    obtain ⟨hne, hd'⟩ := ih hrest
    rw [nodesOn_congr (ends_writeWhole_rewritten hwrite).modeFor] at hne hd'
    obtain ⟨hclear, rfl⟩ := Disk.replaceFile_eq_set (Disk.replaceFile_of_ends hwrite)
    refine ⟨List.forall_mem_cons.mpr ⟨?_, hne⟩, hd'⟩
    intro hroot
    exact hclear (hroot ▸ FileTree.get?_nil _)

/-- **Files that have been written** are written again without a change. -/
theorem writeFiles_again {total done : Nat} {files : List (Path × String)} {u : Unit}
    (hfiles : ∀ f ∈ files, IsSource f.1) (h : (writeFiles total done files).Ends d d' (.ok u)) :
    (writeFiles total done files).Ends d' d' (.ok u) := by
  have hwritable : ∀ f ∈ files, d'.Writable f.1 := fun f hf =>
    (writable_of_writeFiles hfiles h).mpr ((writeFiles_ok_iff total done hfiles).mp ⟨d', u, h⟩ f hf)
  obtain ⟨d'', v, hagain⟩ := (writeFiles_ok_iff total done hfiles).mpr hwritable
  have hmodes := (ends_writeFiles_rewritten h).modeFor
  have hd'' := (writeFiles_eq_setAll hagain).2
  obtain ⟨hne, hd'⟩ := writeFiles_eq_setAll h
  have hsame : d'' = d' := by
    rw [hd'', nodesOn_congr hmodes, hd', FileTree.setAll_again d.tree hne]
  exact hsame ▸ hagain

/-! ## The aggregator -/

/-- An aggregator that can be removed, or is missing where it could be written, is gone. -/
theorem get?_of_removed {p : Path} (hp : p ≠ []) (h : (removeAggregator p).Ends d d' (.ok ()))
    (hwritable : d'.Writable p) (hfits : p.name.utf8ByteSize ≤ FileTree.maxName) :
    d'.tree.get? p = none := by
  rcases removeAggregator_ok_iff.mp h with ⟨t, hunlink, rfl⟩ | ⟨hunlink, rfl⟩
  · obtain ⟨-, rfl⟩ := FileTree.unlink_eq_ok hunlink
    exact (FileTree.get?_erase hp p).trans (if_pos rfl)
  · unfold FileTree.unlink FileTree.blocked? at hunlink
    rw [hwritable.reachable] at hunlink
    simp only [if_neg (Nat.not_lt.mpr hfits)] at hunlink
    cases hget : d'.tree.get? p with
    | none => rfl
    | some n =>
      rw [hget] at hunlink
      cases n <;> cases hunlink

/-- Removing an aggregator that has just been written takes the disk back. -/
theorem removeAggregator_again {p : Path} {text : String} {u : Unit}
    (hwrite : (Disk.writeWhole p text).Ends d d' (.ok u)) (hp : IsSource p)
    (hfits : p.name.utf8ByteSize ≤ FileTree.maxName) (hfree : d.tree.get? p = none) :
    (removeAggregator p).Ends d' d (.ok ()) := by
  have hreach : d'.tree.obstacle? [] p.parent = none :=
    ((writable_of_writeWhole hp hwrite).mpr ((writeWhole_ok_iff text).mp ⟨d', u, hwrite⟩)).reachable
  have hne : p ≠ [] := by
    rintro rfl
    rw [FileTree.get?_nil] at hfree
    cases hfree
  obtain ⟨-, rfl⟩ := Disk.replaceFile_eq_set (Disk.replaceFile_of_ends hwrite)
  have hunlink : (d.tree.set p (.file (d.modeFor p) text)).unlink p = .ok d.tree := by
    unfold FileTree.unlink FileTree.blocked?
    simp only at hreach
    rw [hreach]
    simp only [if_neg (Nat.not_lt.mpr hfits), FileTree.get?_set hne, if_true,
      FileTree.erase_set hne hfree]
  exact removeAggregator_ok_iff.mpr (Or.inl ⟨d.tree, hunlink, rfl⟩)

/-! ## The run -/

theorem umask_of_removed {p : Path} (h : (removeAggregator p).Ends d d' (.ok ())) :
    d'.umask = d.umask := by
  rcases removeAggregator_ok_iff.mp h with ⟨t, -, rfl⟩ | ⟨-, rfl⟩ <;> rfl

/-- **Running again changes nothing.** On the disk that a successful run has left, with the umask of
that run, the same run succeeds, with an equal report, and leaves that disk as it is: every path,
text and permission bit, the aggregator's too. -/
theorem generate_again (h : (generate request).Ends d d' (.ok report)) :
    d'.umask = d.umask ∧ (generate request).Ends d' d' (.ok report) := by
  obtain ⟨cs, d₁, draft, hcs, hremove, hdraft, hwrite⟩ := generate_stages_iff.mp h
  obtain ⟨d₂, u, v, hfiles, hlast, hreport⟩ := writeDraft_iff.mp hwrite
  obtain ⟨hagg, hmodules⟩ := paths_of_draft hdraft
  have hsource := isSource_files (isSource_order hdraft)
  have hfits : (aggregatorPath request.directory).name.utf8ByteSize ≤ FileTree.maxName := by
    rw [name_aggregatorPath]
    decide
  rw [hagg] at hlast
  have hwritable : d₂.Writable (aggregatorPath request.directory) :=
    (writeWhole_ok_iff _).mp ⟨d', v, hlast⟩
  -- the disk before the last write has no aggregator: none was left, and no module is one
  have hnone : d₂.tree.get? (aggregatorPath request.directory) = none := by
    rw [get?_of_writeFiles hfiles, List.lookup_eq_none_iff.mpr]
    · exact get?_of_removed (by simp [aggregatorPath]) hremove
        ((writable_of_writeFiles hsource hfiles).mp hwritable) hfits
    · intro f hf
      obtain ⟨s, hs⟩ := hmodules f (List.mem_reverse.mp hf)
      simpa [hs] using (modulePath_ne_aggregatorPath request.directory request.directory s).symm
  have hremove' := removeAggregator_again hlast (isSource_aggregatorPath _) hfits hnone
  refine ⟨(ends_writeDraft_rewritten hwrite).umask.trans (umask_of_removed hremove), ?_⟩
  refine generate_stages_iff.mpr ⟨cs, d₂, draft, hcs, hremove', hdraft, ?_⟩
  exact writeDraft_iff.mpr
    ⟨d₂, u, v, writeFiles_again hsource hfiles, hagg.symm ▸ hlast, hreport⟩

/-- The second run finds an aggregator with other bits than the one that the first run has
removed. -/
theorem generate_again_private : ∃ report,
    (generate postsRun).Ends privateDisk ((generate postsRun).run privateDisk).1 (.ok report) ∧
      ((generate postsRun).run privateDisk).1.umask = privateDisk.umask ∧
      (generate postsRun).Ends ((generate postsRun).run privateDisk).1
        ((generate postsRun).run privateDisk).1 (.ok report) := by
  obtain ⟨report, hrun, -⟩ := privateDisk_run
  exact ⟨report, hrun, generate_again hrun⟩

end SchemaModels.Package
