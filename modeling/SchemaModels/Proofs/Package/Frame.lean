import SchemaModels.Proofs.Package.Effect
import SchemaModels.Proofs.Package.Success

/-!
# What runs leave, whatever the names

Collections whose names hold slashes can go to one path, so that the files of a run cannot be told
apart by their paths. What a failed run leaves at a path is still one of three things: what was
there, a whole file of the package, or nothing in place of the old aggregator
(`generate_error_leaves`). `writeFiles_stopped` has the reason: the files before the stop are
written as by a loop over them alone. A run that succeeds leaves all of its files just if no two
that differ have one path (`present_iff`).
-/

namespace SchemaModels.Package

open Files (Path Disk)

variable {request : Request} {d d' : Disk} {e : Failure}

/-! ## Loops that stop -/

/-- **A loop that stops** has gone through the files before the one that it stops at. -/
theorem writeFiles_stopped {total done : Nat} {files : List (Path × String)}
    (h : (writeFiles total done files).Ends d d' (.error e)) : ∃ written f rest,
      files = written ++ f :: rest ∧ (writeFiles total done written).Ends d d' (.ok ()) := by
  induction files generalizing d done with
  | nil =>
    obtain ⟨-, h⟩ := Task.ends_pure_iff.mp h
    cases h
  | cons f files ih =>
    rw [writeFiles] at h
    rcases Task.ends_bind_error_iff.mp h with h | ⟨v, d₁, hwrite, h⟩
    · obtain ⟨rfl, -⟩ := Disk.ends_writeWhole_error h
      exact ⟨[], f, files, rfl, rfl, rfl⟩
    · rcases Task.ends_bind_error_iff.mp h with ⟨-, h⟩ | ⟨_, _, ⟨rfl, -⟩, h⟩
      · cases h
      · obtain ⟨written, g, rest, rfl, hwritten⟩ := ih h
        exact ⟨f :: written, g, rest, rfl, writeFiles_cons_iff.mpr ⟨d₁, v, hwrite, hwritten⟩⟩

/-- The last stage stops before it has written all files, or at the aggregator. -/
theorem writeDraft_stopped {cs : List Collection} {draft : Draft}
    (h : (writeDraft request cs draft).Ends d d' (.error e)) : ∃ written,
      written <+: draft.files.map (fun f => (f.1, f.2.code)) ∧
        (writeFiles draft.files.length 0 written).Ends d d' (.ok ()) := by
  unfold writeDraft at h
  rcases Task.ends_bind_error_iff.mp h with h | ⟨u, d₁, hfiles, h⟩
  · obtain ⟨written, f, rest, hsplit, hwritten⟩ := writeFiles_stopped h
    exact ⟨written, ⟨f :: rest, hsplit.symm⟩, hwritten⟩
  · rcases Task.ends_bind_error_iff.mp h with h | ⟨_, _, -, h⟩
    · obtain ⟨rfl, -⟩ := Disk.ends_writeWhole_error h
      exact ⟨_, List.prefix_rfl, hfiles⟩
    · -- what follows the last file only reports
      rcases Task.ends_bind_error_iff.mp h with ⟨-, h⟩ | ⟨_, _, -, -, h⟩
      · cases h
      · cases h

/-! ## A run that fails -/

/-- **What a failed run leaves at a path**: what was there, no aggregator in place of the old one,
or a file of the package as a whole, with the bits of the file that it replaces or those of a new
one. -/
inductive Leaves (request : Request) (d d' : Disk) (q : Path) : Prop
  | kept (same : d'.tree.get? q = d.tree.get? q)
  | unaggregated (path : q = aggregatorPath request.directory)
      (old : ∃ mode text, d.tree.get? q = some (.file mode text)) (gone : d'.tree.get? q = none)
  | written (cs : List Collection) (draft : Draft) (planned : planning request = .ok cs)
      (drafted : (Package.draft request cs).outcome = .ok draft) (text : String)
      (file : (q, text) ∈ draft.files.map fun f => (f.1, f.2.code))
      (whole : d'.tree.get? q = some (.file (d.modeFor q) text))

theorem Leaves.congr {d₁ : Disk} {q : Path} (h : Leaves request d d₁ q)
    (hq : d'.tree.get? q = d₁.tree.get? q) : Leaves request d d' q := by
  cases h with
  | kept same => exact .kept (hq.trans same)
  | unaggregated path old gone => exact .unaggregated path old (hq.trans gone)
  | written cs draft planned drafted text file whole =>
    exact .written cs draft planned drafted text file (hq.trans whole)

theorem leaves_of_removed {d₁ : Disk}
    (h : (removeAggregator (aggregatorPath request.directory)).Ends d d₁ (.ok ())) (q : Path) :
    Leaves request d d₁ q := by
  rcases removeAggregator_ok_iff.mp h with ⟨t, hunlink, rfl⟩ | ⟨-, rfl⟩
  · obtain ⟨hold, rfl⟩ := FileTree.unlink_eq_ok hunlink
    have hget := FileTree.get?_erase (t := d.tree)
      (show aggregatorPath request.directory ≠ [] by simp [aggregatorPath]) q
    by_cases hq : q = aggregatorPath request.directory
    · exact .unaggregated hq (hq ▸ hold) (hget.trans (if_pos hq))
    · exact .kept (hget.trans (if_neg hq))
  · exact .kept rfl

theorem modeFor_of_removed_ne {d₁ : Disk} {q : Path}
    (h : (removeAggregator (aggregatorPath request.directory)).Ends d d₁ (.ok ()))
    (hq : q ≠ aggregatorPath request.directory) : d₁.modeFor q = d.modeFor q := by
  rcases removeAggregator_ok_iff.mp h with ⟨t, hunlink, rfl⟩ | ⟨-, rfl⟩
  · obtain ⟨-, rfl⟩ := FileTree.unlink_eq_ok hunlink
    refine modeFor_congr rfl ?_
    rw [FileTree.get?_erase (by simp [aggregatorPath]), if_neg hq]
  · rfl

/-- **A failed run changes nothing but whole files of its package**, and the old aggregator. -/
theorem generate_error_leaves (h : (generate request).Ends d d' (.error e)) (q : Path) :
    Leaves request d d' q := by
  rcases ends_generate_error h with ⟨-, rfl⟩ | ⟨cs, hcs, hremove | ⟨d₁, hremove, hrest⟩⟩
  · exact .kept rfl
  · obtain ⟨rfl, -⟩ := ends_removeAggregator_error hremove
    exact .kept rfl
  rcases hrest with ⟨-, rfl⟩ | ⟨draft, hdraft, hwrite⟩
  · exact leaves_of_removed hremove q
  obtain ⟨written, hprefix, hwritten⟩ := writeDraft_stopped hwrite
  have hget := get?_of_writeFiles hwritten q
  cases hlookup : written.reverse.lookup q with
  | none =>
    rw [hlookup] at hget
    exact (leaves_of_removed hremove q).congr hget
  | some text =>
    rw [hlookup] at hget
    obtain ⟨before, after, hsplit, -⟩ := List.lookup_eq_some_iff.mp hlookup
    have hmem : (q, text) ∈ draft.files.map fun f => (f.1, f.2.code) :=
      hprefix.subset (List.mem_reverse.mp (by rw [hsplit]; simp))
    have hne : q ≠ aggregatorPath request.directory := by
      obtain ⟨s, hs⟩ := (paths_of_draft hdraft).2 _ hmem
      rw [show q = _ from hs]
      exact modulePath_ne_aggregatorPath _ _ s
    refine .written cs draft hcs hdraft text hmem ?_
    rw [hget, modeFor_of_removed_ne hremove hne]

/-! ## A run that succeeds -/

/-- Files at one path have one text. -/
def Coherent (files : List (Path × String)) : Prop :=
  ∀ f ∈ files, ∀ g ∈ files, f.1 = g.1 → f.2 = g.2

theorem coherent_of_nodup {files : List (Path × String)} (h : (files.map (·.1)).Nodup) :
    Coherent files := by
  intro f hf g hg hpaths
  rw [List.inj_on_of_nodup_map h hf hg hpaths]

/-- Without slashes in names every file has a path of its own. -/
theorem coherent_of_slashless {cs : List Collection} {draft : Draft} (hs : Slashless request)
    (hcs : planning request = .ok cs) (hdraft : (Package.draft request cs).outcome = .ok draft) :
    Coherent draft.order :=
  coherent_of_nodup (map_fst_order hdraft ▸ targets_nodup hs hcs)

/-- The last file at a path is there once all files are written. -/
theorem text?_of_writeDraft {cs : List Collection} {draft : Draft} {report : RunReport}
    (h : (writeDraft request cs draft).Ends d d' (.ok report)) {p : Path} {text : String}
    (hlast : draft.order.reverse.lookup p = some text) : d'.text? p = some text := by
  have hget := get?_of_writeDraft h p
  rw [hlast] at hget
  exact text?_file hget

/-- **All files of a package are there** after its run just if no two that differ have one path. -/
theorem present_iff {cs : List Collection} {draft : Draft} {report : RunReport}
    (h : (writeDraft request cs draft).Ends d d' (.ok report)) :
    (∀ f ∈ draft.order, d'.text? f.1 = some f.2) ↔ Coherent draft.order := by
  constructor
  · intro hall f hf g hg hpaths
    have htexts := hall f hf
    rw [hpaths, hall g hg] at htexts
    exact (Option.some.inj htexts).symm
  · intro hcoherent f hf
    cases hlookup : draft.order.reverse.lookup f.1 with
    | none =>
      have hne := List.lookup_eq_none_iff.mp hlookup f (List.mem_reverse.mpr hf)
      simp at hne
    | some text =>
      obtain ⟨before, after, hsplit, -⟩ := List.lookup_eq_some_iff.mp hlookup
      have hmem : (f.1, text) ∈ draft.order :=
        List.mem_reverse.mp (by rw [hsplit]; simp)
      have htext : text = f.2 := hcoherent _ hmem f hf rfl
      rw [text?_of_writeDraft h hlookup, htext]

end SchemaModels.Package
