import SchemaModels.Proofs.Package.Run

/-!
# A failed run leaves nothing half done

A run that fails has stopped while it planned, removed the old aggregator, drafted the package or
wrote its files. `Stopped` says for each of these what has become of the disk, and
`ends_generate_error_stopped` that there is no fifth case: files are written in order, each of them
as a whole, and none of them can be imported through an aggregator. `Stopped.frame` bounds the
change by the files that were planned, and `temporary_not_mem_targets` has no temporary file among
these.
-/

namespace SchemaModels.Package

open Files (Path Disk)

variable {request : Request} {d d' d₁ : Disk} {e : Failure}

/-- The aggregator is gone, and everything else is as it was. -/
structure Unaggregated (request : Request) (d d' : Disk) : Prop where
  umask : d'.umask = d.umask
  get? : ∀ q, d'.tree.get? q =
    if q = aggregatorPath request.directory then none else d.tree.get? q

/-- **Where a failed run stopped**, and what it left. -/
inductive Stopped (request : Request) (d d' : Disk) (e : Failure) : Prop
  /-- Some collection has no module name of its own: nothing has changed. -/
  | unplanned (refused : planning request = .error e) (unchanged : d' = d)
  /-- The old aggregator could not be removed: nothing has changed. -/
  | unremoved (cs : List Collection) (planned : planning request = .ok cs)
      (refused : ∃ r,
        e = .problem (.staleAggregator r (Path.text (aggregatorPath request.directory))))
      (unchanged : d' = d)
  /-- Some module could not be built or written out: only the aggregator is gone. -/
  | undrafted (cs : List Collection) (planned : planning request = .ok cs)
      (refused : (draft request cs).outcome = .error e) (unaggregated : Unaggregated request d d')
  /-- Some file could not be written: those before it are complete, those from it on are as they
  were, and there is no aggregator. -/
  | unwritten (cs : List Collection) (planned : planning request = .ok cs) (draft : Draft)
      (drafted : (Package.draft request cs).outcome = .ok draft)
      (written : List (Path × String)) (f : Path × String) (rest : List (Path × String))
      (order : draft.order = written ++ f :: rest)
      (refused : ∃ r, e = .problem (.unwritable r (Path.text f.1)))
      (umask : d'.umask = d.umask)
      (complete : ∀ g ∈ written, d'.tree.get? g.1 = some (.file (d.modeFor g.1) g.2))
      (other : ∀ q, q ∉ written.map (·.1) → q ≠ aggregatorPath request.directory →
        d'.tree.get? q = d.tree.get? q)
      (unaggregated : d'.tree.get? (aggregatorPath request.directory) = none)

/-! ## Writing -/

/-- The aggregator comes last. -/
theorem order_eq (draft : Draft) : draft.order =
    draft.files.map (fun f => (f.1, f.2.code)) ++
      [(draft.aggregator.1, draft.aggregator.2.code)] := by
  unfold Draft.order
  rw [List.map_append]
  rfl

/-- The last stage fails at one of the files in order. -/
theorem ends_writeDraft_error {cs : List Collection} {draft : Draft}
    (hnodup : (draft.order.map (·.1)).Nodup)
    (h : (writeDraft request cs draft).Ends d d' (.error e)) :
    ∃ written f rest r, draft.order = written ++ f :: rest ∧ Wrote d d' written ∧
      e = .problem (.unwritable r (Path.text f.1)) := by
  rw [order_eq, List.map_append] at hnodup
  have hfiles := (List.nodup_append.mp hnodup).1
  unfold writeDraft at h
  rcases Task.ends_bind_error_iff.mp h with h | ⟨_, d₁, hw, h⟩
  · obtain ⟨written, f, rest, r, hsplit, hwrote, he⟩ := ends_writeFiles_error hfiles h
    refine ⟨written, f, rest ++ [(draft.aggregator.1, draft.aggregator.2.code)], r, ?_, hwrote, he⟩
    rw [order_eq, hsplit, List.append_assoc]
    rfl
  · have hwrote := ends_writeFiles_ok hfiles hw
    rcases Task.ends_bind_error_iff.mp h with h | ⟨_, _, -, h⟩
    · obtain ⟨hd, r, he⟩ := Disk.ends_writeWhole_error h
      exact ⟨_, (draft.aggregator.1, draft.aggregator.2.code), [], r, order_eq draft,
        hd ▸ hwrote, he⟩
    · -- what follows the last file only reports
      rcases Task.ends_bind_error_iff.mp h with ⟨-, h⟩ | ⟨_, _, -, -, h⟩
      · cases h
      · cases h

/-- The aggregator is not among the files before the last. -/
theorem aggregatorPath_not_mem (hs : Slashless request) {cs : List Collection}
    (hcs : planning request = .ok cs) {written : List (Path × String)} {f : Path × String}
    {rest : List (Path × String)}
    (horder : (written ++ f :: rest).map (·.1) = targets request cs) :
    aggregatorPath request.directory ∉ written.map (·.1) := by
  intro hmem
  have hnodup := targets_nodup hs hcs
  have hlast : (targets request cs).getLast? = some (aggregatorPath request.directory) := by
    unfold targets
    rw [List.getLast?_append]
    rfl
  rw [← horder, List.map_append] at hnodup hlast
  have hrest : aggregatorPath request.directory ∈ (f :: rest).map (·.1) := by
    rw [List.getLast?_append, List.map_cons, List.getLast?_cons] at hlast
    rw [List.map_cons]
    exact List.mem_of_getLast? (by rw [List.getLast?_cons]; exact hlast)
  exact (List.nodup_append.mp hnodup).2.2 _ hmem _ hrest rfl

/-! ## The frame -/

/-- **A failed run stops in one of its stages.** -/
theorem ends_generate_error_stopped (hs : Slashless request) (ht : d.tree.IsTree)
    (h : (generate request).Ends d d' (.error e)) : Stopped request d d' e := by
  rcases ends_generate_error h with ⟨hplan, hd⟩ | ⟨cs, hcs, hremove | ⟨d₁, hremove, hrest⟩⟩
  · exact .unplanned hplan hd
  · obtain ⟨hd, hr⟩ := ends_removeAggregator_error hremove
    exact .unremoved cs hcs hr hd
  have hne : aggregatorPath request.directory ≠ [] := by simp [aggregatorPath]
  obtain ⟨humask, hget⟩ := ends_removeAggregator_ok ht hremove hne
  rcases hrest with ⟨hdraft, hd⟩ | ⟨draft, hdraft, hwrite⟩
  · exact .undrafted cs hcs hdraft (hd ▸ ⟨humask, hget⟩)
  have hpaths := map_fst_order hdraft
  have hnodup : (draft.order.map (·.1)).Nodup := hpaths ▸ targets_nodup hs hcs
  obtain ⟨written, f, rest, r, horder, hwrote, he⟩ := ends_writeDraft_error hnodup hwrite
  rw [horder] at hpaths
  have hagg := aggregatorPath_not_mem hs hcs hpaths
  refine .unwritten cs hcs draft hdraft written f rest horder ⟨r, he⟩ (hwrote.umask.trans humask)
    (fun g hg => ?_) (fun q hq hqa => ?_) ?_
  · have hga : g.1 ≠ aggregatorPath request.directory := fun hg' =>
      hagg (hg' ▸ List.mem_map_of_mem hg)
    rw [hwrote.holds g hg, modeFor_congr humask (by rw [hget, if_neg hga])]
  · rw [hwrote.other q hq, hget, if_neg hqa]
  · rw [hwrote.other _ hagg, hget, if_pos rfl]

theorem aggregatorPath_mem_targets (cs : List Collection) :
    aggregatorPath request.directory ∈ targets request cs := by
  unfold targets
  simp

/-- Whatever a failed run has changed is a file that was planned. -/
theorem Stopped.frame (h : Stopped request d d' e) {q : Path}
    (hq : ∀ cs, planning request = .ok cs → q ∉ targets request cs) :
    d'.tree.get? q = d.tree.get? q := by
  have hagg : ∀ cs, planning request = .ok cs → q ≠ aggregatorPath request.directory := by
    rintro cs hcs rfl
    exact hq cs hcs (aggregatorPath_mem_targets cs)
  cases h with
  | unplanned _ hd => rw [hd]
  | unremoved _ _ _ hd => rw [hd]
  | undrafted cs hcs _ hu => rw [hu.get?, if_neg (hagg cs hcs)]
  | unwritten cs hcs draft hdraft written f rest horder _ _ _ hother _ =>
    refine hother q (fun hmem => hq cs hcs ?_) (hagg cs hcs)
    rw [← map_fst_order hdraft, horder, List.map_append]
    exact List.mem_append_left _ hmem

/-- No file of a package has the name of a temporary file. -/
theorem temporary_not_mem_targets (hs : Slashless request) {cs : List Collection}
    (hcs : planning request = .ok cs) (p : Path) (n : Nat) :
    Disk.temporary p n ∉ targets request cs := by
  rw [targets_eq hs hcs]
  intro hmem
  obtain ⟨m, -, hm⟩ := List.mem_map.mp hmem
  exact Disk.snoc_ne_temporary _ m p n hm

/-- **A failed run is atomic.** It has stopped in one of its stages with what that stage leaves,
every path other than the planned files is as it was, and so is every path of a temporary file. -/
theorem generate_error_atomic (hs : Slashless request) (ht : d.tree.IsTree)
    (h : (generate request).Ends d d' (.error e)) :
    Stopped request d d' e ∧
      (∀ q, (∀ cs, planning request = .ok cs → q ∉ targets request cs) →
        d'.tree.get? q = d.tree.get? q) ∧
      ∀ p n, d'.tree.get? (Disk.temporary p n) = d.tree.get? (Disk.temporary p n) := by
  have hstopped := ends_generate_error_stopped hs ht h
  refine ⟨hstopped, fun q hq => hstopped.frame hq, fun p n => hstopped.frame fun cs hcs => ?_⟩
  exact temporary_not_mem_targets hs hcs p n

/-- A run for one collection. -/
def postsRun : Request where
  collections := [{ id := "posts", name := .text "posts", fields :=
    [{ name := .text "status", kind := .select, extra := .select ["draft", "live"] }] }]
  mappings := []
  directory := ["out"]

/-- The package of an earlier run, with a directory where the geographic points would go. -/
def obstructedDisk : Disk where
  tree := ⟨[(["out"], .directory), (["out", "__init__.py"], .file 0o644 "from .old import Old\n"),
    (["out", "geo_point_data.py"], .directory)]⟩

theorem generate_error_atomic_obstructed : ∃ e,
    Slashless postsRun ∧ obstructedDisk.tree.IsTree ∧
      (generate postsRun).Ends obstructedDisk ((generate postsRun).run obstructedDisk).1
        (.error e) ∧
      Stopped postsRun obstructedDisk ((generate postsRun).run obstructedDisk).1 e := by
  have hs : Slashless postsRun := by
    intro c hc s hname
    rw [List.mem_singleton.mp hc] at hname
    cases hname
    decide
  have ht : obstructedDisk.tree.IsTree := FileTree.isTree_of_entries (by decide)
  have hfails : (match ((generate postsRun).run obstructedDisk).2.outcome with
      | .ok _ => false
      | .error _ => true) = true := by decide +kernel
  cases he : ((generate postsRun).run obstructedDisk).2.outcome with
  | ok _ =>
    rw [he] at hfails
    cases hfails
  | error e => exact ⟨e, hs, ht, ⟨rfl, he⟩, (generate_error_atomic hs ht ⟨rfl, he⟩).1⟩

end SchemaModels.Package
