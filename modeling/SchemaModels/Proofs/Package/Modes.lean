import SchemaModels.Proofs.Package.Atomicity

/-!
# The permission bits of a package

`Disk.mode?` looks at the bits of a file alone. Replacing a file does not change which bits a path
has or would get (`Rewritten.modeFor`), so that files written one after the other, even one over
another, all have the bits that the disk before the first of them gives
(`ends_writeFiles_rewritten`). `generate_modes` says what becomes of the bits in a run. The modules
keep theirs; the aggregator is removed before anything is written, and comes back with the bits of a
new file. The run preserves modes just if an old aggregator had these already.
-/

namespace SchemaModels

open Files (Path Disk)

variable {d d' d'' : Disk} {ps qs : List Path}

/-- The permission bits of the file that a path leads to. -/
def Files.Disk.mode? (d : Disk) (p : Path) : Option Nat :=
  match d.tree.get? p with
  | some (.file mode _) => some mode
  | _ => none

namespace Package

theorem modeFor_eq (d : Disk) (p : Path) : d.modeFor p = (d.mode? p).getD d.newMode := by
  unfold Disk.modeFor Disk.mode?
  rcases d.tree.get? p with _ | _ | _ <;> rfl

theorem mode?_congr {p : Path} (h : d'.tree.get? p = d.tree.get? p) : d'.mode? p = d.mode? p := by
  unfold Disk.mode?
  rw [h]

theorem mode?_file {p : Path} {mode : Nat} {text : String}
    (h : d.tree.get? p = some (.file mode text)) : d.mode? p = some mode := by
  unfold Disk.mode?
  rw [h]

/-! ## Writing -/

/-- The paths lead to files with the bits that they had, or those of new files; no other path has
other bits than before. -/
structure Rewritten (d d' : Disk) (ps : List Path) : Prop where
  umask : d'.umask = d.umask
  written : ∀ p ∈ ps, d'.mode? p = some (d.modeFor p)
  other : ∀ p, p ∉ ps → d'.mode? p = d.mode? p

theorem rewritten_nil (d : Disk) : Rewritten d d [] :=
  ⟨rfl, by simp, fun _ _ => rfl⟩

/-- **Replaced files get the bits that they would have got before.** -/
theorem Rewritten.modeFor (h : Rewritten d d' ps) (p : Path) : d'.modeFor p = d.modeFor p := by
  by_cases hp : p ∈ ps
  · rw [modeFor_eq d', h.written p hp]
    rfl
  · rw [modeFor_eq d', h.other p hp, modeFor_eq d]
    unfold Disk.newMode
    rw [h.umask]

theorem Rewritten.append (h₁ : Rewritten d d' ps) (h₂ : Rewritten d' d'' qs) :
    Rewritten d d'' (ps ++ qs) := by
  refine ⟨h₂.umask.trans h₁.umask, fun p hp => ?_, fun p hp => ?_⟩
  · by_cases hq : p ∈ qs
    · rw [h₂.written p hq, h₁.modeFor]
    · rw [h₂.other p hq, h₁.written p ((List.mem_append.mp hp).resolve_right hq)]
  · rw [List.mem_append, not_or] at hp
    rw [h₂.other p hp.2, h₁.other p hp.1]

theorem ends_writeWhole_rewritten {p : Path} {text : String}
    (h : (Disk.writeWhole p text).Ends d d' (.ok ())) : Rewritten d d' [p] := by
  obtain ⟨humask, -, hget⟩ := Disk.ends_writeWhole_ok h
  refine ⟨humask, fun q hq => ?_, fun q hq => mode?_congr ?_⟩
  · rw [List.mem_singleton.mp hq]
    exact mode?_file (by rw [hget, if_pos rfl])
  · rw [List.mem_singleton] at hq
    rw [hget, if_neg hq]

/-- **The loop over the files keeps modes**, whatever paths the files have. -/
theorem ends_writeFiles_rewritten {total done : Nat} {files : List (Path × String)}
    (h : (writeFiles total done files).Ends d d' (.ok ())) : Rewritten d d' (files.map (·.1)) := by
  induction files generalizing d done with
  | nil =>
    obtain ⟨rfl, -⟩ := Task.ends_pure_iff.mp h
    exact rewritten_nil d
  | cons f files ih =>
    unfold writeFiles at h
    obtain ⟨_, d₁, hwrite, h⟩ := Task.ends_bind_ok_iff.mp h
    obtain ⟨_, _, ⟨rfl, -⟩, h⟩ := Task.ends_bind_ok_iff.mp h
    exact (ends_writeWhole_rewritten hwrite).append (ih h)

variable {request : Request} {report : RunReport} {cs : List Collection}

theorem ends_writeDraft_rewritten {draft : Draft}
    (h : (writeDraft request cs draft).Ends d d' (.ok report)) :
    Rewritten d d' (draft.order.map (·.1)) := by
  unfold writeDraft at h
  obtain ⟨_, d₁, hfiles, h⟩ := Task.ends_bind_ok_iff.mp h
  obtain ⟨_, d₂, hlast, h⟩ := Task.ends_bind_ok_iff.mp h
  obtain ⟨_, d₃, ⟨rfl, -⟩, rfl, -⟩ := Task.ends_bind_ok_iff.mp h
  rw [order_eq, List.map_append]
  exact (ends_writeFiles_rewritten hfiles).append (ends_writeWhole_rewritten hlast)

/-! ## A run -/

/-- Each file of the package has the bits of the file that was there before the run, or those of a
new file. -/
def ModesPreserved (request : Request) (cs : List Collection) (d d' : Disk) : Prop :=
  ∀ p ∈ targets request cs, d'.mode? p = some ((d.mode? p).getD d.newMode)

/-- Without the old aggregator there are bits for a new one; all other files keep theirs. -/
theorem modeFor_of_removed {p : Path} (ht : d.tree.IsTree) (hp : p ≠ [])
    (h : (removeAggregator p).Ends d d' (.ok ())) (q : Path) :
    d'.modeFor q = if q = p then d.newMode else d.modeFor q := by
  obtain ⟨humask, hget⟩ := ends_removeAggregator_ok ht h hp
  split
  · rename_i hq
    unfold Disk.modeFor Disk.newMode
    rw [hget, if_pos hq, humask]
  · rename_i hq
    exact modeFor_congr humask (by rw [hget, if_neg hq])

/-- **The bits after a run.** The modules have the bits of the files that they replaced, or those of
new files, and the aggregator has those of a new file in any case. So modes are preserved just if an
old aggregator had the bits of a new file. -/
theorem generate_modes (ht : d.tree.IsTree) (h : (generate request).Ends d d' (.ok report)) :
    ∃ cs, planning request = .ok cs ∧
      (∀ p ∈ targets request cs, d'.mode? p =
        some (if p = aggregatorPath request.directory then d.newMode else d.modeFor p)) ∧
      (ModesPreserved request cs d d' ↔
        ∀ mode, d.mode? (aggregatorPath request.directory) = some mode → mode = d.newMode) := by
  obtain ⟨cs, d₁, draft, hcs, hremove, hdraft, hwrite⟩ := ends_generate_ok h
  have hne : aggregatorPath request.directory ≠ [] := by simp [aggregatorPath]
  have hrewritten := ends_writeDraft_rewritten hwrite
  rw [map_fst_order hdraft] at hrewritten
  have hmodes : ∀ p ∈ targets request cs, d'.mode? p =
      some (if p = aggregatorPath request.directory then d.newMode else d.modeFor p) :=
        fun p hp => by
    rw [hrewritten.written p hp, modeFor_of_removed ht hne hremove]
  refine ⟨cs, hcs, hmodes, fun hpreserved mode hmode => ?_, fun hold p hp => ?_⟩
  · have hagg : aggregatorPath request.directory ∈ targets request cs :=
      aggregatorPath_mem_targets cs
    have hboth := (hmodes _ hagg).symm.trans (hpreserved _ hagg)
    rw [if_pos rfl, hmode, Option.some.injEq] at hboth
    exact hboth.symm
  · rw [hmodes p hp, ← modeFor_eq]
    split
    · rename_i hagg
      cases hmode : d.mode? p with
      | none => rw [modeFor_eq, hmode, Option.getD_none]
      | some mode => rw [modeFor_eq, hmode, Option.getD_some, hold mode (hagg ▸ hmode)]
    · rfl

/-- A package of which only its owner may read the aggregator and one module. -/
def privateDisk : Disk where
  tree := ⟨[(["out"], .directory), (["out", "__init__.py"], .file 0o600 "from .old import Old\n"),
    (["out", "post_data.py"], .file 0o600 "class Old: ...\n")]⟩

/-- The run goes through there, and leaves an aggregator that everyone may read. -/
theorem privateDisk_run : ∃ report,
    (generate postsRun).Ends privateDisk ((generate postsRun).run privateDisk).1 (.ok report) ∧
      ((generate postsRun).run privateDisk).1.mode? ["out", "__init__.py"] = some 0o644 := by
  have hrun : ((generate postsRun).run privateDisk).2.outcome.toOption.isSome = true ∧
      ((generate postsRun).run privateDisk).1.mode? ["out", "__init__.py"] = some 0o644 := by
    decide +kernel
  obtain ⟨hsucceeds, hmode⟩ := hrun
  cases hreport : ((generate postsRun).run privateDisk).2.outcome with
  | error e =>
    rw [hreport] at hsucceeds
    cases hsucceeds
  | ok report => exact ⟨report, ⟨rfl, hreport⟩, hmode⟩

theorem generate_modes_private : ∃ report cs, privateDisk.tree.IsTree ∧
    (generate postsRun).Ends privateDisk ((generate postsRun).run privateDisk).1 (.ok report) ∧
      planning postsRun = .ok cs ∧
      (ModesPreserved postsRun cs privateDisk ((generate postsRun).run privateDisk).1 ↔
        ∀ mode, privateDisk.mode? (aggregatorPath postsRun.directory) = some mode →
          mode = privateDisk.newMode) := by
  have ht : privateDisk.tree.IsTree := FileTree.isTree_of_entries (by decide)
  obtain ⟨report, hrun, -⟩ := privateDisk_run
  obtain ⟨cs, hcs, -, hiff⟩ := generate_modes ht hrun
  exact ⟨report, cs, ht, hrun, hcs, hiff⟩

/-- **A run can give the aggregator other bits than it had**: those who could not read it before now
can. -/
theorem not_modesPreserved_private : ∃ report,
    (generate postsRun).Ends privateDisk ((generate postsRun).run privateDisk).1 (.ok report) ∧
      privateDisk.mode? ["out", "__init__.py"] = some 0o600 ∧
      ((generate postsRun).run privateDisk).1.mode? ["out", "__init__.py"] = some 0o644 ∧
      ∀ cs, ¬ ModesPreserved postsRun cs privateDisk ((generate postsRun).run privateDisk).1 := by
  obtain ⟨report, hrun, hafter⟩ := privateDisk_run
  have hbefore : privateDisk.mode? ["out", "__init__.py"] = some 0o600 := rfl
  refine ⟨report, hrun, hbefore, hafter, fun cs hpreserved => ?_⟩
  have hkept := hpreserved ["out", "__init__.py"] (aggregatorPath_mem_targets cs)
  rw [hafter, hbefore] at hkept
  exact absurd hkept (by decide)

end Package

end SchemaModels
