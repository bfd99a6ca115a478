import SchemaModels.Proofs.Files.Writable
import SchemaModels.Proofs.Package.Modes

/-!
# When a run succeeds, and which file stays

`generate_ok_iff`: a run succeeds just if its collections are planned, the old aggregator can be
removed, its package can be drafted, and every file of the package can be written on the disk as it
is then. The order in which the files are written makes no difference to that (`writeFiles_ok_iff`),
but of several files at one path the last one stays (`get?_of_writeDraft`).
-/

namespace SchemaModels.Package

open Files (Path Disk)

variable {request : Request} {d d₁ d' : Disk} {cs : List Collection} {draft : Draft}
  {report : RunReport}

/-! ## Paths -/

/-- The path of a source file. -/
def IsSource (p : Path) : Prop := ∃ front stem, p = front ++ [stem ++ ".py"]

theorem IsSource.ne_temporary {p : Path} (h : IsSource p) (q : Path) (n : Nat) :
    p ≠ Disk.temporary q n := by
  obtain ⟨front, stem, rfl⟩ := h
  exact Disk.snoc_ne_temporary front stem q n

theorem isSource_modulePath (directory : Path) (m : String) : IsSource (modulePath directory m) :=
  Path.below_append directory m (by decide) (by decide)

theorem isSource_aggregatorPath (directory : Path) : IsSource (aggregatorPath directory) :=
  ⟨directory, "__init__", rfl⟩

/-- All files of a package are source files, wherever they lie. -/
theorem isSource_of_mem_targets {p : Path} (h : p ∈ targets request cs) : IsSource p := by
  unfold targets at h
  simp only [List.mem_append, List.mem_cons, List.not_mem_nil, or_false] at h
  rcases h with h | rfl | rfl
  · obtain ⟨n, -, rfl⟩ := List.mem_map.mp h
    exact isSource_modulePath _ _
  · exact isSource_modulePath _ _
  · exact isSource_aggregatorPath _

/-- The file of no module, wherever it lies, is the aggregator. -/
theorem modulePath_ne_aggregatorPath (directory directory' : Path) (s : String) :
    modulePath directory (s ++ "_data") ≠ aggregatorPath directory' := by
  intro h
  have hslash : '/' ∉ "_data.py".toList := by decide
  obtain ⟨front, stem, hpath⟩ := Path.below_append directory s hslash (by decide)
  have hfile : s ++ "_data" ++ ".py" = s ++ "_data.py" := String.append_assoc
  unfold modulePath aggregatorPath at h
  rw [hfile, hpath] at h
  have hname := (List.cons.inj (List.append_inj' h rfl).2).1
  have hsuffix : "_data.py".toList <:+ aggregatorFile.toList := by
    rw [← hname, String.toList_append]
    exact List.suffix_append _ _
  exact absurd hsuffix (by decide)

theorem name_aggregatorPath (directory : Path) :
    (aggregatorPath directory).name = aggregatorFile := by
  unfold aggregatorPath Path.name
  rw [List.getLast?_append]
  rfl

/-- The places in a drafted package: the aggregator's, and before it those of modules. -/
theorem paths_of_draft (h : (Package.draft request cs).outcome = .ok draft) :
    draft.aggregator.1 = aggregatorPath request.directory ∧
      ∀ f ∈ draft.files.map fun f => (f.1, f.2.code),
        ∃ s, f.1 = modulePath request.directory (s ++ "_data") := by
  obtain ⟨resolver, drafted, geoPoint, hd⟩ := draft_eq_ok_iff.mp h
  have hagg : draft.aggregator.1 = aggregatorPath request.directory := by
    rw [hd.aggregator]
    rfl
  have hpaths : (draft.files.map fun f => (f.1, f.2.code)).map (·.1) = (names cs).map
      (fun n => modulePath request.directory (Naming.moduleName n)) ++
        [modulePath request.directory FixedModule.geoPoint.name] := by
    have horder := map_fst_order h
    rw [order_eq, List.map_append, targets, List.append_cons] at horder
    exact (List.append_inj' horder rfl).1
  refine ⟨hagg, fun f hf => ?_⟩
  have hmem : f.1 ∈ (draft.files.map fun f => (f.1, f.2.code)).map (·.1) := List.mem_map_of_mem hf
  rw [hpaths] at hmem
  rcases List.mem_append.mp hmem with hmem | hmem
  · obtain ⟨n, -, hn⟩ := List.mem_map.mp hmem
    exact ⟨_, hn.symm⟩
  · exact ⟨"geo_point", List.mem_singleton.mp hmem⟩

/-! ## Writing -/

theorem writeWhole_ok_iff {p : Path} (text : String) :
    (∃ d' u, (Disk.writeWhole p text).Ends d d' (.ok u)) ↔ d.Writable p := by
  rw [← Disk.replaceFile_ok_iff d p text]
  constructor
  · rintro ⟨d', u, h⟩
    obtain ⟨-, h⟩ := Disk.ends_writeWhole_iff.mp h
    cases hr : (d.replaceFile p text).2 with
    | ok _ => rfl
    | error e =>
      rw [hr] at h
      cases h
  · intro h
    exact ⟨_, (), Disk.ends_writeWhole_iff.mpr ⟨rfl, by rw [h]⟩⟩

/-- A file that has been written makes no difference to which others can be. -/
theorem writable_of_writeWhole {p q : Path} {text : String} {u : Unit} (hq : IsSource q)
    (h : (Disk.writeWhole q text).Ends d d' (.ok u)) : d'.Writable p ↔ d.Writable p :=
  Disk.writable_of_replaceFile (Disk.replaceFile_of_ends h) fun n => hq.ne_temporary p n

/-- One round of the loop writes its file. -/
theorem writeFiles_cons_iff {total done : Nat} {f : Path × String} {files : List (Path × String)}
    {u : Unit} : (writeFiles total done (f :: files)).Ends d d' (.ok u) ↔ ∃ d₁ v,
      (Disk.writeWhole f.1 f.2).Ends d d₁ (.ok v) ∧
        (writeFiles total (done + 1) files).Ends d₁ d' (.ok u) := by
  rw [writeFiles, Task.ends_bind_ok_iff]
  constructor
  · rintro ⟨v, d₁, hwrite, h⟩
    obtain ⟨_, _, ⟨rfl, -⟩, h⟩ := Task.ends_bind_ok_iff.mp h
    exact ⟨d₁, v, hwrite, h⟩
  · rintro ⟨d₁, v, hwrite, h⟩
    exact ⟨v, d₁, hwrite, Task.Ends.bind ⟨rfl, rfl⟩ h⟩

/-- The loop makes no difference to which other files can be written. -/
theorem writable_of_writeFiles {total done : Nat} {files : List (Path × String)} {p : Path}
    {u : Unit}
    (hfiles : ∀ f ∈ files, IsSource f.1) (h : (writeFiles total done files).Ends d d' (.ok u)) :
    d'.Writable p ↔ d.Writable p := by
  induction files generalizing d done with
  | nil =>
    obtain ⟨rfl, -⟩ := Task.ends_pure_iff.mp h
    rfl
  | cons f files ih =>
    obtain ⟨hf, hfiles⟩ := List.forall_mem_cons.mp hfiles
    obtain ⟨d₁, v, hwrite, hrest⟩ := writeFiles_cons_iff.mp h
    exact (ih hfiles hrest).trans (writable_of_writeWhole hf hwrite)

/-- **The loop over the files goes through** just if each of them can be written before the first
one is. -/
theorem writeFiles_ok_iff (total done : Nat) {files : List (Path × String)}
    (hfiles : ∀ f ∈ files, IsSource f.1) :
    (∃ d' u, (writeFiles total done files).Ends d d' (.ok u)) ↔ ∀ f ∈ files, d.Writable f.1 := by
  induction files generalizing d done with
  | nil => exact iff_of_true ⟨d, (), Task.ends_pure_iff.mpr ⟨rfl, rfl⟩⟩ (by simp)
  | cons f files ih =>
    obtain ⟨hf, hfiles⟩ := List.forall_mem_cons.mp hfiles
    rw [List.forall_mem_cons, ← writeWhole_ok_iff f.2]
    constructor
    · rintro ⟨d', u, h⟩
      obtain ⟨d₁, v, hwrite, hrest⟩ := writeFiles_cons_iff.mp h
      exact ⟨⟨d₁, v, hwrite⟩, fun g hg =>
        (writable_of_writeWhole hf hwrite).mp ((ih (done + 1) hfiles).mp ⟨d', u, hrest⟩ g hg)⟩
    · rintro ⟨⟨d₁, v, hwrite⟩, hrest⟩
      have hwritable : ∀ g ∈ files, d₁.Writable g.1 := fun g hg =>
        (writable_of_writeWhole hf hwrite).mpr (hrest g hg)
      obtain ⟨d', u, h⟩ := (ih (done + 1) hfiles).mpr hwritable
      exact ⟨d', u, writeFiles_cons_iff.mpr ⟨d₁, v, hwrite, h⟩⟩

/-- What the files at a path leave there: the last of them counts. -/
theorem get?_of_writeFiles {total done : Nat} {files : List (Path × String)} {u : Unit}
    (h : (writeFiles total done files).Ends d d' (.ok u)) (p : Path) :
    d'.tree.get? p = match files.reverse.lookup p with
      | some text => some (.file (d.modeFor p) text)
      | none => d.tree.get? p := by
  induction files generalizing d done with
  | nil =>
    obtain ⟨rfl, -⟩ := Task.ends_pure_iff.mp h
    rfl
  | cons f files ih =>
    obtain ⟨d₁, v, hwrite, hrest⟩ := writeFiles_cons_iff.mp h
    obtain ⟨-, -, hget⟩ := Disk.ends_writeWhole_ok hwrite
    rw [ih hrest, List.reverse_cons, List.lookup_append,
      (ends_writeWhole_rewritten hwrite).modeFor p, hget]
    cases files.reverse.lookup p with
    | some text => rfl
    | none =>
      rw [Option.none_or, FileTree.lookup_cons_eq]
      by_cases hp : p = f.1
      · rw [if_pos hp, if_pos hp, hp]
      · rw [if_neg hp, if_neg hp]
        rfl

/-! ## The last stage -/

/-- The last stage writes the files and then the aggregator. -/
theorem writeDraft_iff : (writeDraft request cs draft).Ends d d' (.ok report) ↔ ∃ d₁ u v,
    (writeFiles draft.files.length 0 (draft.files.map fun f => (f.1, f.2.code))).Ends d d₁ (.ok u) ∧
      (Disk.writeWhole draft.aggregator.1 draft.aggregator.2.code).Ends d₁ d' (.ok v) ∧
        report = { results := draft.files.map (·.2) ++ [draft.aggregator.2]
                   warnings := draft.warnings
                   aggregatorPath := draft.aggregator.2.path } := by
  rw [writeDraft, Task.ends_bind_ok_iff]
  constructor
  · rintro ⟨u, d₁, hfiles, h⟩
    obtain ⟨v, d₂, hlast, h⟩ := Task.ends_bind_ok_iff.mp h
    obtain ⟨_, _, ⟨rfl, -⟩, h⟩ := Task.ends_bind_ok_iff.mp h
    obtain ⟨rfl, hreport⟩ := Task.ends_pure_iff.mp h
    exact ⟨d₁, u, v, hfiles, hlast, (Except.ok.inj hreport).symm⟩
  · rintro ⟨d₁, u, v, hfiles, hlast, rfl⟩
    exact ⟨u, d₁, hfiles, hlast.bind (Task.Ends.bind ⟨rfl, rfl⟩ ⟨rfl, rfl⟩)⟩

/-- All files of a drafted package are source files. -/
theorem isSource_order (h : (Package.draft request cs).outcome = .ok draft) :
    ∀ f ∈ draft.order, IsSource f.1 := fun _ hf =>
  isSource_of_mem_targets (map_fst_order h ▸ List.mem_map_of_mem hf)

theorem isSource_files (h : ∀ f ∈ draft.order, IsSource f.1) :
    ∀ f ∈ draft.files.map fun f => (f.1, f.2.code), IsSource f.1 := fun f hf =>
  h f (by rw [order_eq]; exact List.mem_append_left _ hf)

/-- **The last stage goes through** just if every file of the package can be written. -/
theorem writeDraft_ok_iff (hdraft : ∀ f ∈ draft.order, IsSource f.1) :
    (∃ d' report, (writeDraft request cs draft).Ends d d' (.ok report)) ↔
      ∀ f ∈ draft.order, d.Writable f.1 := by
  have hfiles := isSource_files hdraft
  have hall : (∀ f ∈ draft.order, d.Writable f.1) ↔
      (∀ f ∈ draft.files.map fun f => (f.1, f.2.code), d.Writable f.1) ∧
        d.Writable draft.aggregator.1 := by
    rw [order_eq, List.forall_mem_append, List.forall_mem_singleton]
  rw [hall, ← writeFiles_ok_iff draft.files.length 0 hfiles]
  constructor
  · rintro ⟨d', report, h⟩
    obtain ⟨d₁, u, v, hwrite, hlast, -⟩ := writeDraft_iff.mp h
    exact ⟨⟨d₁, u, hwrite⟩,
      (writable_of_writeFiles hfiles hwrite).mp ((writeWhole_ok_iff _).mp ⟨d', v, hlast⟩)⟩
  · rintro ⟨⟨d₁, u, hwrite⟩, hlast⟩
    obtain ⟨d', v, hlast⟩ := (writeWhole_ok_iff draft.aggregator.2.code).mpr
      ((writable_of_writeFiles hfiles hwrite).mpr hlast)
    exact ⟨d', _, writeDraft_iff.mpr ⟨d₁, u, v, hwrite, hlast, rfl⟩⟩

/-- The last stage makes no difference to which files can be written. -/
theorem writable_of_writeDraft {p : Path} (hdraft : ∀ f ∈ draft.order, IsSource f.1)
    (h : (writeDraft request cs draft).Ends d d' (.ok report)) : d'.Writable p ↔ d.Writable p := by
  obtain ⟨d₁, u, v, hwrite, hlast, -⟩ := writeDraft_iff.mp h
  have hagg : IsSource draft.aggregator.1 :=
    hdraft (draft.aggregator.1, draft.aggregator.2.code) (by rw [order_eq]; simp)
  exact (writable_of_writeWhole hagg hlast).trans
    (writable_of_writeFiles (isSource_files hdraft) hwrite)

/-- What a package leaves at a path: nothing else, and of its files there the last one. -/
theorem get?_of_writeDraft (h : (writeDraft request cs draft).Ends d d' (.ok report)) (p : Path) :
    d'.tree.get? p = match draft.order.reverse.lookup p with
      | some text => some (.file (d.modeFor p) text)
      | none => d.tree.get? p := by
  obtain ⟨d₁, u, v, hwrite, hlast, -⟩ := writeDraft_iff.mp h
  obtain ⟨-, -, hget⟩ := Disk.ends_writeWhole_ok hlast
  rw [order_eq, List.reverse_append, List.reverse_singleton, List.singleton_append,
    FileTree.lookup_cons_eq, hget, (ends_writeFiles_rewritten hwrite).modeFor]
  by_cases hp : p = draft.aggregator.1
  · rw [if_pos hp, if_pos hp, hp]
  · rw [if_neg hp, if_neg hp]
    exact get?_of_writeFiles hwrite p

/-! ## The whole run -/

/-- **A run succeeds** just if it goes through its stages: planning, removing the old aggregator,
drafting, and writing. -/
theorem generate_stages_iff : (generate request).Ends d d' (.ok report) ↔ ∃ cs d₁ draft,
    planning request = .ok cs ∧
      (removeAggregator (aggregatorPath request.directory)).Ends d d₁ (.ok ()) ∧
      (Package.draft request cs).outcome = .ok draft ∧
      (writeDraft request cs draft).Ends d₁ d' (.ok report) := by
  refine ⟨ends_generate_ok, ?_⟩
  rintro ⟨cs, d₁, draft, hcs, hremove, hdraft, hwrite⟩
  unfold planning at hcs
  obtain ⟨cs, hemitted, hplan⟩ := except_bind_eq_ok_iff.mp hcs
  obtain ⟨planned, hplan, hcs⟩ := except_bind_eq_ok_iff.mp hplan
  cases hcs
  unfold generate
  refine Task.Ends.bind ⟨rfl, hemitted⟩ (Task.Ends.bind ⟨rfl, rfl⟩ ?_)
  refine Task.ends_bind_ok_iff.mpr
    ⟨(), d, Task.ends_discard_ok_iff.mpr ⟨planned, rfl, hplan⟩, ?_⟩
  exact hremove.bind (Task.Ends.bind ⟨rfl, hdraft⟩ hwrite)

/-- **When a run succeeds**, in terms of the disk before its files are written. -/
theorem generate_ok_iff : (∃ d' report, (generate request).Ends d d' (.ok report)) ↔
    ∃ cs d₁ draft, planning request = .ok cs ∧
      (removeAggregator (aggregatorPath request.directory)).Ends d d₁ (.ok ()) ∧
      (Package.draft request cs).outcome = .ok draft ∧ ∀ p ∈ targets request cs, d₁.Writable p := by
  have hwritten : ∀ {cs draft d₁}, (Package.draft request cs).outcome = .ok draft →
      ((∃ d' report, (writeDraft request cs draft).Ends d₁ d' (.ok report)) ↔
        ∀ p ∈ targets request cs, d₁.Writable p) := fun {cs draft d₁} hdraft => by
    rw [writeDraft_ok_iff (isSource_order hdraft), ← map_fst_order hdraft, List.forall_mem_map]
  constructor
  · rintro ⟨d', report, h⟩
    obtain ⟨cs, d₁, draft, hcs, hremove, hdraft, hwrite⟩ := generate_stages_iff.mp h
    exact ⟨cs, d₁, draft, hcs, hremove, hdraft, (hwritten hdraft).mp ⟨d', report, hwrite⟩⟩
  · rintro ⟨cs, d₁, draft, hcs, hremove, hdraft, hall⟩
    obtain ⟨d', report, hwrite⟩ := (hwritten hdraft).mpr hall
    exact ⟨d', report, generate_stages_iff.mpr ⟨cs, d₁, draft, hcs, hremove, hdraft, hwrite⟩⟩

end SchemaModels.Package
