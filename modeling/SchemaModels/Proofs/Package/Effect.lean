import SchemaModels.Proofs.Package.Modes
import SchemaModels.Proofs.Package.References
import SchemaModels.Proofs.Package.Warnings

/-!
# What a successful run leaves

`Completed` lists what a run has done when it succeeds: each file of the package has its text, which
for a collection is that of its module built on its own (`ModelModule.code`), everything else is as
it was, and the report names the files. `completed_of_wrote` has it from the stages of a run, with
`Wrote` for the loop over the files, and `generate_completed` of every run; its warnings are those
in the log.
-/

namespace SchemaModels

open Files (Path Disk)

/-- The text of the file that a path leads to. -/
def Files.Disk.text? (d : Disk) (p : Path) : Option String :=
  match d.tree.get? p with
  | some (.file _ text) => some text
  | _ => none

namespace Package

variable {request : Request} {cs : List Collection} {r : Resolver} {d d₁ d' : Disk}
  {report : RunReport} {draft : Draft} {drafted : List Drafted} {geoPoint : ModelModule}

theorem text?_file {p : Path} {mode : Nat} {text : String}
    (h : d.tree.get? p = some (.file mode text)) : d.text? p = some text := by
  unfold Disk.text?
  rw [h]

/-- A new resolver over the mappings of a run. -/
def newResolver (request : Request) (emitted : List Collection) : Except Fault Resolver :=
  Resolver.make request.mappings (names request.collections) (names emitted) request.strict

/-- **What a run has done** when it succeeds with a report. -/
structure Completed (request : Request) (cs : List Collection) (r : Resolver) (d d' : Disk)
    (report : RunReport) : Prop where
  modules : ∀ c ∈ cs, ∃ name text, c.name = .text name ∧
    (ModelModule.code c (some r)).outcome = .ok text ∧
      d'.text? (modulePath request.directory (Naming.moduleName name)) = some text
  geoPoint : ∃ m text, ModelModule.geoPoint = .ok m ∧ m.render = .ok text ∧
    d'.text? (modulePath request.directory FixedModule.geoPoint.name) = some text
  aggregator : ∃ modules m,
    List.Forall₂ (fun c m => ∃ ws, (ModelModule.build c (some r)).outcome = .ok (m, ws))
      cs modules ∧
      ModelModule.geoPoint = .ok m ∧ d'.text? (aggregatorPath request.directory) =
        some (aggregatorText (planExports (modules ++ [m])).1)
  other : ∀ q, q ∉ targets request cs → d'.tree.get? q = d.tree.get? q
  temporary : ∀ p n, d'.tree.get? (Disk.temporary p n) = d.tree.get? (Disk.temporary p n)
  paths : report.filePaths = (targets request cs).map fun p => some (Path.text p)
  distinct : report.filePaths.Nodup

/-! ## The report -/

/-- The report has the written files in order. -/
theorem results_of_writeDraft (h : (writeDraft request cs draft).Ends d d' (.ok report)) :
    report.results = (draft.files ++ [draft.aggregator]).map (·.2) := by
  unfold writeDraft at h
  obtain ⟨_, _, -, h⟩ := Task.ends_bind_ok_iff.mp h
  obtain ⟨_, _, -, h⟩ := Task.ends_bind_ok_iff.mp h
  obtain ⟨_, _, -, -, h⟩ := Task.ends_bind_ok_iff.mp h
  rw [← Except.ok.inj h, List.map_append]
  rfl

/-- Every file of a drafted package says where it goes. -/
theorem path_of_drafted (h : DraftedFrom request cs r drafted geoPoint draft) :
    ∀ f ∈ draft.files ++ [draft.aggregator], f.2.path = some (Path.text f.1) := by
  intro f hf
  obtain ⟨code, -, hfiles⟩ := h.files
  rw [hfiles, h.aggregator, List.mem_append, List.mem_append, List.mem_singleton,
    List.mem_singleton] at hf
  rcases hf with (hf | rfl) | rfl
  · obtain ⟨dr, hdr, rfl⟩ := List.mem_map.mp hf
    obtain ⟨c, -, -, _, -, hfile⟩ := exists_left_of_forall₂ h.modules hdr
    rw [hfile]
    rfl
  · rfl
  · rfl

theorem filePaths_of_drafted (h : DraftedFrom request cs r drafted geoPoint draft)
    (hdraft : (Package.draft request cs).outcome = .ok draft)
    (hwrite : (writeDraft request cs draft).Ends d d' (.ok report)) :
    report.filePaths = (targets request cs).map fun p => some (Path.text p) := by
  unfold RunReport.filePaths
  rw [results_of_writeDraft hwrite, ← map_fst_order hdraft, List.map_map]
  unfold Draft.order
  rw [List.map_map, List.map_map]
  exact List.map_congr_left (path_of_drafted h)

/-- The paths in a report are all different. -/
theorem nodup_texts (hs : Slashless request) (hcs : planning request = .ok cs) :
    ((targets request cs).map fun p => some (Path.text p)).Nodup := by
  have hnodup := targets_nodup hs hcs
  rw [targets_eq hs hcs] at hnodup ⊢
  refine List.Nodup.map_on ?_ hnodup
  intro p hp q hq heq
  obtain ⟨m, -, rfl⟩ := List.mem_map.mp hp
  obtain ⟨n, -, rfl⟩ := List.mem_map.mp hq
  rw [Path.text_snoc_injective (Option.some.inj heq)]

/-! ## The files -/

/-- A file of the package holds its text once all files are written. -/
theorem text?_of_wrote (hwrote : Wrote d₁ d' draft.order) {f : Path × Written}
    (hf : f ∈ draft.files ++ [draft.aggregator]) : d'.text? f.1 = some f.2.code :=
  text?_file (hwrote.holds (f.1, f.2.code) (List.mem_map.mpr ⟨f, hf, rfl⟩))

/-- A collection's file holds the text that its module has on its own. -/
theorem module_of_wrote (h : DraftedFrom request cs r drafted geoPoint draft)
    (hwrote : Wrote d₁ d' draft.order) {c : Collection} (hc : c ∈ cs) :
    ∃ name text, c.name = .text name ∧ (ModelModule.code c (some r)).outcome = .ok text ∧
      d'.text? (modulePath request.directory (Naming.moduleName name)) = some text := by
  obtain ⟨dr, hdr, hdrafted⟩ := exists_right_of_forall₂ h.modules hc
  obtain ⟨name, hname, -, hpath⟩ := hdrafted.name
  obtain ⟨hbuild, code, hcode, hfile⟩ := hdrafted
  have htext : (ModelModule.code c (some r)).outcome = .ok code :=
    Logged.outcome_bind_eq_ok.mpr ⟨(dr.1.1, dr.2), hbuild, ofFault_eq_ok_iff.mpr hcode⟩
  obtain ⟨_, -, hfiles⟩ := h.files
  have hmem : dr.1.2 ∈ draft.files ++ [draft.aggregator] := by
    rw [hfiles]
    exact List.mem_append_left _ (List.mem_append_left _ (List.mem_map_of_mem hdr))
  have hholds := text?_of_wrote hwrote hmem
  rw [hpath, hfile] at hholds
  exact ⟨name, code, hname, htext, hholds⟩

/-- **The stages of a run complete it**: the old aggregator is removed, the package is drafted and
written. -/
theorem completed_of_wrote (hs : Slashless request) (hcs : planning request = .ok cs)
    (h : DraftedFrom request cs r drafted geoPoint draft)
    (hdraft : (Package.draft request cs).outcome = .ok draft)
    (hremoved : ∀ q, q ≠ aggregatorPath request.directory → d₁.tree.get? q = d.tree.get? q)
    (hwrote : Wrote d₁ d' draft.order)
    (hpaths : report.filePaths = (targets request cs).map fun p => some (Path.text p)) :
    Completed request cs r d d' report := by
  obtain ⟨geoCode, hgeoCode, hfiles⟩ := h.files
  have hother : ∀ q, q ∉ targets request cs → d'.tree.get? q = d.tree.get? q := by
    intro q hq
    rw [hwrote.other q (by rwa [map_fst_order hdraft]), hremoved q]
    rintro rfl
    exact hq (aggregatorPath_mem_targets cs)
  refine ⟨fun c hc => module_of_wrote h hwrote hc, ⟨geoPoint, geoCode, h.points, hgeoCode, ?_⟩,
    ⟨drafted.map (·.1.1), geoPoint, ?_, h.points, ?_⟩, hother,
    fun p n => hother _ (temporary_not_mem_targets hs hcs p n), hpaths, hpaths ▸ nodup_texts hs hcs⟩
  · have hmem : placed (modulePath request.directory geoPoint.name) geoCode geoPoint.isReadable
        .geoPoint none ∈ draft.files ++ [draft.aggregator] := by
      rw [hfiles]
      simp
    have hholds := text?_of_wrote hwrote hmem
    rwa [← geoPoint_name h.points]
  · rw [List.forall₂_map_right_iff]
    exact h.modules.imp fun c dr hdr => ⟨dr.2, hdr.1⟩
  · have hholds := text?_of_wrote hwrote (List.mem_append_right _ (List.mem_singleton_self _))
    rwa [h.aggregator] at hholds

/-- **A run that succeeds** has written each file of the package as a whole and changed nothing
else, has reported these files in order, and reports the warnings that it has logged. -/
theorem generate_completed (hs : Slashless request) (ht : d.tree.IsTree)
    (h : (generate request).Ends d d' (.ok report)) :
    ∃ cs r, planning request = .ok cs ∧ newResolver request cs = .ok r ∧
      Completed request cs r d d' report ∧
        report.warnings = Log.warnings ((generate request).run d).2.entries := by
  obtain ⟨cs, d₁, draft, hcs, hremove, hdraft, hwrite⟩ := ends_generate_ok h
  have hnodup : (draft.order.map (·.1)).Nodup := map_fst_order hdraft ▸ targets_nodup hs hcs
  obtain ⟨hwrote, -⟩ := ends_writeDraft_ok hnodup hwrite
  obtain ⟨r, drafted, geoPoint, hd⟩ := draft_eq_ok_iff.mp hdraft
  obtain ⟨-, hget⟩ := ends_removeAggregator_ok ht hremove (by simp [aggregatorPath])
  refine ⟨cs, r, hcs, hd.resolving, completed_of_wrote hs hcs hd hdraft (fun q hq => ?_) hwrote
    (filePaths_of_drafted hd hdraft hwrite), (reports_generate ⟨h.1, h.2, rfl⟩).symm⟩
  rw [hget, if_neg hq]

theorem generate_completed_private : ∃ report cs r, Slashless postsRun ∧ privateDisk.tree.IsTree ∧
    (generate postsRun).Ends privateDisk ((generate postsRun).run privateDisk).1 (.ok report) ∧
      newResolver postsRun cs = .ok r ∧
      Completed postsRun cs r privateDisk ((generate postsRun).run privateDisk).1 report ∧
        report.warnings = Log.warnings ((generate postsRun).run privateDisk).2.entries := by
  have hs : Slashless postsRun := by
    intro c hc s hname
    rw [List.mem_singleton.mp hc] at hname
    cases hname
    decide
  have ht : privateDisk.tree.IsTree := FileTree.isTree_of_entries (by decide)
  obtain ⟨report, hrun, -⟩ := privateDisk_run
  obtain ⟨cs, r, -, hr, hcompleted, hwarnings⟩ := generate_completed hs ht hrun
  exact ⟨report, cs, r, hs, ht, hrun, hr, hcompleted, hwarnings⟩

end Package

end SchemaModels
