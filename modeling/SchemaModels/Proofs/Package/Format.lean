import SchemaModels.Package.Format
import SchemaModels.Proofs.Package.Effect
import SchemaModels.Proofs.Package.Success

/-!
# Formatting does not fail

The files that a run reports are formatted in place. They have just been written, so they can be
written again (`format_ok`), and their paths can be read off the texts in the report
(`Path.below_text`).
-/

namespace SchemaModels.Package

open Files (Path Disk)

variable {request : Request} {d d' : Disk} {report : RunReport} (layOut : String → String)

/-- The file says where it goes, and can be written there. -/
def Rewritable (d : Disk) (file : Written) : Prop :=
  ∃ p, file.path = some (Path.text p) ∧ Path.IsClean p ∧ IsSource p ∧ d.Writable p

theorem formatFile_ok {file : Written} (h : Rewritable d file) :
    ∃ d' changed, (formatFile layOut file).Ends d d' (.ok changed) ∧
      ∀ other, Rewritable d other → Rewritable d' other := by
  obtain ⟨p, hp, hclean, hsource, hwritable⟩ := h
  unfold formatFile
  simp only [hp, Option.getD_some, Path.below_text hclean]
  cases file.readable with
  | false => exact ⟨d, false, Task.Ends.bind ⟨rfl, rfl⟩ ⟨rfl, rfl⟩, fun _ hother => hother⟩
  | true =>
    obtain ⟨d', u, hwrite⟩ := (writeWhole_ok_iff (layOut file.code)).mpr hwritable
    refine ⟨d', true, Task.Ends.bind ⟨rfl, rfl⟩ (Task.Ends.bind hwrite ⟨rfl, rfl⟩), ?_⟩
    rintro other ⟨q, hq, hqclean, hqsource, hqwritable⟩
    exact ⟨q, hq, hqclean, hqsource, (writable_of_writeWhole hsource hwrite).mpr hqwritable⟩

theorem formatFiles_ok {files : List Written} (h : ∀ f ∈ files, Rewritable d f) :
    ∃ d' changed, (formatFiles layOut files).Ends d d' (.ok changed) := by
  induction files generalizing d with
  | nil => exact ⟨d, 0, rfl, rfl⟩
  | cons f files ih =>
    obtain ⟨hf, hfiles⟩ := List.forall_mem_cons.mp h
    obtain ⟨d₁, changed, hfirst, hkept⟩ := formatFile_ok layOut hf
    obtain ⟨d', others, hrest⟩ := ih fun g hg => hkept g (hfiles g hg)
    exact ⟨d', _, Task.Ends.bind hfirst (Task.Ends.bind hrest ⟨rfl, rfl⟩)⟩

/-- The paths of a package are clean if its directory is. -/
theorem isClean_of_mem_targets (h : Path.IsClean request.directory) {cs : List Collection}
    {p : Path}
    (hp : p ∈ targets request cs) : Path.IsClean p := by
  unfold targets at hp
  simp only [List.mem_append, List.mem_cons, List.not_mem_nil, or_false] at hp
  rcases hp with hp | rfl | rfl
  · obtain ⟨n, -, rfl⟩ := List.mem_map.mp hp
    exact Path.isClean_below h _
  · exact Path.isClean_below h _
  · exact List.forall_mem_append.mpr ⟨h, List.forall_mem_singleton.mpr (by decide)⟩

/-- **The files of a successful run can be formatted.** -/
theorem format_ok (hclean : Path.IsClean request.directory)
    (h : (generate request).Ends d d' (.ok report)) :
    ∃ d'', (format layOut report).Ends d' d'' (.ok ()) := by
  obtain ⟨cs, d₁, draft, hcs, -, hdraft, hwrite⟩ := generate_stages_iff.mp h
  obtain ⟨r, drafted, geoPoint, hd⟩ := draft_eq_ok_iff.mp hdraft
  have hfiles : ∀ f ∈ report.results, Rewritable d' f := by
    rw [results_of_writeDraft hwrite, List.forall_mem_map]
    intro f hf
    have hmem : f.1 ∈ targets request cs := by
      rw [← map_fst_order hdraft]
      unfold Draft.order
      rw [List.map_map]
      exact List.mem_map_of_mem hf
    refine ⟨f.1, path_of_drafted hd f hf, isClean_of_mem_targets hclean hmem,
      isSource_of_mem_targets hmem, (writable_of_writeDraft (isSource_order hdraft) hwrite).mpr ?_⟩
    have hall := (writeDraft_ok_iff (isSource_order hdraft)).mp ⟨d', report, hwrite⟩
    exact hall (f.1, f.2.code) (List.mem_map_of_mem hf)
  obtain ⟨d'', changed, hformat⟩ := formatFiles_ok layOut hfiles
  exact ⟨d'', Task.Ends.bind hformat (Task.Ends.bind ⟨rfl, rfl⟩ ⟨rfl, rfl⟩)⟩

end SchemaModels.Package
