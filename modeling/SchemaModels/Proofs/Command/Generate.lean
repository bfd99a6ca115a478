import SchemaModels.Command.Run
import SchemaModels.Proofs.Files.Directory
import SchemaModels.Proofs.Package.Format
import SchemaModels.Proofs.Package.Frame
import SchemaModels.Proofs.Package.Unmapped

/-!
# The generation of a run

The directory is created, the package generated and, if need be, formatted. Only the files are
concerned (`ends_generate_iff`). A generation that fails has not got as far as the formatting, so it
leaves what a failed package leaves, and new directories on the way to the package
(`produce_error_leaves`); one that succeeds has gone through all stages of the package
(`produce_ok`), and would succeed without any mappings as well (`produces_unmapped`).
-/

namespace SchemaModels.Command

open Files (Path Disk)
open Package (Request RunReport Draft Coherent Slashless planning targets writeDraft)

variable {s : Settings} {cs : List Collection} {ms : List Mapping} {layOut : String → String}
  {d d' : Disk}

/-- The package that is asked for. -/
def requested (s : Settings) (cs : List Collection) (ms : List Mapping) : Request where
  collections := cs
  mappings := ms
  directory := Path.below [] s.outputDirectory
  internalPrefix := s.internalPrefix
  strict := s.strictExpansions

/-- What follows the package. -/
def finish (layOut : String → String) (s : Settings) (report : RunReport) :
    Task Disk RunReport := do
  if s.formatOutput then Package.format layOut report
  pure report

/-- The generation, as far as files are concerned. -/
def produce (layOut : String → String) (s : Settings) (cs : List Collection) (ms : List Mapping) :
    Task Disk RunReport := do
  Disk.outputDirectory (requested s cs ms).directory
  let report ← Package.generate (requested s cs ms)
  finish layOut s report

theorem ends_generate_iff {h h' : Host} {o : Outcome RunReport} :
    (generate s cs ms).Ends h h' o ↔
      ∃ d', (produce h.layOut s cs ms).Ends h.disk d' o ∧ h' = { h with disk := d' } :=
  Task.ends_get_bind_iff.trans Task.ends_zoom_iff

/-! ## Failures -/

/-- **What is left at a path** when the generation fails: what a failed package leaves, or a new
directory on the way to it. -/
def Leaves (request : Request) (d d' : Disk) (q : Path) : Prop :=
  Package.Leaves request d d' q ∨
    (q <+: request.directory ∧ d.tree.get? q = none ∧ d'.tree.get? q = some .directory)

/-- A package that fails in an opened directory. -/
theorem leaves_of_opened {request : Request} {d₁ : Disk} {q : Path} (humask : d₁.umask = d.umask)
    (hopened : d.tree.Opened d₁.tree request.directory) (h : Package.Leaves request d₁ d' q) :
    Leaves request d d' q := by
  rcases hopened q with hsame | ⟨hq, hnone, hnew⟩
  · refine Or.inl ?_
    cases h with
    | kept same => exact .kept (same.trans hsame)
    | unaggregated path old gone => exact .unaggregated path (hsame ▸ old) gone
    | written cs draft planned drafted text file whole =>
      exact .written cs draft planned drafted text file
        (Package.modeFor_congr humask hsame ▸ whole)
  · cases h with
    | kept same => exact Or.inr ⟨hq, hnone, same.trans hnew⟩
    | unaggregated path old gone =>
      obtain ⟨mode, text, hold⟩ := old
      rw [hnew] at hold
      cases hold
    | written cs draft planned drafted text file whole =>
      -- neither a directory nor nothing at all has bits that a new file could take over
      have hmode : d₁.modeFor q = d.modeFor q := by
        unfold Disk.modeFor Disk.newMode
        rw [hnone, hnew, humask]
      exact Or.inl (.written cs draft planned drafted text file (hmode ▸ whole))

/-- What follows the package of a run fails nowhere. -/
theorem finish_ok (layOut : String → String) {report : RunReport}
    (h : (Package.generate (requested s cs ms)).Ends d d' (.ok report)) :
    ∃ d'', (finish layOut s report).Ends d' d'' (.ok report) := by
  have hclean : Path.IsClean (requested s cs ms).directory :=
    Path.isClean_below (List.forall_mem_nil _) _
  obtain ⟨d'', hformat⟩ := Package.format_ok layOut hclean h
  unfold finish
  by_cases hset : s.formatOutput = true
  · rw [if_pos hset]
    exact ⟨d'', hformat.bind ⟨rfl, rfl⟩⟩
  · rw [if_neg hset]
    exact ⟨d', rfl, rfl⟩

/-- **A generation that fails** leaves whole files only. -/
theorem produce_error_leaves {e : Failure}
    (h : (produce layOut s cs ms).Ends d d' (.error e)) (q : Path) :
    Leaves (requested s cs ms) d d' q := by
  rcases Task.ends_bind_error_iff.mp h with hdir | ⟨_, d₁, hdir, h⟩
  · obtain ⟨-, hopened⟩ := Disk.ends_outputDirectory hdir
    exact (hopened q).imp .kept id
  obtain ⟨humask, hopened⟩ := Disk.ends_outputDirectory hdir
  rcases Task.ends_bind_error_iff.mp h with hgenerate | ⟨report, d₂, hgenerate, h⟩
  · exact leaves_of_opened humask hopened (Package.generate_error_leaves hgenerate q)
  · obtain ⟨d₃, hok⟩ := finish_ok layOut hgenerate
    obtain ⟨-, houtcome⟩ := hok.unique h
    cases houtcome

/-! ## Successes -/

/-- **A generated package**: which files it has, and how the files on the disk compare with them. -/
structure Generated (request : Request) (emitted : List Collection) (draft : Draft) (d' : Disk) :
    Prop where
  planned : planning request = .ok emitted
  drafted : (Package.draft request emitted).outcome = .ok draft
  /-- There is a file for each collection, one for geographic points, and the aggregator. -/
  paths : draft.order.map (·.1) = targets request emitted
  /-- The last file at each path is there. -/
  latest : ∀ p text, draft.order.reverse.lookup p = some text → d'.text? p = some text
  /-- Every file is there just if no two that differ go to one path. -/
  all_iff : (∀ f ∈ draft.order, d'.text? f.1 = some f.2) ↔ Coherent draft.order
  slashless : Slashless request → Coherent draft.order

/-- **A generation that succeeds** and does not format leaves the package as it was drafted. -/
theorem produce_ok {report : RunReport} (hset : s.formatOutput = false)
    (h : (produce layOut s cs ms).Ends d d' (.ok report)) :
    ∃ emitted draft, Generated (requested s cs ms) emitted draft d' := by
  obtain ⟨_, d₁, -, h⟩ := Task.ends_bind_ok_iff.mp h
  obtain ⟨report', d₂, hgenerate, h⟩ := Task.ends_bind_ok_iff.mp h
  rw [finish, hset, if_neg Bool.false_ne_true] at h
  obtain ⟨rfl, -⟩ := Task.ends_pure_iff.mp h
  obtain ⟨emitted, d₃, draft, hemitted, -, hdraft, hwrite⟩ :=
    Package.generate_stages_iff.mp hgenerate
  exact ⟨emitted, draft, hemitted, hdraft, Package.map_fst_order hdraft,
    fun _ _ => Package.text?_of_writeDraft hwrite, Package.present_iff hwrite,
    fun hs => Package.coherent_of_slashless hs hemitted hdraft⟩

/-- The generation succeeds on a disk. -/
def Produces (d : Disk) (layOut : String → String) (s : Settings) (cs : List Collection)
    (ms : List Mapping) : Prop :=
  ∃ d' report, (produce layOut s cs ms).Ends d d' (.ok report)

/-- **A generation that succeeds with mappings succeeds without.** -/
theorem produces_unmapped (h : Produces d layOut s cs ms) : Produces d layOut s cs [] := by
  obtain ⟨d', report, h⟩ := h
  obtain ⟨u, d₁, hdir, h⟩ := Task.ends_bind_ok_iff.mp h
  obtain ⟨report, d₂, hgenerate, -⟩ := Task.ends_bind_ok_iff.mp h
  have hrequest : Package.unmapped (requested s cs ms) = requested s cs [] := rfl
  obtain ⟨d₂', report', hbare⟩ := Package.generate_unmapped ⟨d₂, report, hgenerate⟩
  rw [hrequest] at hbare
  obtain ⟨d₃, hfinish⟩ := finish_ok layOut hbare
  exact ⟨d₃, report', hdir.bind (Task.Ends.bind hbare hfinish)⟩

end SchemaModels.Command
