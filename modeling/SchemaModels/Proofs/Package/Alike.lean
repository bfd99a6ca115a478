import SchemaModels.Proofs.Expansion.Exchange
import SchemaModels.Proofs.Package.Effect

/-!
# Runs side by side

Two requests are alike if they go to one directory, make modules for the same collections, and their
resolvers stand for each other on these. Then the modules, the package in memory and the whole run
are alike (`alike_draftModules`, `alike_draft`, `alike_generate`): on every disk both runs end with
the same disk, and they succeed with the same files or fail together.
-/

namespace SchemaModels

open Files (Disk)
open Logged (alike_pure)

variable {T : Tolerance} {a b : Package.Request} {cs : List Collection}

/-- Resolvers that stand for each other and have the same mappings for the given collections. -/
structure Resolver.AgreeOn (T : Tolerance) (cs : List Collection) (r s : Resolver) : Prop where
  exchangeable : Exchangeable T r s
  mappings : ∀ c ∈ cs, r.mappingsFor c.name = s.mappingsFor c.name

namespace Package

/-- **Requests that are alike**: for the same modules in the same place, with resolvers that agree
on them. -/
structure Request.Alike (T : Tolerance) (a b : Request) : Prop where
  directory : a.directory = b.directory
  emitted : emitted a = emitted b
  resolvers : ∀ cs, Package.emitted a = .ok cs →
    Outcome.Alike T (Resolver.AgreeOn T cs) (Outcome.ofFault (newResolver a cs))
      (Outcome.ofFault (newResolver b cs))

/-- Packages with the same files, whose warnings are tolerated. -/
structure Draft.Alike (T : Tolerance) (x y : Draft) : Prop where
  files : x.files = y.files
  aggregator : x.aggregator = y.aggregator
  warnings : T.Warnings x.warnings y.warnings

/-- Reports of the same files, whose warnings are tolerated. -/
structure RunReport.Alike (T : Tolerance) (x y : RunReport) : Prop where
  results : x.results = y.results
  aggregatorPath : x.aggregatorPath = y.aggregatorPath
  warnings : T.Warnings x.warnings y.warnings

/-- The modules of collections are built and written out alike. -/
theorem alike_draftModules {r s : Resolver} (h : r.AgreeOn T cs s) (directory : Files.Path) :
    Logged.Alike T T.Told (draftModules r directory cs) (draftModules s directory cs) := by
  induction cs with
  | nil => exact alike_pure ⟨rfl, Tolerance.warnings_nil⟩
  | cons c cs ih =>
    obtain ⟨hrs, hmappings⟩ := h
    obtain ⟨hc, hcs⟩ := List.forall_mem_cons.mp hmappings
    rw [draftModules, draftModules]
    refine (ModelModule.alike_build hrs hc).bind ?_
    rintro ⟨m, ws⟩ ⟨_, ws'⟩ ⟨rfl, hws⟩
    refine Logged.alike_bind_of_eq fun code => (ih ⟨hrs, hcs⟩).bind ?_
    rintro ⟨others, more⟩ ⟨_, more'⟩ ⟨rfl, hmore⟩
    exact alike_pure ⟨rfl, hws.append hmore⟩

/-- So is the package in memory. -/
theorem alike_draft (h : a.Alike T b) (hcs : emitted a = .ok cs) :
    Logged.Alike T (Draft.Alike T) (draft a cs) (draft b cs) := by
  have hresolver : Logged.Alike T (Resolver.AgreeOn T cs)
      (Logged.ofChecked (newResolver a cs)) (Logged.ofChecked (newResolver b cs)) :=
    ⟨Tolerance.warnings_nil, h.resolvers cs hcs⟩
  unfold draft
  rw [← h.directory]
  refine hresolver.bind fun r s hrs => (alike_draftModules hrs _).bind ?_
  rintro ⟨modules, ws⟩ ⟨_, ws'⟩ ⟨rfl, hws⟩
  refine Logged.alike_bind_of_eq fun geoPoint => Logged.alike_bind_of_eq fun code =>
    Logged.alike_bind_of_eq fun exported => alike_pure ⟨rfl, rfl, ?_⟩
  exact hws.append (Tolerance.warnings_refl _)

/-- And so is its last stage, the writing. -/
theorem alike_writeDraft (cs : List Collection) {x y : Draft} (h : x.Alike T y)
    (hdirectory : a.directory = b.directory) :
    Task.Alike T (RunReport.Alike T) (writeDraft a cs x) (writeDraft b cs y) := by
  unfold writeDraft
  rw [← h.files, ← h.aggregator, ← hdirectory]
  exact Task.alike_bind_of_eq fun _ => Task.alike_bind_of_eq fun _ => Task.alike_bind_of_eq fun _ =>
    Task.alike_pure ⟨rfl, rfl, h.warnings⟩

/-- **Runs of alike requests are alike.** -/
theorem alike_generate (h : a.Alike T b) :
    Task.Alike T (RunReport.Alike T) (generate a) (generate b) := by
  unfold generate
  rw [← h.directory, ← h.emitted]
  have hemitted : Task.Alike T (fun cs cs' => cs = cs' ∧ emitted a = .ok cs)
      (Task.lift (Logged.ofChecked (emitted a)) : Task Disk _)
      (Task.lift (Logged.ofChecked (emitted a))) := by
    refine Task.alike_lift ⟨Tolerance.warnings_nil, ?_⟩
    cases emitted a with
    | ok cs => exact ⟨rfl, rfl⟩
    | error f => exact T.failure_refl _
  refine hemitted.bind ?_
  rintro cs _ ⟨rfl, hcs⟩
  -- the number of collections without a module may differ, and is told in a note
  refine (Task.alike_lift (Logged.alike_note Log.Level.info_ne_warning _ _)).bind fun _ _ _ =>
    Task.alike_bind_of_eq fun _ => Task.alike_bind_of_eq fun _ =>
      (Task.alike_lift (alike_draft h hcs)).bind fun x y hxy => ?_
  have hwrite := alike_writeDraft cs hxy h.directory
  unfold writeDraft at hwrite
  rw [← h.directory] at hwrite
  exact hwrite

end Package

end SchemaModels
