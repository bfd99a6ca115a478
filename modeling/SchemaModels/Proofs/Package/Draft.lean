import SchemaModels.Package.Generate
import SchemaModels.Proofs.Module.Build

/-!
# What a package in memory is made of

`draft_eq_ok_iff` inverts `Package.draft`: a package is drafted iff the module of every collection
can be built and written out, one after the other, with the module of geographic points after them;
`DraftedFrom` names its parts. `order` is the order in which the files are written, and
`map_fst_order` says which paths these are: the modules in input order, the geographic points, the
aggregator.
-/

namespace SchemaModels.Package

open Files (Path)
open ModelModule (BuiltFrom)

/-! ## Modules -/

/-- A module with its file, and the warnings about it. -/
abbrev Drafted := (ModelModule × Path × Written) × List String

/-- The module of a collection is built, and its text written for the place of its name. -/
def DraftedAs (resolver : Resolver) (directory : Path) (c : Collection) (d : Drafted) : Prop :=
  (ModelModule.build c (some resolver)).outcome = .ok (d.1.1, d.2) ∧
    ∃ code, d.1.1.render = .ok code ∧
      d.1.2 = placed (modulePath directory d.1.1.name) code d.1.1.isReadable .model
        (some c.name.display)

theorem draftModules_eq_ok_iff {resolver : Resolver} {directory : Path} {cs : List Collection}
    {files : List (ModelModule × Path × Written)} {warnings : List String} :
    (draftModules resolver directory cs).outcome = .ok (files, warnings) ↔
      ∃ drafted : List Drafted, List.Forall₂ (DraftedAs resolver directory) cs drafted ∧
        files = drafted.map (·.1) ∧ warnings = drafted.flatMap (·.2) := by
  induction cs generalizing files warnings with
  | nil =>
    rw [draftModules, Logged.outcome_pure]
    constructor
    · intro h
      cases h
      exact ⟨[], List.Forall₂.nil, rfl, rfl⟩
    · rintro ⟨drafted, hd, rfl, rfl⟩
      cases hd
      rfl
  | cons c cs ih =>
    rw [draftModules, Logged.outcome_bind_eq_ok]
    constructor
    · rintro ⟨⟨m, ws⟩, hbuild, h⟩
      obtain ⟨code, hcode, h⟩ := Logged.outcome_bind_eq_ok.mp h
      obtain ⟨⟨others, more⟩, hrest, h⟩ := Logged.outcome_bind_eq_ok.mp h
      obtain ⟨drafted, hd, rfl, rfl⟩ := ih.mp hrest
      cases h
      exact ⟨((m, _), ws) :: drafted,
        List.Forall₂.cons ⟨hbuild, code, ofFault_eq_ok_iff.mp hcode, rfl⟩ hd, rfl, rfl⟩
    · rintro ⟨drafted, hd, rfl, rfl⟩
      cases hd with
      | @cons _ d _ drafted hc hcs =>
        obtain ⟨⟨m, file⟩, ws⟩ := d
        obtain ⟨hbuild, code, hcode, hfile⟩ := hc
        simp only at hbuild hcode hfile
        subst hfile
        exact ⟨(m, ws), hbuild, Logged.outcome_bind_eq_ok.mpr ⟨code, ofFault_eq_ok_iff.mpr hcode,
          Logged.outcome_bind_eq_ok.mpr ⟨_, ih.mpr ⟨drafted, hcs, rfl, rfl⟩, rfl⟩⟩⟩

/-! ## The aggregator -/

theorem outcome_notes (level : Log.Level) (ms : List String) :
    (ms.forM fun m => Logged.note level m).outcome = .ok () := by
  induction ms with
  | nil => rfl
  | cons m ms ih => exact ih

theorem outcome_exports (modules : List ModelModule) :
    (exports modules).outcome = .ok (planExports modules) := by
  unfold exports
  simp only [Logged.outcome_bind_eq_ok]
  exact ⟨(), outcome_notes .warning _, rfl⟩

/-! ## The package -/

/-- **The parts of a package in memory**: the modules of the collections and of geographic points,
with their files, and the aggregator over all of them. -/
structure DraftedFrom (request : Request) (emitted : List Collection) (resolver : Resolver)
    (drafted : List Drafted) (geoPoint : ModelModule) (draft : Draft) : Prop where
  resolving : Resolver.make request.mappings (names request.collections) (names emitted)
    request.strict = .ok resolver
  modules : List.Forall₂ (DraftedAs resolver request.directory) emitted drafted
  points : ModelModule.geoPoint = .ok geoPoint
  files : ∃ code, geoPoint.render = .ok code ∧ draft.files = drafted.map (·.1.2) ++
    [placed (modulePath request.directory geoPoint.name) code geoPoint.isReadable .geoPoint none]
  aggregator : draft.aggregator = placed (aggregatorPath request.directory)
    (aggregatorText (planExports (drafted.map (·.1.1) ++ [geoPoint])).1)
    (isReadable (planExports (drafted.map (·.1.1) ++ [geoPoint])).1) .aggregator none
  warnings : draft.warnings = drafted.flatMap (·.2) ++
    (planExports (drafted.map (·.1.1) ++ [geoPoint])).2

/-- **A package is drafted** iff it has its parts. -/
theorem draft_eq_ok_iff {request : Request} {emitted : List Collection} {draft : Draft} :
    (Package.draft request emitted).outcome = .ok draft ↔ ∃ resolver drafted geoPoint,
      DraftedFrom request emitted resolver drafted geoPoint draft := by
  unfold Package.draft
  simp only [Logged.outcome_bind_eq_ok, Logged.outcome_ofChecked, ofFault_eq_ok_iff,
    outcome_exports, Logged.outcome_pure]
  constructor
  · rintro ⟨resolver, hr, ⟨modules, ws⟩, hm, geoPoint, hg, code, hcode, ⟨es, ews⟩, he, h⟩
    obtain ⟨drafted, hd, rfl, rfl⟩ := draftModules_eq_ok_iff.mp hm
    simp only [Except.ok.injEq] at he h
    subst h
    refine ⟨resolver, drafted, geoPoint, hr, hd, hg, ⟨code, hcode, ?_⟩, ?_, ?_⟩
    · simp
    · simp only [List.map_map] at he
      have he' : planExports (drafted.map (·.1.1) ++ [geoPoint]) = (es, ews) := he
      rw [he']
    · simp only [List.map_map] at he
      have he' : planExports (drafted.map (·.1.1) ++ [geoPoint]) = (es, ews) := he
      rw [he']
  · rintro ⟨resolver, drafted, geoPoint, h⟩
    obtain ⟨code, hcode, hfiles⟩ := h.files
    refine ⟨resolver, h.resolving, _, draftModules_eq_ok_iff.mpr ⟨drafted, h.modules, rfl, rfl⟩,
      geoPoint, h.points, code, hcode, _, rfl, ?_⟩
    have hagg := h.aggregator
    have hwarn := h.warnings
    obtain ⟨files, aggregator, warnings⟩ := draft
    simp only at hfiles hagg hwarn
    subst hfiles hagg hwarn
    simp only [List.map_map]
    rfl

/-! ## The order of the files -/

/-- The files of a package in the order in which they are written: each with its text. -/
def Draft.order (d : Draft) : List (Path × String) :=
  (d.files ++ [d.aggregator]).map fun f => (f.1, f.2.code)

/-- The paths that a package with modules for the given collections is written to: the modules in
input order, the geographic points, the aggregator. -/
def targets (request : Request) (emitted : List Collection) : List Path :=
  (names emitted).map (fun n => modulePath request.directory (Naming.moduleName n)) ++
    [modulePath request.directory FixedModule.geoPoint.name, aggregatorPath request.directory]

theorem geoPoint_name {m : ModelModule} (h : ModelModule.geoPoint = .ok m) :
    m.name = FixedModule.geoPoint.name := by
  unfold ModelModule.geoPoint at h
  obtain ⟨imports, -, h⟩ := except_bind_eq_ok_iff.mp h
  cases h
  rfl

theorem DraftedAs.name {resolver : Resolver} {directory : Path} {c : Collection} {d : Drafted}
    (h : DraftedAs resolver directory c d) :
    ∃ name, c.name = .text name ∧ d.1.1.name = Naming.moduleName name ∧
      d.1.2.1 = modulePath directory (Naming.moduleName name) := by
  obtain ⟨hbuild, code, -, hfile⟩ := h
  obtain ⟨name, fieldMembers, hb⟩ := ModelModule.build_eq_ok_iff.mp hbuild
  refine ⟨name, hb.collection, hb.module_name, ?_⟩
  rw [hfile, ← hb.module_name]
  rfl

theorem names_cons {c : Collection} {name : String} (h : c.name = .text name)
    (cs : List Collection) : names (c :: cs) = name :: names cs := by
  unfold names
  rw [List.filterMap_cons_some]
  rw [h]

/-- The modules have the names and the places that their collections give them. -/
theorem map_drafted {resolver : Resolver} {directory : Path} {cs : List Collection}
    {drafted : List Drafted} (h : List.Forall₂ (DraftedAs resolver directory) cs drafted) :
    drafted.map (fun d => (d.1.1.name, d.1.2.1)) = (names cs).map fun n =>
      (Naming.moduleName n, modulePath directory (Naming.moduleName n)) := by
  induction h with
  | nil => rfl
  | @cons c d cs ds hc _ ih =>
    obtain ⟨name, hname, hmodule, hpath⟩ := hc.name
    rw [names_cons hname, List.map_cons, List.map_cons, hmodule, hpath, ih]

theorem map_path_drafted {resolver : Resolver} {directory : Path} {cs : List Collection}
    {drafted : List Drafted} (h : List.Forall₂ (DraftedAs resolver directory) cs drafted) :
    drafted.map (·.1.2.1) =
      (names cs).map fun n => modulePath directory (Naming.moduleName n) := by
  have hpaths := congrArg (List.map Prod.snd) (map_drafted h)
  rwa [List.map_map, List.map_map] at hpaths

theorem map_name_drafted {resolver : Resolver} {directory : Path} {cs : List Collection}
    {drafted : List Drafted} (h : List.Forall₂ (DraftedAs resolver directory) cs drafted) :
    drafted.map (·.1.1.name) = (names cs).map Naming.moduleName := by
  have hnames := congrArg (List.map Prod.fst) (map_drafted h)
  rwa [List.map_map, List.map_map] at hnames

/-- **The paths of the files** of a package, in the order in which they are written. -/
theorem map_fst_order {request : Request} {emitted : List Collection} {draft : Draft}
    (h : (Package.draft request emitted).outcome = .ok draft) :
    draft.order.map (·.1) = targets request emitted := by
  obtain ⟨resolver, drafted, geoPoint, hd⟩ := draft_eq_ok_iff.mp h
  obtain ⟨code, -, hfiles⟩ := hd.files
  unfold Draft.order targets
  rw [hfiles, hd.aggregator, ← map_path_drafted hd.modules, ← geoPoint_name hd.points]
  simp [placed]

end SchemaModels.Package
