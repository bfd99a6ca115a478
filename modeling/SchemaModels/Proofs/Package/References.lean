import SchemaModels.Proofs.Module.Closure
import SchemaModels.Proofs.Package.Run

/-!
# A package has what it refers to

`Closed` says that the references of a written package are closed: every name that the text of a
module refers to is built in, imported or defined there, and every name that a module or the
aggregator imports from the package is a class of one of its modules. `generate_closed`: every run
that succeeds leaves such a package, if it records no related collection without a model. Strict
runs record none.

Class names of collections come from texts of ASCII letters, digits and underscores here, the names
that a server gives to collections; fields and values are called as they like.
-/

namespace SchemaModels.Package

open Files (Path Disk)
open ModelModule (Anchored BuiltFrom Provided)
open Source (Statement)
open Source.Hint (Plain)
open Text (IsWordly)

variable {request : Request} {d d' d'' : Disk} {report : RunReport}

/-- The text of the module defines the class. -/
def Defines (m : ModelModule) (n : String) : Prop :=
  ∃ ss, m.statements = .ok ss ∧ n ∈ ss.flatMap Statement.classes

/-- **The references of a written package are closed.** -/
structure Closed (request : Request) (d : Disk) (modules : List ModelModule) (exports : Exports) :
    Prop where
  /-- The files of the modules hold their texts. -/
  files : ∀ m ∈ modules, ∃ ss mode, m.statements = .ok ss ∧
    d.tree.get? (modulePath request.directory m.name) =
      some (.file mode (Statement.source ss ++ "\n"))
  /-- The aggregator imports the exports. -/
  aggregator : ∃ mode, d.tree.get? (aggregatorPath request.directory) =
    some (.file mode (aggregatorText exports))
  /-- A module has the names that its text refers to. -/
  names : ∀ m ∈ modules, ∀ ss, m.statements = .ok ss → ∀ n ∈ ss.flatMap Statement.uses,
    Provided ss n
  /-- What a module imports from the package is a class of a module next to it. -/
  imports : ∀ m ∈ modules, ∀ ss, m.statements = .ok ss → ∀ level module? ns,
    Statement.importNames (level + 1) module? ns ∈ ss → ∀ n ∈ ns, level = 0 ∧
      ∃ m' ∈ modules, module? = some m'.name ∧ Defines m' n
  /-- What the aggregator imports is a class of a module. -/
  exported : ∀ e ∈ exports, ∃ m ∈ modules, e.1 = m.name ∧ ∀ n ∈ e.2, Defines m n

/-- The names of collections are made of ASCII letters, digits and underscores. -/
def Wordly (request : Request) : Prop :=
  ∀ c ∈ request.collections, ∀ s, c.name = .text s → ∀ ch ∈ s.toList, IsWordly ch

/-- The run refuses every related collection without a model, or has met none. -/
def Resolved (request : Request) (report : RunReport) : Prop :=
  request.strict = true ∨
    ∀ r : Resolver, ∀ m ∈ request.mappings, r.targetWarning m ∉ report.warnings

/-! ## Files -/

theorem Wordly.slashless (h : Wordly request) : Slashless request := by
  intro c hc s hs hmem
  exact absurd (h c hc s hs '/' hmem) (by decide)

/-- The last stage writes all files, and reports what was recorded before. -/
theorem ends_writeDraft_ok {cs : List Collection} {draft : Draft}
    (hnodup : (draft.order.map (·.1)).Nodup)
    (h : (writeDraft request cs draft).Ends d d' (.ok report)) :
    Wrote d d' draft.order ∧ report.warnings = draft.warnings := by
  have horder : draft.order = draft.files.map (fun f => (f.1, f.2.code)) ++
      [(draft.aggregator.1, draft.aggregator.2.code)] := by
    unfold Draft.order
    rw [List.map_append]
    rfl
  rw [horder] at hnodup ⊢
  have hfiles : ((draft.files.map fun f => (f.1, f.2.code)).map (·.1)).Nodup := by
    rw [List.map_append] at hnodup
    exact (List.nodup_append.mp hnodup).1
  unfold writeDraft at h
  obtain ⟨_, d₁, hwrite, h⟩ := Task.ends_bind_ok_iff.mp h
  obtain ⟨_, d₂, hlast, h⟩ := Task.ends_bind_ok_iff.mp h
  obtain ⟨_, d₃, hnote, h⟩ := Task.ends_bind_ok_iff.mp h
  have hreport := Task.ends_pure_iff.mp h
  have hsame : d₂ = d₃ := hnote.1
  rw [hsame, hreport.1] at hlast
  have hwarnings := congrArg RunReport.warnings (Except.ok.inj hreport.2)
  exact ⟨(ends_writeFiles_ok hfiles hwrite).append (wrote_of_ends_writeWhole hlast) hnodup,
    hwarnings.symm⟩

/-! ## The module of geographic points -/

/-- A statement that imports names from the package. -/
def importsFromPackage : Statement → Bool
  | .importNames (_ + 1) _ _ => true
  | _ => false

/-- What the module of geographic points refers to and defines. -/
theorem geoPoint_closed : ∃ m ss, ModelModule.geoPoint = .ok m ∧ m.statements = .ok ss ∧
    (∀ n ∈ ss.flatMap Statement.uses, Provided ss n) ∧
      (∀ s ∈ ss, importsFromPackage s = false) ∧ "GeoPointData" ∈ ss.flatMap Statement.classes := by
  have hchecked : (ModelModule.geoPoint.toOption.bind fun m => m.statements.toOption.map fun ss =>
      decide ((∀ n ∈ ss.flatMap Statement.uses, Provided ss n) ∧
        (∀ s ∈ ss, importsFromPackage s = false) ∧
          "GeoPointData" ∈ ss.flatMap Statement.classes)) = some true := by
    decide +kernel
  cases hm : ModelModule.geoPoint with
  | error e =>
    rw [hm] at hchecked
    cases hchecked
  | ok m =>
    rw [hm] at hchecked
    obtain ⟨ss, hss, hclosed⟩ := Option.map_eq_some_iff.mp hchecked
    refine ⟨m, ss, rfl, ?_, of_decide_eq_true hclosed⟩
    cases hstatements : m.statements with
    | error e =>
      rw [hstatements] at hss
      cases hss
    | ok ss' =>
      rw [hstatements] at hss
      rw [Option.some.inj hss]

/-! ## Related classes -/

variable {cs : List Collection} {resolver : Resolver} {drafted : List Drafted}
  {geoPoint : ModelModule} {draft : Draft}

/-- The resolver of a run knows its mappings and the collections that get a module. -/
theorem resolver_of_drafted (h : DraftedFrom request cs resolver drafted geoPoint draft) :
    resolver.mappings = request.mappings ∧ resolver.emitted = names cs ∧
      resolver.strict = request.strict := by
  have hmake := h.resolving
  unfold Resolver.make at hmake
  obtain ⟨_, -, hmake⟩ := except_bind_eq_ok_iff.mp hmake
  rw [Except.ok.injEq] at hmake
  rw [← hmake]
  exact ⟨rfl, rfl, rfl⟩

theorem built_of_drafted {c : Collection} {m : ModelModule} {p : Path} {w : Written}
    {ws : List String} (h : DraftedAs resolver request.directory c ((m, p, w), ws)) :
    (∃ name fieldMembers, BuiltFrom c (some resolver) name fieldMembers m ws) ∧
      ∃ ss, m.statements = .ok ss ∧ p = modulePath request.directory m.name ∧
        w.code = Statement.source ss ++ "\n" := by
  obtain ⟨hbuild, code, hcode, hfile⟩ := h
  refine ⟨ModelModule.build_eq_ok_iff.mp hbuild, ?_⟩
  unfold ModelModule.render at hcode
  obtain ⟨ss, hss, rfl⟩ := except_map_eq_ok_iff.mp hcode
  obtain ⟨hpath, hwritten⟩ := Prod.mk.inj hfile
  exact ⟨ss, hss, hpath, by rw [hwritten]⟩

/-- The class of an emitted collection is a plain name, defined in the collection's module. -/
theorem class_of_emitted (hw : Wordly request) (hcs : emitted request = .ok cs)
    (h : DraftedFrom request cs resolver drafted geoPoint draft) {target : String}
    (htarget : target ∈ names cs) : Plain (Naming.typeName target Naming.dataSuffix) ∧
      ∃ m ∈ drafted.map (·.1.1), m.name = Naming.moduleName target ∧
        Defines m (Naming.typeName target Naming.dataSuffix) := by
  unfold names at htarget
  obtain ⟨c, hc, hname⟩ := List.mem_filterMap.mp htarget
  have hname' : c.name = .text target := by
    revert hname
    cases c.name <;> simp
  obtain ⟨⟨⟨m, p, w⟩, ws⟩, hd, hdrafted⟩ := exists_right_of_forall₂ h.modules hc
  obtain ⟨⟨name, fieldMembers, hbuilt⟩, ss, hss, -, -⟩ := built_of_drafted hdrafted
  have hsame : name = target := by
    have hcollection := hbuilt.collection
    rw [hname', Json.text.injEq] at hcollection
    exact hcollection.symm
  rw [hsame] at hbuilt
  have hclass : m.dataClass.name = Naming.typeName target Naming.dataSuffix := by
    rw [hbuilt.data_class]
  have hwordly := hw c (mem_of_emitted hcs hc) target hname'
  refine ⟨hclass ▸ (ModelModule.own_plain hbuilt hss hwordly).1, m, ?_, hbuilt.module_name,
    ss, hss, ?_⟩
  · exact List.mem_map.mpr ⟨_, hd, rfl⟩
  · rw [ModelModule.classes_statements hss, ← hclass]
    exact ModelModule.data_mem_exports m

/-- Without a warning, the target of an expansion is a collection that gets a module. -/
theorem target_of_expansion (hr : Resolved request report)
    (hreport : report.warnings = draft.warnings)
    (h : DraftedFrom request cs resolver drafted geoPoint draft) {c : Collection} {m : ModelModule}
    {ws : List String} {name : String} {fieldMembers : List Member}
    (hbuilt : BuiltFrom c (some resolver) name fieldMembers m ws) (hws : ws ⊆ draft.warnings)
    {x : ExpandSpec} (hx : m.expand? = some x) {f : ExpandField} (hf : f ∈ x.fields) :
    ∃ target ∈ names cs, f.targetType = Naming.typeName target Naming.dataSuffix ∧
      f.targetModule = Naming.moduleName target ∧
        f.isSelfReference = (f.targetModule == m.name) := by
  obtain ⟨hmappings, hemitted, hstrict⟩ := resolver_of_drafted h
  obtain ⟨r, mapping, raw, target, hresolver, hmapping, hmade⟩ := (hbuilt.expand_fields hx).2.2 f hf
  rw [Option.some.injEq] at hresolver
  subst hresolver
  obtain ⟨ws', hchecked, hsub⟩ := hmade.checked
  have hquiet : resolver.strict = true ∨ resolver.targetWarning mapping ∉ ws' := by
    rw [hstrict]
    refine hr.imp_right fun hnone hmem => ?_
    refine hnone resolver mapping (hmappings ▸ hmapping) ?_
    rw [hreport]
    exact hws (hsub hmem)
  have htarget := Resolver.target_of_check hmade.refers hchecked hquiet
  rw [hemitted] at htarget
  exact ⟨target, htarget, hmade.type, hmade.module, hmade.isSelfReference⟩

theorem mem_names {c : Collection} (hc : c ∈ cs) {name : String} (hname : c.name = .text name) :
    name ∈ names cs := by
  unfold names
  refine List.mem_filterMap.mpr ⟨c, hc, ?_⟩
  rw [hname]

/-- The related classes of a drafted module are where its expansions say. -/
theorem anchored_of_drafted (hw : Wordly request) (hcs : planning request = .ok cs)
    (hr : Resolved request report) (hreport : report.warnings = draft.warnings)
    (h : DraftedFrom request cs resolver drafted geoPoint draft) {c : Collection} (hc : c ∈ cs)
    {m : ModelModule} {ws : List String} {name : String} {fieldMembers : List Member}
    (hbuilt : BuiltFrom c (some resolver) name fieldMembers m ws) (hws : ws ⊆ draft.warnings) :
    Anchored m := by
  obtain ⟨hemitted, -, -⟩ := planning_eq_ok hcs
  intro x hx f hf
  obtain ⟨target, htarget, htype, hmodule, hself⟩ :=
    target_of_expansion hr hreport h hbuilt hws hx hf
  rw [htype]
  refine ⟨(class_of_emitted hw hemitted h htarget).1, fun hown => ?_⟩
  -- distinct collections have distinct modules, so the target is the collection itself
  rw [hself, hmodule, beq_iff_eq, hbuilt.module_name] at hown
  have hsame := eq_of_planning hcs htarget (mem_names hc hbuilt.collection) hown
  rw [hsame, hbuilt.data_class]

/-! ## Modules -/

/-- A drafted module, with what it was built from and the text that is written for it. -/
theorem drafted_module (h : DraftedFrom request cs resolver drafted geoPoint draft)
    {m : ModelModule} (hm : m ∈ drafted.map (·.1.1)) : ∃ c ∈ cs, ∃ ws ⊆ draft.warnings,
      (∃ name fieldMembers, BuiltFrom c (some resolver) name fieldMembers m ws) ∧
        ∃ ss, m.statements = .ok ss ∧
          (modulePath request.directory m.name, Statement.source ss ++ "\n") ∈ draft.order := by
  obtain ⟨⟨⟨m, p, w⟩, ws⟩, hd, rfl⟩ := List.mem_map.mp hm
  obtain ⟨c, hc, hdrafted⟩ := exists_left_of_forall₂ h.modules hd
  obtain ⟨hbuilt, ss, hss, hpath, hcode⟩ := built_of_drafted hdrafted
  refine ⟨c, hc, ws, fun n hn => ?_, hbuilt, ss, hss, ?_⟩
  · rw [h.warnings]
    exact List.mem_append_left _ (List.mem_flatMap.mpr ⟨_, hd, hn⟩)
  · obtain ⟨code, -, hfiles⟩ := h.files
    unfold Draft.order
    refine List.mem_map.mpr ⟨(p, w), List.mem_append_left _ ?_, ?_⟩
    · rw [hfiles]
      exact List.mem_append_left _ (List.mem_map.mpr ⟨_, hd, rfl⟩)
    · rw [hpath, hcode]

/-- The text that is written for the module of geographic points. -/
theorem geoPoint_written (h : DraftedFrom request cs resolver drafted geoPoint draft) :
    ∃ ss, geoPoint.statements = .ok ss ∧
      (modulePath request.directory geoPoint.name, Statement.source ss ++ "\n") ∈ draft.order := by
  obtain ⟨code, hcode, hfiles⟩ := h.files
  unfold ModelModule.render at hcode
  obtain ⟨ss, hss, rfl⟩ := except_map_eq_ok_iff.mp hcode
  refine ⟨ss, hss, ?_⟩
  unfold Draft.order
  rw [hfiles, List.map_append, List.map_append, List.map_singleton]
  exact List.mem_append_left _ (List.mem_append_right _ (List.mem_singleton_self _))

/-- What a drafted module imports from the package is a class of a module next to it. -/
theorem imports_of_drafted (hw : Wordly request) (hcs : emitted request = .ok cs)
    (hr : Resolved request report) (hreport : report.warnings = draft.warnings)
    (h : DraftedFrom request cs resolver drafted geoPoint draft) {c : Collection} {m : ModelModule}
    {ws : List String} {name : String} {fieldMembers : List Member}
    (hbuilt : BuiltFrom c (some resolver) name fieldMembers m ws) (hws : ws ⊆ draft.warnings)
    {ss : List Statement} (hss : m.statements = .ok ss) {level : Nat} {module? : Option String}
    {ns : List String} (hs : Statement.importNames (level + 1) module? ns ∈ ss) {n : String}
    (hn : n ∈ ns) : level = 0 ∧ ∃ m' ∈ drafted.map (·.1.1) ++ [geoPoint],
      module? = some m'.name ∧ Defines m' n := by
  obtain ⟨hlevel, ⟨hmodule, rfl⟩ | ⟨x, hx, f, hf, hmodule, rfl⟩⟩ :=
    ModelModule.imported_relative hbuilt hss hs hn
  · refine ⟨hlevel, geoPoint, List.mem_append_right _ (List.mem_singleton_self _), ?_, ?_⟩
    · rw [hmodule, geoPoint_name h.points]
    · obtain ⟨g, ss', hg, hss', -, -, hclass⟩ := geoPoint_closed
      rw [h.points, Except.ok.injEq] at hg
      exact hg ▸ ⟨ss', hss', hclass⟩
  · obtain ⟨target, htarget, htype, hmodule', -⟩ :=
      target_of_expansion hr hreport h hbuilt hws hx hf
    obtain ⟨-, m', hm', hname, hdefines⟩ := class_of_emitted hw hcs h htarget
    refine ⟨hlevel, m', List.mem_append_left _ hm', ?_, ?_⟩
    · rw [hmodule, hmodule', hname]
    · rw [htype]
      exact hdefines

/-- The names that the package offers from a module are classes of it. -/
theorem exported_of_modules {modules : List ModelModule}
    (hwritten : ∀ m ∈ modules, ∃ ss, m.statements = .ok ss) :
    ∀ e ∈ (planExports modules).1, ∃ m ∈ modules, e.1 = m.name ∧ ∀ n ∈ e.2, Defines m n := by
  intro e he
  obtain ⟨m, hm, rfl⟩ := List.mem_map.mp he
  refine ⟨m, hm, rfl, fun n hn => ?_⟩
  obtain ⟨ss, hss⟩ := hwritten m hm
  refine ⟨ss, hss, ?_⟩
  rw [ModelModule.classes_statements hss]
  exact List.mem_of_mem_filter hn

/-! ## Runs -/

/-- A package that is written as it was drafted has closed references. -/
theorem closed_of_drafted (hw : Wordly request) (hcs : planning request = .ok cs)
    (hr : Resolved request report) (hreport : report.warnings = draft.warnings)
    (h : DraftedFrom request cs resolver drafted geoPoint draft) (hwrote : Wrote d d' draft.order) :
    Closed request d' (drafted.map (·.1.1) ++ [geoPoint])
      (planExports (drafted.map (·.1.1) ++ [geoPoint])).1 := by
  obtain ⟨hemitted, -, -⟩ := planning_eq_ok hcs
  obtain ⟨g, gss, hg, hgss, hgnames, hgimports, -⟩ := geoPoint_closed
  rw [h.points, Except.ok.injEq] at hg
  subst hg
  have htext : ∀ m ∈ drafted.map (·.1.1) ++ [geoPoint], ∃ ss, m.statements = .ok ss ∧
      (modulePath request.directory m.name, Statement.source ss ++ "\n") ∈ draft.order := by
    intro m hm
    rcases List.mem_append.mp hm with hm | hm
    · obtain ⟨-, -, -, -, -, htext⟩ := drafted_module h hm
      exact htext
    · rw [List.mem_singleton.mp hm]
      exact geoPoint_written h
  constructor
  case files =>
    intro m hm
    obtain ⟨ss, hss, horder⟩ := htext m hm
    exact ⟨ss, _, hss, hwrote.holds _ horder⟩
  case aggregator =>
    have horder : (draft.aggregator.1, draft.aggregator.2.code) ∈ draft.order :=
      List.mem_map.mpr ⟨draft.aggregator, List.mem_append_right _ (List.mem_singleton_self _), rfl⟩
    have hholds := hwrote.holds _ horder
    rw [h.aggregator] at hholds
    exact ⟨_, hholds⟩
  case names =>
    intro m hm ss hss n hn
    rcases List.mem_append.mp hm with hm | hm
    · obtain ⟨c, hc, ws, hws, ⟨name, fieldMembers, hbuilt⟩, -⟩ := drafted_module h hm
      exact ModelModule.provided_of_uses hbuilt hss
        (hw c (mem_of_emitted hemitted hc) name hbuilt.collection)
        (anchored_of_drafted hw hcs hr hreport h hc hbuilt hws) hn
    · rw [List.mem_singleton.mp hm, hgss, Except.ok.injEq] at hss
      exact hss ▸ hgnames n (hss ▸ hn)
  case imports =>
    intro m hm ss hss level module? ns hs n hn
    rcases List.mem_append.mp hm with hm | hm
    · obtain ⟨c, hc, ws, hws, ⟨name, fieldMembers, hbuilt⟩, -⟩ := drafted_module h hm
      exact imports_of_drafted hw hemitted hr hreport h hbuilt hws hss hs hn
    · rw [List.mem_singleton.mp hm, hgss, Except.ok.injEq] at hss
      have himports := hgimports _ (hss ▸ hs)
      cases himports
  case exported =>
    refine exported_of_modules fun m hm => ?_
    obtain ⟨ss, hss, -⟩ := htext m hm
    exact ⟨ss, hss⟩

/-- **A run that succeeds leaves a package whose references are closed**, unless it has recorded a
related collection without a model. The modules are those of its collections, in order, and the one
of geographic points. -/
theorem generate_closed (hw : Wordly request) (hr : Resolved request report)
    (h : (generate request).Ends d d' (.ok report)) : ∃ cs modules exports,
      planning request = .ok cs ∧
      modules.map (·.name) =
        (names cs).map Naming.moduleName ++ [FixedModule.geoPoint.name] ∧
      Closed request d' modules exports := by
  obtain ⟨cs, d₁, draft, hcs, -, hdraft, hwrite⟩ := ends_generate_ok h
  have hnodup : (draft.order.map (·.1)).Nodup :=
    map_fst_order hdraft ▸ targets_nodup hw.slashless hcs
  obtain ⟨hwrote, hreport⟩ := ends_writeDraft_ok hnodup hwrite
  obtain ⟨resolver, drafted, geoPoint, hd⟩ := draft_eq_ok_iff.mp hdraft
  refine ⟨cs, drafted.map (·.1.1) ++ [geoPoint], _, hcs, ?_,
    closed_of_drafted hw hcs hr hreport hd hwrote⟩
  rw [List.map_append, List.map_map, List.map_singleton, geoPoint_name hd.points,
    ← map_name_drafted hd.modules]
  rfl

/-- A run for two collections that embed each other's records. -/
def libraryRun : Request where
  collections :=
    [{ id := "c1", name := .text "authors", fields :=
        [{ name := .text "born in", kind := .geoPoint },
         { name := .text "books", kind := .relation, extra := .relation none (.text "c2") }] },
     { id := "c2", name := .text "books", fields :=
        [{ name := .text "état", kind := .select, extra := .select ["draft", "live"] },
         { name := .text "author", kind := .relation, extra := .relation (some 1) (.text "c1") }] }]
  mappings := [⟨.text "authors", .text "books", false, .text "books"⟩,
    ⟨.text "books", .text "author", true, .text "authors"⟩]
  directory := ["out"]
  strict := true

/-- A disk with an empty directory for the package. -/
def emptyDisk : Disk where
  tree := ⟨[(["out"], .directory)]⟩

theorem generate_closed_libraryRun : ∃ report, Wordly libraryRun ∧ Resolved libraryRun report ∧
    (generate libraryRun).Ends emptyDisk ((generate libraryRun).run emptyDisk).1 (.ok report) ∧
      ∃ cs modules exports, planning libraryRun = .ok cs ∧
        modules.map (·.name) =
          (names cs).map Naming.moduleName ++ [FixedModule.geoPoint.name] ∧
        Closed libraryRun ((generate libraryRun).run emptyDisk).1 modules exports := by
  have hw : Wordly libraryRun := by
    intro c hc s hname
    have hnames : ∀ c ∈ libraryRun.collections,
        c.name = .text "authors" ∨ c.name = .text "books" := by
      intro c hc
      simp only [libraryRun, List.mem_cons, List.not_mem_nil, or_false] at hc
      rcases hc with rfl | rfl
      · exact Or.inl rfl
      · exact Or.inr rfl
    rcases hnames c hc with h | h
    · rw [hname, Json.text.injEq] at h
      rw [h]
      decide
    · rw [hname, Json.text.injEq] at h
      rw [h]
      decide
  have hsucceeds : (((generate libraryRun).run emptyDisk).2.outcome.toOption.isSome) = true := by
    decide +kernel
  cases hreport : ((generate libraryRun).run emptyDisk).2.outcome with
  | error e =>
    rw [hreport] at hsucceeds
    cases hsucceeds
  | ok report =>
    have hr : Resolved libraryRun report := Or.inl rfl
    exact ⟨report, hw, hr, ⟨rfl, hreport⟩, generate_closed hw hr ⟨rfl, hreport⟩⟩

end SchemaModels.Package
