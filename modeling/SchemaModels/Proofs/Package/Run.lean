import SchemaModels.Proofs.Files.Path
import SchemaModels.Proofs.Package.Plan
import SchemaModels.Proofs.Package.Writing

/-!
# The stages of a run

A run plans, removes the old aggregator, drafts the package in memory and writes it, in this order.
`ends_generate_ok` and `ends_generate_error` take a run apart into these stages, so that statements
about runs follow from statements about stages. `targets_nodup`: the files of a planned package have
different paths, so that no file overwrites another.
-/

namespace SchemaModels.Package

open Files (Path Disk)

variable {request : Request} {d d' : Disk}

/-! ## Planning -/

/-- The collections of a run that get a module, once their module names are planned. -/
def planning (request : Request) : Outcome (List Collection) := do
  let emitted ← Outcome.ofFault (emitted request)
  let _ ← plan (emitted.map (·.name))
  .ok emitted

theorem names_of_map_name {cs : List Collection} {texts : List String}
    (h : cs.map (·.name) = texts.map Json.text) : names cs = texts := by
  induction cs generalizing texts with
  | nil =>
    rw [List.map_nil, eq_comm, List.map_eq_nil_iff] at h
    rw [h]
    rfl
  | cons c cs ih =>
    cases texts with
    | nil => cases h
    | cons s texts =>
      rw [List.map_cons, List.map_cons, List.cons.injEq] at h
      rw [names_cons h.1, ih h.2]

/-- Planned collections have texts for names, and modules of their own. -/
theorem planning_eq_ok {cs : List Collection} (h : planning request = .ok cs) :
    emitted request = .ok cs ∧ cs.map (·.name) = (names cs).map Json.text ∧
      Free [] (names cs) := by
  unfold planning at h
  obtain ⟨cs', hcs, h⟩ := except_bind_eq_ok_iff.mp h
  obtain ⟨planned, hplan, h⟩ := except_bind_eq_ok_iff.mp h
  cases h
  obtain ⟨texts, hnames, -, hfree⟩ := plan_eq_ok_iff.mp hplan
  have htexts := names_of_map_name hnames
  exact ⟨ofFault_eq_ok_iff.mp hcs, by rw [htexts, hnames], htexts ▸ hfree⟩

/-- **Planned collections with one module name** are one collection. -/
theorem eq_of_planning {cs : List Collection} (h : planning request = .ok cs) {a b : String}
    (ha : a ∈ names cs) (hb : b ∈ names cs)
    (hab : Naming.moduleName a = Naming.moduleName b) : a = b :=
  List.inj_on_of_nodup_map (planning_eq_ok h).2.2.distinct ha hb hab

/-- The collections that get a module are among those of the request. -/
theorem mem_of_emitted {cs : List Collection} (h : emitted request = .ok cs) {c : Collection}
    (hc : c ∈ cs) : c ∈ request.collections :=
  (except_filterM_eq_ok h).subset hc

/-! ## Paths -/

/-- The request names no collection with a slash. -/
def Slashless (request : Request) : Prop :=
  ∀ c ∈ request.collections, ∀ s, c.name = .text s → '/' ∉ s.toList

theorem modulePath_of_slash_not_mem (directory : Path) {m : String} (h : '/' ∉ m.toList) :
    modulePath directory m = directory ++ [m ++ ".py"] := by
  unfold modulePath
  apply Path.below_of_slash_not_mem
  · rw [String.toList_append, List.mem_append]
    rintro (hm | hm)
    · exact h hm
    · exact absurd hm (by decide)
  · intro he
    have hlength := congrArg String.length he
    rw [String.length_append] at hlength
    have hsuffix : ".py".length = 3 := rfl
    have hempty : "".length = 0 := rfl
    omega
  · intro he
    have hlength := congrArg String.length he
    rw [String.length_append] at hlength
    have hsuffix : ".py".length = 3 := rfl
    have hdot : ".".length = 1 := rfl
    omega

theorem names_slashless (hs : Slashless request) {cs : List Collection}
    (h : emitted request = .ok cs) {n : String} (hn : n ∈ names cs) : '/' ∉ n.toList := by
  unfold names at hn
  obtain ⟨c, hc, hcn⟩ := List.mem_filterMap.mp hn
  refine hs c (mem_of_emitted h hc) n ?_
  revert hcn
  cases c.name <;> simp

/-- The files of a run lie side by side in its directory. -/
theorem targets_eq (hs : Slashless request) {cs : List Collection}
    (h : planning request = .ok cs) :
    targets request cs = ((names cs).map Naming.moduleName ++
      [FixedModule.geoPoint.name, FixedModule.aggregator.name]).map
        fun m => request.directory ++ [m ++ ".py"] := by
  obtain ⟨hemitted, -, -⟩ := planning_eq_ok h
  have hmodules : ∀ n ∈ names cs, modulePath request.directory (Naming.moduleName n) =
      request.directory ++ [Naming.moduleName n ++ ".py"] := by
    intro n hn
    refine modulePath_of_slash_not_mem _ fun hm => ?_
    exact names_slashless hs hemitted hn (Naming.slash_mem_of_mem_moduleName hm)
  have hfile : aggregatorFile = FixedModule.aggregator.name ++ ".py" := by decide
  unfold targets
  rw [List.map_congr_left hmodules, modulePath_of_slash_not_mem _ (by decide), aggregatorPath,
    hfile, List.map_append, List.map_map]
  rfl

/-- **No two files of a run have one path.** -/
theorem targets_nodup (hs : Slashless request) {cs : List Collection}
    (h : planning request = .ok cs) : (targets request cs).Nodup := by
  obtain ⟨-, -, hfree⟩ := planning_eq_ok h
  rw [targets_eq hs h]
  refine List.Nodup.map ?_ ?_
  · intro m n hmn
    have hlast := (List.append_inj' hmn rfl).2
    rw [List.cons.injEq] at hlast
    have hlist := congrArg String.toList hlast.1
    rw [String.toList_append, String.toList_append] at hlist
    exact String.toList_inj.mp (List.append_inj' hlist rfl).1
  · have hfixed : ∀ m ∈ (names cs).map Naming.moduleName,
        m ≠ FixedModule.geoPoint.name ∧ m ≠ FixedModule.aggregator.name := by
      intro m hm
      obtain ⟨s, hs, rfl⟩ := List.mem_map.mp hm
      exact fixedModule?_eq_none_iff.mp (hfree.fixed s hs)
    rw [List.nodup_append]
    refine ⟨hfree.distinct, by decide, fun m hm n hn => ?_⟩
    simp only [List.mem_cons, List.not_mem_nil, or_false] at hn
    rcases hn with rfl | rfl
    · exact (hfixed m hm).1
    · exact (hfixed m hm).2

/-! ## Stages -/

/-- The last stage: the files in order, the aggregator after them, then the report. -/
def writeDraft (request : Request) (emitted : List Collection) (draft : Draft) :
    Task Disk RunReport := do
  writeFiles draft.files.length 0 (draft.files.map fun f => (f.1, f.2.code))
  Disk.writeWhole draft.aggregator.1 draft.aggregator.2.code
  Task.note .info (Log.success
    (s!"Generated {emitted.length} model modules in " ++ Path.text request.directory))
  pure
    { results := draft.files.map (·.2) ++ [draft.aggregator.2]
      warnings := draft.warnings
      aggregatorPath := draft.aggregator.2.path }

/-- **A run that succeeds** has gone through all its stages. -/
theorem ends_generate_ok {report : RunReport} (h : (generate request).Ends d d' (.ok report)) :
    ∃ cs d₁ draft, planning request = .ok cs ∧
      (removeAggregator (aggregatorPath request.directory)).Ends d d₁ (.ok ()) ∧
      (Package.draft request cs).outcome = .ok draft ∧
      (writeDraft request cs draft).Ends d₁ d' (.ok report) := by
  unfold generate at h
  obtain ⟨cs, _, ⟨rfl, hcs⟩, h⟩ := Task.ends_bind_ok_iff.mp h
  obtain ⟨_, _, ⟨rfl, -⟩, h⟩ := Task.ends_bind_ok_iff.mp h
  obtain ⟨_, _, hplan, h⟩ := Task.ends_bind_ok_iff.mp h
  obtain ⟨planned, rfl, hplanned⟩ := Task.ends_discard_ok_iff.mp hplan
  obtain ⟨_, d₁, hremove, h⟩ := Task.ends_bind_ok_iff.mp h
  obtain ⟨draft, _, ⟨rfl, hdraft⟩, h⟩ := Task.ends_bind_ok_iff.mp h
  refine ⟨cs, d₁, draft, ?_, hremove, hdraft, h⟩
  exact except_bind_eq_ok_iff.mpr ⟨cs, hcs, except_bind_eq_ok_iff.mpr ⟨planned, hplanned, rfl⟩⟩

/-- **A run that fails** has stopped in one of its stages. -/
theorem ends_generate_error {e : Failure} (h : (generate request).Ends d d' (.error e)) :
    (planning request = .error e ∧ d' = d) ∨
      ∃ cs, planning request = .ok cs ∧
        ((removeAggregator (aggregatorPath request.directory)).Ends d d' (.error e) ∨
          ∃ d₁, (removeAggregator (aggregatorPath request.directory)).Ends d d₁ (.ok ()) ∧
            (((Package.draft request cs).outcome = .error e ∧ d' = d₁) ∨
              ∃ draft, (Package.draft request cs).outcome = .ok draft ∧
                (writeDraft request cs draft).Ends d₁ d' (.error e))) := by
  unfold generate at h
  rcases Task.ends_bind_error_iff.mp h with ⟨rfl, hcs⟩ | ⟨cs, _, ⟨rfl, hcs⟩, h⟩
  · exact Or.inl ⟨except_bind_eq_error_iff.mpr (Or.inl hcs), rfl⟩
  rcases Task.ends_bind_error_iff.mp h with ⟨-, h⟩ | ⟨_, _, ⟨rfl, -⟩, h⟩
  · cases h
  rcases Task.ends_bind_error_iff.mp h with hplan | ⟨_, _, hplan, h⟩
  · obtain ⟨hd, hplan⟩ := Task.ends_discard_error_iff.mp hplan
    refine Or.inl ⟨except_bind_eq_error_iff.mpr (Or.inr ⟨cs, hcs, ?_⟩), hd.symm⟩
    exact except_bind_eq_error_iff.mpr (Or.inl hplan)
  obtain ⟨planned, rfl, hplanned⟩ := Task.ends_discard_ok_iff.mp hplan
  refine Or.inr ⟨cs, except_bind_eq_ok_iff.mpr ⟨cs, hcs,
    except_bind_eq_ok_iff.mpr ⟨planned, hplanned, rfl⟩⟩, ?_⟩
  rcases Task.ends_bind_error_iff.mp h with hremove | ⟨_, d₁, hremove, h⟩
  · exact Or.inl hremove
  refine Or.inr ⟨d₁, hremove, ?_⟩
  rcases Task.ends_bind_error_iff.mp h with ⟨rfl, hdraft⟩ | ⟨draft, _, ⟨rfl, hdraft⟩, h⟩
  · exact Or.inl ⟨hdraft, rfl⟩
  · exact Or.inr ⟨draft, hdraft, h⟩

end SchemaModels.Package
