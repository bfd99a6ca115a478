import Mathlib.Data.List.Forall2
import Mathlib.Data.List.Perm.Lattice
import SchemaModels.Proofs.Package.Alike
import SchemaModels.Proofs.Package.Success

/-!
# Requests in another order

Two requests are `Reordered` if they differ in the order of their collections and in that of their
mappings alone, where mappings with one source keep their order. Each stage of a run goes through
for one of them just if it does for the other, and gives the same in another order: planning
(`Reordered.planning`), the resolver, which stands for the other one (`Reordered.newResolver`), and
the package in memory, whose modules are the same (`Reordered.drafted`). So both runs succeed or
neither does (`Reordered.succeeds`).
-/

namespace SchemaModels

open Files (Path Disk)

namespace Package

variable {a b request : Request} {cs ds : List Collection} {r s : Resolver}

/-- **Requests that differ in order alone**: mappings with one source stay in their order. -/
structure Reordered (a b : Request) : Prop where
  directory : a.directory = b.directory
  internalPrefix : a.internalPrefix = b.internalPrefix
  strict : a.strict = b.strict
  collections : a.collections.Perm b.collections
  mappings : a.mappings.Perm b.mappings
  sources : ∀ source : Json, a.mappings.filter (·.source.same source) =
    b.mappings.filter (·.source.same source)

theorem Reordered.symm (h : Reordered a b) : Reordered b a where
  directory := h.directory.symm
  internalPrefix := h.internalPrefix.symm
  strict := h.strict.symm
  collections := h.collections.symm
  mappings := h.mappings.symm
  sources source := (h.sources source).symm

/-! ## Planning -/

theorem names_perm (h : cs.Perm ds) : (names cs).Perm (names ds) := h.filterMap _

theorem Free.perm {taken texts texts' : List String} (h : Free taken texts)
    (hperm : texts.Perm texts') : Free taken texts' where
  fixed t ht := h.fixed t (hperm.mem_iff.mpr ht)
  new t ht := h.new t (hperm.mem_iff.mpr ht)
  distinct := (hperm.map _).nodup_iff.mp h.distinct

/-- Collections that are named by texts are named by the texts of their names. -/
theorem map_name_eq (h : ∀ c ∈ cs, ∃ name, c.name = .text name) :
    cs.map (·.name) = (names cs).map Json.text := by
  induction cs with
  | nil => rfl
  | cons c cs ih =>
    obtain ⟨⟨name, hname⟩, hcs⟩ := List.forall_mem_cons.mp h
    rw [names_cons hname, List.map_cons, List.map_cons, hname, ih hcs]

/-- Planned collections are named by texts. -/
theorem texts_of_planning (h : Package.planning request = .ok cs) :
    ∀ c ∈ cs, ∃ name, c.name = .text name := by
  obtain ⟨-, hnames, -⟩ := planning_eq_ok h
  intro c hc
  have hmem := List.mem_map_of_mem (f := (·.name)) hc
  rw [hnames] at hmem
  obtain ⟨name, -, hname⟩ := List.mem_map.mp hmem
  exact ⟨name, hname.symm⟩

/-- The same collections get modules. -/
theorem Reordered.emitted (h : Reordered a b) (hcs : Package.emitted a = .ok cs) :
    ∃ ds, Package.emitted b = .ok ds ∧ cs.Perm ds := by
  obtain ⟨hchecks, rfl⟩ := except_filterM_eq_ok_iff.mp hcs
  refine ⟨_, except_filterM_eq_ok_iff.mpr ⟨fun c hc => ?_, rfl⟩, ?_⟩
  · rw [← h.internalPrefix]
    exact hchecks c (h.collections.mem_iff.mpr hc)
  · rw [h.internalPrefix]
    exact h.collections.filter _

/-- **Planning goes through for both or for neither.** -/
theorem Reordered.planning (h : Reordered a b) (hcs : Package.planning a = .ok cs) :
    ∃ ds, Package.planning b = .ok ds ∧ cs.Perm ds := by
  obtain ⟨hemitted, -, hfree⟩ := planning_eq_ok hcs
  obtain ⟨ds, hds, hperm⟩ := h.emitted hemitted
  have htexts : ∀ c ∈ ds, ∃ name, c.name = .text name := fun c hc =>
    texts_of_planning hcs c (hperm.mem_iff.mpr hc)
  refine ⟨ds, except_bind_eq_ok_iff.mpr ⟨ds, ofFault_eq_ok_iff.mpr hds,
    except_bind_eq_ok_iff.mpr ⟨_, plan_eq_ok_iff.mpr ⟨_, map_name_eq htexts, rfl, ?_⟩, rfl⟩⟩, hperm⟩
  exact hfree.perm (names_perm hperm)

theorem targets_perm (h : Reordered a b) (hperm : cs.Perm ds) :
    (targets a cs).Perm (targets b ds) := by
  unfold targets
  rw [h.directory]
  exact ((names_perm hperm).map _).append_right _

/-! ## Resolvers -/

/-- The same warnings, and failures of whatever kind. -/
def anyFailure : Tolerance where
  warning := Eq
  failure _ _ := True
  warning_refl _ := rfl
  failure_refl _ := trivial

theorem warnings_anyFailure {ws ws' : List String} (h : anyFailure.Warnings ws ws') : ws = ws' :=
  List.forall₂_eq_eq_eq ▸ h

theorem isAmong_perm {ns ns' : List String} (h : ns.Perm ns') (v : Json) :
    Resolver.isAmong ns v = Resolver.isAmong ns' v := by
  cases v with
  | text name => exact h.contains_eq
  | _ => rfl

/-- A new resolver goes through for both requests or for neither, and both stand for each other. -/
theorem Reordered.newResolver (h : Reordered a b) (hperm : cs.Perm ds)
    (hr : Package.newResolver a cs = .ok r) :
    ∃ s, Package.newResolver b ds = .ok s ∧ r.AgreeOn anyFailure cs s := by
  unfold Package.newResolver Resolver.make at hr ⊢
  obtain ⟨_, hchecks, hr⟩ := except_bind_eq_ok_iff.mp hr
  cases hr
  have hall := except_forM_eq_ok_iff.mp hchecks
  refine ⟨_, except_bind_eq_ok_iff.mpr ⟨(), except_forM_eq_ok_iff.mpr fun m hm =>
    hall m (h.mappings.mem_iff.mpr hm), rfl⟩,
    ⟨h.strict, isAmong_perm (names_perm hperm), fun m => ?_, fun _ => trivial⟩,
    fun c _ => h.sources c.name⟩
  have hknown := isAmong_perm (names_perm h.collections) m.target
  unfold anyFailure Resolver.targetWarning
  simp only [hknown]

/-! ## Packages in memory -/

/-- Told the same warnings, steps give the same. -/
theorem eq_of_told {α : Type} {x y : α × List String} (h : anyFailure.Told x y) : x = y :=
  Prod.ext h.1 (warnings_anyFailure h.2)

/-- A collection gets the same module, with the same warnings. -/
theorem build_eq_ok_iff_of_agreeOn (h : r.AgreeOn anyFailure cs s) {c : Collection} (hc : c ∈ cs)
    (built : ModelModule × List String) :
    (ModelModule.build c (some r)).outcome = .ok built ↔
      (ModelModule.build c (some s)).outcome = .ok built :=
  ((ModelModule.alike_build h.exchangeable (h.mappings c hc)).outcome.mono
    fun _ _ htold => eq_of_told htold).eq_ok_iff

theorem draftedAs_of_agreeOn (h : r.AgreeOn anyFailure cs s) {directory : Path} {c : Collection}
    (hc : c ∈ cs) (x : Drafted) (hx : DraftedAs r directory c x) : DraftedAs s directory c x :=
  ⟨(build_eq_ok_iff_of_agreeOn h hc _).mp hx.1, hx.2⟩

/-- **The package of one request is that of the other**, with its modules in another order. -/
theorem Reordered.drafted (h : Reordered a b) (hperm : cs.Perm ds) {drafted : List Drafted}
    {geoPoint : ModelModule} {x : Draft} (hx : DraftedFrom a cs r drafted geoPoint x) :
    ∃ s others y, DraftedFrom b ds s others geoPoint y ∧ drafted.Perm others ∧
      r.AgreeOn anyFailure cs s := by
  obtain ⟨s, hs, hagree⟩ := h.newResolver hperm hx.resolving
  have hmodules : List.Forall₂ (DraftedAs s b.directory) cs drafted :=
    forall₂_imp_of_mem (fun c hc dr hdr => draftedAs_of_agreeOn hagree hc dr hdr)
      (h.directory ▸ hx.modules)
  obtain ⟨others, hothers, hperm'⟩ := List.perm_comp_forall₂ hperm.symm hmodules
  obtain ⟨code, hcode, -⟩ := hx.files
  let exported := planExports (others.map (·.1.1) ++ [geoPoint])
  let y : Draft :=
    { files := others.map (·.1.2) ++ [placed (modulePath b.directory geoPoint.name) code
        geoPoint.isReadable .geoPoint none]
      aggregator := placed (aggregatorPath b.directory) (aggregatorText exported.1)
        (isReadable exported.1) .aggregator none
      warnings := others.flatMap (·.2) ++ exported.2 }
  exact ⟨s, others, y, ⟨hs, hothers, hx.points, ⟨code, hcode, rfl⟩, rfl, rfl⟩, hperm'.symm, hagree⟩

/-! ## Success -/

/-- The stages of a run that come before the writing. -/
theorem Reordered.succeeds (h : Reordered a b) {d : Disk}
    (ha : ∃ d' x, (generate a).Ends d d' (.ok x)) : ∃ d' y, (generate b).Ends d d' (.ok y) := by
  obtain ⟨cs, d₁, x, hcs, hremove, hdraft, hall⟩ := generate_ok_iff.mp ha
  obtain ⟨ds, hds, hperm⟩ := h.planning hcs
  obtain ⟨r, drafted, geoPoint, hx⟩ := draft_eq_ok_iff.mp hdraft
  obtain ⟨s, others, y, hy, -, -⟩ := h.drafted hperm hx
  refine generate_ok_iff.mpr ⟨ds, d₁, y, hds, h.directory ▸ hremove,
    draft_eq_ok_iff.mpr ⟨s, others, geoPoint, hy⟩, fun p hp => ?_⟩
  exact hall p ((targets_perm h hperm).mem_iff.mpr hp)

end Package

end SchemaModels
