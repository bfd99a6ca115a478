import SchemaModels.Proofs.Module.Bare
import SchemaModels.Proofs.Package.Success

/-!
# Runs without mappings

Mappings only ever add to what can go wrong with a run: every module that is drafted with them is
drafted without (`draft_unmapped`), and the files go to the same paths. So a run that succeeds with
mappings, whichever they are, succeeds without any (`generate_unmapped`).
-/

namespace SchemaModels.Package

open Files (Disk)
open ModelModule (BuiltFrom named)

variable {request : Request} {cs : List Collection}

/-- The run without mappings. -/
def unmapped (request : Request) : Request := { request with mappings := [] }

/-- A resolver without mappings has no expansions for a collection. -/
theorem expansion_unmapped {r : Resolver} (hr : r.mappings = []) {c : Collection} {name : String}
    (hname : c.name = .text name) :
    (ModelModule.expansion (some r) c).outcome = .ok (none, []) := by
  have hmappings : r.mappingsFor c.name = [] := by
    unfold Resolver.mappingsFor
    rw [hr, List.filter_nil]
  change (r.resolve c).outcome = _
  rw [Resolver.resolve_absent hname hmappings, Logged.outcome_pure]

theorem draftedAs_unmapped {r bare : Resolver} (hbare : bare.mappings = []) {directory : Files.Path}
    {c : Collection} {x : Drafted} (h : DraftedAs r directory c x) :
    ∃ x', DraftedAs bare directory c x' := by
  obtain ⟨hbuild, code, hcode, -⟩ := h
  obtain ⟨name, fieldMembers, hbuilt⟩ := ModelModule.build_eq_ok_iff.mp hbuild
  have hnamed : named c name = c := by
    unfold named
    rw [← hbuilt.collection]
  have hexpansion := expansion_unmapped hbare hbuilt.collection
  rw [← hnamed] at hexpansion
  obtain ⟨m, hm, hnone⟩ := hbuilt.bare hexpansion
  rw [hnamed] at hm
  obtain ⟨code', hcode'⟩ := ModelModule.exists_render_bare hbuilt hcode hm hnone
  exact ⟨((m, placed (modulePath directory m.name) code' m.isReadable .model
    (some c.name.display)), []), ModelModule.build_eq_ok_iff.mpr ⟨name, fieldMembers, hm⟩, code',
      hcode', rfl⟩

/-- **A package that is drafted is drafted without its mappings.** -/
theorem draft_unmapped {draft : Draft} (h : (Package.draft request cs).outcome = .ok draft) :
    ∃ draft', (Package.draft (unmapped request) cs).outcome = .ok draft' := by
  obtain ⟨r, drafted, geoPoint, hd⟩ := draft_eq_ok_iff.mp h
  let bare : Resolver :=
    { mappings := [], known := names request.collections, emitted := names cs,
      strict := request.strict }
  have hbare : bare.mappings = [] := rfl
  obtain ⟨drafted', hmodules⟩ : ∃ drafted', List.Forall₂ (DraftedAs bare request.directory) cs
      drafted' := by
    refine exists_forall₂ fun c hc => ?_
    obtain ⟨x, -, hx⟩ := exists_right_of_forall₂ hd.modules hc
    exact draftedAs_unmapped hbare hx
  obtain ⟨code, hcode, -⟩ := hd.files
  let exported := planExports (drafted'.map (·.1.1) ++ [geoPoint])
  exact ⟨{ files := drafted'.map (·.1.2) ++
             [placed (modulePath request.directory geoPoint.name) code geoPoint.isReadable .geoPoint
               none]
           aggregator := placed (aggregatorPath request.directory) (aggregatorText exported.1)
             (isReadable exported.1) .aggregator none
           warnings := drafted'.flatMap (·.2) ++ exported.2 },
    draft_eq_ok_iff.mpr ⟨bare, drafted', geoPoint, rfl, hmodules, hd.points,
      ⟨code, hcode, rfl⟩, rfl, rfl⟩⟩

/-- **A run that succeeds with mappings succeeds without.** -/
theorem generate_unmapped {d : Disk} (h : ∃ d' report, (generate request).Ends d d' (.ok report)) :
    ∃ d' report, (generate (unmapped request)).Ends d d' (.ok report) := by
  obtain ⟨cs, d₁, draft, hcs, hremove, hdraft, hwritable⟩ := generate_ok_iff.mp h
  obtain ⟨draft', hdraft'⟩ := draft_unmapped hdraft
  exact generate_ok_iff.mpr ⟨cs, d₁, draft', hcs, hremove, hdraft', hwritable⟩

end SchemaModels.Package
