import SchemaModels.Proofs.Log
import SchemaModels.Proofs.Package.Run

/-!
# A run reports the warnings that it logs

Types, members and enums are found without a warning. A resolution warns about mappings and gives
these warnings back (`Resolver.reports_resolve`), a module adds none to those of its expansions
(`ModelModule.reports_build`), and the draft of a package has those of its modules in order with
those about shared names after them (`reports_draft`). Removing and writing files is quiet, so that
the report of a run has the warnings in its log (`reports_generate`).
-/

namespace SchemaModels

open Logged (Quiet Reports quiet_pure quiet_note quiet_ofChecked quiet_ofOutcome)
open Log.Level (debug_ne_warning info_ne_warning)

/-! ## Fields -/

theorem FieldType.quiet_resolve (f : Field) : Quiet (FieldType.resolve f) := by
  have hrest : Quiet (do
      let t ← Logged.ofChecked (ofField f)
      Logged.note .debug
        ("Mapped field '" ++ f.name.display ++ s!"' ({f.kind.word}) -> {t.meaning.word}" ++
          if t.nullable then " (nullable)" else "")
      pure t) :=
    (quiet_ofChecked _).bind fun t => (quiet_note debug_ne_warning _).bind fun _ => quiet_pure t
  unfold FieldType.resolve
  split
  · exact (quiet_note debug_ne_warning _).bind fun _ => hrest
  · exact hrest

theorem Member.quiet_ofField (f : Field) : Quiet (Member.ofField f) :=
  (FieldType.quiet_resolve f).bind fun _ => (quiet_ofChecked _).bind fun _ => quiet_pure _

theorem EnumSpec.quiet_resolve (f : Field) : Quiet (EnumSpec.resolve f) :=
  (quiet_ofOutcome _).bind fun e => (quiet_note debug_ne_warning _).bind fun _ => quiet_pure e

/-! ## Expansions -/

namespace Resolver

variable {r : Resolver} {c : Collection}

theorem reports_warn (message : String) : Reports id (warn message) := by
  intro _ ws h
  rw [← Except.ok.inj h.1, ← h.2]
  rfl

/-- After the warnings about the field of a mapping come those about its target. -/
theorem warns_checkTarget {m : Mapping} {field ws logged : List String}
    (h : (r.checkTarget m field).Warns ws logged) : field ++ logged = ws := by
  obtain ⟨target, -, h⟩ := (quiet_ofChecked _).warns_of_bind h
  split at h
  · obtain ⟨hws, hlogged⟩ := Logged.warns_pure_iff.mp h
    rw [hlogged, List.append_nil, hws]
  · split at h
    · cases h.1
    · obtain ⟨more, moreLogged, _, hmore, hlast, hlogged⟩ := Logged.warns_bind_iff.mp h
      obtain ⟨hws, hnone⟩ := Logged.warns_pure_iff.mp hlast
      rw [hlogged, hnone, List.append_nil, reports_warn _ _ _ hmore, ← hws]
      rfl

/-- The check of a mapping gives back what it warns about. -/
theorem reports_check (m : Mapping) : Reports id (r.check c m) := by
  intro ws logged h
  rw [check_eq] at h
  obtain ⟨field, fieldLogged, rest, hfield, htarget, hlogged⟩ := Logged.warns_bind_iff.mp h
  have hreported : fieldLogged = field := by
    split at hfield
    · exact reports_warn _ _ _ hfield
    · obtain ⟨hnone, hquiet⟩ := Logged.warns_pure_iff.mp hfield
      rw [hquiet, hnone]
  rw [hlogged, hreported]
  exact warns_checkTarget htarget

/-- So does the walk through the mappings of a collection. -/
theorem reports_members (sourceModule : String) (seen : List (Mapping × String))
    (ms : List Mapping) : Reports Prod.snd (r.members c sourceModule seen ms) := by
  induction ms generalizing seen with
  | nil =>
    intro _ logged h
    obtain ⟨rfl, rfl⟩ := Logged.warns_pure_iff.mp h
    rfl
  | cons m ms ih =>
    rw [members]
    refine (quiet_ofChecked _).reports_bind fun rawName => ?_
    intro result logged h
    simp only at h
    split at h
    · split at h
      · obtain ⟨ws, _, _, hwarn, hrest, hlogged⟩ := Logged.warns_bind_iff.mp h
        obtain ⟨⟨fields, more⟩, _, _, hmembers, hlast, hlogged'⟩ := Logged.warns_bind_iff.mp hrest
        obtain ⟨hresult, hnone⟩ := Logged.warns_pure_iff.mp hlast
        rw [hlogged, hlogged', hnone, reports_warn _ _ _ hwarn, ih _ _ _ hmembers, ← hresult,
          List.append_nil]
        rfl
      · cases h.1
    · obtain ⟨ws, _, _, hcheck, hrest, hlogged⟩ := Logged.warns_bind_iff.mp h
      obtain ⟨target, -, hrest⟩ := (quiet_ofChecked _).warns_of_bind hrest
      obtain ⟨⟨fields, more⟩, _, _, hmembers, hlast, hlogged'⟩ := Logged.warns_bind_iff.mp hrest
      obtain ⟨hresult, hnone⟩ := Logged.warns_pure_iff.mp hlast
      rw [hlogged, hlogged', hnone, reports_check _ _ _ hcheck, ih _ _ _ hmembers, ← hresult,
        List.append_nil]
      rfl

/-- **A resolution** gives back the warnings that it writes. -/
theorem reports_resolve (r : Resolver) (c : Collection) : Reports Prod.snd (r.resolve c) := by
  unfold resolve
  refine (quiet_ofChecked _).reports_bind fun key => ?_
  split
  · intro _ logged h
    obtain ⟨rfl, rfl⟩ := Logged.warns_pure_iff.mp h
    rfl
  · refine (quiet_ofChecked _).reports_bind fun name => ?_
    intro result logged h
    obtain ⟨⟨fields, ws⟩, _, _, hmembers, hrest, hlogged⟩ := Logged.warns_bind_iff.mp h
    obtain ⟨_, -, hlast⟩ := (quiet_note debug_ne_warning _).warns_of_bind hrest
    obtain ⟨hresult, hnone⟩ := Logged.warns_pure_iff.mp hlast
    rw [hlogged, hnone, reports_members _ _ _ _ _ hmembers, List.append_nil, ← hresult]

end Resolver

/-! ## Modules -/

/-- **A module** gives back the warnings that are written while it is built. -/
theorem ModelModule.reports_build (c : Collection) (resolver? : Option Resolver) :
    Reports Prod.snd (build c resolver?) := by
  have hexpansion : Reports Prod.snd (expansion resolver? c) := by
    cases resolver? with
    | some r => exact Resolver.reports_resolve r c
    | none =>
      intro _ logged h
      obtain ⟨rfl, rfl⟩ := Logged.warns_pure_iff.mp h
      rfl
  unfold build
  refine (quiet_note debug_ne_warning _).reports_bind fun _ => ?_
  refine (Logged.quiet_mapM EnumSpec.quiet_resolve _).reports_bind fun enums => ?_
  refine (quiet_ofOutcome _).reports_bind fun _ => ?_
  refine (quiet_ofOutcome _).reports_bind fun _ => ?_
  refine (Logged.quiet_mapM Member.quiet_ofField _).reports_bind fun fieldMembers => ?_
  intro result logged h
  obtain ⟨⟨expand?, ws⟩, _, _, hws, hrest, hlogged⟩ := Logged.warns_bind_iff.mp h
  obtain ⟨_, -, hrest⟩ := (quiet_ofOutcome _).warns_of_bind hrest
  obtain ⟨name, -, hrest⟩ := (quiet_ofChecked _).warns_of_bind hrest
  obtain ⟨imports, -, hrest⟩ := (quiet_ofChecked _).warns_of_bind hrest
  obtain ⟨hresult, hnone⟩ := Logged.warns_pure_iff.mp hrest
  rw [hlogged, hnone, hexpansion _ _ hws, List.append_nil, ← hresult]

namespace Package

open Files (Path Disk)

theorem reports_draftModules (resolver : Resolver) (directory : Path) (cs : List Collection) :
    Reports Prod.snd (draftModules resolver directory cs) := by
  induction cs with
  | nil =>
    intro _ logged h
    obtain ⟨rfl, rfl⟩ := Logged.warns_pure_iff.mp h
    rfl
  | cons c cs ih =>
    intro result logged h
    rw [draftModules] at h
    obtain ⟨⟨m, ws⟩, _, _, hbuild, hrest, hlogged⟩ := Logged.warns_bind_iff.mp h
    obtain ⟨code, -, hrest⟩ := (quiet_ofChecked _).warns_of_bind hrest
    obtain ⟨⟨others, more⟩, _, _, hothers, hlast, hlogged'⟩ := Logged.warns_bind_iff.mp hrest
    obtain ⟨hresult, hnone⟩ := Logged.warns_pure_iff.mp hlast
    rw [hlogged, hlogged', hnone, ModelModule.reports_build _ _ _ _ hbuild, ih _ _ hothers,
      List.append_nil, ← hresult]

/-- Warnings written one after the other are all in the log. -/
theorem warnings_notes (ms : List String) :
    Log.warnings (ms.forM fun m => Logged.note .warning m).entries = ms := by
  induction ms with
  | nil => rfl
  | cons m ms ih => exact congrArg (m :: ·) ih

/-- The names that the package leaves out are warned about one after the other. -/
theorem reports_exports (modules : List ModelModule) : Reports Prod.snd (exports modules) := by
  intro result logged h
  unfold exports at h
  obtain ⟨_, _, _, hnotes, hlast, hlogged⟩ := Logged.warns_bind_iff.mp h
  obtain ⟨hresult, hnone⟩ := Logged.warns_pure_iff.mp hlast
  rw [hlogged, hnone, List.append_nil, ← hnotes.2, warnings_notes, ← hresult]

/-- **The draft of a package** has the warnings that are written while it is made. -/
theorem reports_draft (request : Request) (cs : List Collection) :
    Reports Draft.warnings (draft request cs) := by
  unfold draft
  refine (quiet_ofChecked _).reports_bind fun resolver => ?_
  intro result logged h
  obtain ⟨⟨modules, ws⟩, _, _, hmodules, hrest, hlogged⟩ := Logged.warns_bind_iff.mp h
  obtain ⟨geoPoint, -, hrest⟩ := (quiet_ofChecked _).warns_of_bind hrest
  obtain ⟨geoCode, -, hrest⟩ := (quiet_ofChecked _).warns_of_bind hrest
  obtain ⟨⟨es, ews⟩, _, _, hexports, hlast, hlogged'⟩ := Logged.warns_bind_iff.mp hrest
  obtain ⟨hresult, hnone⟩ := Logged.warns_pure_iff.mp hlast
  rw [hlogged, hlogged', hnone, reports_draftModules _ _ _ _ _ hmodules,
    reports_exports _ _ _ hexports, List.append_nil, ← hresult]

/-! ## Files -/

theorem quiet_writeWhole (p : Path) (text : String) : Task.Quiet (Disk.writeWhole p text) := by
  unfold Disk.writeWhole
  refine Task.quiet_get.bind fun d => (Task.quiet_set _).bind fun _ => ?_
  split
  · exact Task.quiet_note debug_ne_warning _
  · exact Task.quiet_refuse _

theorem quiet_writeFiles (total done : Nat) (files : List (Path × String)) :
    Task.Quiet (writeFiles total done files) := by
  induction files generalizing done with
  | nil => exact Task.quiet_pure ()
  | cons f files ih =>
    exact (quiet_writeWhole _ _).bind fun _ =>
      (Task.quiet_note info_ne_warning _).bind fun _ => ih _

theorem quiet_removeAggregator (p : Path) : Task.Quiet (removeAggregator p) := by
  unfold removeAggregator
  refine Task.quiet_get.bind fun d => ?_
  split
  · exact (Task.quiet_set _).bind fun _ => Task.quiet_note debug_ne_warning _
  · exact Task.quiet_pure ()
  · exact Task.quiet_refuse _

/-- **The warnings in the report of a run** are those in its log. -/
theorem reports_generate {request : Request} {d d' : Disk} {report : RunReport} {ws : List String}
    (h : (generate request).Warns d d' report ws) : ws = report.warnings := by
  unfold generate at h
  obtain ⟨cs, d₁, -, h⟩ := (Task.quiet_lift (quiet_ofChecked _)).warns_of_bind h
  obtain ⟨_, d₂, -, h⟩ := (Task.quiet_note info_ne_warning _).warns_of_bind h
  obtain ⟨_, d₃, -, h⟩ := Task.Quiet.warns_of_bind
    ((Task.quiet_lift (quiet_ofOutcome _)).bind fun _ => Task.quiet_pure ()) h
  obtain ⟨_, d₄, -, h⟩ := (quiet_removeAggregator _).warns_of_bind h
  obtain ⟨draft, d₅, ⟨-, hdraft⟩, h⟩ := Task.Quiet.warns_bind (fun draft =>
    (quiet_writeFiles _ _ _).bind fun _ => (quiet_writeWhole _ _).bind fun _ =>
      (Task.quiet_note info_ne_warning _).bind fun _ => Task.quiet_pure _) h
  obtain ⟨_, d₆, -, h⟩ := Task.ends_bind_ok_iff.mp h
  obtain ⟨_, d₇, -, h⟩ := Task.ends_bind_ok_iff.mp h
  obtain ⟨_, d₈, -, -, h⟩ := Task.ends_bind_ok_iff.mp h
  rw [reports_draft _ _ _ _ hdraft, ← Except.ok.inj h]

end Package

end SchemaModels
