import SchemaModels.Expansion
import SchemaModels.Proofs.Module.Members

/-!
# What expansions are made of

`Resolver.resolve_eq_ok` inverts a resolution: the companion class of a collection has the name that
its collection gives it, and every member of it comes from a mapping (`MadeFrom`) whose target the
resolver has checked; no two members have one identifier. A target that passes the check without a
warning has a model (`target_of_check`).
-/

namespace SchemaModels.Resolver

open Naming (charactersOf_eq_ok_iff expectText_eq_ok_iff)

variable {r : Resolver} {c : Collection}

theorem member_identifier (sourceModule identifier rawName target : String) (isSingle : Bool) :
    (member sourceModule identifier rawName target isSingle).identifier = identifier := rfl

theorem member_rawName (sourceModule identifier rawName target : String) (isSingle : Bool) :
    (member sourceModule identifier rawName target isSingle).rawName = rawName := rfl

/-- **The member of a mapping** with a field and a target that are texts. -/
structure MadeFrom (r : Resolver) (c : Collection) (sourceModule : String) (warnings : List String)
    (m : Mapping) (f : ExpandField) (raw target : String) : Prop where
  source : m.field = .text raw
  refers : m.target = .text target
  made : f = member sourceModule (Naming.memberName raw) raw target m.isSingle
  checked : ∃ ws, (r.check c m).outcome = .ok ws ∧ ws ⊆ warnings

theorem MadeFrom.mono {sourceModule : String} {warnings warnings' : List String} {m : Mapping}
    {f : ExpandField} {raw target : String}
    (h : MadeFrom r c sourceModule warnings m f raw target) (hw : warnings ⊆ warnings') :
    MadeFrom r c sourceModule warnings' m f raw target := by
  obtain ⟨ws, hws, hsub⟩ := h.checked
  exact ⟨h.source, h.refers, h.made, ws, hws, fun w hw' => hw (hsub hw')⟩

section MadeFrom

variable {sourceModule raw target : String} {warnings : List String} {m : Mapping} {f : ExpandField}

theorem MadeFrom.type (h : MadeFrom r c sourceModule warnings m f raw target) :
    f.targetType = Naming.typeName target Naming.dataSuffix := by
  rw [h.made]
  rfl

theorem MadeFrom.module (h : MadeFrom r c sourceModule warnings m f raw target) :
    f.targetModule = Naming.moduleName target := by
  rw [h.made]
  rfl

theorem MadeFrom.identifier (h : MadeFrom r c sourceModule warnings m f raw target) :
    f.identifier = Naming.memberName raw := by
  rw [h.made, member_identifier]

theorem MadeFrom.rawName (h : MadeFrom r c sourceModule warnings m f raw target) :
    f.rawName = raw := by
  rw [h.made, member_rawName]

/-- A member says that it refers to its own module just if it does. -/
theorem MadeFrom.isSelfReference (h : MadeFrom r c sourceModule warnings m f raw target) :
    f.isSelfReference = (f.targetModule == sourceModule) := by
  rw [h.made]
  rfl

end MadeFrom

/-- **One mapping of the walk**: it repeats an earlier one, or adds a member that none had asked
for. -/
theorem members_cons_eq_ok {sourceModule : String} {m : Mapping} {ms : List Mapping}
    {seen : List (Mapping × String)} {fields : List ExpandField} {warnings : List String}
    (h : (r.members c sourceModule seen (m :: ms)).outcome = .ok (fields, warnings)) :
    ∃ ws more, warnings = ws ++ more ∧
      ((∃ e ∈ seen, e.1.same m = true ∧
          (r.members c sourceModule seen ms).outcome = .ok (fields, more)) ∨
        ∃ raw target rest, m.field = .text raw ∧ m.target = .text target ∧
          (r.check c m).outcome = .ok ws ∧ (∀ e ∈ seen, e.2 ≠ Naming.memberName raw) ∧
          fields = member sourceModule (Naming.memberName raw) raw target m.isSingle :: rest ∧
          (r.members c sourceModule (seen ++ [(m, Naming.memberName raw)]) ms).outcome =
            .ok (rest, more)) := by
  rw [members] at h
  obtain ⟨raw, hraw, h⟩ := Logged.outcome_bind_eq_ok.mp h
  simp only at h
  split at h
  · rename_i hfind
    split at h
    · rename_i hsame
      obtain ⟨ws, -, h⟩ := Logged.outcome_bind_eq_ok.mp h
      obtain ⟨⟨fs, more⟩, hrest, h⟩ := Logged.outcome_bind_eq_ok.mp h
      rw [Logged.outcome_pure, Except.ok.injEq, Prod.mk.injEq] at h
      obtain ⟨rfl, rfl⟩ := h
      exact ⟨ws, more, rfl, Or.inl ⟨_, List.mem_of_find?_eq_some hfind, hsame, hrest⟩⟩
    · rw [Logged.outcome_refuse] at h
      cases h
  · rename_i hfind
    obtain ⟨ws, hcheck, h⟩ := Logged.outcome_bind_eq_ok.mp h
    obtain ⟨target, htarget, h⟩ := Logged.outcome_bind_eq_ok.mp h
    obtain ⟨⟨fs, more⟩, hrest, h⟩ := Logged.outcome_bind_eq_ok.mp h
    rw [Logged.outcome_pure, Except.ok.injEq, Prod.mk.injEq] at h
    obtain ⟨rfl, rfl⟩ := h
    refine ⟨ws, more, rfl, Or.inr ⟨raw, target, fs, charactersOf_eq_ok_iff.mp
      (ofFault_eq_ok_iff.mp hraw), expectText_eq_ok_iff.mp (ofFault_eq_ok_iff.mp htarget), hcheck,
      fun e he heq => ?_, rfl, hrest⟩⟩
    have hnot := List.find?_eq_none.mp hfind e he
    rw [beq_iff_eq] at hnot
    exact hnot heq

/-- Every member comes from one of the mappings. -/
theorem members_eq_ok {sourceModule : String} {ms : List Mapping} :
    ∀ {seen : List (Mapping × String)} {fields : List ExpandField} {warnings : List String},
      (r.members c sourceModule seen ms).outcome = .ok (fields, warnings) →
      ∀ f ∈ fields, ∃ m ∈ ms, ∃ raw target, MadeFrom r c sourceModule warnings m f raw target := by
  induction ms with
  | nil =>
    intro seen fields warnings h
    rw [members, Logged.outcome_pure] at h
    cases h
    simp
  | cons m ms ih =>
    intro seen fields warnings h f hf
    obtain ⟨ws, more, rfl, ⟨-, -, -, hrest⟩ |
      ⟨raw, target, rest, hraw, htarget, hcheck, -, rfl, hrest⟩⟩ := members_cons_eq_ok h
    · obtain ⟨m', hm', raw', target, hmade⟩ := ih hrest f hf
      exact ⟨m', List.mem_cons_of_mem m hm', raw', target,
        hmade.mono (List.subset_append_right _ _)⟩
    · rcases List.mem_cons.mp hf with rfl | hf
      · exact ⟨m, List.mem_cons_self, raw, target, hraw, htarget, rfl, ws, hcheck,
          List.subset_append_left _ _⟩
      · obtain ⟨m', hm', raw', target', hmade⟩ := ih hrest f hf
        exact ⟨m', List.mem_cons_of_mem m hm', raw', target',
          hmade.mono (List.subset_append_right _ _)⟩

/-- No two members have one identifier, and none has that of a mapping gone through before. -/
theorem distinct_of_members {sourceModule : String} {ms : List Mapping} :
    ∀ {seen : List (Mapping × String)} {fields : List ExpandField} {warnings : List String},
      (r.members c sourceModule seen ms).outcome = .ok (fields, warnings) →
      (fields.map (·.identifier)).Nodup ∧ ∀ f ∈ fields, ∀ e ∈ seen, e.2 ≠ f.identifier := by
  induction ms with
  | nil =>
    intro seen fields warnings h
    rw [members, Logged.outcome_pure] at h
    cases h
    simp
  | cons m ms ih =>
    intro seen fields warnings h
    obtain ⟨ws, more, rfl, ⟨-, -, -, hrest⟩ |
      ⟨raw, target, rest, -, -, -, hfresh, rfl, hrest⟩⟩ := members_cons_eq_ok h
    · exact ih hrest
    · generalize Naming.memberName raw = identifier at hfresh hrest ⊢
      obtain ⟨hnodup, happart⟩ := ih hrest
      constructor
      · rw [List.map_cons, List.nodup_cons, member_identifier]
        refine ⟨fun hmem => ?_, hnodup⟩
        obtain ⟨f, hf, heq⟩ := List.mem_map.mp hmem
        exact happart f hf (m, identifier) (List.mem_append_right _ (List.mem_singleton_self _))
          heq.symm
      · intro f hf e he
        rcases List.mem_cons.mp hf with rfl | hf
        · rw [member_identifier]
          exact hfresh e he
        · exact happart f hf e (List.mem_append_left _ he)

/-- The companion class of a collection with the given members. -/
def companion (name : String) (fields : List ExpandField) : ExpandSpec :=
  { name := Naming.typeName name Naming.expandSuffix, collection := name, fields }

theorem resolve_absent {name : String} (hname : c.name = .text name)
    (hnil : r.mappingsFor c.name = []) :
    r.resolve c = pure (none, []) := by
  unfold resolve
  rw [hname] at hnil ⊢
  change Logged.ofChecked (.ok (Json.text name)) >>= _ = _
  simp only [Logged.ofChecked_ok, pure_bind, hnil]

theorem resolve_present {name : String} (hname : c.name = .text name)
    (hne : r.mappingsFor c.name ≠ []) :
    r.resolve c = r.members c (Naming.moduleName name) [] (r.mappingsFor c.name) >>= fun x =>
      Logged.note .debug
        s!"Resolved {(companion name x.1).name} with {x.1.length} expansion fields" >>= fun _ =>
          pure (some (companion name x.1), x.2) := by
  obtain ⟨m, ms, hms⟩ := List.exists_cons_of_ne_nil hne
  unfold resolve
  rw [hname] at hms ⊢
  change Logged.ofChecked (.ok (Json.text name)) >>= _ = _
  simp only [Logged.ofChecked_ok, pure_bind, hms]
  rfl

/-- **A resolution** gives no companion class, or one of the collection's name with a member for
each of some of its mappings, under identifiers of their own. -/
theorem resolve_eq_ok {name : String} {expand? : Option ExpandSpec} {warnings : List String}
    (hname : c.name = .text name) (h : (r.resolve c).outcome = .ok (expand?, warnings)) :
    ∀ e, expand? = some e → e.name = Naming.typeName name Naming.expandSuffix ∧
      (e.fields.map (·.identifier)).Nodup ∧ ∀ f ∈ e.fields, ∃ m ∈ r.mappingsFor c.name,
        ∃ raw target, MadeFrom r c (Naming.moduleName name) warnings m f raw target := by
  by_cases hnil : r.mappingsFor c.name = []
  · rw [resolve_absent hname hnil, Logged.outcome_pure] at h
    cases h
    simp
  · rw [resolve_present hname hnil] at h
    obtain ⟨⟨fields, ws⟩, hmembers, h⟩ := Logged.outcome_bind_eq_ok.mp h
    obtain ⟨_, -, h⟩ := Logged.outcome_bind_eq_ok.mp h
    rw [Logged.outcome_pure, Except.ok.injEq, Prod.mk.injEq] at h
    obtain ⟨rfl, rfl⟩ := h
    intro e he
    rw [Option.some.injEq] at he
    subst he
    exact ⟨rfl, (distinct_of_members hmembers).1, fun f hf => members_eq_ok hmembers f hf⟩

/-- The second half of a check: what there is to say about the target, after the field. -/
def checkTarget (r : Resolver) (m : Mapping) (field : List String) : Logged (List String) := do
  let target ← Logged.ofChecked (lookupKey m.target)
  if isAmong r.emitted target then pure field
  else if r.strict then Logged.refuse (.unresolvedTarget m (isAmong r.known m.target))
  else return field ++ (← warn (r.targetWarning m))

/-- A check is about the field first, then about the target. -/
theorem check_eq (r : Resolver) (c : Collection) (m : Mapping) : r.check c m =
    (if (c.field? m.field).isNone then warn (fieldWarning c m) else pure []) >>=
      r.checkTarget m := by
  unfold check
  simp only
  split
  · rfl
  · rfl

theorem outcome_warn (message : String) : (warn message).outcome = .ok [message] := rfl

/-- What is said about the field of a mapping stops no check. -/
theorem outcome_check (r : Resolver) (c : Collection) (m : Mapping) :
    ∃ field, (r.check c m).outcome = (r.checkTarget m field).outcome := by
  rw [check_eq, Logged.outcome_bind]
  split
  · exact ⟨_, rfl⟩
  · exact ⟨_, rfl⟩

/-- Looking up a text gives the text. -/
theorem checkTarget_text {m : Mapping} {target : String} {field : List String}
    (ht : m.target = .text target) :
    r.checkTarget m field =
      if isAmong r.emitted m.target then pure field
      else if r.strict then Logged.refuse (.unresolvedTarget m (isAmong r.known m.target))
      else warn (r.targetWarning m) >>= fun ws => pure (field ++ ws) := by
  unfold checkTarget
  rw [ht]
  exact pure_bind _ _

theorem target_of_checkTarget {m : Mapping} {target : String} {field warnings : List String}
    (htarget : m.target = .text target) (h : (r.checkTarget m field).outcome = .ok warnings)
    (hw : r.strict = true ∨ r.targetWarning m ∉ warnings) : target ∈ r.emitted := by
  rw [checkTarget_text htarget] at h
  by_cases hemitted : isAmong r.emitted m.target = true
  · rw [htarget] at hemitted
    simpa [isAmong] using hemitted
  · rw [if_neg hemitted] at h
    by_cases hstrict : r.strict = true
    · rw [if_pos hstrict, Logged.outcome_refuse] at h
      cases h
    · rw [if_neg hstrict] at h
      obtain ⟨ws, hws, h⟩ := Logged.outcome_bind_eq_ok.mp h
      rw [outcome_warn, Except.ok.injEq] at hws
      rw [Logged.outcome_pure, Except.ok.injEq] at h
      rw [← h, ← hws] at hw
      exact absurd (hw.resolve_left hstrict) (by simp)

/-- **A checked target has a model**, if the check is strict or gives no warning about it. -/
theorem target_of_check {m : Mapping} {target : String} {warnings : List String}
    (htarget : m.target = .text target) (h : (r.check c m).outcome = .ok warnings)
    (hw : r.strict = true ∨ r.targetWarning m ∉ warnings) : target ∈ r.emitted := by
  obtain ⟨field, hfield⟩ := outcome_check r c m
  exact target_of_checkTarget htarget (hfield ▸ h) hw

end SchemaModels.Resolver
