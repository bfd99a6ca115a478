import Mathlib.Data.List.Nodup
import SchemaModels.Module
import SchemaModels.Proofs.Expansion

/-!
# What a built module is made of

`build_eq_ok_iff` inverts `ModelModule.build`: a collection is built iff its name is a text, the
enums, members and expansions can be made, and no two names become one; `BuiltFrom` then gives each
part of the module. Everything that is proved of built modules starts there.
-/

namespace SchemaModels.ModelModule

variable {c : Collection} {resolver? : Option Resolver}

/-! ## Checks on names -/

theorem firstRepeated_eq_none_iff {names seen : List String} :
    firstRepeated seen names = none ↔ names.Nodup ∧ ∀ n ∈ names, n ∉ seen := by
  induction names generalizing seen with
  | nil => simp [firstRepeated]
  | cons n ns ih =>
    rw [firstRepeated]
    by_cases h : seen.contains n = true
    · rw [if_pos h]
      simp only [List.contains_iff_mem] at h
      simp [h]
    · rw [if_neg h, ih, List.nodup_cons]
      simp only [List.contains_iff_mem] at h
      constructor
      · rintro ⟨hnodup, hseen⟩
        refine ⟨⟨fun hn => hseen n hn List.mem_cons_self, hnodup⟩, ?_⟩
        exact List.forall_mem_cons.mpr
          ⟨h, fun m hm hs => hseen m hm (List.mem_cons_of_mem n hs)⟩
      · rintro ⟨⟨hn, hnodup⟩, hseen⟩
        refine ⟨hnodup, fun m hm hs => ?_⟩
        rcases List.mem_cons.mp hs with rfl | hs
        · exact hn hm
        · exact hseen m (List.mem_cons_of_mem n hm) hs

theorem requireDistinct_eq_ok_iff {source : NameSource} {collection : Json} {names : List String}
    {u : Unit} : requireDistinct source collection names = .ok u ↔ names.Nodup := by
  have h := @firstRepeated_eq_none_iff names []
  unfold requireDistinct
  cases hr : firstRepeated [] names with
  | none => simpa using h.mp hr
  | some n =>
    rw [hr] at h
    simpa using h

theorem requireFreeEnumNames_eq_ok_iff {collection : Json} {enums : List EnumSpec} {u : Unit} :
    requireFreeEnumNames collection enums = .ok u ↔
      ∀ e ∈ enums, e.name ∉ Naming.moduleNames := by
  unfold requireFreeEnumNames
  cases h : enums.find? fun e => Naming.moduleNames.contains e.name with
  | none => simpa using h
  | some e =>
    have hmem := List.mem_of_find?_eq_some h
    have hname := List.find?_some h
    simp only [List.contains_iff_mem] at hname
    simp only [reduceCtorEq, false_iff, not_forall, not_not]
    exact ⟨e, hmem, hname⟩

/-! ## The parts of a module -/

/-- The members of a data class: those of the fields, then the one for related records. -/
def dataMembers (fieldMembers : List Member) (expand? : Option ExpandSpec) : List Member :=
  fieldMembers ++ (expand?.map Member.expand).toList

/-- **The parts of a built module.** The collection has the text `name` for its name, and its fields
give the members `fieldMembers`. -/
structure BuiltFrom (c : Collection) (resolver? : Option Resolver) (name : String)
    (fieldMembers : List Member) (m : ModelModule) (warnings : List String) : Prop where
  collection : c.name = .text name
  enums : (EnumSpec.ofCollection c).outcome = .ok m.enums
  enums_distinct : (m.enums.map (·.name)).Nodup
  enums_free : ∀ e ∈ m.enums, e.name ∉ Naming.moduleNames
  fields : (c.fields.mapM Member.ofField).outcome = .ok fieldMembers
  expanded : (expansion resolver? c).outcome = .ok (m.expand?, warnings)
  members_distinct : ((dataMembers fieldMembers m.expand?).map (·.identifier)).Nodup
  module_name : m.name = Naming.moduleName name
  docstring : m.docstring =
    "Models for the PocketBase '" ++ name ++ "' collection.\n\n" ++ notice ++ "\n"
  data_class : m.dataClass =
    { name := Naming.typeName name Naming.dataSuffix
      docstring := "Record of the '" ++ name ++ "' collection."
      members := dataMembers fieldMembers m.expand?
      collectionId? := some c.id
      collectionName? := some name }
  expand_class : m.expandClass? = m.expand?.map (expandClass c.name)
  imports : headImports m.dataClass m.enums m.expandClass? = .ok m.imports
  deferred : m.deferredImports = relatedImports m.expand?

/-- **A module is built** iff it has its parts. -/
theorem build_eq_ok_iff {m : ModelModule} {warnings : List String} :
    (build c resolver?).outcome = .ok (m, warnings) ↔
      ∃ name fieldMembers, BuiltFrom c resolver? name fieldMembers m warnings := by
  unfold build
  simp only [Logged.outcome_bind_eq_ok, Logged.outcome_note, Logged.outcome_ofOutcome,
    Logged.outcome_ofChecked, Logged.outcome_pure, ofFault_eq_ok_iff, requireDistinct_eq_ok_iff,
    requireFreeEnumNames_eq_ok_iff, Naming.expectText_eq_ok_iff]
  constructor
  · rintro ⟨-, -, enums, henums, -, hdistinct, -, hfree, fieldMembers, hfields, ⟨expand?, ws⟩,
      hexpand, -, hmembers, name, hname, imports, himports, h⟩
    simp only [Except.ok.injEq, Prod.mk.injEq] at h
    obtain ⟨rfl, rfl⟩ := h
    exact ⟨name, fieldMembers, hname, henums, hdistinct, hfree, hfields, hexpand, hmembers,
      rfl, rfl, rfl, rfl, himports, rfl⟩
  · rintro ⟨name, fieldMembers, h⟩
    refine ⟨(), trivial, m.enums, h.enums, (), h.enums_distinct, (), h.enums_free, fieldMembers,
      h.fields, (m.expand?, warnings), h.expanded, (), h.members_distinct, name, h.collection,
      m.imports, ?_, ?_⟩
    · have himports := h.imports
      rw [h.data_class, h.expand_class] at himports
      exact himports
    · have hname := h.module_name
      have hdoc := h.docstring
      have hdata := h.data_class
      have hexpand := h.expand_class
      have hdeferred := h.deferred
      obtain ⟨_, _, _, _, _, _, _, _⟩ := m
      simp only at hname hdoc hdata hexpand hdeferred
      subst hname hdoc hdata hexpand hdeferred
      rfl

/-- **The companion class that is found for a collection** has the name that its collection gives
it, and members of their own for mappings of the resolver. -/
theorem expansion_eq_ok {name : String} {expand? : Option ExpandSpec} {warnings : List String}
    (hname : c.name = .text name) (h : (expansion resolver? c).outcome = .ok (expand?, warnings))
    {e : ExpandSpec} (he : expand? = some e) :
    e.name = Naming.typeName name Naming.expandSuffix ∧ (e.fields.map (·.identifier)).Nodup ∧
      ∀ f ∈ e.fields, ∃ r mapping raw target, resolver? = some r ∧ mapping ∈ r.mappings ∧
        Resolver.MadeFrom r c (Naming.moduleName name) warnings mapping f raw target := by
  unfold expansion at h
  cases resolver? with
  | none =>
    rw [Logged.outcome_pure, Except.ok.injEq, Prod.mk.injEq, he] at h
    cases h.1
  | some r =>
    obtain ⟨hexpand, hdistinct, hfields⟩ := Resolver.resolve_eq_ok hname h e he
    refine ⟨hexpand, hdistinct, fun f hf => ?_⟩
    obtain ⟨mapping, hm, raw, target, hmade⟩ := hfields f hf
    exact ⟨r, mapping, raw, target, rfl, List.mem_of_mem_filter hm, hmade⟩

/-- **The expansions of a built module** come from mappings of its resolver, and have identifiers of
their own. -/
theorem BuiltFrom.expand_fields {name : String} {fieldMembers : List Member} {m : ModelModule}
    {warnings : List String} (h : BuiltFrom c resolver? name fieldMembers m warnings)
    {e : ExpandSpec} (he : m.expand? = some e) :
    e.name = Naming.typeName name Naming.expandSuffix ∧ (e.fields.map (·.identifier)).Nodup ∧
      ∀ f ∈ e.fields, ∃ r mapping raw target, resolver? = some r ∧ mapping ∈ r.mappings ∧
        Resolver.MadeFrom r c m.name warnings mapping f raw target := by
  rw [h.module_name]
  exact expansion_eq_ok h.collection h.expanded he

/-- The members of a built data class: those of the fields, and the one for related records. -/
theorem BuiltFrom.mem_members_iff {name : String} {fieldMembers : List Member} {m : ModelModule}
    {warnings : List String} (h : BuiltFrom c resolver? name fieldMembers m warnings) {i : Member} :
    i ∈ m.dataClass.members ↔
      i ∈ fieldMembers ∨ ∃ e, m.expand? = some e ∧ i = Member.expand e := by
  rw [h.data_class]
  unfold dataMembers
  rw [List.mem_append, Option.mem_toList, Option.map_eq_some_iff]
  simp [eq_comm]

/-- Every member of a field has the hint of its type. -/
theorem BuiltFrom.field_member {name : String} {fieldMembers : List Member} {m : ModelModule}
    {warnings : List String} (h : BuiltFrom c resolver? name fieldMembers m warnings) {i : Member}
    (hi : i ∈ fieldMembers) : ∃ f ∈ c.fields, ∃ raw t, f.name = .text raw ∧
      FieldType.ofField f = .ok t ∧ i.identifier = Naming.memberName raw ∧
        i.hint = t.hint?.getD "" ∧
        i.meaning? = some t.meaning := by
  obtain ⟨f, hf, hmade⟩ := exists_left_of_forall₂ (Logged.outcome_mapM_eq_ok_iff.mp h.fields) hi
  obtain ⟨raw, t, hraw, ht, heq⟩ := Member.ofField_eq_ok_iff.mp hmade
  refine ⟨f, hf, raw, t, hraw, ht, ?_, ?_, ?_⟩
  · rw [heq]
  · rw [heq]
  · rw [heq]

end SchemaModels.ModelModule
