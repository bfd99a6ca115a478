import SchemaModels.Proofs.Enum
import SchemaModels.Proofs.Module.Statements

/-!
# Modules without related records

Two things decide about the module of a collection without expansions: its fields, whether it is
built, and its class name, whether it is written out (`void_render`). A module that can be built
with expansions can be built without, under any name (`BuiltFrom.bare`), and if it can be written
out with them then so it can without (`exists_render_bare`).
-/

namespace SchemaModels

open Source.Hint (Refers parse Plain)

variable {c : Collection} {resolver? : Option Resolver} {name : String} {fieldMembers : List Member}
  {m : ModelModule} {warnings : List String}

/-! ## Writing out -/

/-- Whether a check goes through, and its fault if it does not. -/
def void {ε α : Type} (x : Except ε α) : Except ε Unit := x.map fun _ => ()

theorem exists_parse_of_refers {s : String} {names : List String} (h : Refers s names) :
    ∃ e, parse s = .ok e := by
  obtain ⟨e, he, -⟩ := h
  exact ⟨e, he⟩

/-- The class of an enum whose name can be read can be written out. -/
theorem EnumSpec.exists_statement {e : EnumSpec} (h : Plain e.name) : ∃ s, e.statement = .ok s := by
  obtain ⟨text, htext⟩ := exists_parse_of_refers refers_str
  unfold statement
  rw [htext, Source.Hint.parse_plain h]
  exact ⟨_, rfl⟩

/-- **A class whose members' hints can be read** is written out just as its name is read. -/
theorem ClassSpec.void_statement {c : ClassSpec} (h : ∀ i ∈ c.members, ∃ e, parse i.hint = .ok e) :
    void c.statement = void (parse c.name) := by
  obtain ⟨constant, hconstant⟩ := exists_parse_of_refers refers_constant
  obtain ⟨record, hrecord⟩ := exists_parse_of_refers refers_record
  obtain ⟨any, hany⟩ := exists_parse_of_refers refers_any
  obtain ⟨constants, hconstants⟩ : ∃ ss, c.constants = .ok ss := by
    unfold constants
    cases c.collectionName? with
    | none => exact ⟨_, rfl⟩
    | some name =>
      rw [hconstant]
      exact ⟨_, rfl⟩
  obtain ⟨members, hmembers⟩ : ∃ ss, c.members.mapM Member.statement = .ok ss := by
    refine exists_mapM_eq_ok fun i hi => ?_
    obtain ⟨hint, hhint⟩ := h i hi
    unfold Member.statement
    rw [hhint]
    exact ⟨_, rfl⟩
  obtain ⟨writer, hwriter⟩ : ∃ s, ClassSpec.writer = .ok s := by
    unfold writer
    rw [hrecord]
    exact ⟨_, rfl⟩
  obtain ⟨validator, hvalidator⟩ : ∃ s, blankValidator c.blankMembers = .ok s := by
    unfold blankValidator
    rw [hany]
    exact ⟨_, rfl⟩
  unfold statement reader
  rw [hconstants, hmembers, hwriter, hvalidator, hrecord]
  cases parse c.name with
  | error f => cases c.blankMembers.isEmpty <;> rfl
  | ok self => cases c.blankMembers.isEmpty <;> rfl

namespace ModelModule

/-- The imports at the head of a module can be found just if the hints of its members can be
read. -/
theorem exists_headImports_iff (dataClass : ClassSpec) (enums : List EnumSpec)
    (expandClass? : Option ClassSpec) :
    (∃ specs, headImports dataClass enums expandClass? = .ok specs) ↔
      ∀ i ∈ dataClass.members ++ (expandClass?.map (·.members)).getD [],
        ∃ e, parse i.hint = .ok e := by
  unfold headImports
  constructor
  · rintro ⟨specs, h⟩ i hi
    obtain ⟨hints, hhints, -⟩ := except_bind_eq_ok_iff.mp h
    obtain ⟨e, -, he⟩ := exists_right_of_forall₂ (except_mapM_eq_ok_iff.mp hhints) hi
    exact ⟨e, he⟩
  · intro h
    obtain ⟨hints, hhints⟩ := exists_mapM_eq_ok h
    exact ⟨_, except_bind_eq_ok_iff.mpr ⟨hints, hhints, rfl⟩⟩

/-- The hints of all fields of a built module can be read. -/
theorem BuiltFrom.exists_parse (h : BuiltFrom c resolver? name fieldMembers m warnings) :
    ∀ i ∈ fieldMembers, ∃ e, parse i.hint = .ok e := fun i hi =>
  (exists_headImports_iff _ _ _).mp ⟨_, h.imports⟩ i
    (List.mem_append_left _ (h.mem_members_iff.mpr (Or.inl hi)))

/-- **Writing out a module without related records** ends as reading its class name does. -/
theorem void_render (h : BuiltFrom c resolver? name fieldMembers m warnings)
    (hnone : m.expand? = none) :
    void m.render = void (parse (Naming.typeName name Naming.dataSuffix)) := by
  have hexpand := h.expand_class
  rw [hnone] at hexpand
  have hdata := ClassSpec.void_statement fun i hi =>
    (exists_headImports_iff _ _ _).mp ⟨_, h.imports⟩ i (List.mem_append_left _ hi)
  obtain ⟨enums, henums⟩ : ∃ ss, m.enums.mapM EnumSpec.statement = .ok ss := by
    refine exists_mapM_eq_ok fun e he => EnumSpec.exists_statement ?_
    obtain ⟨f, -, hmade⟩ := EnumSpec.field_of_ofCollection h.enums he
    obtain ⟨raw, -, hname⟩ := EnumSpec.ofField_eq_ok hmade.2
    rw [hname]
    exact Naming.enumTypeName_plain raw
  have hname : m.dataClass.name = Naming.typeName name Naming.dataSuffix := by rw [h.data_class]
  rw [← hname, ← hdata]
  unfold render statements
  rw [henums, hexpand]
  cases m.dataClass.statement <;> rfl

/-! ## Leaving expansions out -/

/-- The collection under another name. -/
def named (c : Collection) (name : String) : Collection := { c with name := .text name }

/-- **A module that is built is built without its expansions**, and under any name. -/
theorem BuiltFrom.bare (h : BuiltFrom c resolver? name fieldMembers m warnings) {other : String}
    {bare? : Option Resolver} (hbare : (expansion bare? (named c other)).outcome = .ok (none, [])) :
    ∃ m', BuiltFrom (named c other) bare? other fieldMembers m' [] ∧ m'.expand? = none := by
  let dataClass : ClassSpec :=
    { name := Naming.typeName other Naming.dataSuffix
      docstring := "Record of the '" ++ other ++ "' collection."
      members := dataMembers fieldMembers none
      collectionId? := some c.id
      collectionName? := some other }
  obtain ⟨specs, hspecs⟩ : ∃ specs, headImports dataClass m.enums none = .ok specs := by
    refine (exists_headImports_iff dataClass m.enums none).mpr fun i hi => h.exists_parse i ?_
    simpa [dataClass, dataMembers] using hi
  have hdistinct : ((dataMembers fieldMembers none).map (·.identifier)).Nodup := by
    refine h.members_distinct.sublist (List.Sublist.map _ ?_)
    exact List.Sublist.append_left (List.nil_sublist _) fieldMembers
  exact ⟨{ name := Naming.moduleName other
           docstring :=
             "Models for the PocketBase '" ++ other ++ "' collection.\n\n" ++ notice ++ "\n"
           imports := specs
           enums := m.enums
           dataClass },
    ⟨rfl, h.enums, h.enums_distinct, h.enums_free, h.fields, hbare, hdistinct, rfl, rfl, rfl, rfl,
      hspecs, rfl⟩, rfl⟩

/-- A module that is written out is written out without its expansions. -/
theorem exists_render_bare {bare? : Option Resolver} {m' : ModelModule} {others : List String}
    (h : BuiltFrom c resolver? name fieldMembers m warnings) {code : String}
    (hcode : m.render = .ok code) (h' : BuiltFrom c bare? name fieldMembers m' others)
    (hnone : m'.expand? = none) : ∃ code, m'.render = .ok code := by
  obtain ⟨ss, hstatements, -⟩ := except_map_eq_ok_iff.mp hcode
  obtain ⟨enums, expands, data, -, -, hdata, -⟩ := statements_eq_ok hstatements
  obtain ⟨-, ⟨self, hself, -⟩, -⟩ := ClassSpec.statement_names hdata
  rw [h.data_class] at hself
  have hvoid := void_render h' hnone
  rw [hself] at hvoid
  cases hrender : m'.render with
  | ok code => exact ⟨code, rfl⟩
  | error f =>
    rw [hrender] at hvoid
    cases hvoid

end ModelModule

end SchemaModels
