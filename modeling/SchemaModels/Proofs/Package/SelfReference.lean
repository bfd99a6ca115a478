import SchemaModels.Proofs.Module.Scope
import SchemaModels.Proofs.Naming.Letters
import SchemaModels.Proofs.Package.Run

/-!
# Members that hold records of their own collection

A member of a companion class is taken to hold records of its own collection if the module of its
target has the name of its own module. Then nothing is imported for it, and what its hint says is
left as it is (`RefersTo`, `resolve_refers`). It says the module's own class if the target is the
collection, which it is if both get a module in one run, and also if both names are in snake case.
Other names can share a module name and have class names that differ, at least in the case of
letters (`not_own_acronyms`).
-/

namespace SchemaModels

open ImportList (Has)
open ModelModule (build relatedImports relatedFields)
open Naming (InSnakeCase SpellsDateTime dataSuffix moduleName singular typeName)
open Package (names planning)
open Text (IsWordly)

variable {r : Resolver} {c : Collection} {name target : String} {e : ExpandSpec} {f : ExpandField}
  {warnings : List String}

/-- **What a member of the companion class of a collection refers to**, with the imports at the end
of the collection's module. -/
structure RefersTo (name target : String) (imports : List ImportSpec) (f : ExpandField) : Prop where
  type : f.targetType = typeName target dataSuffix
  module : f.targetModule = moduleName target
  self_iff : f.isSelfReference = true ↔ moduleName target = moduleName name
  /-- The class of another module is imported from it. -/
  imported : f.isSelfReference = false → Has imports 1 f.targetModule f.targetType
  /-- From the module itself nothing is imported. -/
  unimported : f.isSelfReference = true → ∀ level n, ¬ Has imports level f.targetModule n
  /-- A member that refers to the collection itself has the module's own class. -/
  own : target = name → f.isSelfReference = true ∧ f.targetType = typeName name dataSuffix
  /-- So has one without an import, if both collections get a module in some run. -/
  planned : f.isSelfReference = true → ∀ request cs, planning request = .ok cs → name ∈ names cs →
    target ∈ names cs → f.targetType = typeName name dataSuffix
  /-- So has one without an import, if both names are in snake case. -/
  snake : f.isSelfReference = true → InSnakeCase name → InSnakeCase target →
    f.targetType = typeName name dataSuffix
  /-- For names of ASCII letters, digits and underscores it is the same class name but for the case
  of letters, if "date time" is no part of it. -/
  alike : f.isSelfReference = true → (∀ ch ∈ name.toList, IsWordly ch) →
    (∀ ch ∈ target.toList, IsWordly ch) → ¬ SpellsDateTime (singular target).toList →
    f.targetType.toList.map Char.toLower = (typeName name dataSuffix).toList.map Char.toLower

/-- No companion class imports anything from its own module. -/
theorem not_has_own
    (h : ∀ g ∈ e.fields, g.isSelfReference = true ↔ g.targetModule = moduleName name)
    {level : Nat} {n : String} : ¬ Has (relatedImports (some e)) level (moduleName name) n := by
  rw [ModelModule.has_relatedImports_iff]
  rintro ⟨g, hg, -, hmodule, -⟩
  obtain ⟨hmem, hother⟩ := List.mem_filter.mp hg
  rw [(h g hmem).mpr hmodule.symm] at hother
  cases hother

/-- A member that is made from a mapping refers to the class of the mapping's target. -/
theorem refersTo_of_madeFrom {m : Mapping} {raw : String}
    (hself : ∀ g ∈ e.fields, g.isSelfReference = true ↔ g.targetModule = moduleName name)
    (hf : f ∈ e.fields) (hmade : r.MadeFrom c (moduleName name) warnings m f raw target) :
    RefersTo name target (relatedImports (some e)) f := by
  have htype := hmade.type
  have hiff : f.isSelfReference = true ↔ moduleName target = moduleName name := by
    rw [← hmade.module]
    exact hself f hf
  refine
    { type := htype
      module := hmade.module
      self_iff := hiff
      imported := fun hother => ?_
      unimported := fun hown level n => ?_
      own := ?_
      planned := fun hown request cs hcs hc ht => ?_
      snake := fun hown hc ht => ?_
      alike := fun hown hc ht hspells => ?_ }
  · refine ModelModule.has_relatedImports_iff.mpr ⟨f, List.mem_filter.mpr ⟨hf, ?_⟩, rfl, rfl, rfl⟩
    rw [hother]
    rfl
  · rw [(hself f hf).mp hown]
    exact not_has_own hself
  · rintro rfl
    exact ⟨hiff.mpr rfl, htype⟩
  · rw [htype, Package.eq_of_planning hcs ht hc (hiff.mp hown)]
  · rw [htype]
    exact Naming.typeName_eq_of_snakeCase ht hc (hiff.mp hown) dataSuffix
  · rw [htype]
    exact Naming.typeName_alike ht hc (hiff.mp hown) hspells dataSuffix

/-- The module of a collection has the companion class that a resolution gives, what that imports,
and a class of the collection's own name. -/
theorem build_of_resolve {m : ModelModule} {ws : List String} (hname : c.name = .text name)
    (h : (r.resolve c).outcome = .ok (some e, warnings))
    (hbuild : (build c (some r)).outcome = .ok (m, ws)) :
    m.expand? = some e ∧ m.deferredImports = relatedImports (some e) ∧
      m.dataClass.name = typeName name dataSuffix := by
  obtain ⟨other, fieldMembers, hbuilt⟩ := ModelModule.build_eq_ok_iff.mp hbuild
  obtain rfl : other = name := Json.text.inj (hbuilt.collection.symm.trans hname)
  have hexpanded : (r.resolve c).outcome = .ok (m.expand?, ws) := hbuilt.expanded
  rw [h, Except.ok.injEq, Prod.mk.injEq] at hexpanded
  refine ⟨hexpanded.1.symm, ?_, ?_⟩
  · rw [hbuilt.deferred, ← hexpanded.1]
  · rw [hbuilt.data_class]

/-- **Members refer to the classes of their targets**, by an import unless the module is their
own. -/
theorem resolve_refers (hname : c.name = .text name)
    (h : (r.resolve c).outcome = .ok (some e, warnings)) :
    (∀ f ∈ e.fields, ∃ m ∈ r.mappingsFor c.name, ∃ target, m.field = .text f.rawName ∧
      m.target = .text target ∧ RefersTo name target (relatedImports (some e)) f) ∧
    ∀ m ws, (build c (some r)).outcome = .ok (m, ws) → m.expand? = some e ∧
      m.deferredImports = relatedImports (some e) ∧
        m.dataClass.name = typeName name dataSuffix := by
  obtain ⟨-, -, hfields⟩ := Resolver.resolve_eq_ok hname h e rfl
  have hself : ∀ g ∈ e.fields, g.isSelfReference = true ↔ g.targetModule = moduleName name := by
    intro g hg
    obtain ⟨m, -, raw, target, hmade⟩ := hfields g hg
    rw [hmade.isSelfReference, beq_iff_eq]
  refine ⟨fun f hf => ?_, fun m ws hbuild => build_of_resolve hname h hbuild⟩
  obtain ⟨m, hm, raw, target, hmade⟩ := hfields f hf
  refine ⟨m, hm, target, ?_, hmade.refers, refersTo_of_madeFrom hself hf hmade⟩
  rw [hmade.rawName]
  exact hmade.source

/-- A collection that embeds one record of its own and one of another collection. -/
def categories : Collection where
  id := "c1"
  name := .text "categories"
  fields :=
    [{ name := .text "parent", kind := .relation, extra := .relation (some 1) (.text "c1") },
     { name := .text "owner", kind := .relation, extra := .relation (some 1) (.text "c2") }]

def ancestry : Resolver where
  mappings :=
    [⟨.text "categories", .text "parent", true, .text "categories"⟩,
     ⟨.text "categories", .text "owner", true, .text "users"⟩]
  known := ["categories", "users"]
  emitted := ["categories", "users"]
  strict := true

theorem resolve_refers_categories : ∃ e warnings,
    (ancestry.resolve categories).outcome = .ok (some e, warnings) ∧
      (e.fields.map fun f => (f.targetType, f.isSelfReference)) =
        [("CategoryData", true), ("UserData", false)] ∧
      ∀ f ∈ e.fields, ∃ target, RefersTo "categories" target (relatedImports (some e)) f := by
  have hresolve : ((ancestry.resolve categories).outcome.toOption.map fun x => x.1.map fun e =>
      e.fields.map fun f => (f.targetType, f.isSelfReference)) =
        some (some [("CategoryData", true), ("UserData", false)]) := by
    decide +kernel
  obtain ⟨⟨expand?, warnings⟩, h, hexpand⟩ := toOption_map_eq_some_iff.mp hresolve
  obtain ⟨e, rfl, hfields⟩ := Option.map_eq_some_iff.mp hexpand
  refine ⟨e, warnings, h, hfields, fun f hf => ?_⟩
  obtain ⟨m, -, target, -, -, hrefers⟩ := (resolve_refers (c := categories) rfl h).1 f hf
  exact ⟨target, hrefers⟩

/-- A collection called by an acronym, with a relation field. -/
def acronyms : Collection where
  id := "c1"
  name := .text "APIs"
  fields := [
    { name := .text "parent", kind := .relation, extra := .relation (some 1) (.text "c1") }]

/-- The mapping spells the name of the collection without capitals. -/
def misspelt : Resolver where
  mappings := [⟨.text "APIs", .text "parent", true, .text "apis"⟩]
  known := ["APIs"]
  emitted := ["APIs"]

/-- The target shares the module of the collection, but its class name is another one than that of
the class in the module. -/
theorem not_own_acronyms : ∃ e warnings m ws,
    (misspelt.resolve acronyms).outcome = .ok (some e, warnings) ∧
      (build acronyms (some misspelt)).outcome = .ok (m, ws) ∧ m.dataClass.name = "APIData" ∧
      typeName "APIs" dataSuffix = "APIData" ∧
      ∃ f ∈ e.fields, f.isSelfReference = true ∧ f.targetType = "ApiData" := by
  have hresolve : ((misspelt.resolve acronyms).outcome.toOption.map fun x => x.1.map fun e =>
      e.fields.map fun f => (f.targetType, f.isSelfReference)) =
        some (some [("ApiData", true)]) := by
    decide +kernel
  have hbuild : ((build acronyms (some misspelt)).outcome.toOption.map
      fun x => x.1.dataClass.name) = some "APIData" := by
    decide +kernel
  obtain ⟨⟨expand?, warnings⟩, h, hexpand⟩ := toOption_map_eq_some_iff.mp hresolve
  obtain ⟨e, rfl, hfields⟩ := Option.map_eq_some_iff.mp hexpand
  obtain ⟨⟨m, ws⟩, hm, hclass⟩ := toOption_map_eq_some_iff.mp hbuild
  have hmem : ("ApiData", true) ∈ e.fields.map fun f => (f.targetType, f.isSelfReference) := by
    rw [hfields]
    exact List.mem_singleton_self _
  obtain ⟨f, hf, heq⟩ := List.mem_map.mp hmem
  rw [Prod.mk.injEq] at heq
  exact ⟨e, warnings, m, ws, h, hm, hclass, by decide +kernel, f, hf, heq.2, heq.1⟩

end SchemaModels
