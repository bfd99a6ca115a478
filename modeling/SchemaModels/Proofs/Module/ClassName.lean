import SchemaModels.Proofs.Module.Bare
import SchemaModels.Proofs.Naming.Usable
import SchemaModels.Proofs.Source.Reading

/-!
# Class names that nothing checks

A collection's fields can be refused when its module is built; the names that the module makes of
the collection's own name are not looked at there. Only when it is written out is the class name
read, as a type hint, and that alone decides how the writing ends (`void_code`): a name that is no
expression is a fault, and one that is an expression passes, be it an identifier or not. So a
collection that is not refused comes out with usable names just if its name was a usable one to
begin with (`NameDecides`).
-/

namespace SchemaModels

open Source (Statement)
open Source.Hint (parse Plain)

variable {c : Collection} {name : String} {fieldMembers : List Member} {m : ModelModule}
  {warnings : List String}

namespace ModelModule

/-- Without a resolver there are no related records. -/
theorem expansion_none (c : Collection) : (expansion none c).outcome = .ok (none, []) := rfl

theorem BuiltFrom.expand_none (h : BuiltFrom c none name fieldMembers m warnings) :
    m.expand? = none := by
  have hexpanded := h.expanded
  rw [expansion_none, Except.ok.injEq, Prod.mk.injEq] at hexpanded
  exact hexpanded.1.symm

/-! ## A collection under one name or another -/

/-- The collection is built, under whatever name. -/
def IsBuilt (c : Collection) : Prop := ∃ m ws, (build c none).outcome = .ok (m, ws)

/-- **Building looks at the fields of a collection**, and takes any name for it. -/
theorem isBuilt_named_iff (c : Collection) (name other : String) :
    IsBuilt (named c name) ↔ IsBuilt (named c other) := by
  suffices h : ∀ name other, IsBuilt (named c name) → IsBuilt (named c other) from
    ⟨h name other, h other name⟩
  rintro name other ⟨m, ws, h⟩
  obtain ⟨_, fieldMembers, hbuilt⟩ := build_eq_ok_iff.mp h
  obtain ⟨m', hbare, -⟩ := hbuilt.bare (expansion_none (named c other))
  exact ⟨m', [], build_eq_ok_iff.mpr ⟨other, fieldMembers, hbare⟩⟩

/-- A collection without fields is built. -/
theorem isBuilt_bare (id name : String) : IsBuilt { id, name := .text name } :=
  ⟨_, _, rfl⟩

/-- How the module of a collection comes out. -/
theorem outcome_code (h : (build c none).outcome = .ok (m, warnings)) :
    (code c none).outcome = Outcome.ofFault m.render := by
  unfold code
  rw [Logged.outcome_bind, h]
  rfl

theorem outcome_code_error {e : Failure} (h : (build c none).outcome = .error e) :
    (code c none).outcome = .error e := by
  unfold code
  rw [Logged.outcome_bind, h]
  rfl

/-- A module that is not built is not written out. -/
theorem problem_code_iff (c : Collection) :
    (∃ p, (code c none).outcome = .error (.problem p)) ↔
      ∃ p, (build c none).outcome = .error (.problem p) := by
  cases h : (build c none).outcome with
  | error e =>
    rw [outcome_code_error h]
    simp only [Except.error.injEq]
  | ok built =>
    obtain ⟨m, ws⟩ := built
    rw [outcome_code h]
    cases m.render <;> simp [Outcome.ofFault]

/-- **How a built module comes out** is up to its class name. -/
theorem void_code {name : String} (h : IsBuilt (named c name)) :
    void (code (named c name) none).outcome =
      Outcome.ofFault (void (parse (Naming.typeName name Naming.dataSuffix))) := by
  obtain ⟨m, ws, h⟩ := h
  obtain ⟨name', fieldMembers, hbuilt⟩ := build_eq_ok_iff.mp h
  have hname : name = name' := by
    have htext := hbuilt.collection
    unfold named at htext
    cases htext
    rfl
  subst hname
  rw [outcome_code h, ← void_render hbuilt hbuilt.expand_none]
  cases m.render <;> rfl

/-- **What a collection's name decides** about its module, made without a resolver. -/
structure NameDecides (c : Collection) (name : String) : Prop where
  /-- Building takes any name. -/
  built : ∀ other, IsBuilt (named c name) ↔ IsBuilt (named c other)
  /-- A module is refused with a problem just if its building is; the writing out knows none. -/
  refused : (∃ p, (code (named c name) none).outcome = .error (.problem p)) ↔
    ∃ p, (build (named c name) none).outcome = .error (.problem p)
  /-- A built module comes out just if its class name is an expression, else with the fault of
  that. -/
  written : IsBuilt (named c name) → void (code (named c name) none).outcome =
    Outcome.ofFault (void (parse (Naming.typeName name Naming.dataSuffix)))
  /-- A statement that defines a class of a usable name, or imports it from its module, is read. -/
  read : Naming.Usable name → ∀ suffix, suffix = Naming.dataSuffix ∨ suffix = Naming.expandSuffix →
    Source.isName (Naming.typeName name suffix) = true ∧
      ∀ rest, Source.ReadsLine
        ((Statement.importText 1 (some (Naming.moduleName name))
          [Naming.typeName name suffix]).toList ++ '\n' :: rest)
        (.importNames 1 (some (Text.compat (Naming.moduleName name)))
          [Text.compat (Naming.typeName name suffix)]) rest
  /-- Of the names of ASCII letters, digits and underscores those are usable that no digit leads. -/
  usable : (∀ ch ∈ name.toList, Text.IsWordly ch) →
    (Naming.Usable name ↔ Naming.isLedByDigit name = false)
  /-- The others of them end in a fault. -/
  escapes : (∀ ch ∈ name.toList, Text.IsWordly ch) → Naming.isLedByDigit name = true →
    IsBuilt (named c name) → (code (named c name) none).outcome = .error (.fault .badExpression)

theorem code_ledByDigit {name : String} (h : ∀ ch ∈ name.toList, Text.IsWordly ch)
    (hled : Naming.isLedByDigit name = true) (hbuilt : IsBuilt (named c name)) :
    (code (named c name) none).outcome = .error (.fault .badExpression) := by
  have hvoid := void_code hbuilt
  rw [Naming.parse_of_ledByDigit h hled] at hvoid
  cases hcode : (code (named c name) none).outcome with
  | ok text =>
    rw [hcode] at hvoid
    cases hvoid
  | error e =>
    rw [hcode] at hvoid
    rw [Except.error.inj hvoid]

/-- **Names that make usable names.** Whatever the fields of a collection, its module is refused
with a problem of its own or has usable names, unless its name is no usable one and the fields are
in order. Then the module is written out with names that are no identifiers, or a fault escapes,
which for words is the case just if a digit leads them. -/
theorem nameDecides (c : Collection) (name : String) : NameDecides c name where
  built := isBuilt_named_iff c name
  refused := problem_code_iff (named c name)
  written := void_code
  read husable suffix hsuffix := by
    have hclass : Plain (Naming.typeName name suffix) := by
      rcases hsuffix with rfl | rfl
      · exact husable.data
      · exact husable.expand
    refine ⟨Source.isName_of_plain hclass, fun rest => Source.readsLine_import ?_ ?_ (by simp) rest⟩
    · exact fun m hm => Option.mem_some.mp hm ▸ husable.module
    · exact List.forall_mem_singleton.mpr hclass
  usable := Naming.usable_iff
  escapes := code_ledByDigit

/-- **Two names that are not usable** pass the checks: with one a fault escapes, and with the other
the module comes out with names that are no identifiers. -/
theorem not_usable_passes : (code (named { id := "c1", name := .null } "2fa") none).outcome =
      .error (.fault .badExpression) ∧
    (∃ text, (code (named { id := "c1", name := .null } "a-b") none).outcome = .ok text) ∧
      ¬ Naming.Usable "2fa" ∧ ¬ Naming.Usable "a-b" := by
  have hwords : ∀ ch ∈ "2fa".toList, Text.IsWordly ch := by decide
  have hpasses : (code (named { id := "c1", name := .null } "a-b") none).outcome.toOption.isSome =
      true := by
    decide +kernel
  refine ⟨code_ledByDigit hwords (by decide) (isBuilt_bare "c1" "2fa"), ?_,
    fun h => ?_, fun h => ?_⟩
  · cases hcode : (code (named { id := "c1", name := .null } "a-b") none).outcome with
    | ok text => exact ⟨text, rfl⟩
    | error e =>
      rw [hcode] at hpasses
      cases hpasses
  · exact absurd ((Naming.usable_iff hwords).mp h) (by decide)
  · exact absurd h.module.identifier (by decide +kernel)

end ModelModule

end SchemaModels
