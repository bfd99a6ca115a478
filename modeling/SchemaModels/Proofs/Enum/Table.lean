import SchemaModels.Proofs.Enum

/-!
# Enums as tables

The enum of a select field is a table from the field's values to identifiers and back. There is one
just if no two positions in the list of the values get one identifier (`distinct_iff_injective`). It
then `Tabulates` the values: each has one variant, found again by its value, and no other text has
one. Main statement: `resolve_tabulates`.
-/

namespace SchemaModels

open Naming (variantName enumTypeName)

namespace EnumSpec

variable {value raw : String} {values : List String} {e : EnumSpec} {f : Field}

/-- Different identifiers are those of different positions. -/
theorem distinct_iff_injective : Distinct values ↔
    Function.Injective fun i : Fin values.length => variantName (values.get i) := by
  unfold Distinct List.Nodup
  rw [List.pairwise_map, List.pairwise_iff_getElem]
  constructor
  · intro h i j hij
    rcases lt_trichotomy i.1 j.1 with hlt | heq | hlt
    · exact absurd hij (h i.1 j.1 i.2 j.2 hlt)
    · exact Fin.ext heq
    · exact absurd hij.symm (h j.1 i.1 j.2 i.2 hlt)
  · intro h i j hi hj hlt hij
    have heq : (⟨i, hi⟩ : Fin values.length) = ⟨j, hj⟩ := h hij
    exact absurd (Fin.mk.inj heq) hlt.ne

/-! ## Looking values up -/

/-- **An enum that is the table of its values**, in both directions. -/
structure Tabulates (e : EnumSpec) (values : List String) : Prop where
  /-- Each value has its variant, in order. -/
  rows : e.variants = values.map Variant.ofText
  values_differ : (e.variants.map (·.value)).Nodup
  identifiers_differ : (e.variants.map (·.identifier)).Nodup
  /-- A value is looked up as the only variant that stands for it. -/
  found : ∀ v ∈ values, ∃ w, e.ofValue (.text v) = .ok w ∧ w ∈ e.variants ∧ w.value = v ∧
    ∀ w' ∈ e.variants, w'.value = v → w' = w
  /-- Any other text is refused. -/
  refused : ∀ v, v ∉ values → e.ofValue (.text v) =
    .error (.problem (.invalidValue e.name (.text v)))

theorem same_text (v w : String) : (Json.text v).same (.text w) = (v == w) := by
  simp only [Json.same]

theorem ofValue_eq_ok_iff {w : Variant} :
    e.ofValue (.text value) = .ok w ↔ e.variants.find? (·.value == value) = some w := by
  unfold ofValue variant?
  simp only [same_text]
  cases e.variants.find? (·.value == value) with
  | none => simp
  | some w' => simp

/-- Looking a text up fails just if no variant stands for it. -/
theorem ofValue_of_not_mem (h : ∀ w ∈ e.variants, w.value ≠ value) :
    e.ofValue (.text value) = .error (.problem (.invalidValue e.name (.text value))) := by
  have hnone : e.variants.find? (·.value == value) = none :=
    List.find?_eq_none.mpr fun w hw => by simpa using h w hw
  unfold ofValue variant?
  simp only [same_text, hnone]

/-- An enum whose variants are those of values with different identifiers is the table of the
values. -/
theorem tabulates (hrows : e.variants = values.map Variant.ofText) (h : Distinct values) :
    e.Tabulates values := by
  have hvalue : e.variants.map (·.value) = values := by rw [hrows, map_value_ofText]
  have hidentifier : e.variants.map (·.identifier) = values.map variantName := by
    rw [hrows, map_identifier_ofText]
  have honly : ∀ w ∈ e.variants, w = Variant.ofText w.value := by
    rw [hrows]
    simp
  refine ⟨hrows, ?_, ?_, fun v hv => ?_, fun v hv => ofValue_of_not_mem fun w hw hwv => hv ?_⟩
  · rw [hvalue]
    exact h.of_map
  · rw [hidentifier]
    exact h
  · cases hlookup : e.variants.find? (·.value == v) with
    | none =>
      rw [← hvalue] at hv
      obtain ⟨w, hw, hwv⟩ := List.mem_map.mp hv
      exact absurd (beq_iff_eq.mpr hwv) (List.find?_eq_none.mp hlookup w hw)
    | some w =>
      have hw := List.mem_of_find?_eq_some hlookup
      have hwv : w.value = v := by simpa using List.find?_some hlookup
      refine ⟨w, ofValue_eq_ok_iff.mpr hlookup, hw, hwv, fun w' hw' hwv' => ?_⟩
      rw [honly w hw, honly w' hw', hwv, hwv']
  · rw [← hvalue, ← hwv]
    exact List.mem_map_of_mem hw

/-! ## Enums of fields -/

/-- A field with a text for its name has the enum that the loop makes. -/
theorem ofField_eq (hname : f.name = .text raw) : ofField f =
    (extend (enumTypeName raw) f.name [] f.selectValues).map fun variants =>
      { name := enumTypeName raw, field := f.name, variants } := by
  have hmade : Outcome.ofFault (Naming.enumTypeNameOf f.name) = .ok (enumTypeName raw) := by
    rw [hname]
    rfl
  unfold ofField
  rw [hmade]
  rfl

/-- A field whose name is no text has no enum. -/
theorem ofField_nameless (hname : ∀ raw, f.name ≠ .text raw) :
    ofField f = .error (.fault (.operand f.name)) := by
  have hmade : Outcome.ofFault (Naming.enumTypeNameOf f.name) =
      .error (.fault (.operand f.name)) := by
    cases hvalue : f.name with
    | text raw => exact absurd hvalue (hname raw)
    | _ => rfl
  unfold ofField
  rw [hmade]
  rfl

/-- **Enums are exact tables.** A select field with a text for its name has an enum just if no two
positions in the list of its values get one identifier. The enum is the table of the values, in
their order. Without one, the first collision of the list is told. A field with another value for
its name has none. -/
theorem resolve_tabulates (f : Field) :
    (∀ raw, f.name = .text raw →
      ((∃ e, (resolve f).outcome = .ok e) ↔ Function.Injective fun i : Fin f.selectValues.length =>
        variantName (f.selectValues.get i)) ∧
      (∀ e, (resolve f).outcome = .ok e →
        e.name = enumTypeName raw ∧ e.field = f.name ∧ e.Tabulates f.selectValues) ∧
      (∀ err, (resolve f).outcome = .error err → ∃ first second,
        FirstCollision f.selectValues first second ∧ err = .problem
          (.duplicateVariant (enumTypeName raw) (variantName second) f.name first second))) ∧
    ((∀ raw, f.name ≠ .text raw) → (resolve f).outcome = .error (.fault (.operand f.name))) := by
  rw [outcome_resolve]
  refine ⟨fun raw hname => ?_, ofField_nameless⟩
  rw [ofField_eq hname, ← distinct_iff_injective]
  cases hextend : extend (enumTypeName raw) f.name [] f.selectValues with
  | ok variants =>
    obtain ⟨hrows, hdistinct⟩ := extend_eq_ok hextend
    refine ⟨iff_of_true ⟨_, rfl⟩ hdistinct, fun e he => ?_, fun err herr => by cases herr⟩
    rw [Except.map, Except.ok.injEq] at he
    subst he
    exact ⟨rfl, rfl, tabulates hrows hdistinct⟩
  | error err =>
    obtain ⟨first, second, hcollision, rfl⟩ := extend_eq_error hextend
    refine ⟨iff_of_false ?_ hcollision.not_distinct, ?_, fun err herr => ?_⟩
    · rintro ⟨e, he⟩
      cases he
    · intro e he
      cases he
    · rw [Except.map, Except.error.injEq] at herr
      exact ⟨first, second, hcollision, herr.symm⟩

/-- A select field for the state of something. -/
def stateField (values : List String) : Field where
  name := .text "state"
  kind := .select
  extra := .select values

/-- Values that differ in their first letter only have an enum; of two that differ in a separator
the first is told with the second. -/
theorem resolve_tabulates_state : (stateField []).name = .text "state" ∧
    (∃ e, (resolve (stateField ["open", "in progress", "Open"])).outcome = .ok e ∧
      e.Tabulates ["open", "in progress", "Open"]) ∧
    ∃ first second,
      FirstCollision ["open", "in progress", "done", "in_progress", "open"] first second ∧
      (resolve (stateField ["open", "in progress", "done", "in_progress", "open"])).outcome =
        .error (.problem (.duplicateVariant (enumTypeName "state") (variantName second)
          (.text "state") first second)) := by
  have hname : ∀ values, (stateField values).name = .text "state" := fun _ => rfl
  obtain ⟨hmade, htable, -⟩ := (resolve_tabulates _).1 _ (hname ["open", "in progress", "Open"])
  obtain ⟨hmade', -, hrefused⟩ :=
    (resolve_tabulates _).1 _ (hname ["open", "in progress", "done", "in_progress", "open"])
  have hdistinct : Distinct ["open", "in progress", "Open"] := by decide +kernel
  have hcollides : ¬ Distinct ["open", "in progress", "done", "in_progress", "open"] := by
    decide +kernel
  refine ⟨rfl, ?_, ?_⟩
  · obtain ⟨e, he⟩ := hmade.mpr (distinct_iff_injective.mp hdistinct)
    exact ⟨e, he, (htable e he).2.2⟩
  · cases houtcome :
      (resolve (stateField ["open", "in progress", "done", "in_progress", "open"])).outcome with
    | ok e => exact absurd (distinct_iff_injective.mpr (hmade'.mp ⟨e, houtcome⟩)) hcollides
    | error err =>
      obtain ⟨first, second, hfirst, rfl⟩ := hrefused err houtcome
      exact ⟨first, second, hfirst, rfl⟩

end EnumSpec

end SchemaModels
