import Mathlib.Data.List.Nodup
import SchemaModels.Enum
import SchemaModels.Proofs.Module.Members

/-!
# What enums are made of

The variants of an enum come out of a loop over the values of its field. As long as the identifiers
are different the variants are those of the values so far (`Variant.ofText`), and the loop stops at
the first value whose identifier is taken, with the value that took it (`extend_spec`,
`FirstCollision`).

A select field has one enum, named after the field (`ofField_eq_ok`), with the variants that its
values name, no two of them alike (`variants_of_ofField`). `forall₂_of_ofCollection` has the enums
of a collection beside its select fields.
-/

namespace SchemaModels

open Naming (variantName)

/-- The variant of a value. -/
def Variant.ofText (value : String) : Variant := ⟨variantName value, value⟩

@[simp] theorem Variant.identifier_ofText (value : String) :
    (ofText value).identifier = variantName value := by
  simp only [ofText]

@[simp] theorem Variant.value_ofText (value : String) : (ofText value).value = value := by
  simp only [ofText]

namespace EnumSpec

section

variable {name : String} {field : Json} {value first second : String}
  {passed rest values : List String}

theorem map_value_ofText (values : List String) :
    (values.map Variant.ofText).map (·.value) = values := by
  rw [List.map_map]
  simp [Function.comp_def]

theorem map_identifier_ofText (values : List String) :
    (values.map Variant.ofText).map (·.identifier) = values.map variantName := by
  rw [List.map_map]
  simp [Function.comp_def]

/-! ## Collisions -/

/-- The identifiers of the values are different. -/
def Distinct (values : List String) : Prop := (values.map variantName).Nodup

instance : DecidablePred Distinct := fun values =>
  inferInstanceAs (Decidable (values.map variantName).Nodup)

/-- **The first collision in a list of values**: `second` is the first value with the identifier of
an earlier one, and `first` is the first value with that identifier. -/
def FirstCollision (values : List String) (first second : String) : Prop :=
  ∃ before between after, values = before ++ first :: between ++ second :: after ∧
    variantName first = variantName second ∧
    (∀ v ∈ before, variantName v ≠ variantName second) ∧ Distinct (before ++ first :: between)

theorem FirstCollision.same (h : FirstCollision values first second) :
    variantName first = variantName second := by
  obtain ⟨before, between, after, -, hsame, -, -⟩ := h
  exact hsame

theorem FirstCollision.not_distinct (h : FirstCollision values first second) :
    ¬ Distinct values := by
  obtain ⟨before, between, after, rfl, hsame, -, -⟩ := h
  intro hdistinct
  unfold Distinct at hdistinct
  rw [List.map_append, List.nodup_append] at hdistinct
  refine hdistinct.2.2 (variantName first) ?_ (variantName second) ?_ hsame
  · exact List.mem_map_of_mem (List.mem_append_right before List.mem_cons_self)
  · exact List.mem_map_of_mem List.mem_cons_self

/-! ## The loop -/

theorem find?_identifier_eq_none_iff :
    (passed.map Variant.ofText).find? (·.identifier == variantName value) = none ↔
      variantName value ∉ passed.map variantName := by
  rw [List.find?_eq_none, List.forall_mem_map, List.mem_map]
  simp

/-- A value with an identifier of its own becomes the next variant. -/
theorem extend_new (h : variantName value ∉ passed.map variantName) :
    extend name field (passed.map Variant.ofText) (value :: rest) =
      extend name field ((passed ++ [value]).map Variant.ofText) rest := by
  rw [extend, find?_identifier_eq_none_iff.mpr h, List.map_append]
  rfl

/-- A value whose identifier is taken ends the loop; the value that took it is told. -/
theorem extend_taken (h : variantName value ∈ passed.map variantName) :
    ∃ before first between, passed = before ++ first :: between ∧
      variantName first = variantName value ∧ (∀ v ∈ before, variantName v ≠ variantName value) ∧
      extend name field (passed.map Variant.ofText) (value :: rest) =
        .error (.problem (.duplicateVariant name (variantName value) field first value)) := by
  cases hfind : (passed.map Variant.ofText).find? (·.identifier == variantName value) with
  | none => exact absurd h (find?_identifier_eq_none_iff.mp hfind)
  | some v =>
    obtain ⟨hsame, before, between, hsplit, hfree⟩ := List.find?_eq_some_iff_append.mp hfind
    obtain ⟨before, tail, rfl, rfl, htail⟩ := List.map_eq_append_iff.mp hsplit
    obtain ⟨first, between, rfl, rfl, rfl⟩ := List.map_eq_cons_iff.mp htail
    rw [beq_iff_eq, Variant.identifier_ofText] at hsame
    refine ⟨before, first, between, rfl, hsame, fun v hv => ?_, ?_⟩
    · simpa using hfree _ (List.mem_map_of_mem hv)
    · rw [extend, hfind]
      rfl

/-- **The loop** goes through all values, or up to the first collision. -/
theorem extend_spec (name : String) (field : Json) (rest : List String) (h : Distinct passed) :
    (Distinct (passed ++ rest) ∧ extend name field (passed.map Variant.ofText) rest =
        .ok ((passed ++ rest).map Variant.ofText)) ∨
      ∃ first second, FirstCollision (passed ++ rest) first second ∧
        extend name field (passed.map Variant.ofText) rest =
          .error (.problem (.duplicateVariant name (variantName second) field first second)) := by
  induction rest generalizing passed with
  | nil =>
    rw [List.append_nil]
    exact Or.inl ⟨h, rfl⟩
  | cons value rest ih =>
    by_cases hmem : variantName value ∈ passed.map variantName
    · obtain ⟨before, first, between, rfl, hsame, hfree, hextend⟩ := extend_taken hmem
      exact Or.inr ⟨first, value, ⟨before, between, rest, rfl, hsame, hfree, h⟩, hextend⟩
    · have hnext : Distinct (passed ++ [value]) := by
        unfold Distinct
        rw [List.map_append, List.nodup_append]
        refine ⟨h, List.nodup_singleton _, fun a ha b hb hab => hmem ?_⟩
        rw [← List.mem_singleton.mp hb, ← hab]
        exact ha
      rw [extend_new hmem]
      have hrest := ih hnext
      rwa [List.append_assoc] at hrest

/-- Values that become variants have different identifiers. -/
theorem extend_eq_ok {variants : List Variant} (h : extend name field [] values = .ok variants) :
    variants = values.map Variant.ofText ∧ Distinct values := by
  have hspec := extend_spec name field values (show Distinct [] from List.nodup_nil)
  rw [List.nil_append, List.map_nil, h] at hspec
  rcases hspec with ⟨hdistinct, hvariants⟩ | ⟨first, second, -, hrefused⟩
  · rw [Except.ok.injEq] at hvariants
    exact ⟨hvariants, hdistinct⟩
  · cases hrefused

/-- Values that do not become variants collide. -/
theorem extend_eq_error {err : Failure} (h : extend name field [] values = .error err) :
    ∃ first second, FirstCollision values first second ∧
      err = .problem (.duplicateVariant name (variantName second) field first second) := by
  have hspec := extend_spec name field values (show Distinct [] from List.nodup_nil)
  rw [List.nil_append, List.map_nil, h] at hspec
  rcases hspec with ⟨-, hvariants⟩ | ⟨first, second, hcollision, hrefused⟩
  · cases hvariants
  · rw [Except.error.injEq] at hrefused
    exact ⟨first, second, hcollision, hrefused⟩

end

/-! ## Enums of fields -/

/-- The enum has the name that the field gives it. -/
def NamedBy (f : Field) (e : EnumSpec) : Prop :=
  ∃ raw, f.name = .text raw ∧ e.name = Naming.enumTypeName raw

/-- **The enum of a field.** -/
theorem ofField_eq_ok {f : Field} {e : EnumSpec} (h : ofField f = .ok e) : NamedBy f e := by
  unfold ofField at h
  obtain ⟨name, hname, h⟩ := except_bind_eq_ok_iff.mp h
  obtain ⟨variants, -, h⟩ := except_bind_eq_ok_iff.mp h
  obtain ⟨raw, hraw, hmade⟩ := except_map_eq_ok_iff.mp (ofFault_eq_ok_iff.mp hname)
  rw [Except.ok.injEq] at h
  rw [← h]
  exact ⟨raw, Naming.charactersOf_eq_ok_iff.mp hraw, hmade.symm⟩

theorem field_of_ofField {f : Field} {e : EnumSpec} (h : ofField f = .ok e) : e.field = f.name := by
  unfold ofField at h
  obtain ⟨name, -, h⟩ := except_bind_eq_ok_iff.mp h
  obtain ⟨variants, -, h⟩ := except_bind_eq_ok_iff.mp h
  rw [Except.ok.injEq] at h
  rw [← h]

/-- Apart from the log, resolving a field gives its enum. -/
theorem outcome_resolve (f : Field) : (resolve f).outcome = ofField f := by
  unfold resolve
  rw [Logged.outcome_bind, Logged.outcome_ofOutcome]
  cases ofField f <;> rfl

theorem ofField_of_resolve {f : Field} {e : EnumSpec} (h : (resolve f).outcome = .ok e) :
    ofField f = .ok e :=
  (outcome_resolve f).symm.trans h

/-- **The enums of a collection** go with its select fields. -/
theorem forall₂_of_ofCollection {c : Collection} {enums : List EnumSpec}
    (h : (ofCollection c).outcome = .ok enums) :
    List.Forall₂ NamedBy (c.fields.filter (·.kind = .select)) enums := by
  unfold ofCollection at h
  exact (Logged.outcome_mapM_eq_ok_iff.mp h).imp fun _ _ hmade =>
    ofField_eq_ok (ofField_of_resolve hmade)

/-- **The variants of the enum of a field** are those of the field's values, which have different
identifiers. -/
theorem rows_of_ofField {f : Field} {e : EnumSpec} (h : ofField f = .ok e) :
    e.variants = f.selectValues.map Variant.ofText ∧ Distinct f.selectValues := by
  unfold ofField at h
  obtain ⟨_, -, h⟩ := except_bind_eq_ok_iff.mp h
  obtain ⟨variants, hvariants, h⟩ := except_bind_eq_ok_iff.mp h
  rw [Except.ok.injEq] at h
  rw [← h]
  exact extend_eq_ok hvariants

/-- **The values of the enum of a field** are those of the field. -/
theorem values_of_ofField {f : Field} {e : EnumSpec} (h : ofField f = .ok e) :
    e.variants.map (·.value) = f.selectValues := by
  rw [(rows_of_ofField h).1, map_value_ofText]

/-- **The variants of the enum of a field** have the identifiers that their values give them, each
its own. -/
theorem variants_of_ofField {f : Field} {e : EnumSpec} (h : ofField f = .ok e) :
    (∀ v ∈ e.variants, v.identifier = variantName v.value) ∧
      (e.variants.map (·.identifier)).Nodup := by
  obtain ⟨hrows, hdistinct⟩ := rows_of_ofField h
  rw [hrows, map_identifier_ofText]
  exact ⟨by simp, hdistinct⟩

/-- Every select field of a collection has its enum. -/
theorem exists_of_ofCollection {c : Collection} {enums : List EnumSpec}
    (h : (ofCollection c).outcome = .ok enums) {f : Field} (hf : f ∈ c.fields)
    (hselect : f.kind = .select) : ∃ e ∈ enums, ofField f = .ok e := by
  unfold ofCollection at h
  have hmem : f ∈ c.fields.filter (·.kind = .select) :=
    List.mem_filter.mpr ⟨hf, decide_eq_true hselect⟩
  obtain ⟨e, he, hmade⟩ := exists_right_of_forall₂ (Logged.outcome_mapM_eq_ok_iff.mp h) hmem
  exact ⟨e, he, ofField_of_resolve hmade⟩

/-- Every enum of a collection is that of one of its fields. -/
theorem field_of_ofCollection {c : Collection} {enums : List EnumSpec}
    (h : (ofCollection c).outcome = .ok enums) {e : EnumSpec} (he : e ∈ enums) :
    ∃ f ∈ c.fields, f.kind = .select ∧ ofField f = .ok e := by
  unfold ofCollection at h
  obtain ⟨f, hf, hmade⟩ := exists_left_of_forall₂ (Logged.outcome_mapM_eq_ok_iff.mp h) he
  have hselect := List.mem_filter.mp hf
  exact ⟨f, hselect.1, of_decide_eq_true hselect.2, ofField_of_resolve hmade⟩

/-- **The variants of an enum** have the identifiers that their values give them. -/
theorem variant_of_ofCollection {c : Collection} {enums : List EnumSpec}
    (h : (ofCollection c).outcome = .ok enums) {e : EnumSpec} (he : e ∈ enums) {v : Variant}
    (hv : v ∈ e.variants) : v.identifier = Naming.variantName v.value := by
  obtain ⟨f, -, -, hfield⟩ := field_of_ofCollection h he
  exact (variants_of_ofField hfield).1 v hv

end EnumSpec

end SchemaModels
