import SchemaModels.Proofs.Enum
import SchemaModels.Proofs.Failure
import SchemaModels.Proofs.Module.Build
import SchemaModels.Proofs.Naming.Legal

/-!
# What a collection is refused for

Every failure of `ModelModule.build` is a `Refusal` (`raises_build`): two values, two names or two
mappings become one, a target has no model, or a value is not what the step that meets it takes. The
check that no enum takes a name that a module binds itself is not among the causes: names of enums
are made so that it passes (`names_legal`).
-/

namespace SchemaModels

open Logged (Raises raises_pure raises_note raises_refuse raises_ofChecked raises_mapM)

/-- **The causes for which a collection is refused.** -/
inductive Refusal (c : Collection) : Failure → Prop
  /-- A value is not of the kind that a step takes. -/
  | fault (f : Fault) : Refusal c (.fault f)
  /-- Two values of a select field have the name of one variant. -/
  | variants {f : Field} (field : f ∈ c.fields) {enum variant first second : String}
      (first_name : Naming.variantName first = variant)
      (second_name : Naming.variantName second = variant) :
      Refusal c (.problem (.duplicateVariant enum variant f.name first second))
  /-- Two enums or two members have one name. -/
  | names (source : NameSource) (name : String) :
      Refusal c (.problem (.collidingNames source c.name name))
  /-- Two mappings ask for one member. -/
  | related (previous current : Mapping) (identifier : String) :
      Refusal c (.problem (.collidingExpansions previous current identifier))
  /-- A mapping leads to a collection without a model. -/
  | target (m : Mapping) (known : Bool) : Refusal c (.problem (.unresolvedTarget m known))

variable {c : Collection}

/-- The kind has every cause but names that become one: those for which a step is refused that
compares no names of enums or members. -/
structure Covers (c : Collection) (p : Failure → Prop) : Prop where
  fault : ∀ f, p (.fault f)
  variants : ∀ f ∈ c.fields, ∀ enum variant first second, Naming.variantName first = variant →
    Naming.variantName second = variant →
      p (.problem (.duplicateVariant enum variant f.name first second))
  related : ∀ previous current identifier,
    p (.problem (.collidingExpansions previous current identifier))
  target : ∀ m known, p (.problem (.unresolvedTarget m known))

theorem covers_refusal : Covers c (Refusal c) where
  fault := .fault
  variants _ hf _ _ _ _ hfirst hsecond := .variants hf hfirst hsecond
  related := .related
  target := .target

variable {p : Failure → Prop}

/-! ## Enums -/

namespace EnumSpec

theorem raises_resolve (h : Covers c p) {f : Field} (hf : f ∈ c.fields) :
    Raises p (resolve f) := by
  have hfield : Raises p (Logged.ofOutcome (ofField f)) := by
    intro e he
    rcases except_bind_eq_error_iff.mp he with he | ⟨name, -, he⟩
    · obtain ⟨fault, -, rfl⟩ := ofFault_eq_error_iff.mp he
      exact h.fault fault
    · rcases except_bind_eq_error_iff.mp he with he | ⟨variants, -, he⟩
      · obtain ⟨first, second, hcollision, rfl⟩ := extend_eq_error he
        exact h.variants f hf _ _ _ _ hcollision.same rfl
      · cases he
  exact hfield.bind fun e _ => (raises_note _ _).bind fun _ _ => raises_pure e

theorem raises_ofCollection (h : Covers c p) : Raises p (ofCollection c) :=
  raises_mapM fun _ hf => raises_resolve h (List.mem_of_mem_filter hf)

end EnumSpec

/-! ## Members -/

/-- Members are made unless their field has a value that names are not made of. -/
theorem Member.raises_ofField (h : Covers c p) (f : Field) : Raises p (Member.ofField f) := by
  have htype : Raises p (FieldType.resolve f) := by
    intro e he
    rw [FieldType.outcome_resolve] at he
    obtain ⟨fault, -, rfl⟩ := ofFault_eq_error_iff.mp he
    exact h.fault fault
  exact htype.bind fun t _ => (raises_ofChecked h.fault _).bind fun raw _ => raises_pure _

/-! ## Expansions -/

namespace Resolver

variable (r : Resolver)

theorem raises_check (h : Covers c p) (m : Mapping) : Raises p (r.check c m) := by
  have hfield : Raises p
      (if (c.field? m.field).isNone then warn (fieldWarning c m) else pure []) := by
    split
    · exact Logged.raises_of_ok (outcome_warn _)
    · exact raises_pure []
  rw [check_eq]
  refine hfield.bind fun field _ => (raises_ofChecked h.fault _).bind fun target _ => ?_
  split
  · exact raises_pure field
  · split
    · exact raises_refuse (h.target m _)
    · exact (Logged.raises_of_ok (outcome_warn _)).bind fun ws _ => raises_pure _

theorem raises_members (h : Covers c p) {sourceModule : String} (ms : List Mapping)
    (seen : List (Mapping × String)) : Raises p (r.members c sourceModule seen ms) := by
  induction ms generalizing seen with
  | nil => exact raises_pure _
  | cons m ms ih =>
    rw [members]
    refine (raises_ofChecked h.fault _).bind fun raw _ => ?_
    simp only
    split
    · split
      · exact (Logged.raises_of_ok (outcome_warn _)).bind fun ws _ =>
          (ih seen).bind fun x _ => raises_pure _
      · exact raises_refuse (h.related _ _ _)
    · exact (r.raises_check h m).bind fun ws _ => (raises_ofChecked h.fault _).bind fun target _ =>
        (ih _).bind fun x _ => raises_pure _

theorem raises_resolve (h : Covers c p) : Raises p (r.resolve c) := by
  unfold resolve
  refine (raises_ofChecked h.fault _).bind fun key _ => ?_
  split
  · exact raises_pure _
  · exact (raises_ofChecked h.fault _).bind fun name _ => (r.raises_members h _ _).bind fun x _ =>
      (raises_note _ _).bind fun _ _ => raises_pure _

end Resolver

/-! ## Modules -/

namespace ModelModule

open Naming (Legal memberName variantName enumTypeName)
open Source.Hint (Plain)

variable {resolver? : Option Resolver}

theorem raises_requireDistinct (source : NameSource) (names : List String) :
    Raises (Refusal c) (Logged.ofOutcome (requireDistinct source c.name names)) := by
  intro e he
  rw [Logged.outcome_ofOutcome] at he
  unfold requireDistinct at he
  split at he
  · cases he
    exact .names source _
  · cases he

/-- No enum of a collection takes a name that a module binds itself. -/
theorem enums_free {enums : List EnumSpec} (h : (EnumSpec.ofCollection c).outcome = .ok enums) :
    requireFreeEnumNames c.name enums = .ok () := by
  refine requireFreeEnumNames_eq_ok_iff.mpr fun e he => ?_
  obtain ⟨f, -, -, hfield⟩ := EnumSpec.field_of_ofCollection h he
  obtain ⟨raw, -, hname⟩ := EnumSpec.ofField_eq_ok hfield
  rw [hname]
  exact Naming.enumTypeName_not_mem_moduleNames raw

/-- What building a module ends in is a cause that comes before names are compared, or it is what
the names of its enums or of its members are refused for. -/
theorem raises_build_of (h : Covers c p)
    (henums : ∀ enums, (EnumSpec.ofCollection c).outcome = .ok enums →
      Raises p (Logged.ofOutcome (requireDistinct .selectFields c.name (enums.map (·.name)))))
    (hmembers : ∀ fieldMembers expand? warnings, (c.fields.mapM Member.ofField).outcome =
      .ok fieldMembers → (expansion resolver? c).outcome = .ok (expand?, warnings) →
        Raises p (Logged.ofOutcome (requireDistinct .fields c.name
          ((dataMembers fieldMembers expand?).map (·.identifier))))) :
    Raises p (build c resolver?) := by
  have hexpansion : Raises p (expansion resolver? c) := by
    unfold expansion
    split
    · exact Resolver.raises_resolve _ h
    · exact raises_pure _
  unfold build
  refine (raises_note _ _).bind fun _ _ =>
    (EnumSpec.raises_ofCollection h).bind fun enums hmade => (henums enums hmade).bind fun _ _ => ?_
  refine (Logged.raises_of_ok (enums_free hmade)).bind fun _ _ =>
    (raises_mapM fun f _ => Member.raises_ofField h f).bind fun fieldMembers hfields =>
    hexpansion.bind fun expanded hexpanded => ?_
  exact (hmembers fieldMembers expanded.1 expanded.2 hfields hexpanded).bind fun _ _ =>
    (raises_ofChecked h.fault _).bind fun name _ => (raises_ofChecked h.fault _).bind fun specs _ =>
    raises_pure _

/-- **What building a module can end in.** -/
theorem raises_build : Raises (Refusal c) (build c resolver?) :=
  raises_build_of covers_refusal (fun _ _ => raises_requireDistinct .selectFields _)
    fun _ _ _ _ _ => raises_requireDistinct .fields _

/-- **Names are legal**, whatever they are made of: members and variants have identifiers that are
not reserved, with an underscore only where one tells them from a reserved word; enums have
identifiers without underscores that no module binds itself, so that no collection is refused for
one. -/
theorem names_legal :
    (∀ s, Legal (memberName s) ∧ Legal (variantName s) ∧ Plain (enumTypeName s) ∧
      '_' ∉ (enumTypeName s).toList ∧ enumTypeName s ∉ Naming.moduleNames) ∧
    ∀ (c : Collection) (resolver? : Option Resolver) (enum : String) (field collection : Json),
      (build c resolver?).outcome ≠ .error
        (.problem (.reservedEnumName enum field collection)) := by
  refine ⟨fun s => ⟨Naming.legal_memberName s, Naming.legal_variantName s,
    Naming.enumTypeName_plain s, (Naming.enumTypeName_word s).free,
    Naming.enumTypeName_not_mem_moduleNames s⟩, fun c resolver? enum field collection he => ?_⟩
  have hrefusal := raises_build _ he
  cases hrefusal

end ModelModule

end SchemaModels
