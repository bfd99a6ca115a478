import SchemaModels.Module.Member
import SchemaModels.Proofs.Naming.Identifier
import SchemaModels.Proofs.Task

/-!
# What members are made of

`Member.ofField_eq_ok_iff` inverts the making of a member from a field, and
`FieldType.ofField_eq_ok_iff` that of its type. `FieldType.refers_hint` says which names the hint of
a member refers to, whatever the field is called: those of its meaning, or the class of its enum.
-/

namespace SchemaModels

open Source.Hint (Refers)

theorem Naming.charactersOf_eq_ok_iff {v : Json} {s : String} :
    Naming.charactersOf v = .ok s ↔ v = .text s := by
  cases v <;> simp [Naming.charactersOf]

theorem Naming.expectText_eq_ok_iff {v : Json} {s : String} :
    Naming.expectText v = .ok s ↔ v = .text s := by
  cases v <;> simp [Naming.expectText]

/-! ## Types -/

namespace FieldType

/-- The names that a hint of a meaning refers to; an enum's refers to the class of the enum. -/
def meaningNames : Meaning → List String
  | .string | .relationSingle => ["str"]
  | .integer => ["int"]
  | .double => ["float"]
  | .jsonBlob => ["Dict", "str", "Any"]
  | .boolean => ["bool"]
  | .moment => ["datetime"]
  | .geoPoint => ["GeoPointData"]
  | .relationMulti => ["List", "str"]
  | .any => ["Any"]
  | .enum => []

/-- The names that the hint of a type refers to. -/
def names (t : FieldType) : List String :=
  (if t.nullable then ["Optional"] else []) ++
    match t.enumName? with
    | some name => [Text.compat name]
    | none => meaningNames t.meaning

theorem refers_meaning : ∀ m ∈ Meaning.all, m ≠ .enum →
    Refers (m.hint?.getD "") (meaningNames m) ∧
      Refers (optional (m.hint?.getD "")) ("Optional" :: meaningNames m) := by
  decide +kernel

theorem meaning_eq_enum_iff {f : Field} {m : Meaning} (h : Meaning.ofField f = .ok m) :
    m = .enum ↔ f.kind = .select := by
  unfold Meaning.ofField at h
  cases hkind : f.kind <;> rw [hkind] at h <;> simp only at h
  case number =>
    obtain ⟨b, -, rfl⟩ := except_map_eq_ok_iff.mp h
    cases b <;> simp
  case relation =>
    cases h
    split <;> simp
  all_goals
    cases h
    simp

/-- **The type of a field.** Only the type of a select field has a class of its own. -/
theorem ofField_eq_ok {f : Field} {t : FieldType} (h : ofField f = .ok t) :
    Meaning.ofField f = .ok t.meaning ∧
      (f.kind = .select → ∃ raw, f.name = .text raw ∧
        t.enumName? = some (Naming.enumTypeName raw)) ∧
      (f.kind ≠ .select → t.enumName? = none) := by
  unfold ofField at h
  obtain ⟨m, hm, h⟩ := except_bind_eq_ok_iff.mp h
  have henum := meaning_eq_enum_iff hm
  by_cases hkind : f.kind = .select
  · rw [if_pos (henum.mpr hkind)] at h
    obtain ⟨name?, hname, h⟩ := except_bind_eq_ok_iff.mp h
    obtain ⟨name, hof, rfl⟩ := except_map_eq_ok_iff.mp hname
    obtain ⟨raw, hraw, rfl⟩ := except_map_eq_ok_iff.mp hof
    cases h
    exact ⟨hm, fun _ => ⟨raw, Naming.charactersOf_eq_ok_iff.mp hraw, rfl⟩,
      fun hne => absurd hkind hne⟩
  · rw [if_neg fun he => hkind (henum.mp he)] at h
    cases h
    exact ⟨hm, fun he => absurd he hkind, fun _ => rfl⟩

theorem mem_all (m : Meaning) : m ∈ Meaning.all := by
  cases m <;> decide

theorem base?_eq_some {t : FieldType} (h : t.meaning ≠ .enum) :
    ∃ base, t.base? = some base ∧ t.meaning.hint? = some base := by
  unfold base?
  revert h
  cases t.meaning <;> simp [Meaning.hint?]

/-- **The hint of a field refers to the names of its type.** -/
theorem refers_hint {f : Field} {t : FieldType} (h : ofField f = .ok t) :
    Refers (t.hint?.getD "") t.names := by
  obtain ⟨hm, hselect, hother⟩ := ofField_eq_ok h
  have henum := meaning_eq_enum_iff hm
  unfold hint? names
  by_cases hkind : f.kind = .select
  · obtain ⟨raw, -, hname⟩ := hselect hkind
    have hplain := Naming.enumTypeName_plain raw
    have hbase : t.base? = some (Naming.enumTypeName raw) := by
      rw [base?, henum.mpr hkind]
      exact hname
    rw [hbase, hname]
    cases t.nullable with
    | true => exact Source.Hint.refers_optional hplain
    | false => exact Source.Hint.refers_plain hplain
  · have hne : t.meaning ≠ .enum := fun he => hkind (henum.mp he)
    obtain ⟨hrequired, hoptional⟩ := refers_meaning t.meaning (mem_all _) hne
    obtain ⟨base, hbase, hhint⟩ := base?_eq_some hne
    rw [hhint] at hrequired hoptional
    rw [hbase, hother hkind]
    cases t.nullable with
    | true => exact hoptional
    | false => exact hrequired

/-- The notes leave the type alone. -/
theorem outcome_resolve (f : Field) : (resolve f).outcome = Outcome.ofFault (ofField f) := by
  unfold resolve
  split <;> cases ofField f <;> rfl

end FieldType

/-! ## Members -/

namespace Member

/-- **A field has a member** iff its name is a text and it has a type. -/
theorem ofField_eq_ok_iff {f : Field} {m : Member} : (ofField f).outcome = .ok m ↔
    ∃ raw t, f.name = .text raw ∧ FieldType.ofField f = .ok t ∧
      m = { identifier := Naming.memberName raw, rawName := raw, hint := t.hint?.getD "",
            nullable := t.nullable, meaning? := some t.meaning } := by
  unfold ofField
  simp only [Logged.outcome_bind_eq_ok, Logged.outcome_ofChecked, FieldType.outcome_resolve,
    ofFault_eq_ok_iff, Logged.outcome_pure, Except.ok.injEq, Naming.charactersOf_eq_ok_iff]
  constructor
  · rintro ⟨t, ht, raw, hraw, rfl⟩
    exact ⟨raw, t, hraw, ht, rfl⟩
  · rintro ⟨raw, t, hraw, ht, rfl⟩
    exact ⟨t, ht, raw, hraw, rfl⟩

end Member

end SchemaModels
