import SchemaModels.Proofs.Enum
import SchemaModels.Proofs.Module.Build
import SchemaModels.Proofs.Module.Statements
import SchemaModels.Proofs.Naming.Reserved

/-!
# Members that hide what their class looks up

While the body of a class is carried out, its members hide names of the module. `CaptureFree` says
that no class has a member, and no enum a variant, that is one of the names its own body looks up.

The list of reserved names keeps members away from every fixed name but one, `classmethod`, and from
no class name at all. `captureFree_iff` shows that this is the exact condition, `Uncaptured`:
whatever the fields are called, no other name can be hidden.
-/

namespace SchemaModels.ModelModule

open Naming (Own)
open Source (Statement)
open Source.Hint (Refers parse)
open Text (IsAscii compat)

/-! ## Capture -/

/-- One of the identifiers is a name that the body of the class looks up. The names of hints are
composed already. -/
def Captures (identifiers : List String) (s : Statement) : Prop :=
  ∃ i ∈ identifiers, compat i ∈ s.body.flatMap Statement.looksUp

/-- **No class of the module hides what it looks up.** -/
structure CaptureFree (m : ModelModule) : Prop where
  enums : ∀ e ∈ m.enums, ∀ s, e.statement = .ok s → ¬ Captures (e.variants.map (·.identifier)) s
  expand : ∀ k, m.expandClass? = some k → ∀ s, k.statement = .ok s →
    ¬ Captures (k.members.map (·.identifier)) s
  data : ∀ s, m.dataClass.statement = .ok s →
    ¬ Captures (m.dataClass.members.map (·.identifier)) s

/-- The hint of the member refers to the name. -/
def HintName (i : Member) (n : String) : Prop := ∃ e, parse i.hint = .ok e ∧ n ∈ e.names

/-- **What keeps the members of a module apart** from the names that its classes look up. -/
structure Uncaptured (m : ModelModule) : Prop where
  /-- No variant is called `classmethod`. -/
  variants : ∀ e ∈ m.enums, ∀ v ∈ e.variants, v.identifier ≠ "classmethod"
  /-- No member of the data class is called `classmethod`. -/
  members : ∀ i ∈ m.dataClass.members, i.identifier ≠ "classmethod"
  /-- No related record is called `classmethod`. -/
  related : ∀ x, m.expand? = some x → ∀ f ∈ x.fields, f.identifier ≠ "classmethod"
  /-- No member of the data class has the name of an enum. -/
  enums : ∀ i ∈ m.dataClass.members, ∀ e ∈ m.enums, compat i.identifier ≠ compat e.name
  /-- No member of the data class has a name that the hint of its related records refers to. -/
  companion : ∀ x, m.expand? = some x → ∀ i ∈ m.dataClass.members,
    ¬ HintName (Member.expand x) (compat i.identifier)
  /-- No related record has a name that the hint of one refers to. -/
  embedded : ∀ x, m.expand? = some x → ∀ f ∈ x.fields, ∀ g ∈ x.fields,
    ¬ HintName (Member.ofExpandField g) (compat f.identifier)

variable {c : Collection} {resolver? : Option Resolver} {name : String}
  {fieldMembers : List Member} {m : ModelModule} {warnings : List String}

/-! ## Identifiers -/

theorem own_variant (h : BuiltFrom c resolver? name fieldMembers m warnings) {e : EnumSpec}
    (he : e ∈ m.enums) {v : Variant} (hv : v ∈ e.variants) : Own v.identifier := by
  rw [EnumSpec.variant_of_ofCollection h.enums he hv]
  exact Naming.own_variantName v.value

theorem own_member (h : BuiltFrom c resolver? name fieldMembers m warnings) {i : Member}
    (hi : i ∈ m.dataClass.members) : Own i.identifier := by
  rcases h.mem_members_iff.mp hi with hi | ⟨x, -, rfl⟩
  · obtain ⟨f, -, raw, t, -, -, hname, -⟩ := h.field_member hi
    rw [hname]
    exact Naming.own_memberName raw
  · exact Naming.own_expand

theorem own_related (h : BuiltFrom c resolver? name fieldMembers m warnings) {x : ExpandSpec}
    (hx : m.expand? = some x) {f : ExpandField} (hf : f ∈ x.fields) : Own f.identifier := by
  obtain ⟨r, mapping, raw, target, -, -, hmade⟩ := (h.expand_fields hx).2.2 f hf
  rw [hmade.identifier]
  exact Naming.own_memberName raw

/-! ## Names that are looked up -/

theorem classmethod_ascii : IsAscii "classmethod".toList := by decide

/-- Every fixed name that a class looks up is reserved, but for `classmethod`. -/
theorem ownLookUp_reserved {k : ClassSpec} {n : String} (h : k.OwnLookUp n) :
    n = "classmethod" ∨ n ∈ Naming.reserved := by
  have hreserved : ∀ w ∈ ["ConfigDict", "ClassVar", "str", "field_validator"],
      w ∈ Naming.reserved := by decide
  rcases h with hn | ⟨-, hn⟩ | ⟨-, rfl⟩
  · simp only [List.mem_cons, List.not_mem_nil, or_false] at hn
    rcases hn with rfl | rfl
    · exact Or.inr (hreserved _ (by simp))
    · exact Or.inl rfl
  · simp only [List.mem_cons, List.not_mem_nil, or_false] at hn
    rcases hn with rfl | rfl
    · exact Or.inr (hreserved _ (by simp))
    · exact Or.inr (hreserved _ (by simp))
  · exact Or.inr (hreserved _ (by simp))

theorem meaningNames_reserved : ∀ t ∈ Meaning.all, ∀ n ∈ FieldType.meaningNames t,
    n ∈ Naming.reserved := by
  decide

/-- Which identifiers of a class its own body looks up. -/
theorem captures_iff {k : ClassSpec} {s : Statement} (hs : k.statement = .ok s)
    (hown : ∀ i ∈ k.members, Own i.identifier) :
    Captures (k.members.map (·.identifier)) s ↔
      ∃ i ∈ k.members, i.identifier = "classmethod" ∨
        ∃ j ∈ k.members, HintName j (compat i.identifier) := by
  obtain ⟨-, -, hlooks⟩ := ClassSpec.statement_names hs
  unfold Captures
  simp only [List.mem_map, exists_exists_and_eq_and]
  refine exists_congr fun i => and_congr_right fun hi => ?_
  have hi' := hown i hi
  rw [hlooks, ← hi'.compat_eq_iff classmethod_ascii]
  constructor
  · rintro (hlook | ⟨j, hj, hfield | hhint⟩)
    · exact Or.inl ((ownLookUp_reserved hlook).resolve_right hi'.compat_not_mem_reserved)
    · have hreserved : "Field" ∈ Naming.reserved := by decide
      exact absurd (hfield ▸ hreserved) hi'.compat_not_mem_reserved
    · exact Or.inr ⟨j, hj, hhint⟩
  · rintro (hcls | ⟨j, hj, hhint⟩)
    · refine Or.inl (Or.inl ?_)
      rw [hcls]
      simp
    · exact Or.inr ⟨j, hj, Or.inr hhint⟩

/-- The hint of a field refers, beside reserved names, to the field's enum. -/
theorem enum_of_hintName (h : BuiltFrom c resolver? name fieldMembers m warnings) {n : String}
    (hn : n ∉ Naming.reserved) {j : Member} (hj : j ∈ fieldMembers) (hhint : HintName j n) :
    ∃ e ∈ m.enums, n = compat e.name := by
  obtain ⟨e, he, hmem⟩ := hhint
  obtain ⟨f, hf, raw, t, hraw, ht, -, heq, -⟩ := h.field_member hj
  rw [heq] at he
  rw [names_of_refers (FieldType.refers_hint ht) he, FieldType.names, List.mem_append] at hmem
  obtain ⟨-, hselect, hother⟩ := FieldType.ofField_eq_ok ht
  rcases hmem with hmem | hmem
  · have hreserved : "Optional" ∈ Naming.reserved := by decide
    split at hmem
    · rw [List.mem_singleton] at hmem
      exact absurd (hmem ▸ hreserved) hn
    · cases hmem
  · by_cases hkind : f.kind = .select
    · obtain ⟨raw', hraw', hname⟩ := hselect hkind
      obtain ⟨e', he', raw'', hraw'', hname'⟩ := exists_right_of_forall₂
        (EnumSpec.forall₂_of_ofCollection h.enums) (List.mem_filter.mpr ⟨hf, decide_eq_true hkind⟩)
      rw [hraw', Json.text.injEq] at hraw''
      rw [hname, List.mem_singleton] at hmem
      exact ⟨e', he', by rw [hmem, hname', hraw'']⟩
    · rw [hother hkind] at hmem
      exact absurd (meaningNames_reserved _ (FieldType.mem_all _) n hmem) hn

/-- There is a field for each enum, and its hint refers to the enum. -/
theorem exists_hintName_of_enum (h : BuiltFrom c resolver? name fieldMembers m warnings)
    {e : EnumSpec} (he : e ∈ m.enums) : ∃ j ∈ fieldMembers, HintName j (compat e.name) := by
  obtain ⟨f, hf, raw, hraw, hname⟩ :=
    exists_left_of_forall₂ (EnumSpec.forall₂_of_ofCollection h.enums) he
  obtain ⟨hf, hkind⟩ := List.mem_filter.mp hf
  obtain ⟨j, hj, hmade⟩ := exists_right_of_forall₂ (Logged.outcome_mapM_eq_ok_iff.mp h.fields) hf
  obtain ⟨raw', t, -, ht, heq⟩ := Member.ofField_eq_ok_iff.mp hmade
  obtain ⟨raw'', hraw'', hclass⟩ := (FieldType.ofField_eq_ok ht).2.1 (of_decide_eq_true hkind)
  obtain ⟨e', he', hnames⟩ := FieldType.refers_hint ht
  rw [hraw, Json.text.injEq] at hraw''
  refine ⟨j, hj, e', ?_, ?_⟩
  · rw [heq]
    exact he'
  · rw [hnames, FieldType.names, hclass, hname, hraw'']
    exact List.mem_append_right _ List.mem_cons_self

/-- The hints of a data class refer, beside reserved names, to its enums and to its companion. -/
theorem hintName_iff (h : BuiltFrom c resolver? name fieldMembers m warnings) {n : String}
    (hn : n ∉ Naming.reserved) : (∃ j ∈ m.dataClass.members, HintName j n) ↔
      (∃ e ∈ m.enums, n = compat e.name) ∨
        ∃ x, m.expand? = some x ∧ HintName (Member.expand x) n := by
  constructor
  · rintro ⟨j, hj, hhint⟩
    rcases h.mem_members_iff.mp hj with hj | ⟨x, hx, rfl⟩
    · exact Or.inl (enum_of_hintName h hn hj hhint)
    · exact Or.inr ⟨x, hx, hhint⟩
  · rintro (⟨e, he, rfl⟩ | ⟨x, hx, hhint⟩)
    · obtain ⟨j, hj, hhint⟩ := exists_hintName_of_enum h he
      exact ⟨j, h.mem_members_iff.mpr (Or.inl hj), hhint⟩
    · exact ⟨Member.expand x, h.mem_members_iff.mpr (Or.inr ⟨x, hx, rfl⟩), hhint⟩

/-! ## Classes -/

theorem enum_captures_iff (h : BuiltFrom c resolver? name fieldMembers m warnings) {e : EnumSpec}
    (he : e ∈ m.enums) {s : Statement} (hs : e.statement = .ok s) :
    Captures (e.variants.map (·.identifier)) s ↔
      ∃ v ∈ e.variants, v.identifier = "classmethod" := by
  obtain ⟨-, -, hlooks⟩ := EnumSpec.statement_names hs
  unfold Captures
  simp only [List.mem_map, exists_exists_and_eq_and, hlooks]
  refine exists_congr fun v => and_congr_right fun hv => ?_
  exact (own_variant h he hv).compat_eq_iff classmethod_ascii

theorem data_captures_iff (h : BuiltFrom c resolver? name fieldMembers m warnings) {s : Statement}
    (hs : m.dataClass.statement = .ok s) :
    Captures (m.dataClass.members.map (·.identifier)) s ↔
      ∃ i ∈ m.dataClass.members, i.identifier = "classmethod" ∨
        (∃ e ∈ m.enums, compat i.identifier = compat e.name) ∨
          ∃ x, m.expand? = some x ∧ HintName (Member.expand x) (compat i.identifier) := by
  rw [captures_iff hs fun i hi => own_member h hi]
  refine exists_congr fun i => and_congr_right fun hi => or_congr_right ?_
  exact hintName_iff h (own_member h hi).compat_not_mem_reserved

theorem expand_captures_iff (h : BuiltFrom c resolver? name fieldMembers m warnings)
    {x : ExpandSpec} (hx : m.expand? = some x) {s : Statement}
    (hs : (expandClass c.name x).statement = .ok s) :
    Captures ((expandClass c.name x).members.map (·.identifier)) s ↔
      ∃ f ∈ x.fields, f.identifier = "classmethod" ∨
        ∃ g ∈ x.fields, HintName (Member.ofExpandField g) (compat f.identifier) := by
  have hmembers : ∀ {p : Member → Prop}, (∃ i ∈ (expandClass c.name x).members, p i) ↔
      ∃ f ∈ x.fields, p (Member.ofExpandField f) := by
    intro p
    simp [expandClass]
  rw [captures_iff hs fun i hi => ?_, hmembers]
  · refine exists_congr fun f => and_congr_right fun hf => or_congr_right ?_
    exact hmembers
  · obtain ⟨f, hf, rfl⟩ := List.mem_map.mp hi
    exact own_related h hx hf

/-- **When the classes of a module hide nothing.** -/
theorem captureFree_iff (h : BuiltFrom c resolver? name fieldMembers m warnings)
    {ss : List Statement} (hss : m.statements = .ok ss) : m.CaptureFree ↔ m.Uncaptured := by
  obtain ⟨enums, expands, data, henums, hexpands, hdata, -⟩ := statements_eq_ok hss
  have henum : ∀ e ∈ m.enums, ∃ s, e.statement = .ok s := fun e he => by
    obtain ⟨s, -, hs⟩ := exists_right_of_forall₂ (except_mapM_eq_ok_iff.mp henums) he
    exact ⟨s, hs⟩
  have hclass : ∀ x, m.expand? = some x → m.expandClass? = some (expandClass c.name x) := by
    intro x hx
    rw [h.expand_class, hx]
    rfl
  constructor
  · rintro ⟨hfreeEnums, hfreeExpand, hfreeData⟩
    have hcaptures := (data_captures_iff h hdata).not.mp (hfreeData data hdata)
    have hrelated : ∀ x, m.expand? = some x → ¬ ∃ f ∈ x.fields, f.identifier = "classmethod" ∨
        ∃ g ∈ x.fields, HintName (Member.ofExpandField g) (compat f.identifier) := by
      intro x hx
      obtain ⟨s, -, hs⟩ := exists_right_of_forall₂ (except_mapM_eq_ok_iff.mp hexpands)
        (Option.mem_toList.mpr (hclass x hx))
      exact (expand_captures_iff h hx hs).not.mp (hfreeExpand _ (hclass x hx) s hs)
    refine ⟨fun e he v hv hcls => ?_, fun i hi hcls => hcaptures ⟨i, hi, Or.inl hcls⟩,
      fun x hx f hf hcls => hrelated x hx ⟨f, hf, Or.inl hcls⟩,
      fun i hi e he heq => hcaptures ⟨i, hi, Or.inr (Or.inl ⟨e, he, heq⟩)⟩,
      fun x hx i hi hhint => hcaptures ⟨i, hi, Or.inr (Or.inr ⟨x, hx, hhint⟩)⟩,
      fun x hx f hf g hg hhint => hrelated x hx ⟨f, hf, Or.inr ⟨g, hg, hhint⟩⟩⟩
    obtain ⟨s, hs⟩ := henum e he
    exact hfreeEnums e he s hs ((enum_captures_iff h he hs).mpr ⟨v, hv, hcls⟩)
  · intro hfree
    refine ⟨fun e he s hs hcaptures => ?_, fun k hk s hs hcaptures => ?_, fun s hs hcaptures => ?_⟩
    · obtain ⟨v, hv, hcls⟩ := (enum_captures_iff h he hs).mp hcaptures
      exact hfree.variants e he v hv hcls
    · rw [h.expand_class] at hk
      obtain ⟨x, hx, rfl⟩ := Option.map_eq_some_iff.mp hk
      obtain ⟨f, hf, hcls | ⟨g, hg, hhint⟩⟩ := (expand_captures_iff h hx hs).mp hcaptures
      · exact hfree.related x hx f hf hcls
      · exact hfree.embedded x hx f hf g hg hhint
    · obtain ⟨i, hi, hcls | ⟨e, he, heq⟩ | ⟨x, hx, hhint⟩⟩ := (data_captures_iff h hs).mp hcaptures
      · exact hfree.members i hi hcls
      · exact hfree.enums i hi e he heq
      · exact hfree.companion x hx i hi hhint

/-- **Members can hide a decorator, an enum or a related class**, and nothing else. -/
theorem build_captureFree_iff (h : (build c resolver?).outcome = .ok (m, warnings))
    {ss : List Statement} (hss : m.statements = .ok ss) : m.CaptureFree ↔ m.Uncaptured := by
  obtain ⟨name, fieldMembers, hbuilt⟩ := build_eq_ok_iff.mp h
  exact captureFree_iff hbuilt hss

/-- A collection with a field that is called as a decorator of the class is. -/
def decorated : Collection where
  id := "c1"
  name := .text "posts"
  fields := [{ name := .text "classmethod", kind := .text, required := true }]

/-- The module of `decorated` is built and written out. -/
theorem decorated_written : ∃ m warnings ss, (build decorated none).outcome = .ok (m, warnings) ∧
    m.statements = .ok ss ∧ m.dataClass.members.map (·.identifier) = ["classmethod"] := by
  have hbuilt : ((build decorated none).outcome.toOption.map fun built =>
      (built.1.statements.toOption.isSome, built.1.dataClass.members.map (·.identifier))) =
        some (true, ["classmethod"]) := by
    decide +kernel
  cases h : (build decorated none).outcome with
  | error e =>
    rw [h] at hbuilt
    cases hbuilt
  | ok built =>
    rw [h] at hbuilt
    obtain ⟨hstatements, hnames⟩ := Prod.mk.inj (Option.some.inj hbuilt)
    cases hss : built.1.statements with
    | error e =>
      rw [hss] at hstatements
      cases hstatements
    | ok ss => exact ⟨built.1, built.2, ss, rfl, hss, hnames⟩

theorem build_captureFree_iff_decorated : ∃ m warnings ss,
    (build decorated none).outcome = .ok (m, warnings) ∧ m.statements = .ok ss ∧
      (m.CaptureFree ↔ m.Uncaptured) := by
  obtain ⟨m, warnings, ss, h, hss, -⟩ := decorated_written
  exact ⟨m, warnings, ss, h, hss, build_captureFree_iff h hss⟩

/-- The data class of `decorated` hides the decorator of its own methods. -/
theorem not_captureFree_decorated : ∃ m warnings ss,
    (build decorated none).outcome = .ok (m, warnings) ∧ m.statements = .ok ss ∧
      ¬ m.CaptureFree := by
  obtain ⟨m, warnings, ss, h, hss, hnames⟩ := decorated_written
  refine ⟨m, warnings, ss, h, hss, fun hfree => ?_⟩
  obtain ⟨name, fieldMembers, hbuilt⟩ := build_eq_ok_iff.mp h
  have hmem : "classmethod" ∈ m.dataClass.members.map (·.identifier) := by
    rw [hnames]
    exact List.mem_singleton_self _
  obtain ⟨i, hi, hcls⟩ := List.mem_map.mp hmem
  exact ((captureFree_iff hbuilt hss).mp hfree).members i hi hcls

end SchemaModels.ModelModule
