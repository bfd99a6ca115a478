import SchemaModels.Proofs.Enum
import SchemaModels.Proofs.Module.Build
import SchemaModels.Proofs.Module.Imports
import SchemaModels.Proofs.Module.Statements
import SchemaModels.Proofs.Text.Compat

/-!
# The names that a module refers to

The hints of a module are made in several places, and its imports are worked out from the finished
hints. `Provides` says that a module has a name: it is built in, imported or one of its own classes.
`provides_of_uses`: a built module has every name that its text refers to, if its related classes
are where its expansions say (`Anchored`). `imported_relative` says which names it imports from the
package.
-/

namespace SchemaModels.ModelModule

open ImportList (Has)
open Source (Statement)
open Source.Hint (Plain parse)
open Text (compat IsWordly)

/-- The names that every text refers to without importing them. -/
def builtins : List String := ["str", "int", "float", "bool", "classmethod"]

/-- The text has the name: it is built in, or the composed form of what the text imports or
defines. -/
def Provided (ss : List Statement) (n : String) : Prop :=
  n ∈ builtins ∨
    ∃ k ∈ ss.flatMap Statement.imports ++ ss.flatMap Statement.classes, compat k = n

instance (ss : List Statement) (n : String) : Decidable (Provided ss n) :=
  inferInstanceAs (Decidable (_ ∨ _))

/-- The related classes of a module are names, and those that it takes for its own are its own. -/
def Anchored (m : ModelModule) : Prop :=
  ∀ x, m.expand? = some x → ∀ f ∈ x.fields, Plain f.targetType ∧
    (f.isSelfReference = true → f.targetType = m.dataClass.name)

variable {c : Collection} {resolver? : Option Resolver} {name : String}
  {fieldMembers : List Member} {m : ModelModule} {warnings : List String} {ss : List Statement}

/-! ## What a text has -/

theorem imports_importStatements (specs : List ImportSpec) :
    (specs.map ImportSpec.statement).flatMap Statement.imports =
      specs.flatMap (·.names) := by
  rw [List.flatMap_map]
  rfl

theorem mem_names_of_has {specs : List ImportSpec} {level : Nat} {module n : String}
    (h : Has specs level module n) : n ∈ specs.flatMap (·.names) := by
  obtain ⟨s, hs, -, -, hn⟩ := h
  exact List.mem_flatMap.mpr ⟨s, hs, hn⟩

theorem classes_statements (hss : m.statements = .ok ss) :
    ss.flatMap Statement.classes = m.exports := by
  obtain ⟨enums, expands, data, henums, hexpands, hdata, rfl⟩ := statements_eq_ok hss
  have himports : ∀ specs : List ImportSpec,
      (specs.map ImportSpec.statement).flatMap Statement.classes = [] := by
    intro specs
    rw [List.flatMap_map, List.flatMap_eq_nil_iff]
    exact fun _ _ => rfl
  have hcalls : (m.rebuilt.map rebuildCall).flatMap Statement.classes = [] := by
    rw [List.flatMap_map, List.flatMap_eq_nil_iff]
    exact fun _ _ => rfl
  have hdata' : data.classes = [m.dataClass.name] := by
    obtain ⟨⟨bases, body, rfl⟩, -⟩ := ClassSpec.statement_names hdata
    rfl
  have hclass : ∀ (n : String) (bases : List Source.Expr) (body : List Statement),
      (Statement.classDef n bases body).classes = [n] := fun _ _ _ => rfl
  simp only [List.flatMap_append, List.flatMap_cons, List.flatMap_nil, himports,
    flatMap_classStatements (fun _ _ hs => (EnumSpec.statement_names hs).1) hclass henums,
    flatMap_classStatements (fun _ _ hs => (ClassSpec.statement_names hs).1) hclass hexpands,
    hdata', hcalls]
  unfold exports
  cases m.expandClass? <;> simp [Statement.classes]

/-- What a module imports at its head or at its end, it has. -/
theorem provided_of_has (hss : m.statements = .ok ss) {level : Nat} {module k : String}
    (h : Has m.imports level module k ∨ Has m.deferredImports level module k) :
    Provided ss (compat k) := by
  refine Or.inr ⟨k, List.mem_append_left _ ?_, rfl⟩
  obtain ⟨enums, expands, data, -, -, -, rfl⟩ := statements_eq_ok hss
  simp only [List.flatMap_append, List.flatMap_cons, imports_importStatements, List.mem_append]
  rcases h with h | h
  · have hmem := mem_names_of_has h
    simp [hmem]
  · have hmem := mem_names_of_has h
    simp [hmem]

/-- A class of the module is a name that it has. -/
theorem provided_of_export (hss : m.statements = .ok ss) {k : String} (h : k ∈ m.exports) :
    Provided ss (compat k) := by
  refine Or.inr ⟨k, List.mem_append_right _ ?_, rfl⟩
  rw [classes_statements hss]
  exact h

/-! ## The head -/

/-- The names that a module may import, whatever its hints say, and those that it takes from
hints. -/
theorem headNames_ascii : ∀ n ∈ ["BaseModel", "ConfigDict", "Field", "field_validator", "Enum",
    "ClassVar", "datetime", "GeoPointData"] ++ typingNames, compat n = n := by
  decide

theorem provided_of_base (h : BuiltFrom c resolver? name fieldMembers m warnings)
    (hss : m.statements = .ok ss) {module n : String}
    (hn : BaseNeeds m.dataClass m.enums m.expandClass? 0 module n) (hcompat : compat n = n) :
    Provided ss n := by
  rw [← hcompat]
  exact provided_of_has hss (Or.inl ((has_headImports_iff h.imports).mpr (Or.inl hn)))

/-- What the fixed parts of a module refer to. -/
theorem provided_fixed (h : BuiltFrom c resolver? name fieldMembers m warnings)
    (hss : m.statements = .ok ss) {n : String}
    (hn : n ∈ ["BaseModel", "ConfigDict", "Field", "Any", "Dict"]) : Provided ss n := by
  have hcompat : compat n = n := headNames_ascii n (by
    simp only [List.mem_cons, List.not_mem_nil, or_false] at hn
    rcases hn with rfl | rfl | rfl | rfl | rfl <;> decide)
  simp only [List.mem_cons, List.not_mem_nil, or_false] at hn
  rcases hn with rfl | rfl | rfl | rfl | rfl
  · exact provided_of_base h hss ⟨rfl, Or.inr (Or.inl ⟨rfl, Or.inl (by simp)⟩)⟩ hcompat
  · exact provided_of_base h hss ⟨rfl, Or.inr (Or.inl ⟨rfl, Or.inl (by simp)⟩)⟩ hcompat
  · exact provided_of_base h hss ⟨rfl, Or.inr (Or.inl ⟨rfl, Or.inl (by simp)⟩)⟩ hcompat
  · exact provided_of_base h hss ⟨rfl, Or.inr (Or.inr (Or.inr ⟨rfl, Or.inl (by simp)⟩))⟩ hcompat
  · exact provided_of_base h hss ⟨rfl, Or.inr (Or.inr (Or.inr ⟨rfl, Or.inl (by simp)⟩))⟩ hcompat

/-- What a class refers to beside its members and itself, its module has. -/
theorem provided_of_ownUse (h : BuiltFrom c resolver? name fieldMembers m warnings)
    (hss : m.statements = .ok ss) {k : ClassSpec}
    (hconstants : k.collectionName?.isSome → m.dataClass.collectionName?.isSome)
    (hblank : k.blankMembers ≠ [] → m.dataClass.blankMembers ≠ []) {n : String}
    (hn : k.OwnUse n) : Provided ss n := by
  rcases hn with hn | ⟨hsome, rfl⟩ | ⟨hne, rfl⟩
  · simp only [List.mem_cons, List.not_mem_nil, or_false] at hn
    rcases hn with rfl | rfl | rfl | rfl | rfl | rfl
    · exact provided_fixed h hss (by simp)
    · exact provided_fixed h hss (by simp)
    · exact Or.inl (by decide)
    · exact provided_fixed h hss (by simp)
    · exact Or.inl (by decide)
    · exact provided_fixed h hss (by simp)
  · exact provided_of_base h hss
      ⟨rfl, Or.inr (Or.inr (Or.inr ⟨rfl, Or.inr (Or.inl ⟨rfl, hconstants hsome⟩)⟩))⟩
      (headNames_ascii _ (by decide))
  · exact provided_of_base h hss ⟨rfl, Or.inr (Or.inl ⟨rfl, Or.inr ⟨rfl, hblank hne⟩⟩)⟩
      (headNames_ascii _ (by decide))

/-! ## Hints -/

/-- A name that a hint takes from a library is imported because the hint has it. -/
theorem provided_of_hint (h : BuiltFrom c resolver? name fieldMembers m warnings)
    (hss : m.statements = .ok ss) {i : Member}
    (hi : i ∈ m.dataClass.members ∨ ∃ k, m.expandClass? = some k ∧ i ∈ k.members)
    {e : Source.Expr} (he : parse i.hint = .ok e) {n : String} (hn : n ∈ e.names)
    (hfixed : n ∈ typingNames ∨ n = "datetime" ∨ n = "GeoPointData") : Provided ss n := by
  have hcompat : compat n = n := headNames_ascii n (by
    rcases hfixed with hn | rfl | rfl
    · exact List.mem_append_right _ hn
    · decide
    · decide)
  have hhint : i.hint ∈ hints m.dataClass m.expandClass? := by
    unfold hints
    rw [List.map_append, List.mem_append]
    rcases hi with hi | ⟨k, hk, hi⟩
    · exact Or.inl (List.mem_map_of_mem hi)
    · rw [hk]
      exact Or.inr (List.mem_map_of_mem hi)
  have hneeds : ∀ {level : Nat} {module : String},
      HintNeeds m.dataClass.name e.names level module n → Provided ss n := fun hneed => by
    rw [← hcompat]
    exact provided_of_has hss
      (Or.inl ((has_headImports_iff h.imports).mpr (Or.inr ⟨i.hint, hhint, e, he, hneed⟩)))
  rcases hfixed with hn' | rfl | rfl
  · exact hneeds ⟨hn, Or.inl ⟨rfl, rfl, hn'⟩⟩
  · exact hneeds ⟨hn, Or.inr (Or.inl ⟨rfl, rfl, rfl⟩)⟩
  · by_cases hdata : m.dataClass.name = "GeoPointData"
    · rw [← hcompat, ← hdata]
      refine provided_of_export hss ?_
      unfold exports
      simp
    · exact hneeds ⟨hn, Or.inr (Or.inr ⟨rfl, rfl, rfl, hdata⟩)⟩

/-- The names that hints of meanings refer to are built in or taken from a library. -/
theorem meaningNames_fixed : ∀ t ∈ Meaning.all, ∀ n ∈ FieldType.meaningNames t,
    n ∈ builtins ∨ n ∈ typingNames ∨ n = "datetime" ∨ n = "GeoPointData" := by
  decide

/-- The hint of a field's member refers to names that the module has. -/
theorem provided_of_field (h : BuiltFrom c resolver? name fieldMembers m warnings)
    (hss : m.statements = .ok ss) {i : Member} (hi : i ∈ fieldMembers) {e : Source.Expr}
    (he : parse i.hint = .ok e) {n : String} (hn : n ∈ e.names) : Provided ss n := by
  obtain ⟨f, hf, raw, t, hraw, ht, -, hhint, -⟩ := h.field_member hi
  have hmember : i ∈ m.dataClass.members := h.mem_members_iff.mpr (Or.inl hi)
  have hnames := names_of_refers (hhint ▸ FieldType.refers_hint ht) he
  have hmem := hn
  rw [hnames, FieldType.names, List.mem_append] at hmem
  obtain ⟨-, hselect, hother⟩ := FieldType.ofField_eq_ok ht
  rcases hmem with hmem | hmem
  · split at hmem
    · rw [List.mem_singleton] at hmem
      exact provided_of_hint h hss (Or.inl hmember) he hn (Or.inl (by rw [hmem]; decide))
    · cases hmem
  by_cases hkind : f.kind = .select
  · obtain ⟨raw', hraw', hname⟩ := hselect hkind
    obtain ⟨e', he', raw'', hraw'', hname'⟩ := exists_right_of_forall₂
      (EnumSpec.forall₂_of_ofCollection h.enums) (List.mem_filter.mpr ⟨hf, decide_eq_true hkind⟩)
    rw [hraw', Json.text.injEq] at hraw''
    rw [hname, List.mem_singleton, hraw'', ← hname'] at hmem
    rw [hmem]
    refine provided_of_export hss ?_
    unfold exports
    simp only [List.mem_append]
    exact Or.inl (Or.inl (List.mem_map_of_mem he'))
  · rw [hother hkind] at hmem
    rcases meaningNames_fixed _ (FieldType.mem_all _) n hmem with hbuiltin | hfixed
    · exact Or.inl hbuiltin
    · exact provided_of_hint h hss (Or.inl hmember) he hn hfixed

/-! ## Classes -/

theorem data_mem_exports (m : ModelModule) : m.dataClass.name ∈ m.exports := by
  unfold exports
  simp

theorem expand_mem_exports (h : BuiltFrom c resolver? name fieldMembers m warnings) {x : ExpandSpec}
    (hx : m.expand? = some x) : x.name ∈ m.exports := by
  unfold exports
  rw [h.expand_class, hx]
  simp [expandClass]

theorem expandClass?_eq (h : BuiltFrom c resolver? name fieldMembers m warnings) {x : ExpandSpec}
    (hx : m.expand? = some x) : m.expandClass? = some (expandClass c.name x) := by
  rw [h.expand_class, hx]
  rfl

/-- What a class with plain names refers to, its module has, if it has the names of the hints. -/
theorem provided_of_class (h : BuiltFrom c resolver? name fieldMembers m warnings)
    (hss : m.statements = .ok ss) {k : ClassSpec} {s : Statement} (hs : k.statement = .ok s)
    (hconstants : k.collectionName?.isSome → m.dataClass.collectionName?.isSome)
    (hblank : k.blankMembers ≠ [] → m.dataClass.blankMembers ≠ [])
    (hname : Plain k.name) (hexport : k.name ∈ m.exports)
    (hhints : ∀ i ∈ k.members, ∀ e, parse i.hint = .ok e → ∀ n ∈ e.names, Provided ss n)
    {n : String}
    (hn : n ∈ s.uses) : Provided ss n := by
  obtain ⟨-, ⟨self, hself, huses⟩, -⟩ := ClassSpec.statement_names hs
  rcases huses n hn with hown | ⟨i, hi, rfl | ⟨e, he, hne⟩⟩ | hself'
  · exact provided_of_ownUse h hss hconstants hblank hown
  · exact provided_fixed h hss (by simp)
  · exact hhints i hi e he n hne
  · rw [names_of_refers (Source.Hint.refers_plain hname) hself, List.mem_singleton] at hself'
    rw [hself']
    exact provided_of_export hss hexport

/-- The hint of the member for related records refers to the companion class. -/
theorem provided_of_companion (h : BuiltFrom c resolver? name fieldMembers m warnings)
    (hss : m.statements = .ok ss) {x : ExpandSpec} (hx : m.expand? = some x) (hplain : Plain x.name)
    {e : Source.Expr} (he : parse (Member.expand x).hint = .ok e) {n : String} (hn : n ∈ e.names) :
    Provided ss n := by
  have hnames := names_of_refers (Source.Hint.refers_optional hplain) he
  have hmem := hn
  rw [hnames, List.mem_cons, List.mem_singleton] at hmem
  rcases hmem with hoptional | hcompanion
  · exact provided_of_hint h hss (Or.inl (h.mem_members_iff.mpr (Or.inr ⟨x, hx, rfl⟩))) he hn
      (Or.inl (by rw [hoptional]; decide))
  · rw [hcompanion]
    exact provided_of_export hss (expand_mem_exports h hx)

/-- The hint of a related record refers to its class, and says that the record may be missing. -/
theorem names_expandHint {f : ExpandField} (hplain : Plain f.targetType) {e : Source.Expr}
    (he : parse (Member.ofExpandField f).hint = .ok e) {n : String} (hn : n ∈ e.names) :
    n = "Optional" ∨ n = "List" ∨ n = compat f.targetType := by
  cases hsingle : f.isSingle with
  | true =>
    have hhint : (Member.ofExpandField f).hint = "Optional[" ++ f.targetType ++ "]" := by
      unfold Member.ofExpandField
      rw [hsingle]
      rfl
    rw [names_of_refers (Source.Hint.refers_optional hplain) (hhint ▸ he)] at hn
    simp only [List.mem_cons, List.not_mem_nil, or_false] at hn
    exact hn.imp_right Or.inr
  | false =>
    have hhint : (Member.ofExpandField f).hint =
        "Optional[" ++ ("List[" ++ f.targetType ++ "]") ++ "]" := by
      unfold Member.ofExpandField
      rw [hsingle]
      rfl
    rw [names_of_refers (Source.Hint.refers_optional_list hplain) (hhint ▸ he)] at hn
    simpa using hn

/-- The class of a related record is imported, or the module's own. -/
theorem provided_of_target (h : BuiltFrom c resolver? name fieldMembers m warnings)
    (hss : m.statements = .ok ss) {x : ExpandSpec} (hx : m.expand? = some x) {f : ExpandField}
    (hf : f ∈ x.fields) (hself : f.isSelfReference = true → f.targetType = m.dataClass.name) :
    Provided ss (compat f.targetType) := by
  cases hown : f.isSelfReference with
  | true =>
    rw [hself hown]
    exact provided_of_export hss (data_mem_exports m)
  | false =>
    have hhas : Has m.deferredImports 1 f.targetModule f.targetType := by
      rw [h.deferred, has_relatedImports_iff]
      refine ⟨f, ?_, rfl, rfl, rfl⟩
      unfold relatedFields
      rw [hx]
      exact List.mem_filter.mpr ⟨hf, by rw [hown]; rfl⟩
    exact provided_of_has hss (Or.inr hhas)

theorem provided_of_related (h : BuiltFrom c resolver? name fieldMembers m warnings)
    (hss : m.statements = .ok ss) {x : ExpandSpec} (hx : m.expand? = some x) {f : ExpandField}
    (hf : f ∈ x.fields) (hplain : Plain f.targetType)
    (hself : f.isSelfReference = true → f.targetType = m.dataClass.name) {e : Source.Expr}
    (he : parse (Member.ofExpandField f).hint = .ok e) {n : String} (hn : n ∈ e.names) :
    Provided ss n := by
  have hmember : ∃ k, m.expandClass? = some k ∧ Member.ofExpandField f ∈ k.members :=
    ⟨_, expandClass?_eq h hx, List.mem_map_of_mem hf⟩
  rcases names_expandHint hplain he hn with hoptional | hlist | hclass
  · exact provided_of_hint h hss (Or.inr hmember) he hn (Or.inl (by rw [hoptional]; decide))
  · exact provided_of_hint h hss (Or.inr hmember) he hn (Or.inl (by rw [hlist]; decide))
  · rw [hclass]
    exact provided_of_target h hss hx hf hself

/-! ## Modules -/

/-- The classes of a module that is written out have plain names, if its collection's is wordly. -/
theorem own_plain (h : BuiltFrom c resolver? name fieldMembers m warnings)
    (hss : m.statements = .ok ss) (hw : ∀ d ∈ name.toList, IsWordly d) :
    Plain m.dataClass.name ∧ ∀ x, m.expand? = some x → Plain x.name := by
  obtain ⟨enums, expands, data, -, -, hdata, -⟩ := statements_eq_ok hss
  obtain ⟨-, ⟨self, hself, -⟩, -⟩ := ClassSpec.statement_names hdata
  rw [h.data_class] at hself
  constructor
  · rw [h.data_class]
    exact Naming.typeName_plain_of_parse hw hself (Or.inl rfl)
  · intro x hx
    rw [(h.expand_fields hx).1]
    exact Naming.typeName_plain_of_parse hw hself (Or.inr rfl)

theorem provided_of_enum (h : BuiltFrom c resolver? name fieldMembers m warnings)
    (hss : m.statements = .ok ss) {e : EnumSpec} (he : e ∈ m.enums) {s : Statement}
    (hs : e.statement = .ok s) {n : String} (hn : n ∈ s.uses) : Provided ss n := by
  obtain ⟨-, ⟨self, hself, huses⟩, -⟩ := EnumSpec.statement_names hs
  obtain ⟨f, -, raw, -, hname⟩ :=
    exists_left_of_forall₂ (EnumSpec.forall₂_of_ofCollection h.enums) he
  rcases huses n hn with hfixed | hself'
  · simp only [List.mem_cons, List.not_mem_nil, or_false] at hfixed
    rcases hfixed with rfl | rfl | rfl
    · exact Or.inl (by decide)
    · exact provided_of_base h hss
        ⟨rfl, Or.inr (Or.inr (Or.inl ⟨rfl, rfl, List.ne_nil_of_mem he⟩))⟩
        (headNames_ascii _ (by decide))
    · exact Or.inl (by decide)
  · have hplain : Plain e.name := hname ▸ Naming.enumTypeName_plain raw
    rw [names_of_refers (Source.Hint.refers_plain hplain) hself, List.mem_singleton] at hself'
    rw [hself']
    refine provided_of_export hss ?_
    unfold exports
    simp only [List.mem_append]
    exact Or.inl (Or.inl (List.mem_map_of_mem he))

theorem provided_of_data (h : BuiltFrom c resolver? name fieldMembers m warnings)
    (hss : m.statements = .ok ss) (hw : ∀ d ∈ name.toList, IsWordly d) {s : Statement}
    (hs : m.dataClass.statement = .ok s) {n : String} (hn : n ∈ s.uses) : Provided ss n := by
  obtain ⟨hplain, hcompanion⟩ := own_plain h hss hw
  refine provided_of_class h hss hs id id hplain (data_mem_exports m) (fun i hi e he k hk => ?_) hn
  rcases h.mem_members_iff.mp hi with hi | ⟨x, hx, rfl⟩
  · exact provided_of_field h hss hi he hk
  · exact provided_of_companion h hss hx (hcompanion x hx) he hk

theorem provided_of_expand (h : BuiltFrom c resolver? name fieldMembers m warnings)
    (hss : m.statements = .ok ss) (hw : ∀ d ∈ name.toList, IsWordly d) (ha : Anchored m)
    {x : ExpandSpec} (hx : m.expand? = some x) {s : Statement}
    (hs : (expandClass c.name x).statement = .ok s) {n : String} (hn : n ∈ s.uses) :
    Provided ss n := by
  have hblank : (expandClass c.name x).blankMembers = [] := by
    unfold ClassSpec.blankMembers
    rw [List.map_eq_nil_iff, List.filter_eq_nil_iff]
    intro i hi
    obtain ⟨f, -, rfl⟩ := List.mem_map.mp hi
    simp [Member.acceptsBlank, Member.ofExpandField]
  refine provided_of_class h hss hs (fun hsome => ?_) (fun hne => absurd hblank hne)
    ((own_plain h hss hw).2 x hx) (expand_mem_exports h hx) (fun i hi e he k hk => ?_) hn
  · cases hsome
  · obtain ⟨f, hf, rfl⟩ := List.mem_map.mp hi
    exact provided_of_related h hss hx hf (ha x hx f hf).1 (ha x hx f hf).2 he hk

theorem provided_of_rebuilt (h : BuiltFrom c resolver? name fieldMembers m warnings)
    (hss : m.statements = .ok ss) (hw : ∀ d ∈ name.toList, IsWordly d) {k : String}
    (hk : k ∈ m.rebuilt) {n : String} (hn : n ∈ (rebuildCall k).uses) : Provided ss n := by
  have hmade : k ∈ m.exports ∧ ∃ suffix, (suffix = Naming.dataSuffix ∨
      suffix = Naming.expandSuffix) ∧ k = Naming.typeName name suffix := by
    unfold rebuilt at hk
    rw [h.expand_class] at hk
    cases hx : m.expand? with
    | none =>
      rw [hx] at hk
      cases hk
    | some x =>
      rw [hx] at hk
      simp only [Option.map_some, List.mem_cons, List.not_mem_nil, or_false] at hk
      rcases hk with rfl | rfl
      · exact ⟨expand_mem_exports h hx, _, Or.inr rfl, (h.expand_fields hx).1⟩
      · refine ⟨data_mem_exports m, _, Or.inl rfl, ?_⟩
        rw [h.data_class]
  obtain ⟨hexport, suffix, hsuffix, hname⟩ := hmade
  have hwordly : ∀ d ∈ k.toList, IsWordly d := hname ▸ Naming.typeName_wordly hw hsuffix
  rw [rebuildCall_uses fun hdot => absurd (hwordly _ hdot) (by decide), List.mem_singleton] at hn
  have hascii : Text.IsAscii k.toList := fun d hd => Text.lt_of_wordly (hwordly d hd)
  rw [hn, ← Text.compat_ascii hascii]
  exact provided_of_export hss hexport

/-- **A module has every name that its text refers to**, if its related classes are where its
expansions say. -/
theorem provided_of_uses (h : BuiltFrom c resolver? name fieldMembers m warnings)
    (hss : m.statements = .ok ss) (hw : ∀ d ∈ name.toList, IsWordly d) (ha : Anchored m)
    {n : String}
    (hn : n ∈ ss.flatMap Statement.uses) : Provided ss n := by
  obtain ⟨hplain, hcompanion⟩ := own_plain h hss hw
  obtain ⟨enums, expands, data, henums, hexpands, hdata, heq⟩ := statements_eq_ok hss
  have himports : ∀ specs : List ImportSpec,
      n ∉ (specs.map ImportSpec.statement).flatMap Statement.uses := by
    intro specs hmem
    obtain ⟨s, hs, hmem⟩ := List.mem_flatMap.mp hmem
    obtain ⟨spec, -, rfl⟩ := List.mem_map.mp hs
    cases hmem
  have hall : n ∉ (Statement.assign "__all__" (.list (m.exports.map .text))).uses := by
    have htexts : (m.exports.map Source.Expr.text).flatMap Source.Expr.names = [] := by
      rw [List.flatMap_map, List.flatMap_eq_nil_iff]
      exact fun _ _ => rfl
    rw [Statement.uses, Source.Expr.names, Source.Expr.namesOfItems_eq, htexts]
    exact List.not_mem_nil
  have hcases : n ∈ enums.flatMap Statement.uses ∨ n ∈ expands.flatMap Statement.uses ∨
      n ∈ data.uses ∨ n ∈ (m.rebuilt.map rebuildCall).flatMap Statement.uses := by
    rw [heq] at hn
    simp only [List.flatMap_append, List.flatMap_cons, List.flatMap_nil, List.mem_append,
      himports, hall, List.not_mem_nil, or_false] at hn
    have hdoc : n ∉ (Statement.docstring m.docstring).uses := List.not_mem_nil
    simpa [hdoc, or_assoc] using hn
  rcases hcases with hn | hn | hn | hn
  · obtain ⟨s, hs, hn⟩ := List.mem_flatMap.mp hn
    obtain ⟨e, he, hes⟩ := exists_left_of_forall₂ (except_mapM_eq_ok_iff.mp henums) hs
    exact provided_of_enum h hss he hes hn
  · obtain ⟨s, hs, hn⟩ := List.mem_flatMap.mp hn
    obtain ⟨k, hk, hks⟩ := exists_left_of_forall₂ (except_mapM_eq_ok_iff.mp hexpands) hs
    rw [h.expand_class, Option.mem_toList, Option.map_eq_some_iff] at hk
    obtain ⟨x, hx, rfl⟩ := hk
    exact provided_of_expand h hss hw ha hx hks hn
  · exact provided_of_data h hss hw hdata hn
  · obtain ⟨s, hs, hn⟩ := List.mem_flatMap.mp hn
    obtain ⟨k, hk, rfl⟩ := List.mem_map.mp hs
    exact provided_of_rebuilt h hss hw hk hn

/-! ## Imports from the package -/

theorem exists_spec_of_statement {specs : List ImportSpec} {level : Nat} {module? : Option String}
    {ns : List String}
    (h : Statement.importNames level module? ns ∈ specs.map ImportSpec.statement) {n : String}
    (hn : n ∈ ns) : ∃ module, Has specs level module n ∧ (module ≠ "" → module? = some module) := by
  obtain ⟨spec, hspec, heq⟩ := List.mem_map.mp h
  unfold ImportSpec.statement at heq
  rw [Statement.importNames.injEq] at heq
  obtain ⟨rfl, hmodule, rfl⟩ := heq
  refine ⟨spec.module, ⟨spec, hspec, rfl, rfl, hn⟩, fun hne => ?_⟩
  rw [← hmodule, if_neg (by simpa using hne)]

/-- A text imports at its head, or after its classes. -/
theorem importNames_mem (hss : m.statements = .ok ss) {level : Nat} {module? : Option String}
    {ns : List String} (hs : .importNames level module? ns ∈ ss) :
    .importNames level module? ns ∈ m.imports.map ImportSpec.statement ∨
      .importNames level module? ns ∈ m.deferredImports.map ImportSpec.statement := by
  obtain ⟨enums, expands, data, henums, hexpands, hdata, rfl⟩ := statements_eq_ok hss
  simp only [List.mem_cons, List.mem_append, List.not_mem_nil, or_false] at hs
  rcases hs with ((((((hs | hs) | hs) | hs) | hs) | hs) | hs) | hs
  · cases hs
  · exact Or.inl hs
  · cases hs
  · obtain ⟨e, -, he⟩ := exists_left_of_forall₂ (except_mapM_eq_ok_iff.mp henums) hs
    obtain ⟨⟨bases, body, heq⟩, -⟩ := EnumSpec.statement_names he
    cases heq
  · obtain ⟨k, -, hk⟩ := exists_left_of_forall₂ (except_mapM_eq_ok_iff.mp hexpands) hs
    obtain ⟨⟨bases, body, heq⟩, -⟩ := ClassSpec.statement_names hk
    cases heq
  · obtain ⟨⟨bases, body, heq⟩, -⟩ := ClassSpec.statement_names hdata
    rw [← hs] at heq
    cases heq
  · exact Or.inr hs
  · obtain ⟨k, -, hk⟩ := List.mem_map.mp hs
    cases hk

/-- What a module imports after its classes are the classes of related collections. -/
theorem related_of_deferred (h : BuiltFrom c resolver? name fieldMembers m warnings) {level : Nat}
    {module n : String} (hhas : Has m.deferredImports level module n) :
    level = 1 ∧ module ≠ "" ∧
      ∃ x, m.expand? = some x ∧ ∃ f ∈ x.fields, module = f.targetModule ∧ n = f.targetType := by
  rw [h.deferred, has_relatedImports_iff] at hhas
  obtain ⟨f, hf, hlevel, rfl, rfl⟩ := hhas
  unfold relatedFields at hf
  cases hx : m.expand? with
  | none =>
    rw [hx] at hf
    cases hf
  | some x =>
    rw [hx] at hf
    have hfx := List.mem_of_mem_filter hf
    obtain ⟨r, mapping, raw, target, -, -, hmade⟩ := (h.expand_fields hx).2.2 f hfx
    refine ⟨hlevel, ?_, x, rfl, f, hfx, rfl, rfl⟩
    rw [hmade.module]
    exact Naming.moduleName_ne_empty target

/-- **What a module imports from the package**: the class of geographic points, or that of a related
collection. -/
theorem imported_relative (h : BuiltFrom c resolver? name fieldMembers m warnings)
    (hss : m.statements = .ok ss) {level : Nat} {module? : Option String} {ns : List String}
    (hs : .importNames (level + 1) module? ns ∈ ss) {n : String} (hn : n ∈ ns) : level = 0 ∧
      ((module? = some FixedModule.geoPoint.name ∧ n = "GeoPointData") ∨
        ∃ x, m.expand? = some x ∧ ∃ f ∈ x.fields,
          module? = some f.targetModule ∧ n = f.targetType) := by
  rcases importNames_mem hss hs with hs | hs
  · obtain ⟨module, hhas, hmodule⟩ := exists_spec_of_statement hs hn
    rw [has_headImports_iff h.imports] at hhas
    rcases hhas with ⟨hlevel, -⟩ |
      ⟨_, -, _, -, -, ⟨hlevel, -⟩ | ⟨hlevel, -⟩ | ⟨hlevel, rfl, rfl, -⟩⟩
    · cases hlevel
    · cases hlevel
    · cases hlevel
    · exact ⟨by omega, Or.inl ⟨hmodule (by decide), rfl⟩⟩
  · obtain ⟨module, hhas, hmodule⟩ := exists_spec_of_statement hs hn
    obtain ⟨hlevel, hne, x, hx, f, hf, rfl, rfl⟩ := related_of_deferred h hhas
    exact ⟨by omega, Or.inr ⟨x, hx, f, hf, hmodule hne, rfl⟩⟩

end SchemaModels.ModelModule
