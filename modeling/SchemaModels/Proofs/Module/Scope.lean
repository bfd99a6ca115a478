import SchemaModels.Proofs.Enum
import SchemaModels.Proofs.Module.Build
import SchemaModels.Proofs.Module.Imports
import SchemaModels.Proofs.Module.Statements
import SchemaModels.Proofs.Text.Compat

/-!
# The names at the top of a module

A module binds the names that it imports at its head, `__all__`, its classes, and the names of
related classes that it imports at its end (`statements_bindings`). Two names are one identifier if
they compose to one text. `Unshadowed` says that no identifier is bound twice, so that the hints of
expanded members and of geographic points denote the classes that they were made for.

Nothing checks this: class names forget more of a collection's name than module names do.
`unshadowed_iff` gives the exact condition, on the names of enums, of the module's own class and of
the classes that its expansions refer to.
-/

namespace SchemaModels.ModelModule

open ImportList (Has entries mem_entries_iff)
open Source (Binding Origin Statement)
open Text (compat)

/-! ## Bindings -/

/-- The identifier that a binding makes. -/
def identifier (b : Binding) : String := compat b.name

/-- The names that imports bind. -/
def importBindings (specs : List ImportSpec) : List Binding :=
  (entries specs).map fun e => ⟨e.2.2, .imported e.1 e.2.1⟩

/-- The names at the top of a module, in the order of its text. -/
def bindings (m : ModelModule) : List Binding :=
  importBindings m.imports ++ ⟨"__all__", .defined⟩ :: m.exports.map (⟨·, .defined⟩) ++
    importBindings m.deferredImports

/-- The class of a module is defined there, or imported from it. -/
def originOf (m : ModelModule) (module : String) : Origin :=
  if module = m.name then .defined else .imported 1 module

/-- The identifier is bound, and to nothing but the class of the given module. -/
def Denotes (m : ModelModule) (name module : String) : Prop :=
  (∃ b ∈ m.bindings, compat b.name = compat name) ∧
    ∀ b ∈ m.bindings, compat b.name = compat name → b.origin = m.originOf module

/-- A member holds geographic points. -/
def HoldsPoints (m : ModelModule) : Prop :=
  ∃ i ∈ m.dataClass.members, i.meaning? = some .geoPoint

/-- **No name at the top of a module hides another**, and hints denote the classes that they were
made for. -/
structure Unshadowed (m : ModelModule) : Prop where
  distinct : (m.bindings.map identifier).Nodup
  related : ∀ e, m.expand? = some e → ∀ f ∈ e.fields, m.Denotes f.targetType f.targetModule
  points : m.HoldsPoints → m.Denotes "GeoPointData" FixedModule.geoPoint.name

/-- **What keeps the names of a module apart.** -/
structure Separate (m : ModelModule) : Prop where
  /-- No two enums are one identifier. -/
  enums : ∀ e ∈ m.enums, ∀ e' ∈ m.enums, compat e.name = compat e'.name → e.name = e'.name
  /-- Related classes of one identifier are one class. -/
  related : ∀ f ∈ relatedFields m.expand?, ∀ g ∈ relatedFields m.expand?,
    compat f.targetType = compat g.targetType →
      f.targetType = g.targetType ∧ f.targetModule = g.targetModule
  /-- No related class has the identifier of the module's own. -/
  own : ∀ f ∈ relatedFields m.expand?, compat f.targetType ≠ compat m.dataClass.name
  /-- A reference to the module itself has the identifier of its own class. -/
  self : ∀ e, m.expand? = some e → ∀ f ∈ e.fields, f.targetModule = m.name →
    compat f.targetType = compat m.dataClass.name
  /-- The imported class of geographic points shares its identifier with no other. -/
  points : Has m.imports 1 "geo_point_data" "GeoPointData" →
    compat m.dataClass.name ≠ "GeoPointData" ∧
      ∀ f ∈ relatedFields m.expand?, compat f.targetType ≠ "GeoPointData"
  /-- A module that holds geographic points is theirs just if its own class is. -/
  ownPoints : m.HoldsPoints →
    (m.dataClass.name = "GeoPointData" ↔ m.name = FixedModule.geoPoint.name)

/-! ## Suffixes -/

/-- The text ends in the given one. -/
def EndsIn (s suffix : String) : Prop := suffix.toList <:+ s.toList

theorem compat_typeName {collection suffix : String}
    (h : suffix = Naming.dataSuffix ∨ suffix = Naming.expandSuffix) :
    compat (Naming.typeName collection suffix) =
      compat (Naming.classStem collection) ++ suffix := by
  refine Text.compat_append ?_
  rcases h with rfl | rfl
  · decide
  · decide

theorem endsIn_data (collection : String) :
    EndsIn (compat (Naming.typeName collection Naming.dataSuffix)) "Data" := by
  rw [compat_typeName (Or.inl rfl), EndsIn, String.toList_append]
  exact List.suffix_append _ _

theorem endsIn_expand (collection : String) :
    EndsIn (compat (Naming.typeName collection Naming.expandSuffix)) "DataExpand" := by
  rw [compat_typeName (Or.inr rfl), EndsIn, String.toList_append]
  exact List.suffix_append _ _

theorem compat_enumTypeName (field : String) :
    ∃ x, x ≠ "" ∧ compat (Naming.enumTypeName field) = x ++ "Enum" := by
  obtain ⟨name, c, heq, -, hhead, hc, hstart⟩ := Naming.enumTypeName_eq field
  obtain ⟨d, hd, -⟩ := Naming.head_capitalized (Naming.head_identifier hhead hc) hstart
  refine ⟨compat (Naming.capitalized (Naming.identifier name)), Text.compat_ne_empty ?_, ?_⟩
  · intro hempty
    rw [hempty] at hd
    cases hd
  · rw [heq]
    refine Text.compat_append ?_
    decide

theorem endsIn_enum (field : String) : EndsIn (compat (Naming.enumTypeName field)) "Enum" := by
  obtain ⟨x, -, hx⟩ := compat_enumTypeName field
  rw [hx, EndsIn, String.toList_append]
  exact List.suffix_append _ _

/-- The suffixes of class names exclude each other. -/
theorem endsIn_exclusive {s : String} :
    ¬ (EndsIn s "Data" ∧ EndsIn s "DataExpand") ∧ ¬ (EndsIn s "Data" ∧ EndsIn s "Enum") ∧
      ¬ (EndsIn s "DataExpand" ∧ EndsIn s "Enum") := by
  have hlast : ∀ {suffix : String} {c : Char}, suffix.toList.getLast? = some c →
      EndsIn s suffix → s.toList.getLast? = some c := by
    rintro suffix c hc ⟨before, heq⟩
    rw [← heq, List.getLast?_append, hc]
    rfl
  have hdata := @hlast "Data" 'a' (by decide)
  have hexpand := @hlast "DataExpand" 'd' (by decide)
  have henum := @hlast "Enum" 'm' (by decide)
  refine ⟨fun ⟨h, h'⟩ => ?_, fun ⟨h, h'⟩ => ?_, fun ⟨h, h'⟩ => ?_⟩
  · exact absurd ((hdata h).symm.trans (hexpand h')) (by decide)
  · exact absurd ((hdata h).symm.trans (henum h')) (by decide)
  · exact absurd ((hexpand h).symm.trans (henum h')) (by decide)

/-! ## The head -/

/-- Everything that a module may import at its head. -/
def headNames : List (Nat × String × String) :=
  [(0, "__future__", "annotations"), (0, "pydantic", "BaseModel"), (0, "pydantic", "ConfigDict"),
   (0, "pydantic", "Field"), (0, "pydantic", "field_validator"), (0, "enum", "Enum"),
   (0, "typing", "Any"), (0, "typing", "Dict"), (0, "typing", "ClassVar"),
   (0, "typing", "Optional"), (0, "typing", "List"), (0, "datetime", "datetime"),
   (1, "geo_point_data", "GeoPointData")]

/-- The names at the head are texts that compose to themselves, and each is imported from one
module only. -/
theorem headNames_compat : ∀ a ∈ headNames, compat a.2.2 = a.2.2 := by
  decide

theorem headNames_injective : ∀ a ∈ headNames, ∀ b ∈ headNames, a.2.2 = b.2.2 → a = b := by
  decide

instance (s suffix : String) : Decidable (EndsIn s suffix) :=
  inferInstanceAs (Decidable (suffix.toList <:+ s.toList))

theorem headNames_endsIn : ∀ a ∈ headNames,
    (EndsIn a.2.2 "Data" → a = (1, "geo_point_data", "GeoPointData")) ∧
      ¬ EndsIn a.2.2 "DataExpand" ∧ (EndsIn a.2.2 "Enum" → a.2.2 = "Enum") := by
  decide

theorem headNames_all : ∀ a ∈ headNames, a.2.2 ≠ "__all__" := by
  decide

theorem mem_headNames {dataClass : ClassSpec} {enums : List EnumSpec}
    {expandClass? : Option ClassSpec} {specs : List ImportSpec}
    (h : headImports dataClass enums expandClass? = .ok specs) {level : Nat} {module name : String}
    (hhas : Has specs level module name) : (level, module, name) ∈ headNames := by
  rw [has_headImports_iff h] at hhas
  rcases hhas with ⟨rfl, ⟨rfl, rfl⟩ | ⟨rfl, hn⟩ | ⟨rfl, rfl, -⟩ | ⟨rfl, hn⟩⟩ |
    ⟨_, -, _, -, -, ⟨rfl, rfl, hn⟩ | ⟨rfl, rfl, rfl⟩ | ⟨rfl, rfl, rfl, -⟩⟩
  · decide
  · simp only [List.mem_cons, List.not_mem_nil, or_false] at hn
    rcases hn with (rfl | rfl | rfl) | ⟨rfl, -⟩
    · decide
    · decide
    · decide
    · decide
  · decide
  · simp only [List.mem_cons, List.not_mem_nil, or_false] at hn
    rcases hn with (rfl | rfl) | ⟨rfl, -⟩ | ⟨rfl, -⟩
    · decide
    · decide
    · decide
    · decide
  · simp only [typingNames, List.mem_cons, List.not_mem_nil, or_false] at hn
    rcases hn with rfl | rfl | rfl | rfl
    · decide
    · decide
    · decide
    · decide
  · decide
  · decide

/-! ## Statements -/

theorem bindings_importStatements (specs : List ImportSpec) :
    (specs.map ImportSpec.statement).flatMap Statement.bindings = importBindings specs := by
  induction specs with
  | nil => rfl
  | cons s specs ih =>
    rw [List.map_cons, List.flatMap_cons, ih]
    unfold importBindings entries
    rw [List.flatMap_cons, List.map_append, List.map_map]
    congr 1
    unfold ImportSpec.statement Statement.bindings
    by_cases hempty : s.module = ""
    · simp [hempty]
    · simp [hempty]

/-- **The names that the text of a module binds.** -/
theorem statements_bindings {m : ModelModule} {ss : List Statement} (h : m.statements = .ok ss) :
    ss.flatMap Statement.bindings = m.bindings := by
  obtain ⟨enums, expands, data, henums, hexpands, hdata, rfl⟩ := statements_eq_ok h
  have hcalls : (m.rebuilt.map rebuildCall).flatMap Statement.bindings = [] := by
    rw [List.flatMap_map, List.flatMap_eq_nil_iff]
    exact fun _ _ => rfl
  have hdata' : data.bindings = [⟨m.dataClass.name, .defined⟩] := by
    obtain ⟨⟨bases, body, rfl⟩, -⟩ := ClassSpec.statement_names hdata
    rfl
  have hclass : ∀ (n : String) (bases : List Source.Expr) (body : List Statement),
      (Statement.classDef n bases body).bindings = [⟨n, .defined⟩] := fun _ _ _ => rfl
  simp only [List.flatMap_append, List.flatMap_cons, List.flatMap_nil, bindings_importStatements,
    flatMap_classStatements (fun _ _ hs => (EnumSpec.statement_names hs).1) hclass henums,
    flatMap_classStatements (fun _ _ hs => (ClassSpec.statement_names hs).1) hclass hexpands,
    hdata', hcalls]
  unfold bindings exports
  cases m.expandClass? <;> simp [Statement.bindings]

/-! ## Segments -/

variable {c : Collection} {resolver? : Option Resolver} {name : String}
  {fieldMembers : List Member} {m : ModelModule} {warnings : List String}

theorem mem_importBindings {specs : List ImportSpec} {b : Binding} :
    b ∈ importBindings specs ↔ ∃ level module, b.origin = .imported level module ∧
      Has specs level module b.name := by
  obtain ⟨name, origin⟩ := b
  unfold importBindings
  rw [List.mem_map]
  constructor
  · rintro ⟨⟨level, module, n⟩, he, heq⟩
    simp only [Binding.mk.injEq] at heq
    obtain ⟨rfl, rfl⟩ := heq
    exact ⟨level, module, rfl, mem_entries_iff.mp he⟩
  · rintro ⟨level, module, horigin, hhas⟩
    simp only at horigin hhas
    exact ⟨(level, module, name), mem_entries_iff.mpr hhas, by rw [horigin]⟩

theorem nodup_importBindings {specs : List ImportSpec} (h : ImportList.Ordered specs) :
    (importBindings specs).Nodup := by
  refine List.Nodup.map ?_ h.nodup
  rintro ⟨l, md, n⟩ ⟨l', md', n'⟩ heq
  simp only [Binding.mk.injEq, Origin.imported.injEq] at heq
  obtain ⟨rfl, rfl, rfl⟩ := heq
  rfl

/-- No two names at the head are one identifier. -/
theorem nodup_head (h : BuiltFrom c resolver? name fieldMembers m warnings) :
    ((importBindings m.imports).map identifier).Nodup := by
  refine List.Nodup.map_on ?_ (nodup_importBindings (ordered_headImports h.imports))
  intro b hb b' hb' heq
  obtain ⟨level, module, horigin, hhas⟩ := mem_importBindings.mp hb
  obtain ⟨level', module', horigin', hhas'⟩ := mem_importBindings.mp hb'
  have hmem := mem_headNames h.imports hhas
  have hmem' := mem_headNames h.imports hhas'
  unfold identifier at heq
  rw [headNames_compat _ hmem, headNames_compat _ hmem'] at heq
  have hsame := headNames_injective _ hmem _ hmem' heq
  simp only [Prod.mk.injEq] at hsame
  obtain ⟨hl, hm, hn⟩ := hsame
  obtain ⟨_, _⟩ := b
  obtain ⟨_, _⟩ := b'
  simp only at horigin horigin' hn
  rw [horigin, horigin', hl, hm, hn]

/-! ## Classes -/

theorem enum_identifier (h : BuiltFrom c resolver? name fieldMembers m warnings) {e : EnumSpec}
    (he : e ∈ m.enums) : EndsIn (compat e.name) "Enum" ∧ compat e.name ≠ "Enum" := by
  obtain ⟨f, -, raw, -, hraw⟩ :=
    exists_left_of_forall₂ (EnumSpec.forall₂_of_ofCollection h.enums) he
  rw [hraw]
  refine ⟨endsIn_enum raw, ?_⟩
  obtain ⟨x, hx, heq⟩ := compat_enumTypeName raw
  rw [heq]
  intro hempty
  have hlength := congrArg String.length hempty
  rw [String.length_append] at hlength
  refine hx (String.length_eq_zero_iff.mp ?_)
  omega

theorem data_identifier (h : BuiltFrom c resolver? name fieldMembers m warnings) :
    EndsIn (compat m.dataClass.name) "Data" := by
  rw [h.data_class]
  exact endsIn_data name

theorem expand_identifier (h : BuiltFrom c resolver? name fieldMembers m warnings) {e : ExpandSpec}
    (he : m.expand? = some e) : EndsIn (compat e.name) "DataExpand" := by
  rw [(h.expand_fields he).1]
  exact endsIn_expand name

theorem expand_field (h : BuiltFrom c resolver? name fieldMembers m warnings) {e : ExpandSpec}
    (he : m.expand? = some e) {f : ExpandField} (hf : f ∈ e.fields) :
    EndsIn (compat f.targetType) "Data" ∧ f.isSelfReference = (f.targetModule == m.name) := by
  obtain ⟨r, mapping, raw, target, -, -, hmade⟩ := (h.expand_fields he).2.2 f hf
  rw [hmade.type]
  exact ⟨endsIn_data target, hmade.isSelfReference⟩

theorem mem_relatedFields_iff (h : BuiltFrom c resolver? name fieldMembers m warnings)
    {f : ExpandField} : f ∈ relatedFields m.expand? ↔
      ∃ e, m.expand? = some e ∧ f ∈ e.fields ∧ f.targetModule ≠ m.name := by
  cases he : m.expand? with
  | none => simp [relatedFields]
  | some e =>
    simp only [relatedFields, Option.map_some, Option.getD_some, List.mem_filter,
      Bool.not_eq_true', Option.some.injEq, exists_eq_left']
    refine and_congr_right fun hf => ?_
    rw [(expand_field h he hf).2, beq_eq_false_iff_ne]

theorem mem_exports_iff (h : BuiltFrom c resolver? name fieldMembers m warnings) {n : String} :
    n ∈ m.exports ↔ (∃ e ∈ m.enums, n = e.name) ∨ (∃ e, m.expand? = some e ∧ n = e.name) ∨
      n = m.dataClass.name := by
  unfold exports
  rw [h.expand_class]
  cases m.expand? with
  | none => simp [eq_comm]
  | some e => simp [expandClass, eq_comm]

/-- Names that tell identifiers apart are distinct over all classes, if they are over the enums. -/
theorem nodup_map_exports (h : BuiltFrom c resolver? name fieldMembers m warnings)
    {f : String → String} (hf : ∀ x y, f x = f y → compat x = compat y)
    (henums : ((m.enums.map (·.name)).map f).Nodup) : (m.exports.map f).Nodup := by
  unfold exports
  rw [List.map_append, List.map_append, List.append_assoc, List.nodup_append]
  refine ⟨henums, ?_, ?_⟩
  · rw [h.expand_class]
    cases he : m.expand? with
    | none => simp
    | some e =>
      have hne : f e.name ≠ f m.dataClass.name := fun heq =>
        endsIn_exclusive.1 ⟨hf _ _ heq ▸ data_identifier h, expand_identifier h he⟩
      simpa [expandClass] using hne
  · intro x hx y hy hxy
    obtain ⟨n, hn', rfl⟩ := List.mem_map.mp hx
    obtain ⟨e, he, rfl⟩ := List.mem_map.mp hn'
    have henum := (enum_identifier h he).1
    rcases List.mem_append.mp hy with hy | hy
    · rw [h.expand_class] at hy
      cases hexpand : m.expand? with
      | none =>
        rw [hexpand] at hy
        simp at hy
      | some e' =>
        rw [hexpand] at hy
        have hy' : y = f e'.name := by simpa [expandClass] using hy
        rw [hf _ _ (hxy.trans hy')] at henum
        exact endsIn_exclusive.2.2 ⟨expand_identifier h hexpand, henum⟩
    · rw [List.map_singleton, List.mem_singleton] at hy
      rw [hf _ _ (hxy.trans hy)] at henum
      exact endsIn_exclusive.2.1 ⟨data_identifier h, henum⟩

/-- No two classes have one name. -/
theorem nodup_exports (h : BuiltFrom c resolver? name fieldMembers m warnings) :
    m.exports.Nodup := by
  have hnodup := nodup_map_exports h (f := id) (fun _ _ => congrArg compat)
    (by rw [List.map_id]; exact h.enums_distinct)
  rwa [List.map_id] at hnodup

/-- No two classes are one identifier, iff no two enums are. -/
theorem nodup_exports_iff (h : BuiltFrom c resolver? name fieldMembers m warnings) :
    (m.exports.map compat).Nodup ↔
      ∀ e ∈ m.enums, ∀ e' ∈ m.enums, compat e.name = compat e'.name → e.name = e'.name := by
  have henums : ((m.enums.map (·.name)).map compat).Nodup ↔
      ∀ e ∈ m.enums, ∀ e' ∈ m.enums, compat e.name = compat e'.name → e.name = e'.name := by
    rw [List.nodup_map_iff_inj_on h.enums_distinct]
    simp only [List.mem_map, forall_exists_index, and_imp, forall_apply_eq_imp_iff₂]
  rw [← henums]
  refine ⟨fun hn => ?_, nodup_map_exports h fun _ _ => id⟩
  unfold exports at hn
  rw [List.map_append, List.map_append, List.append_assoc] at hn
  exact (List.nodup_append.mp hn).1

/-! ## The end -/

theorem has_deferred_iff (h : BuiltFrom c resolver? name fieldMembers m warnings) {level : Nat}
    {module n : String} : Has m.deferredImports level module n ↔
      ∃ f ∈ relatedFields m.expand?, level = 1 ∧ module = f.targetModule ∧ n = f.targetType := by
  rw [h.deferred]
  exact has_relatedImports_iff

/-- No two related classes are one identifier, unless they are one class. -/
theorem nodup_deferred_iff (h : BuiltFrom c resolver? name fieldMembers m warnings) :
    ((importBindings m.deferredImports).map identifier).Nodup ↔
      ∀ f ∈ relatedFields m.expand?, ∀ g ∈ relatedFields m.expand?,
        compat f.targetType = compat g.targetType →
          f.targetType = g.targetType ∧ f.targetModule = g.targetModule := by
  have hnodup : (importBindings m.deferredImports).Nodup := by
    rw [h.deferred]
    exact nodup_importBindings (ordered_relatedImports _)
  rw [List.nodup_map_iff_inj_on hnodup]
  constructor
  · intro hinj f hf g hg heq
    have hb := hinj ⟨f.targetType, .imported 1 f.targetModule⟩
      (mem_importBindings.mpr ⟨1, _, rfl, (has_deferred_iff h).mpr ⟨f, hf, rfl, rfl, rfl⟩⟩)
      ⟨g.targetType, .imported 1 g.targetModule⟩
      (mem_importBindings.mpr ⟨1, _, rfl, (has_deferred_iff h).mpr ⟨g, hg, rfl, rfl, rfl⟩⟩) heq
    simp only [Binding.mk.injEq, Origin.imported.injEq, true_and] at hb
    exact hb
  · intro hsep b hb b' hb' heq
    obtain ⟨l, md, horigin, hhas⟩ := mem_importBindings.mp hb
    obtain ⟨l', md', horigin', hhas'⟩ := mem_importBindings.mp hb'
    obtain ⟨f, hf, rfl, rfl, hn⟩ := (has_deferred_iff h).mp hhas
    obtain ⟨g, hg, rfl, rfl, hn'⟩ := (has_deferred_iff h).mp hhas'
    unfold identifier at heq
    rw [hn, hn'] at heq
    obtain ⟨ht, hm⟩ := hsep f hf g hg heq
    obtain ⟨_, _⟩ := b
    obtain ⟨_, _⟩ := b'
    simp only at horigin horigin' hn hn'
    rw [hn, hn', horigin, horigin', ht, hm]

/-! ## Between the segments -/

/-- What a class has in common with the head is the class of geographic points. -/
theorem head_exports_iff (h : BuiltFrom c resolver? name fieldMembers m warnings) :
    (∀ i ∈ (importBindings m.imports).map identifier, ∀ j ∈ m.exports.map compat, i ≠ j) ↔
      (Has m.imports 1 "geo_point_data" "GeoPointData" →
        compat m.dataClass.name ≠ "GeoPointData") := by
  have hgeo : compat "GeoPointData" = "GeoPointData" := by decide
  constructor
  · intro hdisjoint hhas heq
    refine hdisjoint "GeoPointData" (List.mem_map.mpr ⟨⟨"GeoPointData", _⟩,
      mem_importBindings.mpr ⟨1, _, rfl, hhas⟩, hgeo⟩) "GeoPointData" (List.mem_map.mpr
        ⟨m.dataClass.name, (mem_exports_iff h).mpr (Or.inr (Or.inr rfl)), heq⟩) rfl
  · intro hpoints i hi j hj hij
    obtain ⟨b, hb, rfl⟩ := List.mem_map.mp hi
    obtain ⟨n, hn, rfl⟩ := List.mem_map.mp hj
    obtain ⟨level, module, -, hhas⟩ := mem_importBindings.mp hb
    have hmem := mem_headNames h.imports hhas
    obtain ⟨hdata, hexpand, henum⟩ := headNames_endsIn _ hmem
    have hcompat := headNames_compat _ hmem
    simp only at hdata hexpand henum hcompat
    have hname : b.name = compat n := hcompat.symm.trans hij
    rcases (mem_exports_iff h).mp hn with ⟨e, he, rfl⟩ | ⟨e, he, rfl⟩ | rfl
    · obtain ⟨hends, hne⟩ := enum_identifier h he
      exact hne (hname ▸ henum (hname ▸ hends))
    · exact hexpand (hname ▸ expand_identifier h he)
    · have hthis := hdata (hname ▸ data_identifier h)
      simp only [Prod.mk.injEq] at hthis
      obtain ⟨rfl, rfl, hn'⟩ := hthis
      rw [hn'] at hhas hname
      exact hpoints hhas hname.symm

/-- What the end has in common with the head is the class of geographic points. -/
theorem head_deferred_iff (h : BuiltFrom c resolver? name fieldMembers m warnings) :
    (∀ i ∈ (importBindings m.imports).map identifier,
      ∀ j ∈ (importBindings m.deferredImports).map identifier, i ≠ j) ↔
      (Has m.imports 1 "geo_point_data" "GeoPointData" →
        ∀ f ∈ relatedFields m.expand?, compat f.targetType ≠ "GeoPointData") := by
  have hgeo : compat "GeoPointData" = "GeoPointData" := by decide
  constructor
  · intro hdisjoint hhas f hf heq
    refine hdisjoint "GeoPointData" (List.mem_map.mpr ⟨⟨"GeoPointData", _⟩,
      mem_importBindings.mpr ⟨1, _, rfl, hhas⟩, hgeo⟩) "GeoPointData" (List.mem_map.mpr
        ⟨⟨f.targetType, _⟩, mem_importBindings.mpr ⟨1, _, rfl,
          (has_deferred_iff h).mpr ⟨f, hf, rfl, rfl, rfl⟩⟩, heq⟩) rfl
  · intro hpoints i hi j hj hij
    obtain ⟨b, hb, rfl⟩ := List.mem_map.mp hi
    obtain ⟨b', hb', rfl⟩ := List.mem_map.mp hj
    obtain ⟨level, module, -, hhas⟩ := mem_importBindings.mp hb
    obtain ⟨level', module', -, hhas'⟩ := mem_importBindings.mp hb'
    obtain ⟨f, hf, -, -, hn⟩ := (has_deferred_iff h).mp hhas'
    obtain ⟨e, he, hfe, -⟩ := (mem_relatedFields_iff h).mp hf
    have hmem := mem_headNames h.imports hhas
    have hcompat := headNames_compat _ hmem
    simp only at hcompat
    have hname : b.name = compat f.targetType := by
      rw [← hcompat, ← hn]
      exact hij
    have hthis := (headNames_endsIn _ hmem).1 (hname ▸ (expand_field h he hfe).1)
    simp only [Prod.mk.injEq] at hthis
    obtain ⟨rfl, rfl, hn'⟩ := hthis
    rw [hn'] at hhas hname
    exact hpoints hhas f hf hname.symm

/-- What the end has in common with the classes is the module's own. -/
theorem exports_deferred_iff (h : BuiltFrom c resolver? name fieldMembers m warnings) :
    (∀ i ∈ m.exports.map compat,
      ∀ j ∈ (importBindings m.deferredImports).map identifier, i ≠ j) ↔
      ∀ f ∈ relatedFields m.expand?, compat f.targetType ≠ compat m.dataClass.name := by
  constructor
  · intro hdisjoint f hf heq
    exact hdisjoint _ (List.mem_map.mpr ⟨_, (mem_exports_iff h).mpr (Or.inr (Or.inr rfl)), rfl⟩) _
      (List.mem_map.mpr ⟨⟨f.targetType, _⟩, mem_importBindings.mpr ⟨1, _, rfl,
        (has_deferred_iff h).mpr ⟨f, hf, rfl, rfl, rfl⟩⟩, rfl⟩) heq.symm
  · intro hown i hi j hj hij
    obtain ⟨n, hn, rfl⟩ := List.mem_map.mp hi
    obtain ⟨b, hb, rfl⟩ := List.mem_map.mp hj
    obtain ⟨level, module, -, hhas⟩ := mem_importBindings.mp hb
    obtain ⟨f, hf, -, -, hname⟩ := (has_deferred_iff h).mp hhas
    obtain ⟨e, he, hfe, -⟩ := (mem_relatedFields_iff h).mp hf
    have hends := (expand_field h he hfe).1
    unfold identifier at hij
    rw [hname] at hij
    rw [← hij] at hends
    rcases (mem_exports_iff h).mp hn with ⟨e, he, rfl⟩ | ⟨e, he, rfl⟩ | rfl
    · exact endsIn_exclusive.2.1 ⟨hends, (enum_identifier h he).1⟩
    · exact endsIn_exclusive.1 ⟨hends, expand_identifier h he⟩
    · exact hown f hf hij.symm

/-- `__all__` is the name of nothing else. -/
theorem all_not_mem (h : BuiltFrom c resolver? name fieldMembers m warnings) :
    compat "__all__" ∉ (importBindings m.imports).map identifier ++
      (m.exports.map compat ++ (importBindings m.deferredImports).map identifier) := by
  have hall : compat "__all__" = "__all__" := by decide
  rw [hall, List.mem_append, List.mem_append]
  rintro (hmem | hmem | hmem)
  · obtain ⟨b, hb, heq⟩ := List.mem_map.mp hmem
    obtain ⟨level, module, -, hhas⟩ := mem_importBindings.mp hb
    have hhead := mem_headNames h.imports hhas
    have hcompat := headNames_compat _ hhead
    unfold identifier at heq
    simp only at hcompat
    rw [hcompat] at heq
    rw [heq] at hhead
    exact headNames_all _ hhead rfl
  · obtain ⟨n, hn, heq⟩ := List.mem_map.mp hmem
    rcases (mem_exports_iff h).mp hn with ⟨e, he, rfl⟩ | ⟨e, he, rfl⟩ | rfl
    · exact absurd (heq ▸ (enum_identifier h he).1) (by decide)
    · exact absurd (heq ▸ expand_identifier h he) (by decide)
    · exact absurd (heq ▸ data_identifier h) (by decide)
  · obtain ⟨b, hb, heq⟩ := List.mem_map.mp hmem
    obtain ⟨level, module, -, hhas⟩ := mem_importBindings.mp hb
    obtain ⟨f, hf, -, -, hn⟩ := (has_deferred_iff h).mp hhas
    obtain ⟨e, he, hfe, -⟩ := (mem_relatedFields_iff h).mp hf
    unfold identifier at heq
    rw [hn] at heq
    exact absurd (heq ▸ (expand_field h he hfe).1) (by decide)

/-- **When no identifier is bound twice.** -/
theorem nodup_bindings_iff (h : BuiltFrom c resolver? name fieldMembers m warnings) :
    (m.bindings.map identifier).Nodup ↔
      (∀ e ∈ m.enums, ∀ e' ∈ m.enums, compat e.name = compat e'.name → e.name = e'.name) ∧
      (∀ f ∈ relatedFields m.expand?, ∀ g ∈ relatedFields m.expand?,
        compat f.targetType = compat g.targetType →
          f.targetType = g.targetType ∧ f.targetModule = g.targetModule) ∧
      (∀ f ∈ relatedFields m.expand?, compat f.targetType ≠ compat m.dataClass.name) ∧
      (Has m.imports 1 "geo_point_data" "GeoPointData" →
        compat m.dataClass.name ≠ "GeoPointData" ∧
          ∀ f ∈ relatedFields m.expand?, compat f.targetType ≠ "GeoPointData") := by
  have hsplit : m.bindings.map identifier =
      (importBindings m.imports).map identifier ++ compat "__all__" :: (m.exports.map compat ++
        (importBindings m.deferredImports).map identifier) := by
    unfold bindings
    rw [List.map_append, List.map_append, List.map_cons, List.map_map, List.append_assoc]
    rfl
  rw [hsplit, List.nodup_middle, List.nodup_cons, and_iff_right (all_not_mem h), List.nodup_append,
    List.nodup_append, nodup_exports_iff h, nodup_deferred_iff h, exports_deferred_iff h]
  simp only [List.mem_append, or_imp, forall_and]
  rw [head_exports_iff h, head_deferred_iff h]
  have hhead := nodup_head h
  constructor
  · rintro ⟨-, ⟨henums, hrelated, hown⟩, hdata, hpoints⟩
    exact ⟨henums, hrelated, hown, hdata, hpoints⟩
  · rintro ⟨henums, hrelated, hown, hdata, hpoints⟩
    exact ⟨hhead, ⟨henums, hrelated, hown⟩, hdata, hpoints⟩

/-! ## What names denote -/

theorem mem_bindings_iff (h : BuiltFrom c resolver? name fieldMembers m warnings) {b : Binding} :
    b ∈ m.bindings ↔
      (∃ level module, b.origin = .imported level module ∧ Has m.imports level module b.name) ∨
      (b.origin = .defined ∧ (b.name = "__all__" ∨ b.name ∈ m.exports)) ∨
      ∃ f ∈ relatedFields m.expand?, b = ⟨f.targetType, .imported 1 f.targetModule⟩ := by
  unfold bindings
  rw [List.mem_append, List.mem_append, mem_importBindings, mem_importBindings, or_assoc]
  refine or_congr_right (or_congr ?_ ?_)
  · obtain ⟨n, origin⟩ := b
    simp only [List.mem_cons, List.mem_map, Binding.mk.injEq]
    constructor
    · rintro (⟨rfl, rfl⟩ | ⟨n', hn, rfl, rfl⟩)
      · exact ⟨rfl, Or.inl rfl⟩
      · exact ⟨rfl, Or.inr hn⟩
    · rintro ⟨rfl, rfl | hn⟩
      · exact Or.inl ⟨rfl, rfl⟩
      · exact Or.inr ⟨n, hn, rfl, rfl⟩
  · constructor
    · rintro ⟨level, module, horigin, hhas⟩
      obtain ⟨f, hf, rfl, rfl, hn⟩ := (has_deferred_iff h).mp hhas
      obtain ⟨_, _⟩ := b
      simp only at horigin hn
      exact ⟨f, hf, by rw [horigin, hn]⟩
    · rintro ⟨f, hf, rfl⟩
      exact ⟨1, _, rfl, (has_deferred_iff h).mpr ⟨f, hf, rfl, rfl, rfl⟩⟩

theorem own_mem_bindings (h : BuiltFrom c resolver? name fieldMembers m warnings) :
    ⟨m.dataClass.name, .defined⟩ ∈ m.bindings :=
  (mem_bindings_iff h).mpr
    (Or.inr (Or.inl ⟨rfl, Or.inr ((mem_exports_iff h).mpr (Or.inr (Or.inr rfl)))⟩))

/-- The only class of a module with the suffix of data classes is its own. -/
theorem defined_eq_own (h : BuiltFrom c resolver? name fieldMembers m warnings) {b : Binding}
    (hb : b ∈ m.bindings) (horigin : b.origin = .defined) (hends : EndsIn (compat b.name) "Data") :
    b.name = m.dataClass.name := by
  rcases (mem_bindings_iff h).mp hb with ⟨_, _, himported, -⟩ | ⟨-, hall | hmem⟩ | ⟨f, -, rfl⟩
  · rw [himported] at horigin
    cases horigin
  · rw [hall] at hends
    exact absurd hends (by decide)
  · rcases (mem_exports_iff h).mp hmem with ⟨e, he, hn⟩ | ⟨e, he, hn⟩ | hn
    · rw [hn] at hends
      exact absurd ⟨hends, (enum_identifier h he).1⟩ endsIn_exclusive.2.1
    · rw [hn] at hends
      exact absurd ⟨hends, expand_identifier h he⟩ endsIn_exclusive.1
    · exact hn
  · cases horigin

/-- Without identifiers bound twice, a bound one denotes what it is bound to. -/
theorem denotes_of_mem {n module : String} {b : Binding}
    (hdistinct : (m.bindings.map identifier).Nodup) (hb : b ∈ m.bindings)
    (hname : compat b.name = compat n) (horigin : b.origin = m.originOf module) :
    m.Denotes n module := by
  refine ⟨⟨b, hb, hname⟩, fun b' hb' hname' => ?_⟩
  rw [List.inj_on_of_nodup_map hdistinct hb' hb (hname'.trans hname.symm)]
  exact horigin

/-- A module that holds geographic points imports their class, unless its own has that name. -/
theorem has_points (h : BuiltFrom c resolver? name fieldMembers m warnings) (hp : m.HoldsPoints)
    (hne : m.dataClass.name ≠ "GeoPointData") :
    Has m.imports 1 "geo_point_data" "GeoPointData" := by
  obtain ⟨i, hi, hmeaning⟩ := hp
  rw [has_headImports_iff h.imports]
  refine Or.inr ⟨i.hint, ?_, ?_⟩
  · unfold hints
    rw [List.map_append, List.mem_append]
    exact Or.inl (List.mem_map_of_mem hi)
  rcases h.mem_members_iff.mp hi with hi | ⟨e, -, rfl⟩
  · obtain ⟨f, -, raw, t, -, ht, -, hhint, hsame⟩ := h.field_member hi
    obtain ⟨e, he, hnames⟩ := FieldType.refers_hint ht
    obtain ⟨hof, -, hother⟩ := FieldType.ofField_eq_ok ht
    have hgeo : t.meaning = .geoPoint := Option.some.inj (hsame.symm.trans hmeaning)
    have hkind : f.kind ≠ .select := fun hselect => by
      rw [(FieldType.meaning_eq_enum_iff hof).mpr hselect] at hgeo
      cases hgeo
    refine ⟨e, by rw [hhint]; exact he, ?_, Or.inr (Or.inr ⟨rfl, rfl, rfl, hne⟩)⟩
    rw [hnames, FieldType.names, hother hkind, hgeo]
    exact List.mem_append_right _ List.mem_cons_self
  · cases hmeaning

/-- **When the names of a module are unshadowed.** -/
theorem unshadowed_iff (h : BuiltFrom c resolver? name fieldMembers m warnings) :
    m.Unshadowed ↔ m.Separate := by
  have hgeo : compat "GeoPointData" = "GeoPointData" := by decide
  have hgeoEnds : EndsIn "GeoPointData" "Data" := by decide
  constructor
  · rintro ⟨hdistinct, hrelatedDenotes, hpointsDenote⟩
    obtain ⟨henums, hrelated, hown, hpoints⟩ := (nodup_bindings_iff h).mp hdistinct
    refine ⟨henums, hrelated, hown, fun e he f hf hself => ?_, hpoints, fun hp => ?_⟩
    · obtain ⟨⟨b, hb, hname⟩, horigins⟩ := hrelatedDenotes e he f hf
      have horigin := horigins b hb hname
      rw [originOf, if_pos hself] at horigin
      rw [← defined_eq_own h hb horigin (hname ▸ (expand_field h he hf).1), hname]
    · obtain ⟨⟨b, hb, hname⟩, horigins⟩ := hpointsDenote hp
      constructor
      · intro hdata
        have horigin := horigins _ (own_mem_bindings h) (by rw [hdata])
        by_contra hmodule
        rw [originOf, if_neg (Ne.symm hmodule)] at horigin
        cases horigin
      · intro hmodule
        have horigin := horigins b hb hname
        rw [originOf, if_pos hmodule.symm] at horigin
        rw [hgeo] at hname
        have hb' := defined_eq_own h hb horigin (hname ▸ hgeoEnds)
        by_contra hne
        exact (hpoints (has_points h hp hne)).1 (hb' ▸ hname)
  · intro hsep
    have hdistinct := (nodup_bindings_iff h).mpr
      ⟨hsep.enums, hsep.related, hsep.own, hsep.points⟩
    refine ⟨hdistinct, fun e he f hf => ?_, fun hp => ?_⟩
    · by_cases hself : f.targetModule = m.name
      · refine denotes_of_mem hdistinct (own_mem_bindings h) (hsep.self e he f hf hself).symm ?_
        rw [originOf, if_pos hself]
      · refine denotes_of_mem hdistinct ((mem_bindings_iff h).mpr (Or.inr (Or.inr
          ⟨f, (mem_relatedFields_iff h).mpr ⟨e, he, hf, hself⟩, rfl⟩))) rfl ?_
        rw [originOf, if_neg hself]
    · by_cases hdata : m.dataClass.name = "GeoPointData"
      · refine denotes_of_mem hdistinct (own_mem_bindings h) (by rw [hdata]) ?_
        rw [originOf, if_pos ((hsep.ownPoints hp).mp hdata).symm]
      · have hb : (⟨"GeoPointData", .imported 1 "geo_point_data"⟩ : Binding) ∈ m.bindings :=
          (mem_bindings_iff h).mpr (Or.inl ⟨1, "geo_point_data", rfl, has_points h hp hdata⟩)
        refine denotes_of_mem hdistinct hb rfl ?_
        rw [originOf, if_neg fun hmodule => hdata ((hsep.ownPoints hp).mpr hmodule.symm)]
        rfl

/-- **Class names of related collections can hide each other.** The text of a built module binds the
names of `bindings`, and they are unshadowed just if they are separate. -/
theorem build_unshadowed_iff (h : (build c resolver?).outcome = .ok (m, warnings)) :
    (∀ ss, m.statements = .ok ss → ss.flatMap Statement.bindings = m.bindings) ∧
      (m.Unshadowed ↔ m.Separate) := by
  obtain ⟨name, fieldMembers, hbuilt⟩ := build_eq_ok_iff.mp h
  exact ⟨fun ss hss => statements_bindings hss, unshadowed_iff hbuilt⟩

/-- A collection with two relation fields. -/
def posts : Collection where
  id := "c1"
  name := .text "posts"
  fields :=
    [{ name := .text "first", kind := .relation, required := true,
       extra := .relation (some 1) (.text "c2") },
     { name := .text "second", kind := .relation, required := true,
       extra := .relation (some 1) (.text "c3") }]

/-- The fields of `posts` embed records of the collections `a_b` and `a__b`, whose module names
differ, but not their class names. -/
def underscores : Resolver where
  mappings := [⟨.text "posts", .text "first", true, .text "a_b"⟩,
    ⟨.text "posts", .text "second", true, .text "a__b"⟩]
  known := ["posts", "a_b", "a__b"]
  emitted := ["posts", "a_b", "a__b"]
  strict := true

theorem build_unshadowed_iff_underscores : ∃ m warnings,
    (build posts (some underscores)).outcome = .ok (m, warnings) ∧
      (m.Unshadowed ↔ m.Separate) := by
  have hbuilt : (build posts (some underscores)).outcome.toOption.isSome = true := by
    decide +kernel
  cases h : (build posts (some underscores)).outcome with
  | error e =>
    rw [h] at hbuilt
    cases hbuilt
  | ok built => exact ⟨built.1, built.2, rfl, (build_unshadowed_iff h).2⟩

/-- The module of `posts` imports two classes of one name, so both its members hold the same one. -/
theorem not_unshadowed_underscores : ∃ m warnings,
    (build posts (some underscores)).outcome = .ok (m, warnings) ∧
      ⟨"ABData", .imported 1 "a__b_data"⟩ ∈ m.bindings ∧
      ⟨"ABData", .imported 1 "a_b_data"⟩ ∈ m.bindings ∧ ¬ m.Unshadowed := by
  have hbuilt : ((build posts (some underscores)).outcome.toOption.map fun built =>
      decide (⟨"ABData", .imported 1 "a__b_data"⟩ ∈ built.1.bindings ∧
        ⟨"ABData", .imported 1 "a_b_data"⟩ ∈ built.1.bindings)) = some true := by
    decide +kernel
  cases h : (build posts (some underscores)).outcome with
  | error e =>
    rw [h] at hbuilt
    cases hbuilt
  | ok built =>
    rw [h] at hbuilt
    obtain ⟨hmem, hmem'⟩ := of_decide_eq_true (Option.some.inj hbuilt)
    refine ⟨built.1, built.2, rfl, hmem, hmem', fun hunshadowed => ?_⟩
    have hsame := List.inj_on_of_nodup_map hunshadowed.distinct hmem hmem' rfl
    exact absurd hsame (by decide)

end SchemaModels.ModelModule
