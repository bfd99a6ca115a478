import SchemaModels.Proofs.Module.Bare
import SchemaModels.Proofs.Module.Identifiers
import SchemaModels.Proofs.Module.Refusal

/-!
# Which schemas a module is built of

`CollisionFree` says of a schema, without mention of the steps of `ModelModule.build`, that its
select fields have enums of different names, that its expansions can be resolved, and that the
members it asks for have different names. If its class names are identifiers (`Nameable`), these are
exactly the schemas that are accepted. A module that is built is `Orderly`: the data class has the
fields in order and then the related records, and no class binds a name twice. Main statement:
`build_accepts`.

Names are compared as they are written. Two that are different as texts can still be one identifier,
and which those are is the subject of `names_identified_iff`; but no member is one of the names that
its class binds itself, even then.
-/

namespace SchemaModels

open Naming (memberName typeName dataSuffix expandSuffix)
open Source (Statement)
open Source.Hint (Plain parse)
open Text (compat isIdentifier)

/-! ## Names of classes -/

/-- The class name of data is an identifier, and then so is the other one; neither is a keyword. -/
theorem Naming.typeName_plain_of_isIdentifier {collection suffix : String}
    (h : isIdentifier (typeName collection dataSuffix).toList = true)
    (hsuffix : suffix = dataSuffix ∨ suffix = expandSuffix) :
    Plain (typeName collection suffix) := by
  refine ⟨?_, fun hk => (suffix_plain hsuffix).2.2 _ hk ?_⟩
  · rcases hsuffix with rfl | rfl
    · exact h
    · have hsplit : (typeName collection expandSuffix).toList =
          (typeName collection dataSuffix).toList ++ "Expand".toList := by
        rw [typeName_eq, typeName_eq, String.toList_append, String.toList_append, List.append_assoc]
        rfl
      rw [hsplit]
      exact isIdentifier_append h (by decide)
  · rw [typeName_eq, String.toList_append]
    exact List.suffix_append _ _

/-! ## Members of fields -/

/-- A field with a text for a name has a type. -/
theorem FieldType.exists_ofField {f : Field} {raw : String} (hraw : f.name = .text raw) :
    ∃ t, FieldType.ofField f = .ok t := by
  obtain ⟨meaning, hmeaning⟩ : ∃ meaning, Meaning.ofField f = .ok meaning := by
    unfold Meaning.ofField
    rw [hraw]
    cases f.kind <;> exact ⟨_, rfl⟩
  unfold FieldType.ofField
  rw [hmeaning, hraw]
  cases meaning <;> exact ⟨_, rfl⟩

namespace Member

/-- Members of fields go by the names of the fields, in order. -/
theorem names_of_ofField {fs : List Field} {is : List Member}
    (h : List.Forall₂ (fun f i => (ofField f).outcome = .ok i) fs is) :
    fs.map (·.name) = (is.map (·.rawName)).map .text ∧
      is.map (·.identifier) = (is.map (·.rawName)).map memberName := by
  induction h with
  | nil => exact ⟨rfl, rfl⟩
  | @cons f i fs is hmade _ ih =>
    obtain ⟨raw, t, hraw, -, rfl⟩ := ofField_eq_ok_iff.mp hmade
    simp only [List.map_cons, hraw, ih.1, ih.2, and_self]

/-- Fields with texts for names have members of those names. -/
theorem exists_ofFields {fs : List Field} {raws : List String}
    (h : fs.map (·.name) = raws.map .text) :
    ∃ is, (fs.mapM ofField).outcome = .ok is ∧ is.map (·.rawName) = raws := by
  have hmade : ∀ f ∈ fs, ∃ i, (ofField f).outcome = .ok i := by
    intro f hf
    have hmem : f.name ∈ raws.map .text := h ▸ List.mem_map_of_mem hf
    obtain ⟨raw, -, hraw⟩ := List.mem_map.mp hmem
    obtain ⟨t, ht⟩ := FieldType.exists_ofField hraw.symm
    exact ⟨_, ofField_eq_ok_iff.mpr ⟨raw, t, hraw.symm, ht, rfl⟩⟩
  obtain ⟨is, his⟩ := exists_forall₂ hmade
  have hnames := (names_of_ofField his).1
  rw [h] at hnames
  have hinjective : Function.Injective Json.text := fun _ _ => Json.text.inj
  exact ⟨is, Logged.outcome_mapM_eq_ok_iff.mpr his,
    (List.map_injective_iff.mpr hinjective hnames).symm⟩

/-- The hint of a field's member can be read, whatever the field is called. -/
theorem exists_parse_ofField {f : Field} {i : Member} (h : (ofField f).outcome = .ok i) :
    ∃ e, parse i.hint = .ok e := by
  obtain ⟨raw, t, -, ht, rfl⟩ := ofField_eq_ok_iff.mp h
  exact exists_parse_of_refers (FieldType.refers_hint ht)

/-- The hint of an expansion can be read if the name of its class is one. -/
theorem exists_parse_ofExpandField {f : ExpandField} (h : Plain f.targetType) :
    ∃ e, parse (ofExpandField f).hint = .ok e := by
  unfold ofExpandField
  cases f.isSingle with
  | true => exact ⟨_, Source.Hint.parse_optional h⟩
  | false => exact ⟨_, Source.Hint.parse_optional_list h⟩

end Member

/-- An enum that a field has is what its resolution gives. -/
theorem EnumSpec.outcome_resolve_iff {f : Field} {e : EnumSpec} :
    (resolve f).outcome = .ok e ↔ ofField f = .ok e := by
  rw [outcome_resolve]

/-! ## The body of a class -/

namespace ClassSpec

/-- The names that the body of every class binds, and those that some bind beside them. -/
def fixedNames : List String :=
  ["model_config", "COLLECTION_ID", "COLLECTION_NAME", "blank_to_none", "from_json", "to_json"]

/-- The names that the body of a class binds, in order. -/
def boundNames (k : ClassSpec) : List String :=
  "model_config" ::
    (if k.collectionName?.isSome then ["COLLECTION_ID", "COLLECTION_NAME"] else []) ++
    k.memberNames ++ (if k.blankMembers.isEmpty then [] else ["blank_to_none"]) ++
    ["from_json", "to_json"]

end ClassSpec

/-- The names that the body of a class binds. -/
def Source.Statement.bodyNames (s : Statement) : List String :=
  (s.body.flatMap Statement.bindings).map (·.name)

namespace ClassSpec

variable {k : ClassSpec} {s : Statement}

theorem constants_bindings {ss : List Statement} (h : k.constants = .ok ss) :
    (ss.flatMap Statement.bindings).map (·.name) =
      if k.collectionName?.isSome then ["COLLECTION_ID", "COLLECTION_NAME"] else [] := by
  unfold constants at h
  cases hname : k.collectionName? with
  | none =>
    rw [hname] at h
    cases h
    rfl
  | some name =>
    rw [hname] at h
    obtain ⟨constant, -, h⟩ := except_bind_eq_ok_iff.mp h
    cases h
    rfl

theorem members_bindings {is : List Member} {ss : List Statement}
    (h : is.mapM Member.statement = .ok ss) :
    (ss.flatMap Statement.bindings).map (·.name) = is.map (·.identifier) := by
  rw [except_mapM_eq_ok_iff] at h
  induction h with
  | nil => rfl
  | @cons i s is ss hi _ ih =>
    unfold Member.statement at hi
    obtain ⟨hint, -, hi⟩ := except_bind_eq_ok_iff.mp hi
    cases hi
    rw [List.flatMap_cons, List.map_append, ih]
    rfl

theorem validator_bindings {ss : List Statement} (h : k.ValidatorOf ss) :
    (ss.flatMap Statement.bindings).map (·.name) =
      if k.blankMembers.isEmpty then [] else ["blank_to_none"] := by
  rcases h with ⟨hblank, rfl⟩ | ⟨hblank, s, hs, rfl⟩
  · rw [hblank]
    rfl
  · unfold blankValidator at hs
    obtain ⟨any, -, hs⟩ := except_bind_eq_ok_iff.mp hs
    cases hs
    rw [if_neg fun hempty => hblank (List.isEmpty_iff.mp hempty)]
    rfl

/-- **What the body of a class binds**: its settings, its constants, its members, the validator and
the methods. -/
theorem bodyNames_statement (h : k.statement = .ok s) : s.bodyNames = k.boundNames := by
  obtain ⟨constants, members, validator, reader, writer, hconstants, hmembers, hvalidator, hreader,
    hwriter, rfl⟩ := statement_eq_ok h
  have hfrom : (reader.bindings).map (·.name) = ["from_json"] := by
    unfold ClassSpec.reader at hreader
    obtain ⟨record, -, hreader⟩ := except_bind_eq_ok_iff.mp hreader
    obtain ⟨self, -, hreader⟩ := except_bind_eq_ok_iff.mp hreader
    cases hreader
    rfl
  have hto : (writer.bindings).map (·.name) = ["to_json"] := by
    unfold ClassSpec.writer at hwriter
    obtain ⟨record, -, hwriter⟩ := except_bind_eq_ok_iff.mp hwriter
    cases hwriter
    rfl
  have hmethods : ([reader, writer].flatMap Statement.bindings).map (·.name) =
      ["from_json", "to_json"] := by
    rw [List.flatMap_cons, List.flatMap_singleton, List.map_append, hfrom, hto]
    rfl
  unfold Statement.bodyNames
  rw [Statement.body, List.flatMap_append, List.flatMap_append, List.flatMap_append,
    List.flatMap_append, List.map_append, List.map_append, List.map_append, List.map_append,
    constants_bindings hconstants, members_bindings hmembers, validator_bindings hvalidator,
      hmethods]
  rfl

/-- A class binds no name twice, if its members have different names that it does not bind
itself. -/
theorem nodup_boundNames (hnodup : k.memberNames.Nodup)
    (hfixed : ∀ n ∈ k.memberNames, n ∉ fixedNames) :
    k.boundNames.Nodup := by
  have hcases : ∀ constants ∈ [[], ["COLLECTION_ID", "COLLECTION_NAME"]],
      ∀ validator ∈ [[], ["blank_to_none"]],
        ("model_config" :: constants ++ (validator ++ ["from_json", "to_json"])).Nodup ∧
        "model_config" :: constants ++ (validator ++ ["from_json", "to_json"]) ⊆ fixedNames := by
    decide
  obtain ⟨hown, hsubset⟩ := hcases
    (if k.collectionName?.isSome then ["COLLECTION_ID", "COLLECTION_NAME"] else [])
    (by split <;> simp) (if k.blankMembers.isEmpty then [] else ["blank_to_none"])
    (by split <;> simp)
  unfold boundNames
  generalize (if k.collectionName?.isSome then ["COLLECTION_ID", "COLLECTION_NAME"] else []) =
    constants at hown hsubset ⊢
  generalize
    (if k.blankMembers.isEmpty then [] else ["blank_to_none"]) = validator at hown hsubset ⊢
  rw [List.append_assoc, List.append_assoc]
  refine List.Perm.nodup_iff (List.Perm.append_left _ List.perm_append_comm) |>.mpr ?_
  rw [← List.append_assoc, List.nodup_append]
  refine ⟨hown, hnodup, fun n hn n' hn' heq => ?_⟩
  exact hfixed n' hn' (heq ▸ hsubset hn)

end ClassSpec

/-- What the body of an enum binds: its variants, and the look-up. -/
theorem EnumSpec.bodyNames_statement {e : EnumSpec} {s : Statement} (h : e.statement = .ok s) :
    s.bodyNames = e.variantNames ++ ["from_value"] := by
  unfold statement at h
  obtain ⟨text, -, h⟩ := except_bind_eq_ok_iff.mp h
  obtain ⟨self, -, h⟩ := except_bind_eq_ok_iff.mp h
  cases h
  have hvariants : ∀ vs : List Variant, ((vs.map fun v => Statement.assign v.identifier
      (.text v.value)).flatMap Statement.bindings).map (·.name) = vs.map (·.identifier) := by
    intro vs
    induction vs with
    | nil => rfl
    | cons v vs ih =>
      rw [List.map_cons, List.flatMap_cons, List.map_append, ih]
      rfl
  unfold Statement.bodyNames variantNames
  simp only [Statement.body, List.flatMap_cons, List.flatMap_append, List.map_append, hvariants,
    Statement.bindings]
  rfl

namespace ModelModule

variable {c : Collection} {resolver? : Option Resolver} {name : String} {enums : List EnumSpec}
  {raws : List String} {expand? : Option ExpandSpec} {fieldMembers : List Member} {m : ModelModule}
  {warnings : List String}

/-! ## Schemas -/

/-- The class names of a collection and of the targets of its mappings are identifiers. -/
structure Nameable (c : Collection) (resolver? : Option Resolver) (name : String) : Prop where
  collection : c.name = .text name
  self : isIdentifier (typeName name dataSuffix).toList = true
  targets : ∀ r, resolver? = some r → ∀ m ∈ r.mappings, ∀ t, m.target = .text t →
    isIdentifier (typeName t dataSuffix).toList = true

/-- **A schema without collisions**: these are the enums of its select fields, the names of its
fields and its companion class, and nothing in it becomes one. -/
structure CollisionFree (c : Collection) (resolver? : Option Resolver) (enums : List EnumSpec)
    (raws : List String) (expand? : Option ExpandSpec) (warnings : List String) : Prop where
  synthesized : List.Forall₂ (fun f e => EnumSpec.ofField f = .ok e)
    (c.fields.filter (·.kind = .select)) enums
  enums_distinct : (enums.map (·.name)).Nodup
  resolved : (expansion resolver? c).outcome = .ok (expand?, warnings)
  fields : c.fields.map (·.name) = raws.map .text
  members_distinct : (raws.map memberName ++ (expand?.map fun _ => "expand").toList).Nodup

theorem identifiers_dataMembers (expand? : Option ExpandSpec) :
    (dataMembers fieldMembers expand?).map (·.identifier) =
      fieldMembers.map (·.identifier) ++ (expand?.map fun _ => "expand").toList := by
  unfold dataMembers
  rw [List.map_append]
  cases expand? <;> rfl

/-! ## Acceptance -/

/-- What is built is free of collisions. -/
theorem BuiltFrom.collisionFree (h : BuiltFrom c resolver? name fieldMembers m warnings) :
    CollisionFree c resolver? m.enums (fieldMembers.map (·.rawName)) m.expand? warnings := by
  have henums := h.enums
  unfold EnumSpec.ofCollection at henums
  obtain ⟨hfields, hidentifiers⟩ :=
    Member.names_of_ofField (Logged.outcome_mapM_eq_ok_iff.mp h.fields)
  have hdistinct := h.members_distinct
  rw [identifiers_dataMembers, hidentifiers] at hdistinct
  exact ⟨(Logged.outcome_mapM_eq_ok_iff.mp henums).imp fun _ _ => EnumSpec.ofField_of_resolve,
    h.enums_distinct, h.expanded, hfields, hdistinct⟩

/-- The companion class of a nameable collection has members with hints that can be read, and so has
the member that holds it. -/
theorem Nameable.exists_parse (h : Nameable c resolver? name)
    (hexpanded : (expansion resolver? c).outcome = .ok (expand?, warnings)) {e : ExpandSpec}
    (he : expand? = some e) : ∀ i ∈ Member.expand e :: (expandClass c.name e).members,
      ∃ x, parse i.hint = .ok x := by
  obtain ⟨hname, -, hfields⟩ := expansion_eq_ok h.collection hexpanded he
  refine List.forall_mem_cons.mpr ⟨?_, fun i hi => ?_⟩
  · have hplain : Plain e.name := by
      rw [hname]
      exact Naming.typeName_plain_of_isIdentifier h.self (Or.inr rfl)
    exact ⟨_, Source.Hint.parse_optional hplain⟩
  · obtain ⟨f, hf, rfl⟩ := List.mem_map.mp hi
    obtain ⟨r, mapping, raw, target, hr, hmapping, hmade⟩ := hfields f hf
    refine Member.exists_parse_ofExpandField ?_
    rw [hmade.type]
    exact Naming.typeName_plain_of_isIdentifier
      (h.targets r hr mapping hmapping target hmade.refers)
      (Or.inl rfl)

/-- All hints of a nameable collection's module can be read. -/
theorem Nameable.exists_imports (h : Nameable c resolver? name)
    (hfields : (c.fields.mapM Member.ofField).outcome = .ok fieldMembers)
    (hexpanded : (expansion resolver? c).outcome = .ok (expand?, warnings)) {dataClass : ClassSpec}
    (hmembers : dataClass.members = dataMembers fieldMembers expand?) :
    ∃ specs, headImports dataClass enums (expand?.map (expandClass c.name)) = .ok specs := by
  have hfield : ∀ i ∈ fieldMembers, ∃ x, parse i.hint = .ok x := by
    intro i hi
    obtain ⟨f, -, hmade⟩ := exists_left_of_forall₂ (Logged.outcome_mapM_eq_ok_iff.mp hfields) hi
    exact Member.exists_parse_ofField hmade
  rw [exists_headImports_iff, hmembers]
  cases hexpand : expand? with
  | none => simpa [dataMembers] using hfield
  | some e =>
    have hrelated := h.exists_parse hexpanded hexpand
    intro i hi
    rw [dataMembers, List.mem_append, List.mem_append] at hi
    rcases hi with (hi | hi) | hi
    · exact hfield i hi
    · exact hrelated i (List.mem_singleton.mp hi ▸ List.mem_cons_self)
    · exact hrelated i (List.mem_cons_of_mem _ hi)

/-- **What is free of collisions is built**, if its class names are identifiers. -/
theorem CollisionFree.exists_build (h : CollisionFree c resolver? enums raws expand? warnings)
    (hname : Nameable c resolver? name) :
    ∃ m, (build c resolver?).outcome = .ok (m, warnings) := by
  have henums : (EnumSpec.ofCollection c).outcome = .ok enums :=
    Logged.outcome_mapM_eq_ok_iff.mpr
      (h.synthesized.imp fun _ _ => EnumSpec.outcome_resolve_iff.mpr)
  obtain ⟨fieldMembers, hfields, rfl⟩ := Member.exists_ofFields h.fields
  have hidentifiers := (Member.names_of_ofField (Logged.outcome_mapM_eq_ok_iff.mp hfields)).2
  let dataClass : ClassSpec :=
    { name := typeName name dataSuffix
      docstring := "Record of the '" ++ name ++ "' collection."
      members := dataMembers fieldMembers expand?
      collectionId? := some c.id
      collectionName? := some name }
  obtain ⟨specs, hspecs⟩ : ∃ specs, headImports dataClass enums
      (expand?.map (expandClass c.name)) = .ok specs :=
    hname.exists_imports hfields h.resolved rfl
  have hdistinct : ((dataMembers fieldMembers expand?).map (·.identifier)).Nodup := by
    rw [identifiers_dataMembers, hidentifiers]
    exact h.members_distinct
  exact ⟨{ name := Naming.moduleName name
           docstring :=
             "Models for the PocketBase '" ++ name ++ "' collection.\n\n" ++ notice ++ "\n"
           imports := specs
           enums
           dataClass
           expand?
           expandClass? := expand?.map (expandClass c.name)
           deferredImports := relatedImports expand? },
    build_eq_ok_iff.mpr ⟨name, fieldMembers, hname.collection, henums, h.enums_distinct,
      requireFreeEnumNames_eq_ok_iff.mp (enums_free henums), hfields, h.resolved, hdistinct,
      rfl, rfl, rfl, rfl, hspecs, rfl⟩⟩

/-! ## Built modules -/

/-- **A module in order**: the data class has a member for each field, in order, and then one for
the related records just if there is a companion class, each under the server's name for it; and no
class binds a name twice. -/
structure Orderly (c : Collection) (m : ModelModule) : Prop where
  members : ∃ raws : List String, c.fields.map (·.name) = raws.map .text ∧
    m.dataClass.members.map (fun i => (i.identifier, i.rawName)) =
      raws.map (fun raw => (memberName raw, raw)) ++
        (m.expandClass?.map fun _ => ("expand", "expand")).toList
  aliases : (m.dataClass.members.map (·.rawName)).Nodup
  fixed : ∀ k ∈ m.classes, ∀ n ∈ k.memberNames,
    n ∉ ClassSpec.fixedNames ∧ compat n ∉ ClassSpec.fixedNames
  classes : ∀ k ∈ m.classes, ∃ s, k.statement = .ok s ∧ s.bodyNames = k.boundNames ∧
    k.boundNames.Nodup
  enums : ∀ e ∈ m.enums, ∃ s, e.statement = .ok s ∧
    s.bodyNames = e.variantNames ++ ["from_value"] ∧ (e.variantNames ++ ["from_value"]).Nodup

theorem fixedNames_reserved : ∀ n ∈ ClassSpec.fixedNames, n ∈ Naming.reserved := by decide

/-- The members of every class have identifiers of their own. -/
theorem own_of_class (h : BuiltFrom c resolver? name fieldMembers m warnings) {k : ClassSpec}
    (hk : k ∈ m.classes) {n : String} (hn : n ∈ k.memberNames) : Naming.Own n := by
  obtain ⟨i, hi, rfl⟩ := List.mem_map.mp hn
  rw [identifier_of_member h hk hi]
  exact Naming.own_memberName i.rawName

theorem fixed_of_class (h : BuiltFrom c resolver? name fieldMembers m warnings) {k : ClassSpec}
    (hk : k ∈ m.classes) {n : String} (hn : n ∈ k.memberNames) :
    n ∉ ClassSpec.fixedNames ∧ compat n ∉ ClassSpec.fixedNames := by
  have hown := own_of_class h hk hn
  exact ⟨fun hmem => hown.free (fixedNames_reserved n hmem),
    fun hmem => hown.compat_not_mem_reserved (fixedNames_reserved _ hmem)⟩

/-- The enums of a module can be written out, and bind no name twice. -/
theorem enum_bodyNames (h : BuiltFrom c resolver? name fieldMembers m warnings) {e : EnumSpec}
    (he : e ∈ m.enums) : ∃ s, e.statement = .ok s ∧
      s.bodyNames = e.variantNames ++ ["from_value"] ∧
      (e.variantNames ++ ["from_value"]).Nodup := by
  obtain ⟨f, -, -, hfield⟩ := EnumSpec.field_of_ofCollection h.enums he
  obtain ⟨raw, -, hname⟩ := EnumSpec.ofField_eq_ok hfield
  have hplain : Plain e.name := by
    rw [hname]
    exact Naming.enumTypeName_plain raw
  obtain ⟨s, hs⟩ := EnumSpec.exists_statement hplain
  obtain ⟨hvariants, hnodup⟩ := EnumSpec.variants_of_ofField hfield
  refine ⟨s, hs, EnumSpec.bodyNames_statement hs, List.nodup_append.mpr
    ⟨hnodup, List.nodup_singleton _, fun n hn n' hn' heq => ?_⟩⟩
  have hreserved : "from_value" ∈ Naming.reserved := by decide
  obtain ⟨v, hv, rfl⟩ := List.mem_map.mp hn
  refine (Naming.own_variantName v.value).free ?_
  rw [← hvariants v hv, heq, List.mem_singleton.mp hn']
  exact hreserved

/-- The classes of a nameable collection's module can be written out. -/
theorem Nameable.exists_statement (hname : Nameable c resolver? name)
    (h : BuiltFrom c resolver? name fieldMembers m warnings) {k : ClassSpec} (hk : k ∈ m.classes) :
    ∃ s, k.statement = .ok s := by
  have himports := (exists_headImports_iff _ _ _).mp ⟨_, h.imports⟩
  have hmembers : ∀ i ∈ k.members, ∃ x, parse i.hint = .ok x := by
    intro i hi
    rcases mem_classes_iff.mp hk with hk | rfl
    · refine himports i (List.mem_append_right _ ?_)
      rw [hk]
      exact hi
    · exact himports i (List.mem_append_left _ hi)
  have hplain : Plain k.name := by
    rcases mem_classes_iff.mp hk with hk | rfl
    · rw [h.expand_class, Option.map_eq_some_iff] at hk
      obtain ⟨e, he, rfl⟩ := hk
      change Plain e.name
      rw [(h.expand_fields he).1]
      exact Naming.typeName_plain_of_isIdentifier hname.self (Or.inr rfl)
    · rw [h.data_class]
      exact Naming.typeName_plain_of_isIdentifier hname.self (Or.inl rfl)
  have hvoid := ClassSpec.void_statement hmembers
  rw [Source.Hint.parse_plain hplain] at hvoid
  cases hs : k.statement with
  | ok s => exact ⟨s, rfl⟩
  | error f =>
    rw [hs] at hvoid
    cases hvoid

/-- **A module that is built is in order.** -/
theorem BuiltFrom.orderly (h : BuiltFrom c resolver? name fieldMembers m warnings)
    (hname : Nameable c resolver? name) : Orderly c m := by
  have hdata : m.dataClass ∈ m.classes := mem_classes_iff.mpr (Or.inr rfl)
  have hfields := Logged.outcome_mapM_eq_ok_iff.mp h.fields
  refine ⟨⟨fieldMembers.map (·.rawName), (Member.names_of_ofField hfields).1, ?_⟩, ?_,
    fun k hk n hn => fixed_of_class h hk hn, fun k hk => ?_, fun e he => enum_bodyNames h he⟩
  · have hpairs : fieldMembers.map (fun i => (i.identifier, i.rawName)) =
        (fieldMembers.map (·.rawName)).map fun raw => (memberName raw, raw) := by
      rw [List.map_map]
      refine List.map_congr_left fun i hi => ?_
      rw [identifier_of_member h hdata (h.mem_members_iff.mpr (Or.inl hi))]
      rfl
    rw [h.data_class, h.expand_class, dataMembers, List.map_append, hpairs]
    cases m.expand? <;> rfl
  · -- members of different names come from different names of the server
    have hnames : m.dataClass.memberNames =
        (m.dataClass.members.map (·.rawName)).map memberName := by
      rw [List.map_map]
      refine List.map_congr_left fun i hi => ?_
      rw [identifier_of_member h hdata hi, Function.comp_apply]
    have hnodup := nodup_memberNames h hdata
    rw [hnames] at hnodup
    exact List.Nodup.of_map memberName hnodup
  · obtain ⟨s, hs⟩ := hname.exists_statement h hk
    exact ⟨s, hs, ClassSpec.bodyNames_statement hs, ClassSpec.nodup_boundNames
      (nodup_memberNames h hk) fun n hn => (fixed_of_class h hk hn).1⟩

/-- **Modules are built of exactly the schemas without collisions**, and are in order then. -/
theorem build_accepts (hname : Nameable c resolver? name) :
    ((∃ m warnings, (build c resolver?).outcome = .ok (m, warnings)) ↔
      ∃ enums raws expand? warnings, CollisionFree c resolver? enums raws expand? warnings) ∧
    ∀ m warnings, (build c resolver?).outcome = .ok (m, warnings) → Orderly c m := by
  refine ⟨⟨?_, ?_⟩, fun m warnings h => ?_⟩
  · rintro ⟨m, warnings, h⟩
    obtain ⟨other, fieldMembers, hbuilt⟩ := build_eq_ok_iff.mp h
    exact ⟨_, _, _, _, hbuilt.collisionFree⟩
  · rintro ⟨enums, raws, expand?, warnings, hfree⟩
    obtain ⟨m, hm⟩ := hfree.exists_build hname
    exact ⟨m, warnings, hm⟩
  · obtain ⟨other, fieldMembers, hbuilt⟩ := build_eq_ok_iff.mp h
    obtain rfl : other = name := Json.text.inj (hbuilt.collection.symm.trans hname.collection)
    exact hbuilt.orderly hname

/-- A collection with a select field, a field called after a keyword, and a relation. -/
def articles : Collection where
  id := "c1"
  name := .text "articles"
  fields :=
    [{ name := .text "state", kind := .select, required := true,
       extra := .select ["draft", "in review", "Draft"] },
     { name := .text "class", kind := .text },
     { name := .text "author", kind := .relation, required := true,
       extra := .relation (some 1) (.text "c2") }]

/-- The authors of `articles` are embedded. -/
def embedding : Resolver where
  mappings := [⟨.text "articles", .text "author", true, .text "users"⟩]
  known := ["articles", "users"]
  emitted := ["articles", "users"]

theorem build_accepts_articles : Nameable articles (some embedding) "articles" ∧
    ∃ m warnings, (build articles (some embedding)).outcome = .ok (m, warnings) ∧
      Orderly articles m ∧ m.dataClass.memberNames = ["state", "class_", "author", "expand"] := by
  have hname : Nameable articles (some embedding) "articles" := by
    refine ⟨rfl, by decide +kernel, fun r hr m hm t ht => ?_⟩
    cases hr
    rw [List.mem_singleton.mp hm, Json.text.injEq] at ht
    rw [← ht]
    decide +kernel
  have hbuilt : ((build articles (some embedding)).outcome.toOption.map fun built =>
      built.1.dataClass.memberNames) = some ["state", "class_", "author", "expand"] := by
    decide +kernel
  obtain ⟨⟨m, warnings⟩, h, hnames⟩ := toOption_map_eq_some_iff.mp hbuilt
  exact ⟨hname, m, warnings, h, (build_accepts hname).2 m warnings h, hnames⟩

end ModelModule

end SchemaModels
