import SchemaModels.Proofs.Module.Build
import SchemaModels.Proofs.Source.Names

/-!
# What the statements of a module refer to

The text of a module is made of statements. For each kind of them there is a lemma that says which
names it binds, which it refers to and which its body looks up.
-/

namespace SchemaModels

open Source (Expr Statement)
open Source.Hint (Refers parse)

/-! ## Fixed hints -/

theorem refers_str : Refers "str" ["str"] := by decide

theorem refers_any : Refers "Any" ["Any"] := by decide

theorem refers_constant : Refers "ClassVar[str]" ["ClassVar", "str"] := by decide

theorem refers_record : Refers "Dict[str, Any]" ["Dict", "str", "Any"] := by decide +kernel

/-- A hint that is read refers to the names that it is known to refer to. -/
theorem names_of_refers {s : String} {names : List String} {e : Expr} (h : Refers s names)
    (he : parse s = .ok e) : e.names = names :=
  Refers.unique ⟨e, he, rfl⟩ h

/-- A method refers to the object that it is called on. -/
theorem names_method {s : String} (object method : String) (hs : s = object ++ ("." ++ method))
    (hobject : '.' ∉ object.toList) : (Expr.dotted s).names = [object] := by
  rw [hs]
  exact Expr.names_dotted_append hobject

/-! ## Enums -/

namespace EnumSpec

/-- **The class of an enum.** -/
theorem statement_names {e : EnumSpec} {s : Statement} (h : e.statement = .ok s) :
    (∃ bases body, s = .classDef e.name bases body) ∧
      (∃ self, parse e.name = .ok self ∧
        ∀ n ∈ s.uses, n ∈ ["str", "Enum", "classmethod"] ∨ n ∈ self.names) ∧
      ∀ n, n ∈ s.body.flatMap Statement.looksUp ↔ n = "classmethod" := by
  unfold statement at h
  obtain ⟨text, htext, h⟩ := except_bind_eq_ok_iff.mp h
  obtain ⟨self, hself, h⟩ := except_bind_eq_ok_iff.mp h
  rw [Except.ok.injEq] at h
  have hnames := names_of_refers refers_str htext
  have hcls := Expr.names_dotted (s := "cls") (by decide)
  subst h
  refine ⟨⟨_, _, rfl⟩, ⟨self, hself, fun n hn => ?_⟩, fun n => ?_⟩
  · simp only [Statement.uses, Statement.usesOf_eq_flatMap, List.flatMap_cons, List.flatMap_append,
      List.flatMap_map, Expr.names, Statement.parameterNames, Expr.namesOfOption, hnames,
      Expr.names_callNamed, hcls] at hn
    have hn' : n = "str" ∨ n = "Enum" ∨ n = "classmethod" ∨ n = "str" ∨ n ∈ self.names := by
      simpa [or_assoc] using hn
    rcases hn' with rfl | rfl | rfl | rfl | hn'
    · exact Or.inl (by simp)
    · exact Or.inl (by simp)
    · exact Or.inl (by simp)
    · exact Or.inl (by simp)
    · exact Or.inr hn'
  · simp only [Statement.body, Statement.looksUp, List.flatMap_cons, List.flatMap_append,
      List.flatMap_map, Expr.names]
    simp

end EnumSpec

/-! ## Classes -/

theorem names_field : (Expr.dotted "Field").names = ["Field"] := Expr.names_dotted (by decide)

/-- **The declaration of a member** refers to its hint and calls for its settings. -/
theorem Member.statement_names {m : Member} {s : Statement} (h : m.statement = .ok s) :
    ∃ e, parse m.hint = .ok e ∧ s.uses = e.names ++ ["Field"] ∧
      s.looksUp = e.names ++ ["Field"] := by
  unfold Member.statement at h
  obtain ⟨e, he, h⟩ := except_bind_eq_ok_iff.mp h
  rw [Except.ok.injEq] at h
  subst h
  have hcall : ∀ keywords : List (String × Expr), (∀ k ∈ keywords, k.2.names = []) →
      (Expr.callNamed "Field" [] keywords).names = ["Field"] := by
    intro keywords hk
    rw [Expr.names_callNamed, names_field, List.flatMap_eq_nil_iff.mpr hk]
    rfl
  have hkeywords : ∀ k ∈ (if m.nullable then [("default", Expr.none)] else []) ++
      [("alias", Expr.text m.rawName)], k.2.names = [] := by
    intro k hk
    rw [List.mem_append, List.mem_singleton] at hk
    rcases hk with hk | rfl
    · split at hk
      · rw [List.mem_singleton.mp hk]
        rfl
      · cases hk
    · rfl
  have hall := hcall _ hkeywords
  refine ⟨e, he, ?_, ?_⟩
  · rw [Statement.uses, Expr.namesOfOption, hall]
  · rw [Statement.looksUp, Expr.namesOfOption, hall]

namespace ClassSpec

theorem settings_names : settings.uses = ["ConfigDict"] ∧ settings.looksUp = ["ConfigDict"] := by
  decide

theorem constants_names {c : ClassSpec} {ss : List Statement} (h : c.constants = .ok ss) :
    ∀ n, (n ∈ ss.flatMap Statement.uses ↔ c.collectionName?.isSome ∧ n ∈ ["ClassVar", "str"]) ∧
      (n ∈ ss.flatMap Statement.looksUp ↔ c.collectionName?.isSome ∧ n ∈ ["ClassVar", "str"]) := by
  unfold constants at h
  intro n
  cases hname : c.collectionName? with
  | none =>
    rw [hname] at h
    cases h
    simp
  | some name =>
    rw [hname] at h
    obtain ⟨constant, hconstant, h⟩ := except_bind_eq_ok_iff.mp h
    rw [Except.ok.injEq] at h
    subst h
    have hnames := names_of_refers refers_constant hconstant
    simp only [Statement.uses, Statement.looksUp, Expr.namesOfOption, Expr.names, hnames,
      List.flatMap_cons, List.flatMap_nil, List.append_nil, List.mem_append, or_self,
      Option.isSome_some, true_and, and_self]

theorem blankValidator_names {members : List String} {s : Statement}
    (h : blankValidator members = .ok s) :
    (∀ n ∈ s.uses, n ∈ ["field_validator", "classmethod", "Any"]) ∧
      s.looksUp = ["field_validator", "classmethod"] := by
  unfold blankValidator at h
  obtain ⟨any, hany, h⟩ := except_bind_eq_ok_iff.mp h
  rw [Except.ok.injEq] at h
  subst h
  have hnames := names_of_refers refers_any hany
  have hdotted := Expr.names_dotted (s := "field_validator") (by decide)
  have htexts : (members.map Expr.text).flatMap Expr.names = [] := by
    rw [List.flatMap_map, List.flatMap_eq_nil_iff]
    exact fun _ _ => rfl
  refine ⟨fun n hn => ?_, ?_⟩
  · simp only [Statement.uses, Statement.usesOf_eq_flatMap, List.flatMap_cons, Expr.names,
      Expr.names_callNamed, Statement.parameterNames, Expr.namesOfOption,
      Expr.namesOfComparisons, hnames, hdotted, htexts] at hn
    have hn' : n = "field_validator" ∨ n = "classmethod" ∨ n = "Any" ∨ n = "Any" := by
      simpa [or_assoc] using hn
    rcases hn' with rfl | rfl | rfl | rfl
    · simp
    · simp
    · simp
    · simp
  · simp only [Statement.looksUp, List.flatMap_cons, Expr.names, Expr.names_callNamed, hdotted,
      htexts]
    rfl

theorem reader_names {c : ClassSpec} {s : Statement} (h : c.reader = .ok s) :
    ∃ self, parse c.name = .ok self ∧
      (∀ n ∈ s.uses, n ∈ ["classmethod", "Dict", "str", "Any"] ∨ n ∈ self.names) ∧
      s.looksUp = ["classmethod"] := by
  unfold reader at h
  obtain ⟨record, hrecord, h⟩ := except_bind_eq_ok_iff.mp h
  obtain ⟨self, hself, h⟩ := except_bind_eq_ok_iff.mp h
  rw [Except.ok.injEq] at h
  subst h
  have hnames := names_of_refers refers_record hrecord
  have hdotted := names_method (s := "cls.model_validate") "cls" "model_validate" (by decide)
    (by decide)
  refine ⟨self, hself, fun n hn => ?_, rfl⟩
  simp only [Statement.uses, Statement.usesOf_eq_flatMap, List.flatMap_cons, Expr.names,
    Expr.names_callNamed, Statement.parameterNames, Expr.namesOfOption, hnames, hdotted] at hn
  have hn' : n = "classmethod" ∨ n = "Dict" ∨ n = "str" ∨ n = "Any" ∨ n ∈ self.names := by
    simpa using hn
  rcases hn' with rfl | rfl | rfl | rfl | hn'
  · exact Or.inl (by simp)
  · exact Or.inl (by simp)
  · exact Or.inl (by simp)
  · exact Or.inl (by simp)
  · exact Or.inr hn'

theorem writer_names {s : Statement} (h : writer = .ok s) :
    (∀ n ∈ s.uses, n ∈ ["Dict", "str", "Any"]) ∧ s.looksUp = [] := by
  unfold writer at h
  obtain ⟨record, hrecord, h⟩ := except_bind_eq_ok_iff.mp h
  rw [Except.ok.injEq] at h
  subst h
  have hnames := names_of_refers refers_record hrecord
  have hdotted := names_method (s := "self.model_dump") "self" "model_dump" (by decide) (by decide)
  refine ⟨fun n hn => ?_, rfl⟩
  simp only [Statement.uses, Statement.usesOf_eq_flatMap, List.flatMap_cons, Expr.names,
    Expr.names_callNamed, Statement.parameterNames, Expr.namesOfOption, hnames, hdotted] at hn
  have hn' : n = "Dict" ∨ n = "str" ∨ n = "Any" := by simpa using hn
  simp only [List.mem_cons, List.not_mem_nil, or_false]
  exact hn'

/-- The names that the declarations of a class's members refer to. -/
def MemberName (c : ClassSpec) (n : String) : Prop :=
  ∃ m ∈ c.members, n = "Field" ∨ ∃ e, parse m.hint = .ok e ∧ n ∈ e.names

theorem members_names {c : ClassSpec} {ss : List Statement}
    (h : c.members.mapM Member.statement = .ok ss) (n : String) :
    (n ∈ ss.flatMap Statement.uses ↔ c.MemberName n) ∧
      (n ∈ ss.flatMap Statement.looksUp ↔ c.MemberName n) := by
  have hall := except_mapM_eq_ok_iff.mp h
  have hiff : ∀ m ∈ c.members, ∃ s, m.statement = .ok s ∧
      (n ∈ s.uses ↔ n = "Field" ∨ ∃ e, parse m.hint = .ok e ∧ n ∈ e.names) ∧
      s.looksUp = s.uses := by
    intro m hm
    obtain ⟨s, -, hs⟩ := exists_right_of_forall₂ hall hm
    obtain ⟨e, he, huses, hlooks⟩ := Member.statement_names hs
    refine ⟨s, hs, ?_, hlooks.trans huses.symm⟩
    rw [huses, List.mem_append, List.mem_singleton, or_comm]
    simp [he]
  have huses : n ∈ ss.flatMap Statement.uses ↔ c.MemberName n := by
    rw [List.mem_flatMap, exists_mem_iff_of_forall₂ hall]
    refine exists_congr fun m => and_congr_right fun hm => ?_
    obtain ⟨s, hs, hn, -⟩ := hiff m hm
    rw [hs, ← hn]
    simp
  refine ⟨huses, ?_⟩
  rw [← huses, List.mem_flatMap, List.mem_flatMap]
  refine exists_congr fun s => and_congr_right fun hs => ?_
  obtain ⟨m, hm, hms⟩ := exists_left_of_forall₂ hall hs
  obtain ⟨s', hs', -, heq⟩ := hiff m hm
  rw [hms, Except.ok.injEq] at hs'
  rw [hs', heq]

/-- The names that a class refers to, beside those of its members and its own. -/
def OwnUse (c : ClassSpec) (n : String) : Prop :=
  n ∈ ["BaseModel", "ConfigDict", "classmethod", "Dict", "str", "Any"] ∨
    (c.collectionName?.isSome ∧ n = "ClassVar") ∨
    (c.blankMembers ≠ [] ∧ n = "field_validator")

/-- The names that the body of a class looks up, beside those of its members. -/
def OwnLookUp (c : ClassSpec) (n : String) : Prop :=
  n ∈ ["ConfigDict", "classmethod"] ∨
    (c.collectionName?.isSome ∧ n ∈ ["ClassVar", "str"]) ∨
    (c.blankMembers ≠ [] ∧ n = "field_validator")

/-- The validator is there if a member takes empty texts as missing. -/
def ValidatorOf (c : ClassSpec) (ss : List Statement) : Prop :=
  (c.blankMembers = [] ∧ ss = []) ∨
    c.blankMembers ≠ [] ∧ ∃ s, blankValidator c.blankMembers = .ok s ∧ ss = [s]

theorem validator_eq_ok {c : ClassSpec} {ss : List Statement}
    (h : (if c.blankMembers.isEmpty then pure []
      else (fun s => [s]) <$> blankValidator c.blankMembers : Except Fault (List Statement)) =
        .ok ss) : c.ValidatorOf ss := by
  split at h
  · rename_i hempty
    cases h
    exact Or.inl ⟨List.isEmpty_iff.mp hempty, rfl⟩
  · rename_i hempty
    obtain ⟨s, hs, rfl⟩ := except_map_eq_ok_iff.mp h
    exact Or.inr ⟨fun hnil => hempty (List.isEmpty_iff.mpr hnil), s, hs, rfl⟩

theorem validator_names {c : ClassSpec} {ss : List Statement} (h : c.ValidatorOf ss) (n : String) :
    (n ∈ ss.flatMap Statement.uses → c.OwnUse n) ∧
      (n ∈ ss.flatMap Statement.looksUp ↔
        c.blankMembers ≠ [] ∧ n ∈ ["field_validator", "classmethod"]) := by
  rcases h with ⟨hblank, rfl⟩ | ⟨hblank, s, hs, rfl⟩
  · simp [hblank]
  · obtain ⟨huses, hlooks⟩ := blankValidator_names hs
    rw [List.flatMap_singleton, List.flatMap_singleton, hlooks]
    refine ⟨fun hn => ?_, by simp [hblank]⟩
    have hmem := huses n hn
    simp only [List.mem_cons, List.not_mem_nil, or_false] at hmem
    rcases hmem with rfl | rfl | rfl
    · exact Or.inr (Or.inr ⟨hblank, rfl⟩)
    · exact Or.inl (by simp)
    · exact Or.inl (by simp)

/-- **A class is written out** with its settings, constants, members, validator and methods. -/
theorem statement_eq_ok {c : ClassSpec} {s : Statement} (h : c.statement = .ok s) :
    ∃ constants members validator reader writer, c.constants = .ok constants ∧
      c.members.mapM Member.statement = .ok members ∧ c.ValidatorOf validator ∧
      c.reader = .ok reader ∧ ClassSpec.writer = .ok writer ∧
      s = .classDef c.name [.name "BaseModel"] ([.docstring c.docstring, settings] ++ constants ++
        members ++ validator ++ [reader, writer]) := by
  unfold statement at h
  obtain ⟨constants, hconstants, h⟩ := except_bind_eq_ok_iff.mp h
  obtain ⟨members, hmembers, h⟩ := except_bind_eq_ok_iff.mp h
  obtain ⟨validator, hvalidator, h⟩ := except_ite_bind_eq_ok_iff.mp h
  obtain ⟨reader, hreader, h⟩ := except_bind_eq_ok_iff.mp h
  obtain ⟨writer, hwriter, h⟩ := except_bind_eq_ok_iff.mp h
  rw [Except.ok.injEq] at h
  exact ⟨constants, members, validator, reader, writer, hconstants, hmembers,
    validator_eq_ok hvalidator, hreader, hwriter, h.symm⟩

theorem constants_ownUse {c : ClassSpec} {ss : List Statement} (h : c.constants = .ok ss)
    {n : String} (hn : n ∈ ss.flatMap Statement.uses) : c.OwnUse n := by
  obtain ⟨hsome, hn⟩ := (constants_names h n).1.mp hn
  simp only [List.mem_cons, List.not_mem_nil, or_false] at hn
  rcases hn with rfl | rfl
  · exact Or.inr (Or.inl ⟨hsome, rfl⟩)
  · exact Or.inl (by simp)

/-- What the methods of every class refer to. -/
theorem methods_ownUse {c : ClassSpec} {n : String}
    (h : n ∈ ["classmethod", "Dict", "str", "Any"]) : c.OwnUse n := by
  have hall : ∀ m ∈ ["classmethod", "Dict", "str", "Any"],
      m ∈ ["BaseModel", "ConfigDict", "classmethod", "Dict", "str", "Any"] := by decide
  exact Or.inl (hall n h)

theorem statement_uses {c : ClassSpec} {s : Statement} (h : c.statement = .ok s) :
    ∃ self, parse c.name = .ok self ∧
      ∀ n ∈ s.uses, c.OwnUse n ∨ c.MemberName n ∨ n ∈ self.names := by
  obtain ⟨constants, members, validator, reader, writer, hconstants, hmembers, hvalidator, hreader,
    hwriter, rfl⟩ := statement_eq_ok h
  obtain ⟨self, hself, hreaderUses, -⟩ := reader_names hreader
  refine ⟨self, hself, fun n hn => ?_⟩
  have hn' : n = "BaseModel" ∨ n = "ConfigDict" ∨ n ∈ constants.flatMap Statement.uses ∨
      n ∈ members.flatMap Statement.uses ∨ n ∈ validator.flatMap Statement.uses ∨
      n ∈ reader.uses ∨ n ∈ writer.uses := by
    simp only [Statement.uses, Statement.usesOf_eq_flatMap, List.flatMap_append,
      List.flatMap_cons, List.flatMap_nil, settings_names.1, Expr.names, List.mem_append,
      List.mem_singleton, List.not_mem_nil, or_false, false_or] at hn
    simpa [or_assoc] using hn
  rcases hn' with rfl | rfl | hn | hn | hn | hn | hn
  · exact Or.inl (Or.inl (by simp))
  · exact Or.inl (Or.inl (by simp))
  · exact Or.inl (constants_ownUse hconstants hn)
  · exact Or.inr (Or.inl ((members_names hmembers n).1.mp hn))
  · exact Or.inl ((validator_names hvalidator n).1 hn)
  · rcases hreaderUses n hn with hn | hn
    · exact Or.inl (methods_ownUse hn)
    · exact Or.inr (Or.inr hn)
  · exact Or.inl (methods_ownUse (List.mem_cons_of_mem _ ((writer_names hwriter).1 n hn)))

/-- The body looks up the names of its settings, constants, validator and methods, in this order. -/
theorem ownLookUp_iff {c : ClassSpec} {n : String} :
    c.OwnLookUp n ↔ n = "ConfigDict" ∨ (c.collectionName?.isSome ∧ n ∈ ["ClassVar", "str"]) ∨
      (c.blankMembers ≠ [] ∧ n ∈ ["field_validator", "classmethod"]) ∨ n = "classmethod" := by
  unfold OwnLookUp
  simp only [List.mem_cons, List.not_mem_nil, or_false]
  constructor
  · rintro ((rfl | rfl) | hn | ⟨hblank, rfl⟩)
    · exact Or.inl rfl
    · exact Or.inr (Or.inr (Or.inr rfl))
    · exact Or.inr (Or.inl hn)
    · exact Or.inr (Or.inr (Or.inl ⟨hblank, Or.inl rfl⟩))
  · rintro (rfl | hn | ⟨hblank, rfl | rfl⟩ | rfl)
    · exact Or.inl (Or.inl rfl)
    · exact Or.inr (Or.inl hn)
    · exact Or.inr (Or.inr ⟨hblank, rfl⟩)
    · exact Or.inl (Or.inr rfl)
    · exact Or.inl (Or.inr rfl)

theorem statement_looksUp {c : ClassSpec} {s : Statement} (h : c.statement = .ok s) (n : String) :
    n ∈ s.body.flatMap Statement.looksUp ↔ c.OwnLookUp n ∨ c.MemberName n := by
  obtain ⟨constants, members, validator, reader, writer, hconstants, hmembers, hvalidator, hreader,
    hwriter, rfl⟩ := statement_eq_ok h
  obtain ⟨-, -, -, hreaderLooks⟩ := reader_names hreader
  have hparts : n ∈ (Statement.classDef c.name [.name "BaseModel"] ([.docstring c.docstring,
      settings] ++ constants ++ members ++ validator ++ [reader, writer])).body.flatMap
        Statement.looksUp ↔
      n = "ConfigDict" ∨ n ∈ constants.flatMap Statement.looksUp ∨
        n ∈ members.flatMap Statement.looksUp ∨ n ∈ validator.flatMap Statement.looksUp ∨
        n = "classmethod" := by
    simp [Statement.body, settings_names.2, hreaderLooks, (writer_names hwriter).2]
  rw [hparts, (constants_names hconstants n).2, (members_names hmembers n).2,
    (validator_names hvalidator n).2, ownLookUp_iff]
  simp only [or_comm, or_left_comm]

/-- **What a class refers to**, and what its body looks up. -/
theorem statement_names {c : ClassSpec} {s : Statement} (h : c.statement = .ok s) :
    (∃ bases body, s = .classDef c.name bases body) ∧
      (∃ self, parse c.name = .ok self ∧
        ∀ n ∈ s.uses, c.OwnUse n ∨ c.MemberName n ∨ n ∈ self.names) ∧
      ∀ n, n ∈ s.body.flatMap Statement.looksUp ↔ c.OwnLookUp n ∨ c.MemberName n := by
  obtain ⟨_, _, _, _, _, -, -, -, -, -, hclass⟩ := statement_eq_ok h
  exact ⟨⟨_, _, hclass⟩, statement_uses h, statement_looksUp h⟩

end ClassSpec

/-! ## Modules -/

namespace ModelModule

/-- The statements of classes, one after the other. -/
theorem flatMap_classStatements {α β : Type} {statement : α → Except Fault Statement}
    {name : α → String} {f : Statement → List β} {g : String → β}
    (hclass : ∀ a s, statement a = .ok s → ∃ bases body, s = .classDef (name a) bases body)
    (hf : ∀ n bases body, f (.classDef n bases body) = [g n]) {items : List α}
    {ss : List Statement} (h : items.mapM statement = .ok ss) :
    ss.flatMap f = (items.map name).map g := by
  rw [except_mapM_eq_ok_iff] at h
  induction h with
  | nil => rfl
  | @cons a s _ _ hstatement _ ih =>
    obtain ⟨bases, body, rfl⟩ := hclass a s hstatement
    rw [List.flatMap_cons, hf, ih]
    rfl

theorem rebuildCall_uses {className : String} (h : '.' ∉ className.toList) :
    (rebuildCall className).uses = [className] := by
  have hsplit : ".model_rebuild" = "." ++ "model_rebuild" := by decide
  unfold rebuildCall
  rw [Statement.uses, Expr.names_callNamed, hsplit, Expr.names_dotted_append h]
  simp [Expr.names]

/-- **A module is written out** iff its classes are. -/
theorem statements_eq_ok {m : ModelModule} {ss : List Statement} (h : m.statements = .ok ss) :
    ∃ enums expands data, m.enums.mapM EnumSpec.statement = .ok enums ∧
      m.expandClass?.toList.mapM ClassSpec.statement = .ok expands ∧
      m.dataClass.statement = .ok data ∧
      ss = .docstring m.docstring :: m.imports.map ImportSpec.statement ++
        [.assign "__all__" (.list (m.exports.map .text))] ++ enums ++ expands ++ [data] ++
        m.deferredImports.map ImportSpec.statement ++ m.rebuilt.map rebuildCall := by
  unfold statements at h
  obtain ⟨enums, henums, h⟩ := except_bind_eq_ok_iff.mp h
  obtain ⟨expands, hexpands, h⟩ := except_bind_eq_ok_iff.mp h
  obtain ⟨data, hdata, h⟩ := except_bind_eq_ok_iff.mp h
  rw [Except.ok.injEq] at h
  exact ⟨enums, expands, data, henums, hexpands, hdata, h.symm⟩

end ModelModule

end SchemaModels
