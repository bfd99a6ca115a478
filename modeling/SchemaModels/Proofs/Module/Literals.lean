import SchemaModels.Module.Render
import SchemaModels.Proofs.Enum
import SchemaModels.Proofs.Module.Statements
import SchemaModels.Proofs.Source.Written

/-!
# The literals of a module

`literals` lists the string literals and docstrings of a module in the order of its text: the
strings that its schema supplies (the collection's id and name, the aliases of fields and
expansions, the values of select fields, the names that docstrings quote) between those that every
module has. `literalsOf_statements` finds them in the statements of the module, one lemma for each
kind of statement, and `supplied_of_build` finds the strings of a collection among them. With the
printer's `Statement.written_source` every one of them reads back from the text (`render_literals`).
-/

namespace SchemaModels

open Source (Expr Statement Literal Written)
open Source.Hint (parse)

/-! ## Hints -/

/-- The literals of a type hint, which may be any expression. -/
def hintLiterals (hint : String) : List Literal :=
  match parse hint with
  | .ok e => e.literals
  | .error _ => []

theorem literals_of_parse {hint : String} {e : Expr} (h : parse hint = .ok e) :
    e.literals = hintLiterals hint := by
  unfold hintLiterals
  rw [h]

theorem hintLiterals_str : hintLiterals "str" = [] := by decide +kernel

theorem hintLiterals_any : hintLiterals "Any" = [] := by decide +kernel

theorem hintLiterals_constant : hintLiterals "ClassVar[str]" = [] := by decide +kernel

theorem hintLiterals_record : hintLiterals "Dict[str, Any]" = [] := by decide +kernel

theorem Source.Expr.literals_callNamed (func : String) (args : List Expr)
    (keywords : List (String × Expr)) : (Expr.callNamed func args keywords).literals =
      args.flatMap Expr.literals ++ keywords.flatMap fun k => k.2.literals := by
  unfold Expr.callNamed
  rw [Expr.literals, Expr.literals_dotted, Expr.literalsOfItems_eq, Expr.literalsOfKeywords_eq,
    List.flatMap_map, List.nil_append]

theorem flatMap_text (ss : List String) : (ss.map Expr.text).flatMap Expr.literals =
    ss.map Literal.text := by
  induction ss with
  | nil => rfl
  | cons s ss ih => rw [List.map_cons, List.flatMap_cons, ih]; rfl

/-- What checks gave back has the literals that are known of each of them. -/
theorem flatMap_of_forall₂ {α β γ ε : Type} {f : α → Except ε β} {literalsOf : β → List γ}
    {expected : α → List γ} (hf : ∀ a b, f a = .ok b → literalsOf b = expected a) {as : List α}
    {bs : List β} (h : List.Forall₂ (fun a b => f a = .ok b) as bs) :
    bs.flatMap literalsOf = as.flatMap expected := by
  induction h with
  | nil => rfl
  | cons hab _ ih => rw [List.flatMap_cons, List.flatMap_cons, hf _ _ hab, ih]

/-! ## Parts of a module -/

/-- The literals of an enum. -/
def EnumSpec.literals (e : EnumSpec) : List Literal :=
  .docstring ("Allowed values of the '" ++ e.field.display ++ "' select field.") ::
    e.variants.map (fun v => .text v.value) ++ hintLiterals e.name ++
    [.docstring "Look up a member by its raw value; raises ValueError when none matches."]

theorem EnumSpec.literals_statement {e : EnumSpec} {s : Statement} (h : e.statement = .ok s) :
    s.literals = e.literals := by
  unfold EnumSpec.statement at h
  obtain ⟨text, htext, h⟩ := except_bind_eq_ok_iff.mp h
  obtain ⟨self, hself, h⟩ := except_bind_eq_ok_iff.mp h
  rw [Except.ok.injEq] at h
  subst h
  have htext' := literals_of_parse htext
  rw [hintLiterals_str] at htext'
  have hself' := literals_of_parse hself
  have hvariants : (e.variants.map fun v => Statement.assign v.identifier (.text v.value)).flatMap
      Statement.literals = e.variants.map fun v => Literal.text v.value := by
    rw [List.flatMap_map, List.map_eq_flatMap]
    rfl
  unfold EnumSpec.literals
  simp [Statement.literals, Statement.literalsOf_eq_flatMap, hvariants, Expr.literals,
    Expr.literalsOfOption, Expr.literals_callNamed, htext', hself']

/-- The literals of a member: those of its type hint, and its alias. -/
def Member.literals (m : Member) : List Literal :=
  hintLiterals m.hint ++ [.text m.rawName]

theorem Member.literals_statement {m : Member} {s : Statement} (h : m.statement = .ok s) :
    s.literals = m.literals := by
  unfold Member.statement at h
  obtain ⟨hint, hhint, h⟩ := except_bind_eq_ok_iff.mp h
  rw [Except.ok.injEq] at h
  subst h
  unfold Member.literals
  rw [Statement.literals, literals_of_parse hhint, Expr.literalsOfOption, Expr.literals_callNamed]
  cases m.nullable <;> simp [Expr.literals]

namespace ClassSpec

/-- The literals of the constants that name the collection. -/
def constantLiterals (c : ClassSpec) : List Literal :=
  match c.collectionName? with
  | none => []
  | some name => [.text (c.collectionId?.getD ""), .text name]

/-- The literals of the validator for blank members, if there are any. -/
def blankLiterals (c : ClassSpec) : List Literal :=
  if c.blankMembers.isEmpty then []
  else c.blankMembers.map Literal.text ++ [.text "before", .text ""]

/-- The literals of a class. -/
def literals (c : ClassSpec) : List Literal :=
  .docstring c.docstring :: c.constantLiterals ++ c.members.flatMap Member.literals ++
    c.blankLiterals ++ hintLiterals c.name ++
    [.docstring "Build an instance from a decoded PocketBase JSON object.",
     .docstring ("Serialize to a JSON-compatible dict keyed by PocketBase field names, " ++
       "omitting unset members."),
     .text "json"]

theorem literalsOf_constants {c : ClassSpec} {ss : List Statement} (h : c.constants = .ok ss) :
    ss.flatMap Statement.literals = c.constantLiterals := by
  unfold constants at h
  unfold constantLiterals
  cases hname : c.collectionName? with
  | none =>
    rw [hname] at h
    cases h
    rfl
  | some name =>
    rw [hname] at h
    obtain ⟨constant, hconstant, h⟩ := except_bind_eq_ok_iff.mp h
    cases h
    have hhint := literals_of_parse hconstant
    rw [hintLiterals_constant] at hhint
    simp [Statement.literals, Expr.literals, Expr.literalsOfOption, hhint]

theorem literals_blankValidator {members : List String} {s : Statement}
    (h : blankValidator members = .ok s) :
    s.literals = members.map Literal.text ++ [.text "before", .text ""] := by
  unfold blankValidator at h
  obtain ⟨any, hany, h⟩ := except_bind_eq_ok_iff.mp h
  cases h
  have hhint := literals_of_parse hany
  rw [hintLiterals_any] at hhint
  simp [Statement.literals, Statement.literalsOf_eq_flatMap, Expr.literals, Expr.literalsOfOption,
    Expr.literalsOfComparisons, Expr.literals_callNamed, flatMap_text, hhint]

theorem literals_reader {c : ClassSpec} {s : Statement} (h : c.reader = .ok s) : s.literals =
    hintLiterals c.name ++
      [.docstring "Build an instance from a decoded PocketBase JSON object."] := by
  unfold reader at h
  obtain ⟨record, hrecord, h⟩ := except_bind_eq_ok_iff.mp h
  obtain ⟨self, hself, h⟩ := except_bind_eq_ok_iff.mp h
  cases h
  have hhint := literals_of_parse hrecord
  rw [hintLiterals_record] at hhint
  simp [Statement.literals, Statement.literalsOf_eq_flatMap, Expr.literals, Expr.literalsOfOption,
    Expr.literals_callNamed, hhint, literals_of_parse hself]

theorem literals_writer {s : Statement} (h : writer = .ok s) : s.literals =
    [.docstring ("Serialize to a JSON-compatible dict keyed by PocketBase field names, " ++
       "omitting unset members."), .text "json"] := by
  unfold writer at h
  obtain ⟨record, hrecord, h⟩ := except_bind_eq_ok_iff.mp h
  cases h
  have hhint := literals_of_parse hrecord
  rw [hintLiterals_record] at hhint
  simp [Statement.literals, Statement.literalsOf_eq_flatMap, Expr.literals, Expr.literalsOfOption,
    Expr.literals_callNamed, hhint]

theorem literals_settings : settings.literals = [] := by
  unfold settings
  rw [Statement.literals, Expr.literals_callNamed]
  rfl

theorem literals_validator {c : ClassSpec} {ss : List Statement} (h : c.ValidatorOf ss) :
    ss.flatMap Statement.literals = c.blankLiterals := by
  unfold blankLiterals
  rcases h with ⟨hblank, rfl⟩ | ⟨hblank, s, hs, rfl⟩
  · rw [hblank]
    rfl
  · rw [if_neg (by simpa using hblank), List.flatMap_singleton, literals_blankValidator hs]

theorem literals_statement {c : ClassSpec} {s : Statement} (h : c.statement = .ok s) :
    s.literals = c.literals := by
  obtain ⟨constants, members, validator, reader, writer, hconstants, hmembers, hvalidator, hreader,
    hwriter, rfl⟩ := statement_eq_ok h
  have hall := flatMap_of_forall₂ (fun _ _ => Member.literals_statement)
    (except_mapM_eq_ok_iff.mp hmembers)
  unfold literals
  simp only [Statement.literals, Statement.literalsOf_eq_flatMap, List.flatMap_append,
    List.flatMap_cons, List.flatMap_nil, Expr.literals, literals_settings,
    literalsOf_constants hconstants, hall, literals_validator hvalidator, literals_reader hreader,
    literals_writer hwriter, List.nil_append, List.append_nil, List.append_assoc, List.cons_append]

end ClassSpec

namespace ModelModule

/-- **The literals of a module**, in the order of its text. -/
def literals (m : ModelModule) : List Literal :=
  .docstring m.docstring :: m.exports.map Literal.text ++ m.enums.flatMap EnumSpec.literals ++
    m.expandClass?.toList.flatMap ClassSpec.literals ++ m.dataClass.literals

theorem literals_imports (specs : List ImportSpec) :
    (specs.map ImportSpec.statement).flatMap Statement.literals = [] := by
  rw [List.flatMap_map, List.flatMap_eq_nil_iff]
  intro s _
  rfl

theorem literals_rebuilt (names : List String) :
    (names.map rebuildCall).flatMap Statement.literals = [] := by
  rw [List.flatMap_map, List.flatMap_eq_nil_iff]
  intro n _
  unfold rebuildCall
  rw [Statement.literals, Expr.literals_callNamed]
  rfl

/-- The statements of a module have its literals. -/
theorem literalsOf_statements {m : ModelModule} {ss : List Statement} (h : m.statements = .ok ss) :
    Statement.literalsOf ss = m.literals := by
  obtain ⟨enums, expands, data, henums, hexpands, hdata, rfl⟩ := statements_eq_ok h
  have henums' := flatMap_of_forall₂ (fun _ _ => EnumSpec.literals_statement)
    (except_mapM_eq_ok_iff.mp henums)
  have hexpands' := flatMap_of_forall₂ (fun _ _ => ClassSpec.literals_statement)
    (except_mapM_eq_ok_iff.mp hexpands)
  unfold literals
  rw [Statement.literalsOf_eq_flatMap]
  simp only [List.flatMap_append, List.flatMap_cons, Statement.literals, Expr.literals,
    Expr.literalsOfItems_eq, flatMap_text, literals_imports, literals_rebuilt, henums', hexpands',
    ClassSpec.literals_statement hdata, List.nil_append, List.append_nil, List.append_assoc,
    List.cons_append]

/-! ## Strings of the schema -/

/-- **The strings that a collection supplies** are among the literals of its module: its id and
name, the names of its fields as aliases, the values of its select fields, the names of expanded
fields, and the docstrings that quote them. -/
structure Supplied (c : Collection) (m : ModelModule) : Prop where
  id : .text c.id ∈ m.literals
  name : ∃ name, c.name = .text name ∧ .text name ∈ m.literals ∧
    .docstring ("Models for the PocketBase '" ++ name ++ "' collection.\n\n" ++ notice ++ "\n") ∈
      m.literals ∧
    .docstring ("Record of the '" ++ name ++ "' collection.") ∈ m.literals
  fields : ∀ f ∈ c.fields, ∃ raw, f.name = .text raw ∧ .text raw ∈ m.literals
  values : ∀ f ∈ c.fields, f.kind = .select →
    .docstring ("Allowed values of the '" ++ f.name.display ++ "' select field.") ∈ m.literals ∧
      ∀ v ∈ f.selectValues, .text v ∈ m.literals
  expansions : ∀ e, m.expand? = some e →
    .docstring ("Related records embedded by the 'expand' query option of '" ++ c.name.display ++
      "'.") ∈ m.literals ∧ ∀ f ∈ e.fields, .text f.rawName ∈ m.literals

variable {m : ModelModule} {l : Literal}

theorem mem_literals_data (h : l ∈ m.dataClass.literals) : l ∈ m.literals :=
  List.mem_append_right _ h

theorem mem_literals_expand {c : ClassSpec} (hc : m.expandClass? = some c) (h : l ∈ c.literals) :
    l ∈ m.literals := by
  refine List.mem_append_left _ (List.mem_append_right _ ?_)
  rw [hc]
  exact List.mem_flatMap.mpr ⟨c, List.mem_singleton_self c, h⟩

theorem mem_literals_enum {e : EnumSpec} (he : e ∈ m.enums) (h : l ∈ e.literals) :
    l ∈ m.literals :=
  List.mem_append_left _ (List.mem_append_left _ (List.mem_append_right _
    (List.mem_flatMap.mpr ⟨e, he, h⟩)))

theorem mem_literals_member {c : ClassSpec} {i : Member} (hi : i ∈ c.members) :
    .text i.rawName ∈ c.literals := by
  have hmember : .text i.rawName ∈ i.literals := List.mem_append_right _ (List.mem_singleton_self _)
  have hmembers := List.mem_flatMap.mpr ⟨i, hi, hmember⟩
  unfold ClassSpec.literals
  simp only [List.mem_append]
  exact Or.inl (Or.inl (Or.inl (Or.inr hmembers)))

theorem supplied_of_build {c : Collection} {resolver? : Option Resolver} {warnings : List String}
    (h : (build c resolver?).outcome = .ok (m, warnings)) : Supplied c m := by
  obtain ⟨name, fieldMembers, hb⟩ := build_eq_ok_iff.mp h
  have hconstants : m.dataClass.constantLiterals = [.text c.id, .text name] := by
    rw [hb.data_class]
    rfl
  have hconstant : ∀ l ∈ m.dataClass.constantLiterals, l ∈ m.literals := fun l hl => by
    refine mem_literals_data ?_
    unfold ClassSpec.literals
    simp only [List.mem_append, List.mem_cons]
    exact Or.inl (Or.inl (Or.inl (Or.inl (Or.inr hl))))
  rw [hconstants] at hconstant
  refine ⟨hconstant _ (by simp), ⟨name, hb.collection, hconstant _ (by simp), ?_, ?_⟩,
    fun f hf => ?_, fun f hf hselect => ?_, fun e he => ?_⟩
  · rw [← hb.docstring]
    exact List.mem_cons_self
  · refine mem_literals_data ?_
    rw [hb.data_class]
    exact List.mem_cons_self
  · obtain ⟨i, hi, hmade⟩ := exists_right_of_forall₂ (Logged.outcome_mapM_eq_ok_iff.mp hb.fields) hf
    obtain ⟨raw, t, hraw, -, rfl⟩ := Member.ofField_eq_ok_iff.mp hmade
    exact ⟨raw, hraw, mem_literals_data (mem_literals_member (hb.mem_members_iff.mpr (Or.inl hi)))⟩
  · obtain ⟨e, he, hfield⟩ := EnumSpec.exists_of_ofCollection hb.enums hf hselect
    have hmem : ∀ l ∈ e.literals, l ∈ m.literals := fun l hl => mem_literals_enum he hl
    refine ⟨hmem _ ?_, fun v hv => hmem _ ?_⟩
    · rw [← EnumSpec.field_of_ofField hfield]
      exact List.mem_cons_self
    · rw [← EnumSpec.values_of_ofField hfield] at hv
      obtain ⟨variant, hvariant, rfl⟩ := List.mem_map.mp hv
      unfold EnumSpec.literals
      simp only [List.mem_append, List.mem_cons, List.mem_map]
      exact Or.inl (Or.inl (Or.inr ⟨variant, hvariant, rfl⟩))
  · have hclass : m.expandClass? = some (expandClass c.name e) := by rw [hb.expand_class, he]; rfl
    refine ⟨mem_literals_expand hclass List.mem_cons_self, fun f hf => ?_⟩
    have hmember : Member.ofExpandField f ∈ (expandClass c.name e).members :=
      List.mem_map.mpr ⟨f, hf, rfl⟩
    exact mem_literals_expand hclass (mem_literals_member hmember)

/-! ## Reading back -/

/-- **The strings of a schema survive.** Every literal of a module that is written out stands in its
text with the literals before it in front and the others after it, and is read there as exactly its
text. A literal that is no docstring stays on its line, none holds a character that would be lost
when the file is read, and the strings of the collection that a module is built for are among
them. -/
theorem render_reads_back {text : String} (h : m.render = .ok text) :
    (∀ before l after, m.literals = before ++ l :: after → ∃ front rest,
      text.toList = front ++ (l.chars ++ rest) ∧ Written front before ∧ Written rest after ∧
        Source.Hint.literal false (l.chars ++ rest) = .ok (.text l.value, rest)) ∧
      (∀ s, .text s ∈ m.literals →
        ∀ d ∈ (Literal.text s).chars, Text.isLineBreak d = false) ∧
      (∀ l ∈ m.literals, '\r' ∉ l.chars ∧ Char.ofNat 0 ∉ l.chars) ∧
      ∀ c resolver? warnings, (build c resolver?).outcome = .ok (m, warnings) → Supplied c m := by
  obtain ⟨ss, hss, rfl⟩ := except_map_eq_ok_iff.mp h
  have hwritten : Written (Statement.source ss ++ "\n").toList m.literals := by
    rw [← literalsOf_statements hss]
    exact (Statement.written_source ss).code_right "\n" (by decide)
  refine ⟨fun before l after hl => ?_, fun s _ d hd => ?_, fun l _ => l.chars_kept,
    fun c resolver? warnings hbuild => supplied_of_build hbuild⟩
  · obtain ⟨front, rest, htext, hfront, hread, hrest⟩ := hwritten.reads hl
    exact ⟨front, rest, htext, hfront, hrest, hread⟩
  · exact Source.isLineBreak_of_isPrintable (Source.printable_quotedChars hd)

/-- A collection whose strings have quotes, backslashes and line breaks in them. -/
def quotes : Collection where
  id := "c'1\""
  name := .text "posts"
  fields :=
    [{ name := .text "it's \"so\"\\", kind := .text },
     { name := .text "\n'''\"\"\"", kind := .select,
       extra := .select ["\x00\r\n", "caf\u00e9\u2028", "a'\\"] }]

theorem render_reads_back_quotes : ∃ (m : ModelModule) (text : String), m.render = .ok text ∧
    .text "it's \"so\"\\" ∈ m.literals ∧ ∃ front rest,
      text.toList = front ++ ((Literal.text "it's \"so\"\\").chars ++ rest) ∧
        Source.Hint.literal false ((Literal.text "it's \"so\"\\").chars ++ rest) =
          .ok (.text "it's \"so\"\\", rest) := by
  have hrendered : ((build quotes none).outcome.toOption.map fun b =>
      b.1.render.toOption.isSome) = some true := by decide +kernel
  cases hbuild : (build quotes none).outcome with
  | error e =>
    rw [hbuild] at hrendered
    cases hrendered
  | ok built =>
    rw [hbuild] at hrendered
    have hsome := Option.some.inj hrendered
    cases hrender : built.1.render with
    | error e =>
      simp only [hrender] at hsome
      cases hsome
    | ok text =>
      obtain ⟨hreads, -, -, hsupplied⟩ := render_reads_back hrender
      obtain ⟨raw, hraw, hmem⟩ := (hsupplied quotes none built.2 hbuild).fields
        { name := .text "it's \"so\"\\", kind := .text } List.mem_cons_self
      cases hraw
      obtain ⟨before, after, hsplit⟩ := List.append_of_mem hmem
      obtain ⟨front, rest, htext, -, -, hread⟩ := hreads before _ after hsplit
      exact ⟨built.1, text, hrender, hmem, front, rest, htext, hread⟩

end ModelModule

end SchemaModels
