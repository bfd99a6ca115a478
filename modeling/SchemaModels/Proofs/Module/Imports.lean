import Mathlib.Data.List.Nodup
import Mathlib.Data.String.Basic
import SchemaModels.Module
import SchemaModels.Proofs.Task

/-!
# The imports of a module

`Has specs level module name` says that a list of imports takes a name from a module. Adding names
adds just these (`has_add_iff`), so `has_headImports_iff` and `has_relatedImports_iff` say which
names a module imports at its head and at its end. `Ordered` is the order in which imports are kept:
every module stands once, and so does every name of it (`Ordered.nodup`).
-/

namespace SchemaModels.ImportList

variable {specs : List ImportSpec} {module module' name name' : String} {level level' : Nat}

/-! ## What is imported -/

/-- The imports take the name from the module that many packages up. -/
def Has (specs : List ImportSpec) (level : Nat) (module name : String) : Prop :=
  ∃ s ∈ specs, s.level = level ∧ s.module = module ∧ name ∈ s.names

theorem has_nil : ¬ Has [] level module name := by
  rintro ⟨s, hs, -⟩
  cases hs

theorem has_cons {s : ImportSpec} : Has (s :: specs) level module name ↔
    (s.level = level ∧ s.module = module ∧ name ∈ s.names) ∨ Has specs level module name := by
  simp [Has]

theorem mem_insertName {names : List String} :
    name' ∈ insertName name names ↔ name' = name ∨ name' ∈ names := by
  induction names with
  | nil => simp [insertName]
  | cons n ns ih =>
    rw [insertName]
    split
    · rename_i heq
      rw [heq]
      simp
    · split
      · rw [List.mem_cons]
      · rw [List.mem_cons, ih, List.mem_cons]
        exact or_left_comm

theorem has_insert_iff : Has (insert module level name specs) level' module' name' ↔
    (level' = level ∧ module' = module ∧ name' = name) ∨ Has specs level' module' name' := by
  have hnew : ∀ rest, Has (⟨module, [name], level⟩ :: rest) level' module' name' ↔
      (level' = level ∧ module' = module ∧ name' = name) ∨ Has rest level' module' name' := by
    intro rest
    rw [has_cons, List.mem_singleton]
    exact or_congr_left ⟨fun ⟨h₁, h₂, h₃⟩ => ⟨h₁.symm, h₂.symm, h₃⟩,
      fun ⟨h₁, h₂, h₃⟩ => ⟨h₁.symm, h₂.symm, h₃⟩⟩
  induction specs with
  | nil => exact hnew []
  | cons s specs ih =>
    rw [insert]
    split
    · rename_i hkey
      rw [has_cons, has_cons]
      simp only [mem_insertName, hkey.1, hkey.2]
      constructor
      · rintro (⟨h₁, h₂, h₃ | h₃⟩ | h)
        · exact Or.inl ⟨h₁.symm, h₂.symm, h₃⟩
        · exact Or.inr (Or.inl ⟨h₁, h₂, h₃⟩)
        · exact Or.inr (Or.inr h)
      · rintro (⟨h₁, h₂, h₃⟩ | ⟨h₁, h₂, h₃⟩ | h)
        · exact Or.inl ⟨h₁.symm, h₂.symm, Or.inl h₃⟩
        · exact Or.inl ⟨h₁, h₂, Or.inr h₃⟩
        · exact Or.inr h
    · split
      · rw [has_cons, has_cons]
        exact (or_congr_right ih).trans or_left_comm
      · exact hnew (s :: specs)

/-- **Adding names adds just these.** -/
theorem has_add_iff {names : List String} :
    Has (add module names level specs) level' module' name' ↔
    (level' = level ∧ module' = module ∧ name' ∈ names) ∨ Has specs level' module' name' := by
  unfold add
  induction names generalizing specs with
  | nil => simp
  | cons n ns ih =>
    rw [List.foldl_cons, ih, has_insert_iff, List.mem_cons]
    tauto

theorem has_ite_add_iff {c : Prop} [Decidable c] {names : List String} :
    Has (if c then add module names level specs else specs) level' module' name' ↔
      (c ∧ level' = level ∧ module' = module ∧ name' ∈ names) ∨ Has specs level' module' name' := by
  by_cases hc : c
  · rw [if_pos hc, has_add_iff]
    simp [hc]
  · rw [if_neg hc]
    simp [hc]

/-! ## Their order -/

/-- Imports by group, level and module, each once, with ascending names. -/
structure Ordered (specs : List ImportSpec) : Prop where
  modules : specs.Pairwise fun s t => s.isBefore t.module t.level = true
  names : ∀ s ∈ specs, s.names.Pairwise (· < ·)

theorem isBefore_iff {s : ImportSpec} : s.isBefore module level = true ↔
    s.group < ImportSpec.groupOf module level ∨ s.group = ImportSpec.groupOf module level ∧
      (s.level < level ∨ s.level = level ∧ s.module < module) := by
  simp [ImportSpec.isBefore]

theorem isBefore_trans {s t : ImportSpec} (h₁ : s.isBefore t.module t.level = true)
    (h₂ : t.isBefore module level = true) : s.isBefore module level = true := by
  rw [isBefore_iff] at *
  have ht : ImportSpec.groupOf t.module t.level = t.group := rfl
  rw [ht] at h₁
  rcases h₁ with h₁ | ⟨h₁, h₁'⟩
  · rcases h₂ with h₂ | ⟨h₂, -⟩
    · exact Or.inl (by omega)
    · exact Or.inl (by omega)
  · rcases h₂ with h₂ | ⟨h₂, h₂'⟩
    · exact Or.inl (by omega)
    · refine Or.inr ⟨by omega, ?_⟩
      rcases h₁' with h₁' | ⟨h₁', hm⟩
      · rcases h₂' with h₂' | ⟨h₂', -⟩
        · exact Or.inl (by omega)
        · exact Or.inl (by omega)
      · rcases h₂' with h₂' | ⟨h₂', hm'⟩
        · exact Or.inl (by omega)
        · exact Or.inr ⟨by omega, lt_trans hm hm'⟩

/-- Imports of two modules stand one before the other. -/
theorem isBefore_total {s : ImportSpec} (hkey : ¬ (s.module = module ∧ s.level = level))
    (h : ¬ s.isBefore module level = true) {names : List String} :
    (⟨module, names, level⟩ : ImportSpec).isBefore s.module s.level = true := by
  rw [isBefore_iff] at *
  have hs : ImportSpec.groupOf s.module s.level = s.group := rfl
  have hnew : (⟨module, names, level⟩ : ImportSpec).group = ImportSpec.groupOf module level := rfl
  rw [hs, hnew]
  simp only [not_or, not_and, not_lt] at h
  by_cases hg : s.group = ImportSpec.groupOf module level
  · refine Or.inr ⟨hg.symm, ?_⟩
    obtain ⟨hl, hm⟩ := h.2 hg
    by_cases hlevel : s.level = level
    · refine Or.inr ⟨hlevel.symm, ?_⟩
      exact lt_of_le_of_ne (hm hlevel) fun he => hkey ⟨he.symm, hlevel⟩
    · exact Or.inl (lt_of_le_of_ne hl (Ne.symm hlevel))
  · exact Or.inl (lt_of_le_of_ne h.1 (Ne.symm hg))

theorem not_isBefore_self (s : ImportSpec) : ¬ s.isBefore s.module s.level = true := by
  rw [isBefore_iff]
  have hs : ImportSpec.groupOf s.module s.level = s.group := rfl
  rw [hs]
  simp

theorem insertName_pairwise {names : List String} (h : names.Pairwise (· < ·)) :
    (insertName name names).Pairwise (· < ·) := by
  induction names with
  | nil => simp [insertName]
  | cons n ns ih =>
    obtain ⟨hn, hns⟩ := List.pairwise_cons.mp h
    rw [insertName]
    split
    · exact h
    · rename_i hne
      split
      · rename_i hlt
        refine List.pairwise_cons.mpr ⟨fun m hm => ?_, h⟩
        rcases List.mem_cons.mp hm with rfl | hm
        · exact hlt
        · exact lt_trans hlt (hn m hm)
      · rename_i hlt
        refine List.pairwise_cons.mpr ⟨fun m hm => ?_, ih hns⟩
        rcases mem_insertName.mp hm with rfl | hm
        · exact lt_of_le_of_ne (not_lt.mp hlt) (Ne.symm hne)
        · exact hn m hm

/-- Every entry is that of a module which was there, or of the new one. -/
theorem mem_insert {s : ImportSpec} (h : s ∈ insert module level name specs) :
    (s.module = module ∧ s.level = level) ∨
      ∃ t ∈ specs, s.module = t.module ∧ s.level = t.level := by
  induction specs with
  | nil =>
    rw [insert, List.mem_singleton] at h
    rw [h]
    exact Or.inl ⟨rfl, rfl⟩
  | cons t specs ih =>
    rw [insert] at h
    split at h
    · rename_i hkey
      rcases List.mem_cons.mp h with rfl | h
      · exact Or.inl hkey
      · exact Or.inr ⟨s, List.mem_cons_of_mem t h, rfl, rfl⟩
    · split at h
      · rcases List.mem_cons.mp h with rfl | h
        · exact Or.inr ⟨s, List.mem_cons_self, rfl, rfl⟩
        · refine (ih h).imp_right ?_
          rintro ⟨u, hu, hkey⟩
          exact ⟨u, List.mem_cons_of_mem t hu, hkey⟩
      · rcases List.mem_cons.mp h with rfl | h
        · exact Or.inl ⟨rfl, rfl⟩
        · exact Or.inr ⟨s, h, rfl, rfl⟩

theorem Ordered.tail {s : ImportSpec} (h : Ordered (s :: specs)) : Ordered specs :=
  ⟨(List.pairwise_cons.mp h.modules).2, fun t ht => h.names t (List.mem_cons_of_mem s ht)⟩

theorem Ordered.cons {s : ImportSpec} (h : Ordered specs)
    (hbefore : ∀ t ∈ specs, s.isBefore t.module t.level = true) (hs : s.names.Pairwise (· < ·)) :
    Ordered (s :: specs) :=
  ⟨List.pairwise_cons.mpr ⟨hbefore, h.modules⟩, List.forall_mem_cons.mpr ⟨hs, h.names⟩⟩

theorem Ordered.insert (h : Ordered specs) : Ordered (insert module level name specs) := by
  induction specs with
  | nil => exact h.cons (by simp) (List.pairwise_singleton _ _)
  | cons s specs ih =>
    have hs := (List.pairwise_cons.mp h.modules).1
    rw [ImportList.insert]
    split
    · exact h.tail.cons hs (insertName_pairwise (h.names s List.mem_cons_self))
    · rename_i hkey
      split
      · rename_i hbefore
        refine (ih h.tail).cons (fun t ht => ?_) (h.names s List.mem_cons_self)
        rcases mem_insert ht with ⟨hm, hl⟩ | ⟨u, hu, hm, hl⟩
        · rw [hm, hl]
          exact hbefore
        · rw [hm, hl]
          exact hs u hu
      · rename_i hbefore
        have hnew := @isBefore_total _ _ s hkey hbefore [name]
        refine h.cons (fun t ht => ?_) (List.pairwise_singleton _ _)
        rcases List.mem_cons.mp ht with rfl | ht
        · exact hnew
        · exact isBefore_trans hnew (hs t ht)

theorem ordered_nil : Ordered [] := ⟨List.Pairwise.nil, by simp⟩

/-- **Adding keeps the order.** -/
theorem Ordered.add {names : List String} (h : Ordered specs) :
    Ordered (add module names level specs) := by
  unfold ImportList.add
  induction names generalizing specs with
  | nil => exact h
  | cons n ns ih => exact ih h.insert

/-! ## Every name once -/

/-- Every imported name with the level and the module that it is taken from. -/
def entries (specs : List ImportSpec) : List (Nat × String × String) :=
  specs.flatMap fun s => s.names.map fun n => (s.level, s.module, n)

theorem mem_entries_iff : (level, module, name) ∈ entries specs ↔ Has specs level module name := by
  unfold entries Has
  rw [List.mem_flatMap]
  constructor
  · rintro ⟨s, hs, h⟩
    obtain ⟨n, hn, heq⟩ := List.mem_map.mp h
    simp only [Prod.mk.injEq] at heq
    obtain ⟨hl, hm, rfl⟩ := heq
    exact ⟨s, hs, hl, hm, hn⟩
  · rintro ⟨s, hs, rfl, rfl, hn⟩
    exact ⟨s, hs, List.mem_map.mpr ⟨name, hn, rfl⟩⟩

/-- **Ordered imports take every name once** from a module. -/
theorem Ordered.nodup (h : Ordered specs) : (entries specs).Nodup := by
  induction specs with
  | nil => exact List.nodup_nil
  | cons s specs ih =>
    have hs := (List.pairwise_cons.mp h.modules).1
    have hsplit : entries (s :: specs) =
        (s.names.map fun n => (s.level, s.module, n)) ++ entries specs := List.flatMap_cons
    rw [hsplit, List.nodup_append]
    refine ⟨?_, ih h.tail, ?_⟩
    · refine List.Nodup.map (fun m n hmn => ?_) ((h.names s List.mem_cons_self).imp ne_of_lt)
      simp only [Prod.mk.injEq, true_and] at hmn
      exact hmn
    · rintro ⟨l, m, n⟩ hsn ⟨l', m', n'⟩ hother heq
      rw [← heq, mem_entries_iff] at hother
      obtain ⟨k, -, hkey⟩ := List.mem_map.mp hsn
      obtain ⟨t, ht, hl, hm, -⟩ := hother
      simp only [Prod.mk.injEq] at hkey
      have hbefore := hs t ht
      rw [hl, hm, ← hkey.1, ← hkey.2.1] at hbefore
      exact not_isBefore_self s hbefore

end SchemaModels.ImportList

namespace SchemaModels.ModelModule

open ImportList (Has Ordered has_add_iff has_ite_add_iff has_nil)

variable {specs : List ImportSpec} {module name : String} {level : Nat}

/-! ## The head of a module -/

/-- What the names of a hint make a module import. -/
def HintNeeds (dataClass : String) (names : List String) (level : Nat)
    (module name : String) : Prop :=
  name ∈ names ∧ ((level = 0 ∧ module = "typing" ∧ name ∈ typingNames) ∨
    (level = 0 ∧ module = "datetime" ∧ name = "datetime") ∨
    (level = 1 ∧ module = "geo_point_data" ∧ name = "GeoPointData" ∧ dataClass ≠ "GeoPointData"))

theorem has_hintImports_iff {dataClass : String} {names : List String} :
    Has (hintImports dataClass names specs) level module name ↔
      HintNeeds dataClass names level module name ∨ Has specs level module name := by
  unfold hintImports HintNeeds
  simp only [has_ite_add_iff, has_add_iff, List.mem_filter, List.contains_iff_mem,
    Bool.and_eq_true, bne_iff_ne, List.mem_singleton]
  constructor
  · rintro (⟨⟨hn, hd⟩, hl, hm, rfl⟩ | ⟨hn, hl, hm, rfl⟩ | ⟨hl, hm, ht, hn⟩ | h)
    · exact Or.inl ⟨hn, Or.inr (Or.inr ⟨hl, hm, rfl, hd⟩)⟩
    · exact Or.inl ⟨hn, Or.inr (Or.inl ⟨hl, hm, rfl⟩)⟩
    · exact Or.inl ⟨hn, Or.inl ⟨hl, hm, ht⟩⟩
    · exact Or.inr h
  · rintro (⟨hn, ⟨hl, hm, ht⟩ | ⟨hl, hm, rfl⟩ | ⟨hl, hm, rfl, hd⟩⟩ | h)
    · exact Or.inr (Or.inr (Or.inl ⟨hl, hm, ht, hn⟩))
    · exact Or.inr (Or.inl ⟨hn, hl, hm, rfl⟩)
    · exact Or.inl ⟨⟨hn, hd⟩, hl, hm, rfl⟩
    · exact Or.inr (Or.inr (Or.inr h))

theorem ordered_hintImports {dataClass : String} {names : List String} (h : Ordered specs) :
    Ordered (hintImports dataClass names specs) := by
  unfold hintImports
  simp only
  split
  · split
    · exact h.add.add.add
    · exact h.add.add
  · split
    · exact h.add.add
    · exact h.add

/-- The names of hints are taken up one hint after the other. -/
theorem has_foldl_hintImports_iff {dataClass : String} {es : List Source.Expr} :
    Has (es.foldl (fun acc e => hintImports dataClass e.names acc) specs) level module name ↔
      Has specs level module name ∨ ∃ e ∈ es, HintNeeds dataClass e.names level module name := by
  induction es generalizing specs with
  | nil => simp
  | cons e es ih =>
    rw [List.foldl_cons, ih, has_hintImports_iff, List.exists_mem_cons_iff]
    tauto

theorem ordered_foldl_hintImports {dataClass : String} {es : List Source.Expr} (h : Ordered specs) :
    Ordered (es.foldl (fun acc e => hintImports dataClass e.names acc) specs) := by
  induction es generalizing specs with
  | nil => exact h
  | cons e es ih => exact ih (ordered_hintImports h)

/-- What every module imports, and what its classes make it import beside the names of hints. -/
def BaseNeeds (dataClass : ClassSpec) (enums : List EnumSpec) (expandClass? : Option ClassSpec)
    (level : Nat) (module name : String) : Prop :=
  level = 0 ∧ ((module = "__future__" ∧ name = "annotations") ∨
    (module = "pydantic" ∧ (name ∈ ["BaseModel", "ConfigDict", "Field"] ∨
      name = "field_validator" ∧ dataClass.blankMembers ≠ [])) ∨
    (module = "enum" ∧ name = "Enum" ∧ enums ≠ []) ∨
    (module = "typing" ∧ (name ∈ ["Any", "Dict"] ∨
      name = "ClassVar" ∧ dataClass.collectionName?.isSome ∨
      name = "Optional" ∧ expandClass?.isSome)))

/-- The hints of a module's classes. -/
def hints (dataClass : ClassSpec) (expandClass? : Option ClassSpec) : List String :=
  (dataClass.members ++ (expandClass?.map (·.members)).getD []).map (·.hint)

/-- **What a module imports at its head.** -/
theorem has_headImports_iff {dataClass : ClassSpec} {enums : List EnumSpec}
    {expandClass? : Option ClassSpec} (h : headImports dataClass enums expandClass? = .ok specs) :
    Has specs level module name ↔ BaseNeeds dataClass enums expandClass? level module name ∨
      ∃ hint ∈ hints dataClass expandClass?, ∃ e, Source.Hint.parse hint = .ok e ∧
        HintNeeds dataClass.name e.names level module name := by
  unfold headImports at h
  obtain ⟨es, hes, h⟩ := except_bind_eq_ok_iff.mp h
  simp only [Except.ok.injEq] at h
  subst h
  rw [has_foldl_hintImports_iff]
  refine or_congr ?_ ?_
  · rw [has_add_iff, has_add_iff, has_add_iff, has_add_iff, or_iff_left has_nil]
    unfold BaseNeeds
    simp only [List.mem_append, List.mem_ite_nil_left, List.mem_ite_nil_right, List.mem_singleton,
      List.isEmpty_iff]
    tauto
  · rw [exists_mem_iff_of_forall₂ (except_mapM_eq_ok_iff.mp hes)]
    simp only [hints, List.mem_map, exists_exists_and_eq_and]

theorem ordered_headImports {dataClass : ClassSpec} {enums : List EnumSpec}
    {expandClass? : Option ClassSpec} (h : headImports dataClass enums expandClass? = .ok specs) :
    Ordered specs := by
  unfold headImports at h
  obtain ⟨es, -, h⟩ := except_bind_eq_ok_iff.mp h
  simp only [Except.ok.injEq] at h
  subst h
  exact ordered_foldl_hintImports ImportList.ordered_nil.add.add.add.add

/-! ## The end of a module -/

/-- The members of an expansion that refer to other modules. -/
def relatedFields (expand? : Option ExpandSpec) : List ExpandField :=
  (expand?.map fun e => e.fields.filter (!·.isSelfReference)).getD []

theorem has_foldl_related_iff {fields : List ExpandField} :
    Has (fields.foldl (fun acc f => ImportList.add f.targetModule [f.targetType] 1 acc) specs) level
        module name ↔
      Has specs level module name ∨
        ∃ f ∈ fields, level = 1 ∧ module = f.targetModule ∧ name = f.targetType := by
  induction fields generalizing specs with
  | nil => simp
  | cons f fields ih =>
    rw [List.foldl_cons, ih, has_add_iff, List.exists_mem_cons_iff, List.mem_singleton]
    tauto

theorem ordered_foldl_related {fields : List ExpandField} (h : Ordered specs) :
    Ordered (fields.foldl (fun acc f => ImportList.add f.targetModule [f.targetType] 1 acc)
      specs) := by
  induction fields generalizing specs with
  | nil => exact h
  | cons f fields ih => exact ih h.add

/-- **What a module imports at its end.** -/
theorem has_relatedImports_iff {expand? : Option ExpandSpec} :
    Has (relatedImports expand?) level module name ↔
      ∃ f ∈ relatedFields expand?, level = 1 ∧ module = f.targetModule ∧ name = f.targetType := by
  cases expand? with
  | none => simp [relatedImports, relatedFields, has_nil]
  | some e =>
    have h := @has_foldl_related_iff [] module name level (e.fields.filter (!·.isSelfReference))
    rw [or_iff_right has_nil] at h
    exact h

theorem ordered_relatedImports (expand? : Option ExpandSpec) :
    Ordered (relatedImports expand?) := by
  cases expand? with
  | none => exact ImportList.ordered_nil
  | some e => exact ordered_foldl_related ImportList.ordered_nil

end SchemaModels.ModelModule
