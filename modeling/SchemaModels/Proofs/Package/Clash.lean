import SchemaModels.Proofs.Naming.Snake
import SchemaModels.Proofs.Package.Plan

/-!
# Collections that clash

Planning goes through the collections in order and stops at the first one whose module is taken: by
a module that every package has, or by an earlier collection (`Clash`). So it succeeds just if the
collections are `Apart`, and otherwise those before the one that it stops at are
(`planFrom_eq_error`). The files of a plan are as different as its modules, even to a system that
takes no notice of the case of letters (`nodup_lower_fileName`), since their names are in lower
case.
-/

namespace SchemaModels.Package

open Naming (moduleName fileName)

variable {names : List String} {planned : List (Json × String)} {s : String} {e : Failure}
  {p : Problem}

/-- **Collections that get a module each**: no two have one module name, and none has that of a
module which every package has. -/
structure Apart (names : List String) : Prop where
  distinct : (names.map moduleName).Nodup
  new : ∀ s ∈ names, moduleName s ≠ "geo_point_data" ∧ moduleName s ≠ "__init__"

theorem apart_iff_free : Apart names ↔ Free [] names := by
  constructor
  · rintro ⟨hdistinct, hnew⟩
    exact ⟨fun s hs => fixedModule?_eq_none_iff.mpr (hnew s hs), by simp, hdistinct⟩
  · rintro ⟨hfixed, -, hdistinct⟩
    exact ⟨hdistinct, fun s hs => fixedModule?_eq_none_iff.mp (hfixed s hs)⟩

/-- **What is told of a collection that clashes** with those before it. -/
inductive Clash (before : List String) (s : String) : Problem → Prop
  /-- Its module is one that every package has. -/
  | fixed {m : FixedModule} (taken : moduleName s = m.name)
      (told : (Problem.reservedModule (.text s) (moduleName s) m).report.message =
        s!"Collection '{s}' would overwrite {m.description} ({fileName s})") :
      Clash before s (.reservedModule (.text s) (moduleName s) m)
  /-- Its module is that of an earlier collection. -/
  | shared {owner : String} (earlier : owner ∈ before) (taken : moduleName owner = moduleName s)
      (told : (Problem.sharedModule (.text owner) (.text s) (moduleName s)).report.message =
        s!"Collections '{owner}' and '{s}' both map to {fileName s}") :
      Clash before s (.sharedModule (.text owner) (.text s) (moduleName s))

theorem clash_fixed {before : List String} {m : FixedModule}
    (h : fixedModule? (moduleName s) = some m) :
    Clash before s (.reservedModule (.text s) (moduleName s) m) := by
  unfold fixedModule? at h
  have hname := List.find?_some h
  refine .fixed (beq_iff_eq.mp hname).symm ?_
  rw [← String.toList_inj]
  simp [Problem.report, Report.make, Problem.inQuotes, Json.display, fileName, toString]

theorem clash_shared {before : List String} {owner : String} (hmem : owner ∈ before)
    (h : moduleName owner = moduleName s) :
    Clash before s (.sharedModule (.text owner) (.text s) (moduleName s)) := by
  refine .shared hmem h ?_
  rw [← String.toList_inj]
  simp [Problem.report, Report.make, Problem.inQuotes, Json.display, fileName, toString]

/-! ## The first clash -/

/-- **Where planning stops**: at a collection whose module is taken, when all before it are
planned. -/
theorem planFrom_eq_error (owners : List String)
    (h : planFrom (owners.map place) (names.map .text) = .error e) :
    ∃ before s after p, names = before ++ s :: after ∧ Free (owners.map moduleName) before ∧
      Clash (owners ++ before) s p ∧ e = .problem p := by
  induction names generalizing owners with
  | nil => cases h
  | cons s names ih =>
    rw [List.map_cons, planFrom, except_bind_eq_error_iff] at h
    obtain h | ⟨m, hm, h⟩ := h
    · cases h
    obtain ⟨s', hs', rfl⟩ := moduleNameOf_eq_ok_iff.mp (ofFault_eq_ok_iff.mp hm)
    obtain rfl : s = s' := Json.text.inj hs'
    split at h
    · rename_i m hfixed
      cases h
      exact ⟨[], s, names, _, rfl, free_nil _, clash_fixed hfixed, rfl⟩
    · rename_i owner _ hfixed hfind
      cases h
      obtain ⟨o, ho, hplace⟩ := List.mem_map.mp (List.mem_of_find?_eq_some hfind)
      have htaken := List.find?_some hfind
      cases hplace
      exact ⟨[], s, names, _, rfl, free_nil _,
        clash_shared (List.mem_append_left _ ho) (beq_iff_eq.mp htaken), rfl⟩
    · rename_i hfixed hfind
      have hplaced : owners.map place ++ [(Json.text s, moduleName s)] =
          (owners ++ [s]).map place := by
        rw [List.map_append]
        rfl
      rw [hplaced] at h
      obtain ⟨before, t, after, p, rfl, hfree, hclash, rfl⟩ := ih _ h
      rw [List.map_append] at hfree
      rw [List.append_assoc] at hclash
      refine ⟨s :: before, t, after, p, rfl,
        free_cons_iff.mpr ⟨hfixed, fun hmem => ?_, hfree⟩, hclash, rfl⟩
      obtain ⟨o, ho, htaken⟩ := List.mem_map.mp hmem
      exact List.find?_eq_none.mp hfind (place o) (List.mem_map_of_mem ho)
        (beq_iff_eq.mpr htaken)

/-! ## Files -/

/-- **Files of modules that differ** differ in more than the case of letters. -/
theorem nodup_lower_fileName (h : (names.map moduleName).Nodup) :
    (names.map fun s => Text.lower (fileName s)).Nodup := by
  have hfiles : (names.map fun s => Text.lower (fileName s)) =
      (names.map moduleName).map (· ++ ".py") := by
    rw [List.map_map]
    exact List.map_congr_left fun s _ => Naming.lower_fileName s
  rw [hfiles]
  refine h.map fun m n heq => ?_
  have htexts := congrArg String.toList heq
  rw [String.toList_append, String.toList_append] at htexts
  exact String.toList_inj.mp (List.append_cancel_right htexts)

/-! ## Plans -/

/-- **What planning comes to.** -/
structure Planned (names : List String) (o : Outcome (List (Json × String))) : Prop where
  succeeds : (∃ plan, o = .ok plan) ↔ Apart names
  /-- Each collection has its module name, in order. -/
  listed : ∀ plan, o = .ok plan → plan = names.map fun s => (.text s, moduleName s)
  /-- The files differ, also if the case of letters does not count. -/
  files : ∀ plan, o = .ok plan → (names.map fun s => Text.lower (fileName s)).Nodup
  /-- The first collection that clashes is told, and which it clashes with. -/
  clash : ∀ e, o = .error e → ∃ before s after p, names = before ++ s :: after ∧ Apart before ∧
    Clash before s p ∧ e = .problem p

theorem planned_plan (names : List String) : Planned names (plan (names.map .text)) := by
  have hok : ∀ result, plan (names.map .text) = .ok result ↔
      result = names.map place ∧ Apart names := by
    intro result
    have hinjective : Function.Injective Json.text := fun _ _ => Json.text.inj
    rw [plan_eq_ok_iff, apart_iff_free]
    constructor
    · rintro ⟨texts, htexts, rfl, hfree⟩
      obtain rfl := hinjective.list_map htexts
      exact ⟨rfl, hfree⟩
    · rintro ⟨rfl, hfree⟩
      exact ⟨names, rfl, rfl, hfree⟩
  refine ⟨?succeeds, ?listed, ?files, ?clash⟩
  case succeeds => simp [hok]
  case listed => exact fun result h => ((hok result).mp h).1
  case files => exact fun result h => nodup_lower_fileName ((hok result).mp h).2.distinct
  case clash =>
    intro e h
    obtain ⟨before, s, after, p, hsplit, hfree, hclash, he⟩ := planFrom_eq_error [] h
    exact ⟨before, s, after, p, hsplit, apart_iff_free.mpr hfree, hclash, he⟩

/-- **File planning is injective and complete.** Snake case is idempotent, a module name is its own
lower-case form, and any collections are planned just if they are apart, in files that are apart
without regard to case; otherwise the first clash is told. -/
theorem plan_apart : (∀ s, Naming.snakeCase (Naming.snakeCase s) = Naming.snakeCase s) ∧
    (∀ s, Text.lower (moduleName s) = moduleName s) ∧
      ∀ names, Planned names (plan (names.map .text)) :=
  ⟨Naming.snakeCase_snakeCase, Naming.lower_moduleName, planned_plan⟩

end SchemaModels.Package
