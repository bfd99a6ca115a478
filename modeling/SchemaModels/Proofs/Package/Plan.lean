import Mathlib.Data.List.Nodup
import SchemaModels.Package.Plan
import SchemaModels.Proofs.Naming.Characters
import SchemaModels.Proofs.Task

/-!
# A plan gives every collection a module of its own

`plan_eq_ok_iff`: planning succeeds iff all names are texts, no two get one module name, and none
gets the name of a module that every package has; the plan then lists the names in input order.
-/

namespace SchemaModels.Package

open Naming (moduleName)

variable {planned result : List (Json × String)} {names : List Json}

/-- A planned collection. -/
def place (name : String) : Json × String := (.text name, moduleName name)

/-- The texts have module names that are free: none is a fixed module's or in the list, and no two
are the same. -/
structure Free (taken : List String) (texts : List String) : Prop where
  fixed : ∀ s ∈ texts, fixedModule? (moduleName s) = none
  new : ∀ s ∈ texts, moduleName s ∉ taken
  distinct : (texts.map moduleName).Nodup

theorem free_nil (taken : List String) : Free taken [] :=
  ⟨by simp, by simp, by simp⟩

theorem free_cons_iff {taken texts : List String} {s : String} :
    Free taken (s :: texts) ↔ fixedModule? (moduleName s) = none ∧ moduleName s ∉ taken ∧
      Free (taken ++ [moduleName s]) texts := by
  constructor
  · rintro ⟨hf, hn, hd⟩
    rw [List.map_cons, List.nodup_cons] at hd
    refine ⟨hf s List.mem_cons_self, hn s List.mem_cons_self,
      fun t ht => hf t (List.mem_cons_of_mem s ht), fun t ht => ?_, hd.2⟩
    rw [List.mem_append, List.mem_singleton, not_or]
    refine ⟨hn t (List.mem_cons_of_mem s ht), fun he => hd.1 ?_⟩
    rw [← he]
    exact List.mem_map_of_mem ht
  · rintro ⟨hf, hn, h⟩
    have hnew : ∀ t ∈ texts, moduleName t ∉ taken ∧ moduleName t ≠ moduleName s := fun t ht => by
      have := h.new t ht
      rw [List.mem_append, List.mem_singleton, not_or] at this
      exact this
    refine ⟨List.forall_mem_cons.mpr ⟨hf, h.fixed⟩,
      List.forall_mem_cons.mpr ⟨hn, fun t ht => (hnew t ht).1⟩, ?_⟩
    rw [List.map_cons, List.nodup_cons]
    refine ⟨fun hm => ?_, h.distinct⟩
    obtain ⟨t, ht, he⟩ := List.mem_map.mp hm
    exact (hnew t ht).2 he

theorem moduleNameOf_eq_ok_iff {name : Json} {m : String} :
    Naming.moduleNameOf name = .ok m ↔ ∃ s, name = .text s ∧ m = moduleName s := by
  cases name <;> simp [Naming.moduleNameOf, Naming.expectText, Functor.map, Except.map, eq_comm]

theorem planFrom_eq_ok_iff :
    planFrom planned names = .ok result ↔ ∃ texts, names = texts.map Json.text ∧
      result = planned ++ texts.map place ∧ Free (planned.map (·.2)) texts := by
  induction names generalizing planned with
  | nil =>
    rw [planFrom]
    constructor
    · intro h
      cases h
      exact ⟨[], rfl, by simp, free_nil _⟩
    · rintro ⟨texts, ht, rfl, -⟩
      rw [List.map_eq_nil_iff.mp ht.symm]
      simp
  | cons name rest ih =>
    rw [planFrom, except_bind_eq_ok_iff]
    constructor
    · rintro ⟨m, hm, h⟩
      obtain ⟨s, rfl, rfl⟩ := moduleNameOf_eq_ok_iff.mp (ofFault_eq_ok_iff.mp hm)
      split at h
      · cases h
      · cases h
      · rename_i hfixed hfind
        obtain ⟨texts, rfl, rfl, hfree⟩ := ih.mp h
        refine ⟨s :: texts, rfl, by simp [place], free_cons_iff.mpr ⟨hfixed, ?_, ?_⟩⟩
        · intro hmem
          obtain ⟨e, he, hes⟩ := List.mem_map.mp hmem
          exact List.find?_eq_none.mp hfind e he (by simpa using hes)
        · simpa using hfree
    · rintro ⟨texts, ht, rfl, hfree⟩
      cases texts with
      | nil => cases ht
      | cons s texts =>
        rw [List.map_cons, List.cons.injEq] at ht
        obtain ⟨rfl, rfl⟩ := ht
        obtain ⟨hfixed, hnew, hfree⟩ := free_cons_iff.mp hfree
        refine ⟨moduleName s, ofFault_eq_ok_iff.mpr rfl, ?_⟩
        have hfind : planned.find? (·.2 == moduleName s) = none := by
          rw [List.find?_eq_none]
          intro e he hes
          exact hnew (List.mem_map.mpr ⟨e, he, by simpa using hes⟩)
        rw [hfixed, hfind]
        exact ih.mpr ⟨texts, rfl, by simp [place], by simpa using hfree⟩

/-- **Planning succeeds** iff the names are texts whose module names are free and distinct. -/
theorem plan_eq_ok_iff : plan names = .ok result ↔
    ∃ texts, names = texts.map Json.text ∧ result = texts.map place ∧ Free [] texts := by
  rw [plan, planFrom_eq_ok_iff]
  rfl

/-- A module name that no fixed module has. -/
theorem fixedModule?_eq_none_iff {m : String} :
    fixedModule? m = none ↔ m ≠ FixedModule.geoPoint.name ∧ m ≠ FixedModule.aggregator.name := by
  unfold fixedModule? FixedModule.all
  rw [List.find?_eq_none]
  constructor
  · intro h
    exact ⟨fun he => h .geoPoint (by simp) (by simp [he]),
      fun he => h .aggregator (by simp) (by simp [he])⟩
  · rintro ⟨hg, ha⟩ x -
    cases x with
    | geoPoint => simpa using Ne.symm hg
    | aggregator => simpa using Ne.symm ha

end SchemaModels.Package
