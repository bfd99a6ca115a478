import Mathlib.Data.List.Induction
import SchemaModels.Module.GeoPoint
import SchemaModels.Package.Aggregator
import SchemaModels.Proofs.Module.Scope

/-!
# What a package offers

`exporters` lists the modules that define a name. The tally of owners has an entry for each name
that is defined, with its owners in order (`owners_eq`), if no module defines a name twice
(`nodup_exports`). So a package offers a name from the one module that defines it, and warns once
about each name that several define (`planExports_eq`).
-/

namespace SchemaModels.Package

variable {modules : List ModelModule} {name : String}

/-- The modules that define a name, in order. -/
def exporters (modules : List ModelModule) (name : String) : List String :=
  (modules.filter (·.exports.contains name)).map (·.name)

/-! ## The tally -/

/-- The owners of a name among pairs of a name and an owner. -/
def ownersAmong (pairs : List (String × String)) (name : String) : List String :=
  (pairs.filter (·.1 == name)).map (·.2)

theorem ownersAmong_concat (pairs : List (String × String)) (n m k : String) :
    ownersAmong (pairs ++ [(n, m)]) k =
      if k = n then ownersAmong pairs k ++ [m] else ownersAmong pairs k := by
  unfold ownersAmong
  rw [List.filter_append, List.map_append]
  by_cases hk : k = n
  · simp [hk]
  · simp [hk, Ne.symm hk]

/-- Adding an owner goes to the entry of the name, or makes one at the end. -/
theorem addOwner_map (f : String → List String) (m n : String) {keys : List String}
    (hkeys : keys.Nodup) (hn : n ∉ keys → f n = []) :
    addOwner m n (keys.map fun k => (k, f k)) =
      (if n ∈ keys then keys else keys ++ [n]).map fun k =>
        (k, if k = n then f k ++ [m] else f k) := by
  induction keys with
  | nil => simp [addOwner, hn]
  | cons k keys ih =>
    obtain ⟨hk, hkeys⟩ := List.nodup_cons.mp hkeys
    rw [List.map_cons, addOwner]
    by_cases hkn : k = n
    · subst hkn
      have hrest : keys.map (fun j => (j, if j = k then f j ++ [m] else f j)) =
          keys.map fun j => (j, f j) :=
        List.map_congr_left fun j hj => by rw [if_neg fun hjk : j = k => hk (hjk ▸ hj)]
      rw [if_pos rfl, if_pos List.mem_cons_self, List.map_cons, if_pos rfl, hrest]
    · have hmem : n ∈ k :: keys ↔ n ∈ keys := by simp [Ne.symm hkn]
      rw [if_neg hkn, ih hkeys fun hnot => hn fun h => hnot (hmem.mp h)]
      simp only [hmem]
      split
      · rw [List.map_cons, if_neg hkn]
      · rw [List.cons_append, List.map_cons, if_neg hkn]

/-- **The tally of pairs**: each name that occurs, once, with its owners in order. -/
def IsTally (pairs : List (String × String)) (tally : List (String × List String)) : Prop :=
  ∃ keys : List String, keys.Nodup ∧ (∀ n, n ∈ keys ↔ ownersAmong pairs n ≠ []) ∧
    tally = keys.map fun n => (n, ownersAmong pairs n)

theorem isTally_nil : IsTally [] [] := ⟨[], List.nodup_nil, by simp [ownersAmong], rfl⟩

/-- One more pair is added to the tally. -/
theorem IsTally.add {pairs : List (String × String)} {tally : List (String × List String)}
    (h : IsTally pairs tally) (n m : String) :
    IsTally (pairs ++ [(n, m)]) (addOwner m n tally) := by
  obtain ⟨keys, hkeys, hmem, rfl⟩ := h
  have hnone : n ∉ keys → ownersAmong pairs n = [] := fun hn => by
    by_contra hne
    exact hn ((hmem n).mpr hne)
  refine ⟨if n ∈ keys then keys else keys ++ [n], ?_, fun k => ?_, ?_⟩
  · split
    · exact hkeys
    · rename_i hn
      rw [List.nodup_append]
      refine ⟨hkeys, List.nodup_singleton n, fun a ha b hb hab => hn ?_⟩
      rw [← List.mem_singleton.mp hb, ← hab]
      exact ha
  · rw [ownersAmong_concat]
    by_cases hk : k = n
    · subst hk
      simp only [if_true]
      split <;> simp_all
    · rw [if_neg hk, ← hmem k]
      split
      · rfl
      · simp [hk]
  · rw [addOwner_map _ m n hkeys hnone]
    simp only [ownersAmong_concat]

theorem isTally_foldl (pairs : List (String × String)) :
    IsTally pairs (pairs.foldl (fun tally p => addOwner p.2 p.1 tally) []) := by
  induction pairs using List.reverseRecOn with
  | nil => exact isTally_nil
  | append_singleton pairs p ih =>
    rw [List.foldl_append]
    exact ih.add p.1 p.2

/-! ## The owners of exported names -/

/-- The names that modules define, each with its module. -/
def definitions (modules : List ModelModule) : List (String × String) :=
  modules.flatMap fun m => m.exports.map fun n => (n, m.name)

theorem isTally_owners (modules : List ModelModule) :
    IsTally (definitions modules) (owners modules) := by
  have h := isTally_foldl (definitions modules)
  unfold definitions at h ⊢
  rw [List.foldl_flatMap] at h
  simp only [List.foldl_map] at h
  exact h

/-- The owners of a name are the modules that define it, if none defines it twice. -/
theorem ownersAmong_definitions (h : ∀ m ∈ modules, m.exports.Nodup) (name : String) :
    ownersAmong (definitions modules) name = exporters modules name := by
  induction modules with
  | nil => rfl
  | cons m modules ih =>
    obtain ⟨hm, hmodules⟩ := List.forall_mem_cons.mp h
    have hrest := ih hmodules
    unfold ownersAmong definitions exporters at *
    rw [List.flatMap_cons, List.filter_append, List.map_append, hrest, List.filter_map,
      List.map_map]
    have hown : m.exports.filter ((fun p : String × String => p.1 == name) ∘ fun n => (n, m.name)) =
        if name ∈ m.exports then [name] else [] := by
      have hcount : m.exports.filter (· == name) = _ := List.filter_beq name
      split
      · rename_i hmem
        rw [List.count_eq_one_of_mem hm hmem] at hcount
        exact hcount
      · rename_i hmem
        rw [List.count_eq_zero_of_not_mem hmem] at hcount
        exact hcount
    rw [hown, List.filter_cons]
    by_cases hmem : name ∈ m.exports
    · simp [hmem]
    · simp [hmem]

/-- A name is offered iff one module alone defines it. -/
theorem isOwn_owners (h : ∀ m ∈ modules, m.exports.Nodup) (name : String) :
    isOwn (owners modules) name = decide ((exporters modules name).length = 1) := by
  obtain ⟨keys, hkeys, hmem, hsplit⟩ := isTally_owners modules
  rw [← ownersAmong_definitions h name]
  unfold isOwn
  rw [hsplit]
  by_cases hname : name ∈ keys
  · rw [List.lookup_graph _ hname]
    simp [Bool.beq_eq_decide_eq]
  · have hnone : ownersAmong (definitions modules) name = [] := by
      by_contra hne
      exact hname ((hmem name).mpr hne)
    have hlookup : (keys.map fun n => (n, ownersAmong (definitions modules) n)).lookup name =
        none := by
      rw [List.lookup_eq_none_iff]
      simp only [List.forall_mem_map]
      intro k hk
      rw [bne_iff_ne]
      rintro rfl
      exact hname hk
    rw [hlookup, hnone]
    rfl

/-- **What a package offers, and what it warns about**: from each module the names that it alone
defines; one warning for each name that several modules define, with all of them. -/
theorem planExports_eq (h : ∀ m ∈ modules, m.exports.Nodup) : ∃ shared : List String,
    shared.Nodup ∧ (∀ n, n ∈ shared ↔ 1 < (exporters modules n).length) ∧
      planExports modules =
        (modules.map fun m =>
          (m.name, m.exports.filter fun n => decide ((exporters modules n).length = 1)),
         shared.map fun n => sharedNameWarning n (exporters modules n)) := by
  obtain ⟨keys, hkeys, hmem, hsplit⟩ := isTally_owners modules
  refine ⟨keys.filter fun n => decide (1 < (exporters modules n).length), hkeys.filter _,
    fun n => ?_, ?_⟩
  · rw [List.mem_filter, decide_eq_true_eq, hmem, ownersAmong_definitions h]
    refine and_iff_right_of_imp fun hlt hnil => ?_
    rw [hnil] at hlt
    exact absurd hlt (by decide)
  · have hown := funext (isOwn_owners h)
    unfold planExports
    simp only [hown]
    simp only [hsplit, List.filter_map, List.map_map,
      funext (ownersAmong_definitions h)]
    rfl

/-! ## The modules of a run -/

/-- **The modules of a run**: one for each collection, and that of geographic points after them. -/
def RunModules (r : Resolver) (cs : List Collection) (modules : List ModelModule) : Prop :=
  ∃ built point,
    List.Forall₂ (fun c m => ∃ ws, (ModelModule.build c (some r)).outcome = .ok (m, ws)) cs built ∧
      ModelModule.geoPoint = .ok point ∧ modules = built ++ [point]

open ModelModule (EndsIn)

/-- The name ends as those of classes do. -/
def NamesClass (name : String) : Prop :=
  EndsIn name "Data" ∨ EndsIn name "DataExpand" ∨ EndsIn name "Enum"

theorem endsIn_append (s suffix : String) : EndsIn (s ++ suffix) suffix := by
  unfold EndsIn
  rw [String.toList_append]
  exact List.suffix_append _ _

/-- Class names do not end as module names do. -/
theorem NamesClass.not_endsIn (h : NamesClass name) : ¬ EndsIn name "_data" := by
  have hapart : ∀ {suffix : String}, EndsIn name suffix → EndsIn name "_data" →
      suffix.toList <:+ "_data".toList ∨ "_data".toList <:+ suffix.toList :=
    fun h h' => List.suffix_or_suffix_of_suffix h h'
  rcases h with h | h | h
  · exact fun h' => absurd (hapart h h') (by decide)
  · exact fun h' => absurd (hapart h h') (by decide)
  · exact fun h' => absurd (hapart h h') (by decide)

theorem namesClass_of_build {c : Collection} {resolver? : Option Resolver} {collection : String}
    {fieldMembers : List Member} {m : ModelModule} {warnings : List String}
    (h : ModelModule.BuiltFrom c resolver? collection fieldMembers m warnings) {n : String}
    (hn : n ∈ m.exports) : NamesClass n := by
  rcases (ModelModule.mem_exports_iff h).mp hn with ⟨e, he, rfl⟩ | ⟨e, he, rfl⟩ | rfl
  · obtain ⟨f, -, raw, -, hraw⟩ :=
      exists_left_of_forall₂ (EnumSpec.forall₂_of_ofCollection h.enums) he
    obtain ⟨x, -, heq, -⟩ := Naming.enumTypeName_eq raw
    rw [hraw, heq]
    exact Or.inr (Or.inr (endsIn_append _ _))
  · rw [(h.expand_fields he).1, Naming.typeName_eq]
    exact Or.inr (Or.inl (endsIn_append _ _))
  · rw [h.data_class]
    exact Or.inl (endsIn_append _ _)

theorem geoPoint_exports {m : ModelModule} (h : ModelModule.geoPoint = .ok m) :
    m.exports = ["GeoPointData"] ∧ m.name = "geo_point_data" := by
  unfold ModelModule.geoPoint at h
  obtain ⟨imports, -, h⟩ := except_bind_eq_ok_iff.mp h
  cases h
  exact ⟨rfl, rfl⟩

/-- **What the modules of a run define**: no name twice, and all names end as those of classes,
while the modules have names of their own kind. -/
theorem RunModules.defined {r : Resolver} {cs : List Collection} (h : RunModules r cs modules)
    {m : ModelModule} (hm : m ∈ modules) :
    m.exports.Nodup ∧ (∀ n ∈ m.exports, NamesClass n) ∧ EndsIn m.name "_data" := by
  obtain ⟨built, point, hbuilt, hpoint, rfl⟩ := h
  rcases List.mem_append.mp hm with hm | hm
  · obtain ⟨c, -, ws, hbuild⟩ := exists_left_of_forall₂ hbuilt hm
    obtain ⟨collection, fieldMembers, hb⟩ := ModelModule.build_eq_ok_iff.mp hbuild
    refine ⟨ModelModule.nodup_exports hb, fun n hn => namesClass_of_build hb hn, ?_⟩
    rw [hb.module_name]
    exact endsIn_append _ _
  · obtain ⟨hexports, hname⟩ := geoPoint_exports hpoint
    rw [List.mem_singleton.mp hm, hexports, hname]
    refine ⟨List.nodup_singleton _, fun n hn => ?_, by decide⟩
    rw [List.mem_singleton.mp hn]
    exact Or.inl (by decide)

end SchemaModels.Package
