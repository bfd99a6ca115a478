import Mathlib.Data.List.Induction
import Mathlib.Data.List.Nodup
import Mathlib.Data.List.Sort
import Mathlib.Data.Prod.Lex
import SchemaModels.Proofs.Expansion.Permutation
import SchemaModels.Proofs.Module.Imports

/-!
# Import lists are canonical

`collect` takes up names call after call. It gives the `Canonical` list of what it is asked for, one
entry for each module that a name is asked of, with ascending names and ascending sort keys, and
there is one such list only (`Canonical.unique`). So a list of imports tells nothing of the calls
but what they ask for (`collect_eq_iff`). Every import list of a module is collected
(`collected_headImports`, `collected_relatedImports`); what it asks for does not depend on the order
of the mappings of its collection, so neither do the imports (`build_perm`). Main statement:
`imports_canonical`.
-/

namespace SchemaModels

/-- What imports are sorted by: group, then level, then module. -/
def ImportSpec.sortKey (s : ImportSpec) : Nat ×ₗ Nat ×ₗ String :=
  toLex (s.group, toLex (s.level, s.module))

namespace ImportList

variable {specs : List ImportSpec} {module module' name name' : String} {names : List String}
  {level level' : Nat}

theorem isBefore_iff_sortKey_lt {s t : ImportSpec} :
    s.isBefore t.module t.level = true ↔ s.sortKey < t.sortKey := by
  rw [isBefore_iff, ImportSpec.sortKey, ImportSpec.sortKey, Prod.Lex.toLex_lt_toLex,
    Prod.Lex.toLex_lt_toLex]
  rfl

/-! ## Canonical lists -/

/-- **The canonical list** of the names that are asked for, by level and module. -/
structure Canonical (asked : Nat → String → String → Prop) (specs : List ImportSpec) : Prop where
  /-- A module that a name is asked of has one entry, -/
  entry : ∀ level module name, asked level module name →
    ∃! s, s ∈ specs ∧ s.level = level ∧ s.module = module
  /-- and no other module has any. -/
  only : ∀ s ∈ specs, ∃ name, asked s.level s.module name
  names : ∀ s ∈ specs, ∀ name, name ∈ s.names ↔ asked s.level s.module name
  ascending : ∀ s ∈ specs, s.names.Pairwise (· < ·)
  increasing : specs.Pairwise fun s t => s.sortKey < t.sortKey

variable {asked : Nat → String → String → Prop}

/-- **Sorted entries of one list of names are equal** to those of any other. -/
theorem Canonical.unique {specs' : List ImportSpec} (h : Canonical asked specs)
    (h' : Canonical asked specs') : specs = specs' := by
  have hsub : ∀ {l l' : List ImportSpec}, Canonical asked l → Canonical asked l' → l ⊆ l' := by
    intro l l' hl hl' s hs
    obtain ⟨name, hname⟩ := hl.only s hs
    obtain ⟨t, ⟨ht, hlevel, hmodule⟩, -⟩ := hl'.entry _ _ _ hname
    have hnames : t.names = s.names :=
      (hl'.ascending t ht).eq_of_mem_iff (hl.ascending s hs) fun n => by
        rw [hl'.names t ht, hl.names s hs, hlevel, hmodule]
    obtain rfl : t = s := by
      cases t
      cases s
      simp only at hlevel hmodule hnames
      rw [hlevel, hmodule, hnames]
    exact ht
  let r : ImportSpec → ImportSpec → Prop := fun s t => s.sortKey < t.sortKey
  have hirrefl : Std.Irrefl r := ⟨fun s => lt_irrefl s.sortKey⟩
  have hantisymm : Std.Antisymm r := ⟨fun s t hst hts => absurd hts (lt_asymm hst)⟩
  exact List.Subset.antisymm_of_pairwise (r := r) h.increasing h'.increasing (hsub h h') (hsub h' h)

/-! ## Calls -/

/-- Names of one module that are asked for at once, possibly none. -/
structure Call where
  module : String
  names : List String
  level : Nat := 0

/-- The imports after calls in a row, from none. -/
def collect (calls : List Call) : List ImportSpec :=
  calls.foldl (fun specs call => add call.module call.names call.level specs) []

/-- One of the calls asks for the name. -/
def Asked (calls : List Call) (level : Nat) (module name : String) : Prop :=
  ∃ call ∈ calls, call.level = level ∧ call.module = module ∧ name ∈ call.names

variable {calls calls' : List Call}

theorem collect_concat (call : Call) : collect (calls ++ [call]) =
    add call.module call.names call.level (collect calls) := by
  unfold collect
  rw [List.foldl_append]
  rfl

theorem asked_append_iff : Asked (calls ++ calls') level module name ↔
    Asked calls level module name ∨ Asked calls' level module name := by
  simp only [Asked, List.mem_append, or_and_right, exists_or]

theorem asked_cons_iff {call : Call} : Asked (call :: calls) level module name ↔
    (call.level = level ∧ call.module = module ∧ name ∈ call.names) ∨
      Asked calls level module name :=
  List.exists_mem_cons_iff _ _ _

/-- **What is collected is what is asked for.** -/
theorem has_collect_iff :
    Has (collect calls) level module name ↔ Asked calls level module name := by
  induction calls using List.reverseRecOn with
  | nil => exact iff_of_false has_nil (by simp [Asked])
  | append_singleton calls call ih =>
    rw [collect_concat, has_add_iff, ih, asked_append_iff, asked_cons_iff]
    simp only [Asked, List.not_mem_nil, false_and, exists_false, or_false, eq_comm]
    exact or_comm

/-- What each call preserves holds of what is collected. -/
theorem collect_induction {P : List ImportSpec → Prop} (hnil : P [])
    (hadd : ∀ specs (call : Call), P specs → P (add call.module call.names call.level specs))
    (calls : List Call) : P (collect calls) := by
  induction calls using List.reverseRecOn with
  | nil => exact hnil
  | append_singleton calls call ih =>
    rw [collect_concat]
    exact hadd _ call ih

theorem ordered_collect (calls : List Call) : Ordered (collect calls) :=
  collect_induction ordered_nil (fun _ _ h => h.add) calls

theorem insertName_ne_nil : insertName name names ≠ [] :=
  List.ne_nil_of_mem (mem_insertName.mpr (Or.inl rfl))

/-- No entry stands without names. -/
def Named (specs : List ImportSpec) : Prop := ∀ s ∈ specs, s.names ≠ []

theorem Named.insert (h : Named specs) : Named (insert module level name specs) := by
  induction specs with
  | nil => simp [ImportList.insert, Named]
  | cons s specs ih =>
    obtain ⟨hs, hspecs⟩ := List.forall_mem_cons.mp h
    rw [ImportList.insert]
    split
    · exact List.forall_mem_cons.mpr ⟨insertName_ne_nil, hspecs⟩
    · split
      · exact List.forall_mem_cons.mpr ⟨hs, ih hspecs⟩
      · exact List.forall_mem_cons.mpr ⟨List.cons_ne_nil name [], h⟩

theorem Named.add (h : Named specs) : Named (add module names level specs) := by
  unfold ImportList.add
  induction names generalizing specs with
  | nil => exact h
  | cons n ns ih => exact ih h.insert

theorem named_collect (calls : List Call) : Named (collect calls) :=
  collect_induction (fun _ hs => absurd hs List.not_mem_nil) (fun _ _ h => h.add) calls

/-- Entries of one module in an ordered list are one. -/
theorem Ordered.eq_of_mem (h : Ordered specs) {s t : ImportSpec} (hs : s ∈ specs) (ht : t ∈ specs)
    (hlevel : s.level = t.level) (hmodule : s.module = t.module) : s = t := by
  have hnodup : (specs.map ImportSpec.sortKey).Nodup :=
    List.pairwise_map.mpr (h.modules.imp fun hst => (isBefore_iff_sortKey_lt.mp hst).ne)
  refine List.inj_on_of_nodup_map hnodup hs ht ?_
  rw [ImportSpec.sortKey, ImportSpec.sortKey, ImportSpec.group, ImportSpec.group, hlevel, hmodule]

/-- **What is collected is canonical.** -/
theorem canonical_collect (calls : List Call) : Canonical (Asked calls) (collect calls) where
  entry level module name hasked := by
    obtain ⟨s, hs, hlevel, hmodule, -⟩ := has_collect_iff.mpr hasked
    refine ⟨s, ⟨hs, hlevel, hmodule⟩, ?_⟩
    rintro t ⟨ht, hlevel', hmodule'⟩
    exact (ordered_collect calls).eq_of_mem ht hs (hlevel'.trans hlevel.symm)
      (hmodule'.trans hmodule.symm)
  only s hs := by
    obtain ⟨name, hname⟩ := List.exists_mem_of_ne_nil _ (named_collect calls s hs)
    exact ⟨name, has_collect_iff.mp ⟨s, hs, rfl, rfl, hname⟩⟩
  names s hs name := by
    rw [← has_collect_iff]
    refine ⟨fun hname => ⟨s, hs, rfl, rfl, hname⟩, ?_⟩
    rintro ⟨t, ht, hlevel, hmodule, hname⟩
    rwa [← (ordered_collect calls).eq_of_mem ht hs hlevel hmodule]
  ascending := (ordered_collect calls).names
  increasing := (ordered_collect calls).modules.imp isBefore_iff_sortKey_lt.mp

/-- **Calls collect one list** just if they ask for the same names. -/
theorem collect_eq_iff : collect calls = collect calls' ↔
    ∀ level module name, Asked calls level module name ↔ Asked calls' level module name := by
  constructor
  · intro h level module name
    rw [← has_collect_iff, ← has_collect_iff, h]
  · intro h
    have hsame : Asked calls = Asked calls' :=
      funext fun l => funext fun m => funext fun n => propext (h l m n)
    exact (canonical_collect calls).unique (hsame ▸ canonical_collect calls')

/-- **How names are asked for makes no difference.** -/
structure OrderFree (calls : List Call) : Prop where
  canonical : Canonical (Asked calls) (collect calls)
  unique : ∀ specs, Canonical (Asked calls) specs → specs = collect calls
  determined : ∀ calls', (∀ level module name,
    Asked calls' level module name ↔ Asked calls level module name) → collect calls' = collect calls
  reordered : ∀ calls', calls'.Perm calls → collect calls' = collect calls
  repeated : ∀ call ∈ calls, collect (call :: calls) = collect calls
  split : ∀ before after module level names names',
    calls = before ++ ⟨module, names ++ names', level⟩ :: after →
      collect (before ++ ⟨module, names, level⟩ :: ⟨module, names', level⟩ :: after) = collect calls
  /-- Calls without names leave no trace. -/
  unnamed : ∀ module level, collect (⟨module, [], level⟩ :: calls) = collect calls

theorem orderFree (calls : List Call) : OrderFree calls where
  canonical := canonical_collect calls
  unique _ hspecs := hspecs.unique (canonical_collect calls)
  determined _ h := collect_eq_iff.mpr h
  reordered calls' hperm := collect_eq_iff.mpr fun level module name =>
    exists_congr fun call => and_congr_left fun _ => hperm.mem_iff
  repeated call hcall := collect_eq_iff.mpr fun level module name => by
    rw [asked_cons_iff, or_iff_right_iff_imp]
    exact fun h => ⟨call, hcall, h⟩
  split before after module level names names' heq :=
    collect_eq_iff.mpr fun level' module' name => by
    rw [heq]
    simp only [asked_append_iff, asked_cons_iff, List.mem_append]
    tauto
  unnamed module level := collect_eq_iff.mpr fun level' module' name => by
    rw [asked_cons_iff, or_iff_right_iff_imp]
    rintro ⟨-, -, hname⟩
    exact absurd hname List.not_mem_nil

example : collect [⟨"typing", ["Optional"], 0⟩, ⟨"user_data", ["UserData"], 1⟩, ⟨"enum", [], 0⟩,
      ⟨"typing", ["Any", "Optional"], 0⟩] =
    [⟨"typing", ["Any", "Optional"], 0⟩, ⟨"user_data", ["UserData"], 1⟩] := by decide +kernel

/-! ## The imports of a module -/

/-- The list is collected by some calls. -/
def Collected (specs : List ImportSpec) : Prop := ∃ calls, specs = collect calls

theorem collected_nil : Collected [] := ⟨[], rfl⟩

theorem Collected.add (h : Collected specs) : Collected (add module names level specs) := by
  obtain ⟨calls, rfl⟩ := h
  exact ⟨calls ++ [⟨module, names, level⟩], (collect_concat ⟨module, names, level⟩).symm⟩

/-- Collected lists are equal if they have the same names. -/
theorem Collected.eq_of_has {specs' : List ImportSpec} (h : Collected specs) (h' : Collected specs')
    (hhas : ∀ level module name, Has specs level module name ↔ Has specs' level module name) :
    specs = specs' := by
  obtain ⟨calls, rfl⟩ := h
  obtain ⟨calls', rfl⟩ := h'
  simp only [has_collect_iff] at hhas
  exact collect_eq_iff.mpr hhas

end ImportList

namespace ModelModule

open ImportList (Collected Call Has OrderFree collect collected_nil orderFree)
open Resolver (SameMembers resolve_perm)

variable {specs : List ImportSpec} {c : Collection} {r : Resolver}

theorem collected_hintImports {dataClass : String} {names : List String} (h : Collected specs) :
    Collected (hintImports dataClass names specs) := by
  unfold hintImports
  simp only
  split
  · split
    · exact h.add.add.add
    · exact h.add.add
  · split
    · exact h.add.add
    · exact h.add

/-- The imports at the head of a module are collected. -/
theorem collected_headImports {dataClass : ClassSpec} {enums : List EnumSpec}
    {expandClass? : Option ClassSpec} (h : headImports dataClass enums expandClass? = .ok specs) :
    Collected specs := by
  unfold headImports at h
  obtain ⟨es, -, h⟩ := except_bind_eq_ok_iff.mp h
  simp only [Except.ok.injEq] at h
  subst h
  exact List.foldlRecOn es _ collected_nil.add.add.add.add fun specs hspecs e _ =>
    collected_hintImports hspecs

/-- The import of the class that a member of an expansion refers to. -/
def related (f : ExpandField) : Call := ⟨f.targetModule, [f.targetType], 1⟩

/-- The imports at the end of a module are collected, member after member. -/
theorem collected_relatedImports (expand? : Option ExpandSpec) :
    relatedImports expand? = collect ((relatedFields expand?).map related) := by
  cases expand? with
  | none => rfl
  | some e =>
    unfold collect
    rw [List.foldl_map]
    rfl

/-! ## Mappings in another order -/

variable {expand? expand?' : Option ExpandSpec}

theorem relatedImports_eq (h : Option.Rel SameMembers expand? expand?') :
    relatedImports expand?' = relatedImports expand? := by
  rw [collected_relatedImports, collected_relatedImports]
  cases h with
  | none => rfl
  | some h => exact (orderFree _).reordered _ ((h.fields.symm.filter _).map related)

theorem dataMembers_eq (h : Option.Rel SameMembers expand? expand?') (fieldMembers : List Member) :
    dataMembers fieldMembers expand?' = dataMembers fieldMembers expand? := by
  cases h with
  | none => rfl
  | some h =>
    unfold dataMembers
    rw [Option.map_some, Option.map_some, Member.expand, Member.expand, h.name]

theorem isSome_eq {α : Type} (h : Option.Rel SameMembers expand? expand?') (f : ExpandSpec → α) :
    (expand?.map f).isSome = (expand?'.map f).isSome := by
  cases h with
  | none => rfl
  | some h => rfl

theorem hints_perm (h : Option.Rel SameMembers expand? expand?') (collection : Json)
    (dataClass : ClassSpec) : (hints dataClass (expand?.map (expandClass collection))).Perm
      (hints dataClass (expand?'.map (expandClass collection))) := by
  cases h with
  | none => exact List.Perm.refl _
  | some h => exact ((h.fields.map _).append_left _).map _

/-- Classes with the same hints need the same imports. -/
theorem headImports_perm {dataClass : ClassSpec} {enums : List EnumSpec}
    {expandClass? expandClass?' : Option ClassSpec}
    (hperm : (hints dataClass expandClass?).Perm (hints dataClass expandClass?'))
    (hsome : expandClass?.isSome = expandClass?'.isSome)
    (h : headImports dataClass enums expandClass? = .ok specs) :
    headImports dataClass enums expandClass?' = .ok specs := by
  obtain ⟨specs', h'⟩ : ∃ specs', headImports dataClass enums expandClass?' = .ok specs' := by
    unfold headImports at h ⊢
    obtain ⟨es, hes, -⟩ := except_bind_eq_ok_iff.mp h
    have hparse : ∀ m ∈ dataClass.members ++ (expandClass?'.map (·.members)).getD [],
        ∃ e, Source.Hint.parse m.hint = .ok e := by
      intro m hm
      obtain ⟨m', hm', hhint⟩ :=
        List.mem_map.mp (hperm.mem_iff.mpr (List.mem_map_of_mem (f := (·.hint)) hm))
      obtain ⟨e, -, he⟩ := exists_right_of_forall₂ (except_mapM_eq_ok_iff.mp hes) hm'
      exact ⟨e, hhint ▸ he⟩
    obtain ⟨es', hes'⟩ := exists_mapM_eq_ok hparse
    exact ⟨_, except_bind_eq_ok_iff.mpr ⟨es', hes', rfl⟩⟩
  rw [h', (collected_headImports h').eq_of_has (collected_headImports h)
    fun level module name => ?_]
  rw [has_headImports_iff h', has_headImports_iff h, BaseNeeds, BaseNeeds, hsome]
  exact or_congr_right (exists_congr fun hint => and_congr_left fun _ => hperm.symm.mem_iff)

/-- The module of a collection imports the same, whatever the order of its mappings. -/
def ImportsAlike (r : Resolver) (c : Collection) : Prop :=
  ∀ mappings, r.mappings.Perm mappings → ∀ m ws, (build c (some r)).outcome = .ok (m, ws) →
    ∃ m' ws', (build c (some { r with mappings })).outcome = .ok (m', ws') ∧
      m'.imports = m.imports ∧ m'.deferredImports = m.deferredImports

theorem build_perm (r : Resolver) (c : Collection) : ImportsAlike r c := by
  intro mappings hperm m ws hbuild
  obtain ⟨name, fieldMembers, h⟩ := build_eq_ok_iff.mp hbuild
  obtain ⟨expand?', ws', hresolve, hrel⟩ := resolve_perm (c := c) hperm h.expanded
  have hmembers := dataMembers_eq hrel fieldMembers
  have himports : headImports m.dataClass m.enums (expand?'.map (expandClass c.name)) =
      .ok m.imports := by
    have himports := h.imports
    rw [h.expand_class] at himports
    exact headImports_perm (hints_perm hrel c.name m.dataClass) (isSome_eq hrel _) himports
  let m' : ModelModule :=
    { m with
      expand? := expand?'
      expandClass? := expand?'.map (expandClass c.name)
      deferredImports := relatedImports expand?' }
  refine ⟨m', ws', build_eq_ok_iff.mpr ⟨name, fieldMembers, ?_⟩, rfl, ?_⟩
  · exact
      { h with
        expanded := hresolve
        members_distinct := hmembers ▸ h.members_distinct
        data_class := by rw [hmembers]; exact h.data_class
        expand_class := rfl
        imports := himports
        deferred := rfl }
  · exact (relatedImports_eq hrel).trans h.deferred.symm

/-- **Import lists are canonical**, and those of a module do not depend on the order of its
mappings. -/
theorem imports_canonical (calls : List Call) (r : Resolver) (c : Collection) :
    OrderFree calls ∧ ImportsAlike r c :=
  ⟨orderFree calls, build_perm r c⟩

end ModelModule

end SchemaModels
