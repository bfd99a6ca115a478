import SchemaModels.Proofs.Expansion.Exchange
import SchemaModels.Proofs.Expansion.Resolution

/-!
# Mappings in another order

Which mappings a walk gets through does not depend on their order: they are made of texts, no two of
them clash, and a strict resolver has a model for each target (`admits_of_members`). Nor does what
it makes of them, a member for each (`members_of_admits`). So a resolver with its mappings in
another order resolves the same collections, to the same members in another order: `resolve_perm`.
-/

namespace SchemaModels.Resolver

open Mapping (Textual Meets Clashes)
open Naming (memberName)

variable {r : Resolver} {c : Collection} {sourceModule : String} {m : Mapping}
  {ms passed : List Mapping} {seen : List (Mapping × String)}

theorem Passable.subset {ms' : List Mapping} (h : Passable ms) (hs : ms' ⊆ ms) : Passable ms' where
  textual m hm := h.textual m (hs hm)
  apart m hm n hn := h.apart m (hs hm) n (hs hn)

/-- A strict resolver takes a mapping just if its target has a model. -/
def Takes (r : Resolver) (m : Mapping) : Prop :=
  r.strict = true → isAmong r.emitted m.target = true

theorem takes_iff {target : String} (ht : m.target = .text target) :
    (∃ ws, (r.check c m).outcome = .ok ws) ↔ r.Takes m := by
  obtain ⟨field, hfield⟩ := outcome_check r c m
  rw [hfield, checkTarget_text ht]
  unfold Takes
  by_cases hemitted : isAmong r.emitted m.target = true
  · rw [if_pos hemitted]
    exact iff_of_true ⟨field, rfl⟩ fun _ => hemitted
  · rw [if_neg hemitted]
    by_cases hstrict : r.strict = true
    · rw [if_pos hstrict]
      refine iff_of_false ?_ fun h => hemitted (h hstrict)
      rintro ⟨ws, hws⟩
      cases hws
    · rw [if_neg hstrict]
      exact iff_of_true ⟨_, rfl⟩ fun h => absurd h hstrict

theorem asks_iff {raw target : String} {f : ExpandField} (hraw : m.field = .text raw)
    (ht : m.target = .text target) : Asks sourceModule m f ↔
      f = member sourceModule (memberName raw) raw target m.isSingle := by
  refine ⟨?_, fun h => ⟨raw, target, hraw, ht, h⟩⟩
  rintro ⟨raw', target', hraw', ht', h⟩
  rw [hraw, Json.text.injEq] at hraw'
  rw [ht, Json.text.injEq] at ht'
  rw [h, hraw', ht']

/-! ## The walk -/

/-- **A walk gets through** mappings of texts that do not clash, if the resolver takes them, and
makes a member of each that it has not passed before. -/
theorem members_of_admits (c : Collection) (sourceModule : String) (h : Seen passed seen)
    (hpassable : Passable (passed ++ ms)) (htakes : ∀ m ∈ ms, r.Takes m) : ∃ fields ws,
      (r.members c sourceModule seen ms).outcome = .ok (fields, ws) ∧
        ∀ f, f ∈ fields ↔ ∃ m ∈ ms, m ∉ passed ∧ Asks sourceModule m f := by
  induction ms generalizing passed seen with
  | nil => exact ⟨[], [], rfl, by simp⟩
  | cons m ms ih =>
    obtain ⟨htake, htakes⟩ := List.forall_mem_cons.mp htakes
    have hmem : m ∈ passed ++ m :: ms := List.mem_append_right _ List.mem_cons_self
    by_cases hm : m ∈ passed
    · obtain ⟨fields, ws, hrest, hfields⟩ := ih h
        (hpassable.subset ((List.sublist_cons_self m ms).append_left passed).subset) htakes
      refine ⟨fields, [repetitionWarning c m] ++ ws, ?_, fun f => ?_⟩
      · rw [members_repeated h hm]
        refine Logged.outcome_bind_eq_ok.mpr ⟨_, outcome_warn _, ?_⟩
        exact Logged.outcome_bind_eq_ok.mpr ⟨_, hrest, rfl⟩
      · rw [hfields, List.exists_mem_cons_iff, or_iff_right fun hno => hno.1 hm]
    · have htextual := hpassable.textual m hmem
      have hfresh : ∀ n ∈ passed, ¬ n.Meets m := fun n hn hmeets =>
        hm (hpassable.eq_of_meets (List.mem_append_left _ hn) hmem hmeets ▸ hn)
      obtain ⟨raw, hraw⟩ := htextual.field
      obtain ⟨target, ht⟩ := htextual.target
      obtain ⟨ws, hws⟩ := (takes_iff (c := c) ht).mpr htake
      rw [List.append_cons] at hpassable
      obtain ⟨fields, more, hrest, hfields⟩ := ih (h.new htextual hraw hfresh) hpassable htakes
      refine ⟨member sourceModule (memberName raw) raw target m.isSingle :: fields, ws ++ more, ?_,
        fun f => ?_⟩
      · rw [members_new h hraw ht hfresh]
        refine Logged.outcome_bind_eq_ok.mpr ⟨ws, hws, ?_⟩
        exact Logged.outcome_bind_eq_ok.mpr ⟨_, hrest, rfl⟩
      · rw [List.mem_cons, hfields, ← asks_iff hraw ht]
        constructor
        · rintro (hasks | ⟨n, hn, hnew, hasks⟩)
          · exact ⟨m, List.mem_cons_self, hm, hasks⟩
          · exact ⟨n, List.mem_cons_of_mem m hn, fun hn => hnew (List.mem_append_left _ hn), hasks⟩
        · rintro ⟨n, hn, hnew, hasks⟩
          rcases List.mem_cons.mp hn with rfl | hn
          · exact Or.inl hasks
          · by_cases heq : n = m
            · exact Or.inl (heq ▸ hasks)
            · exact Or.inr ⟨n, hn, by simp [hnew, heq], hasks⟩

/-- What is remembered is like itself alone. -/
theorem Seen.mem_of_same (h : Seen passed seen) {e : Mapping × String} (he : e ∈ seen)
    (hsame : e.1.same m = true) : m ∈ passed := by
  obtain ⟨hpassed, -⟩ := h.known e he
  rw [(h.passable.textual _ hpassed).same_iff.mp hsame]
  exact hpassed

/-- **What a walk gets through** is made of texts, does not clash and is taken. -/
theorem admits_of_members {x : List ExpandField × List String} (h : Seen passed seen)
    (hsource : ∀ m ∈ ms, ∃ s, m.source = .text s)
    (hok : (r.members c sourceModule seen ms).outcome = .ok x) :
    Passable (passed ++ ms) ∧ ∀ m ∈ ms, m ∉ passed → r.Takes m := by
  induction ms generalizing passed seen x with
  | nil =>
    rw [List.append_nil]
    exact ⟨h.passable, by simp⟩
  | cons m ms ih =>
    obtain ⟨hs, hsource⟩ := List.forall_mem_cons.mp hsource
    obtain ⟨ws, more, -, ⟨e, he, hsame, hrest⟩ |
      ⟨raw, target, rest, hraw, ht, hcheck, hother, -, hrest⟩⟩ := members_cons_eq_ok hok
    · have hm : m ∈ passed := h.mem_of_same he hsame
      obtain ⟨hpassable, htakes⟩ := ih h hsource hrest
      have hsub : passed ++ m :: ms ⊆ passed ++ ms :=
        List.append_subset.mpr ⟨List.subset_append_left _ _, List.cons_subset.mpr
          ⟨List.mem_append_left _ hm, List.subset_append_right _ _⟩⟩
      exact ⟨hpassable.subset hsub, List.forall_mem_cons.mpr ⟨(absurd hm ·), htakes⟩⟩
    · have hfresh : ∀ n ∈ passed, ¬ n.Meets m := by
        have hnone : seen.find? (·.2 == memberName raw) = none :=
          List.find?_eq_none.mpr fun e he => by simpa using hother e he
        exact fun n hn => h.not_meets hraw hnone hn
      obtain ⟨hpassable, htakes⟩ :=
        ih (h.new ⟨hs, ⟨raw, hraw⟩, ⟨target, ht⟩⟩ hraw hfresh) hsource hrest
      have htake : r.Takes m := (takes_iff ht).mp ⟨ws, hcheck⟩
      rw [← List.append_cons] at hpassable
      refine ⟨hpassable, List.forall_mem_cons.mpr ⟨fun _ => htake, fun n hn hnew => ?_⟩⟩
      by_cases heq : n = m
      · exact heq ▸ htake
      · exact htakes n hn (by simp [hnew, heq])

/-- **A walk in another order** gets through just as well, to the same members in another order. -/
theorem members_perm {r' : Resolver} {ms' : List Mapping} {fields : List ExpandField}
    {ws : List String} (hstrict : r.strict = r'.strict) (hemitted : r.emitted = r'.emitted)
    (hperm : ms.Perm ms') (hsource : ∀ m ∈ ms, ∃ s, m.source = .text s)
    (hok : (r.members c sourceModule [] ms).outcome = .ok (fields, ws)) :
    ∃ fields' ws', (r'.members c sourceModule [] ms').outcome = .ok (fields', ws') ∧
      fields.Perm fields' := by
  obtain ⟨hpassable, htakes⟩ := admits_of_members seen_nil hsource hok
  have htakes : ∀ m ∈ ms, r.Takes m := fun m hm => htakes m hm List.not_mem_nil
  have hsame : ∀ m, r.Takes m ↔ r'.Takes m := fun m => by unfold Takes; rw [hstrict, hemitted]
  have hpassable' : Passable ([] ++ ms') := hpassable.subset hperm.symm.subset
  have htakes' : ∀ m ∈ ms', r'.Takes m := fun m hm =>
    (hsame m).mp (htakes m (hperm.mem_iff.mpr hm))
  obtain ⟨fields₁, ws₁, hok₁, hfields⟩ :=
    members_of_admits c sourceModule seen_nil hpassable htakes
  obtain ⟨fields', ws', hok', hfields'⟩ :=
    members_of_admits c sourceModule seen_nil hpassable' htakes'
  rw [hok, Except.ok.injEq, Prod.mk.injEq] at hok₁
  obtain ⟨rfl, rfl⟩ := hok₁
  refine ⟨fields', ws', hok', ?_⟩
  rw [List.perm_ext_iff_of_nodup (List.Nodup.of_map _ (distinct_of_members hok).1)
    (List.Nodup.of_map _ (distinct_of_members hok').1)]
  intro f
  rw [hfields, hfields']
  exact exists_congr fun m => and_congr_left fun _ => hperm.mem_iff

/-! ## Resolutions -/

/-- Companion classes of one name, with the same members. -/
structure SameMembers (e e' : ExpandSpec) : Prop where
  name : e.name = e'.name
  collection : e.collection = e'.collection
  fields : e.fields.Perm e'.fields

/-- What resolves has a text for its name, or no mappings and no companion class. -/
theorem name_of_resolve {x : Option ExpandSpec × List String}
    (hok : (r.resolve c).outcome = .ok x) :
    (∃ name, c.name = .text name) ∨ r.mappingsFor c.name = [] ∧ x = (none, []) := by
  unfold resolve at hok
  obtain ⟨key, hkey, hok⟩ := Logged.outcome_bind_eq_ok.mp hok
  obtain rfl := lookupKey_eq_ok (ofFault_eq_ok_iff.mp hkey)
  simp only at hok
  split at hok
  · rename_i hnil
    rw [Logged.outcome_pure, Except.ok.injEq] at hok
    exact Or.inr ⟨hnil, hok.symm⟩
  · obtain ⟨name, hname, -⟩ := Logged.outcome_bind_eq_ok.mp hok
    exact Or.inl ⟨name, Naming.expectText_eq_ok_iff.mp (ofFault_eq_ok_iff.mp hname)⟩

/-- Without mappings for a collection the others make no difference. -/
theorem resolve_eq_of_nil {r' : Resolver} (h : r.mappingsFor c.name = [])
    (h' : r'.mappingsFor c.name = []) : r.resolve c = r'.resolve c := by
  unfold resolve
  cases hkey : lookupKey c.name with
  | error f => rfl
  | ok key =>
    obtain rfl := lookupKey_eq_ok hkey
    simp only [Logged.ofChecked_ok, pure_bind, h, h']

/-- **A resolver with its mappings in another order** resolves a collection just as well, to a
companion class with the same members. -/
theorem resolve_perm {mappings : List Mapping} {expand? : Option ExpandSpec} {ws : List String}
    (hperm : r.mappings.Perm mappings) (hok : (r.resolve c).outcome = .ok (expand?, ws)) :
    ∃ expand?' ws', ({ r with mappings }.resolve c).outcome = .ok (expand?', ws') ∧
      Option.Rel SameMembers expand? expand?' := by
  let r' : Resolver := { r with mappings }
  have hfor : (r.mappingsFor c.name).Perm (r'.mappingsFor c.name) := hperm.filter _
  by_cases hnil : r.mappingsFor c.name = []
  · have hnil' : r'.mappingsFor c.name = [] := (hnil ▸ hfor).nil_eq.symm
    have hnone : expand? = none := by
      rcases name_of_resolve hok with ⟨name, hname⟩ | ⟨-, hx⟩
      · rw [resolve_absent hname hnil] at hok
        cases hok
        rfl
      · exact congrArg Prod.fst hx
    rw [resolve_eq_of_nil hnil hnil'] at hok
    exact ⟨expand?, ws, hok, hnone ▸ .none⟩
  · have hnil' : r'.mappingsFor c.name ≠ [] := fun h => hnil (h ▸ hfor).eq_nil
    obtain ⟨name, hname⟩ := (name_of_resolve hok).resolve_right fun h => hnil h.1
    rw [resolve_present hname hnil] at hok
    obtain ⟨⟨fields, ws₁⟩, hmembers, hok⟩ := Logged.outcome_bind_eq_ok.mp hok
    obtain ⟨_, -, hok⟩ := Logged.outcome_bind_eq_ok.mp hok
    rw [Logged.outcome_pure, Except.ok.injEq, Prod.mk.injEq] at hok
    obtain ⟨rfl, rfl⟩ := hok
    have hsource : ∀ m ∈ r.mappingsFor c.name, ∃ s, m.source = .text s := by
      intro m hm
      have hsame := (List.mem_filter.mp hm).2
      rw [hname] at hsame
      exact ⟨name, Json.same_text_iff.mp hsame⟩
    have hstrict : r.strict = r'.strict := rfl
    have hemitted : r.emitted = r'.emitted := rfl
    obtain ⟨fields', ws', hmembers', hfields⟩ :=
      members_perm hstrict hemitted hfor hsource hmembers
    refine ⟨some (companion name fields'), ws', ?_, .some ⟨rfl, rfl, hfields⟩⟩
    rw [resolve_present (r := r') hname hnil']
    refine Logged.outcome_bind_eq_ok.mpr ⟨_, hmembers', ?_⟩
    exact Logged.outcome_bind_eq_ok.mpr ⟨_, rfl, rfl⟩

end SchemaModels.Resolver
