import SchemaModels.Proofs.Module.Acceptance
import SchemaModels.Proofs.Naming.Inverse

/-!
# Fields with ordinary names

Two fields with different ordinary names have different members, so no collection is refused because
of two of them: where two members have one name, one is for a field whose name is not ordinary, or
for the related records (`refused_of_collision`). Main statement: `toldApart`, which goes from the
parts of a name to the module of a collection that has a field of that name.
-/

namespace SchemaModels.ModelModule

open Naming (IsOrdinary Ordinary eq_of_memberName memberName snakeCase)
open Logged (Raises)

variable {c : Collection} {resolver? : Option Resolver} {n : String}

/-! ## Repeated names -/

/-- What stands a second time in a list stands there before. -/
theorem firstRepeated_eq_some {names seen : List String} (h : firstRepeated seen names = some n) :
    ∃ before after, names = before ++ n :: after ∧ (n ∈ before ∨ n ∈ seen) := by
  induction names generalizing seen with
  | nil => cases h
  | cons m ms ih =>
    rw [firstRepeated] at h
    by_cases hm : seen.contains m = true
    · rw [if_pos hm, Option.some.injEq] at h
      subst h
      exact ⟨[], ms, rfl, Or.inr (List.contains_iff_mem.mp hm)⟩
    · rw [if_neg hm] at h
      obtain ⟨before, after, rfl, hn⟩ := ih h
      refine ⟨m :: before, after, rfl, ?_⟩
      rcases hn with hn | hn
      · exact Or.inl (List.mem_cons_of_mem m hn)
      · rcases List.mem_cons.mp hn with rfl | hn
        · exact Or.inl List.mem_cons_self
        · exact Or.inr hn

/-- What is repeated in two lists in a row is in the second, or repeated in the first. -/
theorem firstRepeated_append {names others seen : List String}
    (h : firstRepeated seen (names ++ others) = some n) :
    firstRepeated seen names = some n ∨ n ∈ others := by
  induction names generalizing seen with
  | nil =>
    obtain ⟨before, after, hsplit, -⟩ := firstRepeated_eq_some h
    right
    rw [List.nil_append] at hsplit
    rw [hsplit]
    exact List.mem_append_right before List.mem_cons_self
  | cons m ms ih =>
    rw [List.cons_append, firstRepeated] at h
    rw [firstRepeated]
    split
    · rename_i hm
      rw [if_pos hm] at h
      exact Or.inl h
    · rename_i hm
      rw [if_neg hm] at h
      exact ih h

theorem requireDistinct_eq_error {source source' : NameSource} {collection collection' : Json}
    {names : List String} (h : requireDistinct source collection names =
      .error (.problem (.collidingNames source' collection' n))) :
    source = source' ∧ firstRepeated [] names = some n := by
  unfold requireDistinct at h
  split at h
  · rename_i m hm
    cases h
    exact ⟨rfl, hm⟩
  · cases h

/-! ## Collisions -/

/-- The name of a member that is not the only one of a collection: it is for the related records, or
two of the fields ask for it. -/
def Collides (c : Collection) (n : String) : Prop :=
  n = "expand" ∨ ∃ raws before after raw, c.fields.map (·.name) = raws.map .text ∧
    raws = before ++ raw :: after ∧ memberName raw = n ∧ ∃ other ∈ before, memberName other = n

/-- **A collection is refused for its members** if two of them have one name. -/
theorem collides_of_build
    (h : (build c resolver?).outcome = .error (.problem (.collidingNames .fields c.name n))) :
    Collides c n := by
  let p : Failure → Prop := fun e => e = .problem (.collidingNames .fields c.name n) → Collides c n
  have hcovers : Covers c p :=
    { fault := fun _ h => by cases h
      variants := fun _ _ _ _ _ _ _ _ h => by cases h
      related := fun _ _ _ h => by cases h
      target := fun _ _ h => by cases h }
  have hbuild : Raises p (build c resolver?) := by
    refine raises_build_of hcovers (fun enums _ e he heq => ?_)
      fun fieldMembers expand? ws hfields _ e he heq => ?_
    · rw [Logged.outcome_ofOutcome, heq] at he
      exact absurd (requireDistinct_eq_error he).1 (by decide)
    · rw [Logged.outcome_ofOutcome, heq] at he
      obtain ⟨hnames, hidentifiers⟩ :=
        Member.names_of_ofField (Logged.outcome_mapM_eq_ok_iff.mp hfields)
      have hrepeated := (requireDistinct_eq_error he).2
      rw [identifiers_dataMembers, hidentifiers] at hrepeated
      rcases firstRepeated_append hrepeated with hrepeated | hexpand
      · obtain ⟨before, after, hsplit, hn⟩ := firstRepeated_eq_some hrepeated
        obtain ⟨before', rest, hraws, rfl, hrest⟩ := List.map_eq_append_iff.mp hsplit
        obtain ⟨raw, after', rfl, hraw, rfl⟩ := List.map_eq_cons_iff.mp hrest
        obtain ⟨other, hother, hsame⟩ := List.mem_map.mp (hn.resolve_right List.not_mem_nil)
        exact Or.inr ⟨_, before', after', raw, hnames, hraws, hraw, other, hother, hsame⟩
      · left
        cases expand? with
        | none => cases hexpand
        | some e => exact List.mem_singleton.mp hexpand
  exact hbuild _ h rfl

/-- **Two fields with ordinary names never collide.** -/
theorem refused_of_collision (hnodup : (c.fields.map (·.name)).Nodup)
    (h : (build c resolver?).outcome = .error (.problem (.collidingNames .fields c.name n))) :
    n = "expand" ∨
      ∃ f ∈ c.fields, ∃ raw, f.name = .text raw ∧ memberName raw = n ∧ ¬ IsOrdinary raw := by
  refine (collides_of_build h).imp_right ?_
  rintro ⟨raws, before, after, raw, hnames, rfl, hraw, other, hother, hsame⟩
  have hfield : ∀ r ∈ before ++ raw :: after, ∃ f ∈ c.fields, f.name = .text r := fun r hr =>
    List.mem_map.mp (hnames ▸ List.mem_map_of_mem hr)
  have hmem : raw ∈ before ++ raw :: after := List.mem_append_right _ List.mem_cons_self
  obtain ⟨f, hf, hfname⟩ := hfield raw hmem
  obtain ⟨g, hg, hgname⟩ := hfield other (List.mem_append_left _ hother)
  by_cases hordinary : IsOrdinary raw
  · refine ⟨g, hg, other, hgname, hsame, fun hordinary' => ?_⟩
    obtain rfl := eq_of_memberName hordinary hordinary' (hraw.trans hsame.symm)
    rw [hnames] at hnodup
    exact (List.nodup_append.mp (List.Nodup.of_map _ hnodup)).2.2
      raw hother raw List.mem_cons_self rfl
  · exact ⟨f, hf, raw, hfname, hraw, hordinary⟩

/-- **An ordinary name is told apart.** -/
structure ToldApart (name : String) : Prop where
  /-- Snake case takes it back from camel case. -/
  inverse : snakeCase (Naming.identifier name) = name
  /-- No other ordinary name has its member, reserved or not. -/
  injective : ∀ other, IsOrdinary other → memberName other = memberName name → other = name
  /-- No collection is refused for its member, unless that is also asked for by a field with a name
  that is not ordinary, or is the member for related records. -/
  unrefused : ∀ (c : Collection) (resolver? : Option Resolver), (c.fields.map (·.name)).Nodup →
    (∀ f ∈ c.fields, ∀ raw, f.name = .text raw → memberName raw = memberName name →
      IsOrdinary raw) → memberName name ≠ "expand" →
        (build c resolver?).outcome ≠
          .error (.problem (.collidingNames .fields c.name (memberName name)))

/-- **Ordinary names are told apart**, in snake case, in camel case and as members. -/
theorem toldApart {parts : List String} (h : Ordinary parts) :
    ToldApart ("_".intercalate parts) where
  inverse := Naming.snakeCase_identifier h
  injective _ hother hsame := eq_of_memberName hother ⟨parts, h, rfl⟩ hsame
  unrefused c resolver? hnodup hordinary hexpand hrefused := by
    rcases refused_of_collision hnodup hrefused with heq | ⟨f, hf, raw, hraw, hsame, hno⟩
    · exact hexpand heq
    · exact hno (hordinary f hf raw hraw hsame)

theorem toldApart_class : Ordinary ["class"] ∧ ToldApart "class" ∧ memberName "class" = "class_" ∧
    Ordinary ["author", "id2", "x"] ∧ ToldApart "author_id2_x" := by
  have hclass : Ordinary ["class"] := ⟨by decide, by decide, by decide, by decide⟩
  have hauthor : Ordinary ["author", "id2", "x"] := ⟨by decide, by decide, by decide, by decide⟩
  have hname : "_".intercalate ["class"] = "class" := by decide +kernel
  have hname' : "_".intercalate ["author", "id2", "x"] = "author_id2_x" := by decide +kernel
  exact ⟨hclass, hname ▸ toldApart hclass, by decide +kernel, hauthor, hname' ▸ toldApart hauthor⟩

end SchemaModels.ModelModule
