import SchemaModels.Proofs.Expansion
import SchemaModels.Proofs.Log

/-!
# Which mappings a resolver can take

A resolver goes through the mappings of a collection in order, and looks at the values in a mapping
only when it comes to it. `Seen` is the invariant of that walk: what it remembers of the mappings
that it has passed. A mapping that it comes to repeats one of those (`members_repeated`), clashes
with one (`members_clashing`), or is for a new member (`members_new`). The walk ends in a fault just
at a mapping that is not made of texts, unless one before it, or that mapping itself, clashes with
an earlier one: that is a problem of its own (`error_of_members`, `fault_of_members`). So
`harmless_iff` says of any mappings, whatever values they hold, when resolving them can end in
nothing worse than a problem about relations.
-/

namespace SchemaModels

/-! ## Texts -/

theorem Json.same_text_iff {s : String} {v : Json} : v.same (.text s) = true ↔ v = .text s := by
  cases v <;> simp [Json.same, Json.number?]

theorem Json.text_same_iff {s : String} {v : Json} : (Json.text s).same v = true ↔ v = .text s := by
  cases v with
  | text t =>
    rw [Json.same, beq_iff_eq, Json.text.injEq]
    exact eq_comm
  | _ => simp [Json.same, Json.number?]

namespace Mapping

/-- The names in a mapping are texts. -/
structure Textual (m : Mapping) : Prop where
  source : ∃ s, m.source = .text s
  field : ∃ s, m.field = .text s
  target : ∃ s, m.target = .text s

variable {m n : Mapping}

theorem Textual.same_iff (h : m.Textual) : m.same n = true ↔ n = m := by
  obtain ⟨⟨s, hs⟩, ⟨f, hf⟩, ⟨t, ht⟩⟩ := h
  unfold same
  rw [hs, hf, ht, Bool.and_eq_true, Bool.and_eq_true, Bool.and_eq_true, Json.text_same_iff,
    Json.text_same_iff, Json.text_same_iff, beq_iff_eq]
  obtain ⟨source, field, single, target⟩ := m
  obtain ⟨source', field', single', target'⟩ := n
  simp only at hs hf ht ⊢
  subst hs hf ht
  simp only [Mapping.mk.injEq]
  constructor
  · rintro ⟨⟨⟨hs, hf⟩, hi⟩, ht⟩
    exact ⟨hs, hf, hi.symm, ht⟩
  · rintro ⟨hs, hf, hi, ht⟩
    exact ⟨⟨⟨hs, hf⟩, hi.symm⟩, ht⟩

/-- The mappings ask for one member. -/
def Meets (m n : Mapping) : Prop :=
  ∃ a b, m.field = .text a ∧ n.field = .text b ∧ Naming.memberName a = Naming.memberName b

/-- The mappings ask for one member and differ: a resolver refuses the second. -/
def Clashes (m n : Mapping) : Prop := m.Meets n ∧ m.same n = false

end Mapping

/-- The failure is a problem about relations. -/
def Failure.IsRelationship (e : Failure) : Prop :=
  ∃ p, e = .problem p ∧
    (p.report.category = .relationship ∨ p.report.category = .unresolvedTarget)

/-- The collection and its fields have texts for names. -/
structure Collection.WellTyped (c : Collection) : Prop where
  name : ∃ s, c.name = .text s
  fields : ∀ f ∈ c.fields, ∃ s, f.name = .text s

namespace Resolver

open Mapping (Textual Clashes Meets)
open Naming (memberName)

variable {r : Resolver} {c : Collection} {sourceModule : String}

/-! ## The check of a target -/

/-- A target that is a text is refused, if at all, for having no model. -/
theorem error_of_check {m : Mapping} {t : String} {e : Failure} (ht : m.target = .text t)
    (h : (r.check c m).outcome = .error e) : e.IsRelationship := by
  obtain ⟨field, hfield⟩ := outcome_check r c m
  rw [hfield, checkTarget_text ht] at h
  split at h
  · cases h
  · split at h
    · cases h
      exact ⟨_, rfl, Or.inr rfl⟩
    · cases h

/-- Without strictness a check ends well or in a fault, and it ends well about a text. -/
theorem ends_check (hr : r.strict = false) (m : Mapping) :
    (∃ ws, (r.check c m).outcome = .ok ws) ∨
      (¬ ∃ t, m.target = .text t) ∧ ∃ f, (r.check c m).outcome = .error (.fault f) := by
  obtain ⟨field, hfield⟩ := outcome_check r c m
  rw [hfield]
  unfold checkTarget
  rw [Logged.outcome_bind]
  cases hkey : lookupKey m.target with
  | error f =>
    refine Or.inr ⟨?_, f, rfl⟩
    rintro ⟨t, ht⟩
    rw [ht] at hkey
    cases hkey
  | ok target =>
    left
    change ∃ ws, (if isAmong r.emitted target then pure field
      else if r.strict then Logged.refuse (.unresolvedTarget m (isAmong r.known m.target))
      else return field ++ (← warn (r.targetWarning m)) : Logged (List String)).outcome = .ok ws
    rw [hr]
    split
    · exact ⟨_, rfl⟩
    · exact ⟨_, rfl⟩

/-! ## The walk -/

/-- Mappings that a walk gets past: they are made of texts, and no two of them clash. -/
structure Passable (ms : List Mapping) : Prop where
  textual : ∀ m ∈ ms, m.Textual
  apart : ∀ m ∈ ms, ∀ n ∈ ms, ¬ m.Clashes n

theorem passable_nil : Passable [] := ⟨by simp, by simp⟩

theorem Passable.eq_of_meets {ms : List Mapping} (h : Passable ms) {m n : Mapping} (hm : m ∈ ms)
    (hn : n ∈ ms) (hmeets : m.Meets n) : n = m := by
  by_contra hne
  refine h.apart m hm n hn ⟨hmeets, ?_⟩
  rw [Bool.eq_false_iff, ne_eq, (h.textual m hm).same_iff]
  exact hne

/-- **What a walk remembers** of the mappings that it has passed: one for each member. -/
structure Seen (passed : List Mapping) (seen : List (Mapping × String)) : Prop where
  passable : Passable passed
  known : ∀ e ∈ seen, e.1 ∈ passed ∧ ∃ a, e.1.field = .text a ∧ e.2 = memberName a
  all : ∀ m ∈ passed, ∀ a, m.field = .text a → ∃ e ∈ seen, e.2 = memberName a

theorem seen_nil : Seen [] [] := ⟨passable_nil, by simp, by simp⟩

variable {passed : List Mapping} {seen : List (Mapping × String)} {m previous : Mapping}
  {ms : List Mapping} {raw identifier : String}

/-- What is found for a member was passed, and asks for that member. -/
theorem Seen.meets (h : Seen passed seen) (hm : m.field = .text raw)
    (hfind : seen.find? (·.2 == memberName raw) = some (previous, identifier)) :
    previous ∈ passed ∧ previous.Meets m := by
  obtain ⟨hpassed, a, ha, he⟩ := h.known _ (List.mem_of_find?_eq_some hfind)
  have hsame := List.find?_some hfind
  rw [beq_iff_eq] at hsame
  exact ⟨hpassed, a, raw, ha, hm, he.symm.trans hsame⟩

/-- Nothing is found for a member that no mapping has asked for. -/
theorem Seen.not_meets (h : Seen passed seen) (hm : m.field = .text raw)
    (hfind : seen.find? (·.2 == memberName raw) = none) {n : Mapping} (hn : n ∈ passed) :
    ¬ n.Meets m := by
  rintro ⟨a, b, ha, hb, hab⟩
  obtain ⟨e, he, hea⟩ := h.all n hn a ha
  rw [hm, Json.text.injEq] at hb
  refine List.find?_eq_none.mp hfind e he ?_
  rw [beq_iff_eq, hea, hab, hb]

/-- So nothing is found for a mapping that no other meets. -/
theorem Seen.find?_eq_none (h : Seen passed seen) (hm : m.field = .text raw)
    (hfresh : ∀ n ∈ passed, ¬ n.Meets m) : seen.find? (·.2 == memberName raw) = none := by
  rw [Option.eq_none_iff_forall_ne_some]
  rintro ⟨previous, identifier⟩ hfind
  obtain ⟨hprevious, hmeets⟩ := h.meets hm hfind
  exact hfresh previous hprevious hmeets

/-- A repetition is passed without being remembered. -/
theorem Seen.repeated (h : Seen passed seen) (hm : m ∈ passed) : Seen (passed ++ [m]) seen := by
  have hmem : ∀ n, n ∈ passed ++ [m] ↔ n ∈ passed := by
    intro n
    rw [List.mem_append, List.mem_singleton]
    exact ⟨fun hn => hn.elim id fun heq => heq ▸ hm, Or.inl⟩
  refine ⟨⟨fun n hn => h.passable.textual n ((hmem n).mp hn), fun n hn n' hn' =>
    h.passable.apart n ((hmem n).mp hn) n' ((hmem n').mp hn')⟩, fun e he => ?_, fun n hn =>
      h.all n ((hmem n).mp hn)⟩
  obtain ⟨hpassed, ha⟩ := h.known e he
  exact ⟨(hmem _).mpr hpassed, ha⟩

/-- A mapping for a new member is passed and remembered. -/
theorem Seen.new (h : Seen passed seen) (htextual : m.Textual) (hm : m.field = .text raw)
    (hfresh : ∀ n ∈ passed, ¬ n.Meets m) :
    Seen (passed ++ [m]) (seen ++ [(m, memberName raw)]) := by
  have hsymm : ∀ n ∈ passed, ¬ m.Meets n := fun n hn ⟨a, b, ha, hb, hab⟩ =>
    hfresh n hn ⟨b, a, hb, ha, hab.symm⟩
  have hself : m.same m = true := htextual.same_iff.mpr rfl
  refine ⟨⟨fun n hn => ?_, fun n hn n' hn' => ?_⟩, fun e he => ?_, fun n hn a ha => ?_⟩
  · rcases List.mem_append.mp hn with hn | hn
    · exact h.passable.textual n hn
    · exact List.mem_singleton.mp hn ▸ htextual
  · rintro ⟨hmeets, hdiffer⟩
    rcases List.mem_append.mp hn with hn | hn
    · rcases List.mem_append.mp hn' with hn' | hn'
      · exact h.passable.apart n hn n' hn' ⟨hmeets, hdiffer⟩
      · exact hfresh n hn (List.mem_singleton.mp hn' ▸ hmeets)
    · rw [List.mem_singleton.mp hn] at hmeets hdiffer
      rcases List.mem_append.mp hn' with hn' | hn'
      · exact hsymm n' hn' hmeets
      · rw [List.mem_singleton.mp hn', hself] at hdiffer
        cases hdiffer
  · rcases List.mem_append.mp he with he | he
    · obtain ⟨hpassed, ha⟩ := h.known e he
      exact ⟨List.mem_append_left _ hpassed, ha⟩
    · have heq := List.mem_singleton.mp he
      refine ⟨?_, raw, ?_, ?_⟩
      · rw [heq]
        exact List.mem_append_right _ (List.mem_singleton_self m)
      · rw [heq]
        exact hm
      · rw [heq]
  · rcases List.mem_append.mp hn with hn | hn
    · obtain ⟨e, he, hea⟩ := h.all n hn a ha
      exact ⟨e, List.mem_append_left _ he, hea⟩
    · rw [List.mem_singleton.mp hn, hm, Json.text.injEq] at ha
      refine ⟨(m, memberName raw), List.mem_append_right _ (List.mem_singleton_self _), ?_⟩
      rw [ha]

/-! ## One mapping of the walk -/

/-- The walk takes a mapping with a text for its field by what it has found for the member. -/
theorem members_cons (hraw : m.field = .text raw) :
    r.members c sourceModule seen (m :: ms) =
      match seen.find? (·.2 == memberName raw) with
      | some (previous, _) =>
        if previous.same m then
          warn (repetitionWarning c m) >>= fun ws =>
            r.members c sourceModule seen ms >>= fun x => pure (x.1, ws ++ x.2)
        else Logged.refuse
          (.collidingExpansions previous { m with source := c.name } (memberName raw))
      | none =>
        r.check c m >>= fun ws => Logged.ofChecked (Naming.expectText m.target) >>= fun target =>
          r.members c sourceModule (seen ++ [(m, memberName raw)]) ms >>= fun x =>
            pure (member sourceModule (memberName raw) raw target m.isSingle :: x.1,
              ws ++ x.2) := by
  rw [members, hraw]
  exact pure_bind raw _

/-- A mapping that is passed already is warned about and left out. -/
theorem members_repeated (h : Seen passed seen) (hm : m ∈ passed) :
    r.members c sourceModule seen (m :: ms) = warn (repetitionWarning c m) >>= fun ws =>
      r.members c sourceModule seen ms >>= fun x => pure (x.1, ws ++ x.2) := by
  obtain ⟨raw, hraw⟩ := (h.passable.textual m hm).field
  rw [members_cons hraw]
  cases hfind : seen.find? (·.2 == memberName raw) with
  | none => exact absurd ⟨raw, raw, hraw, hraw, rfl⟩ (h.not_meets hraw hfind hm)
  | some e =>
    obtain ⟨hprevious, hmeets⟩ := h.meets hraw hfind
    have hsame : e.1.same m = true :=
      (h.passable.textual _ hprevious).same_iff.mpr (h.passable.eq_of_meets hprevious hm hmeets)
    simp only [hsame, if_true]

/-- A mapping that asks for the member of a different one is refused, whatever the resolver. -/
theorem members_clashing (h : Seen passed seen) (hraw : m.field = .text raw) (hm : m ∉ passed)
    (hmeets : ∃ n ∈ passed, n.Meets m) : ∃ n ∈ passed, n.Meets m ∧
      ∀ (r : Resolver) (c : Collection) (sourceModule : String) (ms : List Mapping),
        r.members c sourceModule seen (m :: ms) =
          Logged.refuse (.collidingExpansions n { m with source := c.name } (memberName raw)) := by
  simp only [members_cons hraw]
  cases hfind : seen.find? (·.2 == memberName raw) with
  | none =>
    obtain ⟨n, hn, hmeets⟩ := hmeets
    exact absurd hmeets (h.not_meets hraw hfind hn)
  | some e =>
    obtain ⟨hprevious, hmeets⟩ := h.meets hraw hfind
    have hdiffer : ¬ e.1.same m = true := fun hsame =>
      hm ((h.passable.textual _ hprevious).same_iff.mp hsame ▸ hprevious)
    refine ⟨e.1, hprevious, hmeets, fun r c sourceModule ms => ?_⟩
    simp only [hdiffer, Bool.false_eq_true, if_false]

/-- A mapping for a new member is checked, and gives the member. -/
theorem members_new {target : String} (h : Seen passed seen) (hraw : m.field = .text raw)
    (ht : m.target = .text target) (hfresh : ∀ n ∈ passed, ¬ n.Meets m) :
    r.members c sourceModule seen (m :: ms) = r.check c m >>= fun ws =>
      r.members c sourceModule (seen ++ [(m, memberName raw)]) ms >>= fun x =>
        pure (member sourceModule (memberName raw) raw target m.isSingle :: x.1, ws ++ x.2) := by
  rw [members_cons hraw, h.find?_eq_none hraw hfresh, ht]
  rfl

/-- What ends the walk behind a repetition ends the walk. -/
theorem error_behind_repeated {e : Failure} (h : Seen passed seen) (hm : m ∈ passed)
    (he : (r.members c sourceModule seen ms).outcome = .error e) :
    (r.members c sourceModule seen (m :: ms)).outcome = .error e := by
  rw [members_repeated h hm]
  refine Logged.outcome_bind_eq_error.mpr (Or.inr ⟨_, outcome_warn _, ?_⟩)
  exact Logged.outcome_bind_eq_error.mpr (Or.inl he)

/-- What ends the walk behind a mapping for a new member ends the walk, if the check is passed. -/
theorem error_behind_new {target : String} {ws : List String} {e : Failure} (h : Seen passed seen)
    (hraw : m.field = .text raw) (ht : m.target = .text target) (hfresh : ∀ n ∈ passed, ¬ n.Meets m)
    (hcheck : (r.check c m).outcome = .ok ws)
    (he : (r.members c sourceModule (seen ++ [(m, memberName raw)]) ms).outcome = .error e) :
    (r.members c sourceModule seen (m :: ms)).outcome = .error e := by
  rw [members_new h hraw ht hfresh]
  refine Logged.outcome_bind_eq_error.mpr (Or.inr ⟨ws, hcheck, ?_⟩)
  exact Logged.outcome_bind_eq_error.mpr (Or.inl he)

/-! ## Walks that end early -/

/-- **A walk that ends early** without meeting values it cannot take ends in a problem about
relations. -/
theorem error_of_members {ms : List Mapping} {e : Failure} (h : Seen passed seen)
    (hms : ∀ before m after, passed ++ ms = before ++ m :: after → Passable before →
      m.Textual ∨ ∃ n ∈ before, n.Clashes m)
    (he : (r.members c sourceModule seen ms).outcome = .error e) : e.IsRelationship := by
  induction ms generalizing passed seen with
  | nil => cases he
  | cons m ms ih =>
    have hnext : ∀ seen', Seen (passed ++ [m]) seen' →
        (r.members c sourceModule seen' ms).outcome = .error e → e.IsRelationship := by
      intro seen' hseen'
      refine ih hseen' fun before n after hsplit => hms before n after ?_
      rw [← hsplit, List.append_assoc]
      rfl
    obtain ⟨raw, hraw⟩ : ∃ raw, m.field = .text raw := by
      rcases hms passed m ms rfl h.passable with htextual | ⟨n, -, ⟨-, b, -, hb, -⟩, -⟩
      · exact htextual.field
      · exact ⟨b, hb⟩
    by_cases hm : m ∈ passed
    · rw [members_repeated h hm] at he
      rcases Logged.outcome_bind_eq_error.mp he with he | ⟨ws, -, he⟩
      · cases he
      rcases Logged.outcome_bind_eq_error.mp he with he | ⟨_, -, he⟩
      · exact hnext seen (h.repeated hm) he
      · cases he
    by_cases hmeets : ∃ n ∈ passed, n.Meets m
    · obtain ⟨n, -, -, hstep⟩ := members_clashing h hraw hm hmeets
      rw [hstep] at he
      cases he
      exact ⟨_, rfl, Or.inl rfl⟩
    · have hfresh : ∀ n ∈ passed, ¬ n.Meets m := fun n hn hn' => hmeets ⟨n, hn, hn'⟩
      -- nothing clashes with a mapping for a new member, so it is made of texts
      have htextual : m.Textual := (hms passed m ms rfl h.passable).resolve_right
        fun ⟨n, hn, hn', _⟩ => hfresh n hn hn'
      obtain ⟨t, ht⟩ := htextual.target
      rw [members_new h hraw ht hfresh] at he
      rcases Logged.outcome_bind_eq_error.mp he with he | ⟨ws, -, he⟩
      · exact error_of_check ht he
      rcases Logged.outcome_bind_eq_error.mp he with he | ⟨_, -, he⟩
      · exact hnext _ (h.new htextual hraw hfresh) he
      · cases he

/-- A walk comes to a mapping that it passes, and goes on behind it. -/
theorem outcome_members_passed {ms : List Mapping} (hr : r.strict = false) (h : Seen passed seen)
    (hpassable : Passable (passed ++ [m])) : ∃ seen', Seen (passed ++ [m]) seen' ∧
      ∀ f, (r.members c sourceModule seen' ms).outcome = .error (.fault f) →
        (r.members c sourceModule seen (m :: ms)).outcome = .error (.fault f) := by
  have hmem : m ∈ passed ++ [m] := List.mem_append_right _ (List.mem_singleton_self m)
  have htextual := hpassable.textual m hmem
  by_cases hm : m ∈ passed
  · exact ⟨seen, h.repeated hm, fun f hf => error_behind_repeated h hm hf⟩
  · have hfresh : ∀ n ∈ passed, ¬ n.Meets m := fun n hn hmeets =>
      hm (hpassable.eq_of_meets (List.mem_append_left _ hn) hmem hmeets ▸ hn)
    obtain ⟨raw, hraw⟩ := htextual.field
    obtain ⟨t, ht⟩ := htextual.target
    obtain ⟨ws, hws⟩ := (ends_check (c := c) hr m).resolve_right fun hno => hno.1 ⟨t, ht⟩
    exact ⟨_, h.new htextual hraw hfresh, fun f hf => error_behind_new h hraw ht hfresh hws hf⟩

/-- A walk ends in a fault at a mapping that is not made of texts and clashes with none before. -/
theorem fault_at {after : List Mapping} (hr : r.strict = false) (h : Seen passed seen)
    (hsource : ∃ s, m.source = .text s) (hm : ¬ m.Textual) (hclash : ∀ n ∈ passed, ¬ n.Clashes m) :
    ∃ f, (r.members c sourceModule seen (m :: after)).outcome = .error (.fault f) := by
  rw [members]
  cases hfield : Naming.charactersOf m.field with
  | error f => exact ⟨f, rfl⟩
  | ok raw =>
    have hraw := Naming.charactersOf_eq_ok_iff.mp hfield
    have hfresh : ∀ n ∈ passed, ¬ n.Meets m := by
      -- the mapping would repeat one that is made of texts
      refine fun n hn hmeets => hclash n hn ⟨hmeets, ?_⟩
      rw [Bool.eq_false_iff, ne_eq, (h.passable.textual n hn).same_iff]
      rintro rfl
      exact hm (h.passable.textual _ hn)
    have hfind := h.find?_eq_none hraw hfresh
    have htarget : ¬ ∃ t, m.target = .text t := fun ht => hm ⟨hsource, ⟨raw, hraw⟩, ht⟩
    rcases ends_check (c := c) hr m with ⟨ws, hws⟩ | ⟨-, f, hf⟩
    · cases hexpect : Naming.expectText m.target with
      | ok t => exact absurd ⟨t, Naming.expectText_eq_ok_iff.mp hexpect⟩ htarget
      | error f =>
        refine ⟨f, Logged.outcome_bind_eq_error.mpr (Or.inr ⟨raw, rfl, ?_⟩)⟩
        simp only [hfind]
        refine Logged.outcome_bind_eq_error.mpr (Or.inr ⟨ws, hws, ?_⟩)
        exact Logged.outcome_bind_eq_error.mpr (Or.inl rfl)
    · refine ⟨f, Logged.outcome_bind_eq_error.mpr (Or.inr ⟨raw, rfl, ?_⟩)⟩
      simp only [hfind]
      exact Logged.outcome_bind_eq_error.mpr (Or.inl hf)

/-- **A walk to a mapping that it cannot read** ends in a fault, if it gets past all before it. -/
theorem fault_of_members {before after : List Mapping} (hr : r.strict = false)
    (h : Seen passed seen) (hpassable : Passable (passed ++ before))
    (hsource : ∃ s, m.source = .text s) (hm : ¬ m.Textual)
    (hclash : ∀ n ∈ passed ++ before, ¬ n.Clashes m) :
    ∃ f, (r.members c sourceModule seen (before ++ m :: after)).outcome = .error (.fault f) := by
  induction before generalizing passed seen with
  | nil =>
    rw [List.append_nil] at hclash
    exact fault_at hr h hsource hm hclash
  | cons b before ih =>
    have happend : passed ++ b :: before = (passed ++ [b]) ++ before := by simp
    rw [happend] at hpassable hclash
    have hb : Passable (passed ++ [b]) :=
      ⟨fun n hn => hpassable.textual n (List.mem_append_left _ hn), fun n hn n' hn' =>
        hpassable.apart n (List.mem_append_left _ hn) n' (List.mem_append_left _ hn')⟩
    obtain ⟨seen', hseen', hstep⟩ := outcome_members_passed hr h hb
    obtain ⟨f, hf⟩ := ih hseen' hpassable hclash
    exact ⟨f, hstep f hf⟩

/-! ## All sources -/

/-- Resolvers of the mappings can be made, and what they refuse of well-typed collections they
refuse with problems about relations. -/
def Harmless (ms : List Mapping) : Prop :=
  ∀ known emitted strict, ∃ r, make ms known emitted strict = .ok r ∧
    ∀ c : Collection, c.WellTyped → ∀ e, (r.resolve c).outcome = .error e → e.IsRelationship

/-- Every source can be looked up, and no walk meets a mapping that it cannot read: where all before
it are made of texts and do not clash, a mapping is made of texts or clashes with one of them. -/
structure Readable (ms : List Mapping) : Prop where
  sources : ∀ m ∈ ms, ∃ key, lookupKey m.source = .ok key
  walks : ∀ s before m after, ms.filter (·.source.same (.text s)) = before ++ m :: after →
    Passable before → m.Textual ∨ ∃ n ∈ before, n.Clashes m

theorem make_eq_ok_iff {ms : List Mapping} {known emitted : List String} {strict : Bool} :
    make ms known emitted strict = .ok r ↔
      (∀ m ∈ ms, ∃ key, lookupKey m.source = .ok key) ∧
        r = { mappings := ms, known, emitted, strict } := by
  have hsources : (ms.forM fun m => discard (lookupKey m.source)) = .ok () ↔
      ∀ m ∈ ms, ∃ key, lookupKey m.source = .ok key := by
    induction ms with
    | nil => exact ⟨fun _ => by simp, fun _ => rfl⟩
    | cons m ms ih =>
      rw [List.forM_eq_forM, List.forM_cons, except_bind_eq_ok_iff, List.forall_mem_cons, ← ih,
        List.forM_eq_forM]
      cases hkey : lookupKey m.source with
      | error f => simp [discard, Functor.mapConst, Except.map]
      | ok key => simp [discard, Functor.mapConst, Except.map]
  unfold make
  rw [except_bind_eq_ok_iff]
  constructor
  · rintro ⟨_, hforM, h⟩
    exact ⟨hsources.mp hforM, (Except.ok.inj h).symm⟩
  · rintro ⟨hall, rfl⟩
    exact ⟨(), hsources.mpr hall, rfl⟩

theorem not_isRelationship_fault (f : Fault) : ¬ (Failure.fault f).IsRelationship := by
  rintro ⟨p, hp, -⟩
  cases hp

/-- A collection without fields. -/
def bare (name : String) : Collection where
  id := ""
  name := .text name

theorem bare_wellTyped (name : String) : (bare name).WellTyped :=
  ⟨⟨name, rfl⟩, fun _ hf => absurd hf List.not_mem_nil⟩

/-- A walk that ends in a fault is a resolution that does. -/
theorem resolve_fault {s : String} {f : Fault} (hname : c.name = .text s)
    (hmappings : r.mappingsFor (.text s) ≠ [])
    (h : (r.members c (Naming.moduleName s) [] (r.mappingsFor (.text s))).outcome =
      .error (.fault f)) : (r.resolve c).outcome = .error (.fault f) := by
  rw [resolve_present hname (hname ▸ hmappings), hname]
  exact Logged.outcome_bind_eq_error.mpr (Or.inl h)

/-- What ends a resolution ends its walk. -/
theorem error_of_resolve {s : String} {e : Failure} (hname : c.name = .text s)
    (h : (r.resolve c).outcome = .error e) :
    (r.members c (Naming.moduleName s) [] (r.mappingsFor (.text s))).outcome = .error e := by
  by_cases hnil : r.mappingsFor c.name = []
  · rw [resolve_absent hname hnil] at h
    cases h
  · rw [resolve_present hname hnil, hname] at h
    rcases Logged.outcome_bind_eq_error.mp h with h | ⟨_, -, h⟩
    · exact h
    · cases h

/-- **When mappings are harmless.** Whatever values they hold, resolving them ends in nothing worse
than a problem about relations just if no walk meets one that it cannot read. -/
theorem harmless_iff {ms : List Mapping} : Harmless ms ↔ Readable ms := by
  constructor
  · intro h
    obtain ⟨r, hr, hresolve⟩ := h [] [] false
    obtain ⟨hsources, rfl⟩ := make_eq_ok_iff.mp hr
    refine ⟨hsources, fun s before m after hsplit hpassable => ?_⟩
    by_contra hno
    rw [not_or, not_exists] at hno
    have hsource : ∃ s, m.source = .text s := by
      have hmem : m ∈ ms.filter (·.source.same (.text s)) := by
        rw [hsplit]
        simp
      exact ⟨s, Json.same_text_iff.mp (List.mem_filter.mp hmem).2⟩
    obtain ⟨f, hf⟩ : ∃ f, ((Resolver.mk ms [] [] false).members (bare s) (Naming.moduleName s) []
        (before ++ m :: after)).outcome = .error (.fault f) :=
      fault_of_members rfl seen_nil hpassable hsource hno.1 fun n hn hclash => hno.2 n ⟨hn, hclash⟩
    refine not_isRelationship_fault f (hresolve (bare s) (bare_wellTyped s) _ ?_)
    have hfor : (Resolver.mk ms [] [] false).mappingsFor (.text s) = before ++ m :: after := hsplit
    exact resolve_fault rfl (by simp [hfor]) (hfor ▸ hf)
  · intro h known emitted strict
    refine ⟨_, make_eq_ok_iff.mpr ⟨h.sources, rfl⟩, fun c hc e he => ?_⟩
    obtain ⟨s, hs⟩ := hc.name
    exact error_of_members seen_nil (h.walks s) (error_of_resolve hs he)

/-- Mappings that are all made of texts are harmless. -/
theorem harmless_of_textual {ms : List Mapping} (h : ∀ m ∈ ms, m.Textual) : Harmless ms := by
  refine harmless_iff.mpr ⟨fun m hm => ?_, fun s before m after hsplit _ => Or.inl ?_⟩
  · obtain ⟨s, hs⟩ := (h m hm).source
    exact ⟨.text s, by rw [hs]; rfl⟩
  · have hmem : m ∈ ms.filter (·.source.same (.text s)) := by
      rw [hsplit]
      simp
    exact h m (List.mem_filter.mp hmem).1

end Resolver

end SchemaModels
