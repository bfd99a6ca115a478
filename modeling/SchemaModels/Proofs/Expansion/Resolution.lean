import SchemaModels.Proofs.Expansion.Walk

/-!
# What a resolution gives

Of the mappings from a collection those count that repeat no earlier one, `firsts`: each asks for
one member. A resolver that is not strict refuses them just if two of them ask for the same (`Apart`
says that none do), and else gives one member for each, in order, with the warnings of
`warningsAfter`. A strict one stops at the first target without a model, if nothing is refused
before it, and is no different otherwise.

`firstsAfter` and `warningsAfter` are what is left, and left to say, of further mappings when some
are passed. From what the walk does with one mapping, what it does with all follows by induction
(`warns_members`, `refused_members`, `stopped_members`, `members_strict`). Main statement:
`resolve_exact`.
-/

namespace SchemaModels

/-! ## Mappings that count -/

namespace Mapping

/-- The mappings that repeat none before them. -/
def firsts (ms : List Mapping) : List Mapping := ms.eraseDupsBy same

/-- No two of the mappings ask for one member. -/
def Apart (ms : List Mapping) : Prop := ms.Pairwise fun m n => ¬ m.Meets n

/-- The mappings that repeat none before them, nor one that is passed. -/
def firstsAfter (passed : List Mapping) : List Mapping → List Mapping
  | [] => []
  | m :: ms =>
    if passed.any m.same then firstsAfter passed ms else m :: firstsAfter (passed ++ [m]) ms

variable {m : Mapping} {ms passed : List Mapping}

theorem loop_eq (ms passed : List Mapping) :
    List.eraseDupsBy.loop same ms passed.reverse = passed ++ firstsAfter passed ms := by
  induction ms generalizing passed with
  | nil => simp [List.eraseDupsBy.loop, firstsAfter]
  | cons m ms ih =>
    rw [List.eraseDupsBy.loop, firstsAfter, List.any_reverse]
    by_cases h : passed.any m.same = true
    · simp only [h, if_true]
      exact ih passed
    · simp only [h, Bool.false_eq_true, if_false]
      have hnext := ih (passed ++ [m])
      rw [List.reverse_append, List.reverse_singleton, List.singleton_append] at hnext
      simpa using hnext

theorem firsts_eq (ms : List Mapping) : firsts ms = firstsAfter [] ms :=
  loop_eq ms []

/-- The mapping repeats one of those that are passed. -/
theorem Textual.any_same_iff (h : m.Textual) : passed.any m.same = true ↔ m ∈ passed := by
  simp [h.same_iff]

theorem firstsAfter_repeated (h : m.Textual) (hm : m ∈ passed) :
    firstsAfter passed (m :: ms) = firstsAfter passed ms := by
  rw [firstsAfter, if_pos (h.any_same_iff.mpr hm)]

theorem firstsAfter_new (h : m.Textual) (hm : m ∉ passed) :
    firstsAfter passed (m :: ms) = m :: firstsAfter (passed ++ [m]) ms := by
  rw [firstsAfter, if_neg fun hany => hm (h.any_same_iff.mp hany)]

end Mapping

namespace Resolver

open Mapping (Textual Meets Apart firsts firstsAfter firstsAfter_repeated firstsAfter_new)
open Naming (memberName)

variable {r : Resolver} {c : Collection} {sourceModule raw : String} {m : Mapping}
  {ms passed : List Mapping} {seen : List (Mapping × String)}

/-- The member that a mapping of texts asks for. -/
def Asks (sourceModule : String) (m : Mapping) (f : ExpandField) : Prop :=
  ∃ raw target, m.field = .text raw ∧ m.target = .text target ∧
    f = member sourceModule (memberName raw) raw target m.isSingle

/-- What there is to say about a mapping that repeats none: that its collection does not have the
field, and that its target has no model. -/
def warningsOf (r : Resolver) (c : Collection) (m : Mapping) : List String :=
  (if (c.field? m.field).isNone then [fieldWarning c m] else []) ++
    if isAmong r.emitted m.target then [] else [r.targetWarning m]

/-- What there is to say about further mappings, in order, when some are passed. -/
def warningsAfter (r : Resolver) (c : Collection) (passed : List Mapping) :
    List Mapping → List String
  | [] => []
  | m :: ms =>
    if passed.any m.same then repetitionWarning c m :: warningsAfter r c passed ms
    else r.warningsOf c m ++ warningsAfter r c (passed ++ [m]) ms

theorem warningsAfter_repeated (h : m.Textual) (hm : m ∈ passed) :
    r.warningsAfter c passed (m :: ms) = repetitionWarning c m :: r.warningsAfter c passed ms := by
  rw [warningsAfter, if_pos (h.any_same_iff.mpr hm)]

theorem warningsAfter_new (h : m.Textual) (hm : m ∉ passed) :
    r.warningsAfter c passed (m :: ms) =
      r.warningsOf c m ++ r.warningsAfter c (passed ++ [m]) ms := by
  rw [warningsAfter, if_neg fun hany => hm (h.any_same_iff.mp hany)]

/-- What there is to say does not depend on how strict the resolver is. -/
theorem warningsAfter_strict (strict : Bool) :
    { r with strict }.warningsAfter c passed ms = r.warningsAfter c passed ms := by
  induction ms generalizing passed with
  | nil => rfl
  | cons m ms ih =>
    rw [warningsAfter, warningsAfter, ih, ih]
    rfl

theorem length_warningsOf (r : Resolver) (c : Collection) (m : Mapping) :
    (r.warningsOf c m).length = (if (c.field? m.field).isNone then 1 else 0) +
      if !isAmong r.emitted m.target then 1 else 0 := by
  unfold warningsOf
  cases (c.field? m.field).isNone <;> cases isAmong r.emitted m.target <;> rfl

/-- One warning for each repetition, and for each mapping that counts one if its collection does not
have the field and one if its target has no model. -/
theorem length_warningsAfter (r : Resolver) (c : Collection) (passed ms : List Mapping) :
    (r.warningsAfter c passed ms).length + (firstsAfter passed ms).length = ms.length +
      (firstsAfter passed ms).countP (fun m => (c.field? m.field).isNone) +
      (firstsAfter passed ms).countP (fun m => !isAmong r.emitted m.target) := by
  induction ms generalizing passed with
  | nil => rfl
  | cons m ms ih =>
    rw [warningsAfter, firstsAfter, List.length_cons]
    split
    · rw [List.length_cons]
      have := ih passed
      omega
    · rw [List.length_append, List.length_cons, List.countP_cons, List.countP_cons,
        length_warningsOf]
      have := ih (passed ++ [m])
      omega

/-! ## The check of a target -/

theorem warns_warn (message : String) : (warn message).Warns [message] [message] := ⟨rfl, rfl⟩

/-- What a resolver that is not strict says about a mapping that it checks. -/
theorem warns_check {target : String} (hr : r.strict = false) (ht : m.target = .text target) :
    (r.check c m).Warns (r.warningsOf c m) (r.warningsOf c m) := by
  have hfield : (if (c.field? m.field).isNone then warn (fieldWarning c m) else pure []).Warns
      (if (c.field? m.field).isNone then [fieldWarning c m] else [])
      (if (c.field? m.field).isNone then [fieldWarning c m] else []) := by
    split
    · exact warns_warn _
    · exact ⟨rfl, rfl⟩
  rw [check_eq, Logged.warns_bind_iff]
  refine ⟨_, _, _, hfield, ?_, rfl⟩
  rw [checkTarget_text ht, hr]
  unfold warningsOf
  by_cases hemitted : isAmong r.emitted m.target = true
  · rw [if_pos hemitted, if_pos hemitted, List.append_nil]
    exact ⟨rfl, rfl⟩
  · rw [if_neg hemitted, if_neg hemitted, if_neg Bool.false_ne_true]
    exact ⟨rfl, rfl⟩

/-- A target with a model is checked alike, strictly or not. -/
theorem check_strict {target : String} (ht : m.target = .text target)
    (hemitted : isAmong r.emitted m.target = true) :
    { r with strict := true }.check c m = { r with strict := false }.check c m := by
  rw [check_eq, check_eq]
  congr 1
  funext field
  rw [checkTarget_text ht, checkTarget_text ht, if_pos hemitted, if_pos hemitted]

/-- A strict resolver refuses a text that names no model. -/
theorem refused_check {target : String} (ht : m.target = .text target)
    (hemitted : isAmong r.emitted m.target = false) :
    ({ r with strict := true }.check c m).outcome =
      .error (.problem (.unresolvedTarget m (isAmong r.known m.target))) := by
  obtain ⟨field, hfield⟩ := outcome_check { r with strict := true } c m
  rw [hfield, checkTarget_text ht, if_neg (by simp [hemitted]), if_pos rfl]
  rfl

/-! ## The walk -/

theorem apart_concat (hpassed : Apart passed) (hfresh : ∀ n ∈ passed, ¬ n.Meets m) :
    Apart (passed ++ [m]) := by
  refine List.pairwise_append.mpr ⟨hpassed, List.pairwise_singleton _ _, fun n hn m' hm' => ?_⟩
  rw [List.mem_singleton.mp hm']
  exact hfresh n hn

/-- A walk that is not strict gets past mappings that ask for different members. -/
theorem warns_members (sourceModule : String) (hr : r.strict = false) (h : Seen passed seen)
    (hms : ∀ m ∈ ms, m.Textual) (hapart : Apart (passed ++ firstsAfter passed ms)) :
    ∃ fields, (r.members c sourceModule seen ms).Warns
        (fields, r.warningsAfter c passed ms) (r.warningsAfter c passed ms) ∧
      List.Forall₂ (Asks sourceModule) (firstsAfter passed ms) fields := by
  induction ms generalizing passed seen with
  | nil => exact ⟨[], ⟨rfl, rfl⟩, .nil⟩
  | cons m ms ih =>
    obtain ⟨htextual, hms⟩ := List.forall_mem_cons.mp hms
    by_cases hm : m ∈ passed
    · rw [firstsAfter_repeated htextual hm] at hapart ⊢
      obtain ⟨fields, hfields, hasks⟩ := ih h hms hapart
      refine ⟨fields, ?_, hasks⟩
      rw [members_repeated h hm, warningsAfter_repeated htextual hm]
      exact Logged.warns_bind_iff.mpr ⟨_, _, _, warns_warn _,
        Logged.warns_bind_iff.mpr ⟨_, _, [], hfields, ⟨rfl, rfl⟩, (List.append_nil _).symm⟩, rfl⟩
    · rw [firstsAfter_new htextual hm] at hapart ⊢
      have hfresh : ∀ n ∈ passed, ¬ n.Meets m := fun n hn =>
        (List.pairwise_append.mp hapart).2.2 n hn m List.mem_cons_self
      obtain ⟨raw, hraw⟩ := htextual.field
      obtain ⟨target, ht⟩ := htextual.target
      rw [List.append_cons] at hapart
      obtain ⟨fields, hfields, hasks⟩ := ih (h.new htextual hraw hfresh) hms hapart
      refine ⟨_, ?_, .cons ⟨raw, target, hraw, ht, rfl⟩ hasks⟩
      rw [members_new h hraw ht hfresh, warningsAfter_new htextual hm]
      exact Logged.warns_bind_iff.mpr ⟨_, _, _, warns_check hr ht,
        Logged.warns_bind_iff.mpr ⟨_, _, [], hfields, ⟨rfl, rfl⟩, (List.append_nil _).symm⟩, rfl⟩

/-- The failure is the refusal of the second mapping, which asks for the member of the first. -/
def Collides (c : Collection) (n m : Mapping) (e : Failure) : Prop :=
  n ≠ m ∧ n.Meets m ∧ ∃ raw, m.field = .text raw ∧
    e = .problem (.collidingExpansions n { m with source := c.name } (memberName raw))

/-- A walk that is not strict ends early where two mappings ask for one member. -/
theorem refused_members (sourceModule : String) (hr : r.strict = false) (h : Seen passed seen)
    (hms : ∀ m ∈ ms, m.Textual) (hpassed : Apart passed)
    (hnot : ¬ Apart (passed ++ firstsAfter passed ms)) :
    ∃ n ∈ passed ++ firstsAfter passed ms, ∃ m ∈ firstsAfter passed ms, ∃ e, Collides c n m e ∧
      (r.members c sourceModule seen ms).outcome = .error e := by
  induction ms generalizing passed seen with
  | nil =>
    rw [firstsAfter, List.append_nil] at hnot
    exact absurd hpassed hnot
  | cons m ms ih =>
    obtain ⟨htextual, hms⟩ := List.forall_mem_cons.mp hms
    obtain ⟨raw, hraw⟩ := htextual.field
    by_cases hm : m ∈ passed
    · rw [firstsAfter_repeated htextual hm] at hnot ⊢
      obtain ⟨n, hn, m', hm', e, hcollides, he⟩ := ih h hms hpassed hnot
      exact ⟨n, hn, m', hm', e, hcollides, error_behind_repeated h hm he⟩
    · rw [firstsAfter_new htextual hm] at hnot ⊢
      by_cases hmeets : ∃ n ∈ passed, n.Meets m
      · obtain ⟨n, hn, hmeets, hstep⟩ := members_clashing h hraw hm hmeets
        refine ⟨n, List.mem_append_left _ hn, m, List.mem_cons_self, _,
          ⟨fun heq => hm (heq ▸ hn), hmeets, raw, hraw, rfl⟩, ?_⟩
        rw [hstep]
        rfl
      · have hfresh : ∀ n ∈ passed, ¬ n.Meets m := fun n hn hn' => hmeets ⟨n, hn, hn'⟩
        obtain ⟨target, ht⟩ := htextual.target
        rw [List.append_cons] at hnot
        obtain ⟨n, hn, m', hm', e, hcollides, he⟩ :=
          ih (h.new htextual hraw hfresh) hms (apart_concat hpassed hfresh) hnot
        refine ⟨n, ?_, m', List.mem_cons_of_mem m hm', e, hcollides, ?_⟩
        · rwa [List.append_cons]
        · exact error_behind_new h hraw ht hfresh (warns_check hr ht).1 he

/-! ## Strictness -/

/-- One of the mappings has a target without a model, and up to it no two ask for one member. -/
def Stops (r : Resolver) (passed ms : List Mapping) : Prop :=
  ∃ before m after, ms = before ++ m :: after ∧ isAmong r.emitted m.target = false ∧
    Apart (passed ++ before ++ [m])

theorem stops_cons_iff : r.Stops passed (m :: ms) ↔
    (isAmong r.emitted m.target = false ∧ Apart (passed ++ [m])) ∨ r.Stops (passed ++ [m]) ms := by
  constructor
  · rintro ⟨before, n, after, hsplit, hemitted, hapart⟩
    rcases List.cons_eq_append_iff.mp hsplit with ⟨rfl, heq⟩ | ⟨before', rfl, rfl⟩
    · cases heq
      rw [List.append_nil] at hapart
      exact Or.inl ⟨hemitted, hapart⟩
    · refine Or.inr ⟨before', n, after, rfl, hemitted, ?_⟩
      rwa [List.append_cons passed m before'] at hapart
  · rintro (⟨hemitted, hapart⟩ | ⟨before, n, after, rfl, hemitted, hapart⟩)
    · refine ⟨[], m, ms, rfl, hemitted, ?_⟩
      rwa [List.append_nil]
    · refine ⟨m :: before, n, after, rfl, hemitted, ?_⟩
      rwa [List.append_cons passed m before]

theorem not_stops_of_meets (hm : ∃ n ∈ passed, n.Meets m) : ¬ r.Stops passed (m :: ms) := by
  obtain ⟨n, hn, hmeets⟩ := hm
  rintro ⟨before, m', after, hsplit, -, hapart⟩
  have hmem : m ∈ before ++ [m'] := by
    rcases List.cons_eq_append_iff.mp hsplit with ⟨rfl, heq⟩ | ⟨before', rfl, -⟩
    · cases heq
      exact List.mem_singleton_self m
    · exact List.mem_cons_self
  rw [List.append_assoc] at hapart
  exact (List.pairwise_append.mp hapart).2.2 n hn m hmem hmeets

/-- **A strict walk stops** at the first target without a model, unless something is refused before
it. -/
theorem stopped_members (sourceModule : String) (h : Seen passed seen) (hms : ∀ m ∈ ms, m.Textual)
    (hstop : r.Stops passed (firstsAfter passed ms)) : ∃ m ∈ firstsAfter passed ms,
      isAmong r.emitted m.target = false ∧
        ({ r with strict := true }.members c sourceModule seen ms).outcome =
          .error (.problem (.unresolvedTarget m (isAmong r.known m.target))) := by
  induction ms generalizing passed seen with
  | nil =>
    obtain ⟨before, m, after, hsplit, -⟩ := hstop
    simp [firstsAfter] at hsplit
  | cons m ms ih =>
    obtain ⟨htextual, hms⟩ := List.forall_mem_cons.mp hms
    by_cases hm : m ∈ passed
    · rw [firstsAfter_repeated htextual hm] at hstop ⊢
      obtain ⟨n, hn, hemitted, he⟩ := ih h hms hstop
      exact ⟨n, hn, hemitted, error_behind_repeated h hm he⟩
    · rw [firstsAfter_new htextual hm] at hstop ⊢
      have hfresh : ∀ n ∈ passed, ¬ n.Meets m := fun n hn hmeets =>
        not_stops_of_meets ⟨n, hn, hmeets⟩ hstop
      obtain ⟨raw, hraw⟩ := htextual.field
      obtain ⟨target, ht⟩ := htextual.target
      cases hemitted : isAmong r.emitted m.target with
      | false =>
        refine ⟨m, List.mem_cons_self, hemitted, ?_⟩
        rw [members_new h hraw ht hfresh]
        exact Logged.outcome_bind_eq_error.mpr (Or.inl (refused_check ht hemitted))
      | true =>
        rw [stops_cons_iff, hemitted] at hstop
        obtain ⟨n, hn, hn', he⟩ :=
          ih (h.new htextual hraw hfresh) hms (hstop.resolve_left fun hfirst => by cases hfirst.1)
        have hcheck : ({ r with strict := true }.check c m).outcome = .ok (r.warningsOf c m) := by
          rw [check_strict ht hemitted]
          exact (warns_check (r := { r with strict := false }) rfl ht).1
        exact ⟨n, List.mem_cons_of_mem m hn, hn', error_behind_new h hraw ht hfresh hcheck he⟩

/-- **A strict walk that does not stop** is the walk that is not strict. -/
theorem members_strict (sourceModule : String) (h : Seen passed seen)
    (hms : ∀ m ∈ ms, m.Textual) (hpassed : Apart passed)
    (hnot : ¬ r.Stops passed (firstsAfter passed ms)) :
    { r with strict := true }.members c sourceModule seen ms =
      { r with strict := false }.members c sourceModule seen ms := by
  induction ms generalizing passed seen with
  | nil => rfl
  | cons m ms ih =>
    obtain ⟨htextual, hms⟩ := List.forall_mem_cons.mp hms
    by_cases hm : m ∈ passed
    · rw [firstsAfter_repeated htextual hm] at hnot
      rw [members_repeated h hm, members_repeated h hm, ih h hms hpassed hnot]
    · rw [firstsAfter_new htextual hm, stops_cons_iff, not_or] at hnot
      obtain ⟨raw, hraw⟩ := htextual.field
      by_cases hmeets : ∃ n ∈ passed, n.Meets m
      · obtain ⟨n, -, -, hstep⟩ := members_clashing h hraw hm hmeets
        rw [hstep, hstep]
      · have hfresh : ∀ n ∈ passed, ¬ n.Meets m := fun n hn hn' => hmeets ⟨n, hn, hn'⟩
        obtain ⟨target, ht⟩ := htextual.target
        have hapart := apart_concat hpassed hfresh
        have hemitted : isAmong r.emitted m.target = true := by
          rw [← Bool.not_eq_false]
          exact fun hnone => hnot.1 ⟨hnone, hapart⟩
        rw [members_new h hraw ht hfresh, members_new h hraw ht hfresh, check_strict ht hemitted,
          ih (h.new htextual hraw hfresh) hms hapart hnot.2]

/-! ## Resolutions -/

/-- The mappings from a collection that count. -/
def counted (r : Resolver) (c : Collection) : List Mapping := firsts (r.mappingsFor c.name)

variable {name : String}

/-- **A resolution that is refused** is one in which two mappings that count ask for one member. -/
theorem refused_resolve (hname : c.name = .text name) (hr : r.strict = false)
    (hms : ∀ m ∈ r.mappingsFor c.name, m.Textual) (hnot : ¬ Apart (r.counted c)) :
    ∃ n ∈ r.counted c, ∃ m ∈ r.counted c, ∃ e, Collides c n m e ∧
      (r.resolve c).outcome = .error e := by
  rw [counted, Mapping.firsts_eq] at hnot ⊢
  have hne : r.mappingsFor c.name ≠ [] := fun hnil => by
    rw [hnil] at hnot
    exact hnot List.Pairwise.nil
  obtain ⟨n, hn, m, hm, e, hcollides, he⟩ :=
    refused_members (c := c) (Naming.moduleName name) hr seen_nil hms
      List.Pairwise.nil hnot
  refine ⟨n, hn, m, hm, e, hcollides, ?_⟩
  rw [resolve_present hname hne]
  exact Logged.outcome_bind_eq_error.mpr (Or.inl he)

/-- **A resolution that is not refused** gives a member for each mapping that counts. -/
theorem warns_resolve (hname : c.name = .text name) (hr : r.strict = false)
    (hms : ∀ m ∈ r.mappingsFor c.name, m.Textual) (hne : r.mappingsFor c.name ≠ [])
    (hapart : Apart (r.counted c)) :
    ∃ fields, (r.resolve c).Warns
        (some (companion name fields), r.warningsAfter c [] (r.mappingsFor c.name))
        (r.warningsAfter c [] (r.mappingsFor c.name)) ∧
      List.Forall₂ (Asks (Naming.moduleName name)) (r.counted c) fields ∧
      (fields.map (·.identifier)).Nodup := by
  rw [counted, Mapping.firsts_eq] at hapart ⊢
  obtain ⟨fields, hfields, hasks⟩ :=
    warns_members (c := c) (Naming.moduleName name) hr seen_nil hms hapart
  refine ⟨fields, ?_, hasks, (distinct_of_members hfields.1).1⟩
  rw [resolve_present hname hne]
  refine Logged.warns_bind_iff.mpr ⟨_, _, [], hfields, ?_, (List.append_nil _).symm⟩
  exact ⟨rfl, rfl⟩

/-- **A strict resolution** stops at a target without a model, or is that which is not strict. -/
theorem resolve_strict (hname : c.name = .text name)
    (hms : ∀ m ∈ r.mappingsFor c.name, m.Textual) :
    (r.Stops [] (r.counted c) → ∃ m ∈ r.counted c, isAmong r.emitted m.target = false ∧
      ({ r with strict := true }.resolve c).outcome =
        .error (.problem (.unresolvedTarget m (isAmong r.known m.target)))) ∧
    (¬ r.Stops [] (r.counted c) →
      { r with strict := true }.resolve c = { r with strict := false }.resolve c) := by
  rw [counted, Mapping.firsts_eq]
  have hstops := stopped_members (r := r) (c := c) (Naming.moduleName name) seen_nil hms
  by_cases hnil : r.mappingsFor c.name = []
  · refine ⟨fun hstop => ?_, fun _ => ?_⟩
    · obtain ⟨m, hm, -⟩ := hstops hstop
      rw [hnil] at hm
      cases hm
    · exact (resolve_absent (r := { r with strict := true }) hname hnil).trans
        (resolve_absent (r := { r with strict := false }) hname hnil).symm
  · rw [resolve_present (r := { r with strict := true }) hname hnil,
      resolve_present (r := { r with strict := false }) hname hnil]
    refine ⟨fun hstop => ?_, fun hnot => ?_⟩
    · obtain ⟨m, hm, hemitted, he⟩ := hstops hstop
      exact ⟨m, hm, hemitted, Logged.outcome_bind_eq_error.mpr (Or.inl he)⟩
    · exact congrArg (· >>= _)
        (members_strict (Naming.moduleName name) seen_nil hms List.Pairwise.nil hnot)

/-- A resolver that is not strict refuses nothing else. -/
theorem exists_resolve_iff (hname : c.name = .text name) (hr : r.strict = false)
    (hms : ∀ m ∈ r.mappingsFor c.name, m.Textual) :
    (∃ x, (r.resolve c).outcome = .ok x) ↔ Apart (r.counted c) := by
  constructor
  · rintro ⟨x, hx⟩
    by_contra hnot
    obtain ⟨n, -, m, -, e, -, he⟩ := refused_resolve hname hr hms hnot
    rw [he] at hx
    cases hx
  · intro hapart
    by_cases hnil : r.mappingsFor c.name = []
    · rw [resolve_absent hname hnil]
      exact ⟨_, rfl⟩
    · obtain ⟨fields, hfields, -⟩ := warns_resolve hname hr hms hnil hapart
      exact ⟨_, hfields.1⟩

theorem not_apart_of_error {e : Failure} (hname : c.name = .text name) (hr : r.strict = false)
    (hms : ∀ m ∈ r.mappingsFor c.name, m.Textual) (he : (r.resolve c).outcome = .error e) :
    ¬ Apart (r.counted c) := by
  rw [← exists_resolve_iff hname hr hms]
  rintro ⟨x, hx⟩
  rw [he] at hx
  cases hx

/-- What a resolver that is not strict ends with is the refusal of two mappings that count. -/
theorem collides_of_error {e : Failure} (hname : c.name = .text name) (hr : r.strict = false)
    (hms : ∀ m ∈ r.mappingsFor c.name, m.Textual) (he : (r.resolve c).outcome = .error e) :
    ∃ n ∈ r.counted c, ∃ m ∈ r.counted c, Collides c n m e := by
  obtain ⟨n, hn, m, hm, e', hcollides, he'⟩ :=
    refused_resolve hname hr hms (not_apart_of_error hname hr hms he)
  rw [he', Except.error.injEq] at he
  exact ⟨n, hn, m, hm, he ▸ hcollides⟩

/-- There is no companion class just if there is no mapping. -/
theorem resolve_none_iff (hname : c.name = .text name) (hr : r.strict = false)
    (hms : ∀ m ∈ r.mappingsFor c.name, m.Textual) :
    (∃ ws, (r.resolve c).outcome = .ok (none, ws)) ↔ r.mappingsFor c.name = [] := by
  constructor
  · rintro ⟨ws, hws⟩
    by_contra hne
    have hapart := (exists_resolve_iff hname hr hms).mp ⟨_, hws⟩
    obtain ⟨fields, hfields, -⟩ := warns_resolve hname hr hms hne hapart
    rw [hfields.1] at hws
    cases hws
  · intro hnil
    rw [resolve_absent hname hnil]
    exact ⟨[], rfl⟩

/-! ## Calls in a row -/

/-- A call of the resolver, which keeps the warnings of its calls. -/
def ask (r : Resolver) (c : Collection) : Task (List String) (Option ExpandSpec × List String) :=
  fun kept => (kept ++ Log.warnings (r.resolve c).entries, r.resolve c)

/-- Calls one after the other, each on what the calls before it have left, failed ones too. -/
def askAll (r : Resolver) :
    List Collection → List String → List String × List (Logged (Option ExpandSpec × List String))
  | [], kept => (kept, [])
  | c :: cs, kept =>
    let answered := (r.ask c).run kept
    let rest := askAll r cs answered.1
    (rest.1, answered.2 :: rest.2)

theorem askAll_eq (r : Resolver) (cs : List Collection) (kept : List String) :
    r.askAll cs kept =
      (kept ++ cs.flatMap fun c => Log.warnings (r.resolve c).entries, cs.map r.resolve) := by
  induction cs generalizing kept with
  | nil => simp [askAll]
  | cons c cs ih =>
    rw [askAll, ih, List.flatMap_cons, ← List.append_assoc]
    rfl

/-! ## The whole -/

/-- **What a resolver does with a collection**, when it is not strict and when it is. -/
structure Exact (r : Resolver) (c : Collection) (name : String) : Prop where
  absent_iff : (∃ ws, ({ r with strict := false }.resolve c).outcome = .ok (none, ws)) ↔
    r.mappingsFor c.name = []
  absent : r.mappingsFor c.name = [] → ({ r with strict := false }.resolve c).Warns (none, []) []
  refused_iff : (∃ p, ({ r with strict := false }.resolve c).outcome = .error (.problem p) ∧
    p.report.category = .relationship) ↔ ¬ Apart (r.counted c)
  refused : ∀ e, ({ r with strict := false }.resolve c).outcome = .error e →
    ∃ n ∈ r.counted c, ∃ m ∈ r.counted c, Collides c n m e
  /-- A member for each mapping that counts, in order, with the warnings in order. -/
  resolved : r.mappingsFor c.name ≠ [] → Apart (r.counted c) → ∃ fields,
    ({ r with strict := false }.resolve c).Warns
      (some (companion name fields), r.warningsAfter c [] (r.mappingsFor c.name))
      (r.warningsAfter c [] (r.mappingsFor c.name)) ∧
    List.Forall₂ (Asks (Naming.moduleName name)) (r.counted c) fields ∧
    (fields.map (·.identifier)).Nodup
  /-- As many warnings as there are repetitions, unknown fields and targets without a model. -/
  warned : (r.warningsAfter c [] (r.mappingsFor c.name)).length + (r.counted c).length =
    (r.mappingsFor c.name).length + (r.counted c).countP (fun m => (c.field? m.field).isNone) +
      (r.counted c).countP (fun m => !isAmong r.emitted m.target)
  stopped_iff : (∃ p, ({ r with strict := true }.resolve c).outcome = .error (.problem p) ∧
    p.report.category = .unresolvedTarget) ↔ r.Stops [] (r.counted c)
  agrees : ¬ r.Stops [] (r.counted c) →
    { r with strict := true }.resolve c = { r with strict := false }.resolve c
  /-- What is asked for before makes no difference to what a call gives and adds. -/
  independent : ∀ strict earlier kept, { r with strict }.askAll (earlier ++ [c]) kept =
    (({ r with strict }.askAll earlier kept).1 ++
        Log.warnings ({ r with strict }.resolve c).entries,
      ({ r with strict }.askAll earlier kept).2 ++ [{ r with strict }.resolve c])

/-- **Resolution is exact.** -/
theorem resolve_exact (hname : c.name = .text name) (hms : ∀ m ∈ r.mappings, m.Textual) :
    r.Exact c name := by
  let lenient : Resolver := { r with strict := false }
  have hfor : ∀ m ∈ lenient.mappingsFor c.name, m.Textual := fun m hm =>
    hms m (List.mem_of_mem_filter hm)
  have hcollides : ∀ e, (lenient.resolve c).outcome = .error e →
      ∃ n ∈ r.counted c, ∃ m ∈ r.counted c, Collides c n m e := fun e =>
    collides_of_error (r := lenient) hname rfl hfor
  obtain ⟨hstops, hagrees⟩ := resolve_strict (r := r) hname hfor
  exact
    { absent_iff := resolve_none_iff (r := lenient) hname rfl hfor
      absent := fun hnil => by
        rw [resolve_absent (r := lenient) hname hnil]
        exact ⟨rfl, rfl⟩
      refused_iff := by
        constructor
        · rintro ⟨p, hp, -⟩
          exact not_apart_of_error (r := lenient) hname rfl hfor hp
        · intro hnot
          obtain ⟨n, -, m, -, e, ⟨-, -, raw, -, rfl⟩, he⟩ :=
            refused_resolve (r := lenient) hname rfl hfor hnot
          exact ⟨_, he, rfl⟩
      refused := hcollides
      resolved := fun hne hapart => by
        have hwarns := warns_resolve (r := lenient) hname rfl hfor hne hapart
        rwa [warningsAfter_strict] at hwarns
      warned := by
        rw [counted, Mapping.firsts_eq]
        exact length_warningsAfter r c [] _
      stopped_iff := by
        constructor
        · rintro ⟨p, hp, hcategory⟩
          by_contra hnot
          rw [hagrees hnot] at hp
          obtain ⟨n, -, m, -, -, -, raw, -, hp'⟩ := hcollides _ hp
          cases hp'
          cases hcategory
        · intro hstop
          obtain ⟨m, -, -, he⟩ := hstops hstop
          exact ⟨_, he, rfl⟩
      agrees := hagrees
      independent := fun strict earlier kept => by
        rw [askAll_eq, askAll_eq, List.flatMap_append, List.map_append, List.append_assoc]
        simp only [List.flatMap_singleton, List.map_singleton] }

/-- A collection with two relation fields. -/
def books : Collection where
  id := "c1"
  name := .text "books"
  fields :=
    [{ name := .text "author", kind := .relation, required := true,
       extra := .relation (some 1) (.text "c2") },
     { name := .text "tags", kind := .relation, extra := .relation none (.text "c3") }]

/-- Of the mappings from `books`, two repeat earlier ones, one is for a field that it does not have,
and one for a collection without a model. -/
def shelf : Resolver where
  mappings :=
    [⟨.text "books", .text "author", true, .text "authors"⟩,
     ⟨.text "books", .text "tags", false, .text "tags"⟩,
     ⟨.text "books", .text "author", true, .text "authors"⟩,
     ⟨.text "authors", .text "books", false, .text "books"⟩,
     ⟨.text "books", .text "editor", true, .text "authors"⟩,
     ⟨.text "books", .text "tags", false, .text "tags"⟩]
  known := ["books", "authors", "tags"]
  emitted := ["books", "authors"]

theorem resolve_exact_shelf : shelf.Exact books "books" ∧ Apart (shelf.counted books) ∧
    shelf.warningsAfter books [] (shelf.mappingsFor books.name) =
      ["Expansion books.tags targets 'tags', which has no generated model; " ++
         "emitting the reference anyway",
       "Duplicate expansion mapping books.author -> authors ignored",
       "Expansion source field 'editor' does not exist in collection 'books'; emitting it anyway",
       "Duplicate expansion mapping books.tags -> tags ignored"] := by
  have htextual : ∀ m ∈ shelf.mappings, m.Textual := by
    intro m hm
    simp only [shelf, List.mem_cons, List.not_mem_nil, or_false] at hm
    rcases hm with rfl | rfl | rfl | rfl | rfl | rfl <;> exact ⟨⟨_, rfl⟩, ⟨_, rfl⟩, ⟨_, rfl⟩⟩
  have hexact := resolve_exact (r := shelf) (c := books) rfl htextual
  have hresolve : (shelf.resolve books).outcome.toOption.isSome = true := by decide +kernel
  refine ⟨hexact, ?_, by decide +kernel⟩
  by_contra hnot
  obtain ⟨p, hp, -⟩ := hexact.refused_iff.mpr hnot
  have hsame : { shelf with strict := false } = shelf := rfl
  rw [hsame] at hp
  rw [hp] at hresolve
  cases hresolve

end Resolver

end SchemaModels
