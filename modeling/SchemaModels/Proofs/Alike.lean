import SchemaModels.Proofs.Log

/-!
# Two runs side by side

A `Tolerance` says how two runs may differ: which warnings may stand for each other, and which
failures. `Logged.Alike T R x y` says that two steps differ in nothing else. Their warnings are
tolerated one by one, and they end in values that `R` relates or in failures that are tolerated; in
particular one succeeds iff the other does. `Task.Alike` says so of tasks, on every state, and that
both leave the same state. Steps in a row are alike if their parts are (`Alike.bind`), so that runs
are compared step by step.
-/

namespace SchemaModels

variable {α α' β β' σ : Type}

/-- How two runs may differ. Equal warnings and equal failures are always tolerated. -/
structure Tolerance where
  warning : String → String → Prop
  failure : Failure → Failure → Prop
  warning_refl : ∀ w, warning w w
  failure_refl : ∀ e, failure e e

namespace Tolerance

variable {T : Tolerance}

/-- Warnings that are tolerated one by one. -/
def Warnings (T : Tolerance) : List String → List String → Prop := List.Forall₂ T.warning

theorem warnings_refl (ws : List String) : T.Warnings ws ws := by
  induction ws with
  | nil => exact List.Forall₂.nil
  | cons w ws ih => exact List.Forall₂.cons (T.warning_refl w) ih

theorem warnings_nil : T.Warnings [] [] := List.Forall₂.nil

theorem Warnings.append {ws ws' vs vs' : List String} (h : T.Warnings ws ws')
    (h' : T.Warnings vs vs') : T.Warnings (ws ++ vs) (ws' ++ vs') :=
  List.rel_append h h'

/-- Equal values, each with the warnings about it. -/
def Told (T : Tolerance) (a b : α × List String) : Prop := a.1 = b.1 ∧ T.Warnings a.2 b.2

end Tolerance

variable {T : Tolerance} {R : α → α' → Prop} {S : β → β' → Prop}

/-- Outcomes that agree: related values, or failures that are tolerated. -/
def Outcome.Alike (T : Tolerance) (R : α → α' → Prop) : Outcome α → Outcome α' → Prop
  | .ok a, .ok b => R a b
  | .error e, .error f => T.failure e f
  | _, _ => False

theorem Outcome.alike_refl (o : Outcome α) : Outcome.Alike T Eq o o := by
  cases o with
  | ok a => exact rfl
  | error e => exact T.failure_refl e

theorem Outcome.Alike.mono {R' : α → α' → Prop} {o : Outcome α} {o' : Outcome α'}
    (h : Outcome.Alike T R o o') (hmono : ∀ a b, R a b → R' a b) : Outcome.Alike T R' o o' := by
  cases o with
  | ok a =>
    cases o' with
    | ok b => exact hmono a b h
    | error f => exact h.elim
  | error e =>
    cases o' with
    | ok b => exact h.elim
    | error f => exact h

/-- One outcome is a value iff the other is. -/
theorem Outcome.Alike.ok_iff {o : Outcome α} {o' : Outcome α'} (h : Outcome.Alike T R o o') :
    (∃ a, o = .ok a) ↔ ∃ b, o' = .ok b := by
  cases o with
  | ok a =>
    cases o' with
    | ok b => exact ⟨fun _ => ⟨b, rfl⟩, fun _ => ⟨a, rfl⟩⟩
    | error f => exact h.elim
  | error e =>
    cases o' with
    | ok b => exact h.elim
    | error f => simp

/-- Outcomes that agree on equal values are values together. -/
theorem Outcome.Alike.eq_ok_iff {o o' : Outcome α} (h : Outcome.Alike T Eq o o') {a : α} :
    o = .ok a ↔ o' = .ok a := by
  cases o with
  | ok b =>
    cases o' with
    | ok b' => rw [show b = b' from h]
    | error f => exact h.elim
  | error e =>
    cases o' with
    | ok b' => exact h.elim
    | error f => simp

/-! ## Logged steps -/

namespace Logged

/-- **Steps that agree** in their warnings and in their outcomes. -/
structure Alike (T : Tolerance) (R : α → α' → Prop) (x : Logged α) (y : Logged α') : Prop where
  warnings : T.Warnings (Log.warnings x.entries) (Log.warnings y.entries)
  outcome : Outcome.Alike T R x.outcome y.outcome

theorem alike_refl (x : Logged α) : Alike T Eq x x :=
  ⟨Tolerance.warnings_refl _, Outcome.alike_refl _⟩

theorem alike_pure {a : α} {b : α'} (h : R a b) : Alike T R (pure a) (pure b) :=
  ⟨Tolerance.warnings_nil, h⟩

/-- Entries other than warnings may differ as they like. -/
theorem alike_note {level : Log.Level} (h : level ≠ .warning) (message message' : String) :
    Alike T Eq (note level message) (note level message') := by
  have hnone : ∀ m, Log.warnings (note level m).entries = [] := fun m =>
    quiet_note h m () _ ⟨rfl, rfl⟩
  refine ⟨?_, rfl⟩
  rw [hnone, hnone]
  exact Tolerance.warnings_nil

variable {x : Logged α} {y : Logged α'} {f : α → Logged β} {g : α' → Logged β'}

/-- **Steps in a row are alike** if their parts are. -/
theorem Alike.bind (h : Alike T R x y) (hfg : ∀ a b, R a b → Alike T S (f a) (g b)) :
    Alike T S (x >>= f) (y >>= g) := by
  obtain ⟨es, o⟩ := x
  obtain ⟨es', o'⟩ := y
  obtain ⟨hws, ho⟩ := h
  cases o with
  | ok a =>
    cases o' with
    | ok b =>
      obtain ⟨hrest, hend⟩ := hfg a b ho
      refine ⟨?_, ?_⟩
      · rw [entries_bind, entries_bind, Log.warnings_append, Log.warnings_append]
        exact hws.append hrest
      · rw [outcome_bind, outcome_bind]
        exact hend
    | error e => exact ho.elim
  | error e =>
    cases o' with
    | ok b => exact ho.elim
    | error e' =>
      refine ⟨?_, ?_⟩
      · rw [entries_bind, entries_bind, List.append_nil, List.append_nil]
        exact hws
      · rw [outcome_bind, outcome_bind]
        exact ho

/-- The same step, and then steps that are alike. -/
theorem alike_bind_of_eq {g : α → Logged β'} (hfg : ∀ a, Alike T S (f a) (g a)) :
    Alike T S (x >>= f) (x >>= g) :=
  (alike_refl x).bind fun a _ h => h ▸ hfg a

end Logged

/-! ## Tasks -/

namespace Task

/-- **Tasks that agree**: on every state they leave the same state, warn alike and end alike. -/
def Alike (T : Tolerance) (R : α → α' → Prop) (x : Task σ α) (y : Task σ α') : Prop :=
  ∀ s, (x.run s).1 = (y.run s).1 ∧ Logged.Alike T R (x.run s).2 (y.run s).2

theorem alike_refl (x : Task σ α) : Alike T Eq x x := fun _ => ⟨rfl, Logged.alike_refl _⟩

theorem alike_lift {x : Logged α} {y : Logged α'} (h : Logged.Alike T R x y) :
    Alike T R (lift x : Task σ α) (lift y : Task σ α') := fun _ => ⟨rfl, h⟩

theorem alike_pure {a : α} {b : α'} (h : R a b) :
    Alike T R (pure a : Task σ α) (pure b : Task σ α') :=
  fun _ => ⟨rfl, Logged.alike_pure h⟩

variable {x : Task σ α} {y : Task σ α'} {f : α → Task σ β} {g : α' → Task σ β'}

theorem Alike.bind (h : Alike T R x y) (hfg : ∀ a b, R a b → Alike T S (f a) (g b)) :
    Alike T S (x >>= f) (y >>= g) := by
  intro s
  obtain ⟨hs, hws, ho⟩ := h s
  rcases hx : x.run s with ⟨s₁, es, o⟩
  rcases hy : y.run s with ⟨s₂, es', o'⟩
  rw [hx, hy] at hs hws ho
  simp only at hs
  subst hs
  cases o with
  | ok a =>
    cases o' with
    | ok b =>
      obtain ⟨hstate, hrest, hend⟩ := hfg a b ho s₁
      rw [run_bind_ok hx, run_bind_ok hy]
      refine ⟨hstate, ?_, hend⟩
      rw [Log.warnings_append, Log.warnings_append]
      exact hws.append hrest
    | error e => exact ho.elim
  | error e =>
    cases o' with
    | ok b => exact ho.elim
    | error e' =>
      rw [run_bind_error hx, run_bind_error hy]
      exact ⟨rfl, hws, ho⟩

theorem alike_bind_of_eq {g : α → Task σ β'} (hfg : ∀ a, Alike T S (f a) (g a)) :
    Alike T S (x >>= f) (x >>= g) :=
  (alike_refl x).bind fun a _ h => h ▸ hfg a

/-- **Of tasks that agree one succeeds iff the other does.** -/
theorem Alike.ends_ok_iff (h : Alike T R x y) (s : σ) :
    (∃ s' a, x.Ends s s' (.ok a)) ↔ ∃ s' b, y.Ends s s' (.ok b) := by
  have hiff := (h s).2.outcome.ok_iff
  constructor
  · rintro ⟨s', a, -, ha⟩
    obtain ⟨b, hb⟩ := hiff.mp ⟨a, ha⟩
    exact ⟨_, b, rfl, hb⟩
  · rintro ⟨s', b, -, hb⟩
    obtain ⟨a, ha⟩ := hiff.mpr ⟨b, hb⟩
    exact ⟨_, a, rfl, ha⟩

/-- Where both succeed, they leave the same state and related values. -/
theorem Alike.of_ends_ok (h : Alike T R x y) {s s' s'' : σ} {a : α} {b : α'}
    (hx : x.Ends s s' (.ok a)) (hy : y.Ends s s'' (.ok b)) : s' = s'' ∧ R a b := by
  obtain ⟨hs, -, ho⟩ := h s
  rw [hx.1, hy.1] at hs
  rw [hx.2, hy.2] at ho
  exact ⟨hs, ho⟩

end Task

end SchemaModels
