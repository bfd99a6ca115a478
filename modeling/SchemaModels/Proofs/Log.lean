import SchemaModels.Proofs.Task

/-!
# What steps warn about

`Log.warnings` picks the warnings out of a log. `Logged.Warns x a ws` says that a step succeeds with
`a` and that `ws` are its warnings, and `Task.Warns` says so of a task, with the states before and
after it. Warnings of steps in a row follow each other (`warns_bind_iff`), and a step that is
`Quiet` adds none. A step `Reports` its warnings when the value that it gives says which they are.
-/

namespace SchemaModels

variable {α β σ : Type}

/-- The messages of the warnings in a log, in order. -/
def Log.warnings (entries : List Log.Entry) : List String :=
  (entries.filter (·.level = .warning)).map (·.message)

theorem Log.warnings_append (es es' : List Log.Entry) :
    warnings (es ++ es') = warnings es ++ warnings es' := by
  unfold warnings
  rw [List.filter_append, List.map_append]

theorem Log.Level.debug_ne_warning : Level.debug ≠ .warning := by decide

theorem Log.Level.info_ne_warning : Level.info ≠ .warning := by decide

/-! ## Logged steps -/

namespace Logged

/-- The step succeeds with a value, and these are the warnings that it writes. -/
def Warns (x : Logged α) (a : α) (ws : List String) : Prop :=
  x.outcome = .ok a ∧ Log.warnings x.entries = ws

variable {x : Logged α} {f : α → Logged β} {a : α} {b : β} {ws : List String}

theorem warns_pure_iff {a' : α} : (pure a : Logged α).Warns a' ws ↔ a = a' ∧ ws = [] := by
  unfold Warns
  rw [outcome_pure, entries_pure, Except.ok.injEq]
  exact and_congr_right fun _ => eq_comm

/-- **Warnings of steps in a row** follow each other. -/
theorem warns_bind_iff : (x >>= f).Warns b ws ↔
    ∃ a ws₁ ws₂, x.Warns a ws₁ ∧ (f a).Warns b ws₂ ∧ ws = ws₁ ++ ws₂ := by
  unfold Warns
  rw [outcome_bind_eq_ok, entries_bind, Log.warnings_append]
  constructor
  · rintro ⟨⟨a, hx, hf⟩, rfl⟩
    rw [hx]
    exact ⟨a, _, _, ⟨rfl, rfl⟩, ⟨hf, rfl⟩, rfl⟩
  · rintro ⟨a, _, _, ⟨hx, rfl⟩, ⟨hf, rfl⟩, rfl⟩
    rw [hx]
    exact ⟨⟨a, rfl, hf⟩, rfl⟩

/-- The step writes no warnings if it succeeds. -/
def Quiet (x : Logged α) : Prop := ∀ a ws, x.Warns a ws → ws = []

theorem quiet_pure (a : α) : Quiet (pure a) := fun _ _ h => (warns_pure_iff.mp h).2

theorem quiet_ofOutcome (x : Outcome α) : Quiet (ofOutcome x) := fun _ _ h => h.2.symm

theorem quiet_ofChecked (x : Except Fault α) : Quiet (ofChecked x) := fun _ _ h => h.2.symm

theorem quiet_note {level : Log.Level} (h : level ≠ .warning) (message : String) :
    Quiet (note level message) := by
  intro _ _ hw
  rw [← hw.2]
  unfold note Log.warnings
  rw [List.filter_cons_of_neg (by simpa using h)]
  rfl

theorem Quiet.bind (hx : Quiet x) (hf : ∀ a, Quiet (f a)) : Quiet (x >>= f) := by
  intro b ws h
  obtain ⟨a, ws₁, ws₂, h₁, h₂, rfl⟩ := warns_bind_iff.mp h
  rw [hx a ws₁ h₁, hf a b ws₂ h₂, List.append_nil]

theorem quiet_mapM {g : α → Logged β} (hg : ∀ a, Quiet (g a)) (as : List α) :
    Quiet (as.mapM g) := by
  induction as with
  | nil =>
    rw [List.mapM_nil]
    exact quiet_pure []
  | cons a as ih =>
    rw [List.mapM_cons]
    exact (hg a).bind fun b => ih.bind fun bs => quiet_pure (b :: bs)

/-- After a quiet step all warnings are those of the next. -/
theorem Quiet.warns_of_bind (hx : Quiet x) (h : (x >>= f).Warns b ws) :
    ∃ a, x.outcome = .ok a ∧ (f a).Warns b ws := by
  obtain ⟨a, ws₁, ws₂, h₁, h₂, rfl⟩ := warns_bind_iff.mp h
  rw [hx a ws₁ h₁, List.nil_append]
  exact ⟨a, h₁.1, h₂⟩

/-- What the value of the step says about warnings are those that it writes. -/
def Reports (reported : α → List String) (x : Logged α) : Prop :=
  ∀ a ws, x.Warns a ws → ws = reported a

theorem Quiet.reports_bind {reported : β → List String} (hx : Quiet x)
    (hf : ∀ a, Reports reported (f a)) : Reports reported (x >>= f) := by
  intro b ws h
  obtain ⟨a, -, h⟩ := hx.warns_of_bind h
  exact hf a b ws h

end Logged

/-! ## Tasks -/

namespace Task

/-- From the state `s` the task succeeds in `s'` with a value, and these are the warnings that it
writes. -/
def Warns (x : Task σ α) (s s' : σ) (a : α) (ws : List String) : Prop :=
  (x.run s).1 = s' ∧ (x.run s).2.Warns a ws

variable {x : Task σ α} {f : α → Task σ β} {s s' s'' : σ} {a : α} {b : β} {ws : List String}

theorem Warns.ends (h : x.Warns s s' a ws) : x.Ends s s' (.ok a) := ⟨h.1, h.2.1⟩

/-- **Warnings of tasks in a row** follow each other. -/
theorem warns_bind_iff : (x >>= f).Warns s s'' b ws ↔
    ∃ a s' ws₁ ws₂, x.Warns s s' a ws₁ ∧ (f a).Warns s' s'' b ws₂ ∧ ws = ws₁ ++ ws₂ := by
  rcases hx : x.run s with ⟨s₁, entries, o⟩
  cases o with
  | error e =>
    unfold Warns Logged.Warns
    rw [run_bind_error hx, hx]
    simp
  | ok a =>
    unfold Warns Logged.Warns
    rw [run_bind_ok hx, hx, Log.warnings_append]
    constructor
    · rintro ⟨h₁, h₂, rfl⟩
      exact ⟨a, s₁, _, _, ⟨rfl, rfl, rfl⟩, ⟨h₁, h₂, rfl⟩, rfl⟩
    · rintro ⟨a', s', _, _, ⟨rfl, ha, rfl⟩, ⟨h₁, h₂, rfl⟩, rfl⟩
      cases ha
      exact ⟨h₁, h₂, rfl⟩

/-- The task writes no warnings if it succeeds. -/
def Quiet (x : Task σ α) : Prop := ∀ s s' a ws, x.Warns s s' a ws → ws = []

theorem quiet_pure (a : α) : Quiet (pure a : Task σ α) :=
  fun _ _ _ _ h => (Logged.warns_pure_iff.mp h.2).2

theorem quiet_lift {x : Logged α} (h : x.Quiet) : Quiet (lift x : Task σ α) :=
  fun _ _ a ws hw => h a ws hw.2

theorem quiet_note {level : Log.Level} (h : level ≠ .warning) (message : String) :
    Quiet (note level message : Task σ Unit) :=
  quiet_lift (Logged.quiet_note h message)

theorem quiet_refuse (p : Problem) : Quiet (refuse p : Task σ α) := by
  intro s s' a ws h
  cases h.2.1

theorem quiet_get : Quiet (get : Task σ σ) := fun _ _ _ _ h => (Logged.warns_pure_iff.mp h.2).2

theorem quiet_set (t : σ) : Quiet (set t : Task σ Unit) :=
  fun _ _ _ _ h => (Logged.warns_pure_iff.mp h.2).2

theorem Quiet.bind (hx : Quiet x) (hf : ∀ a, Quiet (f a)) : Quiet (x >>= f) := by
  intro s s'' b ws h
  obtain ⟨a, s', ws₁, ws₂, h₁, h₂, rfl⟩ := warns_bind_iff.mp h
  rw [hx s s' a ws₁ h₁, hf a s' s'' b ws₂ h₂, List.append_nil]

/-- After a quiet task all warnings are those of the next. -/
theorem Quiet.warns_of_bind (hx : Quiet x) (h : (x >>= f).Warns s s'' b ws) :
    ∃ a s', x.Ends s s' (.ok a) ∧ (f a).Warns s' s'' b ws := by
  obtain ⟨a, s', ws₁, ws₂, h₁, h₂, rfl⟩ := warns_bind_iff.mp h
  rw [hx s s' a ws₁ h₁, List.nil_append]
  exact ⟨a, s', h₁.ends, h₂⟩

/-- Before a quiet task all warnings are those of the first. -/
theorem Quiet.warns_bind (hf : ∀ a, Quiet (f a)) (h : (x >>= f).Warns s s'' b ws) :
    ∃ a s', x.Warns s s' a ws ∧ (f a).Ends s' s'' (.ok b) := by
  obtain ⟨a, s', ws₁, ws₂, h₁, h₂, rfl⟩ := warns_bind_iff.mp h
  rw [hf a s' s'' b ws₂ h₂, List.append_nil]
  exact ⟨a, s', h₁, h₂.ends⟩

end Task

end SchemaModels
