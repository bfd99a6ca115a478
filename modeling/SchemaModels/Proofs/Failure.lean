import SchemaModels.Proofs.Task

/-!
# Kinds of failures

`FailsOnly p x` says that a check fails with nothing but what `p` holds of. For checks in a row this
is a matter of each check that is reached (`failsOnly_bind_iff`, `failsOnly_mapM_iff`).
`Logged.Raises` says the same of logged steps.
-/

namespace SchemaModels

variable {ε ε' α β : Type}

/-! ## Checks -/

/-- All failures that the check can end in are of the kind. -/
def FailsOnly (p : ε → Prop) (x : Except ε α) : Prop := ∀ e, x = .error e → p e

section

variable {p q : ε → Prop} {x : Except ε α} {f : α → Except ε β} {e : ε}

theorem failsOnly_ok (a : α) : FailsOnly p (.ok a : Except ε α) := fun _ h => by cases h

theorem failsOnly_error_iff : FailsOnly p (.error e : Except ε α) ↔ p e := by
  unfold FailsOnly
  simp

theorem FailsOnly.mono (h : FailsOnly p x) (hpq : ∀ e, p e → q e) : FailsOnly q x :=
  fun e he => hpq e (h e he)

/-- **Two checks in a row**: the second counts if it is reached. -/
theorem failsOnly_bind_iff :
    FailsOnly p (x >>= f) ↔ FailsOnly p x ∧ ∀ a, x = .ok a → FailsOnly p (f a) := by
  cases x with
  | error e => simp [FailsOnly, bind, Except.bind]
  | ok a => simp [FailsOnly, bind, Except.bind]

theorem FailsOnly.bind (hx : FailsOnly p x) (hf : ∀ a, FailsOnly p (f a)) : FailsOnly p (x >>= f) :=
  failsOnly_bind_iff.mpr ⟨hx, fun a _ => hf a⟩

theorem FailsOnly.ite {c : Prop} [Decidable c] {y : Except ε α} (hx : FailsOnly p x)
    (hy : FailsOnly p y) : FailsOnly p (if c then x else y) := by
  split
  · exact hx
  · exact hy

theorem failsOnly_map_iff {g : α → β} : FailsOnly p (g <$> x) ↔ FailsOnly p x := by
  cases x with
  | error e => simp [FailsOnly, Functor.map, Except.map]
  | ok a => simp [FailsOnly, Functor.map, Except.map]

theorem failsOnly_mapError_iff {g : ε → ε'} {q : ε' → Prop} :
    FailsOnly q (x.mapError g) ↔ FailsOnly (fun e => q (g e)) x := by
  cases x with
  | error e => simp [FailsOnly, Except.mapError]
  | ok a => simp [FailsOnly, Except.mapError]

/-- A check of a kind that no failure is of goes through. -/
theorem failsOnly_iff_exists (h : ∀ e, x = .error e → ¬ p e) : FailsOnly p x ↔ ∃ a, x = .ok a := by
  cases x with
  | error e => simp [FailsOnly, h e rfl]
  | ok a => simp [FailsOnly]

/-- A member that checks one after the other come to: all before it go through. -/
def Reached (f : α → Except ε β) (xs : List α) (y : α) : Prop :=
  ∃ before after, xs = before ++ y :: after ∧ ∀ z ∈ before, ∃ b, f z = .ok b

theorem not_reached_nil {y : α} : ¬ Reached f [] y := by
  rintro ⟨before, after, h, -⟩
  simp at h

/-- The first member is come to, and those after it if it goes through. -/
theorem reached_cons_iff {x y : α} {xs : List α} :
    Reached f (x :: xs) y ↔ y = x ∨ (∃ b, f x = .ok b) ∧ Reached f xs y := by
  constructor
  · rintro ⟨before, after, hsplit, hbefore⟩
    cases before with
    | nil =>
      cases hsplit
      exact Or.inl rfl
    | cons z before =>
      cases hsplit
      obtain ⟨hx, hbefore⟩ := List.forall_mem_cons.mp hbefore
      exact Or.inr ⟨hx, before, after, rfl, hbefore⟩
  · rintro (rfl | ⟨hx, before, after, rfl, hbefore⟩)
    · exact ⟨[], xs, rfl, by simp⟩
    · exact ⟨x :: before, after, rfl, List.forall_mem_cons.mpr ⟨hx, hbefore⟩⟩

theorem Reached.mem {xs : List α} {y : α} (h : Reached f xs y) : y ∈ xs := by
  obtain ⟨before, after, rfl, -⟩ := h
  exact List.mem_append_right before List.mem_cons_self

/-- **Checks one after the other**: each counts that they come to. -/
theorem failsOnly_mapM_iff {xs : List α} :
    FailsOnly p (xs.mapM f) ↔ ∀ y, Reached f xs y → FailsOnly p (f y) := by
  induction xs with
  | nil =>
    rw [List.mapM_nil]
    exact iff_of_true (failsOnly_ok []) fun y h => absurd h not_reached_nil
  | cons x xs ih =>
    have hrest : (∀ b, f x = .ok b → FailsOnly p (xs.mapM f >>= fun bs => pure (b :: bs))) ↔
        ((∃ b, f x = .ok b) → FailsOnly p (xs.mapM f)) := by
      rw [forall_exists_index]
      refine forall₂_congr fun b _ => failsOnly_bind_iff.trans ⟨And.left, fun h => ⟨h, ?_⟩⟩
      exact fun bs _ => failsOnly_ok (b :: bs)
    rw [List.mapM_cons, failsOnly_bind_iff, hrest, ih]
    simp only [reached_cons_iff]
    constructor
    · rintro ⟨hx, hxs⟩ y (rfl | ⟨hgoes, hy⟩)
      · exact hx
      · exact hxs hgoes y hy
    · exact fun h => ⟨h x (Or.inl rfl), fun hgoes y hy => h y (Or.inr ⟨hgoes, hy⟩)⟩

end

/-- A check that passes its faults on fails with nothing of a kind that no fault is of just if it
goes through. -/
theorem failsOnly_ofFault_iff {p : Failure → Prop} (h : ∀ f, ¬ p (.fault f)) {x : Except Fault α} :
    FailsOnly p (Outcome.ofFault x) ↔ ∃ a, x = .ok a := by
  cases x with
  | error f => exact iff_of_false (fun hp => h f (hp _ rfl)) (by simp)
  | ok a => exact iff_of_true (failsOnly_ok a) ⟨a, rfl⟩

/-- So a row that begins with such a check goes on. -/
theorem failsOnly_ofFault_bind_iff {p : Failure → Prop} (h : ∀ f, ¬ p (.fault f))
    {x : Except Fault α} {f : α → Outcome β} :
    FailsOnly p (Outcome.ofFault x >>= f) ↔ ∃ a, x = .ok a ∧ FailsOnly p (f a) := by
  rw [failsOnly_bind_iff, failsOnly_ofFault_iff h]
  cases x with
  | error f => simp
  | ok a => simp

/-! ## Categories -/

/-- The failure is a problem of the given category. -/
def Failure.IsOf (category : Category) (e : Failure) : Prop :=
  ∃ p, e = .problem p ∧ p.report.category = category

theorem Failure.not_isOf_fault (category : Category) (f : Fault) : ¬ IsOf category (.fault f) := by
  rintro ⟨p, hp, -⟩
  cases hp

/-! ## Logged steps -/

namespace Logged

variable {p : Failure → Prop} {x : Logged α} {f : α → Logged β}

/-- All failures that the step can end in are of the kind. -/
def Raises (p : Failure → Prop) (x : Logged α) : Prop := FailsOnly p x.outcome

theorem raises_of_ok {a : α} (h : x.outcome = .ok a) : Raises p x := by
  unfold Raises
  rw [h]
  exact failsOnly_ok a

theorem raises_pure (a : α) : Raises p (pure a : Logged α) := raises_of_ok rfl

theorem raises_note (level : Log.Level) (message : String) : Raises p (note level message) :=
  raises_of_ok rfl

theorem raises_refuse {problem : Problem} (h : p (.problem problem)) :
    Raises p (refuse problem : Logged α) := failsOnly_error_iff.mpr h

/-- A check raises faults only. -/
theorem raises_ofChecked (h : ∀ f, p (.fault f)) (x : Except Fault α) : Raises p (ofChecked x) := by
  intro e he
  obtain ⟨f, -, rfl⟩ := ofFault_eq_error_iff.mp he
  exact h f

theorem raises_bind_iff :
    Raises p (x >>= f) ↔ Raises p x ∧ ∀ a, x.outcome = .ok a → Raises p (f a) := by
  unfold Raises
  rw [outcome_bind]
  exact failsOnly_bind_iff

/-- A row of steps that begins with a check goes on. -/
theorem raises_ofChecked_bind_iff (h : ∀ f, ¬ p (.fault f)) {x : Except Fault α} :
    Raises p (ofChecked x >>= f) ↔ ∃ a, x = .ok a ∧ Raises p (f a) := by
  unfold Raises
  rw [outcome_bind]
  exact failsOnly_ofFault_bind_iff h

/-- What two steps in a row can fail with, the second on what the first gives. -/
theorem Raises.bind (hx : Raises p x) (hf : ∀ a, x.outcome = .ok a → Raises p (f a)) :
    Raises p (x >>= f) :=
  raises_bind_iff.mpr ⟨hx, hf⟩

theorem raises_mapM_iff {as : List α} : Raises p (as.mapM f) ↔
    ∀ a, Reached (fun a => (f a).outcome) as a → Raises p (f a) := by
  unfold Raises
  rw [outcome_mapM]
  exact failsOnly_mapM_iff

theorem raises_mapM {as : List α} (h : ∀ a ∈ as, Raises p (f a)) : Raises p (as.mapM f) :=
  raises_mapM_iff.mpr fun a ha => h a ha.mem

end Logged

end SchemaModels
