import Mathlib.Data.List.Forall2
import SchemaModels.Task

/-!
# How steps end

`Logged` and `Task` keep a log beside the outcome. `Task.Ends x s s' o` leaves the log out: from the
state `s` the task ends in `s'` with the outcome `o`. `ends_bind_ok_iff` and `ends_bind_error_iff`
take a row of tasks apart, so that what a run does can be read off its steps: a row that succeeds
has gone through all of them, and one that fails has stopped at the first that fails, in the state
which that one leaves. `outcome_bind_eq_ok` does the same for logged steps, and
`except_bind_eq_ok_iff` for checks.
-/

namespace SchemaModels

variable {ε α β σ : Type}

theorem except_bind_eq_ok_iff {x : Except ε α} {f : α → Except ε β} {b : β} :
    (x >>= f) = .ok b ↔ ∃ a, x = .ok a ∧ f a = .ok b := by
  cases x with
  | error e => simp [bind, Except.bind]
  | ok a => simp [bind, Except.bind]

theorem exists_bind_eq_ok_iff {x : Except ε α} {f : α → Except ε β} :
    (∃ b, (x >>= f) = .ok b) ↔ ∃ a, x = .ok a ∧ ∃ b, f a = .ok b := by
  cases x with
  | error e => simp [bind, Except.bind]
  | ok a => simp [bind, Except.bind]

/-- A row that begins with one check or another. -/
theorem except_ite_bind_eq_ok_iff {c : Prop} [Decidable c] {x y : Except ε α} {f : α → Except ε β}
    {b : β} : (if c then x >>= f else y >>= f) = .ok b ↔
      ∃ a, (if c then x else y) = .ok a ∧ f a = .ok b := by
  split
  · exact except_bind_eq_ok_iff
  · exact except_bind_eq_ok_iff

theorem except_bind_eq_error_iff {x : Except ε α} {f : α → Except ε β} {e : ε} :
    (x >>= f) = .error e ↔ x = .error e ∨ ∃ a, x = .ok a ∧ f a = .error e := by
  cases x with
  | error e => simp [bind, Except.bind]
  | ok a => simp [bind, Except.bind]

theorem except_map_eq_ok_iff {x : Except ε α} {f : α → β} {b : β} :
    f <$> x = .ok b ↔ ∃ a, x = .ok a ∧ f a = b := by
  cases x with
  | error e => simp [Functor.map, Except.map]
  | ok a => simp [Functor.map, Except.map]

theorem toOption_map_eq_some_iff {x : Except ε α} {f : α → β} {b : β} :
    x.toOption.map f = some b ↔ ∃ a, x = .ok a ∧ f a = b := by
  cases x with
  | error e => simp [Except.toOption]
  | ok a => simp [Except.toOption]

/-- Checks one after the other succeed iff each of them does. -/
theorem except_mapM_eq_ok_iff {f : α → Except ε β} {xs : List α} {ys : List β} :
    xs.mapM f = .ok ys ↔ List.Forall₂ (fun x y => f x = .ok y) xs ys := by
  induction xs generalizing ys with
  | nil =>
    rw [List.mapM_nil, List.forall₂_nil_left_iff]
    exact ⟨fun h => by cases h; rfl, fun h => by rw [h]; rfl⟩
  | cons x xs ih =>
    rw [List.mapM_cons, except_bind_eq_ok_iff, List.forall₂_cons_left_iff]
    constructor
    · rintro ⟨y, hy, h⟩
      obtain ⟨ys', hys, h⟩ := except_bind_eq_ok_iff.mp h
      cases h
      exact ⟨y, ys', hy, ih.mp hys, rfl⟩
    · rintro ⟨y, ys', hy, hys, rfl⟩
      exact ⟨y, hy, except_bind_eq_ok_iff.mpr ⟨ys', ih.mpr hys, rfl⟩⟩

/-- A list whose members are each related to something is related to a list. -/
theorem exists_forall₂ {r : α → β → Prop} {xs : List α} (h : ∀ x ∈ xs, ∃ y, r x y) :
    ∃ ys, List.Forall₂ r xs ys := by
  induction xs with
  | nil => exact ⟨[], .nil⟩
  | cons x xs ih =>
    obtain ⟨⟨y, hy⟩, hxs⟩ := List.forall_mem_cons.mp h
    obtain ⟨ys, hys⟩ := ih hxs
    exact ⟨y :: ys, .cons hy hys⟩

/-- Checks that each go through go through in a row. -/
theorem exists_mapM_eq_ok {f : α → Except ε β} {xs : List α} (h : ∀ x ∈ xs, ∃ y, f x = .ok y) :
    ∃ ys, xs.mapM f = .ok ys :=
  (exists_forall₂ h).imp fun _ => except_mapM_eq_ok_iff.mpr

theorem exists_right_of_forall₂ {r : α → β → Prop} {xs : List α} {ys : List β}
    (h : List.Forall₂ r xs ys) {x : α} (hx : x ∈ xs) : ∃ y ∈ ys, r x y := by
  induction h with
  | nil => cases hx
  | @cons a b as bs hab _ ih =>
    rcases List.mem_cons.mp hx with rfl | hx
    · exact ⟨b, List.mem_cons_self, hab⟩
    · obtain ⟨y, hy, hr⟩ := ih hx
      exact ⟨y, List.mem_cons_of_mem b hy, hr⟩

theorem exists_left_of_forall₂ {r : α → β → Prop} {xs : List α} {ys : List β}
    (h : List.Forall₂ r xs ys) {y : β} (hy : y ∈ ys) : ∃ x ∈ xs, r x y :=
  exists_right_of_forall₂ h.flip hy

/-- Related lists stay so under a relation that is weaker on their members. -/
theorem forall₂_imp_of_mem {p q : α → β → Prop} {xs : List α} {ys : List β}
    (h : ∀ x ∈ xs, ∀ y, p x y → q x y) (hxs : List.Forall₂ p xs ys) : List.Forall₂ q xs ys := by
  induction hxs with
  | nil => exact .nil
  | @cons x y xs ys hxy _ ih =>
    obtain ⟨hx, hxs⟩ := List.forall_mem_cons.mp h
    exact .cons (hx y hxy) (ih hxs)

/-- What checks gave back is what they give back. -/
theorem exists_mem_iff_of_forall₂ {f : α → Except ε β} {xs : List α} {ys : List β} {p : β → Prop}
    (h : List.Forall₂ (fun x y => f x = .ok y) xs ys) :
    (∃ y ∈ ys, p y) ↔ ∃ x ∈ xs, ∃ y, f x = .ok y ∧ p y := by
  constructor
  · rintro ⟨y, hy, hp⟩
    obtain ⟨x, hx, hxy⟩ := exists_left_of_forall₂ h hy
    exact ⟨x, hx, y, hxy, hp⟩
  · rintro ⟨x, hx, y, hxy, hp⟩
    obtain ⟨z, hz, hxz⟩ := exists_right_of_forall₂ h hx
    rw [hxy, Except.ok.injEq] at hxz
    exact ⟨z, hz, hxz ▸ hp⟩

theorem except_filterAuxM_eq_ok_iff {p : α → Except ε Bool} {xs acc ys : List α} :
    List.filterAuxM p xs acc = .ok ys ↔ (∀ x ∈ xs, ∃ b, p x = .ok b) ∧
      ys = (xs.filter fun x => (p x).toOption.getD false).reverse ++ acc := by
  induction xs generalizing acc with
  | nil =>
    rw [List.filterAuxM]
    simp [pure, Except.pure, eq_comm]
  | cons x xs ih =>
    rw [List.filterAuxM, except_bind_eq_ok_iff, List.forall_mem_cons]
    cases hp : p x with
    | error e => simp
    | ok b =>
      have hkept : (p x).toOption.getD false = b := by rw [hp]; rfl
      cases b with
      | false => simp [ih, hkept]
      | true => simp [ih, hkept]

/-- A checked filter succeeds iff each check does, and keeps what passes, in order. -/
theorem except_filterM_eq_ok_iff {p : α → Except ε Bool} {xs ys : List α} :
    xs.filterM p = .ok ys ↔
      (∀ x ∈ xs, ∃ b, p x = .ok b) ∧ ys = xs.filter fun x => (p x).toOption.getD false := by
  unfold List.filterM
  rw [except_bind_eq_ok_iff]
  simp only [except_filterAuxM_eq_ok_iff]
  constructor
  · rintro ⟨_, ⟨hp, rfl⟩, h⟩
    cases h
    exact ⟨hp, by simp⟩
  · rintro ⟨hp, rfl⟩
    exact ⟨_, ⟨hp, rfl⟩, by simp [pure, Except.pure]⟩

/-- A checked filter keeps the order of what it keeps. -/
theorem except_filterM_eq_ok {p : α → Except ε Bool} {xs ys : List α}
    (h : xs.filterM p = .ok ys) : ys.Sublist xs := by
  rw [(except_filterM_eq_ok_iff.mp h).2]
  exact List.filter_sublist

/-- Checks go through just if each of them does. -/
theorem except_forM_eq_ok_iff {f : α → Except ε Unit} {xs : List α} :
    xs.forM f = .ok () ↔ ∀ x ∈ xs, f x = .ok () := by
  induction xs with
  | nil => exact iff_of_true rfl (by simp)
  | cons x xs ih =>
    rw [List.forall_mem_cons, ← ih]
    refine except_bind_eq_ok_iff.trans ⟨?_, fun h => ⟨(), h⟩⟩
    rintro ⟨_, h⟩
    exact h

/-- A step that only passes faults on succeeds as the check does. -/
@[simp] theorem ofFault_eq_ok_iff {x : Except Fault α} {a : α} :
    Outcome.ofFault x = .ok a ↔ x = .ok a := by
  cases x <;> simp [Outcome.ofFault]

@[simp] theorem ofFault_eq_error_iff {x : Except Fault α} {e : Failure} :
    Outcome.ofFault x = .error e ↔ ∃ f, x = .error f ∧ e = .fault f := by
  cases x <;> simp [Outcome.ofFault, eq_comm]

/-! ## Logged steps -/

namespace Logged

@[simp] theorem outcome_note (l : Log.Level) (m : String) : (note l m).outcome = .ok () := rfl

@[simp] theorem outcome_ofOutcome (x : Outcome α) : (ofOutcome x).outcome = x := rfl

@[simp] theorem outcome_ofChecked (x : Except Fault α) :
    (ofChecked x).outcome = Outcome.ofFault x := rfl

@[simp] theorem outcome_refuse (p : Problem) :
    (refuse p : Logged α).outcome = .error (.problem p) := rfl

theorem ofChecked_ok (a : α) : ofChecked (.ok a) = pure a := rfl

theorem outcome_bind_eq_ok {x : Logged α} {f : α → Logged β} {b : β} :
    (x >>= f).outcome = .ok b ↔ ∃ a, x.outcome = .ok a ∧ (f a).outcome = .ok b := by
  rw [outcome_bind, except_bind_eq_ok_iff]

theorem outcome_bind_eq_error {x : Logged α} {f : α → Logged β} {e : Failure} :
    (x >>= f).outcome = .error e ↔
      x.outcome = .error e ∨ ∃ a, x.outcome = .ok a ∧ (f a).outcome = .error e := by
  rw [outcome_bind, except_bind_eq_error_iff]

instance : LawfulMonad Logged := .mk' _
  (by
    rintro α ⟨es, o⟩
    cases o <;> simp [Functor.map, Logged.bind, Logged.pure])
  (fun a f => by simp [bind, Logged.bind, pure, Logged.pure])
  (by
    rintro α β γ ⟨es, o⟩ f g
    cases o with
    | error e => rfl
    | ok a =>
      simp only [bind, Logged.bind]
      cases (f a).outcome <;> simp)

/-- The outcome of steps one after the other is that of their outcomes. -/
theorem outcome_mapM (f : α → Logged β) (xs : List α) :
    (xs.mapM f).outcome = xs.mapM fun x => (f x).outcome := by
  induction xs with
  | nil => rfl
  | cons x xs ih =>
    rw [List.mapM_cons, List.mapM_cons, outcome_bind]
    refine congrArg _ (funext fun y => ?_)
    rw [outcome_bind, ih]
    rfl

/-- Steps one after the other succeed iff each of them does. -/
theorem outcome_mapM_eq_ok_iff {f : α → Logged β} {xs : List α} {ys : List β} :
    (xs.mapM f).outcome = .ok ys ↔ List.Forall₂ (fun x y => (f x).outcome = .ok y) xs ys := by
  rw [outcome_mapM, except_mapM_eq_ok_iff]

end Logged

/-! ## Tasks -/

namespace Task

/-- From the state `s` the task ends in `s'` with the outcome `o`. -/
def Ends (x : Task σ α) (s s' : σ) (o : Outcome α) : Prop :=
  (x.run s).1 = s' ∧ (x.run s).2.outcome = o

variable {s s' : σ}

theorem ends_run (x : Task σ α) (s : σ) : x.Ends s (x.run s).1 (x.run s).2.outcome :=
  ⟨rfl, rfl⟩

/-- A run that is seen to succeed ends in a success. -/
theorem exists_ends_ok {x : Task σ α} (h : (x.run s).2.outcome.toOption.isSome = true) :
    ∃ a, x.Ends s (x.run s).1 (.ok a) := by
  cases hx : (x.run s).2.outcome with
  | error e =>
    rw [hx] at h
    cases h
  | ok a => exact ⟨a, rfl, hx⟩

theorem ends_pure_iff {a : α} {o : Outcome α} :
    (pure a : Task σ α).Ends s s' o ↔ s = s' ∧ .ok a = o := Iff.rfl

theorem ends_lift_iff {x : Logged α} {o : Outcome α} :
    (lift x : Task σ α).Ends s s' o ↔ s = s' ∧ x.outcome = o := Iff.rfl

theorem ends_refuse_iff {p : Problem} {o : Outcome α} :
    (refuse p : Task σ α).Ends s s' o ↔ s = s' ∧ .error (.problem p) = o := Iff.rfl

/-- A task that looks at the state goes on with it. -/
theorem ends_get_bind_iff {f : σ → Task σ β} {o : Outcome β} :
    (get >>= f).Ends s s' o ↔ (f s).Ends s s' o := Iff.rfl

/-- **A row of tasks succeeds** iff both parts do, the second on what the first leaves. -/
theorem ends_bind_ok_iff {x : Task σ α} {f : α → Task σ β} {s'' : σ} {b : β} :
    (x >>= f).Ends s s'' (.ok b) ↔
      ∃ a s', x.Ends s s' (.ok a) ∧ (f a).Ends s' s'' (.ok b) := by
  rcases hx : x.run s with ⟨s₁, entries, o⟩
  cases o with
  | error e =>
    unfold Ends
    rw [run_bind_error hx, hx]
    simp
  | ok a =>
    unfold Ends
    rw [run_bind_ok hx, hx]
    constructor
    · rintro ⟨h₁, h₂⟩
      exact ⟨a, s₁, ⟨rfl, rfl⟩, h₁, h₂⟩
    · rintro ⟨a', s', ⟨rfl, ha⟩, h⟩
      cases ha
      exact h

/-- **A row of tasks fails** iff the first part does, or the second on what the first leaves. -/
theorem ends_bind_error_iff {x : Task σ α} {f : α → Task σ β} {s'' : σ} {e : Failure} :
    (x >>= f).Ends s s'' (.error e) ↔
      x.Ends s s'' (.error e) ∨ ∃ a s', x.Ends s s' (.ok a) ∧ (f a).Ends s' s'' (.error e) := by
  rcases hx : x.run s with ⟨s₁, entries, o⟩
  cases o with
  | error e' =>
    unfold Ends
    rw [run_bind_error hx, hx]
    simp
  | ok a =>
    unfold Ends
    rw [run_bind_ok hx, hx]
    constructor
    · rintro ⟨h₁, h₂⟩
      exact Or.inr ⟨a, s₁, ⟨rfl, rfl⟩, h₁, h₂⟩
    · rintro (⟨-, h⟩ | ⟨a', s', ⟨rfl, ha⟩, h⟩)
      · cases h
      · cases ha
        exact h

/-- After a task that succeeds the row ends as the next one does. -/
theorem Ends.bind {x : Task σ α} {f : α → Task σ β} {s'' : σ} {a : α} {o : Outcome β}
    (hx : x.Ends s s' (.ok a)) (hf : (f a).Ends s' s'' o) : (x >>= f).Ends s s'' o := by
  cases o with
  | ok b => exact ends_bind_ok_iff.mpr ⟨a, s', hx, hf⟩
  | error e => exact ends_bind_error_iff.mpr (Or.inr ⟨a, s', hx, hf⟩)

/-- A task that fails ends the row. -/
theorem Ends.bind_error {x : Task σ α} {f : α → Task σ β} {e : Failure}
    (hx : x.Ends s s' (.error e)) : (x >>= f).Ends s s' (.error e) :=
  ends_bind_error_iff.mpr (Or.inl hx)

/-- A task ends in one way only. -/
theorem Ends.unique {x : Task σ α} {s'' : σ} {o o' : Outcome α} (h : x.Ends s s' o)
    (h' : x.Ends s s'' o') : s' = s'' ∧ o = o' :=
  ⟨h.1.symm.trans h'.1, h.2.symm.trans h'.2⟩

theorem ends_discard_ok_iff {x : Task σ α} {u : Unit} :
    (discard x : Task σ Unit).Ends s s' (.ok u) ↔ ∃ a, x.Ends s s' (.ok a) := by
  have hd : (discard x : Task σ Unit) = x >>= fun _ => pure () := rfl
  rw [hd, ends_bind_ok_iff]
  constructor
  · rintro ⟨a, s', hx, rfl, -⟩
    exact ⟨a, hx⟩
  · rintro ⟨a, hx⟩
    exact ⟨a, s', hx, rfl, rfl⟩

theorem ends_discard_error_iff {x : Task σ α} {e : Failure} :
    (discard x : Task σ Unit).Ends s s' (.error e) ↔ x.Ends s s' (.error e) := by
  have hd : (discard x : Task σ Unit) = x >>= fun _ => pure () := rfl
  rw [hd, ends_bind_error_iff]
  constructor
  · rintro (h | ⟨_, _, -, -, h⟩)
    · exact h
    · cases h
  · exact Or.inl

/-- Tasks that each change nothing change nothing in a row. -/
theorem ends_forM_ok {f : α → Task σ Unit} {xs : List α} (h : ∀ x ∈ xs, (f x).Ends s s (.ok ())) :
    (xs.forM f).Ends s s (.ok ()) := by
  induction xs with
  | nil => exact ⟨rfl, rfl⟩
  | cons x xs ih =>
    obtain ⟨hx, hxs⟩ := List.forall_mem_cons.mp h
    exact hx.bind (ih hxs)

/-- A task on a part of the state ends there, and nothing else changes. -/
theorem ends_zoom_iff {τ : Type} {view : τ → σ} {update : σ → τ → τ} {x : Task σ α} {t t' : τ}
    {o : Outcome α} : (zoom view update x).Ends t t' o ↔
      ∃ s, x.Ends (view t) s o ∧ t' = update s t := by
  constructor
  · rintro ⟨rfl, rfl⟩
    exact ⟨_, ends_run x (view t), rfl⟩
  · rintro ⟨s, ⟨rfl, rfl⟩, rfl⟩
    exact ⟨rfl, rfl⟩

end Task

end SchemaModels
