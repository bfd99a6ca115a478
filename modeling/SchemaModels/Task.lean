import SchemaModels.Log

/-!
Tasks: steps that also change a state, such as a file tree or a session with a server. What a task
has changed before it fails stays changed. `run_bind_ok` and `run_bind_error` say how two tasks in
a row run.
-/

namespace SchemaModels

/-- A logged step on a state. -/
def Task (σ α : Type) : Type := σ → σ × Logged α

namespace Task

variable {σ τ α β : Type}

/-- Carries a task out on a state. -/
def run (x : Task σ α) (s : σ) : σ × Logged α := x s

protected def pure (a : α) : Task σ α := fun s => (s, pure a)

/-- The second task follows, on the state that the first one leaves, if the first one succeeds. -/
protected def bind (x : Task σ α) (f : α → Task σ β) : Task σ β := fun s =>
  match x s with
  | (s', ⟨entries, .ok a⟩) =>
    let r := f a s'
    (r.1, ⟨entries ++ r.2.entries, r.2.outcome⟩)
  | (s', ⟨entries, .error e⟩) => (s', ⟨entries, .error e⟩)

instance : Monad (Task σ) where
  pure := Task.pure
  bind := Task.bind

@[simp] theorem run_pure (a : α) (s : σ) : (pure a : Task σ α).run s = (s, pure a) := rfl

theorem run_bind_ok {x : Task σ α} {f : α → Task σ β} {s s' : σ} {entries : List Log.Entry} {a : α}
    (h : x.run s = (s', ⟨entries, .ok a⟩)) :
    (x >>= f).run s =
      (((f a).run s').1,
        ⟨entries ++ ((f a).run s').2.entries, ((f a).run s').2.outcome⟩) := by
  simp only [run] at h
  simp [run, bind, Task.bind, h]

theorem run_bind_error {x : Task σ α} {f : α → Task σ β} {s s' : σ} {entries : List Log.Entry}
    {e : Failure} (h : x.run s = (s', ⟨entries, .error e⟩)) :
    (x >>= f).run s = (s', ⟨entries, .error e⟩) := by
  simp only [run] at h
  simp [run, bind, Task.bind, h]

/-- A step that leaves the state alone. -/
def lift (x : Logged α) : Task σ α := fun s => (s, x)

/-- Writes a log entry. -/
def note (level : Log.Level) (message : String) : Task σ Unit := lift (Logged.note level message)

/-- Fails with a problem. -/
def refuse (p : Problem) : Task σ α := lift (Logged.refuse p)

/-- The state. -/
def get : Task σ σ := fun s => (s, pure s)

/-- Replaces the state. -/
def set (s : σ) : Task σ Unit := fun _ => (s, pure ())

/-- A task on a part of the state. -/
def zoom (view : τ → σ) (update : σ → τ → τ) (x : Task σ α) : Task τ α := fun t =>
  let r := x (view t)
  (update r.1 t, r.2)

/-- Carries on with another task if this one fails. -/
def orElse (x : Task σ α) (handler : Failure → Task σ α) : Task σ α := fun s =>
  match x s with
  | (s', ⟨entries, .ok a⟩) => (s', ⟨entries, .ok a⟩)
  | (s', ⟨entries, .error e⟩) =>
    let r := handler e s'
    (r.1, ⟨entries ++ r.2.entries, r.2.outcome⟩)

end Task

end SchemaModels
