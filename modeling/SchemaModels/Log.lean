import SchemaModels.Problem

/-!
Log entries, and steps that write them. A step has an outcome and the entries it wrote on the way;
entries written before a failure are kept. `outcome_bind` and `entries_bind` say how steps in a row
add up, so the outcome of a run can be reasoned about without its log.
-/

namespace SchemaModels

/-- How weighty a log entry is. -/
inductive Log.Level where
  | debug
  | info
  | warning
  | error
  | critical
  deriving DecidableEq, Inhabited

namespace Log.Level

/-- Weights grow in tens. -/
def weight : Level → Nat
  | .debug => 10
  | .info => 20
  | .warning => 30
  | .error => 40
  | .critical => 50

def name : Level → String
  | .debug => "DEBUG"
  | .info => "INFO"
  | .warning => "WARNING"
  | .error => "ERROR"
  | .critical => "CRITICAL"

end Log.Level

/-- An entry of the log. -/
structure Log.Entry where
  level : Log.Level
  message : String
  deriving DecidableEq, Inhabited

/-- A step that writes log entries and then succeeds or fails. -/
structure Logged (α : Type) where
  entries : List Log.Entry
  outcome : Outcome α

namespace Logged

/-- The step that gives a value and writes nothing. -/
protected def pure {α : Type} (a : α) : Logged α := ⟨[], .ok a⟩

/-- The second step follows if the first one succeeds. -/
protected def bind {α β : Type} (x : Logged α) (f : α → Logged β) : Logged β :=
  match x.outcome with
  | .ok a => ⟨x.entries ++ (f a).entries, (f a).outcome⟩
  | .error e => ⟨x.entries, .error e⟩

instance : Monad Logged where
  pure := Logged.pure
  bind := Logged.bind

@[simp] theorem outcome_pure {α : Type} (a : α) : (pure a : Logged α).outcome = .ok a := rfl

@[simp] theorem entries_pure {α : Type} (a : α) : (pure a : Logged α).entries = [] := rfl

/-- The outcome of two steps in a row is that of their outcomes in a row. -/
theorem outcome_bind {α β : Type} (x : Logged α) (f : α → Logged β) :
    (x >>= f).outcome = x.outcome >>= fun a => (f a).outcome := by
  cases x with
  | mk es o => cases o <;> rfl

/-- Two steps in a row write the entries of the first, then those of the second if it is reached. -/
theorem entries_bind {α β : Type} (x : Logged α) (f : α → Logged β) :
    (x >>= f).entries = x.entries ++ match x.outcome with
      | .ok a => (f a).entries
      | .error _ => [] := by
  cases x with
  | mk es o => cases o <;> simp [bind, Logged.bind]

/-- Writes an entry. -/
def note (level : Log.Level) (message : String) : Logged Unit :=
  ⟨[⟨level, message⟩], .ok ()⟩

/-- A step that writes nothing. -/
def ofOutcome {α : Type} (x : Outcome α) : Logged α := ⟨[], x⟩

/-- A step that writes nothing and fails with faults only. -/
def ofChecked {α : Type} (x : Except Fault α) : Logged α := ⟨[], Outcome.ofFault x⟩

/-- Fails with a problem. -/
def refuse {α : Type} (p : Problem) : Logged α := ⟨[], .error (.problem p)⟩

end Logged

end SchemaModels
