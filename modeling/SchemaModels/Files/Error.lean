import SchemaModels.Source.Literal

/-!
Errors of the file system.
-/

namespace SchemaModels.Files

/-- Why the file system refuses an operation. -/
inductive Refusal where
  | missing
  | exists
  | notDirectory
  | isDirectory
  | nameTooLong
  deriving DecidableEq, Inhabited

namespace Refusal

def number : Refusal → Nat
  | .missing => 2
  | .exists => 17
  | .notDirectory => 20
  | .isDirectory => 21
  | .nameTooLong => 36

def description : Refusal → String
  | .missing => "No such file or directory"
  | .exists => "File exists"
  | .notDirectory => "Not a directory"
  | .isDirectory => "Is a directory"
  | .nameTooLong => "File name too long"

end Refusal

/-- A refused operation, with the path it was about and, for a move, where it led. -/
structure FileError where
  refusal : Refusal
  path : String
  target? : Option String := none
  deriving DecidableEq, Inhabited

/-- Number, description and quoted paths. -/
def FileError.text (e : FileError) : String :=
  let paths := Source.quoted e.path ++ match e.target? with
    | some t => " -> " ++ Source.quoted t
    | none => ""
  s!"[Errno {e.refusal.number}] {e.refusal.description}: " ++ paths

end SchemaModels.Files
