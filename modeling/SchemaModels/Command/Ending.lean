import SchemaModels.Command.Help
import SchemaModels.Command.Run
import SchemaModels.Log.Console

/-!
How the program ends: its exit status and what it writes. A problem that the program recognises is
told by its report, a fault of the data by what went wrong; where it came from is told only of
faults, unless everything is to be told.
-/

namespace SchemaModels.Command

/-- Where the log is written to. -/
structure Screen where
  terminal : Bool := false
  /-- What the environment says against colours. -/
  noColour : Option String := none
  deriving DecidableEq, Inhabited

/-- The exit status and the texts that are written. -/
structure Ending where
  status : Nat
  stdout : String := ""
  stderr : String := ""
  deriving DecidableEq, Inhabited

/-- Lines, each with the break that ends it. -/
def unlines (lines : List String) : String := String.join (lines.map (· ++ "\n"))

/-! ## Failures -/

/-- The line that begins the account of where a failure came from. -/
def traceLead : String := "Traceback (most recent call last):"

/-- The account of where a failure came from. -/
def trace (cause : String) : String := traceLead ++ "\n  " ++ cause

/-- What the log says of a failure. -/
def failureMessage (verbose : Bool) : Failure → String
  | .problem p =>
    let told := p.report.category.name ++ ": " ++ p.report.text
    if verbose then told ++ "\n" ++ trace p.report.category.name else told
  | .fault f =>
    "An unexpected error occurred during generation: " ++ f.message ++ "\n" ++ trace f.message

/-- The lines that are written about a failure before the log says anything of it. -/
def failurePage : Failure → List String
  | .problem p => p.page
  | .fault _ => []

/-! ## Endings -/

/-- The console of a run. -/
def console (a : Arguments) (screen : Screen) : Log.Console :=
  .fresh (if a.verbose then Log.Level.debug else Log.Level.info).weight
    (Log.useColours (!a.noColour) screen.terminal screen.noColour)

/-- The ending of a run with the given log and outcome. -/
def ending (a : Arguments) (screen : Screen) (l : Logged Unit) : Ending :=
  let c := (console a screen).writeAll l.entries
  match l.outcome with
  | .ok () => { status := 0, stderr := c.text }
  | .error e =>
    let c := { c with lines := c.lines ++ failurePage e }
    { status := 1,
      stderr := (c.write Log.Level.error.weight (failureMessage a.verbose e)).text }

/-- What is written about a mistake in the command line. -/
def mistakeLines (m : Mistake) : List String :=
  Help.usage ++ [s!"{Help.program}: error: " ++ m.message]

/-- Carries a command line out. -/
def execute (arguments : List String) (screen : Screen) (h : Host) : Host × Ending :=
  match read arguments with
  | .error m => (h, { status := 2, stderr := unlines (mistakeLines m) })
  | .ok .help => (h, { status := 0, stdout := unlines Help.page })
  | .ok (.run a) =>
    let (h', l) := (run a).run h
    (h', ending a screen l)

end SchemaModels.Command
