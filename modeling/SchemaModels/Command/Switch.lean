/-!
The switches of the command line, and how each is spelled and described.
-/

namespace SchemaModels.Command

/-- What can be asked for on the command line. -/
inductive Switch where
  | help
  | config
  | outputDirectory
  | verbose
  | noColour
  | noFormat
  deriving DecidableEq, Inhabited

namespace Switch

/-- All switches, in the order in which they are listed. -/
def all : List Switch := [.help, .config, .outputDirectory, .verbose, .noColour, .noFormat]

theorem mem_all (s : Switch) : s ∈ all := by cases s <;> decide

/-- The letter of a switch that has a short form. -/
def letter? : Switch → Option Char
  | .help => some 'h'
  | .config => some 'c'
  | .outputDirectory => some 'o'
  | .verbose => some 'v'
  | .noColour => none
  | .noFormat => none

/-- The long form. -/
def long : Switch → String
  | .help => "--help"
  | .config => "--config"
  | .outputDirectory => "--output-dir"
  | .verbose => "--verbose"
  | .noColour => "--no-color"
  | .noFormat => "--no-format"

/-- The name of the operand, if the switch takes one. -/
def operand? : Switch → Option String
  | .config => some "CONFIG"
  | .outputDirectory => some "OUTPUT_DIR"
  | _ => none

/-- The forms of a switch, the short one first. -/
def forms (s : Switch) : List String :=
  (s.letter?.map fun c => String.ofList ['-', c]).toList ++ [s.long]

/-- The switch with a letter. -/
def ofLetter? (c : Char) : Option Switch := all.find? (·.letter? == some c)

/-- Two switches never share a letter. -/
theorem ofLetter?_eq_some_iff {c : Char} {s : Switch} :
    ofLetter? c = some s ↔ s.letter? = some c := by
  constructor
  · intro h
    simpa using List.find?_some h
  · intro h
    cases s <;> simp_all [letter?] <;> subst h <;> decide

/-- All forms of a switch. -/
def title (s : Switch) : String := "/".intercalate s.forms

/-- The path of the configuration file, unless the command line names another. -/
def defaultConfig : String := "./pocketbase.yaml"

/-- What a switch is for. -/
def about : Switch → String
  | .help => "show this help message and exit"
  | .config => s!"Path to the YAML configuration file (default: {defaultConfig})."
  | .outputDirectory => "Directory to generate the models in. Overrides config file setting."
  | .verbose => "Enable verbose DEBUG logging for the generator tool."
  | .noColour => "Disable colored output (useful for CI/CD environments)."
  | .noFormat => "Skip formatting the generated files with black."

end Switch

end SchemaModels.Command
