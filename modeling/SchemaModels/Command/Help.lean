import SchemaModels.Command.Switch
import SchemaModels.Text.Fill

/-!
The help page: how the program is called, what each switch is for, and an example of a
configuration file. Lines are filled up to a fixed width.
-/

namespace SchemaModels.Command.Help

/-- The name of the program. -/
def program : String := "pb-model-generator"

/-- The width of the page. -/
def width : Nat := 78

/-- Where the descriptions of switches begin. -/
def column : Nat := 24

/-- That many blanks. -/
def blanks (n : Nat) : String := String.ofList (List.replicate n ' ')

/-- The form of a switch with its operand. -/
def withOperand (s : Switch) (form : String) : String :=
  form ++ (s.operand?.map (" " ++ ·)).getD ""

/-- The lines that say how the program is called; all but the first one are indented to where the
switches begin. -/
def usage : List String :=
  let start := s!"usage: {program} "
  let words := Switch.all.map fun s => "[" ++ withOperand s (s.forms.headD "") ++ "]"
  let lines := (Text.fill (width - start.length) words).map (" ".intercalate ·)
  match lines with
  | [] => [start]
  | l :: rest => (start ++ l) :: rest.map (blanks start.length ++ ·)

/-- A switch and what it is for. The description begins on a line of its own if the forms of the
switch reach into its column. -/
def entry (s : Switch) : List String :=
  let forms := "  " ++ ", ".intercalate (s.forms.map (withOperand s))
  let words := s.about.splitOn " "
  let lines := (Text.fill (width - column) words).map (" ".intercalate ·)
  match lines with
  | l :: rest =>
    if forms.length + 2 ≤ column then
      (forms ++ blanks (column - forms.length) ++ l) :: rest.map (blanks column ++ ·)
    else forms :: lines.map (blanks column ++ ·)
  | [] => [forms]

/-- What the program does. -/
def purpose : String :=
  "Generate typed pydantic models from the collections of a PocketBase server."

/-- An example of a configuration file. -/
def exampleConfiguration : List String :=
  ["pocketbase:",
   "  hosting:",
   "    domain: 'https://pocketbase.example.com'",
   "    email: 'admin@example.com'",
   "    password: 'your-password'",
   "  output_directory: './models'          # Optional, default './models'",
   "  expansion_collection: '_expansions'   " ++
     "# Optional, collection holding expansion mappings",
   "  internal_prefix: '_'                  " ++
     "# Optional, collections starting with it get no model",
   "  strict_expansions: false              " ++
     "# Optional, fail on expansions to unknown collections"]

/-- The lines of the help page. -/
def page : List String :=
  usage ++ ["", purpose, "", "options:"] ++ Switch.all.flatMap entry ++
    ["", "Expected configuration file (YAML):", ""] ++ exampleConfiguration

end SchemaModels.Command.Help
