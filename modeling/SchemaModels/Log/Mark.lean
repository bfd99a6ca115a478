import SchemaModels.Text.Case

/-!
Marks that set some messages apart: success, progress, highlights, and the headings of sections.
-/

namespace SchemaModels.Log

def successMark : Char := '✓'

def progressMark : Char := '→'

def highlightMark : Char := '•'

/-- The line above and below a heading. -/
def rule : String := String.ofList (List.replicate 60 '=')

/-- A message of success. -/
def success (message : String) : String := successMark.toString ++ " " ++ message

/-- A counted step. -/
def progress (current total : Int) (message : String) : String :=
  progressMark.toString ++ s!" [{current}/{total}] " ++ message

/-- A message that stands out. -/
def highlight (message : String) : String := highlightMark.toString ++ " " ++ message

/-- The lines of a heading. -/
def heading (title : String) : List String := [rule, "  " ++ Text.upper title, rule]

end SchemaModels.Log
