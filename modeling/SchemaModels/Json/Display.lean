import SchemaModels.Json
import SchemaModels.Double.Shortest
import SchemaModels.Source.Literal

/-!
The text that stands for a value in messages and in names: a text is its own, everything else is
shown as a literal of the generated source.
-/

namespace SchemaModels.Json

mutual

/-- The value as a literal. -/
def literal : Json → String
  | .null => "None"
  | .bool b => if b then "True" else "False"
  | .int n => toString n
  | .float x => x.text
  | .text s => Source.quoted s
  | .list items => "[" ++ ", ".intercalate (literalItems items) ++ "]"
  | .object entries => "\x7b" ++ ", ".intercalate (literalEntries entries) ++ "\x7d"

def literalItems : List Json → List String
  | [] => []
  | v :: vs => literal v :: literalItems vs

def literalEntries : List (String × Json) → List String
  | [] => []
  | (k, v) :: rest => (Source.quoted k ++ ": " ++ literal v) :: literalEntries rest

end

/-- The value in running text. -/
def display : Json → String
  | .text s => s
  | v => v.literal

/-- The name of the type that a literal of the value has. -/
def typeName : Json → String
  | .null => "NoneType"
  | .bool _ => "bool"
  | .int _ => "int"
  | .float _ => "float"
  | .text _ => "str"
  | .list _ => "list"
  | .object _ => "dict"

end SchemaModels.Json
