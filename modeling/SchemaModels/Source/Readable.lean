import SchemaModels.Source.Hint
import SchemaModels.Source.Statement

/-!
Which statements can be read back. Everything in a statement but its names is written so that it
reads back; the names of classes and modules are written as they are, and a statement with a name
that is no name cannot be read.
-/

namespace SchemaModels.Source

/-- Blanks that may stand before a name. -/
def isIndent (c : Char) : Bool := c == ' ' || c == '\t' || c == '\x0c'

/-- The text reads as one name. A number sign would begin a comment. -/
def isName (s : String) : Bool :=
  match Hint.parse (String.ofList (s.toList.dropWhile isIndent)) with
  | .ok (.name _) => !s.toList.contains '#'
  | _ => false

namespace Statement

mutual

/-- The statement can be read back. -/
def isReadable : Statement → Bool
  | .docstring _ | .expression _ | .give _ => true
  | .importModule name => isName name
  | .importNames _ module names => module.all isName && names.all isName
  | .assign target _ | .declare target _ _ => isName target
  | .function name _ _ _ body => isName name && areReadable body
  | .classDef name _ body => isName name && areReadable body

def areReadable : List Statement → Bool
  | [] => true
  | s :: rest => isReadable s && areReadable rest

end

end Statement

end SchemaModels.Source
