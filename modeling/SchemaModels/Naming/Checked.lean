import SchemaModels.Fault
import SchemaModels.Naming

/-!
The naming rules on the values that a server sends as names, which need not be texts. What a rule
says to another value depends on the step that meets it first.
-/

namespace SchemaModels.Naming

/-- The text that a naming rule asks for. -/
def expectText : Json → Except Fault String
  | .text s => .ok s
  | v => .error (.textExpected v)

/-- The text whose characters are looked at. -/
def charactersOf : Json → Except Fault String
  | .text s => .ok s
  | v => .error (.operand v)

/-- The text that one of its members is taken of. -/
def memberOf (member : String) : Json → Except Fault String
  | .text s => .ok s
  | v => .error (.noMember v member)

def snakeCaseOf (v : Json) : Except Fault String :=
  snakeCase <$> expectText v

def singularOf (v : Json) : Except Fault String :=
  singular <$> expectText v

/-- Blank values other than lists and objects are capitalized to themselves. -/
def capitalizedOf : Json → Except Fault Json
  | .text s => .ok (.text (capitalized s))
  | .list items => .error (.operand (.list items))
  | .object entries => .error (.operand (.object entries))
  | v => if v.isBlank then .ok v else .error (.operand v)

def identifierOf (v : Json) : Except Fault String :=
  identifier <$> memberOf "split" v

def typeNameOf (v : Json) (suffix : String) : Except Fault String :=
  (typeName · suffix) <$> expectText v

def moduleNameOf (v : Json) : Except Fault String :=
  moduleName <$> expectText v

def enumTypeNameOf (v : Json) : Except Fault String :=
  enumTypeName <$> charactersOf v

def memberNameOf (v : Json) : Except Fault String :=
  memberName <$> charactersOf v

def variantNameOf (v : Json) : Except Fault String :=
  variantName <$> charactersOf v

def isIntegerNameOf (v : Json) : Except Fault Bool :=
  isIntegerName <$> memberOf "lower" v

end SchemaModels.Naming
