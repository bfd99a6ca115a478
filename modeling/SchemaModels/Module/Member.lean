import SchemaModels.Expansion
import SchemaModels.FieldType

/-!
Members of generated classes: an identifier, the name that the server uses, and a type hint.
-/

namespace SchemaModels

/-- A member of a generated class. -/
structure Member where
  identifier : String
  rawName : String
  hint : String
  nullable : Bool
  meaning? : Option Meaning := none
  deriving DecidableEq, Inhabited

namespace Member

/-- The server's empty text is taken as a missing value of the member. -/
def acceptsBlank (m : Member) : Bool :=
  m.nullable && m.meaning?.any (·.isBlankWhenMissing)

/-- The member of a field. -/
def ofField (f : Field) : Logged Member := do
  let type ← FieldType.resolve f
  let rawName ← Logged.ofChecked (Naming.charactersOf f.name)
  pure { identifier := Naming.memberName rawName, rawName, hint := type.hint?.getD "",
         nullable := type.nullable, meaning? := some type.meaning }

/-- The member of an expansion, which may always be missing. -/
def ofExpandField (f : ExpandField) : Member where
  identifier := f.identifier
  rawName := f.rawName
  hint := FieldType.optional (if f.isSingle then f.targetType else FieldType.listOf f.targetType)
  nullable := true

/-- The member that holds a collection's related records. -/
def expand (s : ExpandSpec) : Member where
  identifier := "expand"
  rawName := "expand"
  hint := FieldType.optional s.name
  nullable := true

end Member

end SchemaModels
