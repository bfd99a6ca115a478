import SchemaModels.Log
import SchemaModels.Naming.Checked

/-!
The type that a field has in the generated source: its meaning, whether it may be missing, and the
type hint that says so.
-/

namespace SchemaModels

/-- What the values of a field mean. -/
inductive Meaning where
  | string
  | integer
  | double
  | jsonBlob
  | boolean
  | moment
  | geoPoint
  | enum
  | relationSingle
  | relationMulti
  | any
  deriving DecidableEq, Inhabited

namespace Meaning

def all : List Meaning :=
  [.string, .integer, .double, .jsonBlob, .boolean, .moment, .geoPoint, .enum, .relationSingle,
   .relationMulti, .any]

def word : Meaning → String
  | .string => "string"
  | .integer => "integer"
  | .double => "double"
  | .jsonBlob => "json_blob"
  | .boolean => "boolean"
  | .moment => "datetime"
  | .geoPoint => "geo_point"
  | .enum => "enum"
  | .relationSingle => "relation_single"
  | .relationMulti => "relation_multi"
  | .any => "any"

/-- The meaning of the given word. -/
def ofWord? (w : String) : Option Meaning :=
  all.find? (·.word == w)

/-- The type hint of a meaning; an enum has that of its class instead. -/
def hint? : Meaning → Option String
  | .string | .relationSingle => some "str"
  | .integer => some "int"
  | .double => some "float"
  | .jsonBlob => some "Dict[str, Any]"
  | .boolean => some "bool"
  | .moment => some "datetime"
  | .geoPoint => some "GeoPointData"
  | .enum => none
  | .relationMulti => some "List[str]"
  | .any => some "Any"

/-- The server sends an empty text for a missing value of these meanings. -/
def isBlankWhenMissing : Meaning → Bool
  | .moment | .enum | .geoPoint => true
  | _ => false

/-- The meaning of a field. Only a number field asks for its name: it holds whole numbers if the
name says so. -/
def ofField (f : Field) : Except Fault Meaning :=
  match f.kind with
  | .text | .email | .url | .file | .password => .ok .string
  | .number => (if · then .integer else .double) <$> Naming.isIntegerNameOf f.name
  | .bool => .ok .boolean
  | .date | .autodate => .ok .moment
  | .geoPoint => .ok .geoPoint
  | .json => .ok .jsonBlob
  | .select => .ok .enum
  | .relation => .ok (if f.isSingleRelation then .relationSingle else .relationMulti)
  | .unknown => .ok .any

end Meaning

/-- The type of a field: what its values mean, whether they may be missing, and the class of an
enum. -/
structure FieldType where
  meaning : Meaning
  nullable : Bool
  enumName? : Option String := none
  deriving DecidableEq, Inhabited

namespace FieldType

/-- The type hint of a type that may be missing. -/
def optional (base : String) : String := "Optional[" ++ base ++ "]"

/-- The type hint of a list. -/
def listOf (base : String) : String := "List[" ++ base ++ "]"

/-- What the type hint names, apart from whether it may be missing. -/
def base? (t : FieldType) : Option String :=
  match t.meaning with
  | .enum => t.enumName?
  | m => m.hint?

/-- The type hint of a type. An enum without a class has none, or none that may be missing. -/
def hint? (t : FieldType) : Option String :=
  if t.nullable then some (optional (t.base?.getD "None")) else t.base?

/-- The type of a field. A field may be missing unless it is required, and a JSON field always. -/
def ofField (f : Field) : Except Fault FieldType := do
  let meaning ← Meaning.ofField f
  let nullable := !f.required || meaning == .jsonBlob
  let enumName? ←
    if meaning = .enum then some <$> Naming.enumTypeNameOf f.name else pure none
  .ok { meaning, nullable, enumName? }

/-- The type of a field, with notes on how it was found. -/
def resolve (f : Field) : Logged FieldType := do
  if f.kind = .unknown then
    Logged.note .debug
      ("Field '" ++ f.name.display ++ "' has unrecognized type '" ++ f.rawType.display ++
        "', mapping to Any")
  let t ← Logged.ofChecked (ofField f)
  Logged.note .debug
    ("Mapped field '" ++ f.name.display ++ s!"' ({f.kind.word}) -> {t.meaning.word}" ++
      if t.nullable then " (nullable)" else "")
  pure t

end FieldType

end SchemaModels
