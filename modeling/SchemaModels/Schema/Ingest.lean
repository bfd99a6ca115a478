import SchemaModels.Json.Access
import SchemaModels.Log

/-!
From a server's answers to the schema. Two layouts of a collection are read: fields under `fields`
with their options beside the other entries, and fields under `schema` with their options in an
entry of that name.
-/

namespace SchemaModels

/-- An option of a field, which is null if the field does not have it. -/
def Field.option (raw : Json) (key : String) : Except Fault Json := do
  match ← raw.entry? key with
  | some v => .ok v
  | none => ((← raw.entry "options").orElse (.object [])).entry key

/-- The values of a select field. -/
def Field.readValues (raw collection name : Json) : Outcome (List String) := do
  let values ← Outcome.ofFault (Field.option raw "values")
  if values.isBlank then .error (.problem (.valuelessSelect collection name))
  else (·.map Json.display) <$> Outcome.ofFault values.members

/-- The extra part of a relation field. -/
def Field.readRelation (raw : Json) : Except Fault FieldExtra := do
  let maxSelect ← Field.option raw "maxSelect"
  let count ←
    match maxSelect with
    | .null => pure none
    | v => some <$> v.toInteger
  .ok (.relation count (← Field.option raw "collectionId"))

/-- The kind that a value names. -/
def FieldKind.ofJson : Json → FieldKind
  | .text w => .ofWord w
  | _ => .unknown

/-- What a field of the given kind carries; a word that names no kind is noted. -/
def Field.readExtra (raw collection name rawType : Json) : FieldKind → Logged FieldExtra
  | .select => Logged.ofOutcome (.select <$> Field.readValues raw collection name)
  | .relation => Logged.ofChecked (Field.readRelation raw)
  | .unknown => do
    Logged.note .debug
      ("Field '" ++ collection.display ++ "." ++ name.display ++ "' has unrecognized type '" ++
        rawType.display ++ "'")
    pure .plain
  | _ => pure .plain

/-- The field that a value of the server describes. -/
def Field.ofJson (raw : Json) (collection : Json) : Logged Field := do
  let name ← Logged.ofChecked (raw.entry "name")
  if name.isBlank then Logged.refuse (.namelessField collection)
  else
    let rawType ← Logged.ofChecked (raw.entry "type")
    let kind := FieldKind.ofJson rawType
    let extra ← Field.readExtra raw collection name rawType kind
    let required ← Logged.ofChecked (raw.entry "required")
    pure { name, kind, required := required.truth, extra, rawType }

/-- The fields of a collection, under the newer key if it is there. -/
def Collection.rawFields (raw : Json) : Except Fault (List Json) := do
  match ← raw.entry "fields" with
  | .null => ((← raw.entry "schema").orElse (.list [])).members
  | v => v.members

/-- The collection that a value of the server describes. -/
def Collection.ofJson (raw : Json) : Logged Collection := do
  let name ← Logged.ofChecked (raw.entry "name")
  let id ← Logged.ofChecked (raw.entry? "id")
  if name.isBlank then Logged.refuse (.namelessCollection (id.getD .null))
  else
    let fields ← (← Logged.ofChecked (Collection.rawFields raw)).mapM (Field.ofJson · name)
    let type ← Logged.ofChecked (raw.entry? "type")
    let system ← Logged.ofChecked (raw.entry "system")
    pure { id := (id.getD (.text "")).display, name, fields, type := type.getD (.text "base"),
           system := system.truth }

/-- The entries that an expansion record must have. -/
def Mapping.requiredKeys : List String :=
  ["source_collection", "source_field", "target_collection"]

/-- The mapping that a record declares. -/
def Mapping.ofJson (record : Json) : Except Fault Mapping := do
  let source ← record.entry "source_collection"
  let field ← record.entry "source_field"
  let target ← record.entry "target_collection"
  let missing := (Mapping.requiredKeys.zip [source, field, target]).filter (·.2.isBlank)
  if missing.isEmpty then
    .ok { source, field, isSingle := (← record.entry "is_single").truth, target }
  else
    .error (.incompleteRecord ((← record.entry? "id").getD (.text "?")) (missing.map (·.1)))

end SchemaModels
