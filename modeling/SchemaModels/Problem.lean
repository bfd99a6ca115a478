import SchemaModels.Report
import SchemaModels.Schema
import SchemaModels.Files.Error
import SchemaModels.Settings.Complaint

/-!
Problems: what the program itself recognises as wrong, one case for each cause, and the report each
one makes. A `Failure` is such a problem or a fault of the data.
-/

namespace SchemaModels

open Files (FileError)

/-- What two names of one class or module were made from. -/
inductive NameSource where
  | selectFields
  | fields
  deriving DecidableEq

/-- A module that every run writes. -/
inductive FixedModule where
  | geoPoint
  | aggregator
  deriving DecidableEq

namespace FixedModule

def all : List FixedModule := [.geoPoint, .aggregator]

/-- The name of the module. -/
def name : FixedModule → String
  | .geoPoint => "geo_point_data"
  | .aggregator => "__init__"

def description : FixedModule → String
  | .geoPoint => "the geo point module"
  | .aggregator => "the aggregator"

end FixedModule

/-- A cause for which a run, or a step of it, fails. -/
inductive Problem where
  /-- A field has no name. -/
  | namelessField (collection : Json)
  /-- A select field allows no value. -/
  | valuelessSelect (collection field : Json)
  /-- A collection has no name. -/
  | namelessCollection (id : Json)
  /-- Two values of a select field become one variant. -/
  | duplicateVariant (enum variant : String) (field : Json) (first second : String)
  /-- A value is none of an enum's. -/
  | invalidValue (enum : String) (value : Json)
  /-- Two expansions of a collection become one member. -/
  | collidingExpansions (previous current : Mapping) (identifier : String)
  /-- An expansion leads to a collection without a model. -/
  | unresolvedTarget (mapping : Mapping) (known : Bool)
  /-- Two parts of a collection get one name. -/
  | collidingNames (of : NameSource) (collection : Json) (name : String)
  /-- An enum gets a name that every module uses. -/
  | reservedEnumName (enum : String) (field collection : Json)
  /-- A collection's module would overwrite one that every run writes. -/
  | reservedModule (collection : Json) (name : String) (taken : FixedModule)
  /-- Two collections share a module. -/
  | sharedModule (owner collection : Json) (name : String)
  /-- The previous aggregator cannot be removed. -/
  | staleAggregator (error : FileError) (path : String)
  /-- A file cannot be written. -/
  | unwritable (error : FileError) (path : String)
  /-- The output directory cannot be created. -/
  | noDirectory (error : FileError) (path : String)
  /-- The server cannot be reached to sign in. -/
  | unreachable (reason domain : String)
  /-- The server refuses the credentials. -/
  | refused (status : Int) (domain : String)
  /-- The answer to a sign-in is no JSON. -/
  | answerNotJson (domain : String)
  /-- The answer to a sign-in holds no token. -/
  | answerWithoutToken (domain : String)
  /-- The collections cannot be fetched. -/
  | collectionsNotFetched (reason : String)
  /-- There is no configuration file. -/
  | configurationMissing (path : String)
  /-- The configuration file is no YAML. -/
  | configurationMalformed (reason path : String)
  /-- The configuration file holds something other than a mapping. -/
  | configurationNoMapping (path : String)
  /-- The configuration has no section for the server. -/
  | configurationNoSection (path : String)
  /-- Settings are invalid. -/
  | configurationInvalid (complaints : List Complaint) (path : Option String)

namespace Problem

/-- A value in quotes within a message. -/
def inQuotes (v : Json) : String := "'" ++ v.display ++ "'"

/-- The report of a problem. -/
def report : Problem → Report
  | .namelessField collection =>
    .make .introspection "Field without a name" [("collection", collection)]
  | .valuelessSelect collection field =>
    .make .introspection ("Select field " ++ inQuotes field ++ " has no values")
      [("collection", collection), ("field", field)]
  | .namelessCollection id =>
    .make .introspection "Collection without a name" [] [("collection_id", id)]
  | .duplicateVariant enum variant field first second =>
    .make .duplicateVariant
      (s!"Select values '{first}' and '{second}' of field " ++ inQuotes field ++
        s!" both normalize to '{variant}'")
      [("enum_name", .text enum), ("variant", .text variant),
       ("raw_values", .list [.text first, .text second])]
  | .invalidValue enum value =>
    .make .invalidValue ("Invalid value " ++ inQuotes value ++ " for enum " ++ enum)
      [("enum_name", .text enum), ("value", value)]
  | .collidingExpansions previous current identifier =>
    .make .relationship
      ("Expansion fields " ++ inQuotes previous.field ++ " and " ++ inQuotes current.field ++
        " of collection " ++ inQuotes current.source ++ s!" both normalize to '{identifier}'")
      [("source_collection", current.source), ("source_field", current.field),
       ("target_collection", current.target)]
  | .unresolvedTarget mapping known =>
    .make .unresolvedTarget
      ("Expansion " ++ mapping.source.display ++ "." ++ mapping.field.display ++ " targets " ++
        inQuotes mapping.target ++ ", which " ++
        if known then "has no generated model" else "is not a known collection")
      [("source_collection", mapping.source), ("source_field", mapping.field),
       ("target_collection", mapping.target)]
  | .collidingNames of collection name =>
    .make .codeGeneration
      ("Two " ++ (match of with | .selectFields => "select fields" | .fields => "fields") ++
        " of collection " ++ inQuotes collection ++ s!" normalize to '{name}'")
      [("collection", collection)]
  | .reservedEnumName enum field collection =>
    .make .codeGeneration
      (s!"Enum name '{enum}' of field " ++ inQuotes field ++ " collides with a generated name")
      [("collection", collection)]
  | .reservedModule collection name taken =>
    .make .codeGeneration
      ("Collection " ++ inQuotes collection ++
        s!" would overwrite {taken.description} ({name}.py)")
      [("collection", collection)]
  | .sharedModule owner collection name =>
    .make .codeGeneration
      ("Collections " ++ inQuotes owner ++ " and " ++ inQuotes collection ++
        s!" both map to {name}.py")
      [("collection", collection)]
  | .staleAggregator error path =>
    .make .outputWrite ("Could not remove previous aggregator: " ++ error.text)
      [("path", .text path)]
  | .unwritable error path =>
    .make .outputWrite ("Could not write generated file: " ++ error.text) [("path", .text path)]
  | .noDirectory error path =>
    .make .outputWrite ("Could not create output directory: " ++ error.text)
      [("path", .text path)]
  | .unreachable reason domain =>
    .make .authentication ("Could not reach PocketBase: " ++ reason) [("domain", .text domain)]
  | .refused status domain =>
    .make .authentication s!"Authentication failed ({status})" [("domain", .text domain)]
  | .answerNotJson domain =>
    .make .authentication "Authentication response is not JSON" [("domain", .text domain)]
  | .answerWithoutToken domain =>
    .make .authentication "Authentication response has no token" [("domain", .text domain)]
  | .collectionsNotFetched reason =>
    .make .introspection ("Could not fetch collections: " ++ reason) []
  | .configurationMissing path =>
    .make .configuration ("Configuration file not found at " ++ path)
      [("config_file", .text path)]
  | .configurationMalformed reason path =>
    .make .configuration ("Error parsing YAML file: " ++ reason) [("config_file", .text path)]
  | .configurationNoMapping path =>
    .make .configuration "Configuration file must contain a YAML mapping"
      [("config_file", .text path)]
  | .configurationNoSection path =>
    .make .configuration "Missing \"pocketbase\" section in configuration."
      [("config_file", .text path)]
  | .configurationInvalid complaints path =>
    .make .configuration s!"Invalid configuration ({complaints.length} errors)"
      [("config_file", (path.map Json.text).getD .null)]

/-- What is told of a problem before its report. -/
def page : Problem → List String
  | .configurationInvalid complaints _ => Complaint.page complaints
  | _ => []

end Problem

/-- Why a step did not give its result: a problem that the program recognises, or a fault of the
data that it does not. -/
inductive Failure where
  | problem (p : Problem)
  | fault (f : Fault)

/-- The outcome of a step. -/
abbrev Outcome (α : Type) := Except Failure α

/-- A step whose faults are passed on. -/
def Outcome.ofFault {α : Type} : Except Fault α → Outcome α
  | .ok a => .ok a
  | .error f => .error (.fault f)

end SchemaModels
