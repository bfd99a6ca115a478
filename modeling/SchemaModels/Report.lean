import SchemaModels.Fault

/-!
Reports: how a failure of a run is told to its user. A report has a message, a code to find it by,
the circumstances in the order in which they were noted, and suggestions what to do next.
-/

namespace SchemaModels

/-- What a report is about. -/
inductive Category where
  | general
  | configuration
  | authentication
  | introspection
  | fieldMapping
  | duplicateVariant
  | invalidValue
  | relationship
  | unresolvedTarget
  | codeGeneration
  | outputWrite
  deriving DecidableEq, Inhabited

namespace Category

def all : List Category :=
  [.general, .configuration, .authentication, .introspection, .fieldMapping, .duplicateVariant,
   .invalidValue, .relationship, .unresolvedTarget, .codeGeneration, .outputWrite]

/-- The word that the log puts in front of a report. -/
def name : Category → String
  | .general => "PocketBaseModelGeneratorError"
  | .configuration => "ConfigurationError"
  | .authentication => "AuthenticationError"
  | .introspection => "SchemaIntrospectionError"
  | .fieldMapping => "FieldMappingError"
  | .duplicateVariant => "DuplicateEnumVariantError"
  | .invalidValue => "InvalidEnumValueError"
  | .relationship => "RelationshipError"
  | .unresolvedTarget => "UnresolvedExpansionTargetError"
  | .codeGeneration => "CodeGenerationError"
  | .outputWrite => "OutputWriteError"

/-- The category with the given name. -/
def ofName? (s : String) : Option Category :=
  all.find? (·.name == s)

/-- The code of a report that states none of its own. -/
def code? : Category → Option String
  | .general => none
  | .configuration => some "CONFIG_ERROR"
  | .authentication => some "AUTHENTICATION_ERROR"
  | .introspection => some "INTROSPECTION_ERROR"
  | .fieldMapping => some "FIELD_MAPPING_ERROR"
  | .duplicateVariant => some "DUPLICATE_ENUM_VARIANT"
  | .invalidValue => some "INVALID_ENUM_VALUE"
  | .relationship => some "RELATIONSHIP_ERROR"
  | .unresolvedTarget => some "UNRESOLVED_EXPANSION_TARGET"
  | .codeGeneration => some "CODE_GENERATION_ERROR"
  | .outputWrite => some "OUTPUT_WRITE_ERROR"

/-- The suggestions of a report that states none of its own. -/
def suggestions : Category → List String
  | .general => []
  | .configuration =>
    ["Check the configuration file syntax",
     "Verify the 'pocketbase.hosting' section has domain, email and password",
     "Run with --help to see an example configuration"]
  | .authentication =>
    ["Check the email and password in the configuration file",
     "Verify the account is a superuser (admin) account",
     "Check the PocketBase domain is reachable"]
  | .introspection =>
    ["Check the PocketBase server is running and reachable",
     "Verify the authenticated account may list collections",
     "Check the collection schema for missing names or select values"]
  | .fieldMapping =>
    ["Check if the field kind is listed in the type mapping table",
     "Report this as a new field type request"]
  | .duplicateVariant =>
    ["Rename one of the select values so they differ after normalization"]
  | .invalidValue => []
  | .relationship =>
    ["Check the expansion mapping records",
     "Verify both collections are included in generation"]
  | .unresolvedTarget =>
    ["Fix the target_collection of the expansion mapping record",
     "Set 'strict_expansions: false' to emit the reference anyway"]
  | .codeGeneration =>
    ["Check the collection schema for field names that collide after normalization",
     "Check for collections whose singular names produce the same file"]
  | .outputWrite =>
    ["Check the output directory exists and is writable",
     "Make sure no other generator run writes to the same directory"]

/-- The names a report of this category answers to, the narrowest first. -/
def kinds (c : Category) : List String :=
  match c with
  | .general => [c.name]
  | .duplicateVariant | .invalidValue => [c.name, Category.general.name, "ValueError"]
  | .unresolvedTarget => [c.name, Category.relationship.name, Category.general.name]
  | _ => [c.name, Category.general.name]

/-- A circumstance that reports of a category can note: the name it is given under, the key it is
noted under, and whether an empty value is noted too. -/
structure Circumstance where
  given : String
  key : String
  keepsEmpty : Bool := false

/-- The circumstances that reports of a category note, in order. -/
def circumstances : Category → List Circumstance
  | .general => []
  | .configuration => [⟨"config_file", "config_file", false⟩]
  | .authentication => [⟨"domain", "domain", false⟩]
  | .introspection => [⟨"collection", "collection", false⟩, ⟨"field", "field", false⟩]
  | .fieldMapping => [⟨"field_kind", "field_kind", false⟩]
  | .duplicateVariant =>
    [⟨"enum_name", "enum", false⟩, ⟨"variant", "variant", false⟩,
     ⟨"raw_values", "raw_values", false⟩]
  | .invalidValue => [⟨"enum_name", "enum", false⟩, ⟨"value", "value", true⟩]
  | .relationship | .unresolvedTarget =>
    [⟨"source_collection", "source_collection", false⟩, ⟨"source_field", "source_field", false⟩,
     ⟨"target_collection", "target_collection", false⟩]
  | .codeGeneration => [⟨"collection", "collection", false⟩]
  | .outputWrite => [⟨"path", "path", false⟩]

end Category

/-- What a failed run tells its user. -/
structure Report where
  category : Category
  message : String
  context : List (String × Json)
  suggestions : List String
  code? : Option String

namespace Report

/-- Notes a circumstance unless its value is missing, or blank and not kept. -/
def note (given : List (String × Json)) (context : List (String × Json))
    (c : Category.Circumstance) : List (String × Json) :=
  match given.lookup c.given with
  | none | some .null => context
  | some v => if v.isBlank && !c.keepsEmpty then context else Json.setKey c.key v context

/-- A report with circumstances given by name. They are noted after those in `context`, and one
noted there already keeps its place. -/
def make (category : Category) (message : String) (given : List (String × Json))
    (context : List (String × Json) := []) (suggestions : List String := [])
    (code : String := "") : Report where
  category := category
  message := message
  context := category.circumstances.foldl (note given) context
  suggestions := if suggestions.isEmpty then category.suggestions else suggestions
  code? := if code.isEmpty then category.code? else some code

/-- The report as a text of several lines. -/
def text (r : Report) : String :=
  let code := match r.code? with
    | some c => ["Error Code: " ++ c]
    | none => []
  let context :=
    if r.context.isEmpty then []
    else "Context:" :: r.context.map fun (k, v) => s!"  {k}: " ++ v.display
  let suggestions :=
    if r.suggestions.isEmpty then []
    else "Suggestions:" :: r.suggestions.map ("  • " ++ ·)
  "\n".intercalate (r.message :: (code ++ context ++ suggestions))

end Report

end SchemaModels
