/-!
Words with a meaning of their own in naming: irregular plurals, and the names that a member of a
generated class must not have.
-/

namespace SchemaModels.Naming

/-- Irregular plurals with their singulars; a word listed with itself has no plural of its own. -/
def irregulars : List (String × String) :=
  [("men", "man"), ("women", "woman"), ("children", "child"), ("feet", "foot"),
   ("teeth", "tooth"), ("geese", "goose"), ("mice", "mouse"), ("oxen", "ox"),
   ("sheep", "sheep"), ("fish", "fish")]

/-- Plural endings that are shortened by two letters. -/
def esEndings : List String := ["ches", "shes", "ses", "xes", "zes"]

/-- Singular words in `s`. -/
def singularsInS : List String := ["bus", "gas", "lens"]

/-- Spellings of "date time" that would collide with the built-in moment type. -/
def dateTimeSpellings : List String := ["date_time", "datetime", "dateTime"]

/-- Stands for "date time" inside type names. -/
def dateTimeToken : String := "DateTimez"

/-- A number field whose name ends in one of these holds whole numbers. -/
def integerEndings : List String :=
  ["count", "minutes", "seconds", "hours", "days", "weeks", "months", "years", "age", "quantity",
   "total", "index", "position", "rank", "level", "size", "length", "width", "height", "number",
   "score"]

/-- Keywords of the generated source. -/
def keywords : List String :=
  ["False", "None", "True", "and", "as", "assert", "async", "await", "break", "class", "continue",
   "def", "del", "elif", "else", "except", "finally", "for", "from", "global", "if", "import",
   "in", "is", "lambda", "nonlocal", "not", "or", "pass", "raise", "return", "try", "while",
   "with", "yield"]

/-- Names that a generated module binds or refers to itself. -/
def moduleNames : List String :=
  ["Any", "BaseModel", "ClassVar", "ConfigDict", "Dict", "Enum", "Field", "GeoPointData", "List",
   "Optional", "bool", "datetime", "field_validator", "float", "int", "str", "COLLECTION_ID",
   "COLLECTION_NAME", "from_json", "to_json", "from_value", "blank_to_none", "model_config",
   "mro"]

/-- Public attributes of the base class of every generated class. -/
def baseAttributes : List String :=
  ["construct", "copy", "dict", "from_orm", "json", "parse_file", "parse_obj", "parse_raw",
   "schema", "schema_json", "update_forward_refs", "validate"]

/-- Names that no member of a generated class may have. -/
def reserved : List String := keywords ++ moduleNames ++ baseAttributes

end SchemaModels.Naming
