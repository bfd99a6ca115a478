/-!
Complaints about settings: what is wrong, and where in the configuration it is.
-/

namespace SchemaModels

/-- What is wrong with a setting. -/
inductive Complaint.Cause where
  | missing
  | textExpected
  /-- A text holds half of a surrogate pair, or bytes are no text. -/
  | textBroken
  | textEmpty
  /-- A domain does not say how to reach it. -/
  | badDomain (domain : String)
  /-- A mapping is expected, of the settings of this name. -/
  | mappingExpected (settings : String)
  /-- A value could be read as true or false but is none of the words or numbers for them. -/
  | truthUnclear
  | truthExpected
  | numberUnclear
  | numberExpected
  | notPositive
  deriving DecidableEq, Inhabited

/-- What is wrong with a setting, and the names on the way to it. -/
structure Complaint where
  location : List String
  cause : Complaint.Cause
  deriving DecidableEq, Inhabited

namespace Complaint

def Cause.message : Cause → String
  | .missing => "Field required"
  | .textExpected => "Input should be a valid string"
  | .textBroken => "Input should be a valid string, unable to parse raw data as a unicode string"
  | .textEmpty => "String should have at least 1 character"
  | .badDomain domain =>
    s!"Value error, Domain must start with http:// or https://, got '{domain}'"
  | .mappingExpected settings =>
    s!"Input should be a valid dictionary or instance of {settings}"
  | .truthUnclear => "Input should be a valid boolean, unable to interpret input"
  | .truthExpected => "Input should be a valid boolean"
  | .numberUnclear => "Input should be a valid number, unable to parse string as a number"
  | .numberExpected => "Input should be a valid number"
  | .notPositive => "Input should be greater than 0"

/-- The place of a complaint. -/
def place (c : Complaint) : String :=
  if c.location.isEmpty then "Model Level" else " -> ".intercalate c.location

/-- The lines that tell a complaint; for a missing setting there is a hint. -/
def lines (c : Complaint) : List String :=
  [s!"  - Location: '{c.place}'", "    Error:    " ++ c.cause.message] ++
    if c.cause = .missing then
      [s!"    Hint:     Add '{c.location.getLast?.getD default}' to the configuration file."]
    else []

/-- The lines that tell all complaints. -/
def page (cs : List Complaint) : List String :=
  ["", "--- Configuration Errors ---"] ++ cs.flatMap lines ++
    [String.ofList (List.replicate 28 '-')]

end Complaint

end SchemaModels
