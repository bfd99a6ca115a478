import SchemaModels.Json

/-!
The settings of a run.
-/

namespace SchemaModels

/-- Where the server is, and the account to sign in with. -/
structure Hosting where
  domain : String
  email : String
  password : String
  deriving Inhabited

/-- The settings of a run. -/
structure Settings where
  hosting : Hosting
  outputDirectory : String := "./models"
  /-- The collection whose records are the expansion mappings. -/
  expansionCollection : String := "_expansions"
  /-- Collections whose names begin like this get no module. -/
  internalPrefix : String := "_"
  strictExpansions : Bool := false
  formatOutput : Bool := true
  /-- How many seconds a request may take. -/
  requestTimeout : Json := .int 30
  deriving Inhabited

end SchemaModels
