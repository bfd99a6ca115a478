import SchemaModels.Text.Blank

/-!
What a run reports when it succeeds: the files that it wrote and the warnings that it gave.
-/

namespace SchemaModels.Package

/-- The part of a package that a file is. -/
inductive Component where
  | model
  | geoPoint
  | aggregator
  | other (word : String)
  deriving DecidableEq, Inhabited

namespace Component

def word : Component → String
  | .model => "model"
  | .geoPoint => "geo_point"
  | .aggregator => "aggregator"
  | .other w => w

/-- The part that a word names. -/
def ofWord (w : String) : Component :=
  (([.model, .geoPoint, .aggregator] : List Component).find? (·.word == w)).getD (.other w)

theorem word_ofWord (w : String) : (ofWord w).word = w := by
  unfold ofWord
  cases h : ([.model, .geoPoint, .aggregator] : List Component).find? (·.word == w) with
  | none => rfl
  | some c => simpa using List.find?_some h

end Component

/-- A file of a package. -/
structure Written where
  code : String
  path : Option String := none
  collection : Option String := none
  component : Component := .model
  lines : Nat := Text.countLines code
  /-- The code can be read back. -/
  readable : Bool := true
  deriving DecidableEq, Inhabited

/-- The files of a run, the aggregator last, and its warnings. -/
structure RunReport where
  results : List Written
  warnings : List String
  aggregatorPath : Option String := none
  deriving DecidableEq, Inhabited

namespace RunReport

/-- The paths of the files that hold the models of collections. -/
def modelFiles (r : RunReport) : List (Option String) :=
  (r.results.filter (·.component = .model)).map (·.path)

/-- The paths of all files. -/
def filePaths (r : RunReport) : List (Option String) :=
  r.results.map (·.path)

end RunReport

end SchemaModels.Package
