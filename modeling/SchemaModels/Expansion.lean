import SchemaModels.Log
import SchemaModels.Naming.Checked

/-!
Expansions: the records that a collection's relation fields embed, as the members of a companion
class. A mapping that repeats an earlier one is left out with a warning; a mapping whose target has
no model is kept with a warning, or refused when the resolver is strict.
-/

namespace SchemaModels

/-- A member of the companion class: where it comes from and which class it holds. -/
structure ExpandField where
  identifier : String
  rawName : String
  targetType : String
  targetModule : String
  isSingle : Bool
  isSelfReference : Bool := false
  deriving DecidableEq, Inhabited

/-- The companion class of a collection. -/
structure ExpandSpec where
  name : String
  collection : String
  fields : List ExpandField
  deriving DecidableEq, Inhabited

/-- The mappings of a run with the collections it knows and those it makes a model for. -/
structure Resolver where
  mappings : List Mapping
  known : List String
  emitted : List String
  strict : Bool := false

namespace Resolver

/-- Lists and objects cannot be looked up by value. -/
def lookupKey : Json → Except Fault Json
  | .list items => .error (.operand (.list items))
  | .object entries => .error (.operand (.object entries))
  | v => .ok v

/-- A resolver of the given mappings, whose sources must be values to look up. -/
def make (mappings : List Mapping) (known emitted : List String) (strict : Bool) :
    Except Fault Resolver := do
  mappings.forM fun m => discard (lookupKey m.source)
  .ok { mappings, known, emitted, strict }

/-- The mappings from the given collection, in input order. -/
def mappingsFor (r : Resolver) (collection : Json) : List Mapping :=
  r.mappings.filter fun m => m.source.same collection

/-- A value is among the given names. -/
def isAmong (names : List String) : Json → Bool
  | .text s => names.contains s
  | _ => false

/-! ## Warnings -/

/-- The warning about a mapping that repeats an earlier one. -/
def repetitionWarning (c : Collection) (m : Mapping) : String :=
  "Duplicate expansion mapping " ++ c.name.display ++ "." ++ m.field.display ++ " -> " ++
    m.target.display ++ " ignored"

/-- The warning about a mapping from a field that its collection does not have. -/
def fieldWarning (c : Collection) (m : Mapping) : String :=
  "Expansion source field '" ++ m.field.display ++ "' does not exist in collection '" ++
    c.name.display ++ "'; emitting it anyway"

/-- The warning about a mapping to a collection without a model. -/
def targetWarning (r : Resolver) (m : Mapping) : String :=
  (Problem.unresolvedTarget m (isAmong r.known m.target)).report.message ++
    "; emitting the reference anyway"

/-- Writes a warning, and gives it back for the report of the run. -/
def warn (message : String) : Logged (List String) := do
  Logged.note .warning message
  pure [message]

/-! ## Resolution -/

/-- The warnings about a mapping that does not repeat another one; a strict resolver refuses a
target without a model. -/
def check (r : Resolver) (c : Collection) (m : Mapping) : Logged (List String) := do
  let field ← if (c.field? m.field).isNone then warn (fieldWarning c m) else pure []
  let target ← Logged.ofChecked (lookupKey m.target)
  if isAmong r.emitted target then pure field
  else if r.strict then Logged.refuse (.unresolvedTarget m (isAmong r.known m.target))
  else return field ++ (← warn (r.targetWarning m))

/-- The member of a mapping whose names are texts. -/
def member (sourceModule identifier rawName target : String) (isSingle : Bool) : ExpandField :=
  let targetModule := Naming.moduleName target
  { identifier, rawName, targetType := Naming.typeName target Naming.dataSuffix, targetModule,
    isSingle, isSelfReference := targetModule == sourceModule }

/-- The members of further mappings, after those of the mappings in `seen`, with the warnings. -/
def members (r : Resolver) (c : Collection) (sourceModule : String)
    (seen : List (Mapping × String)) :
    List Mapping → Logged (List ExpandField × List String)
  | [] => pure ([], [])
  | m :: rest => do
    let rawName ← Logged.ofChecked (Naming.charactersOf m.field)
    let identifier := Naming.memberName rawName
    match seen.find? (·.2 == identifier) with
    | some (previous, _) =>
      if previous.same m then
        let warnings ← warn (repetitionWarning c m)
        let (fields, more) ← members r c sourceModule seen rest
        pure (fields, warnings ++ more)
      else Logged.refuse (.collidingExpansions previous { m with source := c.name } identifier)
    | none =>
      let warnings ← r.check c m
      let target ← Logged.ofChecked (Naming.expectText m.target)
      let (fields, more) ← members r c sourceModule (seen ++ [(m, identifier)]) rest
      pure (member sourceModule identifier rawName target m.isSingle :: fields, warnings ++ more)

/-- The companion class of a collection, if any mapping has it as its source, with the warnings. -/
def resolve (r : Resolver) (c : Collection) : Logged (Option ExpandSpec × List String) := do
  let key ← Logged.ofChecked (lookupKey c.name)
  match r.mappingsFor key with
  | [] => pure (none, [])
  | mappings => do
    let name ← Logged.ofChecked (Naming.expectText c.name)
    let (fields, warnings) ← r.members c (Naming.moduleName name) [] mappings
    let spec : ExpandSpec :=
      { name := Naming.typeName name Naming.expandSuffix, collection := name, fields }
    Logged.note .debug s!"Resolved {spec.name} with {fields.length} expansion fields"
    pure (some spec, warnings)

end Resolver

end SchemaModels
