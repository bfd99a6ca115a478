import SchemaModels.Enum
import SchemaModels.Module.Import
import SchemaModels.Module.Member
import SchemaModels.Source.Hint

/-!
Generated modules before they are written out: the enums, the companion class of related records
and the data class of a collection, with the imports that their type hints need.

`ModelModule.build` refuses a collection two of whose names would become one. What it makes can be
written out by `Module.Render`.
-/

namespace SchemaModels

/-- A generated class. A data class states the collection it belongs to. -/
structure ClassSpec where
  name : String
  docstring : String
  members : List Member
  collectionId? : Option String := none
  collectionName? : Option String := none
  deriving DecidableEq, Inhabited

namespace ClassSpec

/-- The members that take an empty text as a missing value. -/
def blankMembers (c : ClassSpec) : List String :=
  (c.members.filter (·.acceptsBlank)).map (·.identifier)

end ClassSpec

/-- A generated module. -/
structure ModelModule where
  name : String
  docstring : String
  imports : List ImportSpec
  enums : List EnumSpec
  dataClass : ClassSpec
  expand? : Option ExpandSpec := none
  expandClass? : Option ClassSpec := none
  deferredImports : List ImportSpec := []
  deriving Inhabited

namespace ModelModule

/-- The classes of the module, in the order of its text. -/
def exports (m : ModelModule) : List String :=
  m.enums.map (·.name) ++ (m.expandClass?.map (·.name)).toList ++ [m.dataClass.name]

/-- The classes that refer to classes imported after them, and have to be completed at the end. -/
def rebuilt (m : ModelModule) : List String :=
  match m.expandClass? with
  | some c => [c.name, m.dataClass.name]
  | none => []

/-! ## Imports -/

/-- Names that a type hint may take from the typing library. -/
def typingNames : List String := ["Any", "Dict", "List", "Optional"]

/-- The imports that the names of a type hint ask for; the module of the geo point class needs none
for that class. -/
def hintImports (dataClass : String) (names : List String) (specs : List ImportSpec) :
    List ImportSpec :=
  let specs := ImportList.add "typing" (typingNames.filter names.contains) 0 specs
  let specs := if names.contains "datetime" then ImportList.add "datetime" ["datetime"] 0 specs
    else specs
  if names.contains "GeoPointData" && dataClass != "GeoPointData" then
    ImportList.add "geo_point_data" ["GeoPointData"] 1 specs
  else specs

/-- The imports at the head of a module with the given classes. -/
def headImports (dataClass : ClassSpec) (enums : List EnumSpec) (expandClass? : Option ClassSpec) :
    Except Fault (List ImportSpec) := do
  let hints ← (dataClass.members ++ (expandClass?.map (·.members)).getD []).mapM fun m =>
    Source.Hint.parse m.hint
  let base :=
    ImportList.add "typing"
      (["Any", "Dict"] ++ (if dataClass.collectionName?.isSome then ["ClassVar"] else []) ++
        (if expandClass?.isSome then ["Optional"] else [])) 0 <|
    ImportList.add "enum" (if enums.isEmpty then [] else ["Enum"]) 0 <|
    ImportList.add "pydantic" (["BaseModel", "ConfigDict", "Field"] ++
      if dataClass.blankMembers.isEmpty then [] else ["field_validator"]) 0 <|
    ImportList.add "__future__" ["annotations"] 0 []
  .ok (hints.foldl (fun acc e => hintImports dataClass.name e.names acc) base)

/-- The imports of related data classes, which stand at the end of a module so that two modules
can import each other. -/
def relatedImports (expand? : Option ExpandSpec) : List ImportSpec :=
  match expand? with
  | none => []
  | some e =>
    (e.fields.filter (!·.isSelfReference)).foldl
      (fun acc f => ImportList.add f.targetModule [f.targetType] 1 acc) []

/-! ## Building -/

/-- The first name that stands in the list a second time. -/
def firstRepeated (seen : List String) : List String → Option String
  | [] => none
  | n :: ns => if seen.contains n then some n else firstRepeated (n :: seen) ns

/-- Refuses names of which two are equal. -/
def requireDistinct (source : NameSource) (collection : Json) (names : List String) :
    Outcome Unit :=
  match firstRepeated [] names with
  | some name => .error (.problem (.collidingNames source collection name))
  | none => .ok ()

/-- Refuses an enum with a name that every module uses. -/
def requireFreeEnumNames (collection : Json) (enums : List EnumSpec) : Outcome Unit :=
  match enums.find? fun e => Naming.moduleNames.contains e.name with
  | some e => .error (.problem (.reservedEnumName e.name e.field collection))
  | none => .ok ()

/-- The notice in every generated file. -/
def notice : String := "This file is auto-generated. Do not modify manually."

/-- The companion class of a resolved expansion. -/
def expandClass (collection : Json) (e : ExpandSpec) : ClassSpec where
  name := e.name
  docstring := "Related records embedded by the 'expand' query option of '" ++
    collection.display ++ "'."
  members := e.fields.map Member.ofExpandField

/-- The companion class that a resolver finds for a collection, with the warnings; none without a
resolver. -/
def expansion (resolver? : Option Resolver) (c : Collection) :
    Logged (Option ExpandSpec × List String) :=
  match resolver? with
  | some r => r.resolve c
  | none => pure (none, [])

/-- The module of a collection, with the warnings of its expansions. -/
def build (c : Collection) (resolver? : Option Resolver) : Logged (ModelModule × List String) := do
  Logged.note .debug ("Building model module for collection '" ++ c.name.display ++ "'")
  let enums ← EnumSpec.ofCollection c
  Logged.ofOutcome (requireDistinct .selectFields c.name (enums.map (·.name)))
  Logged.ofOutcome (requireFreeEnumNames c.name enums)
  let fieldMembers ← c.fields.mapM Member.ofField
  let (expand?, warnings) ← expansion resolver? c
  let members := fieldMembers ++ (expand?.map Member.expand).toList
  Logged.ofOutcome (requireDistinct .fields c.name (members.map (·.identifier)))
  let name ← Logged.ofChecked (Naming.expectText c.name)
  let dataClass : ClassSpec :=
    { name := Naming.typeName name Naming.dataSuffix
      docstring := "Record of the '" ++ name ++ "' collection."
      members
      collectionId? := some c.id
      collectionName? := some name }
  let expandClass? := expand?.map (expandClass c.name)
  let imports ← Logged.ofChecked (headImports dataClass enums expandClass?)
  pure
    ({ name := Naming.moduleName name
       docstring := "Models for the PocketBase '" ++ name ++ "' collection.\n\n" ++ notice ++ "\n"
       imports
       enums
       dataClass
       expand?
       expandClass?
       deferredImports := relatedImports expand? },
     warnings)

end ModelModule

end SchemaModels
