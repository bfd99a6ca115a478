import SchemaModels.Module
import SchemaModels.Source.Readable

/-!
The text of a generated module: its docstring, imports and list of exports, the enums, the companion
class and the data class, then the imports of related classes and the calls that complete the
classes which refer to them.
-/

namespace SchemaModels

open Source

namespace Source.Expr

/-- A call of a named function with named arguments after those by position. -/
def callNamed (func : String) (args : List Expr) (keywords : List (String × Expr)) : Expr :=
  .call (dotted func) args (keywords.map fun (k, v) => (some k, v))

end Source.Expr

namespace EnumSpec

/-- The class of an enum: its variants as texts, and a look-up by value. -/
def statement (e : EnumSpec) : Except Fault Statement := do
  let variants := e.variants.map fun v => Statement.assign v.identifier (.text v.value)
  let text ← Hint.parse "str"
  let self ← Hint.parse e.name
  let lookUp := Statement.function "from_value" [("cls", none), ("value", some text)] (some self)
    [.name "classmethod"]
    [.docstring "Look up a member by its raw value; raises ValueError when none matches.",
     .give (.callNamed "cls" [.name "value"] [])]
  .ok (.classDef e.name [.name "str", .name "Enum"]
    (.docstring ("Allowed values of the '" ++ e.field.display ++ "' select field.") ::
      variants ++ [lookUp]))

end EnumSpec

namespace Member

/-- The declaration of a member, with the server's name as its alias. -/
def statement (m : Member) : Except Fault Statement := do
  let hint ← Hint.parse m.hint
  .ok (.declare m.identifier hint (some (.callNamed "Field" []
    ((if m.nullable then [("default", Expr.none)] else []) ++ [("alias", .text m.rawName)]))))

end Member

namespace ClassSpec

/-- The settings of a class: members go by their names as well as by their aliases. -/
def settings : Statement :=
  .assign "model_config" (.callNamed "ConfigDict" []
    [("populate_by_name", .bool true), ("protected_namespaces", .tuple [])])

/-- The constants that name the collection. -/
def constants (c : ClassSpec) : Except Fault (List Statement) := do
  match c.collectionName? with
  | none => .ok []
  | some name =>
    let constant ← Hint.parse "ClassVar[str]"
    .ok [.declare "COLLECTION_ID" constant (some (.text (c.collectionId?.getD ""))),
         .declare "COLLECTION_NAME" constant (some (.text name))]

/-- The validator that takes empty texts of the given members as missing. -/
def blankValidator (members : List String) : Except Fault Statement := do
  let any ← Hint.parse "Any"
  .ok (.function "blank_to_none" [("cls", none), ("value", some any)] (some any)
    [.callNamed "field_validator" (members.map .text) [("mode", .text "before")],
     .name "classmethod"]
    [.give (.ternary (.compare (.name "value") [(.eq, .text "")]) .none (.name "value"))])

/-- The method that reads a record. -/
def reader (c : ClassSpec) : Except Fault Statement := do
  let record ← Hint.parse "Dict[str, Any]"
  let self ← Hint.parse c.name
  .ok (.function "from_json" [("cls", none), ("data", some record)] (some self)
    [.name "classmethod"]
    [.docstring "Build an instance from a decoded PocketBase JSON object.",
     .give (.callNamed "cls.model_validate" [.name "data"] [])])

/-- The method that writes a record. -/
def writer : Except Fault Statement := do
  let record ← Hint.parse "Dict[str, Any]"
  .ok (.function "to_json" [("self", none)] (some record) []
    [.docstring ("Serialize to a JSON-compatible dict keyed by PocketBase field names, " ++
       "omitting unset members."),
     .give (.callNamed "self.model_dump" []
       [("mode", .text "json"), ("by_alias", .bool true), ("exclude_none", .bool true)])])

/-- The class with its members and methods. -/
def statement (c : ClassSpec) : Except Fault Statement := do
  let constants ← c.constants
  let members ← c.members.mapM Member.statement
  let validator ←
    if c.blankMembers.isEmpty then pure [] else (fun s => [s]) <$> blankValidator c.blankMembers
  let reader ← c.reader
  let writer ← writer
  .ok (.classDef c.name [.name "BaseModel"]
    ([.docstring c.docstring, settings] ++ constants ++ members ++ validator ++ [reader, writer]))

end ClassSpec

namespace ModelModule

/-- The call that completes a class whose members refer to classes imported after it. -/
def rebuildCall (className : String) : Statement :=
  .expression (.callNamed (className ++ ".model_rebuild") [] [("raise_errors", .bool false)])

/-- The statements of a module. -/
def statements (m : ModelModule) : Except Fault (List Statement) := do
  let enums ← m.enums.mapM EnumSpec.statement
  let expandClass ← m.expandClass?.toList.mapM ClassSpec.statement
  let dataClass ← m.dataClass.statement
  .ok (.docstring m.docstring :: m.imports.map ImportSpec.statement ++
    [.assign "__all__" (.list (m.exports.map .text))] ++ enums ++ expandClass ++ [dataClass] ++
    m.deferredImports.map ImportSpec.statement ++ m.rebuilt.map rebuildCall)

/-- The text of a module. -/
def render (m : ModelModule) : Except Fault String :=
  (fun ss => Statement.source ss ++ "\n") <$> m.statements

/-- The text of the module of a collection, built on its own. -/
def code (c : Collection) (resolver? : Option Resolver) : Logged String := do
  let (m, _) ← build c resolver?
  Logged.ofChecked m.render

/-- The text of the module can be read back. -/
def isReadable (m : ModelModule) : Bool :=
  match m.statements with
  | .ok statements => Statement.areReadable statements
  | .error _ => false

end ModelModule

end SchemaModels
