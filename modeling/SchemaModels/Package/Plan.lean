import SchemaModels.Log
import SchemaModels.Naming.Checked

/-!
Planning a package: which collections get a module, and under which name. Two collections, or a
collection and a module that every package has, must not get one name.
-/

namespace SchemaModels.Package

/-- A collection whose name begins with the prefix for internal ones gets no module. -/
def isInternal (internalPrefix : String) (name : Json) : Except Fault Bool :=
  if internalPrefix.isEmpty then .ok false
  else (fun s => internalPrefix.toList.isPrefixOf s.toList) <$> Naming.memberOf "startswith" name

/-- The module that every package has under a name. -/
def fixedModule? (name : String) : Option FixedModule :=
  FixedModule.all.find? (·.name == name)

/-- Plans further collections, after those planned already. -/
def planFrom (planned : List (Json × String)) : List Json → Outcome (List (Json × String))
  | [] => .ok planned
  | collection :: rest => do
    let name ← Outcome.ofFault (Naming.moduleNameOf collection)
    match fixedModule? name, planned.find? (·.2 == name) with
    | some m, _ => .error (.problem (.reservedModule collection name m))
    | none, some (owner, _) => .error (.problem (.sharedModule owner collection name))
    | none, none => planFrom (planned ++ [(collection, name)]) rest

/-- The module name of each collection, in input order. -/
def plan (collections : List Json) : Outcome (List (Json × String)) :=
  planFrom [] collections

end SchemaModels.Package
