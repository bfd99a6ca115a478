import SchemaModels.Module
import SchemaModels.Source.Readable

/-!
The aggregator: the file that makes the classes of all modules available from the package. A name
that several modules define is left out, with a warning, and stays with its modules.
-/

namespace SchemaModels.Package

/-- The names that the package offers from each module. -/
abbrev Exports := List (String × List String)

/-- Adds a module to the owners of a name. -/
def addOwner (module name : String) : List (String × List String) → List (String × List String)
  | [] => [(name, [module])]
  | (n, ms) :: rest =>
    if n = name then (n, ms ++ [module]) :: rest else (n, ms) :: addOwner module name rest

/-- Every name that is defined, with the modules that define it, in order. -/
def owners (modules : List ModelModule) : List (String × List String) :=
  modules.foldl (fun acc m => m.exports.foldl (fun acc name => addOwner m.name name acc) acc) []

/-- One module alone defines the name. -/
def isOwn (owners : List (String × List String)) (name : String) : Bool :=
  match owners.lookup name with
  | some ms => ms.length == 1
  | none => false

/-- The warning about a name that several modules define. -/
def sharedNameWarning (name : String) (modules : List String) : String :=
  s!"'{name}' is defined in " ++ ", ".intercalate modules ++
    "; it is not re-exported from the package, import it from its module instead"

/-- The names that the package offers from each module, and a warning for each name left out. -/
def planExports (modules : List ModelModule) : Exports × List String :=
  let owners := owners modules
  (modules.map fun m => (m.name, m.exports.filter (isOwn owners)),
   (owners.filter (1 < ·.2.length)).map fun (name, ms) => sharedNameWarning name ms)

/-- The exports of a package; each warning is also written to the log. -/
def exports (modules : List ModelModule) : Logged (Exports × List String) := do
  let (exports, warnings) := planExports modules
  warnings.forM fun w => Logged.note .warning w
  pure (exports, warnings)

/-- The import of a module's names into the package, or of the module if it offers none. -/
def importLine (e : String × List String) : String :=
  if e.2.isEmpty then "from . import " ++ e.1
  else "from ." ++ e.1 ++ " import " ++ ", ".intercalate e.2

/-- The text of the aggregator. -/
def aggregatorText (exports : Exports) : String :=
  "\n".intercalate
    (["\"\"\"Models for the PocketBase collections.", "", ModelModule.notice, "\"\"\""] ++
      exports.map importLine ++ ["", "__all__ = ["] ++
      exports.flatMap (fun e => e.2.map fun name => "    " ++ Source.quoted name ++ ",") ++
      ["]", ""])

/-- The text of the aggregator can be read back. -/
def isReadable (exports : Exports) : Bool :=
  exports.all fun e => Source.isName e.1 && e.2.all Source.isName

end SchemaModels.Package
