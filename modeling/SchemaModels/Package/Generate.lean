import SchemaModels.Files.Replace
import SchemaModels.Log.Mark
import SchemaModels.Module.GeoPoint
import SchemaModels.Package.Aggregator
import SchemaModels.Package.Plan
import SchemaModels.Package.Report

/-!
A run: from a schema to the files of a package.

Everything is built and written out in memory first; `draft` does that and touches no file. Only
then are the files replaced, one after the other, and the aggregator comes last. The previous
aggregator is removed right after planning, so that a package whose run failed cannot be imported as
if it were complete.
-/

namespace SchemaModels.Package

open Files (Path Disk FileError)

/-- What a run is asked for. -/
structure Request where
  collections : List Collection
  mappings : List Mapping
  directory : Path
  internalPrefix : String := "_"
  strict : Bool := false

/-- A package in memory: the files to write and the aggregator, each with its place. -/
structure Draft where
  files : List (Path × Written)
  aggregator : Path × Written
  warnings : List String
  deriving DecidableEq, Inhabited

/-- The name of the aggregator's file. -/
def aggregatorFile : String := "__init__.py"

/-- The path of a module's file. A module name that holds slashes leads further down, or starts
again at the root. -/
def modulePath (directory : Path) (module : String) : Path :=
  Path.below directory (module ++ ".py")

/-- The path of the aggregator. -/
def aggregatorPath (directory : Path) : Path := directory ++ [aggregatorFile]

/-- A file with its place. -/
def placed (path : Path) (code : String) (readable : Bool) (component : Component)
    (collection : Option String) : Path × Written :=
  (path, { code, path := some (Path.text path), collection, component, readable })

/-- The collections that get a module. -/
def emitted (request : Request) : Except Fault (List Collection) :=
  request.collections.filterM fun c => (!·) <$> isInternal request.internalPrefix c.name

/-- The names of collections that are texts. -/
def names (collections : List Collection) : List String :=
  collections.filterMap fun c => match c.name with
    | .text s => some s
    | _ => none

/-- Builds the module of each collection and writes it out, in order. -/
def draftModules (resolver : Resolver) (directory : Path) :
    List Collection → Logged (List (ModelModule × Path × Written) × List String)
  | [] => pure ([], [])
  | c :: rest => do
    let (module, warnings) ← ModelModule.build c (some resolver)
    let code ← Logged.ofChecked module.render
    let file :=
      placed (modulePath directory module.name) code module.isReadable .model (some c.name.display)
    let (others, more) ← draftModules resolver directory rest
    pure ((module, file) :: others, warnings ++ more)

/-- The package of a run in memory. -/
def draft (request : Request) (emitted : List Collection) : Logged Draft := do
  let resolver ← Logged.ofChecked
    (Resolver.make request.mappings (names request.collections) (names emitted) request.strict)
  let (modules, warnings) ← draftModules resolver request.directory emitted
  let geoPoint ← Logged.ofChecked ModelModule.geoPoint
  let geoCode ← Logged.ofChecked geoPoint.render
  let geoFile :=
    placed (modulePath request.directory geoPoint.name) geoCode geoPoint.isReadable .geoPoint none
  let (exports, exportWarnings) ← exports (modules.map (·.1) ++ [geoPoint])
  let aggregator := placed (aggregatorPath request.directory) (aggregatorText exports)
    (isReadable exports) .aggregator none
  pure { files := modules.map (·.2) ++ [geoFile], aggregator,
         warnings := warnings ++ exportWarnings }

/-- Removes the aggregator of an earlier run, if there is one. -/
def removeAggregator (path : Path) : Task Disk Unit := do
  let d ← Task.get
  match d.tree.unlink path with
  | .ok t => do
    Task.set { d with tree := t }
    Task.note .debug ("Removed previous aggregator: " ++ Path.text path)
  | .error .missing => pure ()
  | .error r =>
    Task.refuse (.staleAggregator { refusal := r, path := Path.text path } (Path.text path))

/-- Writes the files of a package in order; `done` of `total` are written already. -/
def writeFiles (total done : Nat) : List (Path × String) → Task Disk Unit
  | [] => pure ()
  | (path, code) :: rest => do
    Disk.writeWhole path code
    Task.note .info (Log.progress (done + 1) total ("Wrote " ++ path.name))
    writeFiles total (done + 1) rest

/-- Generates a package. -/
def generate (request : Request) : Task Disk RunReport := do
  let emitted ← Task.lift (Logged.ofChecked (emitted request))
  let skipped := request.collections.length - emitted.length
  Task.note .info
    s!"Generating models for {emitted.length} collections ({skipped} internal skipped)"
  discard (Task.lift (Logged.ofOutcome (plan (emitted.map (·.name)))))
  removeAggregator (aggregatorPath request.directory)
  let draft ← Task.lift (Package.draft request emitted)
  writeFiles draft.files.length 0 (draft.files.map fun f => (f.1, f.2.code))
  Disk.writeWhole draft.aggregator.1 draft.aggregator.2.code
  Task.note .info (Log.success
    (s!"Generated {emitted.length} model modules in " ++ Path.text request.directory))
  pure
    { results := draft.files.map (·.2) ++ [draft.aggregator.2]
      warnings := draft.warnings
      aggregatorPath := draft.aggregator.2.path }

end SchemaModels.Package
