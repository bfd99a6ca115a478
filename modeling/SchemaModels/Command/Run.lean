import SchemaModels.Command.Arguments
import SchemaModels.Log.Mark
import SchemaModels.Package.Format
import SchemaModels.Package.Generate
import SchemaModels.Server.Fetch
import SchemaModels.Server.SignIn
import SchemaModels.Settings.Load

/-!
A run of the program, stage after stage: the settings are loaded, the schema is fetched from the
server, the package is generated and, unless the settings say otherwise, formatted. No stage before
the generation touches a file.
-/

namespace SchemaModels.Command

open Files (Path Disk)
open Package (RunReport)

/-- What a run works on: files, seen from a directory, a server, and a formatter. -/
structure Host where
  directory : Path
  disk : Disk
  session : Server.Session
  layOut : String → String := id

namespace Host

/-- What the file at a path holds. -/
def content (h : Host) (path : String) : Option ByteArray :=
  (h.disk.tree.textOf? h.directory path).map String.toUTF8

end Host

/-- A task on the files. -/
def onDisk {α : Type} (x : Task Disk α) : Task Host α :=
  x.zoom (·.disk) fun disk h => { h with disk }

/-- A task on the session with the server. -/
def onServer {α : Type} (x : Task Server.Session α) : Task Host α :=
  x.zoom (·.session) fun session h => { h with session }

/-- Writes a heading. -/
def head (title : String) : Task Host Unit :=
  (Log.heading title).forM (Task.note .info)

/-- What the arguments override. -/
def Arguments.overrides (a : Arguments) : Settings.Overrides where
  outputDirectory := (a.outputDirectory.map Json.text).getD .null
  noFormat := .bool a.noFormat

/-- Loads the settings. -/
def loadSettings (a : Arguments) : Task Host Settings := do
  let h ← Task.get
  let s ← Task.lift (Settings.load h.directory a.config (h.content a.config) a.overrides)
  Task.note .debug ("Effective output directory: " ++ s.outputDirectory)
  pure s

/-- The directory that a run would generate its package in, if the settings can be loaded. -/
def Arguments.destination? (a : Arguments) (h : Host) : Option Path :=
  match ((loadSettings a).run h).2.outcome with
  | .ok s => some (Path.below [] s.outputDirectory)
  | .error _ => none

/-- Begins a session with the server of the settings; replies that are on their way are kept, and so
is what is known of the machine. -/
def connect (s : Settings) : Task Host Unit :=
  onServer do
    let session ← Task.get
    Task.set (.start s.hosting.domain s.requestTimeout session.replies session.depth)

/-- Fetches the schema: the collections and the expansion mappings. -/
def fetchSchema (s : Settings) : Task Host (List Collection × List Mapping) := do
  connect s
  onServer do
    discard (Server.signIn (.text s.hosting.email) (.text s.hosting.password))
    let collections ← Server.fetchCollections
    let mappings ← Server.fetchMappings s.expansionCollection
    pure (collections, mappings)

/-- Generates the package, in a directory that is created if need be, and formats it. -/
def generate (s : Settings) (collections : List Collection) (mappings : List Mapping) :
    Task Host RunReport := do
  let h ← Task.get
  let directory := Path.below [] s.outputDirectory
  onDisk do
    Disk.outputDirectory directory
    let report ← Package.generate
      { collections, mappings, directory, internalPrefix := s.internalPrefix,
        strict := s.strictExpansions }
    if s.formatOutput then Package.format h.layOut report
    pure report

/-- Tells what has been generated. -/
def conclude (s : Settings) (report : RunReport) : Task Host Unit := do
  report.modelFiles.forM fun path =>
    Task.note .info (Log.highlight (Path.name (Path.names (path.getD ""))))
  if !report.warnings.isEmpty then
    Task.note .warning s!"Finished with {report.warnings.length} warnings; see above"
  Task.note .info (Log.success ("Models generated successfully in " ++ s.outputDirectory))

/-- A run. -/
def run (a : Arguments) : Task Host Unit := do
  if a.verbose then
    Task.note .debug "Verbose mode enabled. DEBUG level logging activated."
  head "Configuration"
  let s ← loadSettings a
  head "PocketBase Schema"
  let (collections, mappings) ← fetchSchema s
  head "Model Generation"
  let report ← generate s collections mappings
  head "Completion"
  conclude s report

end SchemaModels.Command
