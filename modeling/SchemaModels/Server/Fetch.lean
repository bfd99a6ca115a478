import SchemaModels.Schema.Ingest
import SchemaModels.Server.Listing

/-!
What is fetched from the server: the collections, without which there is nothing to generate, and
the expansion mappings, which a run can do without.
-/

namespace SchemaModels.Server

/-- The address of the collections. -/
def collectionsPath : String := "/api/collections"

/-- The address of the records of a collection. -/
def recordsPath (collection : String) : String := s!"/api/collections/{collection}/records"

/-- The collection whose records are the expansion mappings, unless the settings name another. -/
def mappingCollection : String := "_expansions"

/-- The faults in a listing of collections that are told as a problem with the server. -/
def collectionFaults : List Fault.Family := [.value]

/-- Fetches the collections, in the order of the server. -/
def fetchCollections : Task Session (List Collection) := do
  Task.note .info "Fetching collections from PocketBase..."
  let s ← Task.get
  let (s, listing) := list .ok collectionsPath s
  Task.set s
  match listing with
  | .error e =>
    match e.unforeseen? collectionFaults with
    | some fault => Task.lift (Logged.ofChecked (.error fault))
    | none => Task.refuse (.collectionsNotFetched e.message)
  | .ok items => do
    let collections ← Task.lift (items.mapM (Collection.ofJson ·))
    Task.note .info s!"Found {collections.length} collections"
    pure collections

/-- The faults in a listing of mappings that a run gets over. -/
def mappingFaults : List Fault.Family := [.value, .key, .operand, .member]

/-- Fetches the expansion mappings from the records of a collection. If some request, page or
record is no good, there is a warning and there are no mappings. -/
def fetchMappings (collection : String) : Task Session (List Mapping) := do
  let s ← Task.get
  let (s, listing) := list Mapping.ofJson (recordsPath collection) s
  Task.set s
  match listing with
  | .error e =>
    match e.unforeseen? mappingFaults with
    | some fault => Task.lift (Logged.ofChecked (.error fault))
    | none => do
      Task.note .warning
        (s!"Could not load expansion mappings from '{collection}': {e.message}. " ++
          "Continuing without expansions.")
      pure []
  | .ok mappings => do
    Task.note .info s!"Found {mappings.length} expansion mappings in '{collection}'"
    pure mappings

end SchemaModels.Server
