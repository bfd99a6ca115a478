import SchemaModels.Files.Path
import SchemaModels.Log
import SchemaModels.Settings.Check

/-!
Loading the settings: the file is decoded and read, some settings are overridden, and the result is
checked. The output directory of loaded settings is an absolute path.
-/

namespace SchemaModels.Settings

open Yaml (Value)

/-- Settings given on the command line; blank ones are not given. -/
structure Overrides where
  outputDirectory : Json := .null
  noFormat : Json := .null

/-- The settings that are overridden, with their values. -/
def Overrides.entries (o : Overrides) : List (String × Value) :=
  (if o.outputDirectory.isBlank then [] else [("output_directory", .ofJson o.outputDirectory)]) ++
    if o.noFormat.isBlank then [] else [("format_output", .bool false)]

/-- Checks a configuration that was read from a file, or from nowhere. -/
def validate (v : Value) (path : Option String) : Logged Settings :=
  match check v with
  | .valid settings => do
    Logged.note .debug "Configuration dictionary parsed and validated successfully against schema."
    pure settings
  | .invalid complaints => do
    Logged.note .critical
      "Configuration validation failed! Please check your config file or arguments."
    Logged.refuse (.configurationInvalid complaints path)

/-- A text with a line feed for every line break of the kinds that files have. -/
def unifyBreaks : List Char → List Char
  | [] => []
  | '\r' :: '\n' :: cs => '\n' :: unifyBreaks cs
  | '\r' :: cs => '\n' :: unifyBreaks cs
  | c :: cs => c :: unifyBreaks cs

/-- The mapping in a configuration file and its section for the server. -/
def readFile (path : String) (content : Option ByteArray) :
    Outcome (List (String × Value) × List (String × Value)) :=
  match content with
  | none => .error (.problem (.configurationMissing path))
  | some bytes =>
    match String.fromUTF8? bytes with
    | none => .error (.fault .undecodable)
    | some text =>
      match Yaml.read (unifyBreaks text.toList) with
      | .error (.malformed reason) => .error (.problem (.configurationMalformed reason path))
      | .error (.fault f) => .error (.fault f)
      | .ok (.mapping entries) =>
        match entries.lookup "pocketbase" with
        | some (.mapping inner) => .ok (entries, inner)
        | _ => .error (.problem (.configurationNoSection path))
      | .ok _ => .error (.problem (.configurationNoMapping path))

/-- The settings with an absolute path to the output directory, seen from the given one. -/
def settle (directory : Files.Path) (s : Settings) : Outcome Settings :=
  if s.outputDirectory.toList.contains (Char.ofNat 0) then .error (.fault .cutPath)
  else .ok { s with
    outputDirectory := Files.Path.text (Files.Path.resolve directory s.outputDirectory) }

/-- Loads the settings of a configuration file, whose content is given if there is one. -/
def load (directory : Files.Path) (path : String) (content : Option ByteArray)
    (overrides : Overrides) : Logged Settings := do
  let (entries, inner) ← Logged.ofOutcome (readFile path content)
  Logged.note .debug ("Loaded configuration from " ++ path)
  let given := overrides.entries
  if !given.isEmpty then
    Logged.note .debug ("Overridden config keys from CLI arguments: \x7b" ++
      ", ".intercalate (given.map fun e => Source.quoted e.1) ++ "\x7d")
  Logged.note .info "Validating configuration..."
  let server := given.foldl (fun es (k, v) => Json.setKey k v es) inner
  let settings ← validate (.mapping (Json.setKey "pocketbase" (.mapping server) entries))
    (some path)
  let settings ← Logged.ofOutcome (settle directory settings)
  Logged.note .info "Configuration loaded and validated successfully."
  pure settings

end SchemaModels.Settings
