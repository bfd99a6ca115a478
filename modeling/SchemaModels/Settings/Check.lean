import SchemaModels.Settings
import SchemaModels.Settings.Complaint
import SchemaModels.Text.Part
import SchemaModels.Yaml.Value

/-!
From a value to settings. Every setting is looked at, and the complaints about all of them are kept
in the order of the settings: `Checked` is the result, settings or complaints.
-/

namespace SchemaModels

open Yaml (Value)

/-- A value, or the complaints about what it was to be made of. -/
inductive Checked (α : Type) where
  | valid (a : α)
  | invalid (complaints : List Complaint)

namespace Checked

variable {α β : Type}

/-- Complaints about both sides are kept. -/
protected def seq (f : Checked (α → β)) (x : Checked α) : Checked β :=
  match f, x with
  | .valid f, .valid a => .valid (f a)
  | .valid _, .invalid cs => .invalid cs
  | .invalid cs, .valid _ => .invalid cs
  | .invalid cs, .invalid ds => .invalid (cs ++ ds)

instance : Applicative Checked where
  pure := .valid
  seq f x := Checked.seq f (x ())

/-- A value with one complaint at most. -/
def ofExcept (location : List String) : Except Complaint.Cause α → Checked α
  | .ok a => .valid a
  | .error cause => .invalid [⟨location, cause⟩]

end Checked

namespace Settings

/-! ## Kinds of settings -/

/-- A text, also one given as bytes. -/
def asText : Value → Except Complaint.Cause String
  | .text s => .ok s
  | .brokenText => .error .textBroken
  | .bytes bs =>
    match String.fromUTF8? ⟨bs.toArray⟩ with
    | some s => .ok s
    | none => .error .textBroken
  | _ => .error .textExpected

/-- A text that is not empty. -/
def asWord (v : Value) : Except Complaint.Cause String := do
  let s ← asText v
  if s.isEmpty then .error .textEmpty else .ok s

/-- The domain of a server, without blanks around it and slashes behind it. -/
def normalDomain (s : String) : Except Complaint.Cause String :=
  let cs := (Text.trim s).toList
  if "http://".toList.isPrefixOf cs || "https://".toList.isPrefixOf cs then
    .ok (String.ofList (Text.dropTrailing (· == '/') cs))
  else .error (.badDomain (Text.trim s))

def asDomain (v : Value) : Except Complaint.Cause String := asWord v >>= normalDomain

/-- Words for true and false, in any case. -/
def truthWords : List (String × Bool) :=
  [("0", false), ("off", false), ("f", false), ("false", false), ("n", false), ("no", false),
   ("1", true), ("on", true), ("t", true), ("true", true), ("y", true), ("yes", true)]

/-- The truth that a whole number stands for. -/
def truthOfInt (n : Int) : Except Complaint.Cause Bool :=
  if n = 0 then .ok false else if n = 1 then .ok true else .error .truthUnclear

/-- Whole numbers beyond this are not looked at. -/
def wordLimit : Int := Nat.pow 2 63

/-- True or false: also as a word or as one or zero. -/
def asTruth (v : Value) : Except Complaint.Cause Bool :=
  let ofWord := fun (s : String) =>
    match truthWords.lookup (String.ofList (s.toList.map Char.toLower)) with
    | some b => Except.ok b
    | none => .error .truthUnclear
  match v with
  | .bool b => .ok b
  | .text _ | .brokenText => asText v >>= ofWord
  | .bytes bs =>
    match String.fromUTF8? ⟨bs.toArray⟩ with
    | some s => ofWord s
    | none => .error .truthUnclear
  | .int n => if -wordLimit ≤ n ∧ n < wordLimit then truthOfInt n else .error .truthExpected
  | .float x =>
    match x.truncate? with
    | some n =>
      if x.compareInt? n == some .eq ∧ -wordLimit < n ∧ n < wordLimit then truthOfInt n
      else .error .truthExpected
    | none => .error .truthExpected
  | _ => .error .truthExpected

/-- The number of a text, which may have blanks around it or single underscores within. -/
def numberOfText (s : String) : Except Complaint.Cause Double :=
  let cs := s.toList
  let trimmed := Text.dropTrailing Json.isNumeralSpace (Text.dropLeading Json.isNumeralSpace cs)
  let spaced := cs.head? == some '_' || cs.getLast? == some '_' || Text.holds ['_', '_'] cs
  let joined := if spaced then none else Double.ofText? (cs.filter (· != '_'))
  match Double.ofText? trimmed <|> joined with
  | some x => .ok x
  | none => .error .numberUnclear

/-- A number: also as a text. -/
def asNumber (v : Value) : Except Complaint.Cause Double :=
  match v with
  | .float x => .ok x
  | .text _ | .brokenText => asText v >>= numberOfText
  | .bytes bs =>
    match String.fromUTF8? ⟨bs.toArray⟩ with
    | some s => numberOfText s
    | none => .error .numberUnclear
  | .bool b => .ok (Double.ofInt b.toNat)
  | .int n =>
    match Double.ofInt n with
    | .infinite _ => .error .numberExpected
    | x => .ok x
  | _ => .error .numberExpected

/-- A number above zero. -/
def asSeconds (v : Value) : Except Complaint.Cause Json := do
  let x ← asNumber v
  if x.isPositive then .ok (.float x) else .error .notPositive

/-! ## The settings of a run -/

/-- The setting of a name among the entries of a mapping. -/
def setting {α : Type} (outer : List String) (entries : List (String × Value)) (name : String)
    (default : Option α) (read : Value → Except Complaint.Cause α) : Checked α :=
  let location := outer ++ [name]
  match entries.lookup name, default with
  | some v, _ => .ofExcept location (read v)
  | none, some a => .valid a
  | none, none => .invalid [⟨location, .missing⟩]

/-- The settings of a name that are a mapping themselves. -/
def nested {α : Type} (outer : List String) (entries : List (String × Value)) (name kind : String)
    (read : List String → List (String × Value) → Checked α) : Checked α :=
  let location := outer ++ [name]
  match entries.lookup name with
  | some (.mapping inner) => read location inner
  | some _ => .invalid [⟨location, .mappingExpected kind⟩]
  | none => .invalid [⟨location, .missing⟩]

/-- Where the server is, and the account to sign in with. -/
def checkHosting (location : List String) (entries : List (String × Value)) : Checked Hosting :=
  Hosting.mk <$> setting location entries "domain" none asDomain
    <*> setting location entries "email" none asWord
    <*> setting location entries "password" none asWord

/-- The settings under the name of the server. -/
def checkSection (location : List String) (entries : List (String × Value)) : Checked Settings :=
  let default : Settings := { hosting := default }
  Settings.mk <$> nested location entries "hosting" "HostingSettings" checkHosting
    <*> setting location entries "output_directory" (some default.outputDirectory) asWord
    <*> setting location entries "expansion_collection" (some default.expansionCollection) asWord
    <*> setting location entries "internal_prefix" (some default.internalPrefix) asText
    <*> setting location entries "strict_expansions" (some default.strictExpansions) asTruth
    <*> setting location entries "format_output" (some default.formatOutput) asTruth
    <*> setting location entries "request_timeout" (some default.requestTimeout) asSeconds

/-- The settings that a configuration states. -/
def check (v : Value) : Checked Settings :=
  match v with
  | .mapping entries => nested [] entries "pocketbase" "PocketBaseSettings" checkSection
  | _ => .invalid [⟨[], .mappingExpected "ToolConfigSchema"⟩]

end Settings

end SchemaModels
