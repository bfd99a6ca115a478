import SchemaModels.Json

/-!
The schema a run works on: collections with their fields, as the server describes them, and the
expansion mappings that say which relation fields embed the records they point to.

Names are kept as the server sends them. Nothing checks that they are texts before a rule asks for
one, so they are JSON values here.
-/

namespace SchemaModels

/-- The kinds of field that a server knows. -/
inductive FieldKind where
  | text
  | email
  | url
  | file
  | password
  | number
  | bool
  | date
  | autodate
  | geoPoint
  | json
  | select
  | relation
  | unknown
  deriving DecidableEq, Inhabited

namespace FieldKind

def all : List FieldKind :=
  [.text, .email, .url, .file, .password, .number, .bool, .date, .autodate, .geoPoint, .json,
   .select, .relation, .unknown]

/-- The server's word for a kind. -/
def word : FieldKind → String
  | .text => "text"
  | .email => "email"
  | .url => "url"
  | .file => "file"
  | .password => "password"
  | .number => "number"
  | .bool => "bool"
  | .date => "date"
  | .autodate => "autodate"
  | .geoPoint => "geoPoint"
  | .json => "json"
  | .select => "select"
  | .relation => "relation"
  | .unknown => "unknown"

/-- The kind of a word; a word that the server should not use is unknown. -/
def ofWord (w : String) : FieldKind :=
  (all.find? (·.word == w)).getD .unknown

/-- Every kind is the kind of its word. -/
theorem ofWord_word (k : FieldKind) : ofWord k.word = k := by
  cases k <;> decide

end FieldKind

/-- What a field of some kinds carries: a select field its values, a relation field how many
records it may point to, and of which collection. -/
inductive FieldExtra where
  | plain
  | select (values : List String)
  | relation (maxSelect : Option Int) (collectionId : Json)
  deriving Inhabited

/-- A field of a collection. -/
structure Field where
  name : Json
  kind : FieldKind
  required : Bool := false
  extra : FieldExtra := .plain
  rawType : Json := .null
  deriving Inhabited

namespace Field

/-- The values that a select field allows; other fields have none. -/
def selectValues (f : Field) : List String :=
  match f.extra with
  | .select values => values
  | _ => []

/-- A relation field that points to one record at most. -/
def isSingleRelation (f : Field) : Bool :=
  match f.extra with
  | .relation maxSelect _ => maxSelect == some 1
  | _ => false

end Field

/-- A collection with its fields in declaration order. -/
structure Collection where
  id : String
  name : Json
  fields : List Field := []
  type : Json := .text "base"
  system : Bool := false
  deriving Inhabited

/-- The first field of the given name. -/
def Collection.field? (c : Collection) (name : Json) : Option Field :=
  c.fields.find? fun f => f.name.same name

/-- A field of the source collection embeds records of the target collection. -/
structure Mapping where
  source : Json
  field : Json
  isSingle : Bool
  target : Json
  deriving Inhabited

/-- Mappings with equal parts. -/
def Mapping.same (m n : Mapping) : Bool :=
  m.source.same n.source && m.field.same n.field && m.isSingle == n.isSingle &&
    m.target.same n.target

end SchemaModels
