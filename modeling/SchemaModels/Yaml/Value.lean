import SchemaModels.Yaml.Binary
import SchemaModels.Yaml.Node
import SchemaModels.Yaml.Numeral

/-!
The values of YAML documents. Values are made from the top of the document down, one level after the
other, so of several faults the one nearest to the top is told, and of those the first.
-/

namespace SchemaModels.Yaml

/-- A value. A mapping keeps its entries under texts; later entries with one key replace the value
of earlier ones. Entries under other keys are left out, since settings have names. -/
inductive Value where
  | null
  | bool (b : Bool)
  | int (n : Int)
  | float (x : Double)
  | text (s : String)
  /-- A text that holds half of a surrogate pair. -/
  | brokenText
  | bytes (bs : List UInt8)
  | time (t : Timestamp)
  | list (items : List Value)
  | set
  | mapping (entries : List (String × Value))
  deriving Inhabited

namespace Value

mutual

/-- A JSON value as a value. -/
def ofJson : Json → Value
  | .null => .null
  | .bool b => .bool b
  | .int n => .int n
  | .float x => .float x
  | .text s => .text s
  | .list items => .list (ofJsonItems items)
  | .object entries => .mapping (ofJsonEntries entries)

def ofJsonItems : List Json → List Value
  | [] => []
  | v :: vs => ofJson v :: ofJsonItems vs

def ofJsonEntries : List (String × Json) → List (String × Value)
  | [] => []
  | (k, v) :: es => (k, ofJson v) :: ofJsonEntries es

end

end Value

/-! ## Scalars -/

/-- The value of a scalar with the given tag. -/
def Value.ofScalar (tag : Tag) (text : Option String) : Except Error Value :=
  let s := text.getD "\ufffd"
  let faulty {α : Type} (x : Except Fault α) : Except Error α := x.mapError .fault
  match tag with
  | .null => .ok .null
  | .str => .ok ((text.map Value.text).getD .brokenText)
  | .bool =>
    match Tag.truthWords.lookup (Text.lower s) with
    | some b => .ok (.bool b)
    | none => .error (.fault (.badTruth (Text.lower s)))
  | .int => .int <$> faulty (Numeral.toInt s)
  | .float => .float <$> faulty (Numeral.toDouble s)
  | .binary =>
    match if s.toList.all (·.toNat < 128) then Binary.ofText? s.toList else none with
    | some bs => .ok (.bytes bs)
    | none => .error (.malformed "failed to decode base64 data")
  | .timestamp =>
    match Timestamp.ofText? s.toList with
    | none => .error (.fault .noDate)
    | some t => do
      faulty t.check
      .ok (.time t)
  | _ => .error (.malformed "could not determine a constructor for a tag")

/-- Tags of sequences and mappings. -/
def Tag.isCollection : Tag → Bool
  | .seq | .map | .set | .omap | .pairs => true
  | _ => false

/-! ## Merging -/

mutual

/-- The entries that a value adds to the mapping that it is merged into: those of a mapping, or of
the mappings of a sequence, the last one first. -/
def Node.mergedInto : Node → Except Error (List (Node × Node))
  | .mapping _ entries => (fun (merged, own) => merged ++ own) <$> divide entries
  | .sequence _ items => (fun parts => parts.reverse.flatten) <$> mergedParts items
  | _ => .error (.malformed "expected a mapping or list of mappings for merging")

/-- The entries that each mapping of a sequence adds. -/
def mergedParts : List Node → Except Error (List (List (Node × Node)))
  | [] => .ok []
  | n :: ns =>
    match n with
    | .mapping _ entries => do
      let (merged, own) ← divide entries
      .ok ((merged ++ own) :: (← mergedParts ns))
    | _ => .error (.malformed "expected a mapping for merging")

/-- The entries that are merged into a mapping, and its own ones. -/
def divide : List (Node × Node) → Except Error (List (Node × Node) × List (Node × Node))
  | [] => .ok ([], [])
  | (k, v) :: es =>
    match k.tag with
    | .merge => do
      let added ← v.mergedInto
      let (merged, own) ← divide es
      .ok (added ++ merged, own)
    | .value => do
      let (merged, own) ← divide es
      .ok (merged, ((match k with
        | .scalar _ text => .scalar .str text
        | k => k), v) :: own)
    | _ => do
      let (merged, own) ← divide es
      .ok (merged, (k, v) :: own)

end

/-! ## Values of nodes -/

/-- A fault, and the level of the document at which it shows. -/
structure Flaw where
  level : Nat
  error : Error

/-- Two values in a row; of two faults the higher one in the document, or else the first. -/
def both {α β : Type} (x : Except Flaw α) (y : Except Flaw β) : Except Flaw (α × β) :=
  match x, y with
  | .ok a, .ok b => .ok (a, b)
  | .error e, .ok _ => .error e
  | .ok _, .error f => .error f
  | .error e, .error f => .error (if f.level < e.level then f else e)

/-- Values in a row. -/
def inRow {α : Type} : List (Except Flaw α) → Except Flaw (List α)
  | [] => .ok []
  | x :: xs => (fun (a, as) => a :: as) <$> both x (inRow xs)

/-- The scalar that stands for a mapping where a scalar is asked for: the value under `=`. -/
def Node.default? (entries : List (Node × Node)) : Option (Option String) :=
  entries.findSome? fun
    | (k, .scalar _ text) => if k.tag = .value then some text else none
    | _ => none

/-- The text of a key; a key of another kind has none, and sequences and mappings are no keys. -/
def keyOf (level : Nat) : Node → Except Flaw (Option String)
  | .scalar tag text =>
    match Value.ofScalar tag text with
    | .ok (.text s) => .ok (some s)
    | .ok _ => .ok none
    | .error e => .error ⟨level, e⟩
  | _ => .error ⟨level, .malformed "found unhashable key"⟩

/-- The value of a mapping with these entries. -/
def Value.ofEntries (es : List (Option String × Value)) : Value :=
  .mapping (es.foldl (fun acc (k, v) => match k with
    | some k => Json.setKey k v acc
    | none => acc) [])

/-- The value of a node at a level of the document. The steps bound how deep values are nested. -/
def Value.ofNode : Nat → Nat → Node → Except Flaw Value
  | 0, _, _ => .ok .null
  | _ + 1, _, .within isMapping => .ok (if isMapping then .mapping [] else .list [])
  | _ + 1, level, .scalar tag s =>
    if tag.isCollection then .error ⟨level + 1, .malformed "expected a sequence or mapping"⟩
    else (Value.ofScalar tag s).mapError (⟨level, ·⟩)
  | steps + 1, level, .sequence tag items =>
    match tag with
    | .seq => .list <$> inRow (items.map (ofNode steps (level + 1)))
    | .omap | .pairs =>
      .list <$> inRow (items.map fun item =>
        match item with
        | .mapping _ [(k, v)] =>
          (fun (k, v) => Value.list [k, v]) <$>
            both (ofNode steps (level + 1) k) (ofNode steps (level + 1) v)
        | _ => .error ⟨level + 1, .malformed "expected a single mapping item"⟩)
    | .map | .set => .error ⟨level + 1, .malformed "expected a mapping"⟩
    | .other _ | .merge | .value =>
      .error ⟨level, .malformed "could not determine a constructor for a tag"⟩
    | _ => .error ⟨level, .malformed "expected a scalar"⟩
  | steps + 1, level, .mapping tag entries =>
    let value : Except Flaw Value :=
      match divide entries with
      | .error e => .error ⟨level + 1, e⟩
      | .ok (merged, own) =>
        Value.ofEntries <$> inRow ((merged ++ own).map fun (k, v) =>
          both (keyOf (level + 1) k) (ofNode steps (level + 1) v))
    match tag with
    | .map => value
    | .set => (fun _ => Value.set) <$> value
    | .seq | .omap | .pairs => .error ⟨level + 1, .malformed "expected a sequence"⟩
    | _ =>
      match Node.default? entries with
      | some s => (Value.ofScalar tag s).mapError (⟨level, ·⟩)
      | none => .error ⟨level, .malformed "expected a scalar"⟩

/-- The value of a text: null if it holds no document. -/
def read (cs : List Char) : Except Error Value := do
  match ← Node.ofTokens? (← Token.ofText cs) with
  | none => .ok .null
  | some n => (Value.ofNode (n.depth + 1) 0 n).mapError (·.error)

end SchemaModels.Yaml
