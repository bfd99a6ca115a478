import SchemaModels.Fault
import SchemaModels.Text.Blank
import SchemaModels.Text.Case
import SchemaModels.Text.Digit

/-!
Taking values apart without knowing their shape: entries, items, whole numbers and truth. Where a
value has not the shape that is asked for, the answer is a fault.
-/

namespace SchemaModels.Json

/-! ## Entries and items -/

/-- The entry of an object under a key, if it has one. -/
def entry? (v : Json) (key : String) : Except Fault (Option Json) :=
  match v with
  | .object entries => .ok (entries.lookup key)
  | v => .error (.noMember v "get")

/-- The entry of an object under a key; null if it has none. -/
def entry (v : Json) (key : String) : Except Fault Json :=
  (·.getD .null) <$> v.entry? key

/-- What there is to go through in a value: the items of a list, the characters of a text, the keys
of an object. -/
def members : Json → Except Fault (List Json)
  | .list items => .ok items
  | .text s => .ok (s.toList.map fun c => .text c.toString)
  | .object entries => .ok (entries.map fun e => .text e.1)
  | v => .error (.notIterable v)

/-- The value, or the default in place of a blank one. -/
def orElse (v default : Json) : Json :=
  if v.isBlank then default else v

/-! ## Whole numbers -/

/-- White space around a numeral. -/
def isNumeralSpace (c : Char) : Bool :=
  Text.isBlank c && !(0x1C ≤ c.toNat && c.toNat ≤ 0x1F)

/-- The values of a row of digits, in which an underscore may stand between two digits. -/
def digitRow? : List Char → Option (List Nat)
  | [] => none
  | [c] => (Text.digitValue? c).map ([·])
  | c :: '_' :: rest => do
    let d ← Text.digitValue? c
    let ds ← digitRow? rest
    some (d :: ds)
  | c :: rest => do
    let d ← Text.digitValue? c
    let ds ← digitRow? rest
    some (d :: ds)

/-- The whole number that a text denotes: digits of any script, with a sign in front and white
space around it. -/
def parseInteger (s : String) : Except Fault Int :=
  let cs := Text.dropTrailing isNumeralSpace (Text.dropLeading isNumeralSpace s.toList)
  let (negative, digits) :=
    match cs with
    | '-' :: rest => (true, rest)
    | '+' :: rest => (false, rest)
    | _ => (false, cs)
  match digitRow? digits with
  | none => .error (.badInteger (String.ofList ((Source.quoted s).toList.take 200)))
  | some ds =>
    if Fault.maxDigits < ds.length then .error (.longInteger ds.length)
    else
      let n : Int := Text.numeral 10 ds
      .ok (if negative then -n else n)

/-- The whole number of a value: a fraction is cut off, true is one, and a text is read. -/
def toInteger : Json → Except Fault Int
  | .int n => .ok n
  | .bool b => .ok b.toNat
  | .float x =>
    match x with
    | .nan => .error .nanInteger
    | .infinite _ => .error .infiniteInteger
    | x => .ok (x.truncate?.getD 0)
  | .text s => parseInteger s
  | v => .error (.operand v)

/-! ## Truth -/

/-- Words that stand for true. -/
def trueWords : List String := ["true", "1", "yes"]

/-- The truth of a value: a text says true by one of a few words in any case, and any other value
is true unless it is blank. -/
def truth : Json → Bool
  | .text s => trueWords.contains (Text.lower (Text.trim s))
  | v => !v.isBlank

end SchemaModels.Json
