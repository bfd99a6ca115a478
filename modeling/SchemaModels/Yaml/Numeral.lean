import SchemaModels.Double.Reader
import SchemaModels.Json.Access
import SchemaModels.Yaml.Tag

/-!
The numbers of YAML scalars: whole numbers in four bases and in parts of sixty, and numbers with a
point, also in parts of sixty. Underscores count for nothing.
-/

namespace SchemaModels.Yaml.Numeral

/-- The value of a digit in a base up to sixteen. -/
def digit? (base : Nat) (c : Char) : Option Nat :=
  let v :=
    match Text.digitValue? c with
    | some d => some d
    | none =>
      let l := c.toLower
      if 'a' ≤ l && l ≤ 'f' then some (l.toNat - 87) else none
  v.filter (· < base)

/-- The letter that marks a base. -/
def baseLetter : Nat → Char
  | 2 => 'b'
  | 8 => 'o'
  | _ => 'x'

/-- Without the mark of the base. -/
def dropBase (base : Nat) (cs : List Char) : List Char :=
  match cs with
  | '0' :: l :: rest => if l.toLower = baseLetter base then rest else cs
  | _ => cs

/-- The whole number of a text in a base other than ten. -/
def inBase (base : Nat) (cs : List Char) : Except Fault Int :=
  let trimmed := Text.dropTrailing Json.isNumeralSpace (Text.dropLeading Json.isNumeralSpace cs)
  let (negative, ds) :=
    match trimmed with
    | '-' :: rest => (true, rest)
    | '+' :: rest => (false, rest)
    | _ => (false, trimmed)
  let ds := dropBase base ds
  let values := ds.filterMap (digit? base)
  if ds.isEmpty || values.length != ds.length then
    .error (.badInteger (Source.quoted (String.ofList cs)) base)
  else
    let n : Int := Text.numeral base values
    .ok (if negative then -n else n)

/-- The whole number of a text in base ten. -/
def inTens (cs : List Char) : Except Fault Int := Json.parseInteger (String.ofList cs)

/-- The sign of a number and what follows it; there has to be something. -/
def signed (cs : List Char) : Except Fault (Bool × List Char) :=
  match cs with
  | [] => .error .emptyNumeral
  | '-' :: rest => .ok (true, rest)
  | '+' :: rest => .ok (false, rest)
  | _ => .ok (false, cs)

/-- The whole number of a scalar. -/
def toInt (s : String) : Except Fault Int := do
  let (negative, cs) ← signed (s.toList.filter (· != '_'))
  let n ←
    match cs with
    | ['0'] => .ok 0
    | '0' :: 'b' :: ds => inBase 2 ds
    | '0' :: 'x' :: ds => inBase 16 ds
    | '0' :: _ => inBase 8 cs
    | [] => .error .emptyNumeral
    | _ =>
      if cs.contains ':' then do
        let parts ← (Tag.colonParts cs).mapM inTens
        .ok (parts.foldl (fun n p => n * 60 + p) 0)
      else inTens cs
  .ok (if negative then -n else n)

/-- The number of a text. -/
def number (cs : List Char) : Except Fault Double :=
  match Double.ofText? (Text.dropTrailing Text.isBlank (Text.dropLeading Text.isBlank cs)) with
  | some x => .ok x
  | none => .error (.badNumber (Source.quoted (String.ofList cs)))

/-- The sum of parts of sixty, the smallest first; `base` is the weight of the next one. -/
def sumOfSixties (base : Nat) (sum : Double) : List Double → Double
  | [] => sum
  | x :: xs => sumOfSixties (base * 60) (sum.add (x.scale base)) xs

/-- The number with a point of a scalar. -/
def toDouble (s : String) : Except Fault Double := do
  let (negative, cs) ← signed (Text.lower (String.ofList (s.toList.filter (· != '_')))).toList
  let x ←
    if cs == ".inf".toList then .ok (Double.infinite false)
    else if cs == ".nan".toList then .ok Double.nan
    else if cs.contains ':' then do
      let parts ← (Tag.colonParts cs).mapM number
      .ok (sumOfSixties 1 (Double.zero false) parts.reverse)
    else number cs
  .ok (if negative then x.negate else x)

end SchemaModels.Yaml.Numeral
