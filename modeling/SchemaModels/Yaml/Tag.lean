import SchemaModels.Yaml.Timestamp

/-!
Tags: what kind of value a node is. A plain scalar without a tag gets one from the form of its text;
`Tag.ofPlain` gives the forms of numbers, truth values, dates and so on.
-/

namespace SchemaModels.Yaml

/-- The kind of value that a node is. -/
inductive Tag where
  | null
  | bool
  | int
  | float
  | binary
  | timestamp
  | omap
  | pairs
  | set
  | str
  | seq
  | map
  /-- The key under which other mappings are merged in. -/
  | merge
  /-- The key of a default value. -/
  | value
  /-- Some other kind, of which no value can be made. -/
  | other (name : String)
  deriving DecidableEq, Inhabited

namespace Tag

/-- What the names of common tags begin with. -/
def common : String := "tag:yaml.org,2002:"

/-- The kinds with common names. -/
def named : List (String × Tag) :=
  [("null", .null), ("bool", .bool), ("int", .int), ("float", .float), ("binary", .binary),
   ("timestamp", .timestamp), ("omap", .omap), ("pairs", .pairs), ("set", .set), ("str", .str),
   ("seq", .seq), ("map", .map), ("merge", .merge), ("value", .value)]

/-- The kind that a full name stands for. -/
def ofName (name : String) : Tag :=
  ((named.find? fun n => common ++ n.1 == name).map (·.2)).getD (.other name)

/-! ## Forms of numbers -/

def isBinaryDigit (c : Char) : Bool := c == '0' || c == '1' || c == '_'

def isOctalDigit (c : Char) : Bool := ('0' ≤ c && c ≤ '7') || c == '_'

def isDecimalDigit (c : Char) : Bool := c.isDigit || c == '_'

def isHexDigit (c : Char) : Bool :=
  c.isDigit || ('a' ≤ c && c ≤ 'f') || ('A' ≤ c && c ≤ 'F') || c == '_'

/-- Without the sign of a number. -/
def dropSign : List Char → List Char
  | '+' :: cs => cs
  | '-' :: cs => cs
  | cs => cs

/-- One or more characters of a class. -/
def someOf (p : Char → Bool) (cs : List Char) : Bool := !cs.isEmpty && cs.all p

/-- A number below sixty, of one digit or two. -/
def isSixtieth : List Char → Bool
  | [d] => d.isDigit
  | [t, d] => '0' ≤ t && t ≤ '5' && d.isDigit
  | _ => false

/-- The parts of a text between colons. -/
def colonParts : List Char → List (List Char)
  | [] => [[]]
  | c :: cs =>
    if c = ':' then [] :: colonParts cs
    else match colonParts cs with
      | [] => [[c]]
      | p :: ps => (c :: p) :: ps

/-- Decimal digits that begin with a digit. -/
def isDecimal : List Char → Bool
  | [] => false
  | c :: cs => c.isDigit && cs.all isDecimalDigit

/-- Decimal digits that begin with a digit other than zero. -/
def isPositive (cs : List Char) : Bool := isDecimal cs && cs.head? != some '0'

/-- A whole number: binary, octal, decimal or hexadecimal, or in parts of sixty. -/
def isInt (cs : List Char) : Bool :=
  match dropSign cs with
  | ['0'] => true
  | '0' :: 'b' :: ds => someOf isBinaryDigit ds
  | '0' :: 'x' :: ds => someOf isHexDigit ds
  | '0' :: ds => someOf isOctalDigit ds
  | ds =>
    match colonParts ds with
    | [p] => isPositive p
    | p :: ps => isPositive p && ps.all isSixtieth
    | [] => false

/-- Places behind the point, and perhaps an exponent with a sign. -/
def isFraction (cs : List Char) : Bool :=
  match cs.dropWhile isDecimalDigit with
  | [] => true
  | e :: s :: ds => (e == 'e' || e == 'E') && (s == '+' || s == '-') && someOf Char.isDigit ds
  | _ => false

/-- Infinities and what is no number. -/
def specialForms : List String :=
  [".inf", ".Inf", ".INF", "+.inf", "+.Inf", "+.INF", "-.inf", "-.Inf", "-.INF", ".nan", ".NaN",
   ".NAN"]

/-- A number with a point. -/
def isFloat (cs : List Char) : Bool :=
  specialForms.contains (String.ofList cs) ||
    (match cs with
      | '.' :: d :: ds => d.isDigit && isFraction ds
      | _ => false) ||
    (match (dropSign cs).span (· != '.') with
      | (whole, '.' :: places) =>
        match colonParts whole with
        | [p] => isDecimal p && isFraction places
        | p :: ps => isDecimal p && ps.all isSixtieth && places.all isDecimalDigit
        | [] => false
      | _ => false)

/-! ## Words -/

/-- Words for true and false. -/
def truthWords : List (String × Bool) :=
  [("yes", true), ("no", false), ("true", true), ("false", false), ("on", true), ("off", false)]

/-- A word in small letters, with a capital, or in capitals. -/
def casings (w : String) : List String :=
  [w, String.ofList (match w.toList with
    | [] => []
    | c :: cs => c.toUpper :: cs), String.ofList (w.toList.map Char.toUpper)]

def isBool (s : String) : Bool := truthWords.any fun w => (casings w.1).contains s

def isNull (s : String) : Bool := s == "" || s == "~" || (casings "null").contains s

/-- The kind of a plain scalar without a tag. -/
def ofPlain (s : String) : Tag :=
  let cs := s.toList
  if isBool s then .bool
  else if isFloat cs then .float
  else if isInt cs then .int
  else if s == "<<" then .merge
  else if isNull s then .null
  else if Timestamp.isPlain cs then .timestamp
  else if s == "=" then .value
  else .str

end Tag

end SchemaModels.Yaml
