import SchemaModels.Double.Fixed
import SchemaModels.Fault

/-!
Templates: texts with conversions such as `%s`, `%5.2f` or `%(name)s`, each of which stands for a
value. `Template.fill` puts the values in. A template without conversions is its own text, up to
`%%`, which stands for a single `%`.
-/

namespace SchemaModels.Template

/-- A width or precision: written in the template, or the next value. -/
inductive Size where
  | given (n : Nat)
  | next

/-- How a value is written, and which: the one of a name, or the next. A conversion that the
template ends in has no kind. -/
structure Conversion where
  name : Option String
  left : Bool
  plus : Bool
  blank : Bool
  alternate : Bool
  zeros : Bool
  width : Option Size
  precision : Option Size
  kind : Option Char
  /-- Where in the template the kind stands. -/
  place : Nat

/-- A piece of a template. -/
inductive Piece where
  | plain (c : Char)
  | conversion (how : Conversion)
  /-- A name that the template ends in. -/
  | openName

/-! ## Reading -/

/-- The name up to the bracket that closes it; brackets within the name come in pairs. -/
def readName (depth : Nat) : List Char → Option (List Char × List Char)
  | [] => none
  | c :: cs =>
    if c = ')' ∧ depth = 0 then some ([], cs)
    else
      let depth := if c = '(' then depth + 1 else if c = ')' then depth - 1 else depth
      (readName depth cs).map fun (name, rest) => (c :: name, rest)

/-- A width or precision at the front of the text. -/
def readSize (cs : List Char) : Option Size × List Char :=
  match cs with
  | '*' :: rest => (some .next, rest)
  | _ =>
    match cs.takeWhile Char.isDigit with
    | [] => (none, cs)
    | ds => (some (.given (ds.foldl (fun n d => n * 10 + (d.toNat - 48)) 0)),
        cs.dropWhile Char.isDigit)

/-- The conversion at the front of the text, after `%` and the name; `size` is the length of the
whole template. -/
def readConversion (size : Nat) (name : Option String) (cs : List Char) :
    Conversion × List Char :=
  let isFlag := fun c => "-+ #0".toList.contains c
  let flags := cs.takeWhile isFlag
  let (width, cs) := readSize (cs.dropWhile isFlag)
  let (precision, cs) :=
    match cs with
    | '.' :: rest =>
      match readSize rest with
      | (none, rest) => (some (.given 0), rest)
      | r => r
    | _ => (none, cs)
  let cs :=
    match cs with
    | c :: rest => if "hlL".toList.contains c then rest else cs
    | [] => []
  ({ name, left := flags.contains '-', plus := flags.contains '+', blank := flags.contains ' ',
     alternate := flags.contains '#', zeros := flags.contains '0', width, precision,
     kind := cs.head?, place := size - cs.length }, cs.tail)

/-- The pieces of what is left of a template of the given length. Each step takes a character, so
the length is steps enough. -/
def readPieces (size : Nat) : Nat → List Char → List Piece
  | 0, _ => []
  | _ + 1, [] => []
  | steps + 1, '%' :: '%' :: cs => .plain '%' :: readPieces size steps cs
  | steps + 1, '%' :: '(' :: cs =>
    match readName 0 cs with
    | none => [.openName]
    | some (name, rest) =>
      let (how, rest) := readConversion size (some (String.ofList name)) rest
      .conversion how :: readPieces size steps rest
  | steps + 1, '%' :: cs =>
    let (how, rest) := readConversion size none cs
    .conversion how :: readPieces size steps rest
  | steps + 1, c :: cs => .plain c :: readPieces size steps cs

/-- The pieces of a template. -/
def ofText (s : String) : List Piece :=
  readPieces s.length s.length s.toList

/-- The kinds of conversion. -/
def kinds : List Char := "diuoxXeEfFgGcrsa".toList

/-- Some value is named in the template. -/
def hasName (pieces : List Piece) : Bool :=
  pieces.any fun
    | .conversion how => how.name.isSome && how.kind.any kinds.contains
    | _ => false

/-! ## Values -/

/-- A value as a number. -/
def numberOf (kind : Char) (v : Json) : Except Fault Double :=
  match v with
  | .float x => .ok x
  | .int n => .ok (Double.ofInt n)
  | .bool b => .ok (Double.ofInt b.toNat)
  | v => .error (.template (.unfit kind v))

/-- A value as a whole number; `cut` says whether a fraction may be cut off. -/
def wholeOf (kind : Char) (cut : Bool) (v : Json) : Except Fault Int :=
  match v with
  | .int n => .ok n
  | .bool b => .ok b.toNat
  | .float x =>
    if cut then
      match x with
      | .nan => .error .nanInteger
      | .infinite _ => .error .infiniteInteger
      | x => .ok (x.truncate?.getD 0)
    else .error (.template (.unfit kind v))
  | v => .error (.template (.unfit kind v))

/-- A literal in which no character is outside ASCII. -/
def plainLiteral (v : Json) : String :=
  String.ofList (v.literal.toList.flatMap fun c =>
    if c.toNat < 128 then [c] else Source.codeEscape c)

/-- A sign, what stands between it and the digits, and the digits or text. -/
structure Written where
  sign : List Char := []
  base : List Char := []
  body : List Char
  numeric : Bool := false

/-- The sign in front of a number. -/
def Conversion.signOf (how : Conversion) (negative : Bool) : List Char :=
  if negative then ['-'] else if how.plus then ['+'] else if how.blank then [' '] else []

/-- A whole number in a base, with at least as many digits as the precision says. -/
def Conversion.writeWhole (how : Conversion) (base : Nat) (mark : List Char) (precision : Nat)
    (n : Int) : Written :=
  let ds := Nat.toDigits base n.natAbs
  { sign := how.signOf (n < 0), base := if how.alternate then mark else [],
    body := List.replicate (precision - ds.length) '0' ++ ds, numeric := true }

/-- A number with places or an exponent, in small letters. -/
def Conversion.writeNumber (how : Conversion) (kind : Char) (precision : Nat) (x : Double) :
    Written :=
  let (negative, body) :=
    match x with
    | .nan => (false, ['n', 'a', 'n'])
    | .infinite negative => (negative, ['i', 'n', 'f'])
    | .finite negative m e =>
      let f := Double.scaled m 1 (-e)
      (negative, match kind.toLower with
        | 'e' => Double.scientific how.alternate precision f.1 f.2
        | 'f' => Double.fixed how.alternate precision f.1 f.2
        | _ => Double.general how.alternate precision f.1 f.2)
  { sign := how.signOf negative, body, numeric := true }

/-- A written value in capitals. -/
def Written.capitals (w : Written) : Written :=
  { w with base := w.base.map Char.toUpper, body := w.body.map Char.toUpper }

/-- The character that a value stands for. -/
def characterOf (v : Json) : Except Fault Char :=
  match v with
  | .int n =>
    if h : 0 ≤ n ∧ n.toNat.isValidChar then .ok (Char.ofNatAux n.toNat h.2)
    else .error .infiniteInteger
  | .bool b => .ok (Char.ofNat b.toNat)
  | .text s =>
    match s.toList with
    | [c] => .ok c
    | _ => .error (.template (.unfit 'c' v))
  | v => .error (.template (.unfit 'c' v))

/-- A value as a conversion of the given kind writes it, before it is brought to its width. -/
def Conversion.write (how : Conversion) (kind : Char) (precision : Option Nat) (v : Json) :
    Except Fault Written :=
  let text := fun (s : String) => match precision with
    | some n => { body := s.toList.take n : Written }
    | none => { body := s.toList }
  let digits := precision.getD 0
  match kind with
  | 's' => .ok (text v.display)
  | 'r' => .ok (text v.literal)
  | 'a' => .ok (text (plainLiteral v))
  | 'c' => (fun c => { body := [c] }) <$> characterOf v
  | 'x' => how.writeWhole 16 ['0', 'x'] digits <$> wholeOf kind false v
  | 'X' => (fun n => (how.writeWhole 16 ['0', 'x'] digits n).capitals) <$> wholeOf kind false v
  | 'o' => how.writeWhole 8 ['0', 'o'] digits <$> wholeOf kind false v
  | 'd' | 'i' | 'u' => how.writeWhole 10 [] digits <$> wholeOf kind true v
  | 'e' | 'f' | 'g' => how.writeNumber kind (precision.getD 6) <$> numberOf kind v
  | 'E' | 'F' | 'G' =>
    (fun x => (how.writeNumber kind (precision.getD 6) x).capitals) <$> numberOf kind v
  | _ => .error (.template (.badKind kind how.place))

/-- Brings a written value to its width: with zeros after the sign of a number if so asked, else
with blanks on the side that the conversion says. -/
def Written.pad (w : Written) (how : Conversion) (width : Nat) : List Char :=
  let missing := width - (w.sign.length + w.base.length + w.body.length)
  if how.left then w.sign ++ w.base ++ w.body ++ List.replicate missing ' '
  else if how.zeros && w.numeric then w.sign ++ w.base ++ List.replicate missing '0' ++ w.body
  else List.replicate missing ' ' ++ w.sign ++ w.base ++ w.body

/-! ## Filling -/

/-- The values of a template: those still to be used in order, and those with a name. -/
structure Values where
  remaining : List Json
  named? : Option (List (String × Json))

/-- The values of a list, or of the names of an object. -/
def Values.ofArguments : List Json → Values
  | [.object entries] =>
    if entries.isEmpty then ⟨[.object entries], none⟩ else ⟨[.object entries], some entries⟩
  | vs => ⟨vs, none⟩

/-- The next value. -/
def Values.next (vs : Values) : Except Fault (Json × Values) :=
  match vs.remaining with
  | v :: rest => .ok (v, { vs with remaining := rest })
  | [] => .error (.template .tooFew)

/-- The values for a conversion: once a name is looked up, its value is the only one left to
use. -/
def Values.look (vs : Values) : Option String → Except Fault Values
  | none => .ok vs
  | some name =>
    match vs.named? with
    | none => .error (.template .namesNeeded)
    | some entries =>
      match entries.lookup name with
      | some v => .ok { vs with remaining := [v] }
      | none => .error (.template (.unknownName name))

/-- The size that a width or precision comes to, which has to lie below the limit. -/
def Values.size (vs : Values) (limit : Nat) : Option Size → Except Fault (Option Int × Values)
  | none => .ok (none, vs)
  | some (.given n) => if n < limit then .ok (some n, vs) else .error .infiniteInteger
  | some .next =>
    match vs.next with
    | .ok (.int n, vs) => if n.natAbs < limit then .ok (some n, vs) else .error .infiniteInteger
    | .ok (.bool b, vs) => .ok (some b.toNat, vs)
    | .ok (v, _) => .error (.operand v)
    | .error f => .error f

/-- Writes the value of a conversion. -/
def Conversion.apply (how : Conversion) (vs : Values) : Except Fault (List Char × Values) := do
  let vs ← vs.look how.name
  let (width, vs) ← vs.size (Nat.pow 2 63) how.width
  let (precision, vs) ← vs.size (Nat.pow 2 31) how.precision
  match how.kind with
  | none => .error (.template .incomplete)
  | some kind =>
    let (v, vs) ← vs.next
    let w ← how.write kind (precision.map Int.toNat) v
    let size := width.getD 0
    .ok (w.pad { how with left := how.left || size < 0 } size.natAbs, vs)

/-- The text of the pieces with the values put in, and what is left of the values. -/
def fillPieces : List Piece → Values → Except Fault (List Char × Values)
  | [], vs => .ok ([], vs)
  | .plain c :: ps, vs => do
    let (cs, vs) ← fillPieces ps vs
    .ok (c :: cs, vs)
  | .conversion how :: ps, vs => do
    let (w, vs) ← how.apply vs
    let (cs, vs) ← fillPieces ps vs
    .ok (w ++ cs, vs)
  | .openName :: _, vs =>
    .error (.template (if vs.named?.isSome then .incompleteName else .namesNeeded))

/-- The text of a template with the values put in; all of them have to be used. -/
def fill (pieces : List Piece) (vs : Values) : Except Fault String := do
  let (cs, vs) ← fillPieces pieces vs
  if vs.remaining.isEmpty || vs.named?.isSome then .ok (String.ofList cs)
  else .error (.template .tooMany)

end SchemaModels.Template
