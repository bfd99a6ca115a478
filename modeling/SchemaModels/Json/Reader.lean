import SchemaModels.Fault
import SchemaModels.Text.Blank
import SchemaModels.Text.Digit

/-!
Reading JSON text. A malformed text is refused with what was expected and where; so are whole
numbers with too many digits, and lists and objects that are nested too deep.
-/

namespace SchemaModels.Json

/-- Why a text is no JSON value, with the offset of the offending character. -/
inductive Malformed.Reason where
  | value
  | propertyName
  | colon
  | comma
  | extraData
  | byteOrderMark
  | unterminatedString
  | controlCharacter
  | escape
  | unicodeEscape
  deriving DecidableEq

structure Malformed where
  reason : Malformed.Reason
  offset : Nat
  deriving DecidableEq

namespace Malformed

/-- What a reader of the text did not find. -/
def Reason.message : Reason → String
  | .value => "Expecting value"
  | .propertyName => "Expecting property name enclosed in double quotes"
  | .colon => "Expecting ':' delimiter"
  | .comma => "Expecting ',' delimiter"
  | .extraData => "Extra data"
  | .byteOrderMark => "Unexpected UTF-8 BOM (decode using utf-8-sig)"
  | .unterminatedString => "Unterminated string starting at"
  | .controlCharacter => "Invalid control character at"
  | .escape => "Invalid \\escape"
  | .unicodeEscape => "Invalid \\uXXXX escape"

/-- The reason with line, column and offset in the given text. -/
def message (m : Malformed) (document : List Char) : String :=
  let before := document.take m.offset
  let line := before.countP (· == '\n') + 1
  let column := (before.reverse.takeWhile (· ≠ '\n')).length + 1
  s!"{m.reason.message}: line {line} column {column} (char {m.offset})"

end Malformed

/-- Why a text is not read. -/
inductive Unread where
  | malformed (m : Malformed)
  /-- A whole number has this many digits. -/
  | longInteger (digits : Nat)
  /-- A list or an object is nested too deep. -/
  | tooDeep (inObject : Bool)
  deriving DecidableEq

/-- What is wrong with the given text. -/
def Unread.message (document : List Char) : Unread → String
  | .malformed m => m.message document
  | .longInteger digits => (Fault.longInteger digits).message
  | .tooDeep inObject => (Fault.tooDeep inObject).message

namespace Reader

/-- White space between tokens. -/
def isSpace (c : Char) : Bool :=
  c == ' ' || c == '\t' || c == '\n' || c == '\r'

def skipSpace (cs : List Char) : List Char :=
  cs.dropWhile isSpace

/-- Fails at the given rest of a text of `size` characters. -/
def fail {α : Type} (size : Nat) (reason : Malformed.Reason) (rest : List Char) :
    Except Unread (α × List Char) :=
  .error (.malformed ⟨reason, size - rest.length⟩)

/-- The value of a hexadecimal digit. -/
def hexValue? (c : Char) : Option Nat :=
  if '0' ≤ c ∧ c ≤ '9' then some (c.toNat - '0'.toNat)
  else if 'a' ≤ c ∧ c ≤ 'f' then some (c.toNat - 'a'.toNat + 10)
  else if 'A' ≤ c ∧ c ≤ 'F' then some (c.toNat - 'A'.toNat + 10)
  else none

/-- Four hexadecimal digits that something follows. -/
def hexFour? : List Char → Option (Nat × List Char)
  | a :: b :: c :: d :: e :: rest => do
    let ns ← [a, b, c, d].mapM hexValue?
    some (Text.numeral 16 ns, e :: rest)
  | _ => none

/-- The second half of a surrogate pair, if the text goes on with one. -/
def lowSurrogate? : List Char → Option (Nat × List Char)
  | '\\' :: 'u' :: rest => (hexFour? rest).filter fun r => 0xDC00 ≤ r.1 && r.1 < 0xE000
  | _ => none

/-- The character of a one-letter escape. -/
def escaped? : Char → Option Char
  | '"' => some '"'
  | '\\' => some '\\'
  | '/' => some '/'
  | 'b' => some '\x08'
  | 'f' => some '\x0c'
  | 'n' => some '\n'
  | 'r' => some '\r'
  | 't' => some '\t'
  | _ => none

/-- Reads a string after its opening quote, which stands before `opened`; `acc` holds the
characters read so far, last first. Each round uses up a character, and `fuel` bounds them. -/
def stringBody (size : Nat) (opened : List Char) (acc : List Char) :
    Nat → List Char → Except Unread (String × List Char)
  | 0, rest => fail size .value rest
  | fuel + 1, rest =>
    match rest with
    | [] => .error (.malformed ⟨.unterminatedString, size - opened.length - 1⟩)
    | '"' :: rest => .ok (String.ofList acc.reverse, rest)
    | '\\' :: [] => .error (.malformed ⟨.unterminatedString, size - opened.length - 1⟩)
    | '\\' :: 'u' :: digits =>
      (match hexFour? digits with
      | none => fail size .unicodeEscape ('u' :: digits)
      | some (n, rest) =>
        (match if 0xD800 ≤ n ∧ n < 0xDC00 then lowSurrogate? rest else none with
        | some (m, rest) =>
          stringBody size opened
            (Char.ofNat (0x10000 + (n - 0xD800) * 0x400 + (m - 0xDC00)) :: acc) fuel rest
        | none => stringBody size opened (Char.ofNat n :: acc) fuel rest))
    | '\\' :: c :: rest =>
      (match escaped? c with
      | some d => stringBody size opened (d :: acc) fuel rest
      | none => fail size .escape ('\\' :: c :: rest))
    | c :: rest =>
      if c.toNat < 0x20 then fail size .controlCharacter (c :: rest)
      else stringBody size opened (c :: acc) fuel rest

/-- The digits at the front of a text, and the rest. -/
def digits (cs : List Char) : List Char × List Char :=
  (cs.takeWhile Text.isAsciiDigit, cs.dropWhile Text.isAsciiDigit)

/-- The number that decimal digits denote. -/
def decimal (ds : List Char) : Nat :=
  Text.numeral 10 (ds.map fun c => c.toNat - '0'.toNat)

/-- A decimal point with digits, if the text goes on with one. -/
def fraction (cs : List Char) : List Char × List Char :=
  match cs with
  | '.' :: rest => if (digits rest).1.isEmpty then ([], cs) else digits rest
  | _ => ([], cs)

/-- A decimal exponent, if the text goes on with one. -/
def exponent (cs : List Char) : Option Int × List Char :=
  let read (negative : Bool) (rest : List Char) : Option Int × List Char :=
    let (ds, rest) := digits rest
    if ds.isEmpty then (none, cs)
    else (some (if negative then -(decimal ds : Int) else decimal ds), rest)
  match cs with
  | e :: rest =>
    if e == 'e' || e == 'E' then
      match rest with
      | '-' :: rest => read true rest
      | '+' :: rest => read false rest
      | _ => read false rest
    else (none, cs)
  | [] => (none, cs)

/-- A whole number with these digits, unless they are too many. -/
def integer (negative : Bool) (whole rest : List Char) : Except Unread (Json × List Char) :=
  if Fault.maxDigits < whole.length then .error (.longInteger whole.length)
  else
    let n : Int := decimal whole
    .ok (.int (if negative then -n else n), rest)

/-- A number without its sign, if the text begins with one: whole unless it has a fraction or an
exponent. -/
def number? (negative : Bool) (cs : List Char) : Option (Except Unread (Json × List Char)) :=
  let (whole, rest) :=
    match cs with
    | '0' :: rest => (['0'], rest)
    | _ => digits cs
  if whole.isEmpty then none
  else
    let (frac, rest') := fraction rest
    let (exp, rest'') := exponent rest'
    if frac.isEmpty && exp.isNone then some (integer negative whole rest)
    else
      let power := exp.getD 0 - frac.length
      some (.ok (.float (Double.ofDecimal negative (decimal (whole ++ frac)) power), rest''))

/-- Removes a word from the front of a text. -/
def after? (word : String) (cs : List Char) : Option (List Char) :=
  if word.toList.isPrefixOf cs then some (cs.drop word.length) else none

/-- A number or one of the words that denote a value, if the text begins with one. -/
def scalar? (cs : List Char) : Option (Except Unread (Json × List Char)) :=
  let word (w : String) (v : Json) : Option (Except Unread (Json × List Char)) :=
    (after? w cs).map fun rest => .ok (v, rest)
  word "null" .null <|> word "true" (.bool true) <|> word "false" (.bool false) <|>
    word "NaN" (.float .nan) <|> word "Infinity" (.float (.infinite false)) <|>
    word "-Infinity" (.float (.infinite true)) <|>
    match cs with
    | '-' :: rest => number? true rest
    | _ => number? false cs

mutual

/-- Reads a value that begins here, with lists and objects nested up to `depth`. Every call uses up
a character or goes one level down, and `fuel` bounds both. -/
def value (size depth : Nat) : Nat → List Char → Except Unread (Json × List Char)
  | 0, rest => fail size .value rest
  | fuel + 1, cs =>
    match cs with
    | '"' :: rest => do
      let (s, rest) ← stringBody size rest [] (rest.length + 1) rest
      .ok (.text s, rest)
    | '[' :: rest =>
      if depth = 0 then .error (.tooDeep false)
      else
        (match skipSpace rest with
        | ']' :: rest => .ok (.list [], rest)
        | rest => items size (depth - 1) [] fuel rest)
    | '{' :: rest =>
      if depth = 0 then .error (.tooDeep true)
      else
        (match skipSpace rest with
        | '}' :: rest => .ok (.object [], rest)
        | rest => entries size (depth - 1) [] fuel rest)
    | _ =>
      match scalar? cs with
      | some r => r
      | none => fail size .value cs

/-- Reads the items of a list up to its closing bracket. -/
def items (size depth : Nat) (acc : List Json) :
    Nat → List Char → Except Unread (Json × List Char)
  | 0, rest => fail size .value rest
  | fuel + 1, cs => do
    let (v, rest) ← value size depth fuel cs
    match skipSpace rest with
    | ']' :: rest => .ok (.list (v :: acc).reverse, rest)
    | ',' :: rest => items size depth (v :: acc) fuel (skipSpace rest)
    | rest => fail size .comma rest

/-- Reads the entries of an object up to its closing brace. -/
def entries (size depth : Nat) (acc : List (String × Json)) :
    Nat → List Char → Except Unread (Json × List Char)
  | 0, rest => fail size .value rest
  | fuel + 1, cs =>
    match cs with
    | '"' :: rest => do
      let (k, rest) ← stringBody size rest [] (rest.length + 1) rest
      (match skipSpace rest with
      | ':' :: rest => do
        let (v, rest) ← value size depth fuel (skipSpace rest)
        (match skipSpace rest with
        | '}' :: rest => .ok (.ofEntries ((k, v) :: acc).reverse, rest)
        | ',' :: rest => entries size depth ((k, v) :: acc) fuel (skipSpace rest)
        | rest => fail size .comma rest)
      | rest => fail size .colon rest)
    | rest => fail size .propertyName rest

end

end Reader

/-- Reads a text that holds one value and white space around it. Lists and objects may be nested up
to `depth`; a text has no room for more than its length. -/
def read (document : List Char) (depth : Nat := document.length) : Except Unread Json :=
  let size := document.length
  match document with
  | '\uFEFF' :: _ => .error (.malformed ⟨.byteOrderMark, 0⟩)
  | _ => do
    let (v, rest) ← Reader.value size depth (2 * size + 2) (Reader.skipSpace document)
    match Reader.skipSpace rest with
    | [] => .ok v
    | rest => Reader.fail size .extraData rest |>.map (·.1)

end SchemaModels.Json
