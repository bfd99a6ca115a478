import SchemaModels.Double
import SchemaModels.Naming.Reserved
import SchemaModels.Fault
import SchemaModels.Text.Compat
import SchemaModels.Text.Digit
import SchemaModels.Text.Identifier

/-!
The words of an expression: names, numbers, string literals and signs. A text is split into words
from its first character on, up to the first place where no word begins; line ends, and blanks at
the beginning of a line, count only outside brackets.
-/

namespace SchemaModels.Source.Hint

/-- A word of an expression. -/
inductive Token where
  | name (id : String)
  | keyword (word : String)
  | int (n : Nat)
  | float (x : Double)
  | imaginary (x : Double)
  | text (s : String)
  | sign (s : String)
  | lineEnd
  /-- A line begins with blanks. -/
  | indent
  /-- No word of an expression begins here. -/
  | bad
  deriving DecidableEq, Inhabited

/-- The signs, longer ones before their beginnings. -/
def signs : List String :=
  ["**=", "//=", ">>=", "<<=", "...", "!=", "%=", "&=", "**", "*=", "+=", "-=", "->", "//", "/=",
   ":=", "<<", "<=", "<>", "==", ">=", ">>", "@=", "^=", "|=", "%", "&", "(", ")", "*", "+", ",",
   "-", ".", "/", ":", ";", "<", "=", ">", "@", "[", "]", "^", "\x7b", "|", "\x7d", "~"]

/-- A character that the tokens of a name are made of before they are checked. -/
def isNameCharacter (c : Char) : Bool :=
  c.isAlphanum || c == '_' || 0x80 ≤ c.toNat

/-- A character that a name may begin with before it is checked. -/
def isNameStart (c : Char) : Bool :=
  c.isAlpha || c == '_' || 0x80 ≤ c.toNat

/-- The word of a row of name characters: a keyword, or an identifier in its composed form. -/
def nameToken (cs : List Char) : Except Fault Token :=
  let word := String.ofList cs
  if Naming.keywords.contains word then .ok (.keyword word)
  else if Text.isIdentifier cs then .ok (.name (Text.compat word))
  else .error .badExpression

/-! ## Numbers -/

/-- Words that may follow a number without a blank. -/
def afterNumber : List String := ["and", "else", "for", "if", "in", "is", "or", "not"]

/-- A number ends here: no name character follows, or a word that may follow a number. -/
def endsNumber (rest : List Char) : Bool :=
  match rest with
  | [] => true
  | c :: _ =>
    !isNameCharacter c || afterNumber.any fun w => w.toList.isPrefixOf rest

def digitsValue (base : Nat) (ds : List Char) : Nat :=
  Text.numeral base (ds.map fun c =>
    if c.isDigit then c.toNat - 48 else if c.isLower then c.toNat - 87 else c.toNat - 55)

/-- A number in base two, eight or sixteen, after its lead. -/
def basedNumber (base : Nat) (isDigit : Char → Bool) (cs : List Char) :
    Except Fault (Token × List Char) :=
  let ds := cs.takeWhile isDigit
  let rest := cs.dropWhile isDigit
  if ds.isEmpty || !endsNumber rest || rest.head?.any Char.isDigit then .error .badExpression
  else .ok (.int (digitsValue base ds), rest)

/-- An exponent, if digits follow its letter. -/
def exponent? (cs : List Char) : Option (Int × List Char) :=
  match cs with
  | e :: rest =>
    if e != 'e' && e != 'E' then none
    else
      let (negative, digits) :=
        match rest with
        | '-' :: digits => (true, digits)
        | '+' :: digits => (false, digits)
        | _ => (false, rest)
      let ds := digits.takeWhile Char.isDigit
      if ds.isEmpty then none
      else
        let n : Int := digitsValue 10 ds
        some (if negative then -n else n, digits.dropWhile Char.isDigit)
  | [] => none

/-- A number in base ten. Only zeros may follow a leading zero, unless a fraction, an exponent or
the imaginary unit comes after them. -/
def decimalNumber (cs : List Char) : Except Fault (Token × List Char) :=
  let whole := cs.takeWhile Char.isDigit
  let rest := cs.dropWhile Char.isDigit
  let (point, fraction, rest) :=
    match rest with
    | '.' :: rest => (true, rest.takeWhile Char.isDigit, rest.dropWhile Char.isDigit)
    | _ => (false, [], rest)
  let (exponent, rest) :=
    match exponent? rest with
    | some (n, rest) => (some n, rest)
    | none => (none, rest)
  let value := Double.ofDecimal false (digitsValue 10 (whole ++ fraction))
    (exponent.getD 0 - fraction.length)
  match rest with
  | 'j' :: rest => if endsNumber rest then .ok (.imaginary value, rest) else .error .badExpression
  | 'J' :: rest => if endsNumber rest then .ok (.imaginary value, rest) else .error .badExpression
  | _ =>
    if !endsNumber rest then .error .badExpression
    else if point || exponent.isSome then .ok (.float value, rest)
    else if whole.head? == some '0' && whole.any (· != '0') then .error .badExpression
    else if Fault.maxDigits < whole.length then .error .badExpression
    else .ok (.int (digitsValue 10 whole), rest)

/-- A hexadecimal digit. -/
def isHexDigit (c : Char) : Bool :=
  c.isDigit || ('a' ≤ c && c ≤ 'f') || ('A' ≤ c && c ≤ 'F')

/-- The number at the front of a text. -/
def number (cs : List Char) : Except Fault (Token × List Char) :=
  match cs with
  | '0' :: x :: rest =>
    if x == 'x' || x == 'X' then basedNumber 16 isHexDigit rest
    else if x == 'o' || x == 'O' then basedNumber 8 (fun c => '0' ≤ c && c ≤ '7') rest
    else if x == 'b' || x == 'B' then basedNumber 2 (fun c => c == '0' || c == '1') rest
    else decimalNumber cs
  | _ => decimalNumber cs

/-! ## String literals -/

/-- The character of hexadecimal digits, all of which must be there, with their number and one for
the letter before them. -/
def hexEscape (width : Nat) (cs : List Char) : Except Fault (List Char × Nat) :=
  let ds := cs.take width
  let n := digitsValue 16 ds
  if ds.length = width ∧ ds.all isHexDigit ∧ n < 0x110000 then .ok ([Char.ofNat n], width + 1)
  else .error .badExpression

/-- An octal digit. -/
def isOctalDigit (c : Char) : Bool := '0' ≤ c && c ≤ '7'

/-- What the escape after a backslash stands for, and how many characters it takes. An unknown
escape stands for itself. -/
def escape (cs : List Char) : Except Fault (List Char × Nat) :=
  match cs with
  | [] => .error .badExpression
  | c :: rest =>
    match c with
    | '\n' => .ok ([], 1)
    | '\\' => .ok (['\\'], 1)
    | '\'' => .ok (['\''], 1)
    | '"' => .ok (['"'], 1)
    | 'a' => .ok (['\x07'], 1)
    | 'b' => .ok (['\x08'], 1)
    | 'f' => .ok (['\x0c'], 1)
    | 'n' => .ok (['\n'], 1)
    | 'r' => .ok (['\r'], 1)
    | 't' => .ok (['\t'], 1)
    | 'v' => .ok (['\x0b'], 1)
    | 'x' => hexEscape 2 rest
    | 'u' => hexEscape 4 rest
    | 'U' => hexEscape 8 rest
    | 'N' => .error .badExpression
    | c =>
      if isOctalDigit c then
        let ds := (cs.take 3).takeWhile isOctalDigit
        .ok ([Char.ofNat (digitsValue 8 ds)], ds.length)
      else .ok (['\\', c], 1)

/-- The inside of a string literal up to the closing quotes, and what follows them. A literal in
single quotes ends with its line. -/
def literalBody (raw : Bool) (close : List Char) (acc : List Char) (cs : List Char) :
    Except Fault (String × List Char) :=
  if close.isPrefixOf cs then .ok (String.ofList acc.reverse, cs.drop close.length)
  else
    match cs with
    | [] => .error .badExpression
    | '\\' :: rest =>
      if raw then
        match rest with
        | [] => .error .badExpression
        | c :: rest => literalBody raw close (c :: '\\' :: acc) rest
      else
        match escape rest with
        | .ok (out, n) => literalBody raw close (out.reverse ++ acc) (rest.drop n)
        | .error e => .error e
    | c :: rest =>
      if c == '\n' && close.length == 1 then .error .badExpression
      else literalBody raw close (c :: acc) rest
termination_by cs.length
decreasing_by all_goals simp; try omega

/-- The string literal that begins with a quote. -/
def literal (raw : Bool) (cs : List Char) : Except Fault (Token × List Char) :=
  match cs with
  | q :: rest =>
    let close := if [q, q].isPrefixOf rest then [q, q, q] else [q]
    (literalBody raw close [] (cs.drop close.length)).map fun r => (.text r.1, r.2)
  | [] => .error .badExpression

/-! ## Splitting a text -/

/-- The word at the front of a text that does not begin with a blank, a comment or a line end. -/
def word (cs : List Char) : Except Fault (Token × List Char) :=
  match cs with
  | [] => .error .badExpression
  | c :: rest =>
    if c == '"' || c == '\'' then literal false cs
    else if (c == 'r' || c == 'R') && rest.head?.any (fun d => d == '"' || d == '\'') then
      literal true rest
    else if isNameStart c then do
      let token ← nameToken (cs.takeWhile isNameCharacter)
      .ok (token, cs.dropWhile isNameCharacter)
    else if c.isDigit || (c == '.' && rest.head?.any Char.isDigit) then number cs
    else
      match signs.find? fun s => s.toList.isPrefixOf cs with
      | some s => .ok (.sign s, cs.drop s.length)
      | none => .error .badExpression

/-- The closing bracket of an opening one. -/
def closing? : String → Option String
  | "(" => some ")"
  | "[" => some "]"
  | "\x7b" => some "\x7d"
  | _ => none

/-- How many brackets may be open at a time. -/
def maxBrackets : Nat := 200

/-- Keeps account of the brackets that are open; a closing bracket must close the last one. -/
def track (stack : List String) : Token → Option (List String)
  | .sign s =>
    match closing? s with
    | some close => if stack.length < maxBrackets then some (close :: stack) else none
    | none =>
      if s == ")" || s == "]" || s == "\x7d" then
        match stack with
        | close :: stack => if close == s then some stack else none
        | [] => none
      else some stack
  | _ => some stack

/-- A blank within a line. -/
def isGap (c : Char) : Bool := c == ' ' || c == '\t' || c == '\x0c'

/-- The blanks at the beginning of a line indent it; a form feed takes back those before it. -/
def indents (gap : List Char) : Bool :=
  gap.getLast?.any (· != '\x0c')

/-- The words of a text. `fresh` says that the line has no word yet, `stack` holds the brackets
to close, and `fuel` bounds the rounds, each of which uses up a character. -/
def tokensFrom (stack : List String) (fresh : Bool) (acc : List Token) :
    Nat → List Char → List Token
  | 0, _ => (Token.bad :: acc).reverse
  | fuel + 1, cs =>
    match cs with
    | [] =>
      if !stack.isEmpty then (Token.bad :: acc).reverse
      else (if fresh then acc else .lineEnd :: acc).reverse
    | '#' :: rest => tokensFrom stack fresh acc fuel (rest.dropWhile (· != '\n'))
    | '\n' :: rest =>
      if fresh || !stack.isEmpty then tokensFrom stack fresh acc fuel rest
      else tokensFrom stack true (.lineEnd :: acc) fuel rest
    | '\\' :: '\n' :: rest =>
      if rest.isEmpty then (Token.bad :: acc).reverse else tokensFrom stack fresh acc fuel rest
    | c :: rest =>
      if isGap c then
        let after := rest.dropWhile isGap
        let blank := match after with
          | [] => true
          | d :: _ => d == '#' || d == '\n'
        if fresh && !blank && indents (c :: rest.takeWhile isGap) then
          tokensFrom stack false (.indent :: acc) fuel after
        else tokensFrom stack fresh acc fuel after
      else
        match word cs with
        | .error _ => (Token.bad :: acc).reverse
        | .ok (token, rest) =>
          match track stack token with
          | some stack => tokensFrom stack false (token :: acc) fuel rest
          | none => (Token.bad :: acc).reverse

/-- The words of an expression, with a line end after each line that has any. -/
def tokens (cs : List Char) : List Token :=
  tokensFrom [] true [] (cs.length + 1) cs

end SchemaModels.Source.Hint
