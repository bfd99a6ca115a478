import SchemaModels.Source.Expr
import SchemaModels.Source.Hint.Token

/-!
Reading a type hint: a text is taken as an expression of the generated source. Names come out in
their composed form, and what is no expression is refused.

Every rule of the grammar is a function from words to an expression and the words after it. The
rules follow the binding strengths of `Source.Expr`, from ternary expressions down to atoms.
-/

namespace SchemaModels.Source.Hint

/-- An expression and the words that follow it. -/
abbrev Parsed := Option (Expr × List Token)

/-- The operator that a word is, among those of one strength. -/
def operator? (ops : List BinaryOp) : Token → Option BinaryOp
  | .sign s => ops.find? (·.sign == s)
  | _ => none

/-- The operators of each strength, the weakest first. -/
def levels : List (List BinaryOp) :=
  [[.bitOr], [.bitXor], [.bitAnd], [.shiftLeft, .shiftRight], [.add, .sub],
   [.mul, .div, .floorDiv, .mod, .matMul]]

/-- The comparison at the front, and the words after it. -/
def comparison? : List Token → Option (Comparison × List Token)
  | .sign "==" :: rest => some (.eq, rest)
  | .sign "!=" :: rest => some (.notEq, rest)
  | .sign "<" :: rest => some (.lt, rest)
  | .sign "<=" :: rest => some (.le, rest)
  | .sign ">" :: rest => some (.gt, rest)
  | .sign ">=" :: rest => some (.ge, rest)
  | .keyword "is" :: .keyword "not" :: rest => some (.isNot, rest)
  | .keyword "is" :: rest => some (.is, rest)
  | .keyword "in" :: rest => some (.isIn, rest)
  | .keyword "not" :: .keyword "in" :: rest => some (.notIn, rest)
  | _ => none

/-- String literals in a row are one. -/
def joinTexts (s : String) : List Token → String × List Token
  | .text t :: rest => joinTexts (s ++ t) rest
  | rest => (s, rest)

/-- The sign in front of a factor. -/
def signOf? : Token → Option UnaryOp
  | .sign "+" => some .plus
  | .sign "-" => some .minus
  | .sign "~" => some .invert
  | _ => none

/-- A call's arguments: those by position, those by name, and whether an unpacked mapping has been
among them. -/
structure Arguments where
  positional : List Expr := []
  keywords : List (Option String × Expr) := []
  unpacked : Bool := false

/-- The expression of items in brackets: a single one without a comma is itself. -/
def grouped (items : List Expr) (comma : Bool) : Option Expr :=
  match items, comma with
  | [.starred _], false => none
  | [e], false => some e
  | es, _ => some (.tuple es)

mutual

/-- A ternary expression or anything stronger. `fuel` bounds the depth of the rules. -/
def expression : Nat → List Token → Parsed
  | 0, _ => none
  | fuel + 1, ts => do
    let (yes, ts) ← junction false fuel ts
    match ts with
    | .keyword "if" :: ts => do
      let (test, ts) ← junction false fuel ts
      match ts with
      | .keyword "else" :: ts => do
        let (no, ts) ← expression fuel ts
        some (.ternary test yes no, ts)
      | _ => none
    | ts => some (yes, ts)

/-- Operands joined by `or`, or by `and`. -/
def junction (conjunctive : Bool) : Nat → List Token → Parsed
  | 0, _ => none
  | fuel + 1, ts => do
    let (e, ts) ← if conjunctive then inversion fuel ts else junction true fuel ts
    let (es, ts) ← operands conjunctive fuel ts
    some (if es.isEmpty then e else .junction conjunctive (e :: es), ts)

def operands (conjunctive : Bool) : Nat → List Token → Option (List Expr × List Token)
  | 0, _ => none
  | fuel + 1, ts =>
    match ts with
    | .keyword w :: rest =>
      if w == (if conjunctive then "and" else "or") then do
        let (e, ts) ← if conjunctive then inversion fuel rest else junction true fuel rest
        let (es, ts) ← operands conjunctive fuel ts
        some (e :: es, ts)
      else some ([], ts)
    | ts => some ([], ts)

/-- A comparison, or the negation of one. -/
def inversion : Nat → List Token → Parsed
  | 0, _ => none
  | fuel + 1, ts =>
    match ts with
    | .keyword "not" :: ts => do
      let (e, ts) ← inversion fuel ts
      some (.unary .not e, ts)
    | ts => do
      let (e, ts) ← chain levels fuel ts
      let (rest, ts) ← comparisons fuel ts
      some (if rest.isEmpty then e else .compare e rest, ts)

def comparisons : Nat → List Token → Option (List (Comparison × Expr) × List Token)
  | 0, _ => none
  | fuel + 1, ts =>
    match comparison? ts with
    | none => some ([], ts)
    | some (op, ts) => do
      let (e, ts) ← chain levels fuel ts
      let (rest, ts) ← comparisons fuel ts
      some ((op, e) :: rest, ts)

/-- Operands with operators of the given strengths between them. -/
def chain (levels : List (List BinaryOp)) : Nat → List Token → Parsed
  | 0, _ => none
  | fuel + 1, ts =>
    match levels with
    | [] => factor fuel ts
    | ops :: rest => do
      let (e, ts) ← chain rest fuel ts
      chainFrom ops rest e fuel ts

/-- Further operands of one strength, grouped to the left. -/
def chainFrom (ops : List BinaryOp) (rest : List (List BinaryOp)) (left : Expr) :
    Nat → List Token → Parsed
  | 0, _ => none
  | fuel + 1, ts =>
    match ts.head?.bind (operator? ops) with
    | none => some (left, ts)
    | some op => do
      let (right, ts) ← chain rest fuel (ts.drop 1)
      chainFrom ops rest (.binary op left right) fuel ts

/-- A power, or a factor with a sign. -/
def factor : Nat → List Token → Parsed
  | 0, _ => none
  | fuel + 1, ts =>
    match ts.head?.bind signOf? with
    | some op => do
      let (e, ts) ← factor fuel (ts.drop 1)
      some (.unary op e, ts)
    | none => do
      let (e, ts) ← atom fuel ts
      let (e, ts) ← trailers e fuel ts
      match ts with
      | .sign "**" :: ts => do
        let (right, ts) ← factor fuel ts
        some (.binary .pow e right, ts)
      | ts => some (e, ts)

/-- Attributes, calls and subscripts after an expression. -/
def trailers (e : Expr) : Nat → List Token → Parsed
  | 0, _ => none
  | fuel + 1, ts =>
    match ts with
    | .sign "." :: .name attr :: ts => trailers (.attribute e attr) fuel ts
    | .sign "(" :: ts => do
      let (args, ts) ← arguments {} fuel ts
      trailers (.call e args.positional args.keywords) fuel ts
    | .sign "[" :: ts => do
      let (index, ts) ← subscript fuel ts
      trailers (.subscript e index) fuel ts
    | ts => some (e, ts)

/-- The arguments of a call up to its closing bracket. -/
def arguments (acc : Arguments) : Nat → List Token → Option (Arguments × List Token)
  | 0, _ => none
  | fuel + 1, ts =>
    match ts with
    | .sign ")" :: ts => some (acc, ts)
    | _ => do
      let (acc, ts) ←
        match ts with
        | .sign "*" :: ts => do
          let (e, ts) ← expression fuel ts
          if acc.unpacked then none
          else some ({ acc with positional := acc.positional ++ [.starred e] }, ts)
        | .sign "**" :: ts => do
          let (e, ts) ← expression fuel ts
          some ({ acc with keywords := acc.keywords ++ [(none, e)], unpacked := true }, ts)
        | .name k :: .sign "=" :: ts => do
          let (e, ts) ← expression fuel ts
          some ({ acc with keywords := acc.keywords ++ [(some k, e)] }, ts)
        | ts => do
          let (e, ts) ← namedExpression fuel ts
          if acc.keywords.isEmpty then
            some ({ acc with positional := acc.positional ++ [e] }, ts)
          else none
      match ts with
      | .sign ")" :: ts => some (acc, ts)
      | .sign "," :: ts => arguments acc fuel ts
      | _ => none

/-- The index of a subscript up to its closing bracket. -/
def subscript : Nat → List Token → Parsed
  | 0, _ => none
  | fuel + 1, ts => do
    let (parts, comma, ts) ← subscriptParts fuel ts
    match parts, comma with
    | [.starred e], false => some (.tuple [.starred e], ts)
    | [e], false => some (e, ts)
    | es, _ => some (.tuple es, ts)

/-- The parts of an index, and whether a comma comes after any. -/
def subscriptParts : Nat → List Token → Option (List Expr × Bool × List Token)
  | 0, _ => none
  | fuel + 1, ts => do
    let (e, ts) ←
      match ts with
      | .sign "*" :: ts => do
        let (e, ts) ← expression fuel ts
        some (Expr.starred e, ts)
      | ts => slice fuel ts
    match ts with
    | .sign "]" :: ts => some ([e], false, ts)
    | .sign "," :: .sign "]" :: ts => some ([e], true, ts)
    | .sign "," :: ts => do
      let (es, _, ts) ← subscriptParts fuel ts
      some (e :: es, true, ts)
    | _ => none

/-- A part of an index: an expression or a slice. -/
def slice : Nat → List Token → Parsed
  | 0, _ => none
  | fuel + 1, ts =>
    match ts with
    | .sign ":" :: ts => sliceFrom none fuel ts
    | .name _ :: .sign ":=" :: _ => namedExpression fuel ts
    | _ => do
      let (e, ts) ← expression fuel ts
      match ts with
      | .sign ":" :: ts => sliceFrom (some e) fuel ts
      | ts => some (e, ts)

/-- The rest of a slice after its first colon. -/
def sliceFrom (lower : Option Expr) : Nat → List Token → Parsed
  | 0, _ => none
  | fuel + 1, ts => do
    let (upper, ts) ← bound fuel ts
    match ts with
    | .sign ":" :: ts => do
      let (step, ts) ← bound fuel ts
      some (.slice lower upper step, ts)
    | ts => some (.slice lower upper none, ts)

/-- A bound of a slice, which may be left out. -/
def bound : Nat → List Token → Option (Option Expr × List Token)
  | 0, _ => none
  | fuel + 1, ts =>
    match ts with
    | .sign ":" :: _ | .sign "," :: _ | .sign "]" :: _ => some (none, ts)
    | _ => (expression fuel ts).map fun (e, ts) => (some e, ts)

/-- An expression that may bind a name to its value. -/
def namedExpression : Nat → List Token → Parsed
  | 0, _ => none
  | fuel + 1, ts =>
    match ts with
    | .name id :: .sign ":=" :: ts => do
      let (e, ts) ← expression fuel ts
      some (.named id e, ts)
    | ts => expression fuel ts

/-- Items up to a closing bracket, and whether a comma comes after any. -/
def items (close : String) : Nat → List Token → Option (List Expr × Bool × List Token)
  | 0, _ => none
  | fuel + 1, ts =>
    match ts with
    | .sign s :: rest =>
      if s == close then some ([], false, rest)
      else if s == "*" then do
        let (e, ts) ← chain levels fuel rest
        itemsAfter (.starred e) close fuel ts
      else do
        let (e, ts) ← namedExpression fuel ts
        itemsAfter e close fuel ts
    | ts => do
      let (e, ts) ← namedExpression fuel ts
      itemsAfter e close fuel ts

def itemsAfter (e : Expr) (close : String) :
    Nat → List Token → Option (List Expr × Bool × List Token)
  | 0, _ => none
  | fuel + 1, ts =>
    match ts with
    | .sign "," :: ts => do
      let (es, _, ts) ← items close fuel ts
      some (e :: es, true, ts)
    | .sign s :: ts => if s == close then some ([e], false, ts) else none
    | _ => none

/-- The entries of a dictionary up to its closing brace. -/
def entries : Nat → List Token → Option (List (Option Expr × Expr) × List Token)
  | 0, _ => none
  | fuel + 1, ts =>
    match ts with
    | .sign "\x7d" :: ts => some ([], ts)
    | _ => do
      let (entry, ts) ←
        match ts with
        | .sign "**" :: ts => do
          let (e, ts) ← chain levels fuel ts
          some ((none, e), ts)
        | ts => do
          let (k, ts) ← expression fuel ts
          match ts with
          | .sign ":" :: ts => do
            let (e, ts) ← expression fuel ts
            some ((some k, e), ts)
          | _ => none
      match ts with
      | .sign "\x7d" :: ts => some ([entry], ts)
      | .sign "," :: ts => do
        let (rest, ts) ← entries fuel ts
        some (entry :: rest, ts)
      | _ => none

/-- A name, a literal, or an expression in brackets. -/
def atom : Nat → List Token → Parsed
  | 0, _ => none
  | fuel + 1, ts =>
    match ts with
    | .name id :: ts => some (.name id, ts)
    | .keyword "True" :: ts => some (.bool true, ts)
    | .keyword "False" :: ts => some (.bool false, ts)
    | .keyword "None" :: ts => some (.none, ts)
    | .int n :: ts => some (.int n, ts)
    | .float x :: ts => some (.float x, ts)
    | .imaginary x :: ts => some (.imaginary x, ts)
    | .text s :: ts =>
      let (s, ts) := joinTexts s ts
      some (.text s, ts)
    | .sign "..." :: ts => some (.ellipsis, ts)
    | .sign "(" :: ts => do
      let (es, comma, ts) ← items ")" fuel ts
      some (← grouped es comma, ts)
    | .sign "[" :: ts => do
      let (es, _, ts) ← items "]" fuel ts
      some (.list es, ts)
    | .sign "\x7b" :: ts =>
      match entries fuel ts with
      | some (es, ts) => some (.dict es, ts)
      | none => do
        let (es, _, ts) ← items "\x7d" fuel ts
        if es.isEmpty then none else some (.set es, ts)
    | _ => none

end

/-- Expressions with commas between them; more than one, or one with a comma, are a tuple. -/
def expressions (fuel : Nat) : Nat → List Token → Option (List Expr × Bool × List Token)
  | 0, _ => none
  | rounds + 1, ts => do
    let (e, ts) ← expression fuel ts
    match ts with
    | .sign "," :: ts =>
      match expressions fuel rounds ts with
      | some (es, _, ts) => some (e :: es, true, ts)
      | none => some ([e], true, ts)
    | ts => some ([e], false, ts)

/-- The words must be one expression and line ends after it. -/
def parseTokens (ts : List Token) : Except Fault Expr :=
  match expressions (20 * (ts.length + 1)) (ts.length + 1) ts with
  | none => .error (if ts.head? == some .indent then .badIndentation else .badExpression)
  | some (es, comma, rest) =>
    match rest.dropWhile (· == .lineEnd) with
    | [] => .ok (match es, comma with
      | [e], false => e
      | es, _ => .tuple es)
    | t :: _ =>
      .error (if t == .indent && rest.head? == some .lineEnd then .badIndentation
        else .badExpression)

/-- Line ends of either kind become line feeds. -/
def unifyLineEnds : List Char → List Char
  | '\r' :: '\n' :: cs => '\n' :: unifyLineEnds cs
  | '\r' :: cs => '\n' :: unifyLineEnds cs
  | c :: cs => c :: unifyLineEnds cs
  | [] => []

/-- The expression that a text is. No source holds a NUL. -/
def parse (s : String) : Except Fault Expr :=
  if s.toList.contains (Char.ofNat 0) then .error .badExpression
  else parseTokens (tokens (unifyLineEnds s.toList))

end SchemaModels.Source.Hint
